import Mathlib.Logic.Function.Basic
import BobaOS.Library.ByteStore
import BobaOS.Library.Copies
import BobaOS.Library.Programs

/-!
# Buffers of a fixed size

A buffer is a store of which only the first places may be touched: an access to any other
place is a fault. A block that comes from elsewhere is put into the buffer as a whole. A
copy inside the buffer runs upwards; moving a range down, it is the copy of what the range
held before, however the two ranges overlap.
-/

namespace BoundedBuffers

open ByteStore Copies Programs

variable {β ε : Type} (capacity : Nat) (outside : ε)

def load (index : Nat) : Program (Nat → β) ε β := do
  if index < capacity then return (← get) index else throw outside

def store (index : Nat) (value : β) : Program (Nat → β) ε Unit := do
  if index < capacity then modify fun buffer => Function.update buffer index value
  else throw outside

/-- Store the values of a block, from its i-th on. -/
def put (dest : Nat) (values : Nat → β) : Nat → Nat → Program (Nat → β) ε Unit
  | 0, _ => return
  | left + 1, i => do
    store capacity outside (dest + i) (values i)
    put dest values left (i + 1)

/-- Copy upwards, from the i-th place of the range on. -/
def copyUp (dest source : Nat) : Nat → Nat → Program (Nat → β) ε Unit
  | 0, _ => return
  | left + 1, i => do
    let value ← load capacity outside (source + i)
    store capacity outside (dest + i) value
    copyUp dest source left (i + 1)

variable {capacity : Nat} {outside : ε} {buffer : Nat → β} {fault : ε → Prop}

@[simp] theorem meets_load {index : Nat} {post : β → (Nat → β) → Prop} :
    Meets (load capacity outside index) buffer fault post ↔
      (index < capacity → post (buffer index) buffer) ∧ (capacity ≤ index → fault outside) := by
  simp only [load, meets_ite, meets_bind, meets_get, meets_pure, meets_throw, Nat.not_lt]

@[simp] theorem meets_store {index : Nat} {value : β} {post : Unit → (Nat → β) → Prop} :
    Meets (store capacity outside index value) buffer fault post ↔
      (index < capacity → post ⟨⟩ (Function.update buffer index value)) ∧
        (capacity ≤ index → fault outside) := by
  simp only [store, meets_ite, meets_modify, meets_throw, Nat.not_lt]

/-- The first value of a range stored before the others is the range stored. -/
theorem overwrite_succ (buffer : Nat → β) (dest left : Nat) (values : Nat → β) :
    overwrite (Function.update buffer dest (values 0)) (dest + 1) left (slice values 1) =
      overwrite buffer dest (left + 1) values := by
  have first : Function.update buffer dest (values 0) = overwrite buffer dest 1 values := by
    funext tested
    by_cases here : tested = dest
    · rw [here, Function.update_self, overwrite_inside _ _ _ _ _ (by omega), Nat.sub_self]
    · rw [Function.update_of_ne here, overwrite_outside _ _ _ _ _ (by omega)]
  rw [first, overwrite_append, Nat.add_comm 1 left]

/-- A block fits into the buffer, or putting it there is a fault. -/
theorem put_meets (dest : Nat) (values : Nat → β) (left : Nat) :
    ∀ (i : Nat) (buffer : Nat → β),
      Meets (put capacity outside dest values left i) buffer
        (fun problem => problem = outside ∧ capacity < dest + i + left)
        fun _ after => (left = 0 ∨ dest + i + left ≤ capacity) ∧
          after = overwrite buffer (dest + i) left (slice values i) := by
  induction left with
  | zero =>
    intro i buffer
    rw [put]
    exact .pure ⟨.inl rfl, (overwrite_empty _ _ _).symm⟩
  | succ left ih =>
    intro i buffer
    rw [put, meets_bind, meets_store]
    constructor
    · intro inside
      apply ((ih (i + 1) _).mono_fault ?_).mono ?_
      · rintro problem ⟨same, beyond⟩
        exact ⟨same, by omega⟩
      · rintro _ after ⟨fits, rfl⟩
        refine ⟨.inr (by omega), ?_⟩
        have stored := overwrite_succ buffer (dest + i) left (slice values i)
        rwa [slice_apply, Nat.add_zero, slice_slice, Nat.add_assoc] at stored
    · intro beyond
      exact ⟨rfl, by omega⟩

/-- Inside the buffer a copy is that of one place after the other. -/
theorem copyUp_copies {dest source : Nat} (left : Nat) :
    ∀ (i : Nat) (buffer : Nat → β), dest + i + left ≤ capacity → source + i + left ≤ capacity →
      Meets (copyUp capacity outside dest source left i) buffer fault fun _ after =>
        after = copy (dest + ·) (source + ·) left i buffer := by
  induction left with
  | zero => exact fun _ _ _ _ => .pure rfl
  | succ left ih =>
    intro i buffer dest_inside source_inside
    rw [copyUp, meets_bind, meets_load]
    refine ⟨fun _ => ?_, fun beyond => absurd beyond (by omega)⟩
    rw [meets_bind, meets_store]
    refine ⟨fun _ => ?_, fun beyond => absurd beyond (by omega)⟩
    exact ih (i + 1) _ (by omega) (by omega)

/-- A range inside the buffer is copied down as it was, also onto a part of itself. -/
theorem copyUp_meets {dest source : Nat} (down : dest ≤ source) (left : Nat) :
    ∀ (i : Nat) (buffer : Nat → β), source + i + left ≤ capacity →
      Meets (copyUp capacity outside dest source left i) buffer fault fun _ after =>
        after = overwrite buffer (dest + i) left (slice buffer (source + i)) := by
  intro i buffer inside
  refine (copyUp_copies left i buffer (by omega) inside).mono ?_
  rintro _ after rfl
  rw [copy_down down]
  funext place
  by_cases moved : dest + i ≤ place ∧ place < dest + i + left
  · rw [if_pos moved, overwrite_inside _ _ _ _ _ moved, slice_apply]
    congr 1
    omega
  · rw [if_neg moved, overwrite_outside _ _ _ _ _ (by omega)]

end BoundedBuffers
