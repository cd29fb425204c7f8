import Mathlib.Algebra.Group.Nat.Defs
import Mathlib.Data.Nat.Basic

/-!
# Flat stores

A store assigns a value to every address. Reading a range is a function of its
offset; overwriting a range replaces exactly the addresses of the range. The
frame law and the law for a range read after an overwrite are all that users of
a store need: no list is built and no length is carried.
-/

namespace ByteStore

universe u
variable {β : Type u}

/-- Replace the addresses of the range of the given length by the supplied values. -/
def overwrite (store : Nat → β) (address length : Nat) (values : Nat → β) : Nat → β :=
  fun tested => if address ≤ tested ∧ tested < address + length then values (tested - address)
    else store tested

/-- The values from an address on, by their offset. -/
def slice (store : Nat → β) (address : Nat) : Nat → β := fun offset => store (address + offset)

@[simp] theorem slice_apply (store : Nat → β) (address offset : Nat) :
    slice store address offset = store (address + offset) := rfl

@[simp] theorem slice_zero (store : Nat → β) : slice store 0 = store :=
  funext fun offset => congrArg store (Nat.zero_add offset)

theorem slice_slice (store : Nat → β) (first second : Nat) :
    slice (slice store first) second = slice store (first + second) :=
  funext fun offset => congrArg store (Nat.add_assoc first second offset).symm

/-- Inside the range an overwrite shows the supplied values. -/
theorem overwrite_inside (store : Nat → β) (address length : Nat) (values : Nat → β)
    (tested : Nat) (inside : address ≤ tested ∧ tested < address + length) :
    overwrite store address length values tested = values (tested - address) := if_pos inside

/-- Outside the range an overwrite changes nothing. -/
theorem overwrite_outside (store : Nat → β) (address length : Nat) (values : Nat → β)
    (tested : Nat) (outside : tested < address ∨ address + length ≤ tested) :
    overwrite store address length values tested = store tested := by
  apply if_neg
  omega

/-- Reading an overwritten range back gives the supplied values. -/
theorem slice_overwrite (store : Nat → β) (address length : Nat) (values : Nat → β)
    (offset : Nat) (inside : offset < length) :
    slice (overwrite store address length values) address offset = values offset := by
  rw [slice_apply, overwrite_inside _ _ _ _ _ (by omega), Nat.add_sub_cancel_left]

/-- An empty overwrite is no change. -/
@[simp] theorem overwrite_empty (store : Nat → β) (address : Nat) (values : Nat → β) :
    overwrite store address 0 values = store := by
  funext tested
  exact overwrite_outside _ _ _ _ _ (by omega)

/-- Two overwrites whose values agree on the range give the same store. -/
theorem overwrite_congr (store : Nat → β) (address length : Nat) (left right : Nat → β)
    (same : ∀ offset < length, left offset = right offset) :
    overwrite store address length left = overwrite store address length right := by
  funext tested
  by_cases inside : address ≤ tested ∧ tested < address + length
  · rw [overwrite_inside _ _ _ _ _ inside, overwrite_inside _ _ _ _ _ inside, same _ (by omega)]
  · rw [overwrite_outside _ _ _ _ _ (by omega), overwrite_outside _ _ _ _ _ (by omega)]

/-- Overwriting a range in two parts is overwriting it at once. -/
theorem overwrite_append (store : Nat → β) (address first second : Nat) (values : Nat → β) :
    overwrite (overwrite store address first values) (address + first) second
      (slice values first) = overwrite store address (first + second) values := by
  funext tested
  by_cases late : address + first ≤ tested ∧ tested < address + first + second
  · rw [overwrite_inside _ _ _ _ _ late, overwrite_inside _ _ _ _ _ (by omega), slice_apply]
    congr 1
    omega
  · rw [overwrite_outside _ _ _ _ _ (by omega)]
    by_cases early : address ≤ tested ∧ tested < address + first
    · rw [overwrite_inside _ _ _ _ _ early, overwrite_inside _ _ _ _ _ (by omega)]
    · rw [overwrite_outside _ _ _ _ _ (by omega), overwrite_outside _ _ _ _ _ (by omega)]

end ByteStore
