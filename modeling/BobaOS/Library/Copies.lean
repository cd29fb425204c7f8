import Mathlib.Logic.Function.Basic

/-!
# Copies of one place after the other

A copy goes through two sequences of places: it reads a place of the one and writes the
place of the other, one index after the other. The sequences may have places in common. A
source that no earlier step writes is still as it was when it is read, and its copy stays if
no later step writes over it. The places may be of any kind, such as words that wrap.
-/

namespace Copies

universe u v
variable {α : Type u} {β : Type v} [DecidableEq α]

/-- Copy from the i-th place on. -/
def copy (dest source : Nat → α) : Nat → Nat → (α → β) → α → β
  | 0, _, memory => memory
  | left + 1, i, memory =>
    copy dest source left (i + 1) (Function.update memory (dest i) (memory (source i)))

variable {dest source : Nat → α}

/-- Other places than those of the destination are kept. -/
theorem copy_outside (left : Nat) : ∀ (i : Nat) (memory : α → β) {place : α},
    (∀ j, i ≤ j → j < i + left → place ≠ dest j) →
    copy dest source left i memory place = memory place := by
  induction left with
  | zero => exact fun _ _ _ _ => rfl
  | succ left ih =>
    intro i memory place outside
    have here := outside i (Nat.le_refl i) (by omega)
    rw [copy, ih (i + 1) _ fun j from_i below => outside j (by omega) (by omega),
      Function.update_of_ne here]

/-- A place of the destination gets what its source held before, if the source is not
written before it is read and the copy is not written over. -/
theorem copy_inside (left : Nat) : ∀ (i : Nat) (memory : α → β) {k : Nat}, i ≤ k → k < i + left →
    (∀ j, i ≤ j → j < k → source k ≠ dest j) →
    (∀ j, k < j → j < i + left → dest k ≠ dest j) →
    copy dest source left i memory (dest k) = memory (source k) := by
  induction left with
  | zero =>
    intro i memory k from_i below
    omega
  | succ left ih =>
    intro i memory k from_i below unwritten once
    rw [copy]
    rcases Nat.lt_or_eq_of_le from_i with later | rfl
    · rw [ih (i + 1) _ later (by omega) (fun j _ before => unwritten j (by omega) before)
        fun j behind last => once j behind (by omega), Function.update_of_ne (unwritten i (by omega) later)]
    · rw [copy_outside left (i + 1) _ fun j from_next last => once j from_next (by omega),
        Function.update_self]

/-- Among numbers, a copy to places in front of the source moves what was there. -/
theorem copy_down {dest source : Nat} (down : dest ≤ source) (left i : Nat) (memory : Nat → β) :
    copy (dest + ·) (source + ·) left i memory = fun place =>
      if dest + i ≤ place ∧ place < dest + i + left then memory (place - dest + source)
      else memory place := by
  funext place
  by_cases inside : dest + i ≤ place ∧ place < dest + i + left
  · obtain ⟨k, rfl⟩ := Nat.exists_eq_add_of_le (show dest ≤ place by omega)
    rw [if_pos inside, Nat.add_sub_cancel_left, Nat.add_comm k]
    exact copy_inside left i memory (show i ≤ k by omega) (by omega) (fun j _ before => by omega)
      fun j behind _ => by omega
  · rw [if_neg inside]
    exact copy_outside left i memory fun j from_i below => by omega

end Copies
