import Mathlib.Data.List.Basic
import Mathlib.Logic.Function.Basic

/-!
# The last of several writes

Writes go to keys, and a key has what was written to it last. A run of writes need not be
followed: the last write of a key, if there is one, decides.
-/

namespace LastWrites

universe u v w
variable {α : Type u} {κ : Type v} {β : Type w} [DecidableEq κ] (key : α → κ) (value : α → β)

/-- The last write to a key. -/
def last (writes : List α) (tested : κ) : Option α :=
  (writes.filter fun write => key write = tested).getLast?

variable {key value}

/-- What a key has when a first write is followed by others. -/
theorem last_cons (write : α) (rest : List α) (tested : κ) (before : β) :
    ((last key (write :: rest) tested).map value).getD before =
      ((last key rest tested).map value).getD
        (if tested = key write then value write else before) := by
  rw [last, last, List.filter_cons]
  by_cases here : tested = key write
  · rw [if_pos (by simp [here]), if_pos here, List.getLast?_cons, Option.map_some, Option.getD_some]
    cases (rest.filter fun write => key write = tested).getLast? <;> rfl
  · rw [if_neg (by simpa using Ne.symm here), if_neg here]

/-- A function that is updated by each write. -/
theorem foldl_update (writes : List α) (tested : κ) : ∀ before : κ → β,
    writes.foldl (fun values write => Function.update values (key write) (value write)) before tested =
      ((last key writes tested).map value).getD (before tested) := by
  induction writes with
  | nil => exact fun _ => rfl
  | cons write rest ih =>
    intro before
    rw [List.foldl_cons, ih, last_cons, Function.update_apply]

/-- A key has been written to if there is a write with it. -/
theorem last_eq_none_iff {writes : List α} {tested : κ} :
    last key writes tested = none ↔ ∀ write ∈ writes, key write ≠ tested := by
  rw [last, List.getLast?_eq_none_iff, List.filter_eq_nil_iff]
  simp

end LastWrites
