import Mathlib.Data.List.Basic

/-!
# Loops that may not return

A loop over a list runs a body that returns a state or does not return. Part of the state
is a log, to which the body adds entries of its own element only. A loop all of whose
bodies return adds the entries of its elements in their order, and a loop with a body that
never returns does not return.
-/

namespace LoggedLoops

variable {σ α κ : Type} {log : σ → List κ}

/-- The log has grown by some of the entries, each at most once and in their order. -/
def Extends (log : σ → List κ) (before : σ) (entries : List κ) (after : σ) : Prop :=
  ∃ new, log after = log before ++ new ∧ new.Sublist entries

theorem Extends.refl (state : σ) (entries : List κ) : Extends log state entries state :=
  ⟨[], by simp, by simp⟩

theorem Extends.append {before middle after : σ} {left right : List κ}
    (first : Extends log before left middle) (second : Extends log middle right after) :
    Extends log before (left ++ right) after := by
  obtain ⟨new, grown, few⟩ := first
  obtain ⟨newer, longer, fewer⟩ := second
  exact ⟨new ++ newer, by simp [longer, grown], few.append fewer⟩

/-- A log that was empty has no entry twice if there is none twice to be added. -/
theorem Extends.nodup {before after : σ} {entries : List κ} (grows : Extends log before entries after)
    (empty : log before = []) (distinct : entries.Nodup) : (log after).Nodup := by
  obtain ⟨new, grown, few⟩ := grows
  rw [grown, empty, List.nil_append]
  exact distinct.sublist few

variable {step : σ → α → Option σ} {entries : α → List κ}

/-- A loop does not return if the body of one of its elements does not. -/
theorem foldlM_stuck {items : List α} {item : α} (member : item ∈ items)
    (stuck : ∀ state, step state item = none) (state : σ) : items.foldlM step state = none := by
  induction items generalizing state with
  | nil => simp at member
  | cons first rest ih =>
    rw [List.foldlM_cons]
    rcases List.mem_cons.mp member with rfl | later
    · simp [stuck]
    · cases step state first with
      | none => rfl
      | some after => exact ih later after

/-- A loop returns if all of its bodies do, and adds what they add. -/
theorem foldlM_extends {items : List α}
    (each : ∀ item ∈ items, ∀ state, ∃ after,
      step state item = some after ∧ Extends log state (entries item) after) (state : σ) :
    ∃ after, items.foldlM step state = some after ∧
      Extends log state (items.flatMap entries) after := by
  induction items generalizing state with
  | nil => exact ⟨state, rfl, .refl state _⟩
  | cons first rest ih =>
    obtain ⟨middle, ran, grown⟩ := each first List.mem_cons_self state
    obtain ⟨after, returned, longer⟩ :=
      ih (fun item member => each item (List.mem_cons_of_mem _ member)) middle
    refine ⟨after, ?_, ?_⟩
    · simp [ran, returned]
    · rw [List.flatMap_cons]
      exact grown.append longer

end LoggedLoops
