import Mathlib.Data.List.Basic

/-!
# Doubly linked lists in a memory

Each cell names the next and the previous one. A segment is a list of cells that
are linked both ways, from a cell before it to a cell behind it; a whole list is
a segment between nothing and nothing. Segments are split and joined where their
cells are, so an operation at one end of a list needs only the cells there.
-/

namespace LinkedLists

variable {α : Type}

/-- The cells are linked one to the other, the first back to `before` and the last
on to `behind`. -/
def Segment (next prev : α → Option α) : Option α → List α → Option α → Prop
  | _, [], _ => True
  | before, cell :: rest, behind =>
    prev cell = before ∧ next cell = rest.head?.or behind ∧
      Segment next prev (some cell) rest behind

variable {next prev next' prev' : α → Option α}

theorem segment_cons {before behind : Option α} {cell : α} {rest : List α} :
    Segment next prev before (cell :: rest) behind ↔
      prev cell = before ∧ next cell = rest.head?.or behind ∧
        Segment next prev (some cell) rest behind := Iff.rfl

theorem segment_singleton {before behind : Option α} {cell : α} :
    Segment next prev before [cell] behind ↔ prev cell = before ∧ next cell = behind := by
  rw [segment_cons]
  simp [Segment]

/-- A segment depends on the links of its own cells only. -/
theorem Segment.congr {before behind : Option α} {cells : List α}
    (segment : Segment next prev before cells behind)
    (same : ∀ cell ∈ cells, next' cell = next cell ∧ prev' cell = prev cell) :
    Segment next' prev' before cells behind := by
  induction cells generalizing before with
  | nil => trivial
  | cons cell rest ih =>
    obtain ⟨back, onward, others⟩ := segment
    obtain ⟨same_next, same_prev⟩ := same cell List.mem_cons_self
    refine ⟨same_prev.trans back, same_next.trans onward, ih others ?_⟩
    exact fun other member => same other (List.mem_cons_of_mem _ member)

/-- A segment is two segments, the first of which ends where the second begins. -/
theorem segment_append {before behind : Option α} {left right : List α} :
    Segment next prev before (left ++ right) behind ↔
      Segment next prev before left (right.head?.or behind) ∧
        Segment next prev (left.getLast?.or before) right behind := by
  induction left generalizing before with
  | nil => simp [Segment]
  | cons cell rest ih =>
    have last : (cell :: rest).getLast?.or before = rest.getLast?.or (some cell) := by
      cases rest with
      | nil => rfl
      | cons second rest => simp [List.getLast?_cons]
    rw [List.cons_append, segment_cons, segment_cons, ih, last, List.head?_append]
    cases rest.head? <;> simp [and_assoc]

/-- One more cell at the end of a segment. -/
theorem segment_concat {before behind : Option α} {front : List α} {cell : α} :
    Segment next prev before (front ++ [cell]) behind ↔
      Segment next prev before front (some cell) ∧
        prev cell = front.getLast?.or before ∧ next cell = behind := by
  rw [segment_append, segment_singleton]
  rfl

/-- The cell behind a cell of a segment is one of them, or what is behind them all. -/
theorem Segment.next_mem {before behind : Option α} {cells : List α} {cell : α}
    (segment : Segment next prev before cells behind) (member : cell ∈ cells) :
    next cell = behind ∨ ∃ other ∈ cells, next cell = some other := by
  induction cells generalizing before with
  | nil => simp at member
  | cons first rest ih =>
    obtain ⟨-, onward, others⟩ := segment
    rcases List.mem_cons.mp member with rfl | later
    · cases rest with
      | nil => exact .inl (by simpa using onward)
      | cons second rest => exact .inr ⟨second, by simp, by simpa using onward⟩
    · rcases ih others later with last | ⟨other, inside, found⟩
      · exact .inl last
      · exact .inr ⟨other, List.mem_cons_of_mem _ inside, found⟩

end LinkedLists
