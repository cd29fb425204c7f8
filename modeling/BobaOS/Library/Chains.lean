import Mathlib.Data.List.Nodup
import Mathlib.Data.List.Lattice
import Mathlib.Logic.Function.Basic

/-!
# Chains embedded in one table

A table gives each cell a link: the cell is free, it ends a chain, or it names
the next cell. Many chains share the table. A forest says that the chains of a
set of heads are finite, disjoint and together hold every cell that is not free.
Replacing the chain of one head, whether it is cut, grown or new, keeps a forest
under one law, which asks only about the cells that the old and the new chain
have.
-/

namespace Chains

variable {α : Type}

/-- What the table says of a cell. -/
inductive Link (α : Type) where
  | free
  | last
  | next (cell : α)
deriving DecidableEq

/-- The cells of the list are linked one to the next and the last one ends the
chain. -/
def Chain (links : α → Link α) : List α → Prop
  | [] => False
  | [cell] => links cell = .last
  | cell :: next :: rest => links cell = .next next ∧ Chain links (next :: rest)

variable {links links' : α → Link α} {cells : List α}

theorem chain_singleton {cell : α} : Chain links [cell] ↔ links cell = .last := Iff.rfl

/-- A chain depends on the links of its own cells only. -/
theorem Chain.congr (chain : Chain links cells)
    (same : ∀ cell ∈ cells, links' cell = links cell) : Chain links' cells := by
  induction cells with
  | nil => exact chain
  | cons cell rest ih =>
    cases rest with
    | nil => exact (same cell List.mem_cons_self).trans chain
    | cons next rest =>
      refine ⟨(same cell List.mem_cons_self).trans chain.1, ih chain.2 ?_⟩
      intro other member
      exact same other (List.mem_cons_of_mem _ member)

/-- A chain has a cell. -/
theorem Chain.ne_nil (chain : Chain links cells) : cells ≠ [] := by
  rintro rfl
  exact chain

/-- No cell of a chain is free. -/
theorem Chain.not_free (chain : Chain links cells) {cell : α} (member : cell ∈ cells) :
    links cell ≠ .free := by
  induction cells with
  | nil => exact chain.elim
  | cons first rest ih =>
    cases rest with
    | nil =>
      obtain rfl := List.mem_singleton.mp member
      rw [chain_singleton.mp chain]
      exact fun impossible => nomatch impossible
    | cons next rest =>
      rcases List.mem_cons.mp member with rfl | later
      · rw [chain.1]
        exact fun impossible => nomatch impossible
      · exact ih chain.2 later

/-- A cell starts at most one chain. -/
theorem Chain.unique {first : α} {left right : List α} (leftChain : Chain links (first :: left))
    (rightChain : Chain links (first :: right)) : left = right := by
  induction left generalizing first right with
  | nil =>
    cases right with
    | nil => rfl
    | cons next rest => cases (chain_singleton.mp leftChain).symm.trans rightChain.1
  | cons next left ih =>
    cases right with
    | nil => cases leftChain.1.symm.trans (chain_singleton.mp rightChain)
    | cons other right =>
      obtain rfl : next = other := Link.next.inj (leftChain.1.symm.trans rightChain.1)
      rw [ih leftChain.2 rightChain.2]

/-- The part of a chain from a cell on is the chain of that cell. -/
theorem Chain.suffix {front : List α} {cell : α} {tail : List α}
    (chain : Chain links (front ++ cell :: tail)) : Chain links (cell :: tail) := by
  induction front with
  | nil => exact chain
  | cons first front ih =>
    apply ih
    cases front with
    | nil => exact chain.2
    | cons second front => exact chain.2

/-- What follows the first cell, if anything does, is a chain. -/
theorem Chain.tail {cell : α} {rest : List α} (chain : Chain links (cell :: rest))
    (more : rest ≠ []) : Chain links rest := by
  obtain ⟨next, others, rfl⟩ := List.exists_cons_of_ne_nil more
  exact chain.2

/-- So is what follows the first cells. -/
theorem Chain.drop (chain : Chain links cells) {count : Nat} (more : cells.drop count ≠ []) :
    Chain links (cells.drop count) := by
  obtain ⟨first, rest, split⟩ := List.exists_cons_of_ne_nil more
  have whole := List.take_append_drop count cells
  rw [split] at whole ⊢
  rw [← whole] at chain
  exact chain.suffix

/-- A cell that came again would begin two chains. -/
theorem Chain.nodup (chain : Chain links cells) : cells.Nodup := by
  induction cells with
  | nil => exact List.nodup_nil
  | cons first rest ih =>
    refine List.nodup_cons.mpr ⟨fun again => ?_, ?_⟩
    · obtain ⟨front, tail, rfl⟩ := List.append_of_mem again
      have later : Chain links (first :: tail) := by
        rw [← List.cons_append] at chain
        exact chain.suffix
      have same := congrArg List.length (chain.unique later)
      rw [List.length_append, List.length_cons] at same
      omega
    · cases rest with
      | nil => exact List.nodup_nil
      | cons next rest => exact ih chain.2

/-- A chain with another tail: the cells before the cut keep their links. -/
theorem Chain.splice {front tail new : List α} {cell : α}
    (chain : Chain links (front ++ cell :: tail))
    (kept : ∀ other ∈ front, links' other = links other) (onward : Chain links' (cell :: new)) :
    Chain links' (front ++ cell :: new) := by
  induction front with
  | nil => exact onward
  | cons first front ih =>
    have first_kept : links' first = links first := kept first List.mem_cons_self
    have others_kept : ∀ other ∈ front, links' other = links other :=
      fun other member => kept other (List.mem_cons_of_mem _ member)
    cases front with
    | nil => exact ⟨first_kept.trans chain.1, onward⟩
    | cons second front => exact ⟨first_kept.trans chain.1, ih chain.2 others_kept⟩

/-- The chains of a set of heads: each is finite with distinct usable cells, no
two share a cell, and every tracked cell that is not free is on one of them. -/
structure Forest (links : α → Link α) (usable tracked : α → Prop) (heads : α → Prop)
    (chain : α → List α) : Prop where
  starts : ∀ head, heads head → ∃ rest, chain head = head :: rest
  chained : ∀ head, heads head → Chain links (chain head)
  distinct : ∀ head, heads head → (chain head).Nodup
  usable : ∀ head cell, heads head → cell ∈ chain head → usable cell
  disjoint : ∀ left right, heads left → heads right → left ≠ right →
    List.Disjoint (chain left) (chain right)
  covers : ∀ cell, tracked cell → links cell ≠ .free → ∃ head, heads head ∧ cell ∈ chain head

variable {usable tracked heads : α → Prop} {chain : α → List α} [DecidableEq α]

/-- A forest after the chain of one head has been replaced by another, or a new
head has been given one. Cells of neither chain keep their links, cells that are
new were free, and cells that are gone are free. -/
theorem Forest.replace (forest : Forest links usable tracked heads chain) {head : α}
    {old new : List α} (was : heads head → chain head = old) (begins : ∃ rest, new = head :: rest)
    (chained : Chain links' new) (distinct : new.Nodup) (allowed : ∀ cell ∈ new, usable cell)
    (outside : ∀ cell, cell ∉ old → cell ∉ new → links' cell = links cell)
    (fresh : ∀ cell ∈ new, cell ∉ old → links cell = .free)
    (dropped : ∀ cell ∈ old, cell ∉ new → links' cell = .free)
    (owned : ¬ heads head → old = []) :
    Forest links' usable tracked (fun other => heads other ∨ other = head)
      (Function.update chain head new) := by
  -- No cell of another chain is on the new one.
  have apart (other : α) (is_head : heads other) (different : other ≠ head) (cell : α)
      (member : cell ∈ chain other) : cell ∉ old ∧ cell ∉ new := by
    have not_old : cell ∉ old := by
      by_cases known : heads head
      · rw [← was known]
        exact fun here => forest.disjoint other head is_head known different member here
      · rw [owned known]
        exact List.not_mem_nil
    exact ⟨not_old, fun here =>
      (forest.chained other is_head).not_free member (fresh cell here not_old)⟩
  have known_of_ne {other : α} (is_head : heads other ∨ other = head) (different : other ≠ head) :
      heads other := is_head.resolve_right different
  refine ⟨?_, ?_, ?_, ?_, ?_, ?_⟩
  · intro other is_head
    by_cases same : other = head
    · subst same
      rw [Function.update_self]
      exact begins
    · rw [Function.update_of_ne same]
      exact forest.starts other (known_of_ne is_head same)
  · intro other is_head
    by_cases same : other = head
    · subst same
      rw [Function.update_self]
      exact chained
    · rw [Function.update_of_ne same]
      refine (forest.chained other (known_of_ne is_head same)).congr fun cell member => ?_
      obtain ⟨not_old, not_new⟩ := apart other (known_of_ne is_head same) same cell member
      exact outside cell not_old not_new
  · intro other is_head
    by_cases same : other = head
    · subst same
      rw [Function.update_self]
      exact distinct
    · rw [Function.update_of_ne same]
      exact forest.distinct other (known_of_ne is_head same)
  · intro other cell is_head
    by_cases same : other = head
    · subst same
      rw [Function.update_self]
      exact allowed cell
    · rw [Function.update_of_ne same]
      exact forest.usable other cell (known_of_ne is_head same)
  · intro left right left_head right_head different
    by_cases left_same : left = head
    · subst left_same
      have right_other : right ≠ left := fun same => different same.symm
      rw [Function.update_self, Function.update_of_ne right_other]
      intro cell here there
      exact (apart right (known_of_ne right_head right_other) right_other cell there).2 here
    · rw [Function.update_of_ne left_same]
      by_cases right_same : right = head
      · subst right_same
        rw [Function.update_self]
        intro cell here there
        exact (apart left (known_of_ne left_head left_same) left_same cell here).2 there
      · rw [Function.update_of_ne right_same]
        exact forest.disjoint left right (known_of_ne left_head left_same)
          (known_of_ne right_head right_same) different
  · intro cell is_tracked not_free
    by_cases here : cell ∈ new
    · refine ⟨head, .inr rfl, ?_⟩
      rw [Function.update_self]
      exact here
    · have not_old : cell ∉ old := fun gone => not_free (dropped cell gone here)
      rw [outside cell not_old here] at not_free
      obtain ⟨other, is_head, member⟩ := forest.covers cell is_tracked not_free
      refine ⟨other, .inl is_head, ?_⟩
      have different : other ≠ head := by
        rintro rfl
        exact not_old (was is_head ▸ member)
      rw [Function.update_of_ne different]
      exact member

omit [DecidableEq α] in
/-- Adding a head that is there already adds nothing. -/
theorem Forest.same_heads {head : α} (known : heads head)
    (forest : Forest links usable tracked (fun other => heads other ∨ other = head) chain) :
    Forest links usable tracked heads chain := by
  have same : (fun other => heads other ∨ other = head) = heads := by
    funext other
    exact propext ⟨fun either => either.elim id fun equal => equal ▸ known, .inl⟩
  rw [same] at forest
  exact forest

end Chains
