import Mathlib.Logic.Function.Basic
import BobaOS.Library.LinkedLists

/-!
# Lists behind a fixed head

A pool of cells with a fixed cell as the head of a list: the head's own place in the
list is kept elsewhere, and it names the first of the others. The free cells are
linked both ways, but may fall into several pieces, of which the head names one. Such
loose links are enough to take any free cell out safely. Where the head names all of
them in one chain, the links are whole.
-/

namespace HeadedLists

open LinkedLists

variable {α : Type} [DecidableEq α]

structure Links (α : Type) where
  next : α → α
  prev : α → α

section Operations

variable (null head : α) (links : Links α)

/-- A cell is taken out between its neighbours. Without one before it, the head may
have named it. -/
def Links.unlink (cell : α) : Links α where
  next := Function.update
    (if links.prev cell ≠ null then Function.update links.next (links.prev cell) (links.next cell)
      else if links.next cell = null ∨ links.next head = cell then
        Function.update links.next head (links.next cell)
      else links.next) cell null
  prev := Function.update
    (if links.next cell ≠ null then Function.update links.prev (links.next cell) (links.prev cell)
      else links.prev) cell null

/-- The first cell no longer names the head. -/
def Links.detach : Links α :=
  if links.next head ≠ null then
    { links with prev := Function.update links.prev (links.next head) null }
  else links

/-- The head names another cell, and forgets what it named. -/
def Links.restart (cell : α) : Links α :=
  { links with next := Function.update links.next head cell }

/-- A cell becomes the first one. -/
def Links.push (before cell : α) : Links α where
  next := Function.update (Function.update links.next cell (links.next head)) head cell
  prev := Function.update (Function.update links.prev cell before) (links.next head) cell

/-- The first cell names the head. -/
def Links.rejoin : Links α :=
  { links with prev := Function.update links.prev (links.next head) head }

end Operations

/-! ## Loose links -/

/-- Free cells are linked both ways, to other free cells or to nothing, the first
ones perhaps to the head. The others are not linked. -/
structure Loose (null head : α) (cell free : α → Prop) (links : Links α) : Prop where
  idle : ∀ x, cell x → ¬ free x → links.next x = null ∧ links.prev x = null
  next : ∀ x, cell x → free x → links.next x = null ∨
    cell (links.next x) ∧ free (links.next x) ∧ links.prev (links.next x) = x
  prev : ∀ x, cell x → free x → links.prev x = null ∨ links.prev x = head ∨
    cell (links.prev x) ∧ free (links.prev x) ∧ links.next (links.prev x) = x
  first : links.next head = null ∨ cell (links.next head) ∧ free (links.next head) ∧
    (links.prev (links.next head) = null ∨ links.prev (links.next head) = head)

variable {null head : α} {cell free free' : α → Prop} {links links' : Links α}

theorem unlink_next (x y : α) : (links.unlink null head x).next y =
    if y = x then null
    else if links.prev x ≠ null ∧ y = links.prev x then links.next x
    else if links.prev x = null ∧ (links.next x = null ∨ links.next head = x) ∧ y = head then
      links.next x
    else links.next y := by
  simp only [Links.unlink, Function.update_apply, ite_apply]
  grind

theorem unlink_prev (x y : α) : (links.unlink null head x).prev y =
    if y = x then null
    else if links.next x ≠ null ∧ y = links.next x then links.prev x
    else links.prev y := by
  simp only [Links.unlink, Function.update_apply, ite_apply]
  grind

omit [DecidableEq α] in
/-- Only the links of the head and its cells matter. -/
theorem Loose.congr (loose : Loose null head cell free links)
    (same_free : ∀ x, cell x → (free' x ↔ free x))
    (same : ∀ x, cell x → links'.next x = links.next x ∧ links'.prev x = links.prev x)
    (same_head : links'.next head = links.next head) : Loose null head cell free' links' := by
  obtain ⟨idle, next, prev, first⟩ := loose
  constructor
  · grind
  · grind
  · grind
  · grind

section Preserved

variable (loose : Loose null head cell free links) (null_outside : ¬ cell null)
  (head_outside : ¬ cell head)

include loose null_outside head_outside

/-- Taking out a free cell leaves the others linked. -/
theorem Loose.unlink {x : α} (member : cell x) (is_free : free x)
    (rest : ∀ y, cell y → (free' y ↔ free y ∧ y ≠ x)) :
    Loose null head cell free' (links.unlink null head x) := by
  obtain ⟨idle, next, prev, first⟩ := loose
  have next_x := next x member is_free
  have prev_x := prev x member is_free
  constructor
  · simp only [unlink_next, unlink_prev]
    grind
  · simp only [unlink_next, unlink_prev]
    grind
  · simp only [unlink_next, unlink_prev]
    grind
  · simp only [unlink_next, unlink_prev]
    grind

omit null_outside in
theorem Loose.detach : Loose null head cell free (links.detach null head) := by
  obtain ⟨idle, next, prev, first⟩ := loose
  rw [Links.detach]
  split
  · constructor
    · simp only [Function.update_apply]
      grind
    · simp only [Function.update_apply]
      grind
    · simp only [Function.update_apply]
      grind
    · simp only [Function.update_apply]
      grind
  · exact ⟨idle, next, prev, first⟩

omit null_outside in
/-- A cell that is not free may be named by the head. -/
theorem Loose.restart {x : α} (member : cell x) (taken : ¬ free x)
    (rest : ∀ y, cell y → (free' y ↔ free y ∨ y = x)) :
    Loose null head cell free' (links.restart head x) := by
  obtain ⟨idle, next, prev, first⟩ := loose
  constructor
  · simp only [Links.restart, Function.update_apply]
    grind
  · simp only [Links.restart, Function.update_apply]
    grind
  · simp only [Links.restart, Function.update_apply]
    grind
  · simp only [Links.restart, Function.update_apply]
    grind

/-- Or become the first cell of the piece that the head names. -/
theorem Loose.push {x before : α} (member : cell x) (taken : ¬ free x)
    (named : before = null ∨ before = head)
    (rest : ∀ y, cell y → (free' y ↔ free y ∨ y = x)) :
    Loose null head cell free' (links.push head before x) := by
  obtain ⟨idle, next, prev, first⟩ := loose
  constructor
  · simp only [Links.push, Function.update_apply]
    grind
  · simp only [Links.push, Function.update_apply]
    grind
  · simp only [Links.push, Function.update_apply]
    grind
  · simp only [Links.push, Function.update_apply]
    grind

omit head_outside in
theorem Loose.rejoin : Loose null head cell free (links.rejoin head) := by
  obtain ⟨idle, next, prev, first⟩ := loose
  constructor
  · simp only [Links.rejoin, Function.update_apply]
    grind
  · simp only [Links.rejoin, Function.update_apply]
    grind
  · simp only [Links.rejoin, Function.update_apply]
    grind
  · simp only [Links.rejoin, Function.update_apply]
    grind

end Preserved

/-! ## What is left alone -/

/-- The links of anything but the head and its cells are the same. Nothing may have
been written to as a cell. -/
def SameOutside (null head : α) (cell : α → Prop) (before after : Links α) : Prop :=
  ∀ y, ¬ cell y → y ≠ head → y ≠ null → after.next y = before.next y ∧ after.prev y = before.prev y

section Outside

variable (loose : Loose null head cell free links)

include loose

theorem Loose.unlink_outside {x : α} (member : cell x) (is_free : free x) :
    SameOutside null head cell links (links.unlink null head x) := by
  have next_x := loose.next x member is_free
  have prev_x := loose.prev x member is_free
  intro y not_cell not_head not_null
  simp only [unlink_next, unlink_prev]
  grind

theorem Loose.detach_outside : SameOutside null head cell links (links.detach null head) := by
  have first := loose.first
  intro y not_cell not_head not_null
  rw [Links.detach]
  split
  · simp only [Function.update_apply]
    grind
  · exact ⟨rfl, rfl⟩

omit loose in
theorem restart_outside (cell : α → Prop) (x : α) :
    SameOutside null head cell links (links.restart head x) := by
  intro y not_cell not_head not_null
  simp [Links.restart, not_head]

theorem Loose.push_outside {x : α} (member : cell x) (before : α) :
    SameOutside null head cell links (links.push head before x) := by
  have first := loose.first
  intro y not_cell not_head not_null
  simp only [Links.push, Function.update_apply]
  grind

theorem Loose.rejoin_outside : SameOutside null head cell links (links.rejoin head) := by
  have first := loose.first
  intro y not_cell not_head not_null
  simp only [Links.rejoin, Function.update_apply]
  grind

end Outside

/-! ## Whole links -/

/-- What a pointer names. -/
def named (null x : α) : Option α := if x = null then none else some x

/-- The head names the first of all free cells, which are linked in one chain behind
`before`. -/
structure Whole (null head : α) (cell free : α → Prop) (links : Links α) (before : Option α)
    (order : List α) : Prop where
  members : ∀ x, x ∈ order ↔ cell x ∧ free x
  nodup : order.Nodup
  first : named null (links.next head) = order.head?
  chain : Segment (fun x => named null (links.next x)) (fun x => named null (links.prev x)) before
    order none

@[simp] theorem named_null : named null null = none := if_pos rfl

theorem named_some {x : α} (some : x ≠ null) : named null x = Option.some x := if_neg some

theorem named_eq_none {x : α} : named null x = none ↔ x = null := by
  rw [named]
  split_ifs with nothing
  · simp [nothing]
  · simp [nothing]

theorem named_eq_some {x y : α} : named null x = some y ↔ x = y ∧ x ≠ null := by
  rw [named]
  split_ifs with nothing
  · simp [nothing]
  · simp [nothing]

section Chain

variable {before : Option α} {order : List α}
  (whole : Whole null head cell free links before order)

include whole

/-- Only the links of the head and of free cells matter. -/
theorem Whole.congr (same_free : ∀ x, cell x → (free' x ↔ free x))
    (same : ∀ x, cell x → links'.next x = links.next x ∧ links'.prev x = links.prev x)
    (same_head : links'.next head = links.next head) :
    Whole null head cell free' links' before order where
  members x := by
    rw [whole.members]
    exact and_congr_right fun member => (same_free x member).symm
  nodup := whole.nodup
  first := by rw [same_head, whole.first]
  chain := whole.chain.congr fun x listed => by
    have there := same x ((whole.members x).mp listed).1
    simp [there]

/-- The first cell is named by the head. -/
theorem Whole.next_head {x : α} {rest : List α} (shape : order = x :: rest) :
    links.next head = x := by
  have first := whole.first
  rw [shape] at first
  exact (named_eq_some.mp first).1

/-- Another first link back, with the others as they are. -/
theorem Whole.lead {back : α} (same : links'.next = links.next)
    (changed : ∀ x, cell x → links'.prev x = if x = links.next head then back else links.prev x) :
    Whole null head cell free links' (named null back) order := by
  refine ⟨whole.members, whole.nodup, by rw [same, whole.first], ?_⟩
  cases order with
  | nil => trivial
  | cons x rest =>
    obtain ⟨-, onward, others⟩ := whole.chain
    have first : links.next head = x := whole.next_head rfl
    have cell_of (y : α) (member : y ∈ x :: rest) : cell y := ((whole.members y).mp member).1
    refine ⟨?_, ?_, others.congr ?_⟩
    · simp only [changed x (cell_of x List.mem_cons_self), if_pos first.symm]
    · simpa only [same] using onward
    · intro y member
      have other : y ≠ x := by
        rintro rfl
        exact (List.nodup_cons.mp whole.nodup).1 member
      rw [changed y (cell_of y (List.mem_cons_of_mem _ member)), if_neg (first ▸ other), same]
      exact ⟨rfl, rfl⟩

theorem Whole.detach (null_outside : ¬ cell null) :
    Whole null head cell free (links.detach null head) none order := by
  rw [← named_null]
  refine whole.lead ?_ ?_
  · rw [Links.detach]
    split <;> rfl
  · intro x member
    have some : x ≠ null := fun same => null_outside (same ▸ member)
    rw [Links.detach]
    split_ifs with named here
    · simp [here]
    · simp [here]
    · rename_i here
      rw [here]
      grind
    · rfl

theorem Whole.rejoin (real_head : head ≠ null) :
    Whole null head cell free (links.rejoin head) (some head) order := by
  rw [← named_some real_head]
  refine whole.lead rfl ?_
  intro x _
  simp only [Links.rejoin, Function.update_apply]

variable (null_outside : ¬ cell null) (head_outside : ¬ cell head)

include null_outside head_outside

/-- A new first cell. -/
theorem Whole.push {x back : α} (member : cell x) (taken : ¬ free x) (behind : named null back = before)
    (rest : ∀ y, cell y → (free' y ↔ free y ∨ y = x)) :
    Whole null head cell free' (links.push head back x) before (x :: order) := by
  have some : x ≠ null := fun same => null_outside (same ▸ member)
  have other : x ≠ head := fun same => head_outside (same ▸ member)
  have fresh : x ∉ order := fun listed => taken ((whole.members x).mp listed).2
  have not_first : x ≠ links.next head := by
    rintro rfl
    exact fresh (List.mem_of_mem_head? (by rw [← whole.first, named_some some]; rfl))
  refine ⟨?_, List.nodup_cons.mpr ⟨fresh, whole.nodup⟩, ?_, ?_, ?_, ?_⟩
  · intro y
    rw [List.mem_cons, whole.members]
    have here := rest y
    grind
  · simp [Links.push, named_some some]
  · simp [Links.push, Function.update_of_ne not_first, behind]
  · simp [Links.push, Function.update_of_ne other, whole.first]
  · -- Only the link back of the first one has changed.
    have led : Whole null head cell free ⟨links.next, Function.update links.prev (links.next head) x⟩
        (named null x) order := whole.lead rfl fun y _ => Function.update_apply _ _ _ _
    rw [named_some some] at led
    refine led.chain.congr fun y listed => ?_
    have different : y ≠ x := fun same => fresh (same ▸ listed)
    have beside : y ≠ head := fun same => head_outside (same ▸ ((whole.members y).mp listed).1)
    simp [Links.push, Function.update_apply, different, beside]

end Chain

/-- The first cell is taken out. -/
theorem Whole.pop {x : α} {rest : List α}
    (whole : Whole null head cell free links none (x :: rest)) (null_outside : ¬ cell null)
    (head_outside : ¬ cell head) (others : ∀ y, cell y → (free' y ↔ free y ∧ y ≠ x)) :
    Whole null head cell free' (links.unlink null head x) none rest := by
  have cell_of (y : α) (member : y ∈ x :: rest) : cell y := ((whole.members y).mp member).1
  have first : links.next head = x := whole.next_head rfl
  obtain ⟨back, onward, behind⟩ := whole.chain
  have no_back : links.prev x = null := named_eq_none.mp back
  have onward : named null (links.next x) = rest.head? := by simpa using onward
  obtain ⟨fresh, nodup⟩ := List.nodup_cons.mp whole.nodup
  have last : head ≠ x := fun same => head_outside (same ▸ cell_of x List.mem_cons_self)
  refine ⟨?_, nodup, ?_, ?_⟩
  · intro y
    have here := others y
    have listed := whole.members y
    rw [List.mem_cons] at listed
    grind
  · rw [unlink_next, if_neg last, if_neg (fun both => both.1 no_back),
      if_pos ⟨no_back, .inr first, rfl⟩, onward]
  · cases rest with
    | nil => trivial
    | cons y rest =>
      obtain ⟨-, following, deeper⟩ := behind
      have next_x : links.next x = y := (named_eq_some.mp onward).1
      have some : y ≠ null := fun same =>
        null_outside (same ▸ cell_of y (List.mem_cons_of_mem _ List.mem_cons_self))
      have same_next (z : α) (member : z ∈ y :: rest) :
          (links.unlink null head x).next z = links.next z := by
        have beside : z ≠ head := fun same =>
          head_outside (same ▸ cell_of z (List.mem_cons_of_mem _ member))
        have different : z ≠ x := fun same => fresh (same ▸ member)
        rw [unlink_next, if_neg different, if_neg (fun both => both.1 no_back),
          if_neg fun all => beside all.2.2]
      refine ⟨?_, ?_, deeper.congr ?_⟩
      · have different : y ≠ x := fun same => fresh (same ▸ List.mem_cons_self)
        simp [unlink_prev, different, next_x, some, no_back]
      · simpa only [same_next y List.mem_cons_self] using following
      · intro z member
        have different : z ≠ x := fun same => fresh (same ▸ List.mem_cons_of_mem _ member)
        have second : z ≠ y := fun same => (List.nodup_cons.mp nodup).1 (same ▸ member)
        rw [same_next z (List.mem_cons_of_mem _ member), unlink_prev, if_neg different,
          if_neg fun all => second (all.2.trans next_x)]
        exact ⟨rfl, rfl⟩

/-- The head of an empty list may name a cell without links. -/
theorem Whole.restart {x : α} (whole : Whole null head cell free links none [])
    (null_outside : ¬ cell null) (head_outside : ¬ cell head) (member : cell x)
    (alone : links.next x = null ∧ links.prev x = null)
    (rest : ∀ y, cell y → (free' y ↔ free y ∨ y = x)) :
    Whole null head cell free' (links.restart head x) none [x] := by
  have some : x ≠ null := fun same => null_outside (same ▸ member)
  have other : x ≠ head := fun same => head_outside (same ▸ member)
  refine ⟨?_, by simp, ?_, segment_singleton.mpr ⟨?_, ?_⟩⟩
  · intro y
    have here := rest y
    have listed := whole.members y
    rw [List.mem_singleton]
    grind
  · simp [Links.restart, named_some some]
  · simp [Links.restart, alone.2]
  · simp [Links.restart, Function.update_of_ne other, alone.1]

end HeadedLists
