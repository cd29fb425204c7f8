import Mathlib.Tactic.IntervalCases
import BobaOS.Heap.BuddyHeap
import BobaOS.Library.BuddyTree
import BobaOS.Library.HeadedLists

/-!
# Laws of the buddy heap's functions

Where the entries are, and what taking an entry out of its list or adding it does to
the fields of the entries. The laws of `removeEntry` and `addEntry` give the state
that they leave, as long as the pointers they follow are entries.
-/

namespace BobaOS.BuddyHeap

open Programs HeadedLists BuddyTree

/-! ## Where the entries are -/

/-- The address of an entry, by level and index. -/
def entryOf (l i : Nat) : Nat := ENTRY_SIZE * (1 + 1024 * (2 ^ l - 1) + i)

/-- A level has that many entries. -/
def entries (l : Nat) : Nat := 1024 * 2 ^ l

/-- The size of a block of a level. -/
def pageSize (l : Nat) : Nat := 1024 * 2 ^ (7 - l)

/-- What the initialization makes of the variables. -/
structure LaidOut (v : Variables) : Prop where
  maxLvl : v.maxLvl = 8
  table : ∀ l < 8, v.lvlTable l = entryOf l 0
  no_table : ∀ l, 8 ≤ l → v.lvlTable l = 0
  blockSize : ∀ l < 8, (v.tableMetaData l).blockSize = pageSize l
  heapSize : v.heapSize = 1024 * 0x20000
  maxPage : v.maxPage = 0x20000
  tablesEnd : v.tablesEnd = entryOf 8 0
  tableStartAddress : v.tableStartAddress = ENTRY_SIZE
  maxEntries : ∀ l < 8, (v.tableMetaData l).maxEntries = entries l

theorem initVariables_laidOut (lowerMemorySize : Nat) : LaidOut (initVariables lowerMemorySize) where
  maxLvl := rfl
  table l small := by
    interval_cases l <;> rfl
  no_table l large := by
    have levels : (initVariables lowerMemorySize).maxLvl = 8 := rfl
    simp only [initVariables] at levels ⊢
    rw [levels, if_neg (by omega)]
  blockSize l small := by
    interval_cases l <;> rfl
  heapSize := rfl
  maxPage := rfl
  tablesEnd := by
    have start : ((initVariables lowerMemorySize).tableMetaData 7).tableStartAddress =
        entryOf 7 0 := rfl
    have size : ((initVariables lowerMemorySize).tableMetaData 7).tableSize =
        entries 7 * ENTRY_SIZE := rfl
    have levels : (initVariables lowerMemorySize).maxLvl = 8 := rfl
    rw [Variables.tablesEnd, levels, start, size]
    decide
  tableStartAddress := rfl
  maxEntries l small := by
    interval_cases l <;> rfl

theorem entryOf_add (l i k : Nat) : entryOf l i + ENTRY_SIZE * k = entryOf l (i + k) := by
  simp only [entryOf, ENTRY_SIZE]
  omega

theorem entryOf_ne_zero (l i : Nat) : entryOf l i ≠ 0 := by
  simp only [entryOf, ENTRY_SIZE]
  omega

/-- The entries of a level lie before those of the next one. -/
theorem entryOf_below {l i : Nat} (inside : i < entries l) : entryOf l i < entryOf (l + 1) 0 := by
  have positive := Nat.two_pow_pos l
  simp only [entryOf, ENTRY_SIZE, entries, Nat.pow_succ] at inside ⊢
  omega

theorem entryOf_mono {l l' : Nat} (more : l ≤ l') : entryOf l 0 ≤ entryOf l' 0 := by
  have power : 2 ^ l ≤ 2 ^ l' := Nat.pow_le_pow_right (by decide) more
  simp only [entryOf, ENTRY_SIZE]
  omega

/-- The end of a table is the head of the next one. -/
theorem entryOf_end (l : Nat) : entryOf l (entries l) = entryOf (l + 1) 0 := by
  have positive := Nat.two_pow_pos l
  simp only [entryOf, entries, ENTRY_SIZE, Nat.pow_succ]
  omega

/-- An address is that of one entry only. -/
theorem entryOf_injective {l l' i i' : Nat} (inside : i < entries l) (inside' : i' < entries l')
    (same : entryOf l i = entryOf l' i') : l = l' ∧ i = i' := by
  have start (l i : Nat) : entryOf l 0 ≤ entryOf l i := by
    simp only [entryOf, ENTRY_SIZE]
    omega
  rcases Nat.lt_trichotomy l l' with before | rfl | behind
  · have below := entryOf_below inside
    have above := entryOf_mono before
    have first := start l' i'
    simp only [Nat.succ_eq_add_one] at above
    omega
  · refine ⟨rfl, ?_⟩
    simp only [entryOf, ENTRY_SIZE] at same
    omega
  · have below := entryOf_below inside'
    have above := entryOf_mono behind
    have first := start l i
    simp only [Nat.succ_eq_add_one] at above
    omega

variable {v : Variables} {s : State} {fault : Fault → Prop}

theorem LaidOut.isEntry (laid : LaidOut v) {l i : Nat} (level : l < 8) (inside : i < entries l) :
    isEntry v (entryOf l i) = true := by
  have below := entryOf_below inside
  have above := entryOf_mono (show l + 1 ≤ 8 by omega)
  have there : entryOf l i = ENTRY_SIZE + ENTRY_SIZE * (1024 * (2 ^ l - 1) + i) := by
    rw [entryOf, Nat.add_assoc, Nat.mul_add, Nat.mul_one]
  have before : ENTRY_SIZE ≤ entryOf l i := there ▸ Nat.le_add_right _ _
  have behind : entryOf l i < entryOf 8 0 := by omega
  have aligned : (entryOf l i - ENTRY_SIZE) % ENTRY_SIZE = 0 := by
    rw [there, Nat.add_sub_cancel_left, Nat.mul_mod_right]
  simp [BuddyHeap.isEntry, laid.tablesEnd, laid.tableStartAddress, before, behind, aligned]

theorem isEntry_zero (v : Variables) : isEntry v 0 = true := rfl

/-! ## Access -/

/-- An entry of the tables. -/
structure Real (v : Variables) (entry : Nat) : Prop where
  there : isEntry v entry = true
  nonzero : entry ≠ 0

section Access

variable {entry : Nat}

theorem meets_access (there : isEntry v entry = true) {post : State → State → Prop} :
    Meets (access v entry) s fault post ↔
      post { s with nullDereferenced := s.nullDereferenced || entry = 0 }
        { s with nullDereferenced := s.nullDereferenced || entry = 0 } := by
  simp [access, there]

variable (real : Real v entry)

include real

theorem meets_access_real {post : State → State → Prop} :
    Meets (access v entry) s fault post ↔ post s s := by
  rw [meets_access real.there]
  simp [real.nonzero]

@[simp] theorem meets_getNext {post : Nat → State → Prop} :
    Meets (getNext v entry) s fault post ↔ post (s.next entry) s := by
  rw [getNext, meets_bind, meets_access_real real, meets_pure]

@[simp] theorem meets_getPrev {post : Nat → State → Prop} :
    Meets (getPrev v entry) s fault post ↔ post (s.prev entry) s := by
  rw [getPrev, meets_bind, meets_access_real real, meets_pure]

@[simp] theorem meets_getLvl {post : Nat → State → Prop} :
    Meets (getLvl v entry) s fault post ↔ post (s.lvl entry) s := by
  rw [getLvl, meets_bind, meets_access_real real, meets_pure]

@[simp] theorem meets_getFlags {post : BitVec 8 → State → Prop} :
    Meets (getFlags v entry) s fault post ↔ post (s.flags entry) s := by
  rw [getFlags, meets_bind, meets_access_real real, meets_pure]

@[simp] theorem meets_setNext (next : Nat) {post : PUnit → State → Prop} :
    Meets (setNext v entry next) s fault post ↔
      post ⟨⟩ { s with next := Function.update s.next entry next } := by
  rw [setNext, meets_bind, meets_access_real real, meets_set]

@[simp] theorem meets_setPrev (prev : Nat) {post : PUnit → State → Prop} :
    Meets (setPrev v entry prev) s fault post ↔
      post ⟨⟩ { s with prev := Function.update s.prev entry prev } := by
  rw [setPrev, meets_bind, meets_access_real real, meets_set]

@[simp] theorem meets_setLvl (lvl : Nat) {post : PUnit → State → Prop} :
    Meets (setLvl v entry lvl) s fault post ↔
      post ⟨⟩ { s with lvl := Function.update s.lvl entry (lvl % 2 ^ 8) } := by
  rw [setLvl, meets_bind, meets_access_real real, meets_set]

@[simp] theorem meets_changeFlags (change : BitVec 8 → BitVec 8) {post : PUnit → State → Prop} :
    Meets (changeFlags v entry change) s fault post ↔
      post ⟨⟩ { s with flags := Function.update s.flags entry (change (s.flags entry)) } := by
  rw [changeFlags, meets_bind, meets_access_real real, meets_set]

end Access

/-! ## Lists -/

def State.links (s : State) : Links Nat := ⟨s.next, s.prev⟩

/-- The flags with the mark of a removed entry. -/
def RemoveType.mark : RemoveType → BitVec 8 → BitVec 8
  | .split, flags => flags ||| KHEAP_B_FLAG_SPLITUP
  | .allocated, flags => flags ||| KHEAP_B_FLAG_ALLOCATED
  | .merge, flags => flags

/-- The flags after `removeEntry`. -/
def removedFlags (head entry : Nat) (type : RemoveType) (s : State) : Nat → BitVec 8 :=
  let bare := s.flags entry &&& ~~~ KHEAP_B_FLAG_FREE
  if entry = head then
    Function.update s.flags entry
      (type.mark (if s.next entry ≠ 0 then bare ||| KHEAP_B_FLAG_HAS_ENTRIES else bare))
  else if s.prev entry = 0 ∧ s.next entry = 0 then
    Function.update (Function.update s.flags head (s.flags head &&& ~~~ KHEAP_B_FLAG_HAS_ENTRIES))
      entry (type.mark bare)
  else Function.update s.flags entry (type.mark bare)

/-- The state after `removeEntry` of a free entry. -/
def removed (head entry : Nat) (type : RemoveType) (s : State) : State :=
  let links := if entry = head then s.links.detach 0 head else s.links.unlink 0 head entry
  { s with next := links.next, prev := links.prev, flags := removedFlags head entry type s }

/-- An update to a value that stands at a place already leaves that place alone. -/
theorem update_same {f : Nat → Nat} {x value : Nat} (same : f x = value) (place : Nat) :
    Function.update f place value x = value := by
  by_cases here : x = place
  · rw [here, Function.update_self]
  · rw [Function.update_of_ne here, same]

/-- The part of `removeEntry` for an entry that is not the head. -/
theorem unlinkEntry_meets {head entry : Nat} (real_head : Real v head) (real : Real v entry)
    (other : entry ≠ head) (prev : s.prev entry = 0 ∨ Real v (s.prev entry))
    (next : s.next entry = 0 ∨ Real v (s.next entry)) :
    Meets (unlinkEntry v head entry) s fault fun _ after =>
      after = { s with
        next := (s.links.unlink 0 head entry).next
        prev := (s.links.unlink 0 head entry).prev
        flags := if s.prev entry = 0 ∧ s.next entry = 0 then
          Function.update s.flags head (s.flags head &&& ~~~ KHEAP_B_FLAG_HAS_ENTRIES)
          else s.flags } := by
  have still_next := fun place => update_same (show s.next entry = s.next entry from rfl) place
  have still_prev := fun place => update_same (show s.prev entry = s.prev entry from rfl) place
  rw [unlinkEntry]
  rcases prev with none_before | before
  · rw [none_before] at still_prev
    rcases next with none_behind | behind
    · simp [real, real_head, none_before, none_behind, State.links, Links.unlink]
    · have some := behind.nonzero
      by_cases first : s.next head = entry
      · simp [real, real_head, none_before, behind, some, first, other, still_prev,
          State.links, Links.unlink]
      · simp [real, real_head, none_before, behind, some, first, State.links, Links.unlink]
  · have some_before := before.nonzero
    rcases next with none_behind | behind
    · rw [none_behind] at still_next
      simp [real, before, none_behind, some_before, still_next, State.links, Links.unlink]
    · have some := behind.nonzero
      simp [real, before, behind, some, some_before, still_next, still_prev,
        State.links, Links.unlink]

theorem tableAt_meets (laid : LaidOut v) {l : Nat} (level : l < 8) {post : Nat → State → Prop} :
    Meets (tableAt v l) s fault post ↔ post (entryOf l 0) s := by
  rw [tableAt, if_pos (by simp only [KHEAP_MAX_ALLOWED_LEVEL]; omega), laid.table l level, meets_pure]

/-- Removing a free entry. -/
theorem removeEntry_meets (laid : LaidOut v) {l entry : Nat} (level : l < 8)
    (real_head : Real v (entryOf l 0)) (real : Real v entry) (lvl : s.lvl entry = l)
    (free : s.isFree entry) (prev : entry ≠ entryOf l 0 → s.prev entry = 0 ∨ Real v (s.prev entry))
    (next : s.next entry = 0 ∨ Real v (s.next entry)) (type : RemoveType) :
    Meets (removeEntry v entry type) s fault fun _ after =>
      after = removed (entryOf l 0) entry type s := by
  rw [removeEntry, meets_bind, meets_getFlags real, meets_ite]
  refine ⟨fun _ => ?_, fun taken => absurd free taken⟩
  rw [meets_bind, meets_changeFlags real, meets_bind, meets_getLvl real, lvl, meets_bind,
    tableAt_meets laid level]
  generalize entryOf l 0 = head at *
  dsimp only
  by_cases first : entry = head
  · subst first
    rw [if_neg (not_not.mpr rfl), meets_bind, unlinkHead]
    rcases next with none_behind | behind
    · cases type <;>
        simp [real, none_behind, removed, removedFlags, RemoveType.mark, State.links, Links.detach]
    · have some := behind.nonzero
      cases type <;>
        simp [real, behind, some, removed, removedFlags, RemoveType.mark, State.links, Links.detach]
  · have last : head ≠ entry := fun same => first same.symm
    rw [if_pos first]
    have unlinked : Meets (unlinkEntry v head entry) { s with
        flags := Function.update s.flags entry (s.flags entry &&& ~~~ KHEAP_B_FLAG_FREE) } fault _ :=
      unlinkEntry_meets real_head real first (prev first) next
    apply unlinked.bind
    rintro _ _ rfl
    by_cases lone : s.prev entry = 0 ∧ s.next entry = 0
    · cases type <;>
        simp [real, lone, removed, removedFlags, RemoveType.mark, first, last, State.links,
          Function.update_comm last]
    · cases type <;>
        simp [real, lone, removed, removedFlags, RemoveType.mark, first, State.links]

/-- The flags of an entry that has been added. -/
def freshFlags (flags : BitVec 8) : BitVec 8 :=
  (flags ||| KHEAP_B_FLAG_FREE) &&& ~~~ (KHEAP_B_FLAG_SPLITUP ||| KHEAP_B_FLAG_ALLOCATED)

/-- The flags after `addEntry`. -/
def addedFlags (head entry : Nat) (s : State) : Nat → BitVec 8 :=
  if entry = head then
    Function.update s.flags entry (freshFlags (s.flags entry ||| KHEAP_B_FLAG_HAS_ENTRIES))
  else
    Function.update (Function.update s.flags head (s.flags head ||| KHEAP_B_FLAG_HAS_ENTRIES)) entry
      (freshFlags (s.flags entry))

/-- The links after `addEntry`. -/
def addedLinks (head entry : Nat) (s : State) : Links Nat :=
  if s.hasEntries head then
    if entry = head then s.links.rejoin head
    else s.links.push head (if s.isFree head then head else 0) entry
  else if entry = head then s.links
  else s.links.restart head entry

/-- The state after `addEntry`. With a list that shows entries but names none, NULL
is written to. -/
def added (head entry l : Nat) (s : State) : State where
  next := (addedLinks head entry s).next
  prev := (addedLinks head entry s).prev
  lvl := Function.update s.lvl entry l
  flags := addedFlags head entry s
  nullDereferenced := s.nullDereferenced || (s.hasEntries head && s.next head = 0)

/-- The state after `clearFlags`. -/
def cleared (entry : Nat) (s : State) : State :=
  { s with flags := Function.update s.flags entry (s.flags entry &&& 0) }

theorem meets_setPrev_any {entry : Nat} (there : isEntry v entry = true) (prev : Nat)
    {post : PUnit → State → Prop} :
    Meets (setPrev v entry prev) s fault post ↔ post ⟨⟩ { s with
      prev := Function.update s.prev entry prev
      nullDereferenced := s.nullDereferenced || entry = 0 } := by
  rw [setPrev, meets_bind, meets_access there, meets_set]

/-- Adding an entry. -/
theorem addEntry_meets (laid : LaidOut v) {l entry : Nat} (level : l < 8)
    (real_head : Real v (entryOf l 0)) (real : Real v entry)
    (next : s.next (entryOf l 0) = 0 ∨ Real v (s.next (entryOf l 0))) :
    Meets (addEntry v entry l) s fault fun _ after => after = added (entryOf l 0) entry l s := by
  have there : isEntry v (s.next (entryOf l 0)) = true := by
    rcases next with none | some
    · rw [none]
      exact isEntry_zero v
    · exact some.there
  have narrow : l % 2 ^ 8 = l := Nat.mod_eq_of_lt (by omega)
  rw [addEntry, meets_bind, meets_setLvl real, narrow, meets_bind, tableAt_meets laid level]
  generalize entryOf l 0 = head at *
  rw [meets_bind, meets_getFlags real_head]
  dsimp only
  by_cases first : entry = head
  · subst first
    by_cases some : s.hasEntries entry
    · have some' := some
      rw [State.hasEntries] at some'
      rw [if_neg some', if_neg (not_not.mpr rfl)]
      simp [real, meets_setPrev_any there, added, addedLinks, addedFlags, freshFlags, some, State.links,
        Links.rejoin]
    · have some' := not_not.mp some
      rw [if_pos some', if_neg (not_not.mpr rfl)]
      simp [real, added, addedLinks, addedFlags, freshFlags, some, State.links]
  · have last : head ≠ entry := fun same => first same.symm
    by_cases some : s.hasEntries head
    · have some' := some
      rw [State.hasEntries] at some'
      rw [if_neg some', if_pos first, meets_bind, meets_getFlags real_head, meets_ite]
      constructor
      · intro taken
        have taken' : ¬ s.isFree head := fun free => free taken
        simp [real, real_head, meets_setPrev_any there, added, addedLinks, addedFlags, freshFlags, some,
          taken', first, State.links, Links.push]
      · intro free
        have free' : s.isFree head := free
        simp [real, real_head, meets_setPrev_any there, added, addedLinks, addedFlags, freshFlags, some,
          free', first, State.links, Links.push]
    · have some' := not_not.mp some
      rw [if_pos some', if_pos last]
      simp [real, real_head, added, addedLinks, addedFlags, freshFlags, some, first, State.links,
        Links.restart]

/-! ## Kinds -/

/-- What the flags say of an entry. -/
def kindOf (flags : BitVec 8) : Kind :=
  if flags &&& KHEAP_B_FLAG_FREE ≠ 0 then .free
  else if flags &&& KHEAP_B_FLAG_SPLITUP ≠ 0 then .split
  else if flags &&& KHEAP_B_FLAG_ALLOCATED ≠ 0 then .taken
  else .absent

/-- At most one of the three flags is set. -/
def OneKind (flags : BitVec 8) : Prop :=
  flags &&& 7 = 0 ∨ flags &&& 7 = 1 ∨ flags &&& 7 = 2 ∨ flags &&& 7 = 4

instance (flags : BitVec 8) : Decidable (OneKind flags) := inferInstanceAs (Decidable (_ ∨ _))

/-- What a removed entry becomes. -/
def RemoveType.kind : RemoveType → Kind
  | .split => .split
  | .allocated => .taken
  | .merge => .absent

theorem kindOf_mark (type : RemoveType) : ∀ flags : BitVec 8, OneKind flags →
    flags &&& KHEAP_B_FLAG_FREE ≠ 0 →
    (kindOf (type.mark (flags &&& ~~~ KHEAP_B_FLAG_FREE)) = type.kind ∧
      OneKind (type.mark (flags &&& ~~~ KHEAP_B_FLAG_FREE))) ∧
    kindOf (type.mark (flags &&& ~~~ KHEAP_B_FLAG_FREE ||| KHEAP_B_FLAG_HAS_ENTRIES)) = type.kind ∧
      OneKind (type.mark (flags &&& ~~~ KHEAP_B_FLAG_FREE ||| KHEAP_B_FLAG_HAS_ENTRIES)) := by
  cases type <;> decide +kernel

@[simp] theorem kindOf_shown : ∀ flags : BitVec 8,
    kindOf (flags ||| KHEAP_B_FLAG_HAS_ENTRIES) = kindOf flags := by
  decide +kernel

@[simp] theorem kindOf_hidden : ∀ flags : BitVec 8,
    kindOf (flags &&& ~~~ KHEAP_B_FLAG_HAS_ENTRIES) = kindOf flags := by
  decide +kernel

theorem OneKind.shown : ∀ flags : BitVec 8, OneKind flags →
    OneKind (flags ||| KHEAP_B_FLAG_HAS_ENTRIES) := by
  decide +kernel

theorem OneKind.hidden : ∀ flags : BitVec 8, OneKind flags →
    OneKind (flags &&& ~~~ KHEAP_B_FLAG_HAS_ENTRIES) := by
  decide +kernel

@[simp] theorem kindOf_fresh : ∀ flags : BitVec 8, kindOf (freshFlags flags) = .free := by
  decide +kernel

@[simp] theorem OneKind.fresh : ∀ flags : BitVec 8, OneKind (freshFlags flags) := by
  decide +kernel

theorem kindOf_free : ∀ flags : BitVec 8,
    kindOf flags = .free ↔ flags &&& KHEAP_B_FLAG_FREE ≠ 0 := by
  decide +kernel

theorem kindOf_taken : ∀ flags : BitVec 8, OneKind flags →
    (kindOf flags = .taken ↔ flags &&& KHEAP_B_FLAG_ALLOCATED ≠ 0) := by
  decide +kernel

section Flags

variable (head : Nat) {entry : Nat}

/-- Removing an entry changes its kind only. -/
theorem removedFlags_kind (one : OneKind (s.flags entry)) (free : s.isFree entry)
    (type : RemoveType) (other : Nat) :
    kindOf (removedFlags head entry type s other) =
        (if other = entry then type.kind else kindOf (s.flags other)) ∧
      (OneKind (s.flags other) → OneKind (removedFlags head entry type s other)) := by
  obtain ⟨bare, with_list⟩ := kindOf_mark type _ one free
  rw [removedFlags]
  by_cases here : other = entry
  · subst here
    simp only [if_true]
    split_ifs
    · simp [with_list]
    · simp [bare]
    · simp [bare]
    · simp [bare]
  · rw [if_neg here]
    split_ifs
    · simp [here]
    · simp [here]
    · by_cases at_head : other = head
      · subst at_head
        simpa [here] using OneKind.hidden (s.flags other)
      · simp [here, at_head]
    · simp [here]

/-- Adding an entry makes it free. -/
theorem addedFlags_kind (entry other : Nat) :
    kindOf (addedFlags head entry s other) =
        (if other = entry then .free else kindOf (s.flags other)) ∧
      (OneKind (s.flags other) → OneKind (addedFlags head entry s other)) := by
  rw [addedFlags]
  by_cases here : other = entry
  · subst here
    rw [if_pos rfl]
    split_ifs
    · simp
    · simp
  · rw [if_neg here]
    split_ifs
    · simp [here]
    · by_cases at_head : other = head
      · subst at_head
        simpa [here] using OneKind.shown (s.flags other)
      · simp [here, at_head]

theorem removedFlags_other (type : RemoveType) {other : Nat} (not_head : other ≠ head)
    (different : other ≠ entry) : removedFlags head entry type s other = s.flags other := by
  rw [removedFlags]
  split_ifs
  · simp [different]
  · simp [different]
  · simp [different, not_head]
  · simp [different]

theorem addedFlags_other {other : Nat} (not_head : other ≠ head) (different : other ≠ entry) :
    addedFlags head entry s other = s.flags other := by
  rw [addedFlags]
  split_ifs
  · simp [different]
  · simp [different, not_head]

end Flags

theorem removed_links (head entry : Nat) (type : RemoveType) (s : State) :
    (removed head entry type s).links =
      if entry = head then s.links.detach 0 head else s.links.unlink 0 head entry := rfl

theorem added_links (head entry l : Nat) (s : State) :
    (added head entry l s).links = addedLinks head entry s := rfl

end BobaOS.BuddyHeap
