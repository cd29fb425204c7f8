import BobaOS.Heap.BuddyShape

/-!
# Taking blocks out of the buddy heap

`kzallocBuddy` looks for a level that shows an entry and splits from there down to
the level of the block. As long as that entry is there, each split gives the next
level its first entries, one of which is split next; what is taken in the end is a
free node of the tree, and the nodes taken before are still taken.
-/

namespace BobaOS.BuddyHeap

open Programs HeadedLists BuddyTree

variable {v : Variables} {s after : State} {fault : Fault → Prop} {l i : Nat}

/-- The nodes of the heap are a tree, and the free ones are linked. -/
structure Sound (s : State) : Prop where
  linked : Linked s
  tree : Tree 1024 (kinds s)

/-- The entry that a level gives away: its head if that is free, or else the one
that the head names. -/
def State.chosen (s : State) (l : Nat) : Nat :=
  if s.isFree (entryOf l 0) then entryOf l 0 else s.next (entryOf l 0)

/-- A level shows an entry, and has one. -/
def State.Offers (s : State) (l : Nat) : Prop :=
  s.isFree (entryOf l 0) ∨ s.hasEntries (entryOf l 0) ∧ s.next (entryOf l 0) ≠ 0

/-- A level shows no entry. -/
def State.Quiet (s : State) (l : Nat) : Prop :=
  ¬ s.isFree (entryOf l 0) ∧ ¬ s.hasEntries (entryOf l 0)

/-- What a level offers is one of its free entries. -/
theorem Linked.chosen_free (linked : Linked s) (level : l < 8) (offers : s.Offers l) :
    ∃ i < entries l, s.chosen l = entryOf l i ∧ s.isFree (entryOf l i) := by
  by_cases free : s.isFree (entryOf l 0)
  · exact ⟨0, entries_positive l, if_pos free, free⟩
  · have some := (offers.resolve_left free).2
    obtain ⟨⟨i, -, inside, same⟩, is_free, -⟩ := (linked.lists l level).first.resolve_left some
    have same : s.next (entryOf l 0) = entryOf l i := same
    refine ⟨i, inside, (if_neg free).trans same, ?_⟩
    rw [← same]
    exact is_free

/-- The children of a node that is not split are not free. -/
theorem Sound.children (sound : Sound s) (level : l + 1 < 8) (inside : i < entries l)
    (free : s.isFree (entryOf l i)) (c : Nat) (child : c / 2 = i) :
    ¬ s.isFree (entryOf (l + 1) c) := by
  rw [isFree_iff level (child_inside inside child)]
  intro free_child
  have above := (sound.tree.below l c).mp (by rw [free_child]; exact nofun)
  rw [child, (isFree_iff (by omega) inside).mp free] at above
  cases above

/-! ## One split -/

@[simp] theorem added_hasEntries (head entry l : Nat) (s : State) :
    (added head entry l s).hasEntries head := by
  have shown : ∀ flags : BitVec 8,
      (flags ||| KHEAP_B_FLAG_HAS_ENTRIES) &&& KHEAP_B_FLAG_HAS_ENTRIES ≠ 0 := by
    decide +kernel
  have fresh : ∀ flags : BitVec 8,
      freshFlags (flags ||| KHEAP_B_FLAG_HAS_ENTRIES) &&& KHEAP_B_FLAG_HAS_ENTRIES ≠ 0 := by
    decide +kernel
  show addedFlags head entry s head &&& KHEAP_B_FLAG_HAS_ENTRIES ≠ 0
  rw [addedFlags]
  split_ifs with same
  · rw [same, Function.update_self]
    exact fresh _
  · rw [Function.update_of_ne (Ne.symm same), Function.update_self]
    exact shown _

/-- An entry that is added is named by the head, unless it is the head. -/
theorem added_next_head {head entry l : Nat} (other : entry ≠ head) :
    (added head entry l s).next head = entry := by
  rw [added, addedLinks]
  split_ifs
  · simp [Links.push]
  · simp [Links.push]
  · simp [Links.restart]

/-- The links and flags of the entries of a level have not changed. -/
def SameAt (l : Nat) (before after : State) : Prop :=
  ∀ i < entries l, after.next (entryOf l i) = before.next (entryOf l i) ∧
    after.prev (entryOf l i) = before.prev (entryOf l i) ∧
    after.flags (entryOf l i) = before.flags (entryOf l i)

theorem SameAt.trans {middle : State} (first : SameAt l s middle) (second : SameAt l middle after) :
    SameAt l s after := by
  intro i inside
  obtain ⟨next, prev, flags⟩ := second i inside
  obtain ⟨next', prev', flags'⟩ := first i inside
  exact ⟨next.trans next', prev.trans prev', flags.trans flags'⟩

theorem SameBeside.sameAt {l' : Nat} (beside : SameBeside l s after) (level : l' < 8) (other : l' ≠ l) :
    SameAt l' s after := beside.same l' level other

/-- What a level shows is up to its head. -/
theorem SameAt.quiet (same : SameAt l s after) (quiet : s.Quiet l) : after.Quiet l := by
  have flags := (same 0 (entries_positive l)).2.2
  rw [State.Quiet, State.isFree, State.hasEntries, flags]
  exact quiet

section Split

variable (sound : Sound s) (level : l + 1 < 8) (inside : i < entries l) (free : s.isFree (entryOf l i))

include sound level inside free

/-- A split keeps the heap sound. -/
theorem Sound.split : Sound (splitState l i s) where
  linked := (sound.linked.split_steps level inside free (sound.children level inside free)).2.2
  tree := by
    rw [sound.linked.kinds_split level inside free]
    exact sound.tree.split ((isFree_iff (by omega) inside).mp free)

/-- It makes both children free. -/
theorem Sound.split_child {c : Nat} (child : c / 2 = i) :
    (splitState l i s).isFree (entryOf (l + 1) c) := by
  rw [isFree_iff level (child_inside inside child), sound.linked.kinds_split level inside free]
  simp [BuddyTree.split, child]

/-- It leaves all but the two levels alone. -/
theorem Sound.split_beside {l' : Nat} (level' : l' < 8) (not_here : l' ≠ l) (not_below : l' ≠ l + 1) :
    SameAt l' s (splitState l i s) := by
  have even : 2 * i < entries (l + 1) := child_inside inside (by omega)
  have odd : 2 * i + 1 < entries (l + 1) := child_inside inside (by omega)
  obtain ⟨parted, first, -⟩ :=
    sound.linked.split_steps level inside free (sound.children level inside free)
  have removing := (sound.linked.removed_beside (by omega) inside free .split).sameAt level' not_here
  have adding := (parted.added_beside level even).sameAt level' not_below
  exact (removing.trans adding).trans ((first.added_beside level odd).sameAt level' not_below)

/-- On its own level it only removes the entry. -/
theorem Sound.split_here :
    SameAt l (removed (entryOf l 0) (entryOf l i) .split s) (splitState l i s) := by
  have even : 2 * i < entries (l + 1) := child_inside inside (by omega)
  have odd : 2 * i + 1 < entries (l + 1) := child_inside inside (by omega)
  obtain ⟨parted, first, -⟩ :=
    sound.linked.split_steps level inside free (sound.children level inside free)
  have other : l ≠ l + 1 := by omega
  have adding := (parted.added_beside level even).sameAt (by omega) other
  exact adding.trans ((first.added_beside level odd).sameAt (by omega) other)

/-- The next level offers one of the children, if it showed nothing before. -/
theorem Sound.split_offers (quiet : s.Quiet (l + 1)) :
    (splitState l i s).Offers (l + 1) ∧
      ∃ c, c / 2 = i ∧ (splitState l i s).chosen (l + 1) = entryOf (l + 1) c := by
  have even : 2 * i < entries (l + 1) := child_inside inside (by omega)
  have odd : 2 * i + 1 < entries (l + 1) := child_inside inside (by omega)
  have other : entryOf (l + 1) (2 * i + 1) ≠ entryOf (l + 1) 0 := by
    rw [ne_eq, entryOf_eq_head odd]
    omega
  have next : (splitState l i s).next (entryOf (l + 1) 0) = entryOf (l + 1) (2 * i + 1) :=
    added_next_head other
  have shown : (splitState l i s).hasEntries (entryOf (l + 1) 0) := added_hasEntries _ _ _ _
  refine ⟨.inr ⟨shown, next ▸ entryOf_ne_zero _ _⟩, ?_⟩
  by_cases first : i = 0
  · refine ⟨0, by omega, if_pos ?_⟩
    exact sound.split_child level inside free (by omega)
  · refine ⟨2 * i + 1, by omega, ?_⟩
    have taken : ¬ (splitState l i s).isFree (entryOf (l + 1) 0) := by
      rw [splitState, isFree_added, isFree_added, sound.linked.isFree_removed (by omega) inside free]
      rintro ((⟨was, -⟩ | here) | here)
      · exact quiet.1 was
      · exact first (by have index := (entryOf_eq_head even).mp here.symm; omega)
      · exact other here.symm
    rw [State.chosen, if_neg taken, next]

end Split

/-- The level below is found by the head's flags. -/
theorem splitEntryUp_meets (laid : LaidOut v) (sound : Sound s) (deeper : l + 2 < 8)
    (offers : s.Offers l) (inside : i < entries l) (chosen : s.chosen l = entryOf l i)
    (free : s.isFree (entryOf l i)) :
    Meets (splitEntryUp v l) s fault fun start after =>
      start = entryOf (l + 1) (2 * i) ∧ after = splitState l i s := by
  have real := laid.real (show l < 8 by omega) (entries_positive l)
  have split : Meets (splitEntry v (entryOf l i)) s fault fun start after =>
      start = entryOf (l + 1) (2 * i) ∧ after = splitState l i s :=
    sound.linked.splitEntry_meets (by omega) inside free
      (sound.children (by omega) inside free) laid deeper
  rw [splitEntryUp, laid.maxLvl, if_neg (by omega), meets_bind, tableAt_meets laid (by omega),
    meets_bind, meets_getFlags real, meets_ite]
  refine ⟨fun taken => ?_, fun head_free => ?_⟩
  · have not_free : ¬ s.isFree (entryOf l 0) := fun free => free taken
    have shown : s.flags (entryOf l 0) &&& KHEAP_B_FLAG_HAS_ENTRIES ≠ 0 :=
      (offers.resolve_left not_free).1
    rw [State.chosen, if_neg not_free] at chosen
    rwa [meets_bind, meets_getFlags real, if_pos shown, meets_bind, meets_getNext real, chosen]
  · rw [State.chosen, if_pos (show s.isFree (entryOf l 0) from head_free)] at chosen
    rwa [chosen]

/-! ## Splits down to a level -/

/-- From a free entry of one level, splits lead down to a free entry of another. -/
inductive Splits : Nat → Nat → State → Nat → Nat → State → Prop
  | here {l i : Nat} {s : State} (inside : i < entries l) (free : s.isFree (entryOf l i)) :
      Splits l i s l i s
  | onward {l i c l' i' : Nat} {s after : State} (level : l + 1 < 8) (inside : i < entries l)
      (free : s.isFree (entryOf l i)) (child : c / 2 = i)
      (rest : Splits (l + 1) c (splitState l i s) l' i' after) : Splits l i s l' i' after

section Down

variable {l' i' : Nat} (splits : Splits l i s l' i' after)

include splits

/-- The entry is free in the end. -/
theorem Splits.free : i' < entries l' ∧ after.isFree (entryOf l' i') := by
  induction splits with
  | here inside free => exact ⟨inside, free⟩
  | onward _ _ _ _ _ ih => exact ih

theorem Splits.deeper : l ≤ l' := by
  induction splits with
  | here => exact Nat.le_refl _
  | onward _ _ _ _ _ ih => omega

/-- The heap stays sound. -/
theorem Splits.sound (sound : Sound s) : Sound after := by
  induction splits with
  | here => exact sound
  | onward level inside free _ _ ih => exact ih (sound.split level inside free)

/-- What is taken does not change. -/
theorem Splits.taken (sound : Sound s) (k j : Nat) :
    kinds after k j = .taken ↔ kinds s k j = .taken := by
  induction splits with
  | here => rfl
  | @onward l i c l' i' s after level inside free _ _ ih =>
    rw [ih (sound.split level inside free), sound.linked.kinds_split level inside free]
    have here : kinds s l i = .free := (isFree_iff (by omega) inside).mp free
    rw [BuddyTree.split]
    split_ifs with at_node at_child
    · simp [at_node.1, at_node.2, here]
    · obtain ⟨rfl, rfl⟩ := at_child
      have absent : kinds s (l + 1) j = .absent := by
        by_contra there
        rw [(sound.tree.below l j).mp there] at here
        cases here
      simp [absent]
    · rfl

/-- At most the entry and its buddy are a pair of free ones. -/
theorem Splits.pairOf (sound : Sound s) (pair : PairOf (kinds s) l i) :
    PairOf (kinds after) l' i' := by
  induction splits with
  | here => exact pair
  | onward level inside free child _ ih =>
    refine ih (sound.split level inside free) ?_
    rw [sound.linked.kinds_split level inside free]
    exact pair.split child

/-- Levels above the first one are left alone. -/
theorem Splits.above (sound : Sound s) {k : Nat} (above : k < l) : SameAt k s after := by
  induction splits with
  | here => exact fun _ _ => ⟨rfl, rfl, rfl⟩
  | onward level inside free _ _ ih =>
    have step := sound.split_beside level inside free (show k < 8 by omega) (by omega) (by omega)
    exact step.trans (ih (sound.split level inside free) (by omega))

end Down

/-- The loop of `splitAndReturn`, where the levels below show nothing. -/
theorem splitFrom_meets (laid : LaidOut v) (left : Nat) : ∀ l i s e, Sound s → s.Offers l →
    i < entries l → s.chosen l = entryOf l i → s.isFree (entryOf l i) → l + left + 2 < 8 →
    (∀ k, l < k → k ≤ l + left + 1 → s.Quiet k) →
    Meets (splitFrom v (left + 1) l e) s fault fun entry after =>
      ∃ c, entry = entryOf (l + left + 1) c ∧ Splits l i s (l + left + 1) c after := by
  induction left with
  | zero =>
    intro l i s e sound offers inside chosen free deep quiet
    rw [splitFrom]
    apply (splitEntryUp_meets laid sound (by omega) offers inside chosen free).bind
    rintro _ _ ⟨rfl, rfl⟩
    rw [splitFrom]
    refine .pure ⟨_, rfl, .onward (by omega) inside free (Nat.mul_div_cancel_left i (by decide)) ?_⟩
    exact .here (child_inside inside (by omega))
      (sound.split_child (by omega) inside free (by omega))
  | succ left ih =>
    intro l i s e sound offers inside chosen free deep quiet
    rw [splitFrom]
    apply (splitEntryUp_meets laid sound (by omega) offers inside chosen free).bind
    rintro start _ ⟨-, rfl⟩
    have level : l + 1 < 8 := by omega
    obtain ⟨offers_next, c, child, chosen_next⟩ :=
      sound.split_offers level inside free (quiet (l + 1) (by omega) (by omega))
    have rest := ih (l + 1) c (splitState l i s) start (sound.split level inside free) offers_next
      (child_inside inside child) chosen_next (sound.split_child level inside free child) (by omega)
      fun k below last => (sound.split_beside level inside free (by omega) (by omega)
        (by omega)).quiet (quiet k (by omega) (by omega))
    refine rest.mono ?_
    rintro entry after ⟨c', same, splits⟩
    have bound : l + 1 + left + 1 = l + (left + 1) + 1 := by omega
    rw [bound] at same splits
    exact ⟨c', same, .onward level inside free child splits⟩

/-! ## Levels -/

/-- The level that is found has blocks of that size. -/
theorem findLvlBelow_some {block n found : Nat} (search : findLvlBelow v block n = some found) :
    found < n ∧ (v.tableMetaData found).blockSize = block := by
  induction n with
  | zero => cases search
  | succ n ih =>
    rw [findLvlBelow] at search
    split_ifs at search with here
    · rw [← Option.some.inj search]
      exact ⟨Nat.lt_succ_self n, here⟩
    · exact ⟨Nat.lt_succ_of_lt (ih search).1, (ih search).2⟩

theorem LaidOut.found (laid : LaidOut v) {block found : Nat}
    (search : findLvlForBlock v block = some found) : found < 8 ∧ block = pageSize found := by
  obtain ⟨level, size⟩ := findLvlBelow_some search
  rw [laid.maxLvl] at level
  rw [laid.blockSize found level] at size
  exact ⟨level, size.symm⟩

theorem pageSize_injective {l l' : Nat} (level : l < 8) (level' : l' < 8)
    (same : pageSize l = pageSize l') : l = l' := by
  have power : 2 ^ (7 - l) = 2 ^ (7 - l') := by
    simp only [pageSize] at same
    omega
  have exponent := Nat.pow_right_injective (Nat.le_refl 2) power
  omega

theorem findLvlBelow_pageSize (laid : LaidOut v) (level : l < 8) (n : Nat) (below : l < n) (last : n ≤ 8) :
    findLvlBelow v (pageSize l) n = some l := by
  induction n with
  | zero => omega
  | succ n ih =>
    rw [findLvlBelow, laid.blockSize n (by omega)]
    split_ifs with same
    · rw [pageSize_injective (by omega) level same]
    · refine ih (Nat.lt_of_le_of_ne (by omega) ?_) (by omega)
      rintro rfl
      exact same rfl

/-- Each size of a block has its level. -/
theorem LaidOut.findLvlForBlock (laid : LaidOut v) (level : l < 8) :
    BuddyHeap.findLvlForBlock v (pageSize l) = some l := by
  rw [BuddyHeap.findLvlForBlock, laid.maxLvl]
  exact findLvlBelow_pageSize laid level 8 level (Nat.le_refl 8)

/-- The level that is shown is the nearest one. -/
theorem shownLevel_some (laid : LaidOut v) {searchLvl freeLvl : Nat} (level : searchLvl < 8)
    (search : shownLevel v s searchLvl = some freeLvl) :
    freeLvl ≤ searchLvl ∧ (s.isFree (entryOf freeLvl 0) ∨ s.hasEntries (entryOf freeLvl 0)) ∧
      ∀ k, freeLvl < k → k ≤ searchLvl → s.Quiet k := by
  induction searchLvl with
  | zero =>
    rw [shownLevel, laid.table 0 level] at search
    split_ifs at search with shown
    obtain rfl := Option.some.inj search
    exact ⟨Nat.le_refl 0, shown, fun k below last => by omega⟩
  | succ searchLvl ih =>
    rw [shownLevel, laid.table _ level] at search
    split_ifs at search with shown
    · obtain rfl := Option.some.inj search
      exact ⟨Nat.le_refl _, shown, fun k below last => by omega⟩
    · obtain ⟨bound, some, quiet⟩ := ih (by omega) search
      refine ⟨by omega, some, fun k below last => ?_⟩
      by_cases here : k = searchLvl + 1
      · rw [here]
        exact not_or.mp shown
      · exact quiet k below (by omega)

/-- No level is shown where none shows an entry. -/
theorem shownLevel_none (laid : LaidOut v) {searchLvl : Nat} (level : searchLvl < 8)
    (search : shownLevel v s searchLvl = none) : s.Quiet 0 := by
  induction searchLvl with
  | zero =>
    rw [shownLevel, laid.table 0 level] at search
    split_ifs at search with shown
    exact not_or.mp shown
  | succ searchLvl ih =>
    rw [shownLevel] at search
    split_ifs at search
    exact ih (by omega) search

/-! ## Allocation -/

/-- The level that is shown has an entry to be taken: a level that gives a block away
says that it has entries, and blocks of the smallest size are not asked for by
splitting. Otherwise NULL is taken for the entry. -/
def Takeable (v : Variables) (s : State) (size : Nat) : Prop :=
  ∀ searchLvl freeLvl, findLvlForBlock v (toNextLvl size) = some searchLvl →
    shownLevel v s searchLvl = some freeLvl →
    (s.isFree (v.lvlTable freeLvl) ∨ s.next (v.lvlTable freeLvl) ≠ 0) ∧
    (if searchLvl = freeLvl then s.hasEntries (v.lvlTable freeLvl) else searchLvl + 1 ≠ v.maxLvl)

/-- What `kzallocBuddy` does with a sound heap. -/
inductive Allocated (v : Variables) (s : State) (size : Nat) : Nat → State → Prop
  | refused (reason : size = 0 ∨ v.maxPage < size ∨ findLvlForBlock v (toNextLvl size) = none ∨
      s.Quiet 0) : Allocated v s size 0 s
  | given {freeLvl i lvl c : Nat} {parted : State} (level : lvl < 8)
      (block : toNextLvl size = pageSize lvl) (offers : s.Offers freeLvl)
      (chosen : s.chosen freeLvl = entryOf freeLvl i) (splits : Splits freeLvl i s lvl c parted) :
      Allocated v s size (addressOf lvl c) (removed (entryOf lvl 0) (entryOf lvl c) .allocated parted)

theorem takeBlock_meets (laid : LaidOut v) (linked : Linked s) (level : l < 8) (inside : i < entries l)
    (free : s.isFree (entryOf l i)) :
    Meets (takeBlock v (entryOf l i) (pageSize l)) s fault fun pointer after =>
      pointer = addressOf l i ∧ after = removed (entryOf l 0) (entryOf l i) .allocated s := by
  have real := laid.real level inside
  have lvl : s.lvl (entryOf l i) = l :=
    linked.lvl l i (by rw [(isFree_iff level inside).mp free]; exact nofun)
  have fits := addressOf_fits level inside
  rw [takeBlock]
  apply (removeEntry_meets laid level (laid.real level (entries_positive l)) real lvl free
    (linked.prev_real laid level inside free) (linked.next_real laid level inside free)
    .allocated).bind
  rintro _ _ rfl
  have same : (removed (entryOf l 0) (entryOf l i) .allocated s).lvl (entryOf l i) = l := lvl
  rw [meets_bind, entryToHeapAddress_meets laid level inside same, meets_bind, clearBytes,
    if_pos ⟨Nat.le_add_right _ _, by rw [laid.heapSize]; exact fits⟩, meets_pure]
  exact .pure ⟨rfl, rfl⟩

/-- A block is given if the size has a level and the search for it is shown one. -/
theorem kzallocBuddy_given (laid : LaidOut v) (sound : Sound s) {size searchLvl freeLvl : Nat}
    (asked : ¬ (size = 0 ∨ v.maxPage < size)) (takeable : Takeable v s size)
    (search : findLvlForBlock v (toNextLvl size) = some searchLvl)
    (shown : shownLevel v s searchLvl = some freeLvl) :
    Meets (kzallocBuddy v size) s fault fun pointer after =>
      pointer ≠ 0 ∧ Allocated v s size pointer after := by
  obtain ⟨level, block⟩ := laid.found search
  obtain ⟨some, way⟩ := takeable searchLvl freeLvl search shown
  obtain ⟨bound, shows, quiet⟩ := shownLevel_some laid level shown
  have level' : freeLvl < 8 := by omega
  rw [laid.table freeLvl level'] at some way
  have offers : s.Offers freeLvl := by
    rw [State.Offers]
    tauto
  obtain ⟨i, inside, chosen, free⟩ := sound.linked.chosen_free level' offers
  rw [kzallocBuddy, if_neg asked, search]
  dsimp only
  rw [meets_bind, meets_get, shown]
  dsimp only
  rw [block, meets_ite]
  refine ⟨fun apart => ?_, fun same => ?_⟩
  · -- The level is below: the free entry is split down to it.
    rw [if_neg apart, laid.maxLvl] at way
    obtain ⟨left, rfl⟩ : ∃ left, searchLvl = freeLvl + left + 1 :=
      ⟨searchLvl - freeLvl - 1, by omega⟩
    have steps : freeLvl + left + 1 - freeLvl = left + 1 := by omega
    rw [splitAndReturn, steps]
    apply (splitFrom_meets laid left freeLvl i s 0 sound offers inside chosen free (by omega)
      quiet).bind
    rintro _ parted ⟨c, rfl, splits⟩
    obtain ⟨inside', free'⟩ := splits.free
    refine (takeBlock_meets laid (splits.sound sound).linked level inside' free').mono ?_
    rintro _ _ ⟨rfl, rfl⟩
    exact ⟨addressOf_ne_zero _ _, .given level block offers chosen splits⟩
  · obtain rfl := not_not.mp same
    rw [if_pos rfl] at way
    have way : s.flags (entryOf searchLvl 0) &&& KHEAP_B_FLAG_HAS_ENTRIES ≠ 0 := way
    have entry : Meets (getFreeEntry v searchLvl) s fault fun entry after =>
        entry = entryOf searchLvl i ∧ after = s := by
      have real := laid.real level' (entries_positive searchLvl)
      rw [getFreeEntry, meets_bind, tableAt_meets laid level', meets_bind, meets_getFlags real,
        if_pos way, meets_bind, meets_getFlags real, meets_ite, meets_pure,
        meets_getNext real, ← chosen, State.chosen]
      exact ⟨fun free => ⟨(if_pos free).symm, rfl⟩, fun taken => ⟨(if_neg taken).symm, rfl⟩⟩
    apply entry.bind
    rintro _ _ ⟨rfl, rfl⟩
    refine (takeBlock_meets laid sound.linked level' inside free).mono ?_
    rintro _ _ ⟨rfl, rfl⟩
    exact ⟨addressOf_ne_zero _ _, .given level' block offers chosen (.here inside free)⟩

/-- Nothing is given otherwise. -/
theorem kzallocBuddy_refused {size : Nat}
    (hidden : ∀ searchLvl, findLvlForBlock v (toNextLvl size) = some searchLvl →
      shownLevel v s searchLvl = none) :
    Meets (kzallocBuddy v size) s fault fun pointer after => pointer = 0 ∧ after = s := by
  rw [kzallocBuddy, meets_ite]
  refine ⟨fun _ => .pure ⟨rfl, rfl⟩, fun _ => ?_⟩
  cases search : findLvlForBlock v (toNextLvl size) with
  | none => exact .pure ⟨rfl, rfl⟩
  | some searchLvl =>
    dsimp only
    rw [meets_bind, meets_get, hidden searchLvl search]
    exact .pure ⟨rfl, rfl⟩

theorem kzallocBuddy_meets (laid : LaidOut v) (sound : Sound s) {size : Nat}
    (takeable : Takeable v s size) :
    Meets (kzallocBuddy v size) s fault fun pointer after => Allocated v s size pointer after := by
  by_cases asked : size = 0 ∨ v.maxPage < size
  · rw [kzallocBuddy, if_pos asked]
    exact .pure (.refused (by tauto))
  cases search : findLvlForBlock v (toNextLvl size) with
  | none =>
    apply (kzallocBuddy_refused fun searchLvl found => by rw [search] at found; cases found).mono
    rintro _ _ ⟨rfl, rfl⟩
    exact .refused (.inr (.inr (.inl search)))
  | some searchLvl =>
    cases shown : shownLevel v s searchLvl with
    | none =>
      apply (kzallocBuddy_refused fun other found => by
        rw [search] at found
        rw [← Option.some.inj found, shown]).mono
      rintro _ _ ⟨rfl, rfl⟩
      exact .refused (.inr (.inr (.inr (shownLevel_none laid (laid.found search).1 shown))))
    | some freeLvl =>
      exact (kzallocBuddy_given laid sound asked takeable search shown).mono
        fun _ _ both => both.2

section Allocated

variable {size pointer : Nat} (allocated : Allocated v s size pointer after) (before : Sound s)

include allocated before

/-- The heap stays sound. -/
theorem Allocated.sound : Sound after := by
  cases allocated with
  | refused => exact before
  | given level _ _ _ splits =>
    obtain ⟨inside, free⟩ := splits.free
    have parted := splits.sound before
    refine ⟨parted.linked.remove level inside free .allocated, ?_⟩
    rw [parted.linked.kinds_removed level inside free]
    have here := (isFree_iff level inside).mp free
    exact parted.tree.set (by simp [here]) (by simp [here]) nofun nofun

/-- One block is taken that was not taken before, or none. -/
theorem Allocated.taken : (pointer = 0 ∧ after = s) ∨
    ∃ l i, l < 8 ∧ i < entries l ∧ pointer = addressOf l i ∧ toNextLvl size = pageSize l ∧
      kinds s l i ≠ .taken ∧
      ∀ k j, kinds after k j = .taken ↔ kinds s k j = .taken ∨ k = l ∧ j = i := by
  cases allocated with
  | refused => exact .inl ⟨rfl, rfl⟩
  | @given freeLvl i lvl c parted level block offers chosen splits =>
    obtain ⟨inside, free⟩ := splits.free
    have linked := (splits.sound before).linked
    have here := (isFree_iff level inside).mp free
    refine .inr ⟨lvl, c, level, inside, rfl, block, ?_, fun k j => ?_⟩
    · rw [ne_eq, ← splits.taken before, here]
      exact nofun
    · rw [linked.kinds_removed level inside free, BuddyTree.set, ← splits.taken before]
      split_ifs with at_node
      · simp [at_node, RemoveType.kind]
      · simp [at_node]

end Allocated

end BobaOS.BuddyHeap
