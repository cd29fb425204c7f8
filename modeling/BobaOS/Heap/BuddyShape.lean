import BobaOS.Heap.BuddyTables

/-!
# The shape of the buddy heap

The flags of the entries make a tree of nodes, of which the free ones are linked.
Removing an entry, adding one and clearing its flags keep the links and change one
node of the tree, so that a split of an entry splits its node.
-/

namespace BobaOS.BuddyHeap

open Programs HeadedLists BuddyTree

variable {v : Variables} {s : State} {fault : Fault → Prop}

/-- The entries of a level besides the head. -/
def Cell (l entry : Nat) : Prop := ∃ i, 0 < i ∧ i < entries l ∧ entry = entryOf l i

theorem cell_ne_zero {l entry : Nat} (cell : Cell l entry) : entry ≠ 0 := by
  obtain ⟨i, -, -, rfl⟩ := cell
  exact entryOf_ne_zero l i

theorem entries_positive (l : Nat) : 0 < entries l := Nat.mul_pos (by decide) (Nat.two_pow_pos l)

theorem head_not_cell (l : Nat) : ¬ Cell l (entryOf l 0) := by
  rintro ⟨i, positive, inside, same⟩
  have index := (entryOf_injective (entries_positive l) inside same).2
  omega

theorem cell_iff {l i : Nat} (inside : i < entries l) : Cell l (entryOf l i) ↔ i ≠ 0 := by
  constructor
  · rintro cell rfl
    exact head_not_cell l cell
  · intro some
    exact ⟨i, Nat.pos_of_ne_zero some, inside, rfl⟩

theorem entryOf_eq_head {l i : Nat} (inside : i < entries l) :
    entryOf l i = entryOf l 0 ↔ i = 0 := by
  constructor
  · exact fun same => (entryOf_injective inside (entries_positive l) same).2
  · rintro rfl
    rfl

theorem LaidOut.real (laid : LaidOut v) {l i : Nat} (level : l < 8) (inside : i < entries l) :
    Real v (entryOf l i) := ⟨laid.isEntry level inside, entryOf_ne_zero l i⟩

theorem LaidOut.real_cell (laid : LaidOut v) {l entry : Nat} (level : l < 8) (cell : Cell l entry) :
    Real v entry := by
  obtain ⟨i, -, inside, rfl⟩ := cell
  exact laid.real level inside

/-- The kinds of the entries. -/
def kinds (s : State) : Kinds :=
  fun l i => if l < 8 ∧ i < entries l then kindOf (s.flags (entryOf l i)) else .absent

theorem kinds_inside {l i : Nat} (level : l < 8) (inside : i < entries l) :
    kinds s l i = kindOf (s.flags (entryOf l i)) := if_pos ⟨level, inside⟩

/-- A node that is there is an entry. -/
theorem kinds_there {l i : Nat} (there : kinds s l i ≠ .absent) : l < 8 ∧ i < entries l := by
  by_contra outside
  exact there (if_neg outside)

theorem isFree_iff {l i : Nat} (level : l < 8) (inside : i < entries l) :
    s.isFree (entryOf l i) ↔ kinds s l i = .free := by
  rw [kinds_inside level inside, kindOf_free, State.isFree]

/-- The flags name at most one kind, each entry that is there knows its level, and
the free entries of each level are linked. -/
structure Linked (s : State) : Prop where
  one : ∀ l < 8, ∀ i < entries l, OneKind (s.flags (entryOf l i))
  lvl : ∀ l i, kinds s l i ≠ .absent → s.lvl (entryOf l i) = l
  lists : ∀ l < 8, Loose 0 (entryOf l 0) (Cell l) s.isFree s.links

/-- The entries of the other levels have not changed. -/
structure SameBeside (l : Nat) (before after : State) : Prop where
  same : ∀ l' < 8, l' ≠ l → ∀ i < entries l',
    after.next (entryOf l' i) = before.next (entryOf l' i) ∧
    after.prev (entryOf l' i) = before.prev (entryOf l' i) ∧
    after.flags (entryOf l' i) = before.flags (entryOf l' i)

section Pointers

variable (linked : Linked s) (laid : LaidOut v) {l : Nat} (level : l < 8)

include linked laid level

/-- The head names a free entry of its level, or nothing. -/
theorem Linked.next_head :
    s.next (entryOf l 0) = 0 ∨ Real v (s.next (entryOf l 0)) :=
  (linked.lists l level).first.imp_right fun named => laid.real_cell level named.1

variable {i : Nat} (inside : i < entries l) (free : s.isFree (entryOf l i))

include inside free

theorem Linked.next_real :
    s.next (entryOf l i) = 0 ∨ Real v (s.next (entryOf l i)) := by
  by_cases first : i = 0
  · subst first
    exact linked.next_head laid level
  · have cell := (cell_iff inside).mpr first
    exact ((linked.lists l level).next _ cell free).imp_right fun named =>
      laid.real_cell level named.1

theorem Linked.prev_real (other : entryOf l i ≠ entryOf l 0) :
    s.prev (entryOf l i) = 0 ∨ Real v (s.prev (entryOf l i)) := by
  have cell := (cell_iff inside).mpr fun first => other ((entryOf_eq_head inside).mpr first)
  rcases (linked.lists l level).prev _ cell free with none | first | named
  · exact .inl none
  · have first : s.prev (entryOf l i) = entryOf l 0 := first
    rw [first]
    exact .inr (laid.real level (entries_positive l))
  · exact .inr (laid.real_cell level named.1)

end Pointers

/-! ## Removing and adding -/

/-- Entries of two levels are different. -/
theorem entryOf_beside {l l' i i' : Nat} (inside : i < entries l) (inside' : i' < entries l')
    (other : l' ≠ l) : entryOf l' i' ≠ entryOf l i :=
  fun same => other (entryOf_injective inside' inside same).1

theorem not_cell_beside {l l' i' : Nat} (inside' : i' < entries l') (other : l' ≠ l) :
    ¬ Cell l (entryOf l' i') := by
  rintro ⟨i, -, inside, same⟩
  exact entryOf_beside inside inside' other same

/-- Where one level has changed, the rest stays linked. -/
theorem Linked.of_level {after : State} {l : Nat} (linked : Linked s) (beside : SameBeside l s after)
    (one : ∀ i < entries l, OneKind (after.flags (entryOf l i)))
    (lvl : ∀ l' i, kinds after l' i ≠ .absent → after.lvl (entryOf l' i) = l')
    (list : Loose 0 (entryOf l 0) (Cell l) after.isFree after.links) : Linked after where
  one l' level i inside := by
    by_cases here : l' = l
    · subst here
      exact one i inside
    · rw [(beside.same l' level here i inside).2.2]
      exact linked.one l' level i inside
  lvl := lvl
  lists l' level := by
    by_cases here : l' = l
    · subst here
      exact list
    · refine (linked.lists l' level).congr ?_ ?_ ?_
      · rintro _ ⟨i, -, inside, rfl⟩
        rw [State.isFree, State.isFree, (beside.same l' level here i inside).2.2]
      · rintro _ ⟨i, -, inside, rfl⟩
        have same := beside.same l' level here i inside
        exact ⟨same.1, same.2.1⟩
      · exact (beside.same l' level here 0 (entries_positive l')).1

/-- Links and flags that are the same outside a level are the same beside it. -/
theorem sameBeside_of {after : State} {l : Nat}
    (links : SameOutside 0 (entryOf l 0) (Cell l) s.links after.links)
    (flags : ∀ entry, ¬ Cell l entry → entry ≠ entryOf l 0 → after.flags entry = s.flags entry) :
    SameBeside l s after where
  same l' _ other i' inside' := by
    have not_cell := not_cell_beside inside' other
    have not_head := entryOf_beside (entries_positive l) inside' other
    obtain ⟨next, prev⟩ := links _ not_cell not_head (entryOf_ne_zero l' i')
    exact ⟨next, prev, flags _ not_cell not_head⟩

/-- One node of the tree has changed. -/
theorem kinds_set {after : State} {l i : Nat} {kind : Kind} (level : l < 8) (inside : i < entries l)
    (flags : ∀ entry, kindOf (after.flags entry) =
      if entry = entryOf l i then kind else kindOf (s.flags entry)) :
    kinds after = set (kinds s) l i kind := by
  funext l' i'
  by_cases there : l' < 8 ∧ i' < entries l'
  · rw [kinds_inside there.1 there.2, flags]
    by_cases here : l' = l ∧ i' = i
    · obtain ⟨rfl, rfl⟩ := here
      simp
    · have other : entryOf l' i' ≠ entryOf l i := fun same =>
        here (entryOf_injective there.2 inside same)
      rw [if_neg other, set_other (by omega), kinds_inside there.1 there.2]
  · have here : ¬ (l' = l ∧ i' = i) := by
      rintro ⟨rfl, rfl⟩
      exact there ⟨level, inside⟩
    rw [set_other (by omega), kinds, if_neg there, kinds, if_neg there]

section Entry

variable {l i : Nat} (linked : Linked s) (level : l < 8) (inside : i < entries l)

include linked level inside

theorem Linked.kinds_removed (free : s.isFree (entryOf l i)) (type : RemoveType) :
    kinds (removed (entryOf l 0) (entryOf l i) type s) = set (kinds s) l i type.kind :=
  kinds_set level inside fun entry =>
    (removedFlags_kind _ (linked.one l level i inside) free type entry).1

omit linked in
theorem kinds_added : kinds (added (entryOf l 0) (entryOf l i) l s) = set (kinds s) l i .free :=
  kinds_set level inside fun entry => (addedFlags_kind _ _ entry).1

/-- A removed entry is not free any more. -/
theorem Linked.isFree_removed (free : s.isFree (entryOf l i)) (type : RemoveType) (entry : Nat) :
    (removed (entryOf l 0) (entryOf l i) type s).isFree entry ↔
      s.isFree entry ∧ entry ≠ entryOf l i := by
  have kind := (removedFlags_kind (entryOf l 0) (linked.one l level i inside) free type entry).1
  rw [State.isFree, State.isFree, ← kindOf_free, ← kindOf_free, removed, kind]
  split_ifs with here
  · cases type <;> simp [RemoveType.kind, here]
  · simp [here]

/-- Removing an entry leaves the other levels alone. -/
theorem Linked.removed_beside (free : s.isFree (entryOf l i)) (type : RemoveType) :
    SameBeside l s (removed (entryOf l 0) (entryOf l i) type s) := by
  have loose := linked.lists l level
  refine sameBeside_of ?_ ?_
  · rw [removed_links]
    by_cases first : i = 0
    · rw [if_pos ((entryOf_eq_head inside).mpr first)]
      exact loose.detach_outside
    · rw [if_neg fun same => first ((entryOf_eq_head inside).mp same)]
      exact loose.unlink_outside ((cell_iff inside).mpr first) free
  · intro entry not_cell not_head
    refine removedFlags_other _ type not_head ?_
    rintro rfl
    exact not_cell ((cell_iff inside).mpr fun first => not_head ((entryOf_eq_head inside).mpr first))

/-- It keeps the lists. -/
theorem Linked.remove (free : s.isFree (entryOf l i)) (type : RemoveType) :
    Linked (removed (entryOf l 0) (entryOf l i) type s) := by
  have loose := linked.lists l level
  have is_free := linked.isFree_removed level inside free type
  refine linked.of_level (linked.removed_beside level inside free type) ?_ ?_ ?_
  · intro j inside'
    exact (removedFlags_kind _ (linked.one l level i inside) free type _).2
      (linked.one l level j inside')
  · intro l' i' there
    rw [linked.kinds_removed level inside free type] at there
    refine linked.lvl l' i' fun absent => ?_
    by_cases here : l' = l ∧ i' = i
    · obtain ⟨rfl, rfl⟩ := here
      rw [(isFree_iff level inside).mp free] at absent
      cases absent
    · rw [set_other (by omega)] at there
      exact there absent
  · rw [removed_links]
    by_cases first : i = 0
    · rw [if_pos ((entryOf_eq_head inside).mpr first)]
      refine (loose.detach (head_not_cell l)).congr ?_ (fun _ _ => ⟨rfl, rfl⟩) rfl
      intro entry cell
      rw [is_free entry, first]
      refine and_iff_left ?_
      rintro rfl
      exact head_not_cell l cell
    · rw [if_neg fun same => first ((entryOf_eq_head inside).mp same)]
      exact loose.unlink (fun cell => cell_ne_zero cell rfl) (head_not_cell l)
        ((cell_iff inside).mpr first) free fun entry _ => is_free entry

omit linked level inside in
theorem isFree_added (entry : Nat) : (added (entryOf l 0) (entryOf l i) l s).isFree entry ↔
    s.isFree entry ∨ entry = entryOf l i := by
  have kind := (addedFlags_kind (s := s) (entryOf l 0) (entryOf l i) entry).1
  rw [State.isFree, State.isFree, ← kindOf_free, ← kindOf_free, added, kind]
  split_ifs with here
  · simp [here]
  · simp [here]

/-- Adding an entry leaves the other levels alone. -/
theorem Linked.added_beside : SameBeside l s (added (entryOf l 0) (entryOf l i) l s) := by
  have loose := linked.lists l level
  refine sameBeside_of ?_ ?_
  · rw [added_links, addedLinks]
    by_cases first : i = 0
    · have same := (entryOf_eq_head inside).mpr first
      split_ifs
      · exact loose.rejoin_outside
      · exact fun _ _ _ _ => ⟨rfl, rfl⟩
    · have other := fun same => first ((entryOf_eq_head inside).mp same)
      split_ifs
      · exact loose.push_outside ((cell_iff inside).mpr first) _
      · exact loose.push_outside ((cell_iff inside).mpr first) _
      · exact restart_outside _ _
  · intro entry not_cell not_head
    refine addedFlags_other _ not_head ?_
    rintro rfl
    exact not_cell ((cell_iff inside).mpr fun first => not_head ((entryOf_eq_head inside).mpr first))

/-- It keeps the lists, if the entry was not free. -/
theorem Linked.add (taken : ¬ s.isFree (entryOf l i)) :
    Linked (added (entryOf l 0) (entryOf l i) l s) := by
  have loose := linked.lists l level
  have is_free := isFree_added (l := l) (i := i) (s := s)
  refine linked.of_level (linked.added_beside level inside) ?_ ?_ ?_
  · intro j inside'
    exact (addedFlags_kind _ _ _).2 (linked.one l level j inside')
  · intro l' i' there
    have bounds := kinds_there there
    rw [kinds_added level inside] at there
    by_cases here : l' = l ∧ i' = i
    · obtain ⟨rfl, rfl⟩ := here
      simp [added]
    · have other : entryOf l' i' ≠ entryOf l i := fun same =>
        here (entryOf_injective bounds.2 inside same)
      rw [set_other (by omega)] at there
      simp only [added, Function.update_of_ne other]
      exact linked.lvl l' i' there
  · rw [added_links, addedLinks]
    by_cases first : i = 0
    · have same := (entryOf_eq_head inside).mpr first
      have rest (entry : Nat) (cell : Cell l entry) :
          (added (entryOf l 0) (entryOf l i) l s).isFree entry ↔ s.isFree entry := by
        rw [is_free entry, same]
        refine or_iff_left ?_
        rintro rfl
        exact head_not_cell l cell
      split_ifs
      · exact (loose.rejoin fun cell => cell_ne_zero cell rfl).congr rest (fun _ _ => ⟨rfl, rfl⟩) rfl
      · exact loose.congr rest (fun _ _ => ⟨rfl, rfl⟩) rfl
    · have other := fun same => first ((entryOf_eq_head inside).mp same)
      have cell := (cell_iff inside).mpr first
      have null_outside : ¬ Cell l 0 := fun cell => cell_ne_zero cell rfl
      split_ifs
      · exact loose.push null_outside (head_not_cell l) cell taken (.inr rfl) fun y _ => is_free y
      · exact loose.push null_outside (head_not_cell l) cell taken (.inl rfl) fun y _ => is_free y
      · exact loose.restart (head_not_cell l) cell taken fun y _ => is_free y

omit linked in
theorem kinds_cleared : kinds (cleared (entryOf l i) s) = set (kinds s) l i .absent := by
  refine kinds_set level inside fun entry => ?_
  rw [cleared]
  by_cases here : entry = entryOf l i
  · rw [if_pos here, here]
    simp [kindOf]
  · rw [if_neg here]
    simp [here]

/-- An entry that is not free may lose its flags. -/
theorem Linked.clear (taken : ¬ s.isFree (entryOf l i)) : Linked (cleared (entryOf l i) s) := by
  refine ⟨?_, ?_, ?_⟩
  · intro l' level' j inside'
    simp only [cleared, Function.update_apply]
    split
    · simp [OneKind]
    · exact linked.one l' level' j inside'
  · intro l' i' there
    rw [kinds_cleared level inside] at there
    refine linked.lvl l' i' fun absent => there ?_
    rw [BuddyTree.set, absent, ite_self]
  · intro l' level'
    refine (linked.lists l' level').congr ?_ (fun _ _ => ⟨rfl, rfl⟩) rfl
    intro entry _
    simp only [State.isFree, cleared, Function.update_apply]
    split
    · rename_i here
      rw [here]
      simpa [State.isFree] using taken
    · rfl

end Entry

/-! ## Where the functions lead -/

/-- The address of a block, by level and index. -/
def addressOf (l i : Nat) : Nat := BOBAOS_KERNEL_HEAP_ADDRESS + i * pageSize l

theorem pageSize_positive (l : Nat) : 0 < pageSize l := Nat.mul_pos (by decide) (Nat.two_pow_pos _)

/-- The blocks of each level fill the heap. -/
theorem entries_pageSize {l : Nat} (level : l < 8) : entries l * pageSize l = 1024 * 0x20000 := by
  have power : 2 ^ l * 2 ^ (7 - l) = 128 := by
    rw [← Nat.pow_add, Nat.add_sub_cancel' (by omega)]
  calc entries l * pageSize l = 1024 * 1024 * (2 ^ l * 2 ^ (7 - l)) := by rw [entries, pageSize]; ring
    _ = 1024 * 0x20000 := by rw [power]

theorem addressOf_ne_zero (l i : Nat) : addressOf l i ≠ 0 := by
  rw [addressOf, BOBAOS_KERNEL_HEAP_ADDRESS]
  omega

theorem addressOf_fits {l i : Nat} (level : l < 8) (inside : i < entries l) :
    addressOf l i + pageSize l ≤ BOBAOS_KERNEL_HEAP_ADDRESS + 1024 * 0x20000 := by
  have bound := Nat.mul_le_mul_right (pageSize l) (Nat.succ_le_of_lt inside)
  rw [entries_pageSize level, Nat.succ_mul] at bound
  rw [addressOf]
  omega

section Addresses

variable {l i : Nat} (laid : LaidOut v) (level : l < 8) (inside : i < entries l)
  (lvl : s.lvl (entryOf l i) = l)

include laid level inside lvl

theorem getHigher_meets (deeper : l + 1 < 8) {post : Nat → State → Prop} :
    Meets (getHigherTableEntryAddressFromBlock v (entryOf l i)) s fault post ↔
      post (entryOf (l + 1) (2 * i)) s := by
  rw [← laid.entryAt level] at lvl ⊢
  rw [← laid.entryAt deeper]
  exact laid.tables.getHigher_meets (laid.level level) (laid.index level inside) lvl
    (laid.level deeper)

theorem getBuddy_meets {post : Nat → State → Prop} :
    Meets (getBuddy v (entryOf l i)) s fault post ↔ post (entryOf l (buddy i)) s := by
  have other : buddy i < entries l := by
    rw [entries] at inside ⊢
    rw [buddy]
    split_ifs <;> omega
  rw [← laid.entryAt level] at lvl ⊢
  rw [← laid.entryAt level]
  exact laid.tables.getBuddy_meets (laid.level level) (laid.index level inside) lvl
    (laid.index level other)

theorem entryToHeapAddress_meets {post : Nat → State → Prop} :
    Meets (entryToHeapAddress v (entryOf l i)) s fault post ↔ post (addressOf l i) s := by
  have fits := addressOf_fits level inside
  have narrow : (BOBAOS_KERNEL_HEAP_ADDRESS + i * pageSize l) % 2 ^ 64 = addressOf l i :=
    Nat.mod_eq_of_lt (by simp only [addressOf, BOBAOS_KERNEL_HEAP_ADDRESS] at fits ⊢; omega)
  rw [← laid.entryAt level] at lvl ⊢
  rw [entryToHeapAddress_from, laid.tables.entryToHeapAddress_meets (laid.level level)
    (laid.index level inside) lvl, laid.blockSize l level, narrow]

end Addresses

theorem getLower_meets {l i : Nat} (laid : LaidOut v) (level : l + 1 < 8) (inside : i < entries (l + 1))
    (lvl : s.lvl (entryOf (l + 1) i) = l + 1) {post : Nat → State → Prop} :
    Meets (getLowerTableEntryAddressFromBlock v (entryOf (l + 1) i)) s fault post ↔
      post (entryOf l (i / 2)) s := by
  rw [← laid.entryAt level] at lvl ⊢
  rw [← laid.entryAt (show l < 8 by omega)]
  exact laid.tables.getLower_meets (laid.level level) (laid.index level inside) lvl

/-! ## Splitting -/

/-- The state after `splitEntry`. -/
def splitState (l i : Nat) (s : State) : State :=
  added (entryOf (l + 1) 0) (entryOf (l + 1) (2 * i + 1)) (l + 1)
    (added (entryOf (l + 1) 0) (entryOf (l + 1) (2 * i)) (l + 1)
      (removed (entryOf l 0) (entryOf l i) .split s))

theorem child_inside {l i c : Nat} (inside : i < entries l) (child : c / 2 = i) :
    c < entries (l + 1) := by
  simp only [entries, Nat.pow_succ] at inside ⊢
  omega

theorem parent_inside {l i : Nat} (inside : i < entries (l + 1)) : i / 2 < entries l := by
  simp only [entries, Nat.pow_succ] at inside ⊢
  omega

section Split

variable {l i : Nat} (linked : Linked s) (level : l + 1 < 8) (inside : i < entries l)
  (free : s.isFree (entryOf l i))
  (children : ∀ c, c / 2 = i → ¬ s.isFree (entryOf (l + 1) c))

include linked level inside free

include children in
/-- The three steps keep the lists. -/
theorem Linked.split_steps :
    let parted := removed (entryOf l 0) (entryOf l i) .split s
    let first := added (entryOf (l + 1) 0) (entryOf (l + 1) (2 * i)) (l + 1) parted
    Linked parted ∧ Linked first ∧ Linked (splitState l i s) := by
  have even : 2 * i < entries (l + 1) := child_inside inside (by omega)
  have odd : 2 * i + 1 < entries (l + 1) := child_inside inside (by omega)
  have parted := linked.remove (by omega) inside free .split
  have taken (c : Nat) (child : c / 2 = i) :
      ¬ (removed (entryOf l 0) (entryOf l i) .split s).isFree (entryOf (l + 1) c) := by
    rw [linked.isFree_removed (by omega) inside free]
    exact fun both => children c child both.1
  have first := parted.add level even (taken (2 * i) (by omega))
  refine ⟨parted, first, first.add level odd ?_⟩
  rw [isFree_added]
  rintro (was | same)
  · exact taken (2 * i + 1) (by omega) was
  · have index := (entryOf_injective odd even same).2
    omega

include children in
theorem Linked.splitEntry_meets (laid : LaidOut v) (deeper : l + 2 < 8) :
    Meets (splitEntry v (entryOf l i)) s fault fun start after =>
      start = entryOf (l + 1) (2 * i) ∧ after = splitState l i s := by
  have even : 2 * i < entries (l + 1) := child_inside inside (by omega)
  have odd : 2 * i + 1 < entries (l + 1) := child_inside inside (by omega)
  have real := laid.real (by omega) inside
  have lvl : s.lvl (entryOf l i) = l :=
    linked.lvl l i (by rw [(isFree_iff (by omega) inside).mp free]; exact nofun)
  obtain ⟨parted, first, -⟩ := linked.split_steps level inside free children
  have next_step := entryOf_add (l + 1) (2 * i) 1
  have below : entryOf (l + 1) (2 * i + 1) < entryOf (l + 2) 0 := entryOf_below odd
  rw [Nat.mul_one] at next_step
  rw [splitEntry, meets_bind, getHigher_meets laid (by omega) inside lvl level, meets_bind,
    meets_getLvl real, lvl, meets_bind, tableAt_meets laid deeper, if_neg (by omega), meets_bind]
  apply (removeEntry_meets laid (by omega) (laid.real (by omega) (entries_positive l)) real lvl free
    (linked.prev_real laid (by omega) inside free) (linked.next_real laid (by omega) inside free)
    .split).mono
  rintro _ _ rfl
  rw [meets_bind, meets_getLvl real, meets_bind]
  have same : (removed (entryOf l 0) (entryOf l i) .split s).lvl (entryOf l i) = l := lvl
  rw [same]
  apply (addEntry_meets laid level (laid.real level (entries_positive _)) (laid.real level even)
    (parted.next_head laid level)).mono
  rintro _ _ rfl
  have kept : (added (entryOf (l + 1) 0) (entryOf (l + 1) (2 * i)) (l + 1)
      (removed (entryOf l 0) (entryOf l i) .split s)).lvl (entryOf l i) = l := by
    have other := entryOf_beside inside even (Nat.succ_ne_self l)
    simpa [added, Ne.symm other] using same
  rw [meets_bind, meets_getLvl real, meets_bind, kept, next_step]
  apply (addEntry_meets laid level (laid.real level (entries_positive _)) (laid.real level odd)
    (first.next_head laid level)).mono
  rintro _ _ rfl
  exact .pure ⟨rfl, rfl⟩

/-- The tree is split at the entry. -/
theorem Linked.kinds_split : kinds (splitState l i s) = split (kinds s) l i := by
  have even : 2 * i < entries (l + 1) := child_inside inside (by omega)
  have odd : 2 * i + 1 < entries (l + 1) := child_inside inside (by omega)
  rw [splitState, kinds_added level odd, kinds_added level even,
    linked.kinds_removed (by omega) inside free]
  funext l' i'
  simp only [BuddyTree.set, BuddyTree.split, RemoveType.kind]
  grind

end Split

end BobaOS.BuddyHeap
