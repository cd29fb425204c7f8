import BobaOS.Heap.BuddySplits

/-!
# Giving blocks back to the buddy heap

`kzfreeBuddy` looks from the first level on for the entry that is taken, which it
finds since all nodes above it are split. If the entry's buddy is free, the two are
joined into the node above, and that one with its own buddy as far as possible. The
heap stays sound, and the block is all that is not taken any more.
-/

namespace BobaOS.BuddyHeap

open Programs HeadedLists BuddyTree

variable {v : Variables} {s after : State} {fault : Fault → Prop} {l i : Nat}

theorem pageSize_double {l : Nat} (level : l + 1 < 8) : pageSize l = 2 * pageSize (l + 1) := by
  have power : 7 - l = 7 - (l + 1) + 1 := by omega
  rw [pageSize, pageSize, power, Nat.pow_succ]
  ring

theorem pageSize_lower {l k : Nat} (level : l + k < 8) : pageSize l = 2 ^ k * pageSize (l + k) := by
  induction k with
  | zero => simp
  | succ k ih =>
    rw [ih (by omega), pageSize_double (by omega : l + k + 1 < 8), Nat.pow_succ, Nat.mul_assoc]
    rfl

/-- The loop of `heapAddressToEntry` goes down to the entry that is taken. -/
theorem heapAddressToEntryFrom_meets (laid : LaidOut v) (sound : Sound s)
    (taken : kinds s l i = .taken) {offset : Nat} (within : offset / pageSize l = i) (left : Nat) :
    ∀ curLvl, curLvl ≤ l → curLvl + left = 8 →
    Meets (heapAddressToEntryFrom v offset left curLvl (pageSize curLvl)) s fault
      fun entry after => entry = entryOf l i ∧ after = s := by
  obtain ⟨level, inside⟩ := kinds_there (show kinds s l i ≠ .absent by rw [taken]; exact nofun)
  induction left with
  | zero =>
    intro curLvl above steps
    omega
  | succ left ih =>
    intro curLvl above steps
    obtain ⟨k, rfl⟩ := Nat.exists_eq_add_of_le above
    have level' : curLvl < 8 := by omega
    have index : offset / pageSize curLvl = i / 2 ^ k := by
      rw [pageSize_lower level, Nat.mul_comm, ← Nat.div_div_eq_div_mul, within]
    have inside' : i / 2 ^ k < entries curLvl := by
      rw [Nat.div_lt_iff_lt_mul (Nat.two_pow_pos k), entries, Nat.mul_assoc, ← Nat.pow_add]
      exact inside
    rw [heapAddressToEntryFrom, meets_bind, tableAt_meets laid level', index, entryOf_add,
      Nat.zero_add, meets_bind, meets_getFlags (laid.real level' inside'), meets_ite]
    have one := sound.linked.one curLvl level' _ inside'
    cases k with
    | zero =>
      rw [Nat.pow_zero, Nat.div_one] at one ⊢
      rw [Nat.add_zero] at taken ⊢
      rw [kinds_inside level' (by simpa using inside), kindOf_taken _ one] at taken
      exact ⟨fun _ => .pure ⟨rfl, rfl⟩, fun free => absurd taken free⟩
    | succ k =>
      have above : kinds s curLvl (i / 2 ^ (k + 1)) = .split :=
        sound.tree.ancestor k i (by rw [Nat.add_assoc, taken]; exact nofun)
      rw [kinds_inside level' inside'] at above
      refine ⟨fun allocated => ?_, fun _ => ?_⟩
      · rw [← kindOf_taken _ one, above] at allocated
        cases allocated
      · have half : pageSize curLvl / 2 = pageSize (curLvl + 1) := by
          rw [pageSize_double (by omega), Nat.mul_div_cancel_left _ (by decide)]
        rw [half]
        exact ih (curLvl + 1) (by omega) (by omega)

/-- An address in the range of a node. -/
def Within (l i pointer : Nat) : Prop :=
  addressOf l i ≤ pointer ∧ pointer < addressOf l i + pageSize l

theorem Within.index {pointer : Nat} (within : Within l i pointer) :
    (pointer - BOBAOS_KERNEL_HEAP_ADDRESS) / pageSize l = i := by
  obtain ⟨lower, upper⟩ := within
  rw [addressOf] at lower upper
  rw [Nat.div_eq_iff (pageSize_positive l)]
  have positive := pageSize_positive l
  omega

theorem heapAddressToEntry_meets (laid : LaidOut v) (sound : Sound s)
    (taken : kinds s l i = .taken) {pointer : Nat} (within : Within l i pointer) :
    Meets (heapAddressToEntry v pointer) s fault fun entry after =>
      entry = entryOf l i ∧ after = s := by
  have first : v.maxPage = pageSize 0 := laid.maxPage
  rw [heapAddressToEntry, laid.maxLvl, first]
  exact heapAddressToEntryFrom_meets laid sound taken within.index 8 0 (by omega) rfl

/-! ## One merge -/

/-- The entry and its buddy are taken off their list. -/
def partedState (l c : Nat) (s : State) : State :=
  removed (entryOf l 0) (entryOf l (buddy c)) .merge
    (if s.isFree (entryOf l c) then removed (entryOf l 0) (entryOf l c) .merge s else s)

/-- And lose their flags. -/
def strippedState (l c : Nat) (s : State) : State :=
  cleared (entryOf l (buddy c)) (cleared (entryOf l c) (partedState l c s))

/-- The state after the two blocks of level `l + 1` have been merged. -/
def joinedState (l c : Nat) (s : State) : State :=
  added (entryOf l 0) (entryOf l (c / 2)) l (strippedState (l + 1) c s)

theorem buddy_inside {l i : Nat} (inside : i < entries l) : buddy i < entries l := by
  have even : entries l = 2 * (512 * 2 ^ l) := by
    rw [entries]
    ring
  rw [buddy]
  split_ifs <;> omega

theorem buddy_ne (i : Nat) : buddy i ≠ i := by
  rw [buddy]
  split_ifs <;> omega

/-- A node and its buddy are all children of the node above. -/
theorem child_iff (c j : Nat) : j / 2 = c / 2 ↔ j = c ∨ j = buddy c := by
  rw [buddy]
  split_ifs <;> omega

/-- Flags are cleared on one level only. -/
theorem cleared_beside (inside : i < entries l) : SameBeside l s (cleared (entryOf l i) s) where
  same l' _ other i' inside' := by
    have different := entryOf_beside inside inside' other
    exact ⟨rfl, rfl, Function.update_of_ne different _ _⟩

section Merge

variable {c : Nat} (sound : Sound s) (level : l + 1 < 8) (inside : c < entries (l + 1))
  (free : s.isFree (entryOf (l + 1) (buddy c)))

include sound level inside free

/-- The first entry leaves its list, if it is in one. -/
theorem Sound.part_first :
    let first := if s.isFree (entryOf (l + 1) c) then
      removed (entryOf (l + 1) 0) (entryOf (l + 1) c) .merge s else s
    Linked first ∧ SameBeside (l + 1) s first ∧ first.isFree (entryOf (l + 1) (buddy c)) ∧
      ¬ first.isFree (entryOf (l + 1) c) ∧ first.lvl = s.lvl ∧
      ∀ l' i', ¬ (l' = l + 1 ∧ i' = c) → kinds first l' i' = kinds s l' i' := by
  dsimp only
  split_ifs with free_first
  · have is_free := sound.linked.isFree_removed level inside free_first .merge
    have other : entryOf (l + 1) (buddy c) ≠ entryOf (l + 1) c := fun same =>
      buddy_ne c (entryOf_injective (buddy_inside inside) inside same).2
    refine ⟨sound.linked.remove level inside free_first .merge,
      sound.linked.removed_beside level inside free_first .merge, (is_free _).mpr ⟨free, other⟩,
      fun still => ((is_free _).mp still).2 rfl, rfl, fun l' i' different => ?_⟩
    rw [sound.linked.kinds_removed level inside free_first, set_other (by omega)]
  · exact ⟨sound.linked, ⟨fun _ _ _ _ _ => ⟨rfl, rfl, rfl⟩⟩, free, free_first, rfl, fun _ _ _ => rfl⟩

/-- Then both are off it, and nothing else has changed. -/
theorem Sound.part :
    let parted := partedState (l + 1) c s
    Linked parted ∧ SameBeside (l + 1) s parted ∧ ¬ parted.isFree (entryOf (l + 1) c) ∧
      ¬ parted.isFree (entryOf (l + 1) (buddy c)) ∧
      ∀ l' i', ¬ (l' = l + 1 ∧ i' / 2 = c / 2) → kinds parted l' i' = kinds s l' i' := by
  obtain ⟨linked, beside, second_free, gone, -, same⟩ := sound.part_first level inside free
  have inside' := buddy_inside inside
  have is_free := linked.isFree_removed level inside' second_free .merge
  refine ⟨linked.remove level inside' second_free .merge, ⟨fun l' level' other => ?_⟩,
    fun still => gone ((is_free _).mp still).1, fun still => ((is_free _).mp still).2 rfl,
    fun l' i' different => ?_⟩
  · exact (beside.sameAt level' other).trans
      ((linked.removed_beside level inside' second_free .merge).sameAt level' other)
  · rw [child_iff] at different
    rw [partedState, linked.kinds_removed level inside' second_free, set_other (by omega)]
    exact same l' i' (by omega)

/-- Without flags they are absent. -/
theorem Sound.strip :
    Linked (strippedState (l + 1) c s) ∧ SameBeside (l + 1) s (strippedState (l + 1) c s) ∧
      ∀ l' i', kinds (strippedState (l + 1) c s) l' i' =
        if l' = l + 1 ∧ i' / 2 = c / 2 then .absent else kinds s l' i' := by
  obtain ⟨linked, beside, gone, gone', same⟩ := sound.part level inside free
  have inside' := buddy_inside inside
  have first := linked.clear level inside gone
  have gone_still : ¬ (cleared (entryOf (l + 1) c) (partedState (l + 1) c s)).isFree
      (entryOf (l + 1) (buddy c)) := by
    have other : entryOf (l + 1) (buddy c) ≠ entryOf (l + 1) c := fun same =>
      buddy_ne c (entryOf_injective inside' inside same).2
    simpa only [State.isFree, cleared, Function.update_of_ne other] using gone'
  refine ⟨first.clear level inside' gone_still, ⟨fun l' level' other => ?_⟩, fun l' i' => ?_⟩
  · exact ((beside.sameAt level' other).trans ((cleared_beside inside).sameAt level' other)).trans
      ((cleared_beside inside').sameAt level' other)
  · have child := child_iff c i'
    rw [strippedState, kinds_cleared level inside', kinds_cleared level inside]
    split_ifs with here
    · rw [BuddyTree.set, BuddyTree.set]
      grind
    · rw [set_other (by omega), set_other (by omega)]
      exact same l' i' here

/-- The node above is split. -/
theorem Sound.split_above : kinds s l (c / 2) = .split := by
  have there := (isFree_iff level (buddy_inside inside)).mp free
  rw [← buddy_parent]
  exact (sound.tree.below l (buddy c)).mp (by rw [there]; exact nofun)

/-- It becomes free then. -/
theorem Sound.kinds_joined : kinds (joinedState l c s) = BuddyTree.merge (kinds s) l (c / 2) := by
  have above : c / 2 < entries l := parent_inside inside
  funext l' i'
  rw [joinedState, kinds_added (by omega) above, BuddyTree.set, BuddyTree.merge,
    (sound.strip level inside free).2.2]

/-- And is not free before. -/
theorem Sound.strip_taken : ¬ (strippedState (l + 1) c s).isFree (entryOf l (c / 2)) := by
  rw [isFree_iff (by omega) (parent_inside inside), (sound.strip level inside free).2.2,
    if_neg (by omega), sound.split_above level inside free]
  exact nofun

/-- The heap stays sound. -/
theorem Sound.join (there : kinds s (l + 1) c ≠ .split) : Sound (joinedState l c s) where
  linked := (sound.strip level inside free).1.add (by omega) (parent_inside inside)
    (sound.strip_taken level inside free)
  tree := by
    rw [sound.kinds_joined level inside free]
    refine sound.tree.merge (sound.split_above level inside free) fun j child => ?_
    rcases (child_iff c j).mp child with rfl | rfl
    · exact there
    · rw [(isFree_iff level (buddy_inside inside)).mp free]
      exact nofun

end Merge

/-! ## Merges up to a level -/

/-- Levels stay as they are while blocks are taken off their lists. -/
theorem strippedState_lvl (l c : Nat) (s : State) : (strippedState l c s).lvl = s.lvl := by
  rw [strippedState, partedState]
  split_ifs <;> rfl

/-- An entry that is not free is not removed. -/
theorem removeEntry_refused {entry : Nat} (real : Real v entry) (taken : ¬ s.isFree entry)
    (type : RemoveType) :
    Meets (removeEntry v entry type) s fault fun _ after => after = s := by
  rw [removeEntry, meets_bind, meets_getFlags real, meets_ite]
  exact ⟨fun free => absurd free taken, fun _ => .pure rfl⟩

/-- From an entry of one level, merges with free buddies lead up as far as they can. -/
inductive Merges : Nat → Nat → State → State → Prop
  | done {l i : Nat} {s : State} (alone : l = 0 ∨ ¬ s.isFree (entryOf l (buddy i))) : Merges l i s s
  | onward {l c : Nat} {s after : State} (level : l + 1 < 8) (inside : c < entries (l + 1))
      (free : s.isFree (entryOf (l + 1) (buddy c))) (rest : Merges l (c / 2) (joinedState l c s) after) :
      Merges (l + 1) c s after

/-- One step of `merge`, up to the test of the next buddy. -/
theorem removeBoth_meets (laid : LaidOut v) (sound : Sound s) {c : Nat} (level : l + 1 < 8)
    (inside : c < entries (l + 1)) (there : kinds s (l + 1) c ≠ .absent)
    (free : s.isFree (entryOf (l + 1) (buddy c))) :
    Meets (do
      let _ ← removeEntry v (entryOf (l + 1) c) .merge
      removeEntry v (entryOf (l + 1) (buddy c)) .merge) s fault fun _ after =>
      after = partedState (l + 1) c s := by
  have real := laid.real level inside
  have real_head := laid.real level (entries_positive (l + 1))
  have inside' := buddy_inside inside
  obtain ⟨linked, -, free', -, same, -⟩ := sound.part_first level inside free
  have first : Meets (removeEntry v (entryOf (l + 1) c) .merge) s fault fun _ after =>
      after = if s.isFree (entryOf (l + 1) c) then
        removed (entryOf (l + 1) 0) (entryOf (l + 1) c) .merge s else s := by
    split_ifs with free_first
    · exact removeEntry_meets laid level real_head real (sound.linked.lvl _ _ there) free_first
        (sound.linked.prev_real laid level inside free_first)
        (sound.linked.next_real laid level inside free_first) .merge
    · exact removeEntry_refused real free_first .merge
  apply first.bind
  rintro _ _ rfl
  have lvl := linked.lvl (l + 1) (buddy c) (by rw [(isFree_iff level inside').mp free']; exact nofun)
  exact removeEntry_meets laid level real_head (laid.real level inside') lvl free'
    (linked.prev_real laid level inside' free') (linked.next_real laid level inside' free') .merge

theorem mergeFrom_meets (laid : LaidOut v) (l : Nat) : ∀ i s, Sound s → l < 8 → i < entries l →
    kinds s l i ≠ .absent → kinds s l i ≠ .split → (0 < l → s.isFree (entryOf l (buddy i))) →
    Meets (mergeFrom v l (entryOf l i) (entryOf l (buddy i))) s fault fun _ after =>
      Merges l i s after := by
  induction l with
  | zero =>
    intro i s sound level inside there whole free
    rw [mergeFrom]
    exact .pure (.done (.inl rfl))
  | succ l ih =>
    intro c s sound level inside there whole free
    have free := free (Nat.succ_pos l)
    have inside' := buddy_inside inside
    have real := laid.real level inside
    have real' := laid.real level inside'
    have lvl := sound.linked.lvl (l + 1) c there
    have lvl' := sound.linked.lvl (l + 1) (buddy c)
      (by rw [(isFree_iff level inside').mp free]; decide)
    have above := parent_inside inside
    have above' := buddy_inside above
    have joined := sound.join level inside free whole
    have kinds_joined := sound.kinds_joined level inside free
    have still : (strippedState (l + 1) c s).lvl (entryOf (l + 1) c) = l + 1 := by
      rw [strippedState_lvl, lvl]
    rw [mergeFrom, meets_bind, meets_getLvl real, meets_bind, meets_getLvl real', lvl, lvl',
      if_neg (not_not.mpr rfl), ← bind_assoc]
    apply (removeBoth_meets laid sound level inside there free).bind
    rintro _ _ rfl
    rw [meets_bind, meets_changeFlags real, meets_bind, meets_changeFlags real', meets_bind]
    apply (getLower_meets laid level inside still).mpr
    apply (addEntry_meets laid (by omega) (laid.real (by omega) (entries_positive l))
      (laid.real (by omega) above) ((sound.strip level inside free).1.next_head laid (by omega))).bind
    rintro _ _ rfl
    have at_node : kinds (joinedState l c s) l (c / 2) = .free := by
      rw [kinds_joined]
      simp [BuddyTree.merge]
    have lvl_node := joined.linked.lvl l (c / 2) (by rw [at_node]; decide)
    rw [meets_bind]
    apply (getBuddy_meets laid (by omega) above lvl_node).mpr
    rw [meets_bind, meets_getFlags (laid.real (by omega) above'), meets_ite]
    refine ⟨fun free_next => ?_, fun taken_next => ?_⟩
    · refine (ih (c / 2) _ joined (by omega) above (by rw [at_node]; decide)
        (by rw [at_node]; decide) fun _ => free_next).mono ?_
      exact fun _ after merges => .onward level inside free merges
    · exact .pure (.onward level inside free (.done (.inr taken_next)))

/-- A merge gives back nothing but the entry itself. -/
theorem Sound.join_taken (sound : Sound s) {c : Nat} (level : l + 1 < 8)
    (inside : c < entries (l + 1)) (free : s.isFree (entryOf (l + 1) (buddy c))) (k j : Nat) :
    kinds (joinedState l c s) k j = .taken ↔ kinds s k j = .taken ∧ ¬ (k = l + 1 ∧ j = c) := by
  have above := sound.split_above level inside free
  have free := (isFree_iff level (buddy_inside inside)).mp free
  rw [sound.kinds_joined level inside ((isFree_iff level (buddy_inside inside)).mpr free),
    BuddyTree.merge]
  split_ifs with at_node at_child
  · simp [at_node, above]
  · obtain ⟨rfl, parent⟩ := at_child
    rcases (child_iff c j).mp parent with rfl | rfl
    · simp
    · simp [free]
  · refine ⟨fun taken => ⟨taken, ?_⟩, And.left⟩
    rintro ⟨rfl, rfl⟩
    exact at_child ⟨rfl, rfl⟩

/-- It leaves the other levels alone. -/
theorem Sound.join_beside (sound : Sound s) {c k : Nat} (level : l + 1 < 8)
    (inside : c < entries (l + 1)) (free : s.isFree (entryOf (l + 1) (buddy c))) (level' : k < 8)
    (not_here : k ≠ l + 1) (not_above : k ≠ l) : SameAt k s (joinedState l c s) := by
  obtain ⟨linked, beside, -⟩ := sound.strip level inside free
  exact (beside.sameAt level' not_here).trans
    ((linked.added_beside (by omega) (parent_inside inside)).sameAt level' not_above)

section Up

variable (merges : Merges l i s after) (before : Sound s)

include merges before

/-- The heap stays sound. -/
theorem Merges.sound (whole : kinds s l i ≠ .split) : Sound after := by
  induction merges with
  | done => exact before
  | onward level inside free _ ih =>
    refine ih (before.join level inside free whole) ?_
    rw [before.kinds_joined level inside free]
    simp [BuddyTree.merge]

/-- From a free entry on, what is taken does not change. -/
theorem Merges.taken (free : kinds s l i = .free) (k j : Nat) :
    kinds after k j = .taken ↔ kinds s k j = .taken := by
  induction merges with
  | done => rfl
  | onward level inside free_buddy _ ih =>
    rw [ih (before.join level inside free_buddy (by rw [free]; exact nofun)),
      before.join_taken level inside free_buddy]
    · refine ⟨And.left, fun taken => ⟨taken, ?_⟩⟩
      rintro ⟨rfl, rfl⟩
      rw [free] at taken
      cases taken
    · rw [before.kinds_joined level inside free_buddy]
      simp [BuddyTree.merge]

/-- In the end no two buddies are free. -/
theorem Merges.merged (whole : kinds s l i ≠ .split) (pair : PairOf (kinds s) l i) :
    Merged (kinds after) := by
  induction merges with
  | done alone =>
    refine pair.alone (alone.imp_right fun taken free => taken ?_)
    obtain ⟨level, inside⟩ := kinds_there (by rw [free]; exact nofun)
    exact (isFree_iff level inside).mpr free
  | onward level inside free _ ih =>
    refine ih (before.join level inside free whole) ?_ ?_
    · rw [before.kinds_joined level inside free]
      simp [BuddyTree.merge]
    · rw [before.kinds_joined level inside free]
      exact pair.merge

/-- Below the first level, merges leave that one alone, or add an entry to it in the
end. -/
theorem Merges.top (whole : kinds s l i ≠ .split) (below : 0 < l) : SameAt 0 s after ∨
    ∃ j t, j < entries 0 ∧ SameAt 0 s t ∧ Linked t ∧ ¬ t.isFree (entryOf 0 j) ∧
      after = added (entryOf 0 0) (entryOf 0 j) 0 t := by
  induction merges with
  | done => exact .inl fun _ _ => ⟨rfl, rfl, rfl⟩
  | @onward l c s after level inside free rest ih =>
    cases l with
    | zero =>
      cases rest with
      | done =>
        obtain ⟨linked, beside, -⟩ := before.strip level inside free
        exact .inr ⟨c / 2, strippedState 1 c s, parent_inside inside,
          beside.sameAt (by omega) (by omega), linked, before.strip_taken level inside free, rfl⟩
    | succ l =>
      have same := before.join_beside level inside free (show 0 < 8 by omega) (by omega) (by omega)
      have whole' : kinds (joinedState (l + 1) c s) (l + 1) (c / 2) ≠ .split := by
        rw [before.kinds_joined level inside free]
        simp [BuddyTree.merge]
      rcases ih (before.join level inside free whole) whole' (Nat.succ_pos l) with
        still | ⟨j, t, inside', same', linked, taken, rfl⟩
      · exact .inl (same.trans still)
      · exact .inr ⟨j, t, inside', same.trans same', linked, taken, rfl⟩

end Up

/-! ## Freeing -/

/-- What `kzfreeBuddy` does with the block of a sound heap. -/
inductive Freed (s : State) (l i : Nat) : State → Prop
  | given (alone : l = 0 ∨ ¬ s.isFree (entryOf l (buddy i))) :
      Freed s l i (added (entryOf l 0) (entryOf l i) l s)
  | merged {after : State} (below : 0 < l) (free : s.isFree (entryOf l (buddy i)))
      (merges : Merges l i s after) : Freed s l i after

/-- What is found is freed, if it is a node that is taken. -/
theorem kzfreeBuddy_found (laid : LaidOut v) (sound : Sound s) {pointer : Nat}
    {holds : Nat → Nat → Prop} (above : BOBAOS_KERNEL_HEAP_ADDRESS ≤ pointer)
    (below_end : pointer ≤ BOBAOS_KERNEL_HEAP_ADDRESS + v.heapSize)
    (found : Meets (heapAddressToEntry v pointer) s fault fun entry after =>
      ∃ l i, holds l i ∧ kinds s l i = .taken ∧ entry = entryOf l i ∧ after = s) :
    Meets (kzfreeBuddy v pointer) s fault fun code after =>
      code = 0 ∧ ∃ l i, holds l i ∧ Freed s l i after := by
  rw [kzfreeBuddy, if_neg (by omega)]
  apply found.bind
  rintro _ current ⟨l, i, here, taken, rfl, same⟩
  rw [same]
  have there : kinds s l i ≠ .absent := by
    rw [taken]
    exact nofun
  obtain ⟨level, inside⟩ := kinds_there there
  have inside' := buddy_inside inside
  have real := laid.real level inside
  have real' := laid.real level inside'
  have lvl := sound.linked.lvl l i there
  -- The buddy of a node below the first level is there, and each node of that level.
  have there' : kinds s l (buddy i) ≠ .absent := by
    cases l with
    | zero => exact (sound.tree.top _).mpr inside'
    | succ l =>
      rw [sound.tree.below, buddy_parent, ← sound.tree.below]
      exact there
  have lvl' := sound.linked.lvl l (buddy i) there'
  have add (alone : l = 0 ∨ ¬ s.isFree (entryOf l (buddy i))) :
      Meets (do
        let _ ← addEntry v (entryOf l i) (← getLvl v (entryOf l i))
        return (0 : Code)) s fault fun code after =>
          code = 0 ∧ ∃ l i, holds l i ∧ Freed s l i after := by
    rw [meets_bind, meets_getLvl real, lvl]
    apply (addEntry_meets laid level (laid.real level (entries_positive l)) real
      (sound.linked.next_head laid level)).bind
    rintro _ _ rfl
    exact .pure ⟨rfl, l, i, here, .given alone⟩
  rw [if_neg (entryOf_ne_zero l i), meets_bind]
  apply (getBuddy_meets laid level inside lvl).mpr
  rw [meets_bind, meets_getLvl real', lvl', meets_ite]
  refine ⟨fun below => ?_, fun top => ?_⟩
  · rw [meets_bind, meets_getFlags real', meets_ite]
    refine ⟨fun free => ?_, fun alone => add (.inr alone)⟩
    rw [merge, meets_bind, meets_bind, meets_getLvl real, lvl]
    apply (mergeFrom_meets laid l i _ sound level inside there (by rw [taken]; exact nofun)
      fun _ => free).mono
    exact fun _ after merges => .pure ⟨rfl, l, i, here, .merged below free merges⟩
  · exact add (.inl (by omega))

/-- A pointer into a block frees the block. -/
theorem kzfreeBuddy_within (laid : LaidOut v) (sound : Sound s) (taken : kinds s l i = .taken)
    {pointer : Nat} (within : Within l i pointer) :
    Meets (kzfreeBuddy v pointer) s fault fun code after => code = 0 ∧ Freed s l i after := by
  obtain ⟨level, inside⟩ := kinds_there (show kinds s l i ≠ .absent by rw [taken]; exact nofun)
  have fits := addressOf_fits level inside
  have start : BOBAOS_KERNEL_HEAP_ADDRESS ≤ addressOf l i := Nat.le_add_right _ _
  have upper := within.2
  have found : Meets (heapAddressToEntry v pointer) s fault fun entry after =>
      ∃ l' i', (l' = l ∧ i' = i) ∧ kinds s l' i' = .taken ∧ entry = entryOf l' i' ∧ after = s := by
    apply (heapAddressToEntry_meets laid sound taken within).mono
    rintro _ _ ⟨rfl, rfl⟩
    exact ⟨l, i, ⟨rfl, rfl⟩, taken, rfl, rfl⟩
  apply (kzfreeBuddy_found laid sound (start.trans within.1) (by rw [laid.heapSize]; omega)
    found).mono
  rintro code after ⟨rfl, _, _, ⟨rfl, rfl⟩, freed⟩
  exact ⟨rfl, freed⟩

theorem kzfreeBuddy_meets (laid : LaidOut v) (sound : Sound s) (taken : kinds s l i = .taken) :
    Meets (kzfreeBuddy v (addressOf l i)) s fault fun code after => code = 0 ∧ Freed s l i after :=
  kzfreeBuddy_within laid sound taken
    ⟨Nat.le_refl _, Nat.lt_add_of_pos_right (pageSize_positive l)⟩

section Freed

variable (freed : Freed s l i after) (before : Sound s) (given : kinds s l i = .taken)

include freed before given

/-- The heap stays sound. -/
theorem Freed.sound : Sound after := by
  obtain ⟨level, inside⟩ := kinds_there (show kinds s l i ≠ .absent by rw [given]; exact nofun)
  cases freed with
  | given =>
    refine ⟨before.linked.add level inside ?_, ?_⟩
    · rw [isFree_iff level inside, given]
      exact nofun
    · rw [kinds_added level inside]
      exact before.tree.set (by simp [given]) (by simp [given]) nofun nofun
  | merged _ _ merges => exact merges.sound before (by rw [given]; exact nofun)

/-- The block is all that is not taken any more. -/
theorem Freed.taken (k j : Nat) :
    kinds after k j = .taken ↔ kinds s k j = .taken ∧ ¬ (k = l ∧ j = i) := by
  obtain ⟨level, inside⟩ := kinds_there (show kinds s l i ≠ .absent by rw [given]; decide)
  cases freed with
  | given =>
    rw [kinds_added level inside, BuddyTree.set]
    split_ifs with here
    · simp [here]
    · simp [here]
  | merged below free merges =>
    cases merges with
    | done alone => exact absurd free (alone.resolve_left (by omega))
    | @onward l _ _ _ level inside free rest =>
      have whole : kinds s (l + 1) i ≠ .split := by rw [given]; decide
      rw [rest.taken (before.join level inside free whole), before.join_taken level inside free]
      rw [before.kinds_joined level inside free]
      simp [BuddyTree.merge]

/-- No two buddies are free then, if none were. -/
theorem Freed.merged_kinds (merged : Merged (kinds s)) : Merged (kinds after) := by
  obtain ⟨level, inside⟩ := kinds_there (show kinds s l i ≠ .absent by rw [given]; exact nofun)
  cases freed with
  | given alone =>
    rw [kinds_added level inside]
    refine (merged.give l i).alone ?_
    refine alone.imp_right fun taken free => taken ?_
    rw [set_other (.inr (buddy_ne i))] at free
    exact (isFree_iff level (buddy_inside inside)).mpr free
  | merged _ _ merges =>
    exact merges.merged before (by rw [given]; exact nofun) (merged.pairOf l i)

end Freed

end BobaOS.BuddyHeap
