import BobaOS.Heap.BuddyLists

/-!
# The buddy heap coalesces

Where no two buddies are free and nothing is taken, nothing is split. The list of the
first level stays whole, and from the first split on its head says what it has, so
that all its blocks can be taken again.
-/

namespace BobaOS.BuddyHeap

open Programs HeadedLists BuddyTree LinkedLists Runs

variable {v : Variables} {s after : State} {l i : Nat} {order : List Nat}

/-! ## The list of the first level -/

/-- The list of the first level is whole, and its head says whether it has entries. -/
structure Ready (s : State) (order : List Nat) : Prop where
  linear : Linear s 0 order
  shown : s.isFree (entryOf 0 0) ∨ order ≠ [] → s.hasEntries (entryOf 0 0)

theorem null_not_cell (l : Nat) : ¬ Cell l 0 := fun cell => cell_ne_zero cell rfl

theorem SameAt.isFree (same : SameAt l s after) (inside : i < entries l) :
    after.isFree (entryOf l i) ↔ s.isFree (entryOf l i) := by
  rw [State.isFree, State.isFree, (same i inside).2.2]

/-- The list depends on the entries of its level only. -/
theorem Linear.same (linear : Linear s 0 order) (same : SameAt 0 s after) : Linear after 0 order := by
  have head := same.isFree (entries_positive 0)
  rw [Linear]
  simp only [head]
  refine linear.congr ?_ ?_ (same 0 (entries_positive 0)).1
  · rintro _ ⟨i, -, inside, rfl⟩
    exact same.isFree inside
  · rintro _ ⟨i, -, inside, rfl⟩
    exact ⟨(same i inside).1, (same i inside).2.1⟩

theorem Ready.same (ready : Ready s order) (same : SameAt 0 s after) : Ready after order where
  linear := ready.linear.same same
  shown := by
    rw [State.isFree, State.hasEntries, (same 0 (entries_positive 0)).2.2]
    exact ready.shown

/-- A head with entries keeps saying so when it is removed itself. -/
theorem removed_head_shown (type : RemoveType) (some : s.next (entryOf 0 0) ≠ 0) :
    (removed (entryOf 0 0) (entryOf 0 0) type s).hasEntries (entryOf 0 0) := by
  have mark : ∀ flags : BitVec 8,
      type.mark (flags ||| KHEAP_B_FLAG_HAS_ENTRIES) &&& KHEAP_B_FLAG_HAS_ENTRIES ≠ 0 := by
    cases type <;> decide +kernel
  simp only [State.hasEntries, removed, removedFlags, if_true, if_pos some, Function.update_self]
  exact mark _

/-- A free head leaves the list to the entries behind it. -/
theorem Linear.remove_head (linked : Linked s) (linear : Linear s 0 order)
    (free : s.isFree (entryOf 0 0)) (type : RemoveType) :
    Ready (removed (entryOf 0 0) (entryOf 0 0) type s) order := by
  have is_free := linked.isFree_removed (by decide) (entries_positive 0) free type
  have taken : ¬ (removed (entryOf 0 0) (entryOf 0 0) type s).isFree (entryOf 0 0) :=
    fun still => ((is_free _).mp still).2 rfl
  rw [Linear, if_pos free] at linear
  constructor
  · rw [Linear, if_neg taken, removed_links, if_pos rfl]
    refine (linear.detach (null_not_cell 0)).congr ?_ (fun _ _ => ⟨rfl, rfl⟩) rfl
    intro entry cell
    rw [is_free]
    refine and_iff_left ?_
    rintro rfl
    exact head_not_cell 0 cell
  · rintro (still | some)
    · exact absurd still taken
    · refine removed_head_shown type fun none => some ?_
      have first := linear.first
      rw [show s.links.next (entryOf 0 0) = 0 from none, named_null] at first
      exact List.head?_eq_none_iff.mp first.symm

/-- Behind a head that is not free, the first entry leaves it to the others. -/
theorem Ready.remove_first (linked : Linked s) {x : Nat} {rest : List Nat}
    (ready : Ready s (x :: rest)) (taken : ¬ s.isFree (entryOf 0 0)) (type : RemoveType) :
    Ready (removed (entryOf 0 0) x type s) rest := by
  have linear := ready.linear
  rw [Linear, if_neg taken] at linear
  obtain ⟨⟨i, some, inside, rfl⟩, free⟩ := (linear.members x).mp List.mem_cons_self
  have other : entryOf 0 i ≠ entryOf 0 0 := fun same => by
    have index := (entryOf_eq_head inside).mp same
    omega
  have is_free := linked.isFree_removed (by decide) inside free type
  have still : ¬ (removed (entryOf 0 0) (entryOf 0 i) type s).isFree (entryOf 0 0) :=
    fun head => taken ((is_free _).mp head).1
  constructor
  · rw [Linear, if_neg still, removed_links, if_neg other]
    exact linear.pop (null_not_cell 0) (head_not_cell 0) fun y _ => is_free y
  · rintro (head | more)
    · exact absurd head still
    · have onward := linear.chain.2.1
      have next : s.next (entryOf 0 i) ≠ 0 := by
        intro none
        rw [State.links] at onward
        simp only [none, named_null] at onward
        cases rest with
        | nil => exact more rfl
        | cons y rest => cases onward
      have shown := ready.shown (.inr (List.cons_ne_nil _ _))
      rw [State.hasEntries] at shown ⊢
      simpa only [removed, removedFlags, if_neg other, next, and_false, if_false,
        Function.update_of_ne (Ne.symm other)] using shown

/-- An entry that was not free becomes a part of the list. -/
theorem Ready.add (linked : Linked s) (ready : Ready s order) (inside : i < entries 0)
    (taken : ¬ s.isFree (entryOf 0 i)) :
    ∃ order', Ready (added (entryOf 0 0) (entryOf 0 i) 0 s) order' := by
  have is_free := isFree_added (l := 0) (i := i) (s := s)
  have shown : (added (entryOf 0 0) (entryOf 0 i) 0 s).hasEntries (entryOf 0 0) :=
    added_hasEntries _ _ _ _
  have linear := ready.linear
  rw [Linear] at linear
  by_cases first : i = 0
  · subst first
    have rest (entry : Nat) (cell : Cell 0 entry) :
        (added (entryOf 0 0) (entryOf 0 0) 0 s).isFree entry ↔ s.isFree entry := by
      rw [is_free]
      refine or_iff_left ?_
      rintro rfl
      exact head_not_cell 0 cell
    refine ⟨order, ?_, fun _ => shown⟩
    rw [Linear, if_pos ((is_free _).mpr (.inr rfl)), added_links, addedLinks, if_pos (Eq.refl _)]
    by_cases has : s.hasEntries (entryOf 0 0)
    · rw [if_pos has]
      exact (linear.rejoin (entryOf_ne_zero 0 0)).congr rest (fun _ _ => ⟨rfl, rfl⟩) rfl
    · -- A list that is not shown is empty, and has no first entry to name the head.
      obtain rfl : order = [] := by
        by_contra some
        exact has (ready.shown (.inr some))
      rw [if_neg has]
      have whole := linear.congr rest (fun _ _ => ⟨rfl, rfl⟩) rfl
      exact ⟨whole.members, whole.nodup, whole.first, trivial⟩
  · have cell := (cell_iff inside).mpr first
    have other := fun same => first ((entryOf_eq_head inside).mp same)
    have head_free : (added (entryOf 0 0) (entryOf 0 i) 0 s).isFree (entryOf 0 0) ↔
        s.isFree (entryOf 0 0) := by
      rw [is_free]
      exact or_iff_left fun same => other same.symm
    by_cases has : s.hasEntries (entryOf 0 0)
    · refine ⟨entryOf 0 i :: order, ?_, fun _ => shown⟩
      rw [Linear, added_links, addedLinks, if_pos has, if_neg other]
      simp only [head_free]
      refine linear.push (null_not_cell 0) (head_not_cell 0) cell taken ?_ fun y _ => is_free y
      split_ifs
      · exact named_some (entryOf_ne_zero 0 0)
      · exact named_null
    · obtain rfl : order = [] := by
        by_contra some
        exact has (ready.shown (.inr some))
      have head_taken : ¬ s.isFree (entryOf 0 0) := fun free => has (ready.shown (.inl free))
      rw [if_neg head_taken] at linear
      refine ⟨[entryOf 0 i], ?_, fun _ => shown⟩
      rw [Linear, added_links, addedLinks, if_neg has, if_neg other]
      simp only [head_free, if_neg head_taken]
      exact linear.restart (null_not_cell 0) (head_not_cell 0) cell
        ((linked.lists 0 (by decide)).idle _ cell taken) fun y _ => is_free y

/-- The number of blocks of the first level that are free. -/
def State.free (s : State) (order : List Nat) : Nat :=
  order.length + if s.isFree (entryOf 0 0) then 1 else 0

/-- What the first level offers is taken off its list. -/
theorem Ready.take (linked : Linked s) (ready : Ready s order) (inside : i < entries 0) (chosen : s.chosen 0 = entryOf 0 i) (type : RemoveType) :
    ∃ rest, Ready (removed (entryOf 0 0) (entryOf 0 i) type s) rest ∧
      (removed (entryOf 0 0) (entryOf 0 i) type s).free rest + 1 = s.free order := by
  by_cases free : s.isFree (entryOf 0 0)
  · rw [State.chosen, if_pos free] at chosen
    obtain ⟨-, rfl⟩ := entryOf_injective (entries_positive 0) inside chosen
    have taken : ¬ (removed (entryOf 0 0) (entryOf 0 0) type s).isFree (entryOf 0 0) := fun still =>
      ((linked.isFree_removed (by decide) inside free type _).mp still).2 rfl
    refine ⟨order, ready.linear.remove_head linked free type, ?_⟩
    rw [State.free, State.free, if_pos free, if_neg taken]
  · rw [State.chosen, if_neg free] at chosen
    have first := ready.linear.first
    have next : s.links.next (entryOf 0 0) = entryOf 0 i := chosen
    rw [next, named_some (entryOf_ne_zero 0 i)] at first
    cases order with
    | nil => cases first
    | cons x rest =>
      obtain rfl := Option.some.inj first
      have linear := ready.linear
      have free_entry := ((linear.members _).mp List.mem_cons_self).2
      have taken : ¬ (removed (entryOf 0 0) (entryOf 0 i) type s).isFree (entryOf 0 0) := fun still =>
        free ((linked.isFree_removed (by decide) inside free_entry type _).mp still).1
      refine ⟨rest, ready.remove_first linked free type, ?_⟩
      rw [State.free, State.free, if_neg free, if_neg taken, List.length_cons]

/-! ## Calls -/

/-- An allocation leaves the first level alone, or takes off its list what it offers. -/
theorem Allocated.top {size pointer : Nat} (allocated : Allocated v s size pointer after)
    (before : Sound s) : (pointer = 0 ∧ after = s) ∨
    (∃ freeLvl, 0 < freeLvl ∧ freeLvl < 8 ∧ s.Offers freeLvl ∧ SameAt 0 s after) ∨
    ∃ i type, s.Offers 0 ∧ i < entries 0 ∧ s.chosen 0 = entryOf 0 i ∧
      SameAt 0 (removed (entryOf 0 0) (entryOf 0 i) type s) after := by
  cases allocated with
  | refused => exact .inl ⟨rfl, rfl⟩
  | @given freeLvl i lvl c parted level block offers chosen splits =>
    refine .inr ?_
    obtain ⟨inside, free⟩ := splits.free
    have deeper := splits.deeper
    have linked := (splits.sound before).linked
    have last := linked.removed_beside level inside free .allocated
    by_cases first : freeLvl = 0
    · subst first
      refine .inr ?_
      cases splits with
      | here => exact ⟨i, .allocated, offers, inside, chosen, fun _ _ => ⟨rfl, rfl, rfl⟩⟩
      | onward level' inside' free' child rest =>
        have deeper' := rest.deeper
        have here := before.split_here level' inside' free'
        have below := rest.above (before.split level' inside' free') (Nat.succ_pos 0)
        exact ⟨i, .split, offers, inside', chosen,
          (here.trans below).trans (last.sameAt (by decide) (by omega))⟩
    · refine .inl ⟨freeLvl, by omega, by omega, offers, ?_⟩
      have above := splits.above before (show 0 < freeLvl by omega)
      exact above.trans (last.sameAt (by decide) (by omega))

/-- No two buddies are free then, if none were. -/
theorem Allocated.merged {size pointer : Nat} (allocated : Allocated v s size pointer after)
    (before : Sound s) (merged : Merged (kinds s)) : Merged (kinds after) := by
  cases allocated with
  | refused => exact merged
  | given level _ _ _ splits =>
    obtain ⟨inside, free⟩ := splits.free
    rw [(splits.sound before).linked.kinds_removed level inside free]
    exact (splits.pairOf before (merged.pairOf _ _)).take

/-- A block of the biggest size is one of the first level. -/
theorem Allocated.biggest {size pointer : Nat} (allocated : Allocated v s size pointer after)
    (some : pointer ≠ 0) (block : toNextLvl size = pageSize 0) : ∃ i, s.Offers 0 ∧ i < entries 0 ∧
      s.chosen 0 = entryOf 0 i ∧ after = removed (entryOf 0 0) (entryOf 0 i) .allocated s := by
  cases allocated with
  | refused => exact absurd rfl some
  | @given freeLvl i lvl c parted level block' offers chosen splits =>
    obtain rfl := pageSize_injective (by decide) level (block.symm.trans block')
    have deeper := splits.deeper
    cases splits with
    | here inside free => exact ⟨i, offers, inside, chosen, rfl⟩
    | onward _ _ _ _ rest =>
      have further := rest.deeper
      omega

/-- A free leaves the first level alone, or adds an entry to its list in the end. -/
theorem Freed.top (freed : Freed s l i after) (before : Sound s) (given : kinds s l i = .taken) :
    SameAt 0 s after ∨ ∃ j t, j < entries 0 ∧ SameAt 0 s t ∧ Linked t ∧ ¬ t.isFree (entryOf 0 j) ∧
      after = added (entryOf 0 0) (entryOf 0 j) 0 t := by
  obtain ⟨level, inside⟩ := kinds_there (show kinds s l i ≠ .absent by rw [given]; exact nofun)
  cases freed with
  | given =>
    by_cases first : l = 0
    · subst first
      refine .inr ⟨i, s, inside, fun _ _ => ⟨rfl, rfl, rfl⟩, before.linked, ?_, rfl⟩
      rw [isFree_iff level inside, given]
      exact nofun
    · exact .inl ((before.linked.added_beside level inside).sameAt (by decide) (Ne.symm first))
  | merged below _ merges => exact merges.top before (by rw [given]; exact nofun) below

/-! ## Runs -/

/-- A block of more than half a page has been asked for. -/
def Begun (past : List Call) : Prop := ∃ size, 512 < size ∧ Call.kzalloc size ∈ past

/-- No two buddies are free. The list of the first level is whole, and its head says
what it has once a block has been asked for. -/
structure Coalescing (past : List Call) (session : Session) : Prop where
  holding : Holding session
  merged : Merged (kinds session.state)
  list : (Fresh session.state ∧ session.live = [] ∧ ¬ Begun past) ∨
    ∃ order, Ready session.state order

/-- Sizes without a level are refused. -/
theorem Allocated.small {size pointer : Nat} (allocated : Allocated v s size pointer after)
    (positive : 1 ≤ size) (small : size ≤ 512) : pointer = 0 ∧ after = s := by
  cases allocated with
  | refused => exact ⟨rfl, rfl⟩
  | @given _ _ lvl _ _ _ block =>
    have bound := toNextLvl_small positive small
    rw [block, pageSize] at bound
    have power := Nat.two_pow_pos (7 - lvl)
    omega

/-- Only the first level offers anything at first. -/
theorem Fresh.offers (fresh : Fresh s) (level : l < 8) (offers : s.Offers l) : l = 0 := by
  by_contra other
  have quiet := fresh.quiet l (by omega) level
  exact offers.elim quiet.1 fun both => quiet.2 both.1

theorem begun_concat {past : List Call} {call : Call} :
    Begun (past ++ [call]) ↔ Begun past ∨ ∃ size, 512 < size ∧ Call.kzalloc size = call := by
  constructor
  · rintro ⟨size, large, member⟩
    rcases List.mem_append.mp member with old | new
    · exact .inl ⟨size, large, old⟩
    · exact .inr ⟨size, large, List.mem_singleton.mp new⟩
  · rintro (⟨size, large, member⟩ | ⟨size, large, rfl⟩)
    · exact ⟨size, large, List.mem_append_left _ member⟩
    · exact ⟨size, large, by simp⟩

/-- An allocation keeps it all, and makes the list say what it has. -/
theorem Coalescing.alloc (laid : LaidOut v) {past : List Call} {session : Session}
    (coalescing : Coalescing past session) {size pointer : Nat} (positive : 1 ≤ size)
    (bounded : size ≤ v.maxPage) (allocated : Allocated v session.state size pointer after) :
    Coalescing (past ++ [.kzalloc size])
      ⟨after, if pointer = 0 then session.live else ⟨pointer, size⟩ :: session.live⟩ where
  holding := coalescing.holding.alloc allocated
  merged := allocated.merged coalescing.holding.sound coalescing.merged
  list := by
    have sound := coalescing.holding.sound
    rcases coalescing.list with ⟨fresh, empty, idle⟩ | ⟨order, ready⟩
    · by_cases large : 512 < size
      · obtain ⟨l, level, low, high⟩ := exists_level large (by rw [← laid.maxPage]; exact bounded)
        have found : findLvlForBlock v (toNextLvl size) ≠ none := by
          rw [toNextLvl_pageSize level low high, laid.findLvlForBlock level]
          exact nofun
        have some := allocated.some positive bounded found fun quiet => quiet.1 fresh.head_free
        rcases allocated.top sound with ⟨zero, -⟩ | ⟨k, below, level', offers, -⟩ |
          ⟨i, type, -, inside, chosen, same⟩
        · exact absurd zero some
        · have first := fresh.offers level' offers
          omega
        · rw [State.chosen, if_pos fresh.head_free] at chosen
          rw [← chosen] at same
          exact .inr ⟨_, (fresh.linear.remove_head sound.linked fresh.head_free type).same same⟩
      · obtain ⟨rfl, rfl⟩ := allocated.small positive (by omega)
        refine .inl ⟨fresh, by rw [if_pos rfl]; exact empty, ?_⟩
        rw [begun_concat]
        rintro (begun | ⟨other, more, same⟩)
        · exact idle begun
        · cases same
          exact large more
    · right
      rcases allocated.top sound with ⟨-, rfl⟩ | ⟨_, _, _, _, same⟩ | ⟨i, type, -, inside, chosen, same⟩
      · exact ⟨order, ready⟩
      · exact ⟨order, ready.same same⟩
      · obtain ⟨rest, left, -⟩ := ready.take sound.linked inside chosen type
        exact ⟨rest, left.same same⟩

/-- So does a free. -/
theorem Coalescing.free {past : List Call} {session : Session}
    (coalescing : Coalescing past session) {block : Block} (live : block ∈ session.live)
    (given : kinds session.state l i = .taken) (pointer : block.pointer = addressOf l i)
    (freed : Freed session.state l i after) :
    Coalescing (past ++ [.kzfree block.pointer]) ⟨after, session.live.erase block⟩ where
  holding := coalescing.holding.free live given pointer freed
  merged := freed.merged_kinds coalescing.holding.sound given coalescing.merged
  list := by
    rcases coalescing.list with ⟨-, empty, -⟩ | ⟨order, ready⟩
    · rw [empty] at live
      cases live
    · right
      rcases freed.top coalescing.holding.sound given with
        same | ⟨j, t, inside, same, linked, taken, rfl⟩
      · exact ⟨order, ready.same same⟩
      · exact (ready.same same).add linked inside taken

theorem coalescing_invariant (lowerMemorySize : Nat) :
    (finding lowerMemorySize).Invariant Coalescing where
  initially := by
    rintro ⟨state, _⟩ ⟨rfl, memory, null, done⟩
    have fresh := (kheapInitBuddy_fresh done).1
    refine ⟨(holding_invariant lowerMemorySize).initially _ ⟨rfl, memory, null, done⟩, ?_,
      .inl ⟨fresh, rfl, ?_⟩⟩
    · rintro l i ⟨even, -⟩
      rw [fresh.kinds, if_neg (by omega)] at even
      cases even
    · rintro ⟨size, -, member⟩
      cases member
  preserved := by
    rintro past before after call coalescing ⟨finds, step⟩
    have laid := initVariables_laidOut lowerMemorySize
    have sound := coalescing.holding.sound
    cases step with
    | kzalloc positive bounded ran =>
      exact coalescing.alloc laid positive bounded (kzallocBuddy_returned laid sound finds ran)
    | @kzfree block code after live ran =>
      obtain ⟨l, i, given, pointer, -⟩ := coalescing.holding.placed block live
      rw [pointer] at ran
      exact coalescing.free live given pointer (kzfreeBuddy_returned laid sound given ran)

/-! ## All blocks again -/

/-- A list that has entries gives one of them away as a block of the biggest size. -/
theorem Ready.alloc (laid : LaidOut v) (sound : Sound s) (ready : Ready s order)
    (some : 0 < s.free order) : Takeable v s 0x20000 ∧ ∃ pointer after rest,
      (kzallocBuddy v 0x20000).run s = .ok (pointer, after) ∧ pointer ≠ 0 ∧ Ready after rest ∧
      after.free rest + 1 = s.free order := by
  have listed : s.isFree (entryOf 0 0) ∨ order ≠ [] := by
    by_contra neither
    rw [not_or, not_not] at neither
    rw [State.free, if_neg neither.1, neither.2] at some
    exact absurd some (by decide)
  have shown := ready.shown listed
  have named : s.isFree (entryOf 0 0) ∨ s.next (entryOf 0 0) ≠ 0 := by
    refine listed.imp_right fun more none => more ?_
    have first := ready.linear.first
    rw [show s.links.next (entryOf 0 0) = 0 from none, named_null] at first
    exact List.head?_eq_none_iff.mp first.symm
  have block : toNextLvl 0x20000 = pageSize 0 := by decide
  have search := laid.findLvlForBlock (show 0 < 8 by decide)
  have takeable : Takeable v s 0x20000 := by
    intro searchLvl freeLvl found nearest
    rw [block, search] at found
    obtain rfl := Option.some.inj found
    rw [shownLevel, laid.table 0 (by decide), if_pos (.inr shown)] at nearest
    obtain rfl := Option.some.inj nearest
    rw [laid.table 0 (by decide), if_pos rfl]
    exact ⟨named, shown⟩
  obtain ⟨pointer, after, ran, allocated⟩ := (kzallocBuddy_meets laid sound takeable).returns
  have found : findLvlForBlock v (toNextLvl 0x20000) ≠ none := by
    rw [block, search]
    exact Option.some_ne_none _
  have granted := allocated.some (by decide) (by rw [laid.maxPage]) found fun quiet => quiet.2 shown
  obtain ⟨i, -, inside, chosen, rfl⟩ := allocated.biggest granted block
  obtain ⟨rest, left, fewer⟩ := ready.take sound.linked inside chosen .allocated
  exact ⟨takeable, pointer, _, rest, ran, granted, left, fewer⟩

/-- As many blocks of the biggest size can be taken as are free. -/
theorem take_all (lowerMemorySize : Nat) (count : Nat) : ∀ past session order,
    (finding lowerMemorySize).Reaches past session → Ready session.state order →
    session.state.free order = count → ∃ later,
      (finding lowerMemorySize).Reaches (past ++ List.replicate count (.kzalloc 0x20000)) later ∧
      later.live.length = session.live.length + count := by
  induction count with
  | zero =>
    intro past session order reached _ _
    exact ⟨session, by simpa using reached, rfl⟩
  | succ count ih =>
    intro past session order reached ready free
    have laid := initVariables_laidOut lowerMemorySize
    have sound := ((holding_invariant lowerMemorySize).reached reached).sound
    obtain ⟨takeable, pointer, after, rest, ran, granted, left, fewer⟩ :=
      ready.alloc laid sound (by omega)
    have bounded : 0x20000 ≤ (initVariables lowerMemorySize).maxPage := by rw [laid.maxPage]
    have stepped := System.Reaches.step past session _ (Call.kzalloc 0x20000) reached
      (And.intro takeable (Step.kzalloc (by decide) bounded ran))
    obtain ⟨later, reached_later, length⟩ := ih _ _ rest stepped left (Nat.succ.inj (fewer.trans free))
    refine ⟨later, ?_, ?_⟩
    · rw [List.append_assoc, List.singleton_append, ← List.replicate_succ] at reached_later
      exact reached_later
    · rw [length, if_neg granted, List.length_cons]
      omega

/-- Where all entries of the first level are free, the list has all but the head. -/
theorem Linear.complete (linear : Linear s 0 order) (free : ∀ i < entries 0, s.isFree (entryOf 0 i)) :
    s.free order = entries 0 := by
  have inside (i : Nat) : i ∈ List.range' 1 1023 ↔ 0 < i ∧ i < entries 0 := by
    simp only [List.mem_range'_1, entries]
    omega
  have nodup : ((List.range' 1 1023).map (entryOf 0)).Nodup := by
    refine List.Nodup.map_on ?_ List.nodup_range'
    intro i member j member' same
    exact (entryOf_injective ((inside i).mp member).2 ((inside j).mp member').2 same).2
  have same : order.Perm ((List.range' 1 1023).map (entryOf 0)) := by
    refine (List.perm_ext_iff_of_nodup linear.nodup nodup).mpr fun entry => ?_
    rw [linear.members, List.mem_map]
    constructor
    · rintro ⟨⟨i, some, bound, rfl⟩, -⟩
      exact ⟨i, (inside i).mpr ⟨some, bound⟩, rfl⟩
    · rintro ⟨i, member, rfl⟩
      obtain ⟨some, bound⟩ := (inside i).mp member
      exact ⟨⟨i, some, bound, rfl⟩, free i bound⟩
  rw [State.free, if_pos (free 0 (entries_positive 0)), same.length_eq, List.length_map,
    List.length_range']
  rfl

/-- Once all blocks have been freed, in each run whose allocations find a block
wherever a level shows an entry, all entries of the first level are free and in its
list, and the lists of the other levels are empty. If a block of more than half a page
was ever asked for, all blocks of the biggest size can be taken then. -/
theorem coalesced_when_freed (lowerMemorySize : Nat) (past : List Call) (session : Session)
    (reached : (finding lowerMemorySize).Reaches past session) (freed : session.live = []) :
    (∀ i < entries 0, session.state.isFree (entryOf 0 i)) ∧
    (∃ order, Linear session.state 0 order ∧ ∀ i, 0 < i → i < entries 0 → entryOf 0 i ∈ order) ∧
    (∀ l, 0 < l → l < 8 → session.state.next (entryOf l 0) = 0 ∧
      ∀ i < entries l, ¬ session.state.isFree (entryOf l i)) ∧
    (Begun past → ∃ later, (finding lowerMemorySize).Reaches (past ++ List.replicate
        ((initVariables lowerMemorySize).heapSize / (initVariables lowerMemorySize).maxPage)
        (.kzalloc (initVariables lowerMemorySize).maxPage)) later ∧
      later.live.length =
        (initVariables lowerMemorySize).heapSize / (initVariables lowerMemorySize).maxPage) := by
  have coalescing := (coalescing_invariant lowerMemorySize).reached reached
  have sound := coalescing.holding.sound
  have none_taken (l i : Nat) : kinds session.state l i ≠ .taken := by
    intro taken
    obtain ⟨block, live, -⟩ := coalescing.holding.held l i taken
    rw [freed] at live
    cases live
  have bounded (l : Nat) (deep : 8 ≤ l) (i : Nat) : kinds session.state l i = .absent := by
    by_contra there
    have level := (kinds_there there).1
    omega
  obtain ⟨top, deeper⟩ := sound.tree.coalesced coalescing.merged bounded none_taken
  have free (i : Nat) (inside : i < entries 0) : session.state.isFree (entryOf 0 i) :=
    (isFree_iff (by decide) inside).mpr (top i inside)
  have empty (l : Nat) (below : 0 < l) (level : l < 8) (i : Nat) (inside : i < entries l) :
      ¬ session.state.isFree (entryOf l i) := by
    obtain ⟨l, rfl⟩ : ∃ above, l = above + 1 := ⟨l - 1, by omega⟩
    rw [isFree_iff level inside, deeper l i]
    exact nofun
  have list : ∃ order, Linear session.state 0 order := by
    rcases coalescing.list with ⟨fresh, -, -⟩ | ⟨order, ready⟩
    · exact ⟨_, fresh.linear⟩
    · exact ⟨order, ready.linear⟩
  refine ⟨free, ?_, fun l below level => ⟨?_, empty l below level⟩, fun begun => ?_⟩
  · obtain ⟨order, linear⟩ := list
    exact ⟨order, linear, fun i some inside =>
      (linear.members _).mpr ⟨⟨i, some, inside, rfl⟩, free i inside⟩⟩
  · refine (sound.linked.lists l level).first.resolve_right ?_
    rintro ⟨⟨i, -, inside, same⟩, named, -⟩
    rw [same] at named
    exact empty l below level i inside named
  · rcases coalescing.list with ⟨-, -, idle⟩ | ⟨order, ready⟩
    · exact absurd begun idle
    · obtain ⟨later, reached_later, length⟩ :=
        take_all lowerMemorySize _ past session order reached ready (ready.linear.complete free)
      have laid := initVariables_laidOut lowerMemorySize
      have blocks : (initVariables lowerMemorySize).heapSize / (initVariables lowerMemorySize).maxPage =
          entries 0 := by
        rw [laid.heapSize, laid.maxPage]
        decide
      rw [freed, List.length_nil, Nat.zero_add] at length
      rw [blocks, laid.maxPage]
      exact ⟨later, reached_later, length⟩

/-- A block that is taken and given back leaves all blocks to be taken. -/
theorem stray_coalesced : ∃ past session later, (finding 0x480000).Reaches past session ∧
    session.live = [] ∧ (∀ i < 1024, session.state.isFree (entryOf 0 i)) ∧
    (finding 0x480000).Reaches (past ++ List.replicate 1024 (.kzalloc 0x20000)) later ∧
    later.live.length = 1024 := by
  obtain ⟨pointer, after, -, reached⟩ := stray_block
  have laid := initVariables_laidOut 0x480000
  have holding := (holding_invariant 0x480000).reached reached
  have member : (⟨pointer, 0x800⟩ : Block) ∈ [(⟨pointer, 0x800⟩ : Block)] := List.mem_cons_self
  obtain ⟨code, freed, ran⟩ := holding.free_returns laid member
  have again := System.Reaches.step _ _ _ (Call.kzfree pointer) reached
    (And.intro trivial (Step.kzfree member ran))
  have live : [(⟨pointer, 0x800⟩ : Block)].erase ⟨pointer, 0x800⟩ = [] := by simp
  obtain ⟨free, -, -, onward⟩ := coalesced_when_freed 0x480000 _ _ again live
  obtain ⟨later, reached_later, length⟩ := onward ⟨0x800, by decide, by simp⟩
  exact ⟨_, _, later, again, live, free, reached_later, length⟩

/-- The heap as that memory is set up. -/
def strayHeap : State := (kheapInitBuddy 0x480000 strayMemory).2

theorem strayHeap_start : (clients 0x480000).start ⟨strayHeap, []⟩ :=
  clients_start rfl stray_set_up

/-- A block of the smallest size is taken and given back. -/
def takeSmallest : M (Nat × Code) := do
  let pointer ← kzallocBuddy (initVariables 0x480000) 0x400
  let code ← kzfreeBuddy (initVariables 0x480000) pointer
  return (pointer, code)

/-- The first entry has been split for it and is not free again. -/
theorem takeSmallest_strands :
    ((takeSmallest.run strayHeap).toOption.map fun result => (result.1, result.2.flags (entryOf 0 0))) =
      some ((0x500000, -EIARG), 0x82) := by
  decide +kernel

/-- Blocks of the smallest size are split for, but not taken. What is returned for one is
not freed, and the split is never undone. -/
theorem smallest_block_strands : ∃ session,
    (clients 0x480000).Reaches [.kzalloc 0x400, .kzfree 0x500000] session ∧
    session.live = [] ∧ ¬ session.state.isFree (entryOf 0 0) := by
  obtain ⟨⟨⟨pointer, code⟩, after⟩, came, result⟩ := Option.map_eq_some_iff.mp takeSmallest_strands
  simp only [Prod.mk.injEq] at result
  obtain ⟨⟨rfl, rfl⟩, flags⟩ := result
  obtain ⟨pointer, taken, first, rest⟩ := bind_ran (ran_of_toOption came)
  obtain ⟨code, given, second, last⟩ := bind_ran rest
  obtain ⟨same, rfl⟩ := Prod.mk.inj (Except.ok.inj last)
  obtain ⟨rfl, rfl⟩ := Prod.mk.inj same
  have begun : (clients 0x480000).Reaches [] ⟨strayHeap, []⟩ := .start _ strayHeap_start
  generalize strayHeap = state at begun first
  have alloc := System.Reaches.step _ _ _ (Call.kzalloc 0x400) begun
    (Step.kzalloc (by decide) (by decide) first)
  rw [if_neg (show 0x500000 ≠ 0 by decide)] at alloc
  have member : (⟨0x500000, 0x400⟩ : Block) ∈ [(⟨0x500000, 0x400⟩ : Block)] := List.mem_cons_self
  have free := System.Reaches.step _ _ _ (Call.kzfree 0x500000) alloc
    (@Step.kzfree _ ⟨taken, [⟨0x500000, 0x400⟩]⟩ ⟨0x500000, 0x400⟩ _ _ member second)
  refine ⟨_, free, by simp, ?_⟩
  rw [State.isFree, flags]
  decide

end BobaOS.BuddyHeap
