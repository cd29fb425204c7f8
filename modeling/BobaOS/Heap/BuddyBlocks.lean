import Mathlib.Data.List.Nodup
import BobaOS.Heap.BuddyMerges
import BobaOS.Library.Runs

/-!
# The blocks of the buddy heap

The heap in use: calls of `kzallocBuddy`, and of `kzfreeBuddy` for blocks that are
live. The nodes of the tree that are taken are exactly the live blocks, as long as
each level that is asked for a block has one. Where it has none, NULL is taken for an
entry, and what the memory holds there decides which block is returned.
-/

namespace BobaOS.BuddyHeap

open Programs HeadedLists BuddyTree Runs

variable {v : Variables} {s : State} {l i : Nat}

/-! ## After the initialization -/

/-- The entries as the initialization leaves them. -/
structure Fresh (s : State) : Prop where
  next : ∀ i < entries 0, s.next (entryOf 0 i) = if i + 1 ≠ entries 0 then entryOf 0 (i + 1) else 0
  prev : ∀ i < entries 0, s.prev (entryOf 0 i) = if 0 < i then entryOf 0 (i - 1) else 0
  lvl : ∀ i < entries 0, s.lvl (entryOf 0 i) = 0
  flags : ∀ i < entries 0, s.flags (entryOf 0 i) = KHEAP_B_FLAG_FREE
  empty : ∀ l, 0 < l → l < 8 → ∀ i < entries l, s.next (entryOf l i) = 0 ∧ s.prev (entryOf l i) = 0 ∧
    s.flags (entryOf l i) = 0

/-- The step of the loop of `initLvlTable`. -/
def initialized (table maxEntries i : Nat) (s : State) : State where
  next := if i + 1 ≠ maxEntries then
    Function.update s.next (table + ENTRY_SIZE * i) (table + ENTRY_SIZE * i + ENTRY_SIZE) else s.next
  prev := if 0 < i then
    Function.update s.prev (table + ENTRY_SIZE * i) (table + ENTRY_SIZE * i - ENTRY_SIZE) else s.prev
  lvl := Function.update s.lvl (table + ENTRY_SIZE * i) 0
  flags := Function.update s.flags (table + ENTRY_SIZE * i)
    (s.flags (table + ENTRY_SIZE * i) ||| KHEAP_B_FLAG_FREE)
  nullDereferenced := s.nullDereferenced

theorem initEntries_succ (table maxEntries left i : Nat) (s : State) :
    initEntries table maxEntries (left + 1) i s =
      initEntries table maxEntries left (i + 1) (initialized table maxEntries i s) := rfl

/-- The fields of an entry. -/
def fields (s : State) (entry : Nat) : Nat × Nat × Nat × BitVec 8 :=
  (s.next entry, s.prev entry, s.lvl entry, s.flags entry)

theorem initialized_other (table maxEntries i : Nat) {entry : Nat}
    (other : entry ≠ table + ENTRY_SIZE * i) :
    fields (initialized table maxEntries i s) entry = fields s entry := by
  simp only [fields, initialized, ite_apply, Function.update_of_ne other, ite_self]

/-- The loop leaves entries before its index alone, and those that are not in the table. -/
theorem initEntries_other (table maxEntries left : Nat) {entry : Nat} : ∀ i (s : State),
    (∀ k, i ≤ k → k < i + left → entry ≠ table + ENTRY_SIZE * k) →
    fields (initEntries table maxEntries left i s) entry = fields s entry := by
  induction left with
  | zero => exact fun _ _ _ => rfl
  | succ left ih =>
    intro i s outside
    rw [initEntries_succ, ih (i + 1) _ fun k above bound => outside k (by omega) (by omega),
      initialized_other _ _ _ (outside i (by omega) (by omega))]

/-- It sets up the entries from there on. -/
theorem initEntries_entry (table maxEntries left : Nat) {k : Nat} : ∀ i (s : State), i ≤ k →
    k < i + left → fields (initEntries table maxEntries left i s) (table + ENTRY_SIZE * k) =
      fields (initialized table maxEntries k s) (table + ENTRY_SIZE * k) := by
  have entry_inj (j : Nat) (same : table + ENTRY_SIZE * k = table + ENTRY_SIZE * j) : k = j := by
    simp only [ENTRY_SIZE] at same
    omega
  induction left with
  | zero =>
    intro i s above bound
    omega
  | succ left ih =>
    intro i s above bound
    rw [initEntries_succ]
    by_cases here : k = i
    · subst here
      refine initEntries_other table maxEntries left _ _ fun j later _ same => ?_
      have index := entry_inj j same
      omega
    · rw [ih (i + 1) _ (by omega) (by omega)]
      have before := initialized_other (s := s) table maxEntries i fun same => here (entry_inj i same)
      simp only [fields, Prod.mk.injEq] at before
      obtain ⟨next, prev, -, flags⟩ := before
      simp only [fields, initialized, ite_apply, Function.update_self] at next prev flags ⊢
      rw [next, prev, flags]

theorem initEntries_null (table maxEntries left : Nat) : ∀ i (s : State),
    (initEntries table maxEntries left i s).nullDereferenced = s.nullDereferenced := by
  induction left with
  | zero => exact fun _ _ => rfl
  | succ left ih =>
    intro i s
    rw [initEntries_succ, ih]
    rfl

/-- A successful initialization. -/
theorem kheapInitBuddy_fresh {lowerMemorySize : Nat} {memory after : State}
    (done : kheapInitBuddy lowerMemorySize memory = (0, after)) :
    Fresh after ∧ after.nullDereferenced = memory.nullDereferenced := by
  have laid := initVariables_laidOut lowerMemorySize
  have start : (initVariables lowerMemorySize).tableStartAddress = ENTRY_SIZE := rfl
  have size : (initVariables lowerMemorySize).lowerMemorySize = lowerMemorySize := rfl
  have first : ((initVariables lowerMemorySize).tableMetaData 0).maxEntries = entries 0 := rfl
  rw [kheapInitBuddy] at done
  rw [laid.tablesEnd, laid.table 0 (by decide), start, size, first] at done
  split_ifs at done with small short
  · cases congrArg Prod.fst done
  · cases congrArg Prod.fst done
  · obtain ⟨-, rfl⟩ := Prod.mk.inj done
    set blank := clearEntries ENTRY_SIZE lowerMemorySize memory with blank_eq
    have cleared (l i : Nat) (level : l < 8) (inside : i < entries l) :
        fields blank (entryOf l i) = (0, 0, 0, 0) := by
      have below := entryOf_below inside
      have above := entryOf_mono (show l + 1 ≤ 8 by omega)
      have within : (decide (ENTRY_SIZE ≤ entryOf l i) &&
          decide (entryOf l i + ENTRY_SIZE ≤ ENTRY_SIZE + lowerMemorySize)) = true := by
        rw [Bool.and_eq_true, decide_eq_true_iff, decide_eq_true_iff]
        refine ⟨?_, by omega⟩
        simp only [entryOf, ENTRY_SIZE]
        omega
      simp only [blank_eq, fields, clearEntries, within, if_true]
    have set_up (i : Nat) (inside : i < entries 0) : fields (initEntries (entryOf 0 0) (entries 0)
        (entries 0) 0 blank) (entryOf 0 i) = (if i + 1 ≠ entries 0 then entryOf 0 (i + 1) else 0,
          if 0 < i then entryOf 0 (i - 1) else 0, 0, KHEAP_B_FLAG_FREE) := by
      have entry : entryOf 0 0 + ENTRY_SIZE * i = entryOf 0 i := by
        rw [entryOf_add, Nat.zero_add]
      have law := initEntries_entry (k := i) (entryOf 0 0) (entries 0) (entries 0) 0 blank
        (Nat.zero_le i) (by omega)
      have zero := cleared 0 i (by decide) inside
      simp only [fields, Prod.mk.injEq] at zero
      have onward : entryOf 0 i + ENTRY_SIZE = entryOf 0 (i + 1) := entryOf_add 0 i 1
      rw [entry] at law
      rw [law]
      have back : (if 0 < i then entryOf 0 i - ENTRY_SIZE else 0) =
          if 0 < i then entryOf 0 (i - 1) else 0 := by
        split_ifs with some
        · simp only [entryOf, ENTRY_SIZE]
          omega
        · rfl
      simp only [fields, initialized, ite_apply, entry, Function.update_self, zero, onward, back]
      rfl
    have others (l i : Nat) (below : 0 < l) (level : l < 8) (inside : i < entries l) :
        fields (initEntries (entryOf 0 0) (entries 0) (entries 0) 0 blank) (entryOf l i) =
          (0, 0, 0, 0) := by
      rw [initEntries_other, cleared l i level inside]
      intro k _ bound
      rw [entryOf_add, Nat.zero_add]
      exact entryOf_beside (by omega) inside (by omega)
    simp only [fields, Prod.mk.injEq] at set_up others
    refine ⟨⟨?_, ?_, ?_, ?_, ?_⟩, initEntries_null _ _ _ _ _⟩
    · exact fun i inside => (set_up i inside).1
    · exact fun i inside => (set_up i inside).2.1
    · exact fun i inside => (set_up i inside).2.2.1
    · exact fun i inside => (set_up i inside).2.2.2
    · intro l below level i inside
      obtain ⟨next, prev, -, flags⟩ := others l i below level inside
      exact ⟨next, prev, flags⟩

/-- The initialization succeeds if the tables fit below the heap. -/
theorem kheapInitBuddy_succeeds {lowerMemorySize : Nat} (fits : entryOf 8 0 ≤ lowerMemorySize)
    (memory : State) : ∃ after, kheapInitBuddy lowerMemorySize memory = (0, after) ∧
      fields after 0 = fields memory 0 := by
  have laid := initVariables_laidOut lowerMemorySize
  have minPage : (initVariables lowerMemorySize).minPage = BOBAOS_KERNEL_HEAP_SMALLEST_PAGE := rfl
  have size : (initVariables lowerMemorySize).lowerMemorySize = lowerMemorySize := rfl
  rw [kheapInitBuddy, minPage, if_neg (not_not.mpr rfl), laid.tablesEnd, size, if_neg (by omega)]
  refine ⟨_, rfl, ?_⟩
  rw [initEntries_other]
  · rfl
  · intro k _ _
    rw [laid.table 0 (by decide), entryOf_add]
    exact (entryOf_ne_zero 0 _).symm

section Start

variable (fresh : Fresh s)

include fresh

/-- At first the blocks of the first level are free, and there are no others. -/
theorem Fresh.kinds (l i : Nat) :
    kinds s l i = if l = 0 ∧ i < entries 0 then .free else .absent := by
  by_cases there : l < 8 ∧ i < entries l
  · rw [kinds_inside there.1 there.2]
    by_cases first : l = 0
    · subst first
      rw [fresh.flags i there.2, if_pos ⟨rfl, there.2⟩]
      rfl
    · rw [(fresh.empty l (by omega) there.1 i there.2).2.2, if_neg fun both => first both.1]
      rfl
  · rw [BuddyHeap.kinds, if_neg there, if_neg]
    rintro ⟨rfl, inside⟩
    exact there ⟨by decide, inside⟩

/-- They are linked in their order. -/
theorem Fresh.linked : Linked s where
  one l level i inside := by
    by_cases first : l = 0
    · subst first
      rw [fresh.flags i inside]
      decide
    · rw [(fresh.empty l (by omega) level i inside).2.2]
      decide
  lvl l i there := by
    rw [fresh.kinds] at there
    split_ifs at there with first
    · obtain ⟨rfl, inside⟩ := first
      exact fresh.lvl i inside
    · exact absurd rfl there
  lists l level := by
    by_cases first : l = 0
    · subst first
      have free (i : Nat) (inside : i < entries 0) : s.isFree (entryOf 0 i) := by
        rw [isFree_iff level inside, fresh.kinds, if_pos ⟨rfl, inside⟩]
      have cell (i : Nat) (inside : i < entries 0) (some : i ≠ 0) :
          Cell 0 (entryOf 0 i) := (cell_iff inside).mpr some
      have size : entries 0 = 1024 := rfl
      refine ⟨?_, ?_, ?_, ?_⟩
      · rintro _ ⟨i, -, inside, rfl⟩ taken
        exact absurd (free i inside) taken
      · rintro _ ⟨i, some, inside, rfl⟩ -
        have next := fresh.next i inside
        split_ifs at next with last
        · have inside' : i + 1 < entries 0 := by omega
          have back := fresh.prev (i + 1) inside'
          rw [if_pos (Nat.succ_pos i), Nat.add_sub_cancel] at back
          refine .inr ?_
          simp only [State.links, next, back, and_true]
          exact ⟨cell _ inside' (by omega), free _ inside'⟩
        · exact .inl next
      · rintro _ ⟨i, some, inside, rfl⟩ -
        have back := fresh.prev i inside
        rw [if_pos some] at back
        refine .inr ?_
        by_cases second : i = 1
        · rw [second] at back
          exact .inl (by rw [second]; exact back)
        · have inside' : i - 1 < entries 0 := by omega
          have next := fresh.next (i - 1) inside'
          rw [Nat.sub_add_cancel some, if_pos (by omega)] at next
          refine .inr ?_
          simp only [State.links, next, back, and_true]
          exact ⟨cell _ inside' (by omega), free _ inside'⟩
      · have next := fresh.next 0 (entries_positive 0)
        have back := fresh.prev 1 (by omega)
        rw [if_pos (by omega)] at next
        rw [if_pos (by decide)] at back
        refine .inr ?_
        simp only [State.links, next, back]
        exact ⟨cell 1 (by omega) (by decide), free 1 (by omega), .inr trivial⟩
    · have empty := fresh.empty l (by omega) level
      refine ⟨?_, ?_, ?_, .inl (empty 0 (entries_positive l)).1⟩
      · rintro _ ⟨i, -, inside, rfl⟩ -
        exact ⟨(empty i inside).1, (empty i inside).2.1⟩
      · rintro _ ⟨i, -, inside, rfl⟩ -
        exact .inl (empty i inside).1
      · rintro _ ⟨i, -, inside, rfl⟩ -
        exact .inl (empty i inside).2.1

theorem Fresh.sound : Sound s where
  linked := fresh.linked
  tree := by
    refine ⟨fun i => ?_, fun l i => ?_⟩
    · rw [fresh.kinds]
      simp [entries]
    · rw [fresh.kinds, fresh.kinds, if_neg (by omega)]
      split_ifs <;> simp

theorem Fresh.none_taken (l i : Nat) : BuddyHeap.kinds s l i ≠ .taken := by
  rw [fresh.kinds]
  split_ifs <;> exact nofun

theorem Fresh.head_free : s.isFree (entryOf 0 0) := by
  rw [isFree_iff (by decide) (entries_positive 0), fresh.kinds, if_pos ⟨rfl, entries_positive 0⟩]

/-- The first level has entries, but does not say so. -/
theorem Fresh.hidden : ¬ s.hasEntries (entryOf 0 0) := by
  rw [State.hasEntries, fresh.flags 0 (entries_positive 0)]
  decide

/-- The other levels show nothing. -/
theorem Fresh.quiet (l : Nat) (below : 0 < l) (level : l < 8) : s.Quiet l := by
  rw [State.Quiet, State.isFree, State.hasEntries,
    (fresh.empty l below level 0 (entries_positive l)).2.2]
  decide

/-- Every search ends at the first level. -/
theorem Fresh.shown (laid : LaidOut v) (l : Nat) (level : l < 8) : shownLevel v s l = some 0 := by
  induction l with
  | zero =>
    rw [shownLevel, laid.table 0 level]
    exact if_pos (.inl fresh.head_free)
  | succ l ih =>
    rw [shownLevel, laid.table (l + 1) level,
      if_neg (not_or.mpr (fresh.quiet (l + 1) (Nat.succ_pos l) level)), ih (by omega)]

/-- Blocks that are neither of the biggest nor of the smallest size are found. -/
theorem Fresh.takeable_iff (laid : LaidOut v) {size : Nat} (level : l < 8)
    (block : toNextLvl size = pageSize l) : Takeable v s size ↔ 0 < l ∧ l + 1 ≠ 8 := by
  have search := laid.findLvlForBlock level
  constructor
  · intro takeable
    have way := (takeable l 0 (by rw [block, search]) (fresh.shown laid l level)).2
    rw [laid.table 0 (by decide), laid.maxLvl] at way
    split_ifs at way with first
    · exact absurd way fresh.hidden
    · exact ⟨by omega, way⟩
  · rintro ⟨below, above⟩ searchLvl freeLvl found shown
    rw [block, search] at found
    obtain rfl := Option.some.inj found
    rw [fresh.shown laid l level] at shown
    obtain rfl := Option.some.inj shown
    rw [laid.table 0 (by decide), if_neg (by omega), laid.maxLvl]
    exact ⟨.inl fresh.head_free, above⟩

end Start

/-! ## Blocks -/

/-- Two nodes that are taken have ranges apart. -/
theorem Sound.taken_apart (sound : Sound s) {l' i' : Nat} (left : kinds s l i = .taken)
    (right : kinds s l' i' = .taken) (different : ¬ (l = l' ∧ i = i')) :
    addressOf l i + pageSize l ≤ addressOf l' i' ∨ addressOf l' i' + pageSize l' ≤ addressOf l i := by
  have side (l k i j : Nat) (left : kinds s l i = .taken) (right : kinds s (l + k) j = .taken)
      (different : k = 0 → i ≠ j) : addressOf l i + pageSize l ≤ addressOf (l + k) j ∨
        addressOf (l + k) j + pageSize (l + k) ≤ addressOf l i := by
    have level := (kinds_there (show kinds s (l + k) j ≠ .absent by rw [right]; exact nofun)).1
    have apart := sound.tree.apart left right different (pageSize (l + k))
    rw [← pageSize_lower level, Nat.add_mul, Nat.add_mul, Nat.one_mul, Nat.one_mul] at apart
    simp only [addressOf]
    omega
  rcases Nat.le_total l l' with below | above
  · obtain ⟨k, rfl⟩ := Nat.exists_eq_add_of_le below
    exact side l k i i' left right fun same => by omega
  · obtain ⟨k, rfl⟩ := Nat.exists_eq_add_of_le above
    exact (side l' k i' i right left fun same => by omega).symm

/-- Their addresses tell them apart. -/
theorem Sound.taken_same (sound : Sound s) {l' i' : Nat} (left : kinds s l i = .taken)
    (right : kinds s l' i' = .taken) (same : addressOf l i = addressOf l' i') : l = l' ∧ i = i' := by
  by_contra different
  have apart := sound.taken_apart left right different
  have positive := pageSize_positive l
  have positive' := pageSize_positive l'
  omega

/-- A block as its owner knows it. -/
structure Block where
  pointer : Nat
  size : Nat
deriving DecidableEq

/-- The heap and the blocks that are live. -/
structure Session where
  state : State
  live : List Block

inductive Call where
  | kzalloc (size : Nat)
  | kzfree (pointer : Nat)

/-- A call, if it returns. -/
inductive Step (v : Variables) : Session → Call → Session → Prop
  | kzalloc {session : Session} {size pointer : Nat} {after : State} (positive : 1 ≤ size)
      (bounded : size ≤ v.maxPage)
      (ran : (kzallocBuddy v size).run session.state = .ok (pointer, after)) :
      Step v session (.kzalloc size)
        ⟨after, if pointer = 0 then session.live else ⟨pointer, size⟩ :: session.live⟩
  | kzfree {session : Session} {block : Block} {code : Code} {after : State}
      (live : block ∈ session.live)
      (ran : (kzfreeBuddy v block.pointer).run session.state = .ok (code, after)) :
      Step v session (.kzfree block.pointer) ⟨after, session.live.erase block⟩

/-- The heap in use, from a successful initialization on. -/
def clients (lowerMemorySize : Nat) : System Session Call where
  start session := session.live = [] ∧ ∃ memory, memory.nullDereferenced = false ∧
    kheapInitBuddy lowerMemorySize memory = (0, session.state)
  step := Step (initVariables lowerMemorySize)

theorem clients_start {lowerMemorySize : Nat} {memory : State} (unused : memory.nullDereferenced = false)
    (done : (kheapInitBuddy lowerMemorySize memory).1 = 0) :
    (clients lowerMemorySize).start ⟨(kheapInitBuddy lowerMemorySize memory).2, []⟩ :=
  ⟨rfl, memory, unused, Prod.ext done rfl⟩

/-- A call for a block finds one, wherever a level shows an entry. -/
def Call.FindsBlock (v : Variables) (session : Session) : Call → Prop
  | .kzalloc size => Takeable v session.state size
  | .kzfree _ => True

/-- The heap in use, where each allocation finds a block if a level shows an entry. -/
abbrev finding (lowerMemorySize : Nat) : System Session Call :=
  (clients lowerMemorySize).restrict fun session call =>
    call.FindsBlock (initVariables lowerMemorySize) session

/-- The live blocks are in the heap. -/
def InHeap (v : Variables) (block : Block) : Prop :=
  BOBAOS_KERNEL_HEAP_ADDRESS ≤ block.pointer ∧
    block.pointer + toNextLvl block.size ≤ BOBAOS_KERNEL_HEAP_ADDRESS + v.heapSize

/-- Two blocks share no byte. -/
def Apart (left right : Block) : Prop :=
  left.pointer + toNextLvl left.size ≤ right.pointer ∨
    right.pointer + toNextLvl right.size ≤ left.pointer

instance (left right : Block) : Decidable (Apart left right) := inferInstanceAs (Decidable (_ ∨ _))

/-- The nodes that are taken are the live blocks. -/
structure Holding (session : Session) : Prop where
  sound : Sound session.state
  placed : ∀ block ∈ session.live, ∃ l i, kinds session.state l i = .taken ∧
    block.pointer = addressOf l i ∧ toNextLvl block.size = pageSize l
  held : ∀ l i, kinds session.state l i = .taken →
    ∃ block ∈ session.live, block.pointer = addressOf l i
  once : (session.live.map Block.pointer).Nodup

/-- A block is returned if there is a level for it and the heap shows an entry. -/
theorem Allocated.some {size pointer : Nat} {after : State}
    (allocated : Allocated v s size pointer after) (positive : 1 ≤ size) (bounded : size ≤ v.maxPage)
    (found : findLvlForBlock v (toNextLvl size) ≠ none) (shown : ¬ s.Quiet 0) : pointer ≠ 0 := by
  cases allocated with
  | refused reason =>
    rcases reason with zero | large | missing | quiet
    · omega
    · omega
    · exact absurd missing found
    · exact absurd quiet shown
  | given => exact addressOf_ne_zero _ _

/-- An allocation adds the block that it takes. -/
theorem Holding.alloc {session : Session} (holding : Holding session) {size pointer : Nat}
    {after : State} (allocated : Allocated v session.state size pointer after) :
    Holding ⟨after, if pointer = 0 then session.live else ⟨pointer, size⟩ :: session.live⟩ := by
  have sound := allocated.sound holding.sound
  rcases allocated.taken holding.sound with ⟨rfl, rfl⟩ | ⟨l, i, -, -, rfl, block, fresh, taken⟩
  · rw [if_pos rfl]
    exact holding
  · rw [if_neg (addressOf_ne_zero l i)]
    have here : kinds after l i = .taken := (taken l i).mpr (.inr ⟨rfl, rfl⟩)
    refine ⟨sound, ?_, ?_, ?_⟩
    · intro other member
      rcases List.mem_cons.mp member with rfl | old
      · exact ⟨l, i, here, rfl, block⟩
      · obtain ⟨l', i', there, pointer, size⟩ := holding.placed other old
        exact ⟨l', i', (taken l' i').mpr (.inl there), pointer, size⟩
    · intro l' i' there
      rcases (taken l' i').mp there with old | ⟨rfl, rfl⟩
      · obtain ⟨other, member, pointer⟩ := holding.held l' i' old
        exact ⟨other, List.mem_cons_of_mem _ member, pointer⟩
      · exact ⟨_, List.mem_cons_self, rfl⟩
    · refine List.nodup_cons.mpr ⟨fun repeated => ?_, holding.once⟩
      obtain ⟨other, member, same⟩ := List.mem_map.mp repeated
      obtain ⟨l', i', there, pointer, -⟩ := holding.placed other member
      obtain ⟨rfl, rfl⟩ := sound.taken_same ((taken l' i').mpr (.inl there)) here
        (pointer.symm.trans same)
      exact fresh there

/-- A free removes the block that it gives back. -/
theorem Holding.free {session : Session} (holding : Holding session) {block : Block}
    (live : block ∈ session.live) {after : State} (given : kinds session.state l i = .taken)
    (pointer : block.pointer = addressOf l i) (freed : Freed session.state l i after) :
    Holding ⟨after, session.live.erase block⟩ := by
  have taken := freed.taken holding.sound given
  have same_block {other : Block} (member : other ∈ session.live)
      (same : other.pointer = block.pointer) : other = block :=
    List.inj_on_of_nodup_map holding.once member live same
  have erased (other : Block) : other ∈ session.live.erase block ↔
      other ≠ block ∧ other ∈ session.live := (List.Nodup.of_map _ holding.once).mem_erase_iff
  refine ⟨freed.sound holding.sound given, ?_, ?_, ?_⟩
  · intro other member
    obtain ⟨different, old⟩ := (erased other).mp member
    obtain ⟨l', i', there, pointer', size⟩ := holding.placed other old
    refine ⟨l', i', (taken l' i').mpr ⟨there, ?_⟩, pointer', size⟩
    rintro ⟨rfl, rfl⟩
    exact different (same_block old (pointer'.trans pointer.symm))
  · intro l' i' there
    obtain ⟨old, different⟩ := (taken l' i').mp there
    obtain ⟨other, member, pointer'⟩ := holding.held l' i' old
    refine ⟨other, (erased other).mpr ⟨?_, member⟩, pointer'⟩
    rintro rfl
    exact different (holding.sound.taken_same old given (pointer'.symm.trans pointer))
  · exact ((List.erase_sublist).map _).nodup holding.once

/-- What a call that has returned has done. -/
theorem kzallocBuddy_returned (laid : LaidOut v) (sound : Sound s) {size pointer : Nat} {after : State}
    (takeable : Takeable v s size) (ran : (kzallocBuddy v size).run s = .ok (pointer, after)) :
    Allocated v s size pointer after := by
  have meets : Meets (kzallocBuddy v size) s (fun _ => True) _ := kzallocBuddy_meets laid sound takeable
  exact meets.returned ran

theorem kzfreeBuddy_returned (laid : LaidOut v) (sound : Sound s) {code : Code} {after : State}
    (given : kinds s l i = .taken)
    (ran : (kzfreeBuddy v (addressOf l i)).run s = .ok (code, after)) : Freed s l i after := by
  have meets : Meets (kzfreeBuddy v (addressOf l i)) s (fun _ => True) _ :=
    kzfreeBuddy_meets laid sound given
  exact (meets.returned ran).2

/-- A live block can be given back. -/
theorem Holding.free_returns (laid : LaidOut v) {session : Session} (holding : Holding session)
    {block : Block} (live : block ∈ session.live) : ∃ code after,
      (kzfreeBuddy v block.pointer).run session.state = .ok (code, after) := by
  obtain ⟨l, i, given, pointer, -⟩ := holding.placed block live
  rw [pointer]
  obtain ⟨code, after, ran, -⟩ := (kzfreeBuddy_meets laid holding.sound given).returns
  exact ⟨code, after, ran⟩

/-- One call keeps the blocks. -/
theorem Holding.step (laid : LaidOut v) {before after : Session} {call : Call}
    (holding : Holding before) (finds : call.FindsBlock v before) (step : Step v before call after) :
    Holding after := by
  cases step with
  | kzalloc positive bounded ran =>
    exact holding.alloc (kzallocBuddy_returned laid holding.sound finds ran)
  | @kzfree block code after live ran =>
    obtain ⟨l, i, given, pointer, -⟩ := holding.placed block live
    rw [pointer] at ran
    exact holding.free live given pointer (kzfreeBuddy_returned laid holding.sound given ran)

theorem holding_invariant (lowerMemorySize : Nat) :
    (finding lowerMemorySize).Invariant fun _ session => Holding session where
  initially := by
    rintro ⟨state, _⟩ ⟨rfl, memory, -, done⟩
    have fresh := (kheapInitBuddy_fresh done).1
    refine ⟨fresh.sound, by simp, fun l i taken => ?_, by simp⟩
    exact absurd taken (fresh.none_taken l i)
  preserved _ before after call holding stepped :=
    holding.step (initVariables_laidOut lowerMemorySize) stepped.1 stepped.2

/-- In each run whose allocations find a block wherever a level shows an entry, the
live blocks are in the heap and share no byte. -/
theorem live_blocks_apart_while_found (lowerMemorySize : Nat) (past : List Call) (session : Session)
    (reached : (finding lowerMemorySize).Reaches past session) :
    (∀ block ∈ session.live, InHeap (initVariables lowerMemorySize) block) ∧
      session.live.Pairwise Apart := by
  have laid := initVariables_laidOut lowerMemorySize
  have holding := (holding_invariant lowerMemorySize).reached reached
  refine ⟨fun block member => ?_, ?_⟩
  · obtain ⟨l, i, taken, pointer, size⟩ := holding.placed block member
    obtain ⟨level, inside⟩ := kinds_there (by rw [taken]; exact nofun)
    rw [InHeap, pointer, size, laid.heapSize]
    exact ⟨Nat.le_add_right _ _, addressOf_fits level inside⟩
  · refine (List.pairwise_map.mp holding.once).imp_of_mem ?_
    intro left right left_member right_member different
    obtain ⟨l, i, taken, pointer, size⟩ := holding.placed left left_member
    obtain ⟨l', i', taken', pointer', size'⟩ := holding.placed right right_member
    rw [Apart, pointer, size, pointer', size']
    refine holding.sound.taken_apart taken taken' ?_
    rintro ⟨rfl, rfl⟩
    exact different (pointer.trans pointer'.symm)

/-- A memory whose first bytes would be an entry of level 8. -/
def strayMemory : State where
  next _ := 0
  prev _ := 0
  lvl entry := if entry = 0 then 8 else 0
  flags _ := 0
  nullDereferenced := false

/-- Right after the initialization, no entry is found for the biggest block, and NULL
is taken for it. With that memory it stands for the block at the start of the heap. -/
theorem kzallocBuddy_null (laid : LaidOut v) (free : s.isFree (entryOf 0 0))
    (hidden : ¬ s.hasEntries (entryOf 0 0)) (lvl : s.lvl 0 = 8) (flags : s.flags 0 = 0)
    (no_size : (v.tableMetaData 8).blockSize = 0) :
    (kzallocBuddy v 0x20000).run s =
      .ok (BOBAOS_KERNEL_HEAP_ADDRESS, { s with nullDereferenced := true }) := by
  have real := laid.real (show 0 < 8 by decide) (entries_positive 0)
  have table : v.lvlTable 8 = 0 := laid.no_table 8 (Nat.le_refl 8)
  have next : toNextLvl 0x20000 = pageSize 0 := by decide
  have shown : shownLevel v s 0 = some 0 := by
    rw [shownLevel, laid.table 0 (by decide)]
    exact if_pos (.inl free)
  have entry : Meets (getFreeEntry v 0) s (fun _ => False) fun entry after => entry = 0 ∧ after = s := by
    rw [getFreeEntry, meets_bind, tableAt_meets laid (by decide), meets_bind, meets_getFlags real,
      if_neg (show ¬ s.flags (entryOf 0 0) &&& KHEAP_B_FLAG_HAS_ENTRIES ≠ 0 from hidden)]
    exact .pure ⟨rfl, rfl⟩
  have fits : BOBAOS_KERNEL_HEAP_ADDRESS + pageSize 0 ≤ BOBAOS_KERNEL_HEAP_ADDRESS + v.heapSize := by
    rw [laid.heapSize]
    decide
  have small : BOBAOS_KERNEL_HEAP_ADDRESS < 18446744073709551616 := by decide
  have meets : Meets (kzallocBuddy v 0x20000) s (fun _ => False) fun pointer after =>
      pointer = BOBAOS_KERNEL_HEAP_ADDRESS ∧ after = { s with nullDereferenced := true } := by
    rw [kzallocBuddy, laid.maxPage, if_neg (by decide), next, laid.findLvlForBlock (by decide)]
    dsimp only
    rw [meets_bind, meets_get, shown]
    dsimp only
    rw [if_neg (not_not.mpr rfl)]
    apply entry.bind
    rintro _ _ ⟨rfl, rfl⟩
    simp [takeBlock, removeEntry, entryToHeapAddress, tableIndex, tableAt, getFlags, getLvl, clearBytes,
      meets_access (isEntry_zero v), flags, lvl, table, no_size, KHEAP_MAX_ALLOWED_LEVEL,
      Nat.mod_eq_of_lt small, fits]
  obtain ⟨_, _, ran, rfl, rfl⟩ := meets.returns
  exact ran

/-- A run that begins with that memory. -/
theorem stray_start : ∃ state, (clients 0x480000).start ⟨state, []⟩ ∧ Fresh state ∧
    state.lvl 0 = 8 ∧ state.flags 0 = 0 := by
  obtain ⟨state, done, kept⟩ := kheapInitBuddy_succeeds (show entryOf 8 0 ≤ 0x480000 by decide)
    strayMemory
  simp only [fields, Prod.mk.injEq] at kept
  exact ⟨state, ⟨rfl, strayMemory, rfl, done⟩, (kheapInitBuddy_fresh done).1, kept.2.2.1,
    kept.2.2.2⟩

/-- The first two of the biggest blocks are the same one. -/
theorem biggest_blocks_overlap : ∃ session,
    (clients 0x480000).Reaches [.kzalloc 0x20000, .kzalloc 0x20000] session ∧
    session.live = [⟨0x500000, 0x20000⟩, ⟨0x500000, 0x20000⟩] ∧ ¬ session.live.Pairwise Apart := by
  obtain ⟨state, start, fresh, lvl, flags⟩ := stray_start
  have laid := initVariables_laidOut 0x480000
  have run := kzallocBuddy_null laid fresh.head_free fresh.hidden lvl flags rfl
  have again : (kzallocBuddy (initVariables 0x480000) 0x20000).run
      { state with nullDereferenced := true } =
        .ok (BOBAOS_KERNEL_HEAP_ADDRESS, { state with nullDereferenced := true }) :=
    kzallocBuddy_null laid fresh.head_free fresh.hidden lvl flags rfl
  have first := System.Reaches.step _ _ _ _ (.start _ start) (.kzalloc (by decide) (by decide) run)
  have second := System.Reaches.step _ _ _ _ first (.kzalloc (by decide) (by decide) again)
  refine ⟨_, second, rfl, fun apart => ?_⟩
  have apart : [⟨0x500000, 0x20000⟩, ⟨0x500000, 0x20000⟩].Pairwise Apart := apart
  exact absurd ((List.pairwise_cons.mp apart).1 _ List.mem_cons_self) (by decide)

/-- A block of two pages is found right after the initialization. -/
theorem stray_block : ∃ pointer after, pointer ≠ 0 ∧
    (finding 0x480000).Reaches [.kzalloc 0x800] ⟨after, [⟨pointer, 0x800⟩]⟩ := by
  obtain ⟨state, start, fresh, -, -⟩ := stray_start
  have laid := initVariables_laidOut 0x480000
  have block : toNextLvl 0x800 = pageSize 6 := by decide
  have takeable := (fresh.takeable_iff laid (show 6 < 8 by decide) block).mpr (by decide)
  obtain ⟨pointer, after, ran, allocated⟩ := (kzallocBuddy_meets laid fresh.sound takeable).returns
  have found : findLvlForBlock (initVariables 0x480000) (toNextLvl 0x800) ≠ none := by
    rw [block, laid.findLvlForBlock (by decide)]
    exact nofun
  have some := allocated.some (by decide) (by decide) found fun quiet => quiet.1 fresh.head_free
  have begun : (finding 0x480000).Reaches [] ⟨state, []⟩ := .start _ start
  have reached := System.Reaches.step _ _ _ (Call.kzalloc 0x800) begun
    (And.intro takeable (Step.kzalloc (by decide) (by decide) ran))
  rw [if_neg some] at reached
  exact ⟨pointer, after, some, reached⟩

theorem stray_block_in_heap : ∃ session : Session, session.live ≠ [] ∧
    (∀ block ∈ session.live, InHeap (initVariables 0x480000) block) ∧ session.live.Pairwise Apart := by
  obtain ⟨pointer, after, -, reached⟩ := stray_block
  exact ⟨_, List.cons_ne_nil _ _, live_blocks_apart_while_found 0x480000 _ _ reached⟩

end BobaOS.BuddyHeap
