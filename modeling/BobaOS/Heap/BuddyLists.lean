import BobaOS.Heap.BuddyBlocks

/-!
# The free lists of the buddy heap

The list of a level is its head, if that is free, and the entries behind it. The
initialization links all entries of the first level, but does not mark its head, so
that the level denies its entries; and the second half of the first split is linked
in front of an entry that is not there.
-/

namespace BobaOS.BuddyHeap

open Programs HeadedLists BuddyTree LinkedLists Runs

variable {v : Variables} {s after : State} {l i : Nat}

/-! ## Sizes -/

theorem toNextLvlLoop_zero (fuel ret : Nat) : toNextLvlLoop fuel 0 ret = ret := by
  cases fuel with
  | zero => rfl
  | succ fuel => exact if_neg (Nat.lt_irrefl 0)

/-- The loop doubles once for each bit. -/
theorem toNextLvlLoop_bits (k : Nat) : ∀ fuel n ret, 2 ^ k ≤ n → n < 2 ^ (k + 1) → k < fuel →
    ret * 2 ^ (k + 1) < 2 ^ 64 → toNextLvlLoop fuel n ret = ret * 2 ^ (k + 1) := by
  induction k with
  | zero =>
    intro fuel n ret above below steps small
    obtain ⟨fuel, rfl⟩ : ∃ rest, fuel = rest + 1 := ⟨fuel - 1, by omega⟩
    obtain rfl : n = 1 := by omega
    rw [toNextLvlLoop, if_pos Nat.one_pos, toNextLvlLoop_zero, Nat.mod_eq_of_lt (by simpa using small)]
    rfl
  | succ k ih =>
    intro fuel n ret above below steps small
    obtain ⟨fuel, rfl⟩ : ∃ rest, fuel = rest + 1 := ⟨fuel - 1, by omega⟩
    have double : ret * 2 * 2 ^ (k + 1) = ret * 2 ^ (k + 1 + 1) := by ring
    have bound : ret * 2 ≤ ret * 2 * 2 ^ (k + 1) := Nat.le_mul_of_pos_right _ (Nat.two_pow_pos _)
    rw [Nat.pow_succ] at above below
    rw [toNextLvlLoop, if_pos (by have positive := Nat.two_pow_pos k; omega),
      Nat.mod_eq_of_lt (by omega), ih fuel (n / 2) (ret * 2) (by omega) (by omega) (by omega)
        (by omega), double]

/-- The sizes between those of two levels get blocks of the bigger one. -/
theorem toNextLvl_pageSize {l size : Nat} (level : l < 8) (above : pageSize l < 2 * size)
    (below : size ≤ pageSize l) : toNextLvl size = pageSize l := by
  have power : pageSize l = 2 ^ (16 - l + 1) := by
    rw [pageSize, show 1024 = 2 ^ 10 from rfl, ← Nat.pow_add]
    congr 1
    omega
  have some := pageSize_positive l
  have bound : 2 ^ (16 - l + 1) < 2 ^ 64 := Nat.pow_lt_pow_right (by decide) (by omega)
  have half : 2 ^ (16 - l + 1) = 2 * 2 ^ (16 - l) := by ring
  rw [toNextLvl, if_neg (by omega), power, toNextLvlLoop_bits (16 - l) 64 (size - 1) 1 (by omega)
    (by omega) (by omega) (by omega), Nat.one_mul]

/-- Sizes above half of the smallest page have a level. -/
theorem exists_level {size : Nat} (above : 512 < size) (below : size ≤ 0x20000) :
    ∃ l < 8, pageSize l < 2 * size ∧ size ≤ pageSize l := by
  have some : size - 1 ≠ 0 := by omega
  have low := Nat.log2_self_le some
  have high := Nat.lt_log2_self (n := size - 1)
  have exponent_low : 9 ≤ (size - 1).log2 := (Nat.le_log2 some).mpr (by omega)
  have exponent_high : (size - 1).log2 < 17 := (Nat.log2_lt some).mpr (by omega)
  have power : pageSize (16 - (size - 1).log2) = 2 ^ ((size - 1).log2 + 1) := by
    rw [pageSize, show 1024 = 2 ^ 10 from rfl, ← Nat.pow_add]
    congr 1
    omega
  refine ⟨16 - (size - 1).log2, by omega, ?_, ?_⟩
  · rw [power, Nat.pow_succ]
    omega
  · rw [power]
    omega

/-- Smaller sizes have no level. -/
theorem toNextLvl_small {size : Nat} (positive : 1 ≤ size) (small : size ≤ 512) :
    toNextLvl size < 1024 := by
  rw [toNextLvl, if_neg (by omega)]
  by_cases one : size - 1 = 0
  · rw [one, toNextLvlLoop_zero]
    decide
  · have exponent : (size - 1).log2 < 9 := (Nat.log2_lt one).mpr (by omega)
    have power : 2 ^ ((size - 1).log2 + 1) < 2 ^ 10 := Nat.pow_lt_pow_right (by decide) (by omega)
    rw [toNextLvlLoop_bits (size - 1).log2 64 (size - 1) 1 (Nat.log2_self_le one) Nat.lt_log2_self
      (by omega) (by omega), Nat.one_mul]
    exact power

/-! ## Lists -/

/-- All free entries of a level, but the head, are in one chain behind it. -/
def Linear (s : State) (l : Nat) (order : List Nat) : Prop :=
  Whole 0 (entryOf l 0) (Cell l) s.isFree s.links
    (if s.isFree (entryOf l 0) then some (entryOf l 0) else none) order

/-- And the head says whether there are any. -/
def FreeList (s : State) (l : Nat) : Prop :=
  ∃ order, Linear s l order ∧
    (s.hasEntries (entryOf l 0) ↔ s.isFree (entryOf l 0) ∨ order ≠ [])

/-- The entries of the first level from an index on are linked in their order. -/
theorem Fresh.segment (fresh : Fresh s) (left : Nat) : ∀ i, 0 < i → i + left = entries 0 →
    Segment (fun x => named 0 (s.next x)) (fun x => named 0 (s.prev x)) (some (entryOf 0 (i - 1)))
      ((List.range' i left).map (entryOf 0)) none := by
  induction left with
  | zero => exact fun _ _ _ => trivial
  | succ left ih =>
    intro i some bound
    have rest := ih (i + 1) (by omega) (by omega)
    have back := fresh.prev i (by omega)
    have onward := fresh.next i (by omega)
    rw [if_pos some] at back
    rw [List.range'_succ, List.map_cons]
    refine ⟨?_, ?_, rest⟩
    · simp only [back, named_some (entryOf_ne_zero 0 _)]
    · simp only [onward]
      cases left with
      | zero => simp [bound]
      | succ left =>
        rw [if_pos (by omega), named_some (entryOf_ne_zero 0 _), List.range'_succ, List.map_cons]
        rfl

/-- At first the list of the first level is whole. -/
theorem Fresh.linear (fresh : Fresh s) :
    Linear s 0 ((List.range' 1 1023).map (entryOf 0)) := by
  have inside (i : Nat) : i ∈ List.range' 1 1023 ↔ 0 < i ∧ i < entries 0 := by
    simp only [List.mem_range'_1, entries]
    omega
  rw [Linear, if_pos fresh.head_free]
  refine ⟨fun entry => ?_, ?_, ?_, fresh.segment 1023 1 Nat.one_pos rfl⟩
  · rw [List.mem_map]
    constructor
    · rintro ⟨i, member, rfl⟩
      obtain ⟨some, bound⟩ := (inside i).mp member
      refine ⟨⟨i, some, bound, rfl⟩, ?_⟩
      rw [isFree_iff (by decide) bound, fresh.kinds, if_pos ⟨rfl, bound⟩]
    · rintro ⟨⟨i, some, bound, rfl⟩, -⟩
      exact ⟨i, (inside i).mpr ⟨some, bound⟩, rfl⟩
  · refine List.Nodup.map_on ?_ List.nodup_range'
    intro i member j member' same
    exact (entryOf_injective ((inside i).mp member).2 ((inside j).mp member').2 same).2
  · have onward := fresh.next 0 (entries_positive 0)
    rw [if_pos (by decide)] at onward
    rw [List.range'_succ, List.map_cons, List.head?_cons]
    simp only [State.links, onward, named_some (entryOf_ne_zero 0 _)]

/-- The list of the first level is not empty, but its head says so. -/
theorem Fresh.denied (fresh : Fresh s) : ¬ FreeList s 0 := by
  rintro ⟨order, -, shown⟩
  exact fresh.hidden (shown.mpr (.inl fresh.head_free))

/-! ## NULL -/

/-- What has been dereferenced stays so. -/
theorem splitState_null (null : s.nullDereferenced = true) :
    (splitState l i s).nullDereferenced = true := by
  simp [splitState, added, removed, null]

theorem Splits.null {l' i' : Nat} (splits : Splits l i s l' i' after)
    (null : s.nullDereferenced = true) : after.nullDereferenced = true := by
  induction splits with
  | here => exact null
  | onward _ _ _ _ _ ih => exact ih (splitState_null null)

/-- The first split makes both entries of the next level free. The second one is
linked in front of the first one's successor, which is NULL. -/
theorem Fresh.split_null (fresh : Fresh s) : (splitState 0 0 s).nullDereferenced = true := by
  have level : 1 < 8 := by decide
  have inside := entries_positive 1
  have beside := fresh.linked.removed_beside (by decide) (entries_positive 0) fresh.head_free .split
  have same := beside.same 1 level (by decide) 0 inside
  have hidden : ¬ (removed (entryOf 0 0) (entryOf 0 0) .split s).hasEntries (entryOf 1 0) := by
    rw [State.hasEntries, same.2.2]
    exact (fresh.quiet 1 Nat.one_pos level).2
  have no_next : (removed (entryOf 0 0) (entryOf 0 0) .split s).next (entryOf 1 0) = 0 :=
    same.1.trans (fresh.empty 1 Nat.one_pos level 0 inside).1
  rw [splitState, Nat.mul_zero]
  generalize removed (entryOf 0 0) (entryOf 0 0) .split s = parted at hidden no_next
  have shown := added_hasEntries (entryOf 1 0) (entryOf 1 0) 1 parted
  have still_none : (added (entryOf 1 0) (entryOf 1 0) 1 parted).next (entryOf 1 0) = 0 := by
    simp [added, addedLinks, hidden, State.links, no_next]
  rw [added, still_none]
  simp [shown]

/-- The other levels have empty lists. -/
theorem Fresh.freeList (fresh : Fresh s) (below : 0 < l) (level : l < 8) : FreeList s l := by
  have quiet := fresh.quiet l below level
  have next := (fresh.empty l below level 0 (entries_positive l)).1
  refine ⟨[], ⟨?_, List.nodup_nil, ?_, trivial⟩, ?_⟩
  · rintro entry
    simp only [List.not_mem_nil, false_iff]
    rintro ⟨⟨i, -, inside, rfl⟩, free⟩
    rw [isFree_iff level inside, fresh.kinds, if_neg (by omega)] at free
    cases free
  · simp [State.links, next]
  · simp [quiet.1, quiet.2]

/-- Whichever block is taken first, one below the first level comes from that split. -/
theorem Fresh.alloc_null (fresh : Fresh s) {size pointer : Nat} (level : l < 8) (below : 0 < l)
    (block : toNextLvl size = pageSize l) (allocated : Allocated v s size pointer after)
    (some : pointer ≠ 0) : after.nullDereferenced = true := by
  cases allocated with
  | refused => exact absurd rfl some
  | @given freeLvl i lvl c parted level' block' offers chosen splits =>
    obtain rfl := pageSize_injective level level' (block.symm.trans block')
    have deeper := splits.deeper
    obtain rfl : freeLvl = 0 := by
      by_contra other
      have quiet := fresh.quiet freeLvl (by omega) (by omega)
      exact offers.elim quiet.1 fun both => quiet.2 both.1
    rw [State.chosen, if_pos fresh.head_free] at chosen
    cases splits with
    | here => omega
    | onward level inside free child rest =>
      obtain ⟨-, rfl⟩ := entryOf_injective (entries_positive 0) inside chosen
      exact rest.null fresh.split_null

/-- The heap in use, from one successful initialization on. -/
def clientsFrom (lowerMemorySize : Nat) (memory : State) : System Session Call where
  start session := session.live = [] ∧ kheapInitBuddy lowerMemorySize memory = (0, session.state)
  step := Step (initVariables lowerMemorySize)

/-- The lists of all levels are whole, and NULL has not been dereferenced. -/
def ListsSound (session : Session) : Prop :=
  (∀ l < 8, FreeList session.state l) ∧ session.state.nullDereferenced = false

/-- After no initialization do the lists stay sound. They are not so at first, since
the first level has a whole list, but denies it; and the first block of more than a page and
less than the biggest one is returned after NULL has been dereferenced. -/
theorem lists_never_sound (lowerMemorySize : Nat) (memory : State)
    (done : (kheapInitBuddy lowerMemorySize memory).1 = 0) :
    (¬ ∀ past session, (clientsFrom lowerMemorySize memory).Reaches past session →
      ListsSound session) ∧
    (∃ order, Linear (kheapInitBuddy lowerMemorySize memory).2 0 order ∧ order.length = 1023) ∧
    (∀ l < 8, FreeList (kheapInitBuddy lowerMemorySize memory).2 l ↔ l ≠ 0) ∧
    ∀ size, 1024 < size → size ≤ 0x10000 → ∃ pointer after,
      (kzallocBuddy (initVariables lowerMemorySize) size).run
        (kheapInitBuddy lowerMemorySize memory).2 = .ok (pointer, after) ∧
      after.nullDereferenced = true := by
  have laid := initVariables_laidOut lowerMemorySize
  have result : kheapInitBuddy lowerMemorySize memory =
      (0, (kheapInitBuddy lowerMemorySize memory).2) := Prod.ext done rfl
  have fresh := (kheapInitBuddy_fresh result).1
  refine ⟨fun sound => ?_, ⟨_, fresh.linear, by simp⟩, fun l level => ?_, fun size above bound => ?_⟩
  · exact fresh.denied ((sound [] ⟨_, []⟩ (.start _ ⟨rfl, result⟩)).1 0 (by decide))
  · by_cases first : l = 0
    · simp [first, fresh.denied]
    · simp [first, fresh.freeList (Nat.pos_of_ne_zero first) level]
  · obtain ⟨l, level, low, high⟩ := exists_level (show 512 < size by omega)
      (show size ≤ 0x20000 by omega)
    have block := toNextLvl_pageSize level low high
    have between : 0 < l ∧ l + 1 ≠ 8 := by
      constructor
      · refine Nat.pos_of_ne_zero ?_
        rintro rfl
        rw [pageSize] at low
        omega
      · intro last
        obtain rfl : l = 7 := by omega
        rw [pageSize] at high
        omega
    have takeable := (fresh.takeable_iff laid level block).mpr between
    obtain ⟨pointer, after, ran, allocated⟩ := (kzallocBuddy_meets laid fresh.sound takeable).returns
    have found : findLvlForBlock (initVariables lowerMemorySize) (toNextLvl size) ≠ none := by
      rw [block, laid.findLvlForBlock level]
      exact Option.some_ne_none _
    have some := allocated.some (by omega) (by rw [laid.maxPage]; omega) found
      fun quiet => quiet.1 fresh.head_free
    exact ⟨pointer, after, ran, fresh.alloc_null level between.1 block allocated some⟩

/-- Tables that fit below the heap are set up. -/
theorem stray_set_up : (kheapInitBuddy 0x480000 strayMemory).1 = 0 := by
  obtain ⟨state, done, -⟩ := kheapInitBuddy_succeeds (show entryOf 8 0 ≤ 0x480000 by decide)
    strayMemory
  rw [done]

theorem stray_never_sound : ¬ ∀ past session,
    (clientsFrom 0x480000 strayMemory).Reaches past session → ListsSound session :=
  (lists_never_sound 0x480000 strayMemory stray_set_up).1

/-- Before the first call the first level has all its entries and denies them. -/
theorem stray_unsound_at_first : ∃ session, (clientsFrom 0x480000 strayMemory).Reaches [] session ∧
    session.state.isFree (entryOf 0 0) ∧ ¬ session.state.hasEntries (entryOf 0 0) ∧
    ¬ ListsSound session := by
  obtain ⟨state, done, -⟩ := kheapInitBuddy_succeeds (show entryOf 8 0 ≤ 0x480000 by decide)
    strayMemory
  have fresh := (kheapInitBuddy_fresh done).1
  exact ⟨⟨state, []⟩, .start _ ⟨rfl, done⟩, fresh.head_free, fresh.hidden,
    fun sound => fresh.denied (sound.1 0 (by decide))⟩

end BobaOS.BuddyHeap
