import BobaOS.Heap.BuddyCoalescing

/-!
# Requests that are served, and pointers that are rejected

A request for a block is served if its size has a level and one of the levels from
there up shows an entry. Sizes of at most half of the smallest page have no level,
whatever is free. A pointer is rejected if it is outside the heap or in a part that no
live block holds: inside a live block it frees the block, and the address of the end
of the heap passes for one in it.
-/

namespace BobaOS.BuddyHeap

open Programs HeadedLists BuddyTree Runs

variable {v : Variables} {s after : State} {fault : Fault → Prop} {l i : Nat}

/-! ## Requests -/

/-- A free block with enough bytes. -/
def Available (s : State) (size : Nat) : Prop :=
  ∃ l i, kinds s l i = .free ∧ toNextLvl size ≤ pageSize l

/-- A block of the level of the size is returned, and it is taken from then on only. -/
def Served (v : Variables) (s : State) (size : Nat) : Prop :=
  ∃ pointer after l i, (kzallocBuddy v size).run s = .ok (pointer, after) ∧ pointer ≠ 0 ∧
    pointer = addressOf l i ∧ toNextLvl size = pageSize l ∧ size ≤ pageSize l ∧
    kinds s l i ≠ .taken ∧ kinds after l i = .taken

/-- The size has a level, and that or one of the levels of bigger blocks shows an entry. -/
def Shown (v : Variables) (s : State) (size : Nat) : Prop :=
  ∃ searchLvl freeLvl, findLvlForBlock v (toNextLvl size) = some searchLvl ∧
    shownLevel v s searchLvl = some freeLvl

/-- A size is not more than its block. -/
theorem le_pageSize {size : Nat} (positive : 1 ≤ size) (bounded : size ≤ 0x20000)
    (block : toNextLvl size = pageSize l) : size ≤ pageSize l := by
  by_cases small : size ≤ 512
  · have smallest : 1024 ≤ pageSize l := Nat.le_mul_of_pos_right _ (Nat.two_pow_pos _)
    omega
  · obtain ⟨k, level, low, high⟩ := exists_level (by omega : 512 < size) bounded
    rw [← block, toNextLvl_pageSize level low high]
    exact high

/-- Where an entry is to be taken, the request is served if one is shown. -/
theorem served_iff (laid : LaidOut v) (sound : Sound s) {size : Nat} (positive : 1 ≤ size)
    (bounded : size ≤ v.maxPage) (takeable : Takeable v s size) :
    Served v s size ↔ Shown v s size := by
  constructor
  · rintro ⟨pointer, after, l, i, ran, some, -⟩
    by_contra hidden
    have refused : Meets (kzallocBuddy v size) s (fun _ => False) _ :=
      kzallocBuddy_refused fun searchLvl found => by
        cases shown : shownLevel v s searchLvl with
        | none => rfl
        | some freeLvl => exact absurd ⟨searchLvl, freeLvl, found, shown⟩ hidden
    exact some (refused.returned ran).1
  · rintro ⟨searchLvl, freeLvl, search, shown⟩
    obtain ⟨pointer, after, ran, some, allocated⟩ :=
      (kzallocBuddy_given laid sound (by omega) takeable search shown).returns
    obtain ⟨none, -⟩ | ⟨l, i, -, -, address, block, fresh, taken⟩ := allocated.taken sound
    · exact absurd none some
    · exact ⟨pointer, after, l, i, ran, some, address, block,
        le_pageSize positive (bounded.trans_eq laid.maxPage) block, fresh,
        (taken l i).mpr (.inr ⟨rfl, rfl⟩)⟩

/-- In each run whose allocations find a block wherever a level shows an entry, a
request that finds one is served exactly if one is shown. -/
theorem available_served_iff (lowerMemorySize : Nat) (past : List Call) (session : Session)
    (reached : (finding lowerMemorySize).Reaches past session) (size : Nat) (positive : 1 ≤ size)
    (bounded : size ≤ (initVariables lowerMemorySize).maxPage)
    (takeable : Takeable (initVariables lowerMemorySize) session.state size) :
    (Available session.state size → Served (initVariables lowerMemorySize) session.state size) ↔
      (Available session.state size → Shown (initVariables lowerMemorySize) session.state size) := by
  have sound := ((holding_invariant lowerMemorySize).reached reached).sound
  have law := served_iff (initVariables_laidOut lowerMemorySize) sound positive bounded takeable
  exact imp_congr_right fun _ => law

/-- Right after the initialization two pages are served. -/
theorem two_pages_served : ∃ session, (finding 0x480000).Reaches [] session ∧
    Available session.state 0x800 ∧ Served (initVariables 0x480000) session.state 0x800 := by
  obtain ⟨state, start, fresh, -, -⟩ := stray_start
  have laid := initVariables_laidOut 0x480000
  have block : toNextLvl 0x800 = pageSize 6 := by decide
  have takeable := (fresh.takeable_iff laid (show 6 < 8 by decide) block).mpr (by decide)
  have free : Available state 0x800 := ⟨0, 0, by rw [fresh.kinds]; rfl, by decide⟩
  have begun : (finding 0x480000).Reaches [] ⟨state, []⟩ := .start _ start
  have search : findLvlForBlock (initVariables 0x480000) (toNextLvl 0x800) = some 6 := by
    rw [block, laid.findLvlForBlock (by decide)]
  have bounded : 0x800 ≤ (initVariables 0x480000).maxPage := by
    rw [laid.maxPage]
    decide
  exact ⟨_, begun, free, (available_served_iff 0x480000 [] _ begun 0x800 (by omega) bounded
    takeable).mpr (fun _ => ⟨6, 0, search, fresh.shown laid 6 (by omega)⟩) free⟩

/-- What is returned for the smallest block, and the entry of that block. -/
theorem smallest_not_taken :
    (((kzallocBuddy (initVariables 0x480000) 0x400).run strayHeap).toOption.map fun result =>
      (result.1, result.2.flags (entryOf 7 0))) = some (0x500000, 0) := by
  decide +kernel

/-- Then the whole heap is free, but no block of half of the smallest page, of the smallest
page or of the biggest one is served. -/
theorem free_heap_unserved : ∃ session, (clients 0x480000).Reaches [] session ∧
    (∀ i < 1024, session.state.isFree (entryOf 0 i)) ∧
    ∀ size ∈ [0x200, 0x400, 0x20000], Available session.state size ∧
      ¬ Served (initVariables 0x480000) session.state size := by
  have laid := initVariables_laidOut 0x480000
  obtain ⟨state, done, kept⟩ := kheapInitBuddy_succeeds (show entryOf 8 0 ≤ 0x480000 by decide)
    strayMemory
  have fresh := (kheapInitBuddy_fresh done).1
  have smallest := smallest_not_taken
  have start := strayHeap_start
  have same : strayHeap = state := by
    rw [strayHeap, done]
  rw [same] at smallest start
  simp only [fields, Prod.mk.injEq] at kept
  have free (i : Nat) (inside : i < entries 0) : kinds state 0 i = .free := by
    rw [fresh.kinds, if_pos ⟨rfl, inside⟩]
  refine ⟨⟨state, []⟩, .start _ start, fun i inside => (isFree_iff (by decide) inside).mpr
    (free i inside), fun size member => ?_⟩
  have half (size : Nat) (small : toNextLvl size ≤ pageSize 0) : Available state size :=
    ⟨0, 0, free 0 (entries_positive 0), small⟩
  simp only [List.mem_cons, List.not_mem_nil, or_false] at member
  rcases member with rfl | rfl | rfl
  · refine ⟨half _ (by decide), ?_⟩
    rintro ⟨pointer, after, l, i, -, -, -, block, above, -⟩
    rw [show toNextLvl 0x200 = 0x200 by decide] at block
    have smallest_page : 1024 ≤ pageSize l := Nat.le_mul_of_pos_right _ (Nat.two_pow_pos _)
    omega
  · refine ⟨half _ (by decide), ?_⟩
    rintro ⟨pointer, after, l, i, ran, -, address, block, -, -, taken⟩
    obtain ⟨level, inside⟩ := kinds_there (show kinds after l i ≠ .absent by rw [taken]; decide)
    have block : pageSize 7 = pageSize l := block
    obtain rfl := pageSize_injective (by decide) level block
    rw [ran] at smallest
    obtain ⟨rfl, flags⟩ := Prod.mk.inj (Option.some.inj smallest)
    obtain rfl : i = 0 := by
      have start : BOBAOS_KERNEL_HEAP_ADDRESS = 0x500000 := rfl
      rw [addressOf, start, pageSize] at address
      omega
    rw [kinds_inside level inside, flags] at taken
    exact absurd taken (by decide)
  · refine ⟨half _ (by decide), ?_⟩
    rintro ⟨pointer, after, l, i, ran, -, -, -, -, fresh_block, taken⟩
    rw [kzallocBuddy_null laid fresh.head_free fresh.hidden kept.2.2.1 kept.2.2.2 rfl] at ran
    obtain ⟨-, rfl⟩ := Prod.mk.inj (Except.ok.inj ran)
    exact fresh_block taken

/-! ## Pointers -/

/-- The pointer is refused and nothing is changed. -/
def Rejected (v : Variables) (s : State) (pointer : Nat) : Prop :=
  (kzfreeBuddy v pointer).run s = .ok (-EIARG, s)

/-- The pointer points into the block. -/
def Covers (block : Block) (pointer : Nat) : Prop :=
  block.pointer ≤ pointer ∧ pointer < block.pointer + toNextLvl block.size

/-- The loop of `heapAddressToEntry` finds nothing where no node is taken. -/
theorem heapAddressToEntryFrom_none (laid : LaidOut v) (linked : Linked s) {offset : Nat}
    (small : offset < 1024 * 0x20000)
    (free : ∀ l < 8, kinds s l (offset / pageSize l) ≠ .taken) (left : Nat) :
    ∀ curLvl curPage, curLvl + left = 8 → (0 < left → curPage = pageSize curLvl) →
    Meets (heapAddressToEntryFrom v offset left curLvl curPage) s fault
      fun entry after => entry = 0 ∧ after = s := by
  induction left with
  | zero => exact fun _ _ _ _ => .pure ⟨rfl, rfl⟩
  | succ left ih =>
    intro curLvl curPage steps page
    have level : curLvl < 8 := by omega
    obtain rfl := page (Nat.succ_pos left)
    have inside : offset / pageSize curLvl < entries curLvl := by
      rw [Nat.div_lt_iff_lt_mul (pageSize_positive curLvl), entries_pageSize level]
      exact small
    rw [heapAddressToEntryFrom, meets_bind, tableAt_meets laid level, entryOf_add, Nat.zero_add,
      meets_bind, meets_getFlags (laid.real level inside), meets_ite]
    refine ⟨fun taken => ?_, fun _ => ih (curLvl + 1) _ (by omega) fun more => ?_⟩
    · have here := free curLvl level
      rw [kinds_inside level inside, ne_eq,
        kindOf_taken _ (linked.one curLvl level _ inside)] at here
      exact absurd taken here
    · rw [pageSize_double (by omega), Nat.mul_div_cancel_left _ (by decide)]

/-- For the end of the heap the loop looks at the heads of the next levels, and behind the
last table in the end. -/
theorem heapAddressToEntryFrom_end (laid : LaidOut v) (linked : Linked s) (left : Nat) :
    ∀ curLvl, curLvl + left + 1 = 8 →
    Meets (heapAddressToEntryFrom v (1024 * 0x20000) (left + 1) curLvl (pageSize curLvl)) s
      (fun _ => True) fun entry after =>
        ∃ l i, i = 0 ∧ kinds s l i = .taken ∧ entry = entryOf l i ∧ after = s := by
  induction left with
  | zero =>
    intro curLvl last
    obtain rfl : curLvl = 7 := by omega
    have index : 1024 * 0x20000 / pageSize 7 = entries 7 := by decide
    have behind : isEntry v (entryOf 8 0) = false := by
      simp only [isEntry, laid.tablesEnd]
      simp [entryOf_ne_zero]
    rw [heapAddressToEntryFrom, meets_bind, tableAt_meets laid (by decide), entryOf_add, Nat.zero_add,
      index, entryOf_end, meets_bind, getFlags, meets_bind, access, meets_bind, meets_get, behind]
    exact .throw trivial
  | succ left ih =>
    intro curLvl steps
    have level : curLvl + 1 < 8 := by omega
    have index : 1024 * 0x20000 / pageSize curLvl = entries curLvl := by
      rw [← entries_pageSize (by omega : curLvl < 8), Nat.mul_div_cancel _ (pageSize_positive curLvl)]
    have inside := entries_positive (curLvl + 1)
    rw [heapAddressToEntryFrom, meets_bind, tableAt_meets laid (by omega), entryOf_add, Nat.zero_add,
      index, entryOf_end, meets_bind, meets_getFlags (laid.real level inside), meets_ite]
    refine ⟨fun taken => .pure ⟨curLvl + 1, 0, rfl, ?_, rfl, rfl⟩, fun _ => ?_⟩
    · rw [kinds_inside level inside, kindOf_taken _ (linked.one _ level 0 inside)]
      exact taken
    · rw [pageSize_double level, Nat.mul_div_cancel_left _ (by decide)]
      exact ih (curLvl + 1) (by omega)

/-- What is freed is not rejected. -/
theorem not_rejected {pointer : Nat} (freed : Meets (kzfreeBuddy v pointer) s (fun _ => True)
    fun code _ => code = 0) : ¬ Rejected v s pointer := fun rejected =>
  absurd (freed.returned rejected) (by decide)

/-- The live blocks cover what the nodes that are taken do. -/
theorem Holding.covered_iff {session : Session} (holding : Holding session) (pointer : Nat) :
    (∃ block ∈ session.live, Covers block pointer) ↔
      ∃ l i, kinds session.state l i = .taken ∧ Within l i pointer := by
  constructor
  · rintro ⟨block, live, covers⟩
    obtain ⟨l, i, taken, address, size⟩ := holding.placed block live
    rw [Covers, address, size] at covers
    exact ⟨l, i, taken, covers⟩
  · rintro ⟨l, i, taken, within⟩
    obtain ⟨block, live, address⟩ := holding.held l i taken
    obtain ⟨l', i', taken', address', size⟩ := holding.placed block live
    obtain ⟨rfl, rfl⟩ := holding.sound.taken_same taken taken' (address.symm.trans address')
    exact ⟨block, live, by rw [Covers, address, size]; exact within⟩

/-- In each run whose allocations find a block wherever a level shows an entry, exactly
those pointers are rejected that do not point into a live block, but for the end of the heap. -/
theorem pointer_rejected_iff (lowerMemorySize : Nat) (past : List Call) (session : Session)
    (reached : (finding lowerMemorySize).Reaches past session) (pointer : Nat) :
    Rejected (initVariables lowerMemorySize) session.state pointer ↔
      pointer ≠ BOBAOS_KERNEL_HEAP_ADDRESS + (initVariables lowerMemorySize).heapSize ∧
        ∀ block ∈ session.live, ¬ Covers block pointer := by
  have laid := initVariables_laidOut lowerMemorySize
  have holding := (holding_invariant lowerMemorySize).reached reached
  have sound := holding.sound
  have size := laid.heapSize
  generalize initVariables lowerMemorySize = v at laid size ⊢
  constructor
  · intro rejected
    refine ⟨?_, fun block live covers => ?_⟩
    · rintro rfl
      refine not_rejected ?_ rejected
      have found : Meets (heapAddressToEntry v (BOBAOS_KERNEL_HEAP_ADDRESS + v.heapSize)) session.state
          (fun _ => True) fun entry after => ∃ l i, i = 0 ∧ kinds session.state l i = .taken ∧
            entry = entryOf l i ∧ after = session.state := by
        rw [heapAddressToEntry, Nat.add_sub_cancel_left, size, laid.maxLvl, laid.maxPage]
        exact heapAddressToEntryFrom_end laid sound.linked 7 0 rfl
      exact (kzfreeBuddy_found laid sound (Nat.le_add_right _ _) (Nat.le_refl _) found).mono
        fun _ _ both => both.1
    · obtain ⟨l, i, taken, within⟩ := (holding.covered_iff pointer).mp ⟨block, live, covers⟩
      exact not_rejected ((kzfreeBuddy_within laid sound taken within).mono
        fun _ _ both => both.1) rejected
  · rintro ⟨inside, uncovered⟩
    have rejected : Meets (kzfreeBuddy v pointer) session.state (fun _ => False) fun code after =>
        code = -EIARG ∧ after = session.state := by
      rw [kzfreeBuddy, meets_ite]
      refine ⟨fun _ => .pure ⟨rfl, rfl⟩, fun range => ?_⟩
      have none : Meets (heapAddressToEntry v pointer) session.state (fun _ => False)
          fun entry after => entry = 0 ∧ after = session.state := by
        rw [heapAddressToEntry, laid.maxLvl, laid.maxPage]
        refine heapAddressToEntryFrom_none laid sound.linked (by omega) (fun l level taken => ?_) 8 0 _
          rfl fun _ => rfl
        obtain ⟨block, live, covers⟩ := (holding.covered_iff pointer).mpr ⟨l, _, taken, by
          have index := Nat.div_add_mod (pointer - BOBAOS_KERNEL_HEAP_ADDRESS) (pageSize l)
          have rest := Nat.mod_lt (pointer - BOBAOS_KERNEL_HEAP_ADDRESS) (pageSize_positive l)
          rw [Within, addressOf, Nat.mul_comm]
          omega⟩
        exact uncovered block live covers
      apply none.bind
      rintro _ _ ⟨rfl, rfl⟩
      exact .pure ⟨rfl, rfl⟩
    obtain ⟨code, after, ran, rfl, rfl⟩ := rejected.returns
    exact ran

/-- A pointer into the heap is rejected while nothing is taken. -/
theorem free_pointer_rejected : ∃ session, (finding 0x480000).Reaches [] session ∧
    Rejected (initVariables 0x480000) session.state 0x500010 := by
  obtain ⟨state, start, -⟩ := stray_start
  have laid := initVariables_laidOut 0x480000
  have begun : (finding 0x480000).Reaches [] ⟨state, []⟩ := .start _ start
  have end_of_heap : BOBAOS_KERNEL_HEAP_ADDRESS = 0x500000 := rfl
  refine ⟨_, begun, (pointer_rejected_iff 0x480000 [] _ begun 0x500010).mpr ⟨?_, fun block live => ?_⟩⟩
  · rw [laid.heapSize, end_of_heap]
    omega
  · cases live

/-- A pointer into the only block that is live, but not to its start, frees it. -/
theorem interior_pointer_frees : ∃ past session pointer, (finding 0x480000).Reaches past session ∧
    (∀ block ∈ session.live, block.pointer ≠ pointer) ∧
    ¬ Rejected (initVariables 0x480000) session.state pointer ∧
    ∃ after, (kzfreeBuddy (initVariables 0x480000) pointer).run session.state = .ok (0, after) ∧
      ∀ l i, kinds after l i ≠ .taken := by
  obtain ⟨pointer, state, -, reached⟩ := stray_block
  have laid := initVariables_laidOut 0x480000
  have holding := (holding_invariant 0x480000).reached reached
  obtain ⟨l, i, taken, address, size⟩ := holding.placed _ List.mem_cons_self
  have block : toNextLvl 0x800 = 0x800 := by decide
  have address : pointer = addressOf l i := address
  have within : Within l i (pointer + 1) := by
    rw [Within, ← size, block, ← address]
    omega
  have only (k j : Nat) (other : kinds state k j = .taken) : k = l ∧ j = i := by
    obtain ⟨held, member, start⟩ := holding.held k j other
    obtain rfl := List.mem_singleton.mp member
    exact holding.sound.taken_same other taken (start.symm.trans address)
  obtain ⟨code, after, ran, rfl, freed⟩ :=
    (kzfreeBuddy_within laid holding.sound taken within).returns
  refine ⟨_, _, pointer + 1, reached, ?_, fun rejected => ?_, after, ran, fun k j still => ?_⟩
  · simp
  · rw [Rejected, ran] at rejected
    exact absurd (Prod.mk.inj (Except.ok.inj rejected)).1 (by decide)
  · obtain ⟨old, other⟩ := (freed.taken holding.sound taken k j).mp still
    exact other (only k j old)

end BobaOS.BuddyHeap
