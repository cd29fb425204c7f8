import BobaOS.Heap.FirstFit

/-!
# Pointers that are no blocks

`kzfreePage` tests a pointer's alignment and then the START flag of the table byte that the
pointer selects. The range test between the two joins its comparisons by "and" and the sign of
the index is lost, so that every aligned pointer selects some byte of memory: one of the table
if its page number, taken as a 32-bit number, is that of a page of the heap. `kzallocPage`
returns such a pointer for a request that is rounded to no pages at all: the page behind the
lowest one that is taken.
-/

namespace BobaOS.PageHeap

open Extents Runs

/-! ## Pointers that select a byte -/

/-- The address of the byte that `kzfreePage` tests, if it comes to that. -/
def testedEntry (pointer : Nat) (state : State) : Option Nat :=
  if checkAlignment pointer < 0 then none
  else some (getTableEntry (addressToTableIndex pointer state % 2 ^ 64).toNat)

/-- The pointer is refused, nothing changes, and only a byte of the table is looked at. -/
structure Rejected (pointer : Nat) (state : State) : Prop where
  result : kzfreePage pointer state = (-EIARG, state)
  reads : ∀ entry, testedEntry pointer state = some entry → entry < state.tableSize

/-- The page that an address of the heap or behind it selects. -/
def selectedPage (pointer : Nat) : Nat :=
  (pointer - BOBAOS_KERNEL_HEAP_ADDRESS) / KHEAP_BLOCK_SIZE % 2 ^ 32

/-- The pointer is unaligned, or selects a page of the heap at which no block begins. -/
def SelectsNoBlock (live : List LiveBlock) (pointer : Nat) : Prop :=
  pointer % KHEAP_BLOCK_SIZE ≠ 0 ∨ BOBAOS_KERNEL_HEAP_ADDRESS ≤ pointer ∧
    selectedPage pointer < heapPages ∧
    ∀ block ∈ live, block.extent.first ≠ selectedPage pointer

/-- Nothing but the tested byte decides whether a pointer is refused. -/
theorem kzfreePage_refuses (pointer : Nat) (state : State) :
    kzfreePage pointer state = (-EIARG, state) ↔ ∀ entry, testedEntry pointer state = some entry →
      state.memory entry &&& KHEAP_FLAG_START = 0 := by
  rw [kzfreePage, testedEntry]
  split
  · simp
  · dsimp only
    split
    · rename_i none_begins
      refine iff_of_true rfl fun entry same => ?_
      rwa [← Option.some.inj same]
    · rename_i begins
      refine iff_of_false (fun same => ?_) fun all => begins (all _ rfl)
      have codes : SUCCESS = -EIARG := congrArg Prod.fst same
      exact absurd codes (by decide)

/-- A 32-bit `int` is the number or the number less 2^32. -/
theorem toInt_eq (value : Nat) : toInt value =
    if value % 2 ^ 32 < 2 ^ 31 then ((value % 2 ^ 32 : Nat) : Int)
    else ((value % 2 ^ 32 : Nat) : Int) - 2 ^ 32 := by
  rw [toInt, BitVec.toInt_eq_toNat_cond, BitVec.toNat_ofNat]
  generalize value % 2 ^ 32 = rest
  split <;> split <;> omega

/-- As an index of 64 bits it is the number itself or beyond 2^63. -/
theorem toInt_index (value : Nat) :
    getTableEntry (toInt value % 2 ^ 64).toNat = value % 2 ^ 32 ∧ value % 2 ^ 32 < 2 ^ 31 ∨
      2 ^ 63 ≤ getTableEntry (toInt value % 2 ^ 64).toNat ∧ 2 ^ 31 ≤ value % 2 ^ 32 := by
  have bounded : value % 2 ^ 32 < 2 ^ 32 := Nat.mod_lt _ (by decide)
  rw [toInt_eq, getTableEntry_small _ (by omega)]
  generalize value % 2 ^ 32 = rest at *
  split
  · left
    omega
  · right
    omega

/-- An aligned pointer selects a byte, which is in the table if the pointer is not below the
heap and the selected page is in it. -/
theorem testedEntry_aligned {pointer : Nat} (aligned : pointer % KHEAP_BLOCK_SIZE = 0)
    (small : pointer < 2 ^ 64) (state : State) : ∃ entry,
      testedEntry pointer state = some entry ∧
        (entry < heapPages ↔
          BOBAOS_KERNEL_HEAP_ADDRESS ≤ pointer ∧ selectedPage pointer < heapPages) ∧
        (entry < heapPages → entry = selectedPage pointer) := by
  have limit : heapPages = 25600 := rfl
  have passes : ¬ checkAlignment pointer < 0 := by
    rw [checkAlignment, if_pos aligned]
    decide
  refine ⟨_, if_neg passes, ?_⟩
  rw [addressToTableIndex]
  rcases Nat.lt_or_ge pointer BOBAOS_KERNEL_HEAP_ADDRESS with below | above
  · -- The difference wraps: its page number is too large for an `int`.
    have behind : heapPages ≤ getTableEntry ((if pointer < BOBAOS_KERNEL_HEAP_ADDRESS ∧
        pointer > state.tableMaxSize then -EIARG else toInt ((pointer + 2 ^ 64 -
          BOBAOS_KERNEL_HEAP_ADDRESS) % 2 ^ 64 / KHEAP_BLOCK_SIZE)) % 2 ^ 64).toNat := by
      split
      · decide
      · have number : 2 ^ 31 ≤ (pointer + 2 ^ 64 - BOBAOS_KERNEL_HEAP_ADDRESS) % 2 ^ 64 /
            KHEAP_BLOCK_SIZE % 2 ^ 32 := by
          simp only [BOBAOS_KERNEL_HEAP_ADDRESS, KHEAP_BLOCK_SIZE] at *
          omega
        rcases toInt_index ((pointer + 2 ^ 64 - BOBAOS_KERNEL_HEAP_ADDRESS) % 2 ^ 64 /
          KHEAP_BLOCK_SIZE) with ⟨-, few⟩ | ⟨many, -⟩
        · exact absurd few (Nat.not_lt.mpr number)
        · omega
    exact ⟨iff_of_false (Nat.not_lt.mpr behind) fun both => absurd both.1 (Nat.not_le.mpr below),
      fun inside => absurd inside (Nat.not_lt.mpr behind)⟩
  · have difference : (pointer + 2 ^ 64 - BOBAOS_KERNEL_HEAP_ADDRESS) % 2 ^ 64 =
        pointer - BOBAOS_KERNEL_HEAP_ADDRESS := by omega
    rw [if_neg (fun both => Nat.not_lt.mpr above both.1), difference]
    rcases toInt_index ((pointer - BOBAOS_KERNEL_HEAP_ADDRESS) / KHEAP_BLOCK_SIZE) with
      ⟨same, -⟩ | ⟨many, number⟩
    · rw [same]
      exact ⟨⟨fun inside => ⟨above, inside⟩, And.right⟩, fun _ => rfl⟩
    · have behind : 2 ^ 31 ≤ selectedPage pointer := number
      omega

/-! ## Rejected pointers -/

/-- No START flag stands at a page at which no extent begins. -/
theorem Describes.start_iff {state : State} {live : Arrangement heapPages}
    (described : Describes state live) {page : Nat} (inside : page < heapPages) :
    state.memory page &&& KHEAP_FLAG_START = 0 ↔ ∀ extent ∈ live.extents, extent.first ≠ page := by
  by_cases held : ∃ extent ∈ live.extents, extent.Holds page
  · obtain ⟨extent, member, holds⟩ := held
    have lower : extent.first ≤ page := holds.1
    have upper : page < extent.first + extent.length := holds.2
    have byte := described.taken extent member (page - extent.first) (by omega)
    rw [Nat.add_sub_cancel' lower] at byte
    rw [byte, blockEntry_start]
    constructor
    · intro later other otherMember same
      have identical := live.holder_unique otherMember member (same ▸ other.holds_first) holds
      exact later (by rw [← identical, same, Nat.sub_self])
    · intro none_begins first
      exact none_begins extent member (by omega)
  · have unheld : ∀ extent ∈ live.extents, ¬ extent.Holds page :=
      fun extent member holds => held ⟨extent, member, holds⟩
    rw [described.free page inside unheld]
    refine iff_of_true (by decide) fun extent member same => ?_
    exact unheld extent member (same ▸ extent.holds_first)

/-- The table is described whatever is in the memory around it. -/
theorem Describes.around {state : State} {live : Arrangement heapPages}
    (described : Describes state live) {memory : Memory}
    (table : ∀ page < heapPages, memory page = state.memory page) :
    Describes { state with memory } live where
  tableSize := described.tableSize
  taken extent member i bound := by
    have inside := live.inside extent member
    dsimp only
    rw [table _ (by omega)]
    exact described.taken extent member i bound
  free page inside unheld := by
    dsimp only
    rw [table page inside]
    exact described.free page inside unheld

/-- In a described heap a pointer is rejected if it is unaligned or selects a page of the heap
at which no extent begins. -/
theorem Describes.rejected_iff {state : State} {live : Arrangement heapPages}
    (described : Describes state live) {pointer : Nat} (small : pointer < 2 ^ 64) :
    Rejected pointer state ↔ pointer % KHEAP_BLOCK_SIZE ≠ 0 ∨
      BOBAOS_KERNEL_HEAP_ADDRESS ≤ pointer ∧ selectedPage pointer < heapPages ∧
        ∀ extent ∈ live.extents, extent.first ≠ selectedPage pointer := by
  by_cases aligned : pointer % KHEAP_BLOCK_SIZE = 0
  · obtain ⟨entry, tested, inside, same⟩ := testedEntry_aligned aligned small state
    constructor
    · rintro ⟨result, reads⟩
      have in_table : entry < heapPages := by
        rw [← described.tableSize]
        exact reads entry tested
      obtain ⟨above, selected⟩ := inside.mp in_table
      refine .inr ⟨above, selected, ?_⟩
      rw [← same in_table, ← described.start_iff in_table]
      exact (kzfreePage_refuses pointer state).mp result entry tested
    · rintro (unaligned | ⟨above, selected, none_begins⟩)
      · exact absurd aligned unaligned
      have in_table := inside.mpr ⟨above, selected⟩
      constructor
      · rw [kzfreePage_refuses, tested]
        rintro other ⟨⟩
        rw [described.start_iff in_table, same in_table]
        exact none_begins
      · rw [tested, described.tableSize]
        rintro other ⟨⟩
        exact in_table
  · have untested : testedEntry pointer state = none := by
      rw [testedEntry, checkAlignment, if_neg aligned]
      rfl
    refine iff_of_true ⟨?_, ?_⟩ (.inl aligned)
    · rw [kzfreePage_refuses, untested]
      exact fun entry impossible => absurd impossible.symm (Option.some_ne_none entry)
    · rw [untested]
      exact fun entry impossible => absurd impossible.symm (Option.some_ne_none entry)

/-- In every state a run comes to and whatever is in the memory around the table, a pointer is
rejected if and only if it is unaligned, or is not below the heap and selects a page of it at
which no block begins. -/
theorem wrong_pointer_rejected_iff (past : List Action) (session : Session)
    (reached : clients.Reaches past session) (memory : Memory)
    (table : ∀ page < session.heap.tableSize, memory page = session.heap.memory page)
    (pointer : Nat) (small : pointer < 2 ^ 64) :
    Rejected pointer { session.heap with memory } ↔ SelectsNoBlock session.live pointer := by
  obtain ⟨live, holding⟩ := reached_holding reached
  rw [holding.described.tableSize] at table
  rw [(holding.described.around table).rejected_iff small, SelectsNoBlock, holding.extents]
  simp only [List.forall_mem_map]

/-- A page in the middle of a block is no block. -/
theorem interior_pointer_rejected : ∃ session,
    clients.Reaches [.alloc 5000 (pageAddress 0)] session ∧
      Rejected (pageAddress 1) session.heap := by
  have reached := two_pages_reached
  generalize (kzallocPage 5000 freshHeap).2 = heap at reached
  have elsewhere : ∀ block ∈ [LiveBlock.mk (pageAddress 0) 5000 (by decide)],
      block.extent.first ≠ selectedPage (pageAddress 1) := by
    intro block member
    rw [List.mem_singleton.mp member]
    decide
  exact ⟨_, reached, (wrong_pointer_rejected_iff _ _ reached heap.memory (fun _ _ => rfl)
    (pageAddress 1) (by decide)).mpr (.inr ⟨by decide, by decide, elsewhere⟩)⟩

/-- An aligned pointer below the heap makes `kzfreePage` read far behind the table. -/
theorem pointer_below_heap_tested : ∃ session, clients.Reaches [] session ∧
    (∀ block ∈ session.live, block.pointer ≠ 0x1000) ∧ ¬ Rejected 0x1000 session.heap := by
  refine ⟨⟨freshHeap, []⟩, freshHeap_reached, nofun, ?_⟩
  intro rejected
  obtain ⟨entry, tested, inside, -⟩ :=
    testedEntry_aligned (show 0x1000 % KHEAP_BLOCK_SIZE = 0 by decide) (by decide) freshHeap
  have in_table : entry < freshHeap.tableSize := rejected.reads entry tested
  rw [show freshHeap.tableSize = heapPages by decide] at in_table
  exact absurd (inside.mp in_table).1 (by decide)

/-! ## Requests that are freed at once -/

/-- `kzalloc`, where the page heap is the selected one. -/
def kzalloc (size : Nat) (state : State) : Nat × State := kzallocPage size state

/-- `kzfree`, where the page heap is the selected one. -/
def kzfree (pointer : Nat) (state : State) : Code × State :=
  if pointer = 0 then (-EIARG, state) else kzfreePage pointer state

/-- A request that is freed at once leaves the table as it was. -/
def Neutral (size : Nat) (state : State) : Prop :=
  ∀ page < state.tableSize,
    (kzfree (kzalloc size state).1 (kzalloc size state).2).2.memory (getTableEntry page) =
      state.memory (getTableEntry page)

/-- The lowest page that is taken. -/
def LowestTaken (memory : Memory) (page : Nat) : Prop :=
  page < heapPages ∧ ¬ Unlocked memory page ∧ ∀ other < page, Unlocked memory other

/-- The size is rounded to some number of pages, or no block begins behind the lowest page that
is taken. -/
def NeutralRequest (session : Session) (size : Nat) : Prop :=
  1 ≤ size ∧ size ≤ 2 ^ 64 - 4096 ∨ ∀ page, LowestTaken session.heap.memory page →
    ∀ block ∈ session.live, block.extent.first ≠ page + 1

/-- A described table is determined by the extents. -/
theorem Describes.same_table {left right : State} {live other : Arrangement heapPages}
    (described : Describes left live) (too : Describes right other)
    (same : ∀ extent, extent ∈ live.extents ↔ extent ∈ other.extents) {page : Nat}
    (inside : page < heapPages) : left.memory page = right.memory page := by
  by_cases held : ∃ extent ∈ live.extents, extent.Holds page
  · obtain ⟨extent, member, lower, upper⟩ := held
    have byte := described.taken extent member (page - extent.first) (by omega)
    have also := too.taken extent ((same extent).mp member) (page - extent.first) (by omega)
    rw [Nat.add_sub_cancel' lower] at byte also
    rw [byte, also]
  · rw [described.free page inside fun extent member holds => held ⟨extent, member, holds⟩,
      too.free page inside fun extent member holds =>
        held ⟨extent, (same extent).mpr member, holds⟩]

/-- Requests for some pages are neutral: the block is the one that is freed, and NULL is not. -/
theorem Describes.neutral {state : State} {live : Arrangement heapPages}
    (described : Describes state live) {size : Nat} (positive : 1 ≤ size)
    (bounded : size ≤ 2 ^ 64 - 4096) : Neutral size state := by
  intro page inside
  rw [described.tableSize] at inside
  have limit : heapPages = 25600 := rfl
  rw [getTableEntry_small page (by omega), kzalloc]
  rcases described.alloc size positive bounded with
    refused | ⟨start, fits, fresh, heap, granted, describes, -⟩
  · rw [refused, kzfree, if_pos rfl]
  · obtain ⟨memory, freed, cleared⟩ := describes.free_exact _ List.mem_cons_self
    rw [granted, kzfree, if_neg (pageAddress_ne_zero start), freed]
    refine (describes.free_describes _ List.mem_cons_self memory cleared).same_table described
      (fun extent => ?_) inside
    simp only [Arrangement.release, Arrangement.insert, List.mem_filter, List.mem_cons,
      decide_eq_true_eq]
    constructor
    · rintro ⟨rfl | member, different⟩
      · exact absurd rfl different
      · exact member
    · intro member
      refine ⟨.inr member, fun same => ?_⟩
      exact (Extent.apart_iff _ _).mp (fresh extent member) start (Extent.holds_first _)
        (same ▸ extent.holds_first)

/-- A size that is not rounded to some number of pages is rounded to none. -/
theorem pageCount_none {size : Nat} (small : size < 2 ^ 64)
    (outside : ¬ (1 ≤ size ∧ size ≤ 2 ^ 64 - 4096)) :
    (getPageCount (sizeUpToPage size) 0).2 = 0 := by
  have none : sizeUpToPage size = 0 := by
    rw [sizeUpToPage, checkAlignment]
    by_cases aligned : size % KHEAP_BLOCK_SIZE = 0
    · rw [if_pos aligned, if_pos rfl]
      rw [KHEAP_BLOCK_SIZE] at aligned
      omega
    · rw [if_neg aligned, if_neg (by decide), KHEAP_BLOCK_SIZE]
      rw [KHEAP_BLOCK_SIZE] at aligned
      omega
  rw [none]
  rfl

/-- The search for no pages stops behind the first locked page. -/
theorem findFreePagesLoop_zero (memory : Memory) (remaining i foundCount : Nat) :
    match findFreePagesLoop memory 0 remaining i foundCount with
    | none => ∀ page, i ≤ page → page < i + remaining → Unlocked memory page
    | some start => ∃ page, start = page + 1 ∧ i ≤ page ∧ page < i + remaining ∧
      ¬ Unlocked memory page ∧ ∀ other, i ≤ other → other < page → Unlocked memory other := by
  induction remaining generalizing i foundCount with
  | zero => exact fun page lower upper => absurd upper (Nat.not_lt.mpr lower)
  | succ remaining ih =>
    rw [findFreePagesLoop]
    by_cases unlocked : memory (getTableEntry i) &&& KHEAP_FLAG_LOCKED = 0
    · have here : Unlocked memory i := unlocked
      have rest := ih (i + 1) (foundCount + 1)
      rw [if_pos unlocked, if_neg (Nat.succ_ne_zero foundCount)]
      cases found : findFreePagesLoop memory 0 remaining (i + 1) (foundCount + 1) with
      | none =>
        rw [found] at rest
        intro page lower upper
        rcases Nat.eq_or_lt_of_le lower with rfl | later
        · exact here
        · exact rest page later (by omega)
      | some start =>
        rw [found] at rest
        obtain ⟨page, behind, lower, upper, locked, before⟩ := rest
        refine ⟨page, behind, by omega, by omega, locked, fun other first last => ?_⟩
        rcases Nat.eq_or_lt_of_le first with rfl | later
        · exact here
        · exact before other later last
    · rw [if_neg unlocked, if_pos rfl]
      exact ⟨i, rfl, Nat.le_refl i, by omega, unlocked, fun other first last => by omega⟩

/-- A request for no pages changes nothing. It returns NULL if no page is taken, and the page
behind the lowest one that is. -/
theorem kzallocPage_none {state : State} {live : Arrangement heapPages}
    (described : Describes state live) {size : Nat}
    (none : (getPageCount (sizeUpToPage size) 0).2 = 0) :
    kzallocPage size state = (0, state) ∧ (∀ page < heapPages, Unlocked state.memory page) ∨
      ∃ page, LowestTaken state.memory page ∧
        kzallocPage size state = (pageAddress (page + 1), state) := by
  have searched := findFreePagesLoop_zero state.memory state.tableSize 0 0
  have limit : heapPages = 25600 := rfl
  rw [Nat.zero_add] at searched
  simp only [kzallocPage, none, findFreePages]
  cases found : findFreePagesLoop state.memory 0 state.tableSize 0 0 with
  | none =>
    rw [found, described.tableSize] at searched
    exact .inl ⟨rfl, fun page inside => searched page (Nat.zero_le page) inside⟩
  | some start =>
    rw [found, described.tableSize] at searched
    obtain ⟨page, rfl, -, upper, locked, before⟩ := searched
    have address : (BOBAOS_KERNEL_HEAP_ADDRESS + (page + 1) * KHEAP_BLOCK_SIZE) % 2 ^ 64 =
        pageAddress (page + 1) := by
      simp only [pageAddress, BOBAOS_KERNEL_HEAP_ADDRESS, KHEAP_BLOCK_SIZE]
      omega
    refine .inr ⟨page, ⟨upper, locked, fun other => before other (Nat.zero_le other)⟩, ?_⟩
    have passed : ¬ SUCCESS < 0 := by decide
    simp only [markEntryTaken, markEntryTakenLoop, address, if_neg passed, Nat.zero_mul, Nat.zero_mod,
      ByteStore.overwrite_empty]

/-- A run of bytes with NEXT flags that begins behind the table ends at its first byte at the
latest, if that is zero. -/
theorem freeAllocatedMemoryLoop_behind (index fuel counter : Nat) (memory : Memory)
    (behind : heapPages ≤ index + counter) (within : index + counter ≤ 2 ^ 64)
    (zero : memory 0 = 0) {page : Nat} (inside : page < heapPages) :
    freeAllocatedMemoryLoop index fuel counter memory page = memory page := by
  have limit : heapPages = 25600 := rfl
  induction fuel generalizing counter memory with
  | zero => rfl
  | succ fuel ih =>
    rw [freeAllocatedMemoryLoop]
    by_cases last : index + counter = 2 ^ 64
    · have first : getTableEntry (index + counter) = 0 := by rw [last]; rfl
      have no_next : memory 0 &&& KHEAP_FLAG_NEXT = 0 := by rw [zero]; rfl
      have cleared : memory 0 &&& KHEAP_FLAG_FREE = memory 0 := by rw [zero]; rfl
      rw [first, if_pos no_next, cleared, Function.update_eq_self]
    · have entry := getTableEntry_small (index + counter) (by omega)
      rw [entry]
      split
      · exact Function.update_of_ne (by omega) _ _
      · rw [ih (counter + 1) _ (by omega) (by omega)
          (by rw [Function.update_of_ne (by omega)]; exact zero), Function.update_of_ne (by omega)]

theorem LowestTaken.unique {memory : Memory} {page other : Nat} (lowest : LowestTaken memory page)
    (also : LowestTaken memory other) : other = page := by
  rcases Nat.lt_trichotomy other page with before | same | behind
  · exact absurd (lowest.2.2 other before) also.2.1
  · exact same
  · exact absurd (also.2.2 page behind) lowest.2.1

/-- The address behind the heap selects the byte behind the table, and freeing it leaves the
table as it was if its first byte is zero. -/
theorem kzfreePage_behind (state : State) (zero : state.memory 0 = 0) {page : Nat}
    (inside : page < heapPages) :
    (kzfreePage (pageAddress heapPages) state).2.memory page = state.memory page := by
  have aligned : ¬ checkAlignment (pageAddress heapPages) < 0 := by decide
  have above : ¬ (pageAddress heapPages < BOBAOS_KERNEL_HEAP_ADDRESS ∧
      pageAddress heapPages > state.tableMaxSize) := fun both => absurd both.1 (by decide)
  have index : (addressToTableIndex (pageAddress heapPages) state % 2 ^ 64).toNat = heapPages := by
    rw [addressToTableIndex, if_neg above]
    decide
  rw [kzfreePage, if_neg aligned, index]
  dsimp only
  split
  · rfl
  · exact freeAllocatedMemoryLoop_behind heapPages _ 0 _ (Nat.le_refl _) (by decide) zero inside

/-- Freeing the address of a page at which no block begins, or the one behind the heap, leaves
the table as it was, and freeing that of a block does not. -/
theorem Describes.free_keeps_iff {state : State} {live : Arrangement heapPages}
    (described : Describes state live) {page : Nat} (within : page ≤ heapPages)
    (first_free : page = heapPages → state.memory 0 = 0) :
    (∀ other < heapPages, (kzfreePage (pageAddress page) state).2.memory other =
      state.memory other) ↔ ∀ extent ∈ live.extents, extent.first ≠ page := by
  have limit : heapPages = 25600 := rfl
  rcases Nat.eq_or_lt_of_le within with rfl | inside
  · refine iff_of_true (fun other below => kzfreePage_behind state (first_free rfl) below) ?_
    intro extent member same
    have fits := live.inside extent member
    have nonempty := extent.nonempty
    omega
  · constructor
    · rintro keeps extent member rfl
      obtain ⟨memory, freed, cleared⟩ := described.free_exact extent member
      have same := keeps extent.first inside
      have byte := described.taken extent member 0 extent.nonempty
      rw [freed] at same
      dsimp only at same
      rw [cleared, if_pos extent.holds_first, ← Nat.add_zero extent.first, byte] at same
      exact blockEntry_locked extent.length 0 (by rw [← same]; rfl)
    · intro none_begins other _
      have selected : selectedPage (pageAddress page) = page := by
        simp only [selectedPage, pageAddress, BOBAOS_KERNEL_HEAP_ADDRESS, KHEAP_BLOCK_SIZE]
        omega
      have small : pageAddress page < 2 ^ 64 := by
        simp only [pageAddress, BOBAOS_KERNEL_HEAP_ADDRESS, KHEAP_BLOCK_SIZE]
        omega
      have rejected := (described.rejected_iff small).mpr
        (.inr ⟨Nat.le_add_right _ _, by rwa [selected], by rwa [selected]⟩)
      rw [rejected.result]

/-- In every state a run comes to, a request of any 64-bit size that is freed at once leaves the
table as it was if and only if it is rounded to some number of pages or no block begins behind
the lowest page that is taken. -/
theorem freed_at_once_neutral_iff (past : List Action) (session : Session)
    (reached : clients.Reaches past session) (size : Nat) (small : size < 2 ^ 64) :
    Neutral size session.heap ↔ NeutralRequest session size := by
  obtain ⟨live, holding⟩ := reached_holding reached
  have described := holding.described
  have limit : heapPages = 25600 := rfl
  by_cases some_pages : 1 ≤ size ∧ size ≤ 2 ^ 64 - 4096
  · exact iff_of_true (described.neutral some_pages.1 some_pages.2) (.inl some_pages)
  rcases kzallocPage_none described (pageCount_none small some_pages) with
    ⟨refused, unlocked⟩ | ⟨page, lowest, granted⟩
  · refine iff_of_true (fun page _ => ?_) (.inr fun page lowest => ?_)
    · rw [kzalloc, refused, kzfree, if_pos rfl]
    · exact absurd (unlocked page lowest.1) lowest.2.1
  · have inside := lowest.1
    have first_free : page + 1 = heapPages → session.heap.memory 0 = 0 := fun last =>
      described.free 0 (by decide) ((described.unlocked_iff 0 (by decide)).mp
        (lowest.2.2 0 (by omega)))
    have keeps : Neutral size session.heap ↔ ∀ block ∈ session.live,
        block.extent.first ≠ page + 1 := by
      rw [Neutral, kzalloc, granted, kzfree, if_neg (pageAddress_ne_zero _), described.tableSize,
        ← List.forall_mem_map (P := fun extent : Extent => extent.first ≠ page + 1),
        ← holding.extents, ← described.free_keeps_iff inside first_free]
      refine forall_congr' fun other => imp_congr_right fun below => ?_
      rw [getTableEntry_small other (by omega)]
    rw [keeps]
    constructor
    · intro none_begins
      refine .inr fun other also => ?_
      rwa [lowest.unique also]
    · rintro (positive | none_begins)
      · exact absurd positive some_pages
      · exact none_begins page lowest

/-- With one block of two pages, a request for no bytes is given its second page, and freeing that
is refused. -/
theorem no_bytes_neutral : ∃ session,
    clients.Reaches [.alloc 5000 (pageAddress 0)] session ∧ Neutral 0 session.heap := by
  have reached := two_pages_reached
  generalize (kzallocPage 5000 freshHeap).2 = heap at reached
  refine ⟨_, reached, (freed_at_once_neutral_iff _ _ reached 0 (by decide)).mpr (.inr ?_)⟩
  intro page _ block member
  rw [List.mem_singleton.mp member]
  exact (Nat.succ_ne_zero page).symm

/-- With two blocks of one page, it is given the second one, which is then freed. -/
theorem no_bytes_free_block : ∃ session,
    clients.Reaches [.alloc 1 (pageAddress 0), .alloc 1 (pageAddress 1)] session ∧
      ¬ Neutral 0 session.heap := by
  have first : (kzallocPage 1 freshHeap).1 = pageAddress 0 := by decide
  have second : (kzallocPage 1 (kzallocPage 1 freshHeap).2).1 = pageAddress 1 := by decide +kernel
  have once := System.Reaches.step _ _ _ _ freshHeap_reached
    (.granted ⟨freshHeap, []⟩ 1 (pageAddress 0) (kzallocPage 1 freshHeap).2 (by decide)
      (by decide) (by decide) (Prod.ext first rfl))
  have twice := System.Reaches.step _ _ _ _ once
    (.granted _ 1 (pageAddress 1) (kzallocPage 1 (kzallocPage 1 freshHeap).2).2 (by decide)
      (by decide) (by decide) (Prod.ext second rfl))
  refine ⟨_, twice, fun neutral => ?_⟩
  exact absurd (neutral 1 (by decide +kernel)) (by decide +kernel)

end BobaOS.PageHeap
