import BobaOS.Heap.PageHeap
import BobaOS.Library.Extents
import BobaOS.Library.Runs

/-!
# The page table describes the live blocks

A client of the page heap allocates, frees blocks it holds and writes into
them. What it holds is an arrangement of disjoint extents of pages. The page
table describes that arrangement exactly, byte by byte, in every state a run
comes to: this is the invariant that lets `kzfreePage` find the end of a block
from flag bits alone. The concrete heap is shown to simulate the arrangement.
-/

namespace BobaOS.PageHeap

open Extents Runs

/-- The number of pages of the heap, which is the length of the table. -/
def heapPages : Nat := BOBAOS_KERNEL_HEAP_SIZE / KHEAP_BLOCK_SIZE

/-- The byte the table holds for the `i`-th of a block's pages. -/
def blockEntry (pages i : Nat) : UInt8 :=
  (if i = 0 then KHEAP_FLAG_START else 0) ||| (if i + 1 ≠ pages then KHEAP_FLAG_NEXT else 0) |||
    KHEAP_FLAG_LOCKED

/-- Marking a byte that was zero gives the byte of a block. -/
theorem markedEntry_zero (pages i : Nat) : markedEntry pages i 0 = blockEntry pages i := by
  unfold markedEntry blockEntry
  split_ifs <;> rfl

/-- Every byte of a block is locked. -/
theorem blockEntry_locked (pages i : Nat) : blockEntry pages i &&& KHEAP_FLAG_LOCKED ≠ 0 := by
  unfold blockEntry
  split_ifs <;> decide

/-- Exactly the first byte of a block carries the START flag. -/
theorem blockEntry_start (pages i : Nat) :
    blockEntry pages i &&& KHEAP_FLAG_START = 0 ↔ i ≠ 0 := by
  by_cases first : i = 0
  · simp only [blockEntry, first, ne_eq, not_true_eq_false, ↓reduceIte, iff_false]
    split_ifs <;> decide
  · simp only [blockEntry, first, ne_eq, not_false_eq_true, ↓reduceIte, iff_true]
    split_ifs <;> decide

/-- Exactly the last byte of a block lacks the NEXT flag. -/
theorem blockEntry_next (pages i : Nat) :
    blockEntry pages i &&& KHEAP_FLAG_NEXT = 0 ↔ i + 1 = pages := by
  by_cases last : i + 1 = pages
  · simp only [blockEntry, last, ne_eq, not_true_eq_false, ↓reduceIte, iff_true]
    split_ifs <;> decide
  · simp only [blockEntry, last, ne_eq, not_false_eq_true, ↓reduceIte, iff_false]
    split_ifs <;> decide

/-- A block as its owner knows it: the pointer returned and the size asked for. -/
structure LiveBlock where
  pointer : Nat
  size : Nat
  positive : 1 ≤ size
deriving DecidableEq

/-- The pages of a block. -/
def LiveBlock.extent (block : LiveBlock) : Extent where
  first := (block.pointer - BOBAOS_KERNEL_HEAP_ADDRESS) / KHEAP_BLOCK_SIZE
  length := pagesFor block.size
  nonempty := pagesFor_positive block.size block.positive

/-- The table describes an arrangement of blocks: their pages hold the bytes of
a block and all other table bytes are zero. -/
structure Describes (state : State) (live : Arrangement heapPages) : Prop where
  tableSize : state.tableSize = heapPages
  taken : ∀ extent ∈ live.extents, ∀ i < extent.length,
    state.memory (extent.first + i) = blockEntry extent.length i
  free : ∀ page < heapPages, (∀ extent ∈ live.extents, ¬ extent.Holds page) →
    state.memory page = 0

/-- The address of a page of the heap. -/
def pageAddress (page : Nat) : Nat := BOBAOS_KERNEL_HEAP_ADDRESS + page * KHEAP_BLOCK_SIZE

theorem pageAddress_ne_zero (page : Nat) : pageAddress page ≠ 0 := by
  simp only [pageAddress, BOBAOS_KERNEL_HEAP_ADDRESS]
  omega

/-- A described page is locked exactly when some block holds it. -/
theorem Describes.unlocked_iff {state : State} {live : Arrangement heapPages}
    (described : Describes state live) (page : Nat) (inside : page < heapPages) :
    Unlocked state.memory page ↔ ∀ extent ∈ live.extents, ¬ extent.Holds page := by
  have small : page < 2 ^ 64 := Nat.lt_trans inside (by decide)
  rw [Unlocked, getTableEntry_small page small]
  constructor
  · intro unlocked extent member holds
    have byte := described.taken extent member (page - extent.first)
      (by simp only [Extent.Holds] at holds; omega)
    rw [Nat.add_sub_cancel' holds.1] at byte
    exact blockEntry_locked _ _ (byte ▸ unlocked)
  · intro unheld
    rw [described.free page inside unheld]
    decide

/-- Marking an extent apart from all the others describes the arrangement with
that extent added. -/
theorem Describes.mark {state : State} {live : Arrangement heapPages}
    (described : Describes state live) (extent : Extent)
    (fits : extent.first + extent.length ≤ heapPages)
    (fresh : ∀ other ∈ live.extents, extent.Apart other) (memory : Memory)
    (marked : ∀ page < heapPages, memory page =
      if extent.Holds page then markedEntry extent.length (page - extent.first) (state.memory page)
      else state.memory page) :
    Describes { state with memory } (live.insert extent fits fresh) := by
  refine ⟨described.tableSize, ?_, ?_⟩
  · intro other member i bound
    rcases List.mem_cons.mp member with rfl | old
    · have zero : state.memory (other.first + i) = 0 :=
        described.free _ (by omega) fun held heldMember =>
          (Extent.apart_iff _ _).mp (fresh held heldMember) _ ⟨by omega, by omega⟩
      simp only [marked (other.first + i) (by omega)]
      rw [if_pos ⟨by omega, by omega⟩, zero, Nat.add_sub_cancel_left]
      exact markedEntry_zero _ _
    · have within := live.inside other old
      have outside : ¬ extent.Holds (other.first + i) := fun holds =>
        (Extent.apart_iff _ _).mp (fresh other old) _ holds ⟨by omega, by omega⟩
      simp only [marked (other.first + i) (by omega)]
      rw [if_neg outside]
      exact described.taken other old i bound
  · intro page bound clear
    simp only [marked page bound]
    rw [if_neg (clear extent List.mem_cons_self)]
    exact described.free page bound fun other member => clear other (List.mem_cons_of_mem _ member)

/-- An allocation from a described heap either changes nothing or adds an extent
apart from all the others, returns its address and hands it out cleared. -/
theorem Describes.alloc {state : State} {live : Arrangement heapPages}
    (described : Describes state live) (size : Nat) (positive : 1 ≤ size)
    (bounded : size ≤ 2 ^ 64 - 4096) :
    kzallocPage size state = (0, state) ∨
    ∃ (start : Nat) (fits : start + pagesFor size ≤ heapPages)
      (fresh : ∀ other ∈ live.extents,
        Extent.Apart ⟨start, pagesFor size, pagesFor_positive size positive⟩ other)
      (heap : State),
      kzallocPage size state = (pageAddress start, heap) ∧
      Describes heap (live.insert ⟨start, pagesFor size, pagesFor_positive size positive⟩ fits fresh) ∧
      ∀ offset < pagesFor size * KHEAP_BLOCK_SIZE, heap.memory (pageAddress start + offset) = 0 := by
  rcases kzallocPage_cases size state bounded with refused | ⟨start, inside, unlocked, granted⟩
  · exact Or.inl refused
  · right
    rw [described.tableSize] at inside
    have limit : heapPages = 25600 := rfl
    have address : (BOBAOS_KERNEL_HEAP_ADDRESS + start * KHEAP_BLOCK_SIZE) % 2 ^ 64 =
        pageAddress start := by
      simp only [pageAddress, BOBAOS_KERNEL_HEAP_ADDRESS, KHEAP_BLOCK_SIZE]
      omega
    have length : pagesFor size * KHEAP_BLOCK_SIZE % 2 ^ 64 = pagesFor size * KHEAP_BLOCK_SIZE := by
      simp only [KHEAP_BLOCK_SIZE]
      omega
    rw [address, length] at granted
    have fresh : ∀ other ∈ live.extents,
        Extent.Apart ⟨start, pagesFor size, pagesFor_positive size positive⟩ other := by
      intro other member
      rw [Extent.apart_iff]
      intro page holds
      obtain ⟨lower, upper⟩ : start ≤ page ∧ page < start + pagesFor size := holds
      exact (described.unlocked_iff page (by omega)).mp (unlocked page lower upper) other member
    refine ⟨start, inside, fresh, _, granted, described.mark _ inside fresh _ ?_,
      fun offset bound => ?_⟩
    · -- The table ends below the heap, so clearing the block leaves the table alone.
      intro page bound
      rw [ByteStore.overwrite_outside _ _ _ _ _ (by
        simp only [pageAddress, BOBAOS_KERNEL_HEAP_ADDRESS]
        omega)]
      exact markEntryTakenLoop_apply _ _ _ _ _ (by omega)
    · exact ByteStore.slice_overwrite (markEntryTaken start (pagesFor size) state.memory)
        (pageAddress start) _ (fun _ => 0) offset bound

/-- A small value keeps its value as an `int`. -/
theorem toInt_small (value : Nat) (small : value < 2 ^ 31) : toInt value = value := by
  rw [toInt, BitVec.toInt_eq_toNat_cond, BitVec.toNat_ofNat, Nat.mod_eq_of_lt (by omega),
    if_pos (by omega)]

/-- The table index recovered from the address of a page is that page. -/
theorem addressToTableIndex_pageAddress (page : Nat) (inside : page < heapPages) (state : State) :
    addressToTableIndex (pageAddress page) state = page := by
  have limit : heapPages = 25600 := rfl
  have above : ¬ (pageAddress page < BOBAOS_KERNEL_HEAP_ADDRESS ∧
      pageAddress page > state.tableMaxSize) := by
    simp only [pageAddress]
    omega
  have index : (pageAddress page + 2 ^ 64 - BOBAOS_KERNEL_HEAP_ADDRESS) % 2 ^ 64 /
      KHEAP_BLOCK_SIZE = page := by
    simp only [pageAddress, BOBAOS_KERNEL_HEAP_ADDRESS, KHEAP_BLOCK_SIZE]
    omega
  rw [addressToTableIndex, if_neg above, index]
  exact toInt_small page (by omega)

/-- Freeing a block of a described heap succeeds and clears the bytes of exactly
its pages. -/
theorem Describes.free_exact {state : State} {live : Arrangement heapPages}
    (described : Describes state live) (extent : Extent) (member : extent ∈ live.extents) :
    ∃ memory, kzfreePage (pageAddress extent.first) state = (SUCCESS, { state with memory }) ∧
      ∀ tested, memory tested = if extent.Holds tested then 0 else state.memory tested := by
  have limit : heapPages = 25600 := rfl
  have inside : extent.first + extent.length ≤ heapPages := live.inside extent member
  have nonempty : 0 < extent.length := extent.nonempty
  have aligned : ¬ checkAlignment (pageAddress extent.first) < 0 := by
    have multiple : pageAddress extent.first % KHEAP_BLOCK_SIZE = 0 := by
      simp only [pageAddress, BOBAOS_KERNEL_HEAP_ADDRESS, KHEAP_BLOCK_SIZE]
      omega
    simp [checkAlignment, multiple]
  have index : (addressToTableIndex (pageAddress extent.first) state % 2 ^ 64).toNat =
      extent.first := by
    rw [addressToTableIndex_pageAddress _ (by omega)]
    omega
  have startByte : state.memory extent.first = blockEntry extent.length 0 :=
    described.taken extent member 0 nonempty
  have started : ¬ state.memory (getTableEntry extent.first) &&& KHEAP_FLAG_START = 0 := by
    rw [getTableEntry_small _ (by omega), startByte, blockEntry_start]
    simp
  refine ⟨freeAllocatedMemory extent.first state.memory, ?_, ?_⟩
  · simp only [kzfreePage, aligned, index, started, ↓reduceIte]
  · intro tested
    rw [freeAllocatedMemory, freeAllocatedMemoryLoop_apply extent.first extent.length _ 0 _ tested
      nonempty (by omega) (by omega) ?_]
    · rfl
    · intro page _ upper
      rw [described.taken extent member page upper]
      exact blockEntry_next _ _

/-- After a block is freed the table describes the blocks that are left. -/
theorem Describes.free_describes {state : State} {live : Arrangement heapPages}
    (described : Describes state live) (extent : Extent) (member : extent ∈ live.extents)
    (memory : Memory)
    (cleared : ∀ tested, memory tested = if extent.Holds tested then 0 else state.memory tested) :
    Describes { state with memory } (live.release extent.first) := by
  have kept (other : Extent) : other ∈ (live.release extent.first).extents ↔
      other ∈ live.extents ∧ other.first ≠ extent.first := by
    simp [Arrangement.release]
  refine ⟨described.tableSize, ?_, ?_⟩
  · intro other remains i bound
    obtain ⟨old, different⟩ := (kept other).mp remains
    have apart := live.holders_apart old member fun same => different (congrArg _ same)
    have outside : ¬ extent.Holds (other.first + i) :=
      (Extent.apart_iff _ _).mp apart _ ⟨by omega, by omega⟩
    simp only [cleared, if_neg outside]
    exact described.taken other old i bound
  · intro page bound clear
    simp only [cleared]
    split
    · rfl
    · rename_i outside
      refine described.free page bound fun other old holds => ?_
      by_cases same : other.first = extent.first
      · have identical : other = extent :=
          live.holder_unique old member other.holds_first (same ▸ extent.holds_first)
        exact outside (identical ▸ holds)
      · exact clear other ((kept other).mpr ⟨old, same⟩) holds

/-- Writing above the table leaves it as it is. -/
theorem Describes.store {state : State} {live : Arrangement heapPages}
    (described : Describes state live) (address : Nat) (value : UInt8)
    (above : heapPages ≤ address) :
    Describes { state with memory := Function.update state.memory address value } live := by
  refine ⟨described.tableSize, ?_, ?_⟩
  · intro extent member i bound
    have within := live.inside extent member
    simp only [Function.update_of_ne (show extent.first + i ≠ address by omega)]
    exact described.taken extent member i bound
  · intro page bound clear
    simp only [Function.update_of_ne (show page ≠ address by omega)]
    exact described.free page bound clear

/-- A heap set up by `kheapInitTable` describes the arrangement without blocks. -/
theorem kheapInitTable_describes (maxMemorySize upperMemorySize : Nat) (initial heap : State)
    (result : kheapInitTable maxMemorySize upperMemorySize initial = (SUCCESS, heap)) :
    Describes heap (Arrangement.empty heapPages) := by
  simp only [kheapInitTable] at result
  split at result
  · simp [ENMEM, SUCCESS] at result
  · have same := (Prod.mk.inj result).2
    subst same
    refine ⟨rfl, by simp [Arrangement.empty], fun page bound _ => ?_⟩
    exact ByteStore.overwrite_inside initial.memory 0 heapPages (fun _ => 0) page
      ⟨by omega, by omega⟩

/-- What a client of the heap does. The pointer of an allocation is the one the
heap returned. -/
inductive Action where
  | alloc (size pointer : Nat)
  | free (pointer : Nat)
  | store (address : Nat) (value : UInt8)

/-- The heap together with the blocks its client holds. -/
structure Session where
  heap : State
  live : List LiveBlock

/-- The address lies in the block's pages. -/
def LiveBlock.Contains (block : LiveBlock) (address : Nat) : Prop :=
  block.pointer ≤ address ∧ address < block.pointer + pagesFor block.size * KHEAP_BLOCK_SIZE

/-- One step of a client: sizes from 1 to 2^64-4096 are asked for, pointers of
live blocks are freed, and live blocks are written to. -/
inductive Step : Session → Action → Session → Prop where
  | refused (session : Session) (size : Nat) (heap : State)
      (positive : 1 ≤ size) (bounded : size ≤ 2 ^ 64 - 4096) (result : kzallocPage size session.heap = (0, heap)) :
      Step session (.alloc size 0) { session with heap }
  | granted (session : Session) (size pointer : Nat) (heap : State)
      (positive : 1 ≤ size) (bounded : size ≤ 2 ^ 64 - 4096) (nonzero : pointer ≠ 0)
      (result : kzallocPage size session.heap = (pointer, heap)) :
      Step session (.alloc size pointer) ⟨heap, ⟨pointer, size, positive⟩ :: session.live⟩
  | free (session : Session) (block : LiveBlock) (member : block ∈ session.live)
      (code : Code) (heap : State) (result : kzfreePage block.pointer session.heap = (code, heap)) :
      Step session (.free block.pointer)
        ⟨heap, session.live.filter fun other => other.pointer ≠ block.pointer⟩
  | store (session : Session) (block : LiveBlock) (member : block ∈ session.live)
      (address : Nat) (inside : block.Contains address) (value : UInt8) :
      Step session (.store address value) { session with
        heap := { session.heap with memory := Function.update session.heap.memory address value } }

/-- Runs of clients from a heap that `kheapInitTable` has set up. -/
def clients : System Session Action where
  start session := session.live = [] ∧ ∃ initial maxMemorySize upperMemorySize,
    kheapInitTable maxMemorySize upperMemorySize initial = (SUCCESS, session.heap)
  step := Step

/-! ## Refinement of the arrangement -/

/-- What the client's calls mean for the arrangement, with no table in sight. -/
inductive Arranged : Arrangement heapPages → Action → Arrangement heapPages → Prop where
  | refused (live : Arrangement heapPages) (size : Nat) : Arranged live (.alloc size 0) live
  | granted (live : Arrangement heapPages) (size : Nat) (extent : Extent)
      (length : extent.length = pagesFor size)
      (fits : extent.first + extent.length ≤ heapPages)
      (fresh : ∀ other ∈ live.extents, extent.Apart other) :
      Arranged live (.alloc size (pageAddress extent.first)) (live.insert extent fits fresh)
  | free (live : Arrangement heapPages) (extent : Extent) (member : extent ∈ live.extents) :
      Arranged live (.free (pageAddress extent.first)) (live.release extent.first)
  | store (live : Arrangement heapPages) (address : Nat) (value : UInt8) :
      Arranged live (.store address value) live

/-- The abstract allocator: it begins without blocks. -/
def arrangements : System (Arrangement heapPages) Action where
  start live := live = Arrangement.empty heapPages
  step := Arranged

/-- The table describes the extents of the blocks the client holds, and each
block's pointer is the address of its first page. -/
structure Holding (session : Session) (live : Arrangement heapPages) : Prop where
  described : Describes session.heap live
  extents : live.extents = session.live.map LiveBlock.extent
  pointers : ∀ block ∈ session.live, block.pointer = pageAddress block.extent.first

/-- A pointer that is a page's address determines the block's first page. -/
theorem first_pageAddress (page : Nat) :
    (pageAddress page - BOBAOS_KERNEL_HEAP_ADDRESS) / KHEAP_BLOCK_SIZE = page := by
  simp only [pageAddress, BOBAOS_KERNEL_HEAP_ADDRESS, KHEAP_BLOCK_SIZE]
  omega

theorem pageAddress_injective (left right : Nat) :
    pageAddress left = pageAddress right ↔ left = right := by
  simp only [pageAddress, KHEAP_BLOCK_SIZE]
  omega

/-- A block the client holds is one of the arrangement. -/
theorem Holding.member {session : Session} {live : Arrangement heapPages}
    (holding : Holding session live) {block : LiveBlock} (held : block ∈ session.live) :
    block.extent ∈ live.extents := by
  rw [holding.extents]
  exact List.mem_map_of_mem held

/-- A refused request changes nothing. -/
theorem Holding.refused {session : Session} {live : Arrangement heapPages}
    (holding : Holding session live) (size : Nat) (heap : State) (positive : 1 ≤ size)
    (bounded : size ≤ 2 ^ 64 - 4096) (result : kzallocPage size session.heap = (0, heap)) :
    Holding { session with heap } live := by
  rcases holding.described.alloc size positive bounded with same | ⟨start, _, _, _, granted, _⟩
  · have unchanged : session.heap = heap := congrArg Prod.snd (same.symm.trans result)
    exact ⟨unchanged ▸ holding.described, holding.extents, holding.pointers⟩
  · exact absurd (congrArg Prod.fst (granted.symm.trans result)) (pageAddress_ne_zero start)

/-- A granted request adds one extent apart from all the others. -/
theorem Holding.granted {session : Session} {live : Arrangement heapPages}
    (holding : Holding session live) (size pointer : Nat) (heap : State) (positive : 1 ≤ size)
    (bounded : size ≤ 2 ^ 64 - 4096) (nonzero : pointer ≠ 0)
    (result : kzallocPage size session.heap = (pointer, heap)) :
    ∃ next, Arranged live (.alloc size pointer) next ∧
      Holding ⟨heap, ⟨pointer, size, positive⟩ :: session.live⟩ next := by
  rcases holding.described.alloc size positive bounded with
    same | ⟨start, fits, fresh, after, granted, describes, _⟩
  · exact absurd (congrArg Prod.fst (result.symm.trans same)) nonzero
  · obtain ⟨rfl, rfl⟩ := Prod.mk.inj (result.symm.trans granted)
    refine ⟨_, .granted live size ⟨start, pagesFor size, pagesFor_positive size positive⟩ rfl fits
      fresh, describes, ?_, ?_⟩
    · simp only [Arrangement.insert, holding.extents, LiveBlock.extent, first_pageAddress,
        List.map_cons]
    · intro block member
      rcases List.mem_cons.mp member with rfl | old
      · simp only [LiveBlock.extent, first_pageAddress]
      · exact holding.pointers block old

/-- Freeing a held block removes its extent and no other. -/
theorem Holding.free {session : Session} {live : Arrangement heapPages}
    (holding : Holding session live) (block : LiveBlock) (member : block ∈ session.live)
    (code : Code) (heap : State) (result : kzfreePage block.pointer session.heap = (code, heap)) :
    ∃ next, Arranged live (.free block.pointer) next ∧
      Holding ⟨heap, session.live.filter fun other => other.pointer ≠ block.pointer⟩ next := by
  have pointer : block.pointer = pageAddress block.extent.first := holding.pointers block member
  obtain ⟨memory, freed, cleared⟩ :=
    holding.described.free_exact block.extent (holding.member member)
  rw [← pointer] at freed
  obtain ⟨_, rfl⟩ := Prod.mk.inj (freed.symm.trans result)
  refine ⟨live.release block.extent.first, ?_,
    holding.described.free_describes block.extent (holding.member member) memory cleared, ?_, ?_⟩
  · rw [pointer]
    exact .free live block.extent (holding.member member)
  · simp only [Arrangement.release, holding.extents, List.filter_map]
    congr 1
    refine List.filter_congr fun other otherMember => ?_
    have otherPointer : other.pointer = pageAddress other.extent.first :=
      holding.pointers other otherMember
    rw [Function.comp_apply, decide_eq_decide, otherPointer, pointer, ne_eq, ne_eq,
      pageAddress_injective]
  · exact fun other otherMember => holding.pointers other (List.mem_of_mem_filter otherMember)

/-- Writing into a held block leaves the table as it is. -/
theorem Holding.store {session : Session} {live : Arrangement heapPages}
    (holding : Holding session live) (block : LiveBlock) (member : block ∈ session.live)
    (address : Nat) (inside : block.Contains address) (value : UInt8) :
    Holding { session with
      heap := { session.heap with memory := Function.update session.heap.memory address value } }
      live := by
  have lower := inside.1
  rw [holding.pointers block member] at lower
  have above : heapPages ≤ address := by
    have limit : heapPages = 25600 := rfl
    simp only [pageAddress, BOBAOS_KERNEL_HEAP_ADDRESS] at lower
    omega
  exact ⟨holding.described.store address value above, holding.extents, holding.pointers⟩

/-- The heap and its client simulate the arrangement. -/
theorem clients_simulate : System.Simulation clients arrangements Holding where
  initially := by
    rintro ⟨heap, live⟩ ⟨rfl, initial, maxMemorySize, upperMemorySize, result⟩
    exact ⟨_, rfl, kheapInitTable_describes _ _ _ _ result, rfl, by simp⟩
  matched := by
    intro session after action live holding stepped
    cases stepped with
    | refused size heap positive bounded result =>
      exact ⟨live, .refused live size, holding.refused size heap positive bounded result⟩
    | granted size pointer heap positive bounded nonzero result =>
      exact holding.granted size pointer heap positive bounded nonzero result
    | free block member code heap result => exact holding.free block member code heap result
    | store block member address inside value =>
      exact ⟨live, .store live address value, holding.store block member address inside value⟩

/-! ## Every run -/

/-- In every state a run comes to, some arrangement stands behind the session. -/
theorem reached_holding {past : List Action} {session : Session}
    (reached : clients.Reaches past session) : ∃ live, Holding session live := by
  obtain ⟨live, _, holding⟩ := clients_simulate.reached reached
  exact ⟨live, holding⟩

/-- A pointer handed out is page aligned, its pages lie inside the heap and are
cleared, and no page belongs to a block the client already holds. -/
theorem Holding.pointer_exact {session : Session} {live : Arrangement heapPages}
    (holding : Holding session live) (size pointer : Nat) (heap : State) (positive : 1 ≤ size)
    (bounded : size ≤ 2 ^ 64 - 4096) (nonzero : pointer ≠ 0)
    (result : kzallocPage size session.heap = (pointer, heap)) :
    pointer % KHEAP_BLOCK_SIZE = 0 ∧ BOBAOS_KERNEL_HEAP_ADDRESS ≤ pointer ∧
      pointer + pagesFor size * KHEAP_BLOCK_SIZE ≤
        BOBAOS_KERNEL_HEAP_ADDRESS + BOBAOS_KERNEL_HEAP_SIZE ∧
      (∀ offset < pagesFor size * KHEAP_BLOCK_SIZE, heap.memory (pointer + offset) = 0) ∧
      ∀ block ∈ session.live, ∀ address, block.Contains address →
        ¬ (pointer ≤ address ∧ address < pointer + pagesFor size * KHEAP_BLOCK_SIZE) := by
  rcases holding.described.alloc size positive bounded with
    same | ⟨start, fits, fresh, after, granted, _, cleared⟩
  · exact absurd (congrArg Prod.fst (result.symm.trans same)) nonzero
  · obtain ⟨rfl, rfl⟩ := Prod.mk.inj (result.symm.trans granted)
    have limit : heapPages = 25600 := rfl
    simp only [limit] at fits
    refine ⟨?_, ?_, ?_, cleared, ?_⟩
    · simp only [pageAddress, BOBAOS_KERNEL_HEAP_ADDRESS, KHEAP_BLOCK_SIZE]
      omega
    · exact Nat.le_add_right _ _
    · simp only [pageAddress, KHEAP_BLOCK_SIZE, BOBAOS_KERNEL_HEAP_SIZE]
      omega
    · intro block member address inBlock inPages
      have apart := fresh block.extent (holding.member member)
      have pointer := holding.pointers block member
      simp only [Extent.Apart] at apart
      simp only [LiveBlock.Contains, pointer] at inBlock
      simp only [pageAddress, KHEAP_BLOCK_SIZE] at inBlock inPages
      simp only [LiveBlock.extent, KHEAP_BLOCK_SIZE] at apart inBlock
      omega

/-- After any run of allocations and frees the table byte of the first page of a
live block carries START and no other does, all but the last carry NEXT, all
carry LOCKED, and every other byte of the table is zero. Hence a pointer handed
out names fresh, cleared pages of the heap, and freeing a live block clears the
bytes of exactly its pages.

The run lemma supplies an arrangement that the table describes; everything else
is read off that description. -/
theorem table_describes_live_blocks (past : List Action) (session : Session)
    (reached : clients.Reaches past session) :
    (∀ block ∈ session.live, ∀ i < pagesFor block.size,
      let entry := session.heap.memory (getTableEntry (block.extent.first + i))
      (entry &&& KHEAP_FLAG_START ≠ 0 ↔ i = 0) ∧
        (entry &&& KHEAP_FLAG_NEXT ≠ 0 ↔ i + 1 ≠ pagesFor block.size) ∧
        entry &&& KHEAP_FLAG_LOCKED ≠ 0) ∧
    (∀ page < session.heap.tableSize, (∀ block ∈ session.live, ¬ block.extent.Holds page) →
      session.heap.memory (getTableEntry page) = 0) ∧
    (∀ size pointer heap, 1 ≤ size → size ≤ 2 ^ 64 - 4096 → pointer ≠ 0 →
      kzallocPage size session.heap = (pointer, heap) →
      pointer % KHEAP_BLOCK_SIZE = 0 ∧ BOBAOS_KERNEL_HEAP_ADDRESS ≤ pointer ∧
        pointer + pagesFor size * KHEAP_BLOCK_SIZE ≤
          BOBAOS_KERNEL_HEAP_ADDRESS + BOBAOS_KERNEL_HEAP_SIZE ∧
        (∀ offset < pagesFor size * KHEAP_BLOCK_SIZE, heap.memory (pointer + offset) = 0) ∧
        ∀ block ∈ session.live, ∀ address, block.Contains address →
          ¬ (pointer ≤ address ∧ address < pointer + pagesFor size * KHEAP_BLOCK_SIZE)) ∧
    (∀ block ∈ session.live, ∃ memory,
      kzfreePage block.pointer session.heap = (SUCCESS, { session.heap with memory }) ∧
      ∀ address, memory address =
        if block.extent.Holds address then 0 else session.heap.memory address) := by
  obtain ⟨live, holding⟩ := reached_holding reached
  have described := holding.described
  have limit : heapPages = 25600 := rfl
  refine ⟨?_, ?_, ?_, ?_⟩
  · intro block member i bound
    have within := live.inside block.extent (holding.member member)
    have length : block.extent.length = pagesFor block.size := rfl
    have byte := described.taken block.extent (holding.member member) i bound
    dsimp only
    rw [getTableEntry_small _ (by omega), byte, length, ne_eq, ne_eq, blockEntry_start,
      blockEntry_next]
    exact ⟨not_not, Iff.rfl, blockEntry_locked _ _⟩
  · intro page bound clear
    rw [described.tableSize] at bound
    rw [getTableEntry_small _ (by omega)]
    refine described.free page bound fun extent member => ?_
    rw [holding.extents] at member
    obtain ⟨block, blockMember, rfl⟩ := List.mem_map.mp member
    exact clear block blockMember
  · intro size pointer heap positive bounded nonzero result
    exact holding.pointer_exact size pointer heap positive bounded nonzero result
  · intro block member
    rw [holding.pointers block member]
    exact described.free_exact block.extent (holding.member member)

/-- A heap set up on a machine with a gibibyte of memory. -/
def freshHeap : State := (kheapInitTable 0x40000000 0 ⟨fun _ => 0xFF, 0, 0⟩).2

theorem freshHeap_reached : clients.Reaches [] ⟨freshHeap, []⟩ :=
  .start _ ⟨rfl, ⟨fun _ => 0xFF, 0, 0⟩, 0x40000000, 0, rfl⟩

/-- That heap with one block of two pages. -/
theorem two_pages_reached : clients.Reaches [.alloc 5000 (pageAddress 0)]
    ⟨(kzallocPage 5000 freshHeap).2, [⟨pageAddress 0, 5000, by decide⟩]⟩ := by
  have pointer : (kzallocPage 5000 freshHeap).1 = pageAddress 0 := by decide
  exact System.Reaches.step _ _ _ _ freshHeap_reached
    (.granted ⟨freshHeap, []⟩ 5000 (pageAddress 0) (kzallocPage 5000 freshHeap).2 (by decide)
      (by decide) (by decide) (Prod.ext pointer rfl))

/-- After one request for 5000 bytes the first two table bytes are those of a
block of two pages, and the third is zero. -/
theorem two_pages_described : ∃ session,
    clients.Reaches [.alloc 5000 (pageAddress 0)] session ∧
      session.heap.memory (getTableEntry 0) &&& KHEAP_FLAG_START ≠ 0 ∧
      session.heap.memory (getTableEntry 1) &&& KHEAP_FLAG_LOCKED ≠ 0 ∧
      session.heap.memory (getTableEntry 2) = 0 := by
  have reached := two_pages_reached
  obtain ⟨taken, free, _, _⟩ := table_describes_live_blocks _ _ reached
  have first := taken _ List.mem_cons_self 0 (by decide)
  have second := taken _ List.mem_cons_self 1 (by decide)
  refine ⟨_, reached, first.1.mpr rfl, second.2.2, free 2 (by decide) ?_⟩
  intro block member
  rw [List.mem_singleton.mp member]
  decide

end BobaOS.PageHeap
