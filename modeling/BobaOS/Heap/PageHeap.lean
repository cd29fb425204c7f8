import Mathlib.Logic.Function.Basic
import BobaOS.Library.ByteStore
import BobaOS.Status

/-!
# The page heap

`kheap_page.c`: a kernel heap of 4096-byte pages with one table byte per page.
The extent of an allocated block is recorded nowhere but in three flag bits of
the bytes of its pages. Table and heap lie in the same memory, the table at
address 0 and the heap at `BOBAOS_KERNEL_HEAP_ADDRESS`.

Sizes, pointers and indices are 64-bit values, kept as natural numbers with the
wrapping written out. The second half of the file gives one law for each
function, which later modules cite without unfolding the function again.
-/

namespace BobaOS.PageHeap

def BOBAOS_KERNEL_HEAP_TABLE_ADDRESS : Nat := 0x0
def BOBAOS_KERNEL_HEAP_ADDRESS : Nat := 0x500000
def BOBAOS_KERNEL_HEAP_SIZE : Nat := 1024 * 1024 * 100
def KHEAP_BLOCK_SIZE : Nat := 4096

def KHEAP_FLAG_FREE : UInt8 := 0x0
def KHEAP_FLAG_LOCKED : UInt8 := 0x1
def KHEAP_FLAG_START : UInt8 := 0x40
def KHEAP_FLAG_NEXT : UInt8 := 0x80

/-- Physical memory, byte by byte. -/
abbrev Memory := Nat → UInt8

/-- Memory and the two globals of the file. -/
structure State where
  memory : Memory
  tableSize : Nat
  tableMaxSize : Nat

/-- The table is cleared only when it fits below the given memory sizes, which
are those of the memory map. -/
def kheapInitTable (maxMemorySize upperMemorySize : Nat) (state : State) : Code × State :=
  let tableSize := BOBAOS_KERNEL_HEAP_SIZE / KHEAP_BLOCK_SIZE
  let tableMaxSize := (maxMemorySize + 2 ^ 64 - upperMemorySize) % 2 ^ 64
  if tableSize + BOBAOS_KERNEL_HEAP_TABLE_ADDRESS > tableMaxSize then
    (-ENMEM, { state with tableSize, tableMaxSize })
  else
    (SUCCESS, {
      memory := ByteStore.overwrite state.memory BOBAOS_KERNEL_HEAP_TABLE_ADDRESS tableSize
        fun _ => 0
      tableSize, tableMaxSize })

def checkAlignment (page : Nat) : Code :=
  if page % KHEAP_BLOCK_SIZE = 0 then 0 else -1

def sizeUpToPage (size : Nat) : Nat :=
  if checkAlignment size = 0 then size
  else (size + (KHEAP_BLOCK_SIZE - size % KHEAP_BLOCK_SIZE)) % 2 ^ 64

/-- The page count is left as it was when the size is not page aligned. -/
def getPageCount (size pagesOut : Nat) : Code × Nat :=
  if size % KHEAP_BLOCK_SIZE ≠ 0 then (- EIO, pagesOut) else (SUCCESS, size / KHEAP_BLOCK_SIZE)

/-- The address of a table byte. -/
def getTableEntry (offset : Nat) : Nat := (BOBAOS_KERNEL_HEAP_TABLE_ADDRESS + offset) % 2 ^ 64

/-- What the body of the marking loop makes of the byte of the `i`-th page. -/
def markedEntry (size i : Nat) (entry : UInt8) : UInt8 :=
  let entry := if i = 0 then entry ||| KHEAP_FLAG_START else entry
  let entry := if i + 1 ≠ size then entry ||| KHEAP_FLAG_NEXT else entry
  entry ||| KHEAP_FLAG_LOCKED

/-- Memory after the first iterations of the marking loop. -/
def markEntryTakenLoop (startIndex size : Nat) (memory : Memory) : Nat → Memory
  | 0 => memory
  | i + 1 =>
    let marked := markEntryTakenLoop startIndex size memory i
    let tableEntry := getTableEntry (i + startIndex)
    Function.update marked tableEntry (markedEntry size i (marked tableEntry))

def markEntryTaken (startIndex size : Nat) (memory : Memory) : Memory :=
  markEntryTakenLoop startIndex size memory size

/-- The search from table index `i` on, with `remaining` bytes left to look at.
The result is the index of the first page of the run. -/
def findFreePagesLoop (memory : Memory) (pagesCount : Nat) : Nat → Nat → Nat → Option Nat
  | 0, _, _ => none
  | remaining + 1, i, foundCount =>
    let found := if memory (getTableEntry i) &&& KHEAP_FLAG_LOCKED = 0 then foundCount + 1 else 0
    if found = pagesCount then some (i + 1 - found)
    else findFreePagesLoop memory pagesCount remaining (i + 1) found

def findFreePages (pagesCount memOut : Nat) (state : State) : Code × Nat × State :=
  match findFreePagesLoop state.memory pagesCount state.tableSize 0 0 with
  | none => (-ENMEM, memOut, state)
  | some start => (SUCCESS,
      (BOBAOS_KERNEL_HEAP_ADDRESS + start * KHEAP_BLOCK_SIZE) % 2 ^ 64,
      { state with memory := markEntryTaken start pagesCount state.memory })

/-- The pointer returned is zero when there is no room. The page count's own
return value is not looked at. -/
def kzallocPage (size : Nat) (state : State) : Nat × State :=
  let size := sizeUpToPage size
  let pagesCount := (getPageCount size 0).2
  match findFreePages pagesCount 0 state with
  | (code, mem, state) =>
    if code < 0 then (mem, state)
    else (mem, { state with
      memory := ByteStore.overwrite state.memory mem (pagesCount * KHEAP_BLOCK_SIZE % 2 ^ 64)
        fun _ => 0 })

/-- A 64-bit value converted to a 32-bit `int`. -/
def toInt (value : Nat) : Int := (BitVec.ofNat 32 value).toInt

/-- The guard joins its two comparisons by "and", as the source does. -/
def addressToTableIndex (address : Nat) (state : State) : Code :=
  if address < BOBAOS_KERNEL_HEAP_ADDRESS ∧ address > state.tableMaxSize then -EIARG
  else toInt ((address + 2 ^ 64 - BOBAOS_KERNEL_HEAP_ADDRESS) % 2 ^ 64 / KHEAP_BLOCK_SIZE)

/-- The freeing loop from one counter value on. Each pass clears the byte it
looked at, so that the loop stops at the latest when the 64-bit index has come
round to a cleared byte: the fuel given below is never used up. -/
def freeAllocatedMemoryLoop (index : Nat) : Nat → Nat → Memory → Memory
  | 0, _, memory => memory
  | fuel + 1, counter, memory =>
    let address := getTableEntry (index + counter)
    let entry := memory address
    let cleared := Function.update memory address (entry &&& KHEAP_FLAG_FREE)
    if entry &&& KHEAP_FLAG_NEXT = 0 then cleared
    else freeAllocatedMemoryLoop index fuel (counter + 1) cleared

def freeAllocatedMemory (index : Nat) (memory : Memory) : Memory :=
  freeAllocatedMemoryLoop index (2 ^ 64) 0 memory

/-- The index is the returned `int` as an unsigned 64-bit value, so the source's
test for a negative index never succeeds. -/
def kzfreePage (pointer : Nat) (state : State) : Code × State :=
  if checkAlignment pointer < 0 then (-EIARG, state)
  else
    let index := (addressToTableIndex pointer state % 2 ^ 64).toNat
    let entry := getTableEntry index
    if state.memory entry &&& KHEAP_FLAG_START = 0 then (-EIARG, state)
    else (SUCCESS, { state with memory := freeAllocatedMemory index state.memory })

/-! ## The laws of the functions -/

/-- The page is not locked by any block. -/
def Unlocked (memory : Memory) (page : Nat) : Prop :=
  memory (getTableEntry page) &&& KHEAP_FLAG_LOCKED = 0

/-- The number of pages a request is rounded up to. -/
def pagesFor (size : Nat) : Nat := (size + (KHEAP_BLOCK_SIZE - 1)) / KHEAP_BLOCK_SIZE

theorem getTableEntry_small (offset : Nat) (small : offset < 2 ^ 64) :
    getTableEntry offset = offset := by
  simp only [getTableEntry, BOBAOS_KERNEL_HEAP_TABLE_ADDRESS, Nat.zero_add]
  exact Nat.mod_eq_of_lt small

/-- Rounding up and counting pages is exact division for every size that leaves
room to round. -/
theorem pageCount_sizeUpToPage (size : Nat) (bounded : size ≤ 2 ^ 64 - 4096) :
    (getPageCount (sizeUpToPage size) 0).2 = pagesFor size := by
  simp only [sizeUpToPage, checkAlignment, getPageCount, pagesFor, KHEAP_BLOCK_SIZE]
  by_cases aligned : size % 4096 = 0
  · simp only [aligned, ↓reduceIte, ne_eq, not_true_eq_false]
    omega
  · have rounded : (size + (4096 - size % 4096)) % 2 ^ 64 = size + (4096 - size % 4096) :=
      Nat.mod_eq_of_lt (by omega)
    have multiple : (size + (4096 - size % 4096)) % 4096 = 0 := by omega
    simp only [aligned, ↓reduceIte, Int.reduceNeg, reduceCtorEq, rounded, multiple, ne_eq,
      not_true_eq_false]
    omega

theorem pagesFor_positive (size : Nat) (positive : 1 ≤ size) : 0 < pagesFor size := by
  simp only [pagesFor, KHEAP_BLOCK_SIZE]
  omega

/-- The marking loop rewrites the bytes of the marked pages, each from its old
value, and no other byte. -/
theorem markEntryTakenLoop_apply (startIndex size : Nat) (memory : Memory) (count tested : Nat)
    (small : startIndex + count ≤ 2 ^ 64) :
    markEntryTakenLoop startIndex size memory count tested =
      if startIndex ≤ tested ∧ tested < startIndex + count then
        markedEntry size (tested - startIndex) (memory tested)
      else memory tested := by
  induction count generalizing tested with
  | zero =>
    rw [if_neg (by omega)]
    rfl
  | succ count ih =>
    have entry : getTableEntry (count + startIndex) = count + startIndex :=
      getTableEntry_small _ (by omega)
    simp only [markEntryTakenLoop, entry, Function.update_apply]
    by_cases last : tested = count + startIndex
    · subst last
      rw [if_pos rfl, if_pos (by omega), ih _ (by omega), if_neg (by omega), Nat.add_sub_cancel]
    · rw [if_neg last, ih _ (by omega)]
      by_cases inside : startIndex ≤ tested ∧ tested < startIndex + count
      · rw [if_pos inside, if_pos (by omega)]
      · rw [if_neg inside, if_neg (by omega)]

/-- Whatever the search returns is a run of unlocked pages inside the table. The
invariant of the loop is that the last `foundCount` pages looked at are
unlocked. -/
theorem findFreePagesLoop_sound (memory : Memory) (pagesCount remaining i foundCount start : Nat)
    (counted : foundCount ≤ i)
    (unlocked : ∀ page, i - foundCount ≤ page → page < i → Unlocked memory page)
    (found : findFreePagesLoop memory pagesCount remaining i foundCount = some start) :
    start + pagesCount ≤ i + remaining ∧
      ∀ page, start ≤ page → page < start + pagesCount → Unlocked memory page := by
  induction remaining generalizing i foundCount with
  | zero => simp [findFreePagesLoop] at found
  | succ remaining ih =>
    simp only [findFreePagesLoop] at found
    generalize next : (if memory (getTableEntry i) &&& KHEAP_FLAG_LOCKED = 0 then foundCount + 1
      else 0) = nextCount at found
    have nextInvariant : nextCount ≤ i + 1 ∧
        ∀ page, i + 1 - nextCount ≤ page → page < i + 1 → Unlocked memory page := by
      subst next
      split
      · rename_i free
        refine ⟨by omega, fun page lower upper => ?_⟩
        by_cases current : page = i
        · exact current ▸ free
        · exact unlocked page (by omega) (by omega)
      · exact ⟨by omega, fun page lower upper => by omega⟩
    obtain ⟨nextCounted, nextUnlocked⟩ := nextInvariant
    split at found
    · rename_i complete
      have same : i + 1 - nextCount = start := Option.some.inj found
      refine ⟨by omega, fun page lower upper => nextUnlocked page (by omega) (by omega)⟩
    · obtain ⟨inside, run⟩ := ih (i + 1) nextCount nextCounted nextUnlocked found
      exact ⟨by omega, run⟩

/-- The freeing loop clears from its counter to the first page without a NEXT
flag and touches no other byte. -/
theorem freeAllocatedMemoryLoop_apply (index pages fuel counter : Nat) (memory : Memory)
    (tested : Nat) (before : counter < pages) (small : index + pages ≤ 2 ^ 64)
    (enough : pages ≤ counter + fuel)
    (next : ∀ page, counter ≤ page → page < pages →
      (memory (index + page) &&& KHEAP_FLAG_NEXT = 0 ↔ page + 1 = pages)) :
    freeAllocatedMemoryLoop index fuel counter memory tested =
      if index + counter ≤ tested ∧ tested < index + pages then 0 else memory tested := by
  induction fuel generalizing counter memory with
  | zero => omega
  | succ fuel ih =>
    have entry : getTableEntry (index + counter) = index + counter :=
      getTableEntry_small _ (by omega)
    have cleared : memory (index + counter) &&& KHEAP_FLAG_FREE = 0 := UInt8.and_zero
    simp only [freeAllocatedMemoryLoop, entry, cleared]
    by_cases last : counter + 1 = pages
    · rw [if_pos ((next counter (by omega) before).mpr last), Function.update_apply]
      by_cases here : tested = index + counter
      · rw [if_pos here, if_pos (by omega)]
      · rw [if_neg here, if_neg (by omega)]
    · rw [if_neg (fun zero => last ((next counter (by omega) before).mp zero))]
      rw [ih (counter + 1) _ (by omega) (by omega) ?_]
      · by_cases here : tested = index + counter
        · subst here
          rw [if_neg (by omega), if_pos (by omega), Function.update_self]
        · rw [Function.update_of_ne here]
          by_cases inside : index + (counter + 1) ≤ tested ∧ tested < index + pages
          · rw [if_pos inside, if_pos (by omega)]
          · rw [if_neg inside, if_neg (by omega)]
      · intro page lower upper
        rw [Function.update_of_ne (by omega)]
        exact next page (by omega) upper

/-- A request either finds no room, and then nothing changes, or marks a run of
unlocked pages, clears their contents and returns their address. -/
theorem kzallocPage_cases (size : Nat) (state : State) (bounded : size ≤ 2 ^ 64 - 4096) :
    kzallocPage size state = (0, state) ∨
    ∃ start, start + pagesFor size ≤ state.tableSize ∧
      (∀ page, start ≤ page → page < start + pagesFor size → Unlocked state.memory page) ∧
      kzallocPage size state =
        ((BOBAOS_KERNEL_HEAP_ADDRESS + start * KHEAP_BLOCK_SIZE) % 2 ^ 64,
          { state with
            memory := ByteStore.overwrite (markEntryTaken start (pagesFor size) state.memory)
              ((BOBAOS_KERNEL_HEAP_ADDRESS + start * KHEAP_BLOCK_SIZE) % 2 ^ 64)
              (pagesFor size * KHEAP_BLOCK_SIZE % 2 ^ 64) fun _ => 0 }) := by
  simp only [kzallocPage, pageCount_sizeUpToPage size bounded, findFreePages]
  cases found : findFreePagesLoop state.memory (pagesFor size) state.tableSize 0 0 with
  | none => exact Or.inl rfl
  | some start =>
    obtain ⟨inside, unlocked⟩ := findFreePagesLoop_sound state.memory (pagesFor size)
      state.tableSize 0 0 start (by omega) (fun page _ upper => by omega) found
    exact Or.inr ⟨start, by omega, unlocked, rfl⟩

end BobaOS.PageHeap
