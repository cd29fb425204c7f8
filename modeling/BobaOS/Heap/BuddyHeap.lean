import Mathlib.Logic.Function.Basic
import BobaOS.Library.Programs
import BobaOS.Status

/-!
# The buddy heap

`kheap_buddy.c`: for each level a table with an entry for every block of that size.
The entries of a level that are free are linked into a list, whose head is the first
entry of the table, be it free or not.

An entry is named by its address, and the fields of all entries are kept by address.
The tables lie behind the entry at address 0, which is what NULL points to: it can be
read and written like any other, and holds what the memory held before. An access
at an address where no entry is, or to a table that does not exist, ends a call.
-/

namespace BobaOS.BuddyHeap

open Programs

/-- What ends a call without a return. -/
inductive Fault where
  | wild
  | outOfBounds
deriving DecidableEq

def KHEAP_MAX_ALLOWED_LEVEL : Nat := 32
def KHEAP_B_FLAG_FREE : BitVec 8 := 0x1
def KHEAP_B_FLAG_SPLITUP : BitVec 8 := 0x2
def KHEAP_B_FLAG_ALLOCATED : BitVec 8 := 0x4
def KHEAP_B_FLAG_HAS_ENTRIES : BitVec 8 := 0x80
def BOBAOS_KERNEL_HEAP_SMALLEST_PAGE : Nat := 0x400
def BOBAOS_KERNEL_HEAP_BIGGEST_PAGE : Nat := 0x20000
def BOBAOS_KERNEL_HEAP_TABLE_ADDRESS : Nat := 0
def BOBAOS_KERNEL_HEAP_ADDRESS : Nat := 0x500000
def BOBAOS_KERNEL_HEAP_SIZE : Nat := 1024 * 1024 * 100

/-- `sizeof(struct blockEntry)`. -/
def ENTRY_SIZE : Nat := 18

inductive RemoveType where
  | split
  | allocated
  | merge
deriving DecidableEq

structure TableMetaData where
  maxEntries : Nat
  tableSize : Nat
  tableStartAddress : Nat
  blockSize : Nat

/-- The variables of the heap, which do not change after its initialization. -/
structure Variables where
  lvlTable : Nat → Nat
  tableMetaData : Nat → TableMetaData
  tableStartAddress : Nat
  lowerMemorySize : Nat
  heapSize : Nat
  maxLvl : Nat
  maxPage : Nat
  minPage : Nat

/-- The fields of the entries, and whether NULL has been dereferenced. -/
structure State where
  next : Nat → Nat
  prev : Nat → Nat
  lvl : Nat → Nat
  flags : Nat → BitVec 8
  nullDereferenced : Bool

abbrev M := Program State Fault

def State.isFree (state : State) (entry : Nat) : Prop :=
  state.flags entry &&& KHEAP_B_FLAG_FREE ≠ 0

def State.isAllocated (state : State) (entry : Nat) : Prop :=
  state.flags entry &&& KHEAP_B_FLAG_ALLOCATED ≠ 0

def State.hasEntries (state : State) (entry : Nat) : Prop :=
  state.flags entry &&& KHEAP_B_FLAG_HAS_ENTRIES ≠ 0

instance (state : State) (entry : Nat) : Decidable (state.isFree entry) :=
  inferInstanceAs (Decidable (_ ≠ _))

instance (state : State) (entry : Nat) : Decidable (state.isAllocated entry) :=
  inferInstanceAs (Decidable (_ ≠ _))

instance (state : State) (entry : Nat) : Decidable (state.hasEntries entry) :=
  inferInstanceAs (Decidable (_ ≠ _))

/-! ### Initialization -/

/-- The loop of `toNextLvl`. Its fuel is the number of bits. -/
def toNextLvlLoop : Nat → Nat → Nat → Nat
  | 0, _, ret => ret
  | fuel + 1, n, ret => if 0 < n then toNextLvlLoop fuel (n / 2) (ret * 2 % 2 ^ 64) else ret

def toNextLvl (n : Nat) : Nat := if n = 0 then 1 else toNextLvlLoop 64 (n - 1) 1

/-- The loop of `detectMaxLvl`, at a level. -/
def detectMaxLvlFrom : Nat → Nat → Nat → Nat
  | 0, _, _ => 0
  | left + 1, i, curPage =>
    if curPage = BOBAOS_KERNEL_HEAP_SMALLEST_PAGE then i else detectMaxLvlFrom left (i + 1) (curPage / 2)

def detectMaxLvl (maxPage : Nat) : Nat := detectMaxLvlFrom (KHEAP_MAX_ALLOWED_LEVEL - 1) 1 maxPage

/-- The loop that finds the biggest page: it halves until it comes to it. -/
def biggestPage : Nat → Nat → Nat
  | 0, maxPage => maxPage
  | fuel + 1, maxPage =>
    if maxPage = BOBAOS_KERNEL_HEAP_BIGGEST_PAGE then maxPage else biggestPage fuel (maxPage / 2)

/-- The loop of `readMetaData`, at a level: the tables from there on. -/
def metaDataFrom (heapSize : Nat) : Nat → Nat → Nat → Nat → (Nat → TableMetaData) →
    Nat → TableMetaData
  | 0, _, _, _, data => data
  | left + 1, i, currentBlockSize, currentAddress, data =>
    let maxEntries := heapSize / currentBlockSize
    metaDataFrom heapSize left (i + 1) (currentBlockSize / 2) (currentAddress + maxEntries * ENTRY_SIZE)
      (Function.update data i ⟨maxEntries, maxEntries * ENTRY_SIZE, currentAddress, currentBlockSize⟩)

/-- The loop of `initLvlTable` over the entries of the first level, at an index. -/
def initEntries (table maxEntries : Nat) : Nat → Nat → State → State
  | 0, _, state => state
  | left + 1, i, state =>
    let entry := table + ENTRY_SIZE * i
    initEntries table maxEntries left (i + 1) { state with
      lvl := Function.update state.lvl entry 0
      flags := Function.update state.flags entry (state.flags entry ||| KHEAP_B_FLAG_FREE)
      prev := if 0 < i then Function.update state.prev entry (entry - ENTRY_SIZE) else state.prev
      next := if i + 1 ≠ maxEntries then Function.update state.next entry (entry + ENTRY_SIZE)
        else state.next }

/-- The memory from an address on is set to zero, as far as entries are concerned. -/
def clearEntries (start size : Nat) (state : State) : State :=
  let inside (entry : Nat) : Bool := start ≤ entry && entry + ENTRY_SIZE ≤ start + size
  { state with
    next := fun entry => if inside entry then 0 else state.next entry
    prev := fun entry => if inside entry then 0 else state.prev entry
    lvl := fun entry => if inside entry then 0 else state.lvl entry
    flags := fun entry => if inside entry then 0 else state.flags entry }

/-- `readMetaData`, with the variables that it finds. The sums are those of the code as long as
the tables end in the address space. -/
def readMetaData (v : Variables) : Code × (Nat → TableMetaData) :=
  let data := metaDataFrom v.heapSize v.maxLvl 0 v.maxPage v.tableStartAddress v.tableMetaData
  let last := data (v.maxLvl - 1)
  if v.lowerMemorySize < last.tableStartAddress + last.tableSize then (-ENMEM, data) else (0, data)

/-- The variables that `kheapInitBuddy` computes. -/
def initVariables (lowerMemorySize : Nat) : Variables :=
  let tableStartAddress := if BOBAOS_KERNEL_HEAP_TABLE_ADDRESS = 0 then
    BOBAOS_KERNEL_HEAP_TABLE_ADDRESS + ENTRY_SIZE else BOBAOS_KERNEL_HEAP_TABLE_ADDRESS
  let heapSize := toNextLvl BOBAOS_KERNEL_HEAP_SIZE
  let maxPage := biggestPage 64 heapSize
  let maxLvl := detectMaxLvl maxPage
  let tableMetaData := metaDataFrom heapSize maxLvl 0 maxPage tableStartAddress
    fun _ => ⟨0, 0, 0, 0⟩
  { tableMetaData, tableStartAddress, lowerMemorySize, heapSize, maxLvl, maxPage
    lvlTable := fun i => if i < maxLvl then (tableMetaData i).tableStartAddress else 0
    minPage := maxPage / 2 ^ (maxLvl - 1) }

/-- Behind the last table. -/
def Variables.tablesEnd (v : Variables) : Nat :=
  (v.tableMetaData (v.maxLvl - 1)).tableStartAddress + (v.tableMetaData (v.maxLvl - 1)).tableSize

/-- `kheapInitBuddy`, with the memory below the heap as it finds it. -/
def kheapInitBuddy (lowerMemorySize : Nat) (memory : State) : Code × State :=
  let v := initVariables lowerMemorySize
  if v.minPage ≠ BOBAOS_KERNEL_HEAP_SMALLEST_PAGE then (-ENMEM, memory)
  else if v.lowerMemorySize < v.tablesEnd then (-ENMEM, memory)
  else (0, initEntries (v.lvlTable 0) (v.tableMetaData 0).maxEntries (v.tableMetaData 0).maxEntries 0
    (clearEntries v.tableStartAddress v.lowerMemorySize memory))

section Code

variable (v : Variables)

/-! ### Access -/

/-- There is an entry at the address: one of the tables, or the one that NULL points to. -/
def isEntry (entry : Nat) : Bool :=
  entry = 0 || v.tableStartAddress ≤ entry && (entry - v.tableStartAddress) % ENTRY_SIZE = 0 &&
    entry < v.tablesEnd

/-- An entry is dereferenced. -/
def access (entry : Nat) : M State := do
  let state ← get
  if isEntry v entry then
    let state := { state with nullDereferenced := state.nullDereferenced || entry = 0 }
    set state
    return state
  else throw .wild

def getNext (entry : Nat) : M Nat := return (← access v entry).next entry
def getPrev (entry : Nat) : M Nat := return (← access v entry).prev entry
def getLvl (entry : Nat) : M Nat := return (← access v entry).lvl entry
def getFlags (entry : Nat) : M (BitVec 8) := return (← access v entry).flags entry

def setNext (entry next : Nat) : M Unit := do
  let state ← access v entry
  set { state with next := Function.update state.next entry next }

def setPrev (entry prev : Nat) : M Unit := do
  let state ← access v entry
  set { state with prev := Function.update state.prev entry prev }

/-- The field has 8 bits. -/
def setLvl (entry lvl : Nat) : M Unit := do
  let state ← access v entry
  set { state with lvl := Function.update state.lvl entry (lvl % 2 ^ 8) }

def changeFlags (entry : Nat) (change : BitVec 8 → BitVec 8) : M Unit := do
  let state ← access v entry
  set { state with flags := Function.update state.flags entry (change (state.flags entry)) }

/-- `lvlTable[lvl]`. -/
def tableAt (lvl : Nat) : M Nat :=
  if lvl < KHEAP_MAX_ALLOWED_LEVEL then return v.lvlTable lvl else throw .outOfBounds

/-- The index of an entry in the table of its level, as the address arithmetic gives
it. -/
def tableIndex (entry : Nat) : M Nat := do
  let table ← tableAt v (← getLvl v entry)
  return (entry + 2 ^ 64 - table) % 2 ^ 64 / ENTRY_SIZE

/-! ### Levels and addresses -/

/-- The loop of `findLvlForBlock`, below a level; `none` for `-ENFOUND`. -/
def findLvlBelow (block : Nat) : Nat → Option Nat
  | 0 => none
  | searchLvl + 1 =>
    if (v.tableMetaData searchLvl).blockSize = block then some searchLvl else findLvlBelow block searchLvl

def findLvlForBlock (block : Nat) : Option Nat := findLvlBelow v block v.maxLvl

def getHigherTableEntryAddressFromBlock (entry : Nat) : M Nat := do
  let lvl ← getLvl v entry
  if lvl + 1 = v.maxLvl then return 0
  else
    let currentTableIndex ← tableIndex v entry
    return ((← tableAt v (lvl + 1)) + ENTRY_SIZE * (currentTableIndex * 2)) % 2 ^ 64

def getLowerTableEntryAddressFromBlock (entry : Nat) : M Nat := do
  let lvl ← getLvl v entry
  if lvl = 0 then return 0
  else
    let currentTableIndex ← tableIndex v entry
    return ((← tableAt v (lvl - 1)) + ENTRY_SIZE * (currentTableIndex / 2)) % 2 ^ 64

def getFreeEntry (lvl : Nat) : M Nat := do
  let head ← tableAt v lvl
  if (← getFlags v head) &&& KHEAP_B_FLAG_HAS_ENTRIES ≠ 0 then
    if (← getFlags v head) &&& KHEAP_B_FLAG_FREE ≠ 0 then return head
    else return ← getNext v head
  else return 0

def getBuddy (entry : Nat) : M Nat := do
  let index ← tableIndex v entry
  if index % 2 = 0 then return (entry + ENTRY_SIZE) % 2 ^ 64
  else return (entry + 2 ^ 64 - ENTRY_SIZE) % 2 ^ 64

def entryToHeapAddress (entry : Nat) : M Nat := do
  let index ← tableIndex v entry
  let blockSize := (v.tableMetaData (← getLvl v entry)).blockSize
  return (BOBAOS_KERNEL_HEAP_ADDRESS + index * blockSize) % 2 ^ 64

/-- The loop of `heapAddressToEntry`, at a level. -/
def heapAddressToEntryFrom (offsetInHeap : Nat) : Nat → Nat → Nat → M Nat
  | 0, _, _ => return 0
  | left + 1, curLvl, curPage => do
    let entry := (← tableAt v curLvl) + ENTRY_SIZE * (offsetInHeap / curPage)
    if (← getFlags v entry) &&& KHEAP_B_FLAG_ALLOCATED ≠ 0 then return entry
    else heapAddressToEntryFrom offsetInHeap left (curLvl + 1) (curPage / 2)

def heapAddressToEntry (address : Nat) : M Nat :=
  heapAddressToEntryFrom v (address - BOBAOS_KERNEL_HEAP_ADDRESS) v.maxLvl 0 v.maxPage

/-! ### Lists -/

/-- The part of `removeEntry` for an entry that is not the head. -/
def unlinkEntry (head entry : Nat) : M Unit := do
  if (← getPrev v entry) ≠ 0 then setNext v (← getPrev v entry) (← getNext v entry)
  if (← getNext v entry) ≠ 0 then
    setPrev v (← getNext v entry) (← getPrev v entry)
    if (← getPrev v entry) = 0 then
      if (← getNext v head) = entry then setNext v head (← getNext v entry)
  if (← getPrev v entry) = 0 then
    if (← getNext v entry) = 0 then
      changeFlags v head (· &&& ~~~ KHEAP_B_FLAG_HAS_ENTRIES)
      setNext v head 0
  setNext v entry 0
  setPrev v entry 0

/-- Its part for the head. -/
def unlinkHead (entry : Nat) : M Unit := do
  if (← getNext v entry) ≠ 0 then
    setPrev v (← getNext v entry) 0
    changeFlags v entry (· ||| KHEAP_B_FLAG_HAS_ENTRIES)

def removeEntry (entry : Nat) (type : RemoveType) : M Code := do
  if (← getFlags v entry) &&& KHEAP_B_FLAG_FREE ≠ 0 then
    changeFlags v entry (· &&& ~~~ KHEAP_B_FLAG_FREE)
    let head ← tableAt v (← getLvl v entry)
    if entry ≠ head then unlinkEntry v head entry else unlinkHead v entry
    match type with
    | .split => changeFlags v entry (· ||| KHEAP_B_FLAG_SPLITUP)
    | .allocated => changeFlags v entry (· ||| KHEAP_B_FLAG_ALLOCATED)
    | .merge => pure ()
    return 0
  else return -EIARG

/-- `addEntry`. The test of the address in front of it can never fail. -/
def addEntry (newEntry lvl : Nat) : M Code := do
  setLvl v newEntry lvl
  let head ← tableAt v lvl
  if (← getFlags v head) &&& KHEAP_B_FLAG_HAS_ENTRIES = 0 then
    if head ≠ newEntry then setNext v head newEntry
  else if newEntry ≠ head then
    if (← getFlags v head) &&& KHEAP_B_FLAG_FREE = 0 then setPrev v newEntry 0
    else setPrev v newEntry head
    setNext v newEntry (← getNext v head)
    setPrev v (← getNext v newEntry) newEntry
    setNext v head newEntry
  else setPrev v (← getNext v head) head
  changeFlags v head (· ||| KHEAP_B_FLAG_HAS_ENTRIES)
  changeFlags v newEntry (· ||| KHEAP_B_FLAG_FREE)
  changeFlags v newEntry (· &&& ~~~ (KHEAP_B_FLAG_SPLITUP ||| KHEAP_B_FLAG_ALLOCATED))
  return 0

/-! ### Splitting and merging -/

/-- The rest of `splitEntryUp`, with the entry to be split. -/
def splitEntry (entry : Nat) : M Nat := do
  let newStartAddr ← getHigherTableEntryAddressFromBlock v entry
  if (← tableAt v ((← getLvl v entry) + 2)) ≤ newStartAddr + ENTRY_SIZE then return 0
  else
    let _ ← removeEntry v entry .split
    let _ ← addEntry v newStartAddr ((← getLvl v entry) + 1)
    let _ ← addEntry v (newStartAddr + ENTRY_SIZE) ((← getLvl v entry) + 1)
    return newStartAddr

def splitEntryUp (lvl : Nat) : M Nat := do
  if lvl + 1 = v.maxLvl then return 0
  else
    let head ← tableAt v lvl
    if (← getFlags v head) &&& KHEAP_B_FLAG_FREE = 0 then
      if (← getFlags v head) &&& KHEAP_B_FLAG_HAS_ENTRIES ≠ 0 then splitEntry v (← getNext v head)
      else return 0
    else splitEntry v head

/-- The loop of `splitAndReturn`, at a level. -/
def splitFrom : Nat → Nat → Nat → M Nat
  | 0, _, entry => return entry
  | left + 1, i, _ => do splitFrom left (i + 1) (← splitEntryUp v i)

def splitAndReturn (startLvl endLvl : Nat) : M Nat := splitFrom v (endLvl - startLvl) startLvl 0

/-- `merge` of two blocks, the first of which is of this level. -/
def mergeFrom : Nat → Nat → Nat → M Unit
  | 0, _, _ => return
  | lvl + 1, block1, block2 => do
    if (← getLvl v block1) ≠ (← getLvl v block2) then return
    let _ ← removeEntry v block1 .merge
    let _ ← removeEntry v block2 .merge
    changeFlags v block1 (· &&& 0)
    changeFlags v block2 (· &&& 0)
    let newBlock ← getLowerTableEntryAddressFromBlock v block1
    let _ ← addEntry v newBlock lvl
    let newBuddy ← getBuddy v newBlock
    if (← getFlags v newBuddy) &&& KHEAP_B_FLAG_FREE ≠ 0 then mergeFrom lvl newBlock newBuddy

def merge (block1 block2 : Nat) : M Unit := do mergeFrom v (← getLvl v block1) block1 block2

/-! ### Blocks -/

/-- The first level, from this one down to the biggest page, whose head shows an
entry. -/
def shownLevel (state : State) : Nat → Option Nat
  | 0 => if state.isFree (v.lvlTable 0) ∨ state.hasEntries (v.lvlTable 0) then some 0 else none
  | lvl + 1 =>
    if state.isFree (v.lvlTable (lvl + 1)) ∨ state.hasEntries (v.lvlTable (lvl + 1)) then some (lvl + 1)
    else shownLevel state lvl

/-- The bytes are set to zero. Nothing but the heap may be written. -/
def clearBytes (address size : Nat) : M Unit :=
  if BOBAOS_KERNEL_HEAP_ADDRESS ≤ address ∧
      address + size ≤ BOBAOS_KERNEL_HEAP_ADDRESS + v.heapSize then return
  else throw .wild

/-- The end of `kzallocBuddy`. -/
def takeBlock (takeEntry requestedBlock : Nat) : M Nat := do
  let _ ← removeEntry v takeEntry .allocated
  let address ← entryToHeapAddress v takeEntry
  clearBytes v address requestedBlock
  return address

def kzallocBuddy (size : Nat) : M Nat := do
  if size = 0 ∨ v.maxPage < size then return 0
  else
    match findLvlForBlock v (toNextLvl size) with
    | none => return 0
    | some searchLvl =>
      match shownLevel v (← get) searchLvl with
      | none => return 0
      | some freeLvl =>
        if searchLvl ≠ freeLvl then takeBlock v (← splitAndReturn v freeLvl searchLvl) (toNextLvl size)
        else takeBlock v (← getFreeEntry v searchLvl) (toNextLvl size)

def kzfreeBuddy (pointer : Nat) : M Code := do
  if pointer < BOBAOS_KERNEL_HEAP_ADDRESS ∨ BOBAOS_KERNEL_HEAP_ADDRESS + v.heapSize < pointer then
    return -EIARG
  else
    let entry ← heapAddressToEntry v pointer
    if entry = 0 then return -EIARG
    else
      let buddy ← getBuddy v entry
      if 0 < (← getLvl v buddy) then
        if (← getFlags v buddy) &&& KHEAP_B_FLAG_FREE ≠ 0 then merge v entry buddy
        else let _ ← addEntry v entry (← getLvl v entry)
      else let _ ← addEntry v entry (← getLvl v entry)
      return 0

end Code

end BobaOS.BuddyHeap
