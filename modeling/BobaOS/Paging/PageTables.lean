import Mathlib.Logic.Function.Basic
import Mathlib.Tactic.SplitIfs
import BobaOS.Status

/-!
# Four-level page tables

`paging.c`: tables of 512 64-bit words, each word a table or page address packed
with flags, created on demand from the kernel heap. Memory is read and written
by the word, at the addresses the pointer arithmetic of the source gives.

The heap's answers to `kzalloc(4096)` are a parameter: the n-th call returns the
n-th answer, zero for NULL, and hands out a cleared page.
-/

namespace BobaOS.Paging

def PAGING_FLAG_P : BitVec 16 := 0b1
def PAGING_FLAG_RW : BitVec 16 := 0b10

def SHIFT_PML4 : Nat := 0x27
def SHIFT_PDP : Nat := 0x1E
def SHIFT_PD : Nat := 0x15
def SHIFT_PT : Nat := 0xC

def SIZE_4KB : BitVec 64 := 0x1000
def FULL_512 : BitVec 64 := 0x1FF
def FULL_4KB : BitVec 64 := 0xFFF

/-- The bits of a word that hold an address, as reading code masks them. -/
def ENTRY_ADDRESS : BitVec 64 := 0xFFFFFFFFFFFFF000

/-- The bits of an address that `writePointerTableEntry` stores. -/
def STORED_ADDRESS : BitVec 64 := 0xFFFFFFFFF000

/-- Memory by the address of a 64-bit word. -/
abbrev Memory := BitVec 64 → BitVec 64

/-- Memory and the number of heap requests made so far. -/
structure State where
  memory : Memory
  requests : Nat

/-- The address of `table[index]`. -/
def entryAddress (table : BitVec 64) (index : BitVec 16) : BitVec 64 :=
  table + index.setWidth 64 * 8

/-- The address lies in the 4096 bytes of the page. -/
def InPage (page address : BitVec 64) : Prop :=
  page.toNat ≤ address.toNat ∧ address.toNat < page.toNat + 4096

instance (page address : BitVec 64) : Decidable (InPage page address) :=
  inferInstanceAs (Decidable (_ ∧ _))

section Code

variable (answers : Nat → BitVec 64)

/-- `kzalloc(4096)`: the next answer, with the page cleared unless it is NULL. -/
def kzalloc (state : State) : BitVec 64 × State :=
  let page := answers state.requests
  (page, {
    memory := if page = 0 then state.memory
      else fun address => if InPage page address then 0 else state.memory address
    requests := state.requests + 1 })

def writePointerTableEntry (dest src : BitVec 64) (index flags : BitVec 16) (memory : Memory) :
    Memory :=
  Function.update memory (entryAddress dest index) (src &&& STORED_ADDRESS ||| flags.setWidth 64)

def returnTableEntryNoFlags (table : BitVec 64) (index : BitVec 16) (memory : Memory) :
    BitVec 64 :=
  memory (entryAddress table index) &&& ENTRY_ADDRESS

def getPml4IndexFromVirtual (virt : BitVec 64) : BitVec 16 :=
  (virt >>> SHIFT_PML4 &&& FULL_512).setWidth 16

def getPdpIndexFromVirtual (virt : BitVec 64) : BitVec 16 :=
  (virt >>> SHIFT_PDP &&& FULL_512).setWidth 16

def getPdIndexFromVirtual (virt : BitVec 64) : BitVec 16 :=
  (virt >>> SHIFT_PD &&& FULL_512).setWidth 16

def getPtIndexFromVirtual (virt : BitVec 64) : BitVec 16 :=
  (virt >>> SHIFT_PT &&& FULL_512).setWidth 16

/-- The page table of an address; zero stands for NULL. -/
def getPTTable (virt table : BitVec 64) (memory : Memory) : BitVec 64 :=
  let pdpTable := returnTableEntryNoFlags table (getPml4IndexFromVirtual virt) memory
  if pdpTable = 0 then 0
  else
    let pdTable := returnTableEntryNoFlags pdpTable (getPdpIndexFromVirtual virt) memory
    if pdTable = 0 then 0
    else returnTableEntryNoFlags pdTable (getPdIndexFromVirtual virt) memory

def downToPage (var : BitVec 64) : BitVec 64 :=
  if var % SIZE_4KB = 0 then var else var - var % SIZE_4KB

def upToPage (var : BitVec 64) : BitVec 64 :=
  if var % SIZE_4KB = 0 then var else var + SIZE_4KB - var % SIZE_4KB

/-- The physical address of a virtual one; zero stands for NULL. -/
def virtualToPhysical (virt table : BitVec 64) (memory : Memory) : BitVec 64 :=
  let ptTable := getPTTable virt table memory
  if ptTable = 0 then 0
  else returnTableEntryNoFlags ptTable (getPtIndexFromVirtual virt) memory + (virt &&& FULL_4KB)

/-- A new table is returned by its bare address, an existing entry with its
flags; both callers mask the flags off. Zero reports a full heap. -/
def getOrCreateEntry (table : BitVec 64) (entryIndex : BitVec 16) (state : State) :
    BitVec 64 × State :=
  if state.memory (entryAddress table entryIndex) = 0 then
    let (newEntry, state) := kzalloc answers state
    if newEntry = 0 then (0, state)
    else (newEntry, { state with
      memory := writePointerTableEntry table newEntry entryIndex
        (PAGING_FLAG_P ||| PAGING_FLAG_RW) state.memory })
  else (state.memory (entryAddress table entryIndex), state)

/-- One pass of the loop of `mapOrCreateRange`: three tables are found or made,
then the leaf is written. -/
def mapPage (pml4Table phys virt : BitVec 64) (state : State) : Code × State :=
  let (pdpTable, state) := getOrCreateEntry answers pml4Table (getPml4IndexFromVirtual virt) state
  let pdpTable := pdpTable &&& ENTRY_ADDRESS
  if pdpTable = 0 then (-ENMEM, state)
  else
    let (pdTable, state) := getOrCreateEntry answers pdpTable (getPdpIndexFromVirtual virt) state
    let pdTable := pdTable &&& ENTRY_ADDRESS
    if pdTable = 0 then (-ENMEM, state)
    else
      let (ptTable, state) := getOrCreateEntry answers pdTable (getPdIndexFromVirtual virt) state
      let ptTable := ptTable &&& ENTRY_ADDRESS
      if ptTable = 0 then (-ENMEM, state)
      else
        (SUCCESS, { state with
          memory := writePointerTableEntry ptTable phys (getPtIndexFromVirtual virt)
            (PAGING_FLAG_P ||| PAGING_FLAG_RW) state.memory })

/-- The loop of `mapOrCreateRange`. The page counter is an `int`, so its product
with the page size is a 32-bit value that is sign extended. Running out of fuel
is reported as `none`. -/
def mapOrCreateRangeLoop (pml4Table physStart virtStart size : BitVec 64) :
    Nat → BitVec 32 → BitVec 64 → State → Option (Code × State)
  | 0, _, _, _ => none
  | fuel + 1, pageCounter, sizeMapped, state =>
    let offset := (pageCounter * 0x1000).signExtend 64
    let (code, state) := mapPage answers pml4Table (physStart + offset) (virtStart + offset) state
    if code < 0 then some (code, state)
    else if sizeMapped + SIZE_4KB < size then
      mapOrCreateRangeLoop pml4Table physStart virtStart size fuel (pageCounter + 1)
        (sizeMapped + SIZE_4KB) state
    else some (SUCCESS, state)

/-- Every pass maps 4096 bytes, so the fuel covers every size that the 64-bit
byte counter can reach; beyond 2^64-4096 the source's loop does not end. -/
def mapOrCreateRange (pml4Table physStart virtStart size : BitVec 64) (state : State) :
    Option (Code × State) :=
  mapOrCreateRangeLoop answers pml4Table physStart virtStart size (size.toNat / 4096 + 1) 0 0 state

def remapPhysicalToVirtual (physical virtual table : BitVec 64) (state : State) :
    Option (Code × State) :=
  mapOrCreateRange answers table physical virtual SIZE_4KB state

def remapPhysicalToVirtualRange (physical virtual size table : BitVec 64) (state : State) :
    Option (Code × State) :=
  mapOrCreateRange answers table physical virtual (upToPage size) state

/-- Whatever the source translates to is mapped, NULL as well. -/
def remapVirtualToVirtual (target source table : BitVec 64) (state : State) : Option (Code × State) :=
  mapOrCreateRange answers table (downToPage (virtualToPhysical source table state.memory))
    (downToPage target) SIZE_4KB state

/-- The loop of `remapVirtualToVirtualRange`, with the blocks that are left. An error is
a positive code for it. -/
def remapVirtualToVirtualLoop (target source table : BitVec 64) :
    Nat → BitVec 64 → State → Option (Code × State)
  | 0, _, state => some (SUCCESS, state)
  | left + 1, i, state =>
    match remapVirtualToVirtual answers (target + i * SIZE_4KB) (source + i * SIZE_4KB) table state with
    | none => none
    | some (code, state) =>
      if 0 < code then some (-ENMEM, state)
      else remapVirtualToVirtualLoop target source table left (i + 1) state

def remapVirtualToVirtualRange (target source size table : BitVec 64) (state : State) :
    Option (Code × State) :=
  remapVirtualToVirtualLoop answers target source table (upToPage size / SIZE_4KB).toNat 0 state

def createEmptyPageTable (state : State) : BitVec 64 × State := kzalloc answers state

end Code

/-- The table pointer is not tested, as in the source. -/
def removePageFlag (virtual : BitVec 64) (flag : BitVec 16) (table : BitVec 64) (state : State) :
    State :=
  let entry := entryAddress (getPTTable virtual table state.memory) (getPtIndexFromVirtual virtual)
  { state with
    memory := Function.update state.memory entry (state.memory entry &&& ~~~(flag.setWidth 64)) }

/-- A pass either succeeds or reports a full heap. -/
theorem mapPage_code (answers : Nat → BitVec 64) (table phys virt : BitVec 64) (state : State) :
    (mapPage answers table phys virt state).1 = SUCCESS ∨
      (mapPage answers table phys virt state).1 = -ENMEM := by
  simp only [mapPage]
  split_ifs <;> simp

/-- Mapping one page runs the loop body once. -/
theorem mapOrCreateRange_page (answers : Nat → BitVec 64) (table phys virt : BitVec 64)
    (state : State) :
    mapOrCreateRange answers table phys virt SIZE_4KB state =
      some (mapPage answers table phys virt state) := by
  have fuel : SIZE_4KB.toNat / 4096 + 1 = 2 := rfl
  have once : ¬ (0 + SIZE_4KB < SIZE_4KB) := by decide
  have offset : ((0 : BitVec 32) * 0x1000).signExtend 64 = 0 := rfl
  rw [mapOrCreateRange, fuel, mapOrCreateRangeLoop]
  have unmoved (address : BitVec 64) : address + 0 = address := BitVec.add_zero address
  simp only [offset, unmoved, once, ↓reduceIte]
  rcases mapPage_code answers table phys virt state with succeeded | failed
  · rw [succeeded, if_neg (by decide), ← succeeded]
  · rw [failed, if_pos (by decide), ← failed]

end BobaOS.Paging
