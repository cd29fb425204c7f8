import BobaOS.Library.BoundedBuffers
import BobaOS.Paging.MemoryMap
import BobaOS.Paging.VirtualReads

/-!
# The tables of the firmware

`acpi.c`: the root system description table is seen through a window on the entry of the
memory map that it lies in, and the pointers behind its header are copied to a list. The
window is as long as the whole pages of the entry, so that the end of an entry is cut off,
and the number of the pointers is taken from the table without a look at the list.

The bytes of the tables are a parameter. They lie outside the pages of the heap.
-/

namespace BobaOS.Power

open ByteStore Programs BoundedBuffers PackedRecords Paging

def BOBAOS_ACPI_ADDRESS : BitVec 64 := 0xffffB00000000000
def BOBAOS_MAX_ACPI_TABLES : Nat := 32

/-- `sizeof(struct acpisdtHeader)`. -/
def HEADER_SIZE : BitVec 64 := 36

def rsdtSignature : Nat → UInt8 := fun i => [0x52, 0x53, 0x44, 0x54].getD i 0

/-- What keeps a call from returning: a mapping without end, a page that is not present, or
a pointer behind the list. -/
inductive AcpiFault where
  | endless
  | pageFault
  | outOfBounds
deriving DecidableEq

/-- The variables of `acpi.c`, with the memory of the page tables. -/
structure Acpi where
  tablesAvailable : BitVec 8
  tableAddressList : Nat → BitVec 64
  systemDescriptorTableAddress : BitVec 64
  pages : State

/-! ## Code -/

abbrev M := Program Acpi AcpiFault

section Code

variable (answers : Nat → BitVec 64) (root : BitVec 64) (bytes : BitVec 64 → UInt8)

/-- The loop of `strncmp` on a string behind an address. -/
def strncmpFrom (memory : Memory) (str1 : BitVec 64) (str2 : Nat → UInt8) : Nat → Nat → M Int
  | 0, _ => return 0
  | left + 1, counter => do
    let char ← readByte bytes root memory .pageFault (str1 + BitVec.ofNat 64 counter)
    if char = 0 ∧ str2 counter = 0 then return 0
    else if char ≠ str2 counter then
      return if (str2 counter).toInt8 < char.toInt8 then 1 else -1
    else strncmpFrom memory str1 str2 left (counter + 1)

def strncmp (memory : Memory) (str1 : BitVec 64) (str2 : Nat → UInt8) (len : Nat) : M Int :=
  strncmpFrom root bytes memory str1 str2 len 0

def tableList : Lens Acpi (Nat → BitVec 64) :=
  ⟨Acpi.tableAddressList, fun acpi tableAddressList => { acpi with tableAddressList }⟩

/-- The loops that copy the pointers, which are the same but for the size of a pointer. -/
def copyPointers (memory : Memory) (size : Nat) (pointerToOtherSDTs : BitVec 64) : Nat → Nat → M Unit
  | 0, _ => return
  | left + 1, i => do
    let pointer ← readBytes bytes root memory .pageFault size
      (pointerToOtherSDTs + BitVec.ofNat 64 (size * i))
    tableList.run (store BOBAOS_MAX_ACPI_TABLES .outOfBounds i (BitVec.ofNat 64 (littleEndian pointer)))
    copyPointers memory size pointerToOtherSDTs left (i + 1)

/-- The size of the pointers. -/
def addressSize (revision : UInt8) : BitVec 8 := if 1 < revision then 8 else 4

/-- The number of the pointers, as it is kept in a byte. -/
def tablesIn (length : BitVec 32) (addressSize : BitVec 8) : BitVec 8 :=
  ((length.setWidth 64 - HEADER_SIZE) / addressSize.setWidth 64).setWidth 8

def saveTables (memory : Memory) (pointerToOtherSDTs : BitVec 64) (addressSize tablesAvailable : BitVec 8) :
    M Unit :=
  if addressSize = 4 then copyPointers root bytes memory 4 pointerToOtherSDTs tablesAvailable.toNat 0
  else copyPointers root bytes memory 8 pointerToOtherSDTs tablesAvailable.toNat 0

/-- What follows the mapping. -/
def saveFrom (memory : Memory) (header : BitVec 64) : M Code := do
  if (← strncmp root bytes memory header rsdtSignature 4) ≠ 0 then return -ENFOUND
  else
    let revision ← readByte bytes root memory .pageFault (header + 8)
    let addressSize := addressSize revision
    let length ← readBytes bytes root memory .pageFault 4 (header + 4)
    let tablesAvailable := tablesIn (BitVec.ofNat 32 (littleEndian length)) addressSize
    modify fun acpi => { acpi with tablesAvailable }
    saveTables root bytes memory (header + HEADER_SIZE) addressSize tablesAvailable
    return SUCCESS

/-- Where a table is seen in the window on its entry. -/
def windowOffset (table : BitVec 64) (acpiAddressMap : MemoryMap.Entry) : BitVec 64 :=
  table - acpiAddressMap.address + acpiAddressMap.address % SIZE_4KB

def mapWindow (acpiAddressMap : MemoryMap.Entry) : M Code := do
  let acpi ← get
  match remapPhysicalToVirtualRange answers (downToPage acpiAddressMap.address) BOBAOS_ACPI_ADDRESS
      (downToPage acpiAddressMap.length) root acpi.pages with
  | none => throw .endless
  | some (code, pages) =>
    set { acpi with pages }
    return code

/-- An error is returned by `RETERROR`, which repeats the call. -/
def saveAcpiTables (memoryMap : MemoryMap.State) : M Code := do
  let table := (← get).systemDescriptorTableAddress
  match MemoryMap.getMemoryMapForAddress table memoryMap with
  | none => return -ENFOUND
  | some acpiAddressMap =>
    let offset := windowOffset table acpiAddressMap
    if (← mapWindow answers root acpiAddressMap) < 0 then mapWindow answers root acpiAddressMap
    else saveFrom root bytes (← get).pages.memory (BOBAOS_ACPI_ADDRESS + offset)

end Code

/-! ## Tables -/

/-- The bytes of the header that are read: signature, length and revision. -/
def FIELDS_SIZE : Nat := 9

/-- A root system description table of the length and the revision. -/
structure HoldsTable (bytes : BitVec 64 → UInt8) (table : BitVec 64) (length : BitVec 32)
    (revision : UInt8) : Prop where
  signature : ∀ i < 4, window bytes table i = rsdtSignature i
  length : littleEndian ((List.range 4).map (window bytes (table + 4))) = length.toNat
  revision : bytes (table + 8) = revision

def pointerSize (revision : UInt8) : Nat := if 1 < revision then 8 else 4

/-- The number of the pointers of a table. -/
def pointerCount (length : BitVec 32) (revision : UInt8) : Nat :=
  (length.toNat - HEADER_SIZE.toNat) / pointerSize revision

/-- A pointer of a table. -/
def pointers (bytes : BitVec 64 → UInt8) (table : BitVec 64) (size i : Nat) : BitVec 64 :=
  BitVec.ofNat 64 (littleEndian
    ((List.range size).map (window bytes (table + HEADER_SIZE + BitVec.ofNat 64 (size * i)))))

/-- The bytes of a table that are read. -/
def IsRead (length : BitVec 32) (revision : UInt8) (k : Nat) : Prop :=
  k < FIELDS_SIZE ∨ HEADER_SIZE.toNat ≤ k ∧
    k < HEADER_SIZE.toNat + pointerSize revision * pointerCount length revision

/-- The header is read from the table, and exactly its pointers are in the list, which has
room for them. -/
structure Saves (root : BitVec 64) (memory : Memory) (bytes : BitVec 64 → UInt8)
    (header table : BitVec 64) (length : BitVec 32) (revision : UInt8) (list : Nat → BitVec 64)
    (after : Acpi) : Prop where
  header : ∀ i < FIELDS_SIZE,
    Translated root memory (header + BitVec.ofNat 64 i) (table + BitVec.ofNat 64 i)
  few : pointerCount length revision ≤ BOBAOS_MAX_ACPI_TABLES
  counted : after.tablesAvailable.toNat = pointerCount length revision
  stored : after.tableAddressList =
    overwrite list 0 (pointerCount length revision) (pointers bytes table (pointerSize revision))

/-! ## The number of the pointers -/

section Count

variable {length : BitVec 32} {revision : UInt8}

theorem tablesIn_toNat (length : BitVec 32) (addressSize : BitVec 8) :
    (tablesIn length addressSize).toNat =
      (2 ^ 64 - 36 + length.toNat) % 2 ^ 64 / addressSize.toNat % 2 ^ 8 := by
  have small := length.isLt
  have size_small := addressSize.isLt
  rw [tablesIn, BitVec.toNat_setWidth, BitVec.toNat_udiv, BitVec.toNat_sub, BitVec.toNat_setWidth,
    BitVec.toNat_setWidth, Nat.mod_eq_of_lt (show length.toNat < 2 ^ 64 by omega),
    Nat.mod_eq_of_lt (show addressSize.toNat < 2 ^ 64 by omega)]
  rfl

theorem addressSize_toNat (revision : UInt8) : (addressSize revision).toNat = pointerSize revision := by
  rw [addressSize, pointerSize]
  split <;> rfl

theorem pointerSize_cases (revision : UInt8) : pointerSize revision = 8 ∨ pointerSize revision = 4 := by
  rw [pointerSize]
  split <;> simp

/-- A byte keeps the remainder of the number. -/
theorem tablesIn_count (some : 36 ≤ length.toNat) :
    (tablesIn length (addressSize revision)).toNat = pointerCount length revision % 2 ^ 8 := by
  have small := length.isLt
  have whole : HEADER_SIZE.toNat = 36 := rfl
  rw [tablesIn_toNat, pointerCount, addressSize_toNat, whole]
  rcases pointerSize_cases revision with size | size <;> rw [size] <;> omega

/-- A length that is too small for a header gives more pointers than the list has room for. -/
theorem tablesIn_short (short : length.toNat < 36) :
    BOBAOS_MAX_ACPI_TABLES < (tablesIn length (addressSize revision)).toNat := by
  rw [tablesIn_toNat, addressSize_toNat, BOBAOS_MAX_ACPI_TABLES]
  rcases pointerSize_cases revision with size | size <;> rw [size] <;> omega

theorem tablesIn_small (few : (tablesIn length (addressSize revision)).toNat ≤ BOBAOS_MAX_ACPI_TABLES) :
    36 ≤ length.toNat := by
  by_contra short
  have many := @tablesIn_short length revision (by omega)
  omega

end Count

/-! ## Saving -/

section Saving

variable {root : BitVec 64} {bytes : BitVec 64 → UInt8} {memory : Memory} {header : BitVec 64}
  {length : BitVec 32} {revision : UInt8} {fault : AcpiFault → Prop}

/-- A string that is seen is found equal, if it has no NUL. -/
theorem strncmpFrom_meets {str1 : BitVec 64} {str2 : Nat → UInt8} (nonzero : ∀ i < 4, str2 i ≠ 0)
    (present : AllPresent root memory str1 4)
    (same : ∀ i < 4, window (seen bytes root memory) str1 i = str2 i) (left : Nat) :
    ∀ (counter : Nat) (acpi : Acpi), counter + left = 4 →
      Meets (strncmpFrom root bytes memory str1 str2 left counter) acpi fault
        fun value after => value = 0 ∧ after = acpi := by
  induction left with
  | zero => exact fun counter acpi _ => .pure ⟨rfl, rfl⟩
  | succ left ih =>
    intro counter acpi total
    have here := same counter (by omega)
    rw [window] at here
    rw [strncmpFrom, meets_bind, meets_readByte, here]
    refine ⟨fun _ => ?_, absurd (present counter (by omega))⟩
    rw [if_neg fun both => nonzero counter (by omega) both.2, if_neg (not_not.mpr rfl)]
    exact ih (counter + 1) acpi (by omega)

theorem rsdtSignature_nonzero : ∀ i < 4, rsdtSignature i ≠ 0 := by decide

/-- The pages of a pointer are present. -/
def Readable (root : BitVec 64) (memory : Memory) (first : BitVec 64) (size i : Nat) : Prop :=
  AllPresent root memory (first + BitVec.ofNat 64 (size * i)) size

/-- Pointers are copied as they are seen, or one of them cannot be read or stored. -/
theorem copyPointers_meets (size left : Nat) : ∀ (i : Nat) (acpi : Acpi),
    Meets (copyPointers root bytes memory size (header + HEADER_SIZE) left i) acpi
      (fun _ => (¬ ∀ j, i ≤ j → j < i + left → Readable root memory (header + HEADER_SIZE) size j) ∨
        BOBAOS_MAX_ACPI_TABLES < i + left)
      fun _ after => (left = 0 ∨ i + left ≤ BOBAOS_MAX_ACPI_TABLES) ∧
        (∀ j, i ≤ j → j < i + left → Readable root memory (header + HEADER_SIZE) size j) ∧
        after = { acpi with
          tableAddressList := overwrite acpi.tableAddressList i left
            (slice (pointers (seen bytes root memory) header size) i) } := by
  induction left with
  | zero =>
    intro i acpi
    rw [copyPointers]
    refine .pure ⟨.inl rfl, fun j above below => absurd below (by omega), ?_⟩
    rw [overwrite_empty]
  | succ left ih =>
    intro i acpi
    rw [copyPointers]
    apply ((readBytes_meets size (header + HEADER_SIZE + BitVec.ofNat 64 (size * i))).mono_fault
      ?_).bind
    · rintro _ acpi ⟨rfl, readable, rfl⟩
      rw [meets_bind, meets_lens, meets_store]
      constructor
      · intro room
        apply ((ih (i + 1) _).mono_fault ?_).mono ?_
        · rintro problem (unreadable | full)
          · exact .inl fun all => unreadable fun j above below => all j (by omega) (by omega)
          · exact .inr (by omega)
        · rintro _ after ⟨fits, rest, rfl⟩
          refine ⟨.inr (by omega), fun j above below => ?_, ?_⟩
          · by_cases first : j = i
            · exact first ▸ readable
            · exact rest j (by omega) (by omega)
          · have stored := overwrite_succ acpi.tableAddressList i left
              (slice (pointers (seen bytes root memory) header size) i)
            rw [slice_slice] at stored
            exact congrArg (fun list => { acpi with tableAddressList := list }) stored
      · exact fun full => .inr (by omega)
    · rintro problem ⟨-, absent⟩
      exact .inl fun all => absent (all i (Nat.le_refl i) (by omega))

/-- The pointers are copied from the first one on. -/
theorem saveTables_meets (count : BitVec 8) (acpi : Acpi) :
    Meets (saveTables root bytes memory (header + HEADER_SIZE) (addressSize revision) count) acpi
      (fun _ => (¬ ∀ j < count.toNat,
          Readable root memory (header + HEADER_SIZE) (pointerSize revision) j) ∨
        BOBAOS_MAX_ACPI_TABLES < count.toNat)
      fun _ after => count.toNat ≤ BOBAOS_MAX_ACPI_TABLES ∧
        (∀ j < count.toNat, Readable root memory (header + HEADER_SIZE) (pointerSize revision) j) ∧
        after = { acpi with
          tableAddressList := overwrite acpi.tableAddressList 0 count.toNat
            (pointers (seen bytes root memory) header (pointerSize revision)) } := by
  have sized : saveTables root bytes memory (header + HEADER_SIZE) (addressSize revision) count =
      copyPointers root bytes memory (pointerSize revision) (header + HEADER_SIZE) count.toNat 0 := by
    rw [saveTables, addressSize, pointerSize]
    split <;> rfl
  have copied := @copyPointers_meets root bytes memory header (pointerSize revision) count.toNat 0 acpi
  simp only [Nat.zero_le, Nat.zero_add, true_implies, slice_zero] at copied
  rw [sized]
  apply copied.mono
  rintro _ after ⟨fits, rest⟩
  exact ⟨by omega, rest⟩

/-- What is saved is what is seen, as long as the pointers can be read and the list has room
for as many as are counted. -/
theorem saveFrom_meets (present : AllPresent root memory header FIELDS_SIZE)
    (holds : HoldsTable (seen bytes root memory) header length revision) (acpi : Acpi) :
    Meets (saveFrom root bytes memory header) acpi
      (fun _ => (¬ ∀ j < (tablesIn length (addressSize revision)).toNat,
          Readable root memory (header + HEADER_SIZE) (pointerSize revision) j) ∨
        BOBAOS_MAX_ACPI_TABLES < (tablesIn length (addressSize revision)).toNat)
      fun code after => code = SUCCESS ∧
        (tablesIn length (addressSize revision)).toNat ≤ BOBAOS_MAX_ACPI_TABLES ∧
        (∀ j < (tablesIn length (addressSize revision)).toNat,
          Readable root memory (header + HEADER_SIZE) (pointerSize revision) j) ∧
        after.tablesAvailable = tablesIn length (addressSize revision) ∧
        after.tableAddressList = overwrite acpi.tableAddressList 0
          (tablesIn length (addressSize revision)).toNat
          (pointers (seen bytes root memory) header (pointerSize revision)) := by
  rw [saveFrom, strncmp]
  apply (strncmpFrom_meets rsdtSignature_nonzero (fun i below => present i (by rw [FIELDS_SIZE]; omega))
    holds.signature 4 0 acpi rfl).bind
  rintro _ acpi ⟨rfl, rfl⟩
  rw [if_neg (not_not.mpr rfl), meets_bind, meets_readByte, holds.revision]
  refine ⟨fun _ => ?_, absurd (present 8 (by decide))⟩
  apply ((readBytes_meets 4 (header + 4)).mono_fault ?_).bind
  · rintro _ acpi ⟨rfl, -, rfl⟩
    rw [holds.length, BitVec.ofNat_toNat, BitVec.setWidth_eq, meets_bind, meets_modify]
    apply (saveTables_meets _ _).bind
    rintro _ after ⟨few, readable, rfl⟩
    exact .pure ⟨rfl, few, readable, rfl, rfl⟩
  · rintro problem ⟨-, absent⟩
    refine absurd (fun i below => ?_) absent
    rw [BitVec.add_assoc, show (4 : BitVec 64) = BitVec.ofNat 64 4 from rfl, ← BitVec.ofNat_add]
    exact present (4 + i) (by rw [FIELDS_SIZE]; omega)

/-! ### From the table -/

variable {table : BitVec 64}

/-- The bytes of the table that are read are those at its physical addresses. -/
def ReadFrom (root : BitVec 64) (memory : Memory) (header table : BitVec 64) (length : BitVec 32)
    (revision : UInt8) : Prop :=
  ∀ k, IsRead length revision k →
    Translated root memory (header + BitVec.ofNat 64 k) (table + BitVec.ofNat 64 k)

/-- A block whose bytes are translated is seen. -/
theorem seen_block {first size : Nat} (translated : ∀ i < size, Translated root memory
      (header + BitVec.ofNat 64 (first + i)) (table + BitVec.ofNat 64 (first + i))) :
    (List.range size).map (window (seen bytes root memory) (header + BitVec.ofNat 64 first)) =
      (List.range size).map (window bytes (table + BitVec.ofNat 64 first)) := by
  refine List.map_congr_left fun i member => ?_
  rw [window, window, add_ofNat, add_ofNat, (translated i (List.mem_range.mp member)).seen]

/-- A table is seen where its header is translated. -/
theorem HoldsTable.shown (holds : HoldsTable bytes table length revision)
    (translated : ∀ i < FIELDS_SIZE,
      Translated root memory (header + BitVec.ofNat 64 i) (table + BitVec.ofNat 64 i)) :
    HoldsTable (seen bytes root memory) header length revision where
  signature i below := by
    rw [← holds.signature i below, window, (translated i (by rw [FIELDS_SIZE]; omega)).seen, window]
  length := by
    rw [← holds.length]
    exact congrArg littleEndian (@seen_block root bytes memory header table 4 4 fun i below =>
      translated (4 + i) (by rw [FIELDS_SIZE]; omega))
  revision := (translated 8 (by decide)).seen.trans holds.revision

/-- A table depends on the bytes of its header. -/
theorem HoldsTable.congr {other : BitVec 64 → UInt8} (holds : HoldsTable bytes table length revision)
    (same : ∀ i < FIELDS_SIZE, other (table + BitVec.ofNat 64 i) = bytes (table + BitVec.ofNat 64 i)) :
    HoldsTable other table length revision where
  signature i below := (same i (by rw [FIELDS_SIZE]; omega)).trans (holds.signature i below)
  length := by
    rw [← holds.length]
    refine congrArg littleEndian (List.map_congr_left fun i member => ?_)
    have below := List.mem_range.mp member
    have byte := same (4 + i) (by rw [FIELDS_SIZE]; omega)
    rwa [← add_ofNat] at byte
  revision := (same 8 (by decide)).trans holds.revision

/-- A byte of a pointer, by its offset in the table. -/
theorem pointer_byte (table : BitVec 64) (size i b : Nat) :
    table + HEADER_SIZE + BitVec.ofNat 64 (size * i) + BitVec.ofNat 64 b =
      table + BitVec.ofNat 64 (HEADER_SIZE.toNat + size * i + b) := by
  rw [add_ofNat, show HEADER_SIZE = BitVec.ofNat 64 HEADER_SIZE.toNat from rfl, add_ofNat,
    Nat.add_assoc]
  rfl

/-- The bytes of the pointers, by the pointer. -/
theorem isRead_pointer {i b : Nat} (below : i < pointerCount length revision)
    (inside : b < pointerSize revision) :
    IsRead length revision (HEADER_SIZE.toNat + pointerSize revision * i + b) := by
  have last : pointerSize revision * (i + 1) ≤ pointerSize revision * pointerCount length revision :=
    Nat.mul_le_mul_left _ below
  rw [Nat.mul_add, Nat.mul_one] at last
  exact .inr ⟨by omega, by omega⟩

/-- If all bytes that are read are those of the table, it is saved. -/
theorem ReadFrom.saves (from_table : ReadFrom root memory header table length revision)
    (some : 36 ≤ length.toNat) (few : pointerCount length revision ≤ BOBAOS_MAX_ACPI_TABLES)
    (holds : HoldsTable bytes table length revision) (acpi : Acpi) :
    ∃ after, (saveFrom root bytes memory header).run acpi = .ok (SUCCESS, after) ∧
      Saves root memory bytes header table length revision acpi.tableAddressList after := by
  have fields : ∀ i < FIELDS_SIZE,
      Translated root memory (header + BitVec.ofNat 64 i) (table + BitVec.ofNat 64 i) :=
    fun i below => from_table i (.inl below)
  have count : (tablesIn length (addressSize revision)).toNat = pointerCount length revision := by
    have slots : BOBAOS_MAX_ACPI_TABLES = 32 := rfl
    rw [tablesIn_count some]
    omega
  have translated {i b : Nat} (below : i < pointerCount length revision)
      (inside : b < pointerSize revision) := from_table _ (isRead_pointer below inside)
  have law := saveFrom_meets (fun i below => (fields i below).present) (holds.shown fields) acpi
  rw [count] at law
  have never : ∀ _ : AcpiFault, (¬ ∀ i < pointerCount length revision,
      Readable root memory (header + HEADER_SIZE) (pointerSize revision) i) ∨
        BOBAOS_MAX_ACPI_TABLES < pointerCount length revision → False := by
    rintro _ (unreadable | full)
    · refine unreadable fun i below b inside => ?_
      rw [pointer_byte]
      exact (translated below inside).present
    · omega
  obtain ⟨_, after, ran, rfl, -, -, available, stored⟩ := (law.mono_fault never).returns
  refine ⟨after, ran, fields, few, by rw [available, count], ?_⟩
  rw [stored]
  apply overwrite_congr
  intro i below
  rw [pointers, pointers]
  congr 2
  refine List.map_congr_left fun b member => ?_
  rw [window, window, pointer_byte, pointer_byte, (translated below (List.mem_range.mp member)).seen]

/-- Where a table is saved, its length is one of a header, and the pointers that are seen are
those of the table. -/
theorem Saves.pointers_seen {acpi after : Acpi}
    (saves : Saves root memory bytes header table length revision acpi.tableAddressList after)
    (ran : (saveFrom root bytes memory header).run acpi = .ok (SUCCESS, after))
    (holds : HoldsTable bytes table length revision) :
    36 ≤ length.toNat ∧ ∀ i < pointerCount length revision,
      Readable root memory (header + HEADER_SIZE) (pointerSize revision) i ∧
      pointers (seen bytes root memory) header (pointerSize revision) i =
        pointers bytes table (pointerSize revision) i := by
  have law := saveFrom_meets (fun i below => (saves.header i below).present)
    (holds.shown saves.header) acpi
  obtain ⟨-, few, readable, available, stored⟩ := law.returned ran
  have count : (tablesIn length (addressSize revision)).toNat = pointerCount length revision := by
    rw [← available, saves.counted]
  rw [count] at readable stored
  refine ⟨tablesIn_small few, fun i below => ⟨readable i below, ?_⟩⟩
  have slot := congrFun (stored.symm.trans saves.stored) i
  rwa [overwrite_inside _ _ _ _ _ (by omega), overwrite_inside _ _ _ _ _ (by omega)] at slot

/-- The bytes of equal pointers. -/
theorem pointer_bytes_same {left right : BitVec 64 → UInt8} {size i b : Nat} (small : size ≤ 8)
    (same : pointers left header size i = pointers right table size i) (inside : b < size) :
    left (header + BitVec.ofNat 64 (HEADER_SIZE.toNat + size * i + b)) =
      right (table + BitVec.ofNat 64 (HEADER_SIZE.toNat + size * i + b)) := by
  have bounded (bytes : List UInt8) (length : bytes.length = size) : littleEndian bytes < 2 ^ 64 := by
    have small := littleEndian_lt bytes
    rw [length] at small
    exact Nat.lt_of_lt_of_le small (Nat.pow_le_pow_right (by decide) ‹size ≤ 8›)
  rw [pointers, pointers, BitVec.toNat_eq, BitVec.toNat_ofNat, BitVec.toNat_ofNat,
    Nat.mod_eq_of_lt (bounded _ (by simp)), Nat.mod_eq_of_lt (bounded _ (by simp))] at same
  have blocks := littleEndian_injective (by simp) same
  have byte := List.map_inj_left.mp blocks b (List.mem_range.mpr inside)
  rwa [window, window, pointer_byte, pointer_byte] at byte

/-! ### Any table -/

/-- The bytes of a table without pointers other than zero. -/
def tableBytes (table : BitVec 64) (length : BitVec 32) (revision : UInt8) : BitVec 64 → UInt8 :=
  fun address =>
    let offset := (address - table).toNat
    if offset < 4 then rsdtSignature offset
    else if offset < 8 then wordBytes length.toNat (offset - 4)
    else if offset = 8 then revision
    else 0

theorem tableBytes_window (table : BitVec 64) (length : BitVec 32) (revision : UInt8) {i : Nat}
    (small : i < 2 ^ 64) : tableBytes table length revision (table + BitVec.ofNat 64 i) =
      if i < 4 then rsdtSignature i
      else if i < 8 then wordBytes length.toNat (i - 4)
      else if i = 8 then revision
      else 0 := by
  rw [tableBytes]
  simp only [offset_distance table small]

theorem tableBytes_holds (table : BitVec 64) (length : BitVec 32) (revision : UInt8) :
    HoldsTable (tableBytes table length revision) table length revision where
  signature i below := by
    rw [window, tableBytes_window _ _ _ (by omega), if_pos below]
  length := by
    have byte : ∀ i < 4, window (tableBytes table length revision) (table + 4) i =
        wordBytes length.toNat i := by
      intro i below
      rw [window, show (4 : BitVec 64) = BitVec.ofNat 64 4 from rfl, add_ofNat,
        tableBytes_window _ _ _ (by omega), if_neg (by omega), if_pos (by omega), Nat.add_sub_cancel_left]
    have small := length.isLt
    simp only [littleEndian, List.range_succ, List.range_zero, List.nil_append, List.cons_append,
      List.map_cons, List.map_nil, byte 0 (by decide), byte 1 (by decide), byte 2 (by decide),
      byte 3 (by decide), wordBytes, UInt8.toNat_ofNat', Nat.ofDigits_cons, Nat.ofDigits_nil]
    omega
  revision := tableBytes_window table length revision (i := 8) (by decide)

/-- A byte behind the header, or one at the same offset of another page, may be any. -/
theorem HoldsTable.update (holds : HoldsTable bytes table length revision) {k : Nat}
    (behind : FIELDS_SIZE ≤ k) (near : k < 4096) {address : BitVec 64}
    (aligned : address.toNat % 4096 = (table + BitVec.ofNat 64 k).toNat % 4096) (byte : UInt8) :
    HoldsTable (Function.update bytes address byte) table length revision := by
  refine holds.congr fun i below => Function.update_of_ne (fun same => ?_) _ _
  rw [← same, BitVec.toNat_add, BitVec.toNat_add, BitVec.toNat_ofNat, BitVec.toNat_ofNat] at aligned
  omega

/-- A byte of the pointers lies in one of them. -/
theorem pointer_of_byte {k : Nat} (behind : HEADER_SIZE.toNat ≤ k)
    (inside : k < HEADER_SIZE.toNat + pointerSize revision * pointerCount length revision) :
    ∃ i b, i < pointerCount length revision ∧ b < pointerSize revision ∧
      k = HEADER_SIZE.toNat + pointerSize revision * i + b := by
  have positive : 0 < pointerSize revision := by
    have sizes := pointerSize_cases revision
    omega
  refine ⟨(k - HEADER_SIZE.toNat) / pointerSize revision, (k - HEADER_SIZE.toNat) % pointerSize revision,
    ?_, Nat.mod_lt _ positive, ?_⟩
  · rw [Nat.div_lt_iff_lt_mul positive, Nat.mul_comm]
    omega
  · have parts := Nat.div_add_mod (k - HEADER_SIZE.toNat) (pointerSize revision)
    omega

/-- If every table of the length and the revision at the address is saved, then all bytes
that are read are those of the table: a byte that came from elsewhere would be another one
in some memory. -/
theorem readFrom_of_saves {answers : Nat → BitVec 64} {acpi : Acpi}
    (shaped : WellShaped answers root acpi.pages)
    (aligned : header.toNat % 4096 = table.toNat % 4096)
    (saved : ∀ bytes, HoldsTable bytes table length revision → ∃ after,
      (saveFrom root bytes acpi.pages.memory header).run acpi = .ok (SUCCESS, after) ∧
        Saves root acpi.pages.memory bytes header table length revision acpi.tableAddressList after) :
    36 ≤ length.toNat ∧ pointerCount length revision ≤ BOBAOS_MAX_ACPI_TABLES ∧
      ReadFrom root acpi.pages.memory header table length revision := by
  have holds := tableBytes_holds table length revision
  obtain ⟨after, ran, saves⟩ := saved _ holds
  obtain ⟨some, readable⟩ := saves.pointers_seen ran holds
  have few := saves.few
  refine ⟨some, few, ?_⟩
  rintro k (field | ⟨behind, inside⟩)
  · exact saves.header k field
  have small : pointerSize revision ≤ 8 := by
    have sizes := pointerSize_cases revision
    omega
  have near : k < 4096 := by
    have size := Nat.mul_le_mul small few
    have whole : HEADER_SIZE.toNat + 8 * BOBAOS_MAX_ACPI_TABLES < 4096 := by decide
    omega
  obtain ⟨i, b, below, byte, number⟩ := pointer_of_byte behind inside
  have present := (readable i below).1 b byte
  rw [pointer_byte, ← number] at present
  refine ⟨present, ?_⟩
  by_contra elsewhere
  have kept : (virtualToPhysical (header + BitVec.ofNat 64 k) root acpi.pages.memory).toNat % 4096 =
      (table + BitVec.ofNat 64 k).toNat % 4096 := by
    rw [shaped.offset_kept present, BitVec.toNat_add, BitVec.toNat_add]
    omega
  -- In another memory the byte that is read is not the one of the table.
  have fields : FIELDS_SIZE ≤ HEADER_SIZE.toNat := by decide
  have changed := holds.update (Nat.le_trans fields behind) near kept
    (tableBytes table length revision (table + BitVec.ofNat 64 k) + 1)
  obtain ⟨other, also_ran, also_saves⟩ := saved _ changed
  have same := ((also_saves.pointers_seen also_ran changed).2 i below).2
  have different := pointer_bytes_same small same byte
  rw [← number, seen, Function.update_self, Function.update_of_ne (Ne.symm elsewhere)] at different
  simp at different

end Saving

/-! ## The window -/

section Window

variable {answers : Nat → BitVec 64} {root : BitVec 64} {entry : MemoryMap.Entry}

/-- The offset leads from the first page of the entry to the table. -/
theorem windowOffset_table (table : BitVec 64) :
    downToPage entry.address + windowOffset table entry = table := by
  apply BitVec.eq_of_toNat_eq
  have rest : (entry.address % SIZE_4KB).toNat = entry.address.toNat % 4096 := by
    rw [BitVec.toNat_umod]
    rfl
  rw [windowOffset, BitVec.toNat_add, BitVec.toNat_add, BitVec.toNat_sub, downToPage_toNat, rest]
  have table_small := table.isLt
  have small := entry.address.isLt
  omega

/-- The table is seen at its offset in a page. -/
theorem windowOffset_aligned (table : BitVec 64) :
    (BOBAOS_ACPI_ADDRESS + windowOffset table entry).toNat % 4096 = table.toNat % 4096 := by
  have same := congrArg BitVec.toNat (@windowOffset_table entry table)
  have whole := downToPage_whole entry.address
  have start : BOBAOS_ACPI_ADDRESS.toNat % 4096 = 0 := by decide
  rw [BitVec.toNat_add] at same ⊢
  omega

/-- A window is mapped page by page. -/
theorem window_mapped (fresh : FreshPages answers) {state mapped : State}
    (shaped : WellShaped answers root state)
    (ran : remapPhysicalToVirtualRange answers (downToPage entry.address) BOBAOS_ACPI_ADDRESS
      (downToPage entry.length) root state = some (SUCCESS, mapped)) :
    RangeMapped answers root (downToPage entry.address) BOBAOS_ACPI_ADDRESS 0
      (passes (downToPage entry.length)) state mapped := by
  have whole : upToPage (downToPage entry.length) = downToPage entry.length := by
    rw [upToPage, if_pos]
    apply BitVec.eq_of_toNat_eq
    rw [BitVec.toNat_umod]
    exact downToPage_whole entry.length
  rw [remapPhysicalToVirtualRange, whole] at ran
  exact mapOrCreateRange_passes fresh shaped ran

/-- A byte of the table is read from it if its page is shown by the window. -/
theorem readFrom_iff (fresh : FreshPages answers) {state mapped : State}
    (shaped : WellShaped answers root state)
    (ran : remapPhysicalToVirtualRange answers (downToPage entry.address) BOBAOS_ACPI_ADDRESS
      (downToPage entry.length) root state = some (SUCCESS, mapped))
    (table : BitVec 64) (length : BitVec 32) (revision : UInt8) :
    ReadFrom root mapped.memory (BOBAOS_ACPI_ADDRESS + windowOffset table entry) table length
        revision ↔
      ∀ k, IsRead length revision k →
        Shown (downToPage entry.address) BOBAOS_ACPI_ADDRESS (downToPage entry.length) root
          state.memory (windowOffset table entry + BitVec.ofNat 64 k) := by
  have mapping := window_mapped fresh shaped ran
  refine forall_congr' fun k => imp_congr_right fun _ => ?_
  have physical : table + BitVec.ofNat 64 k =
      downToPage entry.address + (windowOffset table entry + BitVec.ofNat 64 k) := by
    rw [← BitVec.add_assoc, windowOffset_table]
  rw [physical, BitVec.add_assoc]
  exact mapping.translated_iff shaped (downToPage_whole _) (by decide) _

variable {bytes : BitVec 64 → UInt8} {memoryMap : MemoryMap.State} {acpi : Acpi} {mapped : State}

/-- Once the window has been mapped, the rest runs on the mapped pages. -/
theorem saveAcpiTables_run
    (found : MemoryMap.getMemoryMapForAddress acpi.systemDescriptorTableAddress memoryMap = some entry)
    (ran : remapPhysicalToVirtualRange answers (downToPage entry.address) BOBAOS_ACPI_ADDRESS
      (downToPage entry.length) root acpi.pages = some (SUCCESS, mapped)) :
    (saveAcpiTables answers root bytes memoryMap).run acpi =
      (saveFrom root bytes mapped.memory
        (BOBAOS_ACPI_ADDRESS + windowOffset acpi.systemDescriptorTableAddress entry)).run
          { acpi with pages := mapped } := by
  have got (acpi : Acpi) : (get : M Acpi).run acpi = .ok (acpi, acpi) := rfl
  have window : (mapWindow answers root entry).run acpi = .ok (SUCCESS, { acpi with pages := mapped }) := by
    rw [mapWindow, run_bind_of (got acpi), ran]
    rfl
  rw [saveAcpiTables, run_bind_of (got acpi)]
  simp only [found]
  rw [run_bind_of window, if_neg (by decide), run_bind_of (got _)]

/-- Every table of the length and the revision at an address of the entry is read from there
and saved if and only if its length is one of a header and at most 32 pointers, and the pages
of all bytes that are read are shown by the window: the mapping comes to them and they are
below 2^48, or it does not and they have been mapped so before. -/
theorem tables_saved_iff (fresh : FreshPages answers) (shaped : WellShaped answers root acpi.pages)
    (found : MemoryMap.getMemoryMapForAddress acpi.systemDescriptorTableAddress memoryMap = some entry)
    (ran : remapPhysicalToVirtualRange answers (downToPage entry.address) BOBAOS_ACPI_ADDRESS
      (downToPage entry.length) root acpi.pages = some (SUCCESS, mapped))
    (length : BitVec 32) (revision : UInt8) :
    (∀ bytes, HoldsTable bytes acpi.systemDescriptorTableAddress length revision → ∃ after,
      (saveAcpiTables answers root bytes memoryMap).run acpi = .ok (SUCCESS, after) ∧
        Saves root mapped.memory bytes
          (BOBAOS_ACPI_ADDRESS + windowOffset acpi.systemDescriptorTableAddress entry)
          acpi.systemDescriptorTableAddress length revision acpi.tableAddressList after) ↔
      36 ≤ length.toNat ∧ pointerCount length revision ≤ BOBAOS_MAX_ACPI_TABLES ∧
        ∀ k, IsRead length revision k →
          Shown (downToPage entry.address) BOBAOS_ACPI_ADDRESS (downToPage entry.length) root
            acpi.pages.memory (windowOffset acpi.systemDescriptorTableAddress entry + BitVec.ofNat 64 k) := by
  rw [← readFrom_iff fresh shaped ran]
  constructor
  · intro saved
    refine @readFrom_of_saves root _ length revision _ answers { acpi with pages := mapped }
      (window_mapped fresh shaped ran).shaped (windowOffset_aligned _) fun bytes holds => ?_
    rw [← saveAcpiTables_run found ran]
    exact saved bytes holds
  · rintro ⟨some, few, from_table⟩ bytes holds
    rw [saveAcpiTables_run found ran]
    exact from_table.saves some few holds { acpi with pages := mapped }

end Window

/-! ### An entry of a page and a half -/

def firmwareEntry : MemoryMap.Entry := ⟨0x7FFE0000, 0x1800, 3⟩

def firmwareMap : MemoryMap.State := ⟨fun _ => firmwareEntry, 1, 0, 0⟩

/-- The variables before a table is saved. -/
def tableAt (table : BitVec 64) : Acpi := ⟨0, fun _ => 0, table, firstTable⟩

theorem firstTable_shaped : WellShaped sixteenPages 0x600000 firstTable := by
  have created : createEmptyPageTable sixteenPages ⟨fun _ => 0, 0⟩ = (0x600000, firstTable) := rfl
  exact createEmptyPageTable_shaped sixteenPages_fresh created (by decide)

/-- The page of its window is mapped. -/
theorem firmwareWindow : ∃ mapped, remapPhysicalToVirtualRange sixteenPages
    (downToPage firmwareEntry.address) BOBAOS_ACPI_ADDRESS (downToPage firmwareEntry.length) 0x600000
      firstTable = some (SUCCESS, mapped) := by
  have page : upToPage (downToPage firmwareEntry.length) = SIZE_4KB := by decide
  have succeeded : (mapPage sixteenPages 0x600000 (downToPage firmwareEntry.address)
      BOBAOS_ACPI_ADDRESS firstTable).1 = SUCCESS := by
    decide +kernel
  refine ⟨(mapPage sixteenPages 0x600000 (downToPage firmwareEntry.address) BOBAOS_ACPI_ADDRESS
    firstTable).2, ?_⟩
  rw [remapPhysicalToVirtualRange, page, mapOrCreateRange_page, ← succeeded]

/-- The passes come to its first page only. -/
theorem firmwareWindow_comesTo {offset : BitVec 64} (near : offset.toNat < 2 ^ 48) :
    ComesTo BOBAOS_ACPI_ADDRESS (downToPage firmwareEntry.length) offset ↔ offset.toNat < 4096 :=
  comesTo_iff (by decide) (by decide) (by decide) near

/-- A table with one pointer on that page is saved. -/
theorem table_on_page_saved : ∃ mapped after,
    remapPhysicalToVirtualRange sixteenPages (downToPage firmwareEntry.address) BOBAOS_ACPI_ADDRESS
      (downToPage firmwareEntry.length) 0x600000 firstTable = some (SUCCESS, mapped) ∧
    (saveAcpiTables sixteenPages 0x600000 (tableBytes 0x7FFE0100 40 1) firmwareMap).run
      (tableAt 0x7FFE0100) = .ok (SUCCESS, after) ∧
    Saves 0x600000 mapped.memory (tableBytes 0x7FFE0100 40 1)
      (BOBAOS_ACPI_ADDRESS + windowOffset 0x7FFE0100 firmwareEntry) 0x7FFE0100 40 1 (fun _ => 0) after := by
  obtain ⟨mapped, ran⟩ := firmwareWindow
  have found : MemoryMap.getMemoryMapForAddress 0x7FFE0100 firmwareMap = some firmwareEntry := by
    decide
  have law := @tables_saved_iff sixteenPages 0x600000 firmwareEntry firmwareMap (tableAt 0x7FFE0100)
    mapped sixteenPages_fresh firstTable_shaped found ran 40 1
  have shown : ∀ k, IsRead 40 1 k → Shown (downToPage firmwareEntry.address) BOBAOS_ACPI_ADDRESS
      (downToPage firmwareEntry.length) 0x600000 firstTable.memory
        (windowOffset 0x7FFE0100 firmwareEntry + BitVec.ofNat 64 k) := by
    intro k read
    have near : k < 40 := by
      have count : HEADER_SIZE.toNat + pointerSize 1 * pointerCount 40 1 = 40 := by decide
      rcases read with field | ⟨-, pointer⟩
      · rw [FIELDS_SIZE] at field
        omega
      · omega
    have offset : (windowOffset 0x7FFE0100 firmwareEntry + BitVec.ofNat 64 k).toNat = 0x100 + k := by
      rw [BitVec.toNat_add, BitVec.toNat_ofNat,
        show (windowOffset 0x7FFE0100 firmwareEntry).toNat = 0x100 by decide]
      omega
    have comes : ComesTo BOBAOS_ACPI_ADDRESS (downToPage firmwareEntry.length)
        (windowOffset 0x7FFE0100 firmwareEntry + BitVec.ofNat 64 k) :=
      (firmwareWindow_comesTo (by omega)).mpr (by omega)
    refine ⟨fun _ => ?_, absurd comes⟩
    rw [BitVec.toNat_add, offset, show (downToPage firmwareEntry.address).toNat = 0x7FFE0000 by decide]
    omega
  obtain ⟨after, saved⟩ := law.mpr ⟨by decide, by decide, shown⟩ _ (tableBytes_holds 0x7FFE0100 40 1)
  exact ⟨mapped, after, ran, saved⟩

/-- One behind it is looked for on a page that is not present. -/
theorem table_behind_page_lost :
    MemoryMap.getMemoryMapForAddress 0x7FFE1000 firmwareMap = some firmwareEntry ∧
    WellShaped sixteenPages 0x600000 firstTable ∧
    ∃ mapped, remapPhysicalToVirtualRange sixteenPages (downToPage firmwareEntry.address)
      BOBAOS_ACPI_ADDRESS (downToPage firmwareEntry.length) 0x600000 firstTable = some (SUCCESS, mapped) ∧
    HoldsTable (tableBytes 0x7FFE1000 40 1) 0x7FFE1000 40 1 ∧
    (saveAcpiTables sixteenPages 0x600000 (tableBytes 0x7FFE1000 40 1) firmwareMap).run
      (tableAt 0x7FFE1000) = .error .pageFault ∧
    ¬ ∃ after,
      (saveAcpiTables sixteenPages 0x600000 (tableBytes 0x7FFE1000 40 1) firmwareMap).run
        (tableAt 0x7FFE1000) = .ok (SUCCESS, after) ∧
      Saves 0x600000 mapped.memory (tableBytes 0x7FFE1000 40 1)
        (BOBAOS_ACPI_ADDRESS + windowOffset 0x7FFE1000 firmwareEntry) 0x7FFE1000 40 1 (fun _ => 0) after := by
  obtain ⟨mapped, ran⟩ := firmwareWindow
  have found : MemoryMap.getMemoryMapForAddress 0x7FFE1000 firmwareMap = some firmwareEntry := by
    decide
  have fault : (saveAcpiTables sixteenPages 0x600000 (tableBytes 0x7FFE1000 40 1) firmwareMap).run
      (tableAt 0x7FFE1000) = .error .pageFault := by
    refine error_of_faultOf ?_
    decide +kernel
  refine ⟨found, firstTable_shaped, mapped, ran, tableBytes_holds _ _ _, fault, ?_⟩
  rintro ⟨after, returned, -⟩
  rw [fault] at returned
  cases returned

end BobaOS.Power
