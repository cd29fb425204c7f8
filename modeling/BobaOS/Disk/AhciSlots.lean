import BobaOS.Disk.AhciCommands

/-!
# The slots of a port

`remapPort` programs the tables of the 32 slots of a port at a distance of a header, so
that the tables of neighbouring slots overlap. A slot is looked for in a byte, and the
upper half of an address is dropped when a command is built.
-/

namespace BobaOS.Ahci

open BitFields ByteStore PackedRecords

/-! ## Addresses -/

theorem lowWord_toNat (address : BitVec 64) : (lowWord address).toNat = address.toNat % 2 ^ 32 := by
  rw [lowWord, BitVec.toNat_setWidth, toNat_and_mask (k := 32) _ rfl, Nat.mod_mod]

theorem highWord_toNat (address : BitVec 64) : (highWord address).toNat = address.toNat / 2 ^ 32 := by
  have bounded := address.isLt
  rw [highWord, BitVec.toNat_setWidth, toNat_and_mask (k := 32) _ rfl, BitVec.toNat_ushiftRight,
    Nat.shiftRight_eq_div_pow]
  omega

theorem joinWords_toNat (upper low : BitVec 32) :
    (joinWords upper low).toNat = upper.toNat * 2 ^ 32 + low.toNat := by
  have upper_lt := upper.isLt
  have low_lt := low.isLt
  have shifted : (upper.setWidth 64 <<< 32 : BitVec 64).toNat = 2 ^ 32 * upper.toNat := by
    rw [BitVec.toNat_shiftLeft, BitVec.toNat_setWidth, Nat.shiftLeft_eq]
    omega
  have below : (low.setWidth 64 : BitVec 64).toNat = low.toNat := by
    rw [BitVec.toNat_setWidth]
    omega
  rw [joinWords, BitVec.or_comm, toNat_or_above (by omega) shifted, below]
  omega

/-- The halves of an address are put together again. -/
theorem joinWords_halves (address : BitVec 64) :
    joinWords (highWord address) (lowWord address) = address := by
  apply BitVec.eq_of_toNat_eq
  rw [joinWords_toNat, highWord_toNat, lowWord_toNat]
  omega

/-- Shifted to the right, the upper half is dropped. -/
theorem upper_dropped (upper low : BitVec 32) :
    (upper.setWidth 64 >>> 32 ||| low.setWidth 64 : BitVec 64) = low.setWidth 64 := by
  have none : (upper.setWidth 64 >>> 32 : BitVec 64) = 0 := by
    apply BitVec.eq_of_toNat_eq
    rw [BitVec.toNat_ushiftRight, BitVec.toNat_setWidth, Nat.shiftRight_eq_div_pow]
    have upper_lt := upper.isLt
    rw [Nat.mod_eq_of_lt (by omega)]
    exact Nat.div_eq_of_lt upper_lt
  rw [none]
  exact BitVec.zero_or

/-! ## The tables -/

/-- The command list, as the device finds it. -/
def commandList (port : HbaPort) : BitVec 64 :=
  joinWords port.commandListBaseUpper port.commandListBase

/-- The area for the frames that are received. -/
def fisArea (port : HbaPort) : BitVec 64 := joinWords port.fisBaseUpper port.fisBase

/-- The header of a slot. -/
def slotHeader (machine : Machine) (slot : Nat) : CommandHeader :=
  commandHeader.load machine.memory
    (commandList machine.port + BitVec.ofNat 64 (COMMAND_HEADER_SIZE * slot))

/-- The table of a slot, as it was programmed. -/
def programmed (machine : Machine) (slot : Nat) : BitVec 64 :=
  joinWords (slotHeader machine slot).commandTableBaseAddressUpper
    (slotHeader machine slot).commandTableBaseAddress

/-- Headers of different slots do not meet. -/
theorem headers_apart (list : BitVec 64) {first second : Nat} (below : first < 32) (also : second < 32)
    (distinct : first ≠ second) :
    Disjoint (span (list + BitVec.ofNat 64 (COMMAND_HEADER_SIZE * first)) commandHeader.size)
      (span (list + BitVec.ofNat 64 (COMMAND_HEADER_SIZE * second)) commandHeader.size) := by
  have size : commandHeader.size = 16 := rfl
  rw [COMMAND_HEADER_SIZE]
  rcases Nat.lt_or_gt_of_ne distinct with before | behind
  · exact span_apart (by omega) (by omega)
  · exact (span_apart (by omega) (by omega)).symm

/-- The headers that the loop has passed stay, and the next ones get the addresses from
where it stands. -/
theorem remapPortLoop_load (list : BitVec 64) (left : Nat) : ∀ i baseAddr memory, i + left = 32 →
    ∀ slot < 32,
      let header := commandHeader.load (remapPortLoop list left i baseAddr memory)
        (list + BitVec.ofNat 64 (COMMAND_HEADER_SIZE * slot))
      (slot < i → header = commandHeader.load memory
        (list + BitVec.ofNat 64 (COMMAND_HEADER_SIZE * slot))) ∧
      (i ≤ slot → header.commandTableBaseAddress =
          lowWord (baseAddr + BitVec.ofNat 64 (COMMAND_HEADER_SIZE * (slot - i))) ∧
        header.commandTableBaseAddressUpper =
          highWord (baseAddr + BitVec.ofNat 64 (COMMAND_HEADER_SIZE * (slot - i)))) := by
  induction left with
  | zero => exact fun i _ _ steps slot inside => ⟨fun _ => rfl, fun behind => by omega⟩
  | succ left ih =>
    intro i baseAddr memory steps slot inside
    rw [remapPortLoop]
    obtain ⟨passed, next⟩ := ih (i + 1) (baseAddr + BitVec.ofNat 64 COMMAND_HEADER_SIZE)
      (commandHeader.save memory (list + BitVec.ofNat 64 (COMMAND_HEADER_SIZE * i))
        { commandHeader.load memory (list + BitVec.ofNat 64 (COMMAND_HEADER_SIZE * i)) with
          physicalRegionDescriptorTableLength := BitVec.ofNat 16 BOBAOS_MAX_AHCI_PRDT_ENTRIES
          commandTableBaseAddress := lowWord baseAddr
          commandTableBaseAddressUpper := highWord baseAddr }) (by omega) slot inside
    constructor
    · intro before
      rw [passed (by omega), Layout.save]
      exact Layout.load_write _ _ _ (by decide)
        (headers_apart list (by omega) inside (by omega))
    · intro behind
      by_cases here : slot = i
      · subst here
        rw [passed (Nat.lt_succ_self slot), Layout.load_save _ _ _ (by decide), Nat.sub_self]
        exact ⟨congrArg lowWord (BitVec.add_zero baseAddr).symm,
          congrArg highWord (BitVec.add_zero baseAddr).symm⟩
      · have moved : baseAddr + BitVec.ofNat 64 COMMAND_HEADER_SIZE +
            BitVec.ofNat 64 (COMMAND_HEADER_SIZE * (slot - (i + 1))) =
            baseAddr + BitVec.ofNat 64 (COMMAND_HEADER_SIZE * (slot - i)) := by
          have steps : COMMAND_HEADER_SIZE * (slot - i) =
              COMMAND_HEADER_SIZE + COMMAND_HEADER_SIZE * (slot - (i + 1)) := by
            rw [COMMAND_HEADER_SIZE]
            omega
          rw [steps, BitVec.ofNat_add, BitVec.add_assoc]
        rw [← moved]
        exact next (by omega)

/-- A port with these slots taken. -/
def outstanding (sataActive commandIssue : BitVec 32) (machine : Machine) : Machine :=
  { machine with port := { machine.port with sataActive := sataActive, commandIssue := commandIssue } }

/-- Where the table of a slot is put in the block from `kzalloc`. -/
def tableOffset (slot : Nat) : Nat := 1024 + 256 + COMMAND_HEADER_SIZE * slot

section Remapped

variable {addr : BitVec 64} (allocated : addr ≠ 0) (machine : Machine)
  (sataActive commandIssue : BitVec 32)

include allocated

theorem remapPort_success : (remapPort addr machine).1 = SUCCESS := by
  simp only [remapPort, if_neg allocated]

theorem remapPort_list :
    commandList (outstanding sataActive commandIssue (remapPort addr machine).2).port = addr := by
  simp only [remapPort, if_neg allocated]
  exact joinWords_halves addr

theorem remapPort_fis :
    fisArea (outstanding sataActive commandIssue (remapPort addr machine).2).port = addr + 1024 := by
  simp only [remapPort, if_neg allocated]
  exact joinWords_halves (addr + 1024)

/-- The header of a slot holds the halves of the address of its table. -/
theorem remapPort_header {slot : Nat} (inside : slot < 32) :
    let header := slotHeader (outstanding sataActive commandIssue (remapPort addr machine).2) slot
    header.commandTableBaseAddress = lowWord (addr + BitVec.ofNat 64 (tableOffset slot)) ∧
      header.commandTableBaseAddressUpper = highWord (addr + BitVec.ofNat 64 (tableOffset slot)) := by
  have place : addr + 1024 + 256 + BitVec.ofNat 64 (COMMAND_HEADER_SIZE * slot) =
      addr + BitVec.ofNat 64 (tableOffset slot) := by
    rw [tableOffset, BitVec.ofNat_add, BitVec.ofNat_add, BitVec.add_assoc, BitVec.add_assoc,
      BitVec.add_assoc]
    rfl
  have written := (remapPortLoop_load addr 32 0 (addr + 1024 + 256) machine.memory rfl slot inside).2
    (Nat.zero_le slot)
  rw [Nat.sub_zero, place] at written
  dsimp only
  rw [slotHeader, remapPort_list allocated]
  simp only [remapPort, if_neg allocated, joinWords_halves]
  exact written

theorem remapPort_programmed {slot : Nat} (inside : slot < 32) :
    programmed (outstanding sataActive commandIssue (remapPort addr machine).2) slot =
      addr + BitVec.ofNat 64 (tableOffset slot) := by
  obtain ⟨low, upper⟩ := remapPort_header allocated machine sataActive commandIssue inside
  rw [programmed, low, upper, joinWords_halves]

end Remapped

/-- The tables of neighbouring slots overlap. -/
theorem tables_overlap (addr : BitVec 64) {slot : Nat} (inside : slot < 31) :
    ¬ Disjoint (span (addr + BitVec.ofNat 64 (tableOffset slot)) COMMAND_TABLE_SIZE)
      (span (addr + BitVec.ofNat 64 (tableOffset (slot + 1))) COMMAND_TABLE_SIZE) := by
  have size : COMMAND_TABLE_SIZE = 256 := rfl
  have place : tableOffset (slot + 1) = tableOffset slot + 32 := rfl
  have bounded : tableOffset slot < 2 ^ 12 := by
    rw [tableOffset, COMMAND_HEADER_SIZE]
    omega
  intro apart
  -- The first byte of the next table is in both.
  have next : addr + BitVec.ofNat 64 (tableOffset (slot + 1)) ∈
      span (addr + BitVec.ofNat 64 (tableOffset (slot + 1))) COMMAND_TABLE_SIZE := by
    rw [mem_span_offset (by omega), offset_distance addr (by omega)]
    omega
  refine Set.disjoint_left.mp apart ?_ next
  rw [mem_span_offset (by omega), offset_distance addr (by omega)]
  omega

/-- Every table lies behind the command list and the area for the frames. -/
theorem tables_behind (addr : BitVec 64) {slot : Nat} (inside : slot < 32) :
    Disjoint (span (addr + BitVec.ofNat 64 (tableOffset slot)) COMMAND_TABLE_SIZE) (span addr 1024) ∧
    Disjoint (span (addr + BitVec.ofNat 64 (tableOffset slot)) COMMAND_TABLE_SIZE)
      (span (addr + 1024) 256) := by
  have size : COMMAND_TABLE_SIZE = 256 := rfl
  have bounded : tableOffset slot < 2 ^ 12 := by
    rw [tableOffset, COMMAND_HEADER_SIZE]
    omega
  have behind : 1024 + 256 ≤ tableOffset slot := Nat.le_add_right _ _
  constructor
  · have list : Disjoint (span (addr + BitVec.ofNat 64 0) 1024)
        (span (addr + BitVec.ofNat 64 (tableOffset slot)) COMMAND_TABLE_SIZE) :=
      span_apart (by omega) (by omega)
    rw [BitVec.add_zero] at list
    exact list.symm
  · have area : Disjoint (span (addr + BitVec.ofNat 64 1024) 256)
        (span (addr + BitVec.ofNat 64 (tableOffset slot)) COMMAND_TABLE_SIZE) :=
      span_apart (by omega) (by omega)
    exact area.symm

/-- No table that is programmed meets the command list or the area for the frames. -/
theorem programmed_behind {addr : BitVec 64} (allocated : addr ≠ 0) (machine : Machine)
    (sataActive commandIssue : BitVec 32) {slot : Nat} (inside : slot < 32) :
    let after := outstanding sataActive commandIssue (remapPort addr machine).2
    Disjoint (span (programmed after slot) COMMAND_TABLE_SIZE) (span (commandList after.port) 1024) ∧
      Disjoint (span (programmed after slot) COMMAND_TABLE_SIZE) (span (fisArea after.port) 256) := by
  dsimp only
  rw [remapPort_programmed allocated machine _ _ inside, remapPort_list allocated,
    remapPort_fis allocated]
  exact tables_behind addr inside

/-! ## What holds of the slot that is returned -/

/-- A slot that is free is returned if one of the first nine is. -/
theorem getFreeSlot_free_iff (port : HbaPort) :
    (∀ slot : Nat, getFreeSlot port = slot → ¬ Busy port slot) ↔ ∃ slot ≤ 8, ¬ Busy port slot := by
  obtain ⟨slot, inside, found, busy, free⟩ := getFreeSlot_first port
  constructor
  · exact fun returned => ⟨slot, inside, returned slot found⟩
  · rintro ⟨other, other_inside, other_free⟩ returned same
    have same : slot = returned := Int.ofNat_inj.mp (found.symm.trans same)
    rw [← same]
    by_cases low : slot < 8
    · exact free low
    · have last : other = slot := by
        by_contra distinct
        exact other_free (busy other (by omega))
      exact last ▸ other_free

/-- The table that the driver finds, if the block from `kzalloc` does not wrap, is the one
that was programmed if that one lies below 4 GiB. -/
theorem commandTable_iff {addr : BitVec 64} (allocated : addr ≠ 0) (machine : Machine)
    (sataActive commandIssue : BitVec 32) {slot : Nat} (inside : slot < 32)
    (returned : getFreeSlot (outstanding sataActive commandIssue (remapPort addr machine).2).port = slot)
    (block : addr.toNat + tableOffset slot < 2 ^ 64) :
    commandTable (outstanding sataActive commandIssue (remapPort addr machine).2) =
        programmed (outstanding sataActive commandIssue (remapPort addr machine).2) slot ↔
      addr.toNat + tableOffset slot < 2 ^ 32 := by
  have list := remapPort_list allocated machine sataActive commandIssue
  have table := remapPort_programmed allocated machine sataActive commandIssue inside
  have header := (remapPort_header allocated machine sataActive commandIssue inside).1
  have place : (addr + BitVec.ofNat 64 (tableOffset slot)).toNat = addr.toNat + tableOffset slot := by
    rw [BitVec.toNat_add, BitVec.toNat_ofNat]
    omega
  generalize outstanding sataActive commandIssue (remapPort addr machine).2 = after at *
  rw [commandTable, cmdTable, upper_dropped, returned, cmdHeader, upper_dropped, table]
  constructor
  · intro found
    rw [← place, ← found, BitVec.toNat_setWidth]
    exact Nat.lt_of_le_of_lt (Nat.mod_le _ _) (BitVec.isLt _)
  · intro low
    have base : (after.port.commandListBase.setWidth 64 : BitVec 64) = addr := by
      have halves := joinWords_toNat after.port.commandListBaseUpper after.port.commandListBase
      apply BitVec.eq_of_toNat_eq
      rw [← commandList, list] at halves
      rw [BitVec.toNat_setWidth]
      omega
    have found : commandHeader.load after.memory (addr + BitVec.ofNat 64
        (COMMAND_HEADER_SIZE * ((slot : Nat) : Int).toNat)) = slotHeader after slot := by
      rw [slotHeader, list]
      rfl
    rw [base, found, header]
    apply BitVec.eq_of_toNat_eq
    rw [BitVec.toNat_setWidth, lowWord_toNat, place]
    omega

theorem fisType_load (memory : BitVec 64 → UInt8) (address : BitVec 64) :
    (fisHost2Device.load memory address).fisType = memory address :=
  congrArg memory (BitVec.add_zero address)

/-- A command that is built clears the frame of the slot behind its own. -/
theorem neighbour_cleared {addr : BitVec 64} (allocated : addr ≠ 0) (machine : Machine)
    (sataActive commandIssue : BitVec 32) (virtualToPhysical : BitVec 64 → BitVec 64)
    (readings : Readings) (command : UInt8) (flag : BitVec 1) (lba total buffer : BitVec 64)
    (accepted : ¬ 0x3FFFFF < total * 512) {slot : Nat}
    (returned : getFreeSlot (outstanding sataActive commandIssue (remapPort addr machine).2).port = slot)
    (low : addr.toNat + tableOffset slot < 2 ^ 32) :
    let before := outstanding sataActive commandIssue (remapPort addr machine).2
    (fisHost2Device.load
      (transfer virtualToPhysical readings command flag lba total buffer before).2.memory
      (programmed before (slot + 1))).fisType = 0 := by
  obtain ⟨first, below, same, -⟩ := getFreeSlot_first
    (outstanding sataActive commandIssue (remapPort addr machine).2).port
  have inside : slot ≤ 8 := Int.ofNat_inj.mp (same.symm.trans returned) ▸ below
  have found := (commandTable_iff allocated machine sataActive commandIssue (by omega) returned
    (by omega)).mpr low
  have next : programmed (outstanding sataActive commandIssue (remapPort addr machine).2) (slot + 1) =
      programmed (outstanding sataActive commandIssue (remapPort addr machine).2) slot +
        BitVec.ofNat 64 32 := by
    rw [remapPort_programmed allocated _ _ _ (by omega),
      remapPort_programmed allocated _ _ _ (by omega), BitVec.add_assoc, ← BitVec.ofNat_add]
    rfl
  dsimp only
  rw [transfer_built _ _ _ _ _ _ _ _ accepted, built, found, next, fisType_load]
  exact prepareFis_behind _ _ _ _ _ (by decide) (by decide)

/-- The slot for the next command, its table as the driver finds it, and the other tables,
the command list and the area for the frames. -/
structure SlotSafe (machine : Machine) : Prop where
  idle : ∀ slot : Nat, getFreeSlot machine.port = slot → slot < 32 ∧ ¬ Busy machine.port slot
  full : getFreeSlot machine.port < 0 → ∀ slot < 32, Busy machine.port slot
  table : ∀ slot : Nat, getFreeSlot machine.port = slot →
    commandTable machine = programmed machine slot
  tables : ∀ slot : Nat, getFreeSlot machine.port = slot → ∀ other < 32, other ≠ slot →
    Disjoint (span (programmed machine slot) COMMAND_TABLE_SIZE)
      (span (programmed machine other) COMMAND_TABLE_SIZE)
  list : ∀ slot : Nat, getFreeSlot machine.port = slot →
    Disjoint (span (programmed machine slot) COMMAND_TABLE_SIZE)
      (span (commandList machine.port) 1024)
  area : ∀ slot : Nat, getFreeSlot machine.port = slot →
    Disjoint (span (programmed machine slot) COMMAND_TABLE_SIZE)
      (span (fisArea machine.port) 256)

/-- Whatever slots are taken, the table of the slot that is returned overlaps the next one. -/
theorem slot_never_safe (addr : BitVec 64) (allocated : addr ≠ 0) (machine : Machine)
    (sataActive commandIssue : BitVec 32) : (remapPort addr machine).1 = SUCCESS ∧
      ¬ SlotSafe (outstanding sataActive commandIssue (remapPort addr machine).2) := by
  refine ⟨remapPort_success allocated machine, fun safe => ?_⟩
  obtain ⟨slot, inside, returned, -⟩ := getFreeSlot_first
    (outstanding sataActive commandIssue (remapPort addr machine).2).port
  have apart := safe.tables slot returned (slot + 1) (by omega) (Nat.succ_ne_self slot)
  rw [remapPort_programmed allocated machine _ _ (by omega),
    remapPort_programmed allocated machine _ _ (by omega)] at apart
  exact tables_overlap addr (by omega) apart

theorem first_slot_unsafe : (remapPort 0x200000 idlePort).1 = SUCCESS ∧
    ¬ SlotSafe (outstanding 0 0 (remapPort 0x200000 idlePort).2) :=
  slot_never_safe 0x200000 (by decide) idlePort 0 0

/-- A port set up behind 4 GiB, with commands in the first nine slots. -/
def nineTaken : Machine := outstanding 0 0x1FF (remapPort 0x100000000 idlePort).2

/-- The ninth slot is returned again, its table is not found, and it overlaps the next one. -/
theorem ninth_slot_reused :
    getFreeSlot nineTaken.port = (8 : Nat) ∧ Busy nineTaken.port 8 ∧
    commandTable nineTaken ≠ programmed nineTaken 8 ∧
    ¬ Disjoint (span (programmed nineTaken 8) COMMAND_TABLE_SIZE)
      (span (programmed nineTaken 9) COMMAND_TABLE_SIZE) ∧
    ¬ SlotSafe nineTaken := by
  have allocated : (0x100000000 : BitVec 64) ≠ 0 := by decide
  have returned : getFreeSlot nineTaken.port = (8 : Nat) := rfl
  have busy : Busy nineTaken.port 8 := .inr rfl
  have overlap : ¬ Disjoint (span (programmed nineTaken 8) COMMAND_TABLE_SIZE)
      (span (programmed nineTaken 9) COMMAND_TABLE_SIZE) := by
    rw [nineTaken, remapPort_programmed allocated idlePort 0 0x1FF (by decide),
      remapPort_programmed allocated idlePort 0 0x1FF (by decide)]
    exact tables_overlap 0x100000000 (by decide)
  refine ⟨returned, busy, ?_, overlap, fun safe => (safe.idle 8 returned).2 busy⟩
  rw [Ne, nineTaken, commandTable_iff allocated idlePort 0 0x1FF (by decide) returned (by decide)]
  decide

end BobaOS.Ahci
