import Mathlib.Data.Nat.Find
import BobaOS.Disk.AhciDriver
import BobaOS.Library.BitFields

/-!
# The commands that are built

`ahciRead` and `ahciWrite` take a slot, follow its header to the command table, and make up
the frame for the disk and the region of the data there. Two of the six bytes of the frame
that carry the number of the first sector are shifted by the wrong distance.
-/

namespace BobaOS.Ahci

open ByteStore PackedRecords

/-! ## Slots -/

/-- The lowest bit of a word is tested by a mask. -/
theorem lowest_clear {n : Nat} (slots : BitVec (n + 1)) :
    slots &&& 1 = 0 ↔ slots.getLsbD 0 = false := by
  rw [← BitVec.toNat_inj, BitVec.toNat_and, BitVec.getLsbD, Nat.testBit_zero]
  simp [Nat.and_one_is_mod]

/-- The loop returns the first slot that is clear. -/
theorem getFreeSlotLoop_first (left : Nat) : ∀ i (slots : BitVec 8) (k : Nat), k < left →
    slots.getLsbD k = false → (∀ j < k, slots.getLsbD j = true) →
    getFreeSlotLoop left i slots = (i + k : Nat) := by
  induction left with
  | zero => exact fun _ _ k none_left => absurd none_left (Nat.not_lt_zero k)
  | succ left ih =>
    intro i slots k inside clear busy
    rw [getFreeSlotLoop]
    cases k with
    | zero => rw [if_pos ((lowest_clear slots).mpr clear), Nat.add_zero]
    | succ k =>
      have first : ¬ slots &&& 1 = 0 := by
        rw [lowest_clear, busy 0 (Nat.succ_pos k)]
        decide
      have shifted (j : Nat) : (slots >>> 1).getLsbD j = slots.getLsbD (j + 1) := by
        rw [BitVec.getLsbD_ushiftRight, Nat.add_comm]
      rw [if_neg first, ih (i + 1) (slots >>> 1) k (by omega) (by rw [shifted, clear])]
      · congr 1
        omega
      · intro j below
        rw [shifted, busy (j + 1) (by omega)]

/-- A slot with a command, or one that is active. -/
def Busy (port : HbaPort) (slot : Nat) : Prop :=
  port.sataActive.getLsbD slot = true ∨ port.commandIssue.getLsbD slot = true

theorem busy_iff (port : HbaPort) {slot : Nat} (inside : slot < 8) :
    ((port.sataActive ||| port.commandIssue).setWidth 8).getLsbD slot = true ↔ Busy port slot := by
  rw [BitVec.getLsbD_setWidth, BitVec.getLsbD_or, Busy]
  simp [inside]

/-- The first of the lowest eight slots that is free is returned, and the slot behind them
if none is. -/
theorem getFreeSlot_first (port : HbaPort) : ∃ slot ≤ 8, getFreeSlot port = (slot : Nat) ∧
    (∀ j < slot, Busy port j) ∧ (slot < 8 → ¬ Busy port slot) := by
  let slots := (port.sataActive ||| port.commandIssue).setWidth 8
  have outside : slots.getLsbD 8 = false := BitVec.getLsbD_of_ge slots 8 (Nat.le_refl 8)
  have found : ∃ slot, slots.getLsbD slot = false := ⟨8, outside⟩
  have clear := Nat.find_spec found
  have inside : Nat.find found ≤ 8 := Nat.find_min' found outside
  have busy : ∀ j < Nat.find found, slots.getLsbD j = true := fun j below =>
    Bool.of_not_eq_false (Nat.find_min found below)
  refine ⟨Nat.find found, inside, ?_, fun j below => ?_, fun low => ?_⟩
  · rw [getFreeSlot, getFreeSlotLoop_first 32 0 slots (Nat.find found) (by omega) clear busy,
      Nat.zero_add]
  · exact (busy_iff port (by omega)).mp (busy j below)
  · rw [← busy_iff port low, clear]
    decide

theorem getFreeSlot_nonneg (port : HbaPort) : ¬ getFreeSlot port < 0 := by
  obtain ⟨slot, -, found, -⟩ := getFreeSlot_first port
  rw [found]
  exact Int.not_lt.mpr (Int.natCast_nonneg slot)

/-! ## Commands -/

/-- The table of the slot that the next command takes, as the driver finds it. -/
def commandTable (machine : Machine) : BitVec 64 :=
  cmdTable (commandHeader.load machine.memory
    (cmdHeader machine.port (getFreeSlot machine.port).toNat))

/-- Making up a header does not change its pointer. -/
theorem prepareHeader_table (flag : BitVec 1) (memory : BitVec 64 → UInt8) (address : BitVec 64) :
    cmdTable (commandHeader.load (prepareHeader flag memory address) address) =
      cmdTable (commandHeader.load memory address) := by
  rw [prepareHeader, Layout.load_save _ _ _ (by decide)]
  rfl

/-- The memory after a command has been built. -/
def built (physical : BitVec 64) (command : UInt8) (flag : BitVec 1) (lba total : BitVec 64)
    (machine : Machine) : BitVec 64 → UInt8 :=
  let header := cmdHeader machine.port (getFreeSlot machine.port).toNat
  let table := commandTable machine
  prepareFis command (prepareRegion (prepareHeader flag machine.memory header) table physical
    (total * 512)) table lba total

/-- A transfer that is not too long builds its command, however long it waits. -/
theorem transfer_built (virtualToPhysical : BitVec 64 → BitVec 64) (readings : Readings)
    (command : UInt8) (flag : BitVec 1) (lba total buffer : BitVec 64) (machine : Machine)
    (accepted : ¬ 0x3FFFFF < total * 512) :
    (transfer virtualToPhysical readings command flag lba total buffer machine).2.memory =
      built (virtualToPhysical buffer) command flag lba total machine := by
  have served : ¬ getFreeSlot { machine.port with interruptStatus := 0 } < 0 :=
    getFreeSlot_nonneg _
  have table := prepareHeader_table flag machine.memory
    (cmdHeader machine.port (getFreeSlot machine.port).toNat)
  simp only [transfer, if_neg accepted, if_neg served]
  rw [built, commandTable, ← table]
  by_cases ready : awaitReady readings.taskFileData = true
  · rw [if_pos ready]
    rfl
  · rw [if_neg ready]
    rfl

/-- The frame of a command, as a whole. -/
def commandFis (command : UInt8) (lba total : BitVec 64) : FisHost2Device where
  fisType := FIS_TYPE_REG_H2D
  pmport := 0
  reserved0 := 0
  c := 1
  command := command
  featureLow := 0
  lba0 := .ofNat lba.toNat
  lba1 := .ofNat (lba >>> 8).toNat
  lba2 := .ofNat (lba >>> 16).toNat
  lba3 := .ofNat (lba >>> 16).toNat
  lba4 := .ofNat (lba >>> 32).toNat
  lba5 := .ofNat (lba >>> 48).toNat
  device := 0x40
  featureHigh := 0
  countLow := .ofNat (total &&& 0xFF).toNat
  countHigh := .ofNat (total >>> 8 &&& 0xFF).toNat
  icc := 0
  control := 0

theorem prepareFis_load (command : UInt8) (memory : BitVec 64 → UInt8) (table lba total : BitVec 64) :
    fisHost2Device.load (prepareFis command memory table lba total) table =
      commandFis command lba total := by
  have cleared : fisHost2Device.load (write memory table 64 fun _ => 0) table =
      FisHost2Device.parse fun _ => 0 := by
    refine fisHost2Device.parse_congr (window _ table) (fun _ => 0) fun offset inside => ?_
    exact window_write (Nat.lt_trans inside (by decide)) (by decide)
  rw [prepareFis, Layout.load_save _ _ _ (by decide), cleared]
  rfl

/-- What is behind the frame is cleared. -/
theorem prepareFis_behind (command : UInt8) (memory : BitVec 64 → UInt8)
    (table lba total : BitVec 64) {offset : Nat} (behind : 16 ≤ offset) (inside : offset < 64) :
    prepareFis command memory table lba total (table + BitVec.ofNat 64 offset) = 0 := by
  have distance := offset_distance table (show offset < 2 ^ 64 by omega)
  have outside : table + BitVec.ofNat 64 offset ∉ span table fisHost2Device.size := by
    show ¬ (table + BitVec.ofNat 64 offset - table).toNat < 16
    omega
  rw [prepareFis, Layout.save, write_outside outside]
  exact window_write inside (by decide)

/-- The frame does not meet the regions behind it. -/
theorem prepareFis_region (command : UInt8) (memory : BitVec 64 → UInt8)
    (table lba total : BitVec 64) :
    physicalRegionDescriptor.load (prepareFis command memory table lba total) (table + 128) =
      physicalRegionDescriptor.load memory (table + 128) := by
  have apart {length : Nat} (before : length ≤ 128) :
      Disjoint (span table length) (span (table + 128) physicalRegionDescriptor.size) := by
    have blocks : Disjoint (span (table + BitVec.ofNat 64 0) length)
        (span (table + BitVec.ofNat 64 128) 16) := span_apart (by omega) (by decide)
    rwa [BitVec.add_zero] at blocks
  rw [prepareFis, Layout.save, Layout.load_write _ _ _ (by decide) (apart (by decide)),
    Layout.load_write _ _ _ (by decide) (apart (by decide))]

/-- The region of the data, with what is not set kept. -/
theorem prepareRegion_load (memory : BitVec 64 → UInt8) (table physical totalData : BitVec 64) :
    physicalRegionDescriptor.load (prepareRegion memory table physical totalData) (table + 128) =
      { physicalRegionDescriptor.load memory (table + 128) with
        dataBaseAddress := physical.setWidth 32
        dataBaseAddressUpper := (physical >>> 32).setWidth 32
        dataBaseCount := (totalData - 1).setWidth 22
        interruptOnCompletion := 1 } :=
  Layout.load_save _ _ _ (by decide) _

/-! ## Transfers -/

/-- The number of the first sector. -/
def FisHost2Device.lba (fis : FisHost2Device) : Nat :=
  fis.lba0.toNat + fis.lba1.toNat * 2 ^ 8 + fis.lba2.toNat * 2 ^ 16 + fis.lba3.toNat * 2 ^ 24 +
    fis.lba4.toNat * 2 ^ 32 + fis.lba5.toNat * 2 ^ 40

/-- The number of sectors. -/
def FisHost2Device.count (fis : FisHost2Device) : Nat :=
  fis.countLow.toNat + fis.countHigh.toNat * 2 ^ 8

/-- The frame and the region in a command table denote a transfer of sectors of 512 bytes. -/
structure Denotes (memory : BitVec 64 → UInt8) (table : BitVec 64) (lba total : Nat) : Prop where
  lba : (fisHost2Device.load memory table).lba = lba
  count : (fisHost2Device.load memory table).count = total
  bytes : (physicalRegionDescriptor.load memory (table + 128)).dataBaseCount.toNat + 1 = total * 512

/-- The bytes from 24 on are those from 16 on, and there are none from 40 on. -/
def Shifted (lba : Nat) : Prop := lba / 2 ^ 24 % 2 ^ 8 = lba / 2 ^ 16 % 2 ^ 8 ∧ lba < 2 ^ 40

/-- A number of six bytes. -/
theorem number_of_bytes {number : Nat} (small : number < 2 ^ 48) :
    number % 2 ^ 8 + number / 2 ^ 8 % 2 ^ 8 * 2 ^ 8 + number / 2 ^ 16 % 2 ^ 8 * 2 ^ 16 +
      number / 2 ^ 24 % 2 ^ 8 * 2 ^ 24 + number / 2 ^ 32 % 2 ^ 8 * 2 ^ 32 +
      number / 2 ^ 40 % 2 ^ 8 * 2 ^ 40 = number := by
  have next (k : Nat) : number / 2 ^ (k + 8) = number / 2 ^ k / 2 ^ 8 := by
    rw [Nat.div_div_eq_div_mul, Nat.pow_add]
  rw [next 32, next 24, next 16, next 8, next 0]
  omega

/-- The fourth byte replaced by the third one, and the sixth one by what is above it. -/
theorem shifted_bytes {number : Nat} (small : number < 2 ^ 48) :
    number % 2 ^ 8 + number / 2 ^ 8 % 2 ^ 8 * 2 ^ 8 + number / 2 ^ 16 % 2 ^ 8 * 2 ^ 16 +
      number / 2 ^ 16 % 2 ^ 8 * 2 ^ 24 + number / 2 ^ 32 % 2 ^ 8 * 2 ^ 32 +
      number / 2 ^ 48 % 2 ^ 8 * 2 ^ 40 = number ↔ Shifted number := by
  have bytes := number_of_bytes small
  have above : number / 2 ^ 48 = 0 := Nat.div_eq_of_lt small
  have sixth : number / 2 ^ 40 % 2 ^ 8 = number / 2 ^ 40 := by omega
  have below : number < 2 ^ 40 ↔ number / 2 ^ 40 = 0 := by omega
  rw [Shifted, above, below]
  omega

section Numbers

variable {command : UInt8} {lba total : BitVec 64}

theorem commandFis_count (bounded : total.toNat ≤ 8191) :
    (commandFis command lba total).count = total.toNat := by
  have low : (total &&& 0xFF).toNat = total.toNat % 2 ^ 8 :=
    BitFields.toNat_and_mask total rfl
  have high : (total >>> 8 &&& 0xFF).toNat = total.toNat / 2 ^ 8 % 2 ^ 8 := by
    rw [BitFields.toNat_and_mask (k := 8) _ rfl, BitVec.toNat_ushiftRight, Nat.shiftRight_eq_div_pow]
  rw [FisHost2Device.count, commandFis, UInt8.toNat_ofNat', UInt8.toNat_ofNat', low, high]
  omega

theorem commandFis_lba (small : lba.toNat < 2 ^ 48) :
    (commandFis command lba total).lba = lba.toNat ↔ Shifted lba.toNat := by
  have byte (distance : Nat) : (UInt8.ofNat (lba >>> distance).toNat).toNat =
      lba.toNat / 2 ^ distance % 2 ^ 8 := by
    rw [UInt8.toNat_ofNat', BitVec.toNat_ushiftRight, Nat.shiftRight_eq_div_pow]
  have zeroth : (UInt8.ofNat lba.toNat).toNat = lba.toNat % 2 ^ 8 := UInt8.toNat_ofNat'
  rw [FisHost2Device.lba, commandFis]
  dsimp only
  rw [zeroth, byte, byte, byte, byte]
  exact shifted_bytes small

/-- The bytes of an accepted transfer fit into the counter of its region. -/
theorem total_bytes (some : 1 ≤ total.toNat) (bounded : total.toNat ≤ 8191) :
    ((total * 512 - 1).setWidth 22).toNat + 1 = total.toNat * 512 := by
  have bytes : (total * 512).toNat = total.toNat * 512 := by
    rw [BitVec.toNat_mul, show (512 : BitVec 64).toNat = 512 from rfl]
    omega
  have last : (total * 512 - 1).toNat = total.toNat * 512 - 1 := by
    rw [BitVec.toNat_sub_of_le, bytes]
    · rfl
    · rw [BitVec.le_def, bytes, show (1 : BitVec 64).toNat = 1 from rfl]
      omega
  rw [BitVec.toNat_setWidth, last]
  omega

theorem total_accepted (bounded : total.toNat ≤ 8191) : ¬ 0x3FFFFF < total * 512 := by
  rw [BitVec.lt_def, BitVec.toNat_mul, show (512 : BitVec 64).toNat = 512 from rfl,
    show (0x3FFFFF : BitVec 64).toNat = 0x3FFFFF from rfl]
  omega

/-- A command denotes its transfer, if the bytes of its number are. -/
theorem transfer_denotes (virtualToPhysical : BitVec 64 → BitVec 64) (readings : Readings)
    (flag : BitVec 1) (buffer : BitVec 64) (machine : Machine) (small : lba.toNat < 2 ^ 48)
    (some : 1 ≤ total.toNat) (bounded : total.toNat ≤ 8191) :
    Denotes (transfer virtualToPhysical readings command flag lba total buffer machine).2.memory
      (commandTable machine) lba.toNat total.toNat ↔ Shifted lba.toNat := by
  rw [transfer_built _ _ _ _ _ _ _ _ (total_accepted bounded), built]
  constructor
  · intro denoted
    have number := denoted.lba
    rwa [prepareFis_load, commandFis_lba small] at number
  · intro shifted
    constructor
    · rwa [prepareFis_load, commandFis_lba small]
    · rw [prepareFis_load, commandFis_count bounded]
    · rw [prepareFis_region, prepareRegion_load]
      exact total_bytes some bounded

end Numbers

/-- The commands that are built denote their transfers, if the bytes of the number of the
first sector that are shifted by the wrong distance are the right ones all the same. -/
theorem transfers_denoted_iff (virtualToPhysical : BitVec 64 → BitVec 64) (readings : Readings)
    (machine : Machine) (lba total buffer : BitVec 64) (small : lba.toNat < 2 ^ 48)
    (some : 1 ≤ total.toNat) (bounded : total.toNat ≤ 8191) :
    (Denotes (ahciRead virtualToPhysical readings lba total buffer machine).2.memory
        (commandTable machine) lba.toNat total.toNat ↔
      lba.toNat / 2 ^ 24 % 2 ^ 8 = lba.toNat / 2 ^ 16 % 2 ^ 8 ∧ lba.toNat < 2 ^ 40) ∧
    (Denotes (ahciWrite virtualToPhysical readings lba total buffer machine).2.memory
        (commandTable machine) lba.toNat total.toNat ↔
      lba.toNat / 2 ^ 24 % 2 ^ 8 = lba.toNat / 2 ^ 16 % 2 ^ 8 ∧ lba.toNat < 2 ^ 40) :=
  ⟨transfer_denotes _ _ _ _ _ small some bounded, transfer_denotes _ _ _ _ _ small some bounded⟩

/-- A port without commands. -/
def idlePort : Machine := ⟨⟨0, 0, 0, 0, 0, 0, 0, 0, 0⟩, fun _ => 0⟩

/-- The port, set up. -/
def ready : Machine := (remapPort 0x200000 idlePort).2

/-- The sector behind the first mebibyte is read and written. -/
theorem first_sectors_denoted :
    Denotes (ahciRead id ⟨[0], [(0, 0)]⟩ 2048 8 0x300000 ready).2.memory (commandTable ready) 2048 8 ∧
    Denotes (ahciWrite id ⟨[0], [(0, 0)]⟩ 2048 8 0x300000 ready).2.memory
      (commandTable ready) 2048 8 :=
  have denoted := transfers_denoted_iff id ⟨[0], [(0, 0)]⟩ ready 2048 8 0x300000
    (by decide) (by decide) (by decide)
  ⟨denoted.1.mpr (by decide), denoted.2.mpr (by decide)⟩

/-- The sector behind the first eight gibibytes is taken for the first one of the disk. -/
theorem sector_redirected :
    (fisHost2Device.load (ahciRead id ⟨[], []⟩ 0x1000000 1 0x300000 ready).2.memory
      (commandTable ready)).lba = 0 ∧
    ¬ Denotes (ahciRead id ⟨[], []⟩ 0x1000000 1 0x300000 ready).2.memory
      (commandTable ready) 0x1000000 1 ∧
    ¬ Denotes (ahciWrite id ⟨[], []⟩ 0x1000000 1 0x300000 ready).2.memory
      (commandTable ready) 0x1000000 1 := by
  have unshifted : ¬ Shifted 0x1000000 := by
    rw [Shifted]
    decide
  have misread := @transfer_denotes ATA_CMD_READ_DMA_EX 0x1000000 1 id ⟨[], []⟩ 0 0x300000 ready
    (by decide) (by decide) (by decide)
  have miswritten := @transfer_denotes ATA_CMD_WRITE_DMA_EX 0x1000000 1 id ⟨[], []⟩ 1 0x300000 ready
    (by decide) (by decide) (by decide)
  refine ⟨?_, fun denoted => unshifted (misread.mp denoted),
    fun denoted => unshifted (miswritten.mp denoted)⟩
  rw [ahciRead, transfer_built _ _ _ _ _ _ _ _ (total_accepted (by decide)), built,
    prepareFis_load]
  rfl

end BobaOS.Ahci
