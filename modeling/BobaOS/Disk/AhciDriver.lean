import BobaOS.Library.PackedRecords
import BobaOS.Status

/-!
# The AHCI driver

A command to a disk is prepared in memory: its header in the command list of the port, and
a command table that the header points to, with the frame for the disk and the regions of
the data. `remapPort` lays the list and the tables out in one block, and `ahciRead` and
`ahciWrite` follow the pointers of the registers and the headers.
-/

namespace BobaOS.Ahci

open ByteStore PackedRecords

def PORT_CMD_FIS_RECEIVE_ENABLE : BitVec 32 := 0x0010
def PORT_CMD_START_PORT : BitVec 32 := 0x0001
def ATA_DEV_BUSY : BitVec 32 := 0x80
def ATA_DEV_DRQ : BitVec 32 := 0x08
def ATA_CMD_READ_DMA_EX : UInt8 := 0x25
def ATA_CMD_WRITE_DMA_EX : UInt8 := 0x35
def FIS_TYPE_REG_H2D : UInt8 := 0x27
def BOBAOS_MAX_AHCI_PRDT_ENTRIES : Nat := 8

/-! ## Records -/

/-- `struct hba_port`: the registers that are read or written. -/
structure HbaPort where
  commandListBase : BitVec 32
  commandListBaseUpper : BitVec 32
  fisBase : BitVec 32
  fisBaseUpper : BitVec 32
  interruptStatus : BitVec 32
  interruptEnable : BitVec 32
  commandAndStatus : BitVec 32
  sataActive : BitVec 32
  commandIssue : BitVec 32

/-- `struct commandHeader`, without the four reserved words at its end. -/
structure CommandHeader where
  commandFisLength : BitVec 5
  atapi : BitVec 1
  write : BitVec 1
  prefetchable : BitVec 1
  reset : BitVec 1
  bist : BitVec 1
  clearBusy : BitVec 1
  rsv0 : BitVec 1
  portMultiplierPort : BitVec 4
  physicalRegionDescriptorTableLength : BitVec 16
  physicalRegionDescriptorTableBytesTransferred : BitVec 32
  commandTableBaseAddress : BitVec 32
  commandTableBaseAddressUpper : BitVec 32

/-- `struct physicalRegionDescriptorTable`: one region of the data. -/
structure PhysicalRegionDescriptor where
  dataBaseAddress : BitVec 32
  dataBaseAddressUpper : BitVec 32
  reserved0 : BitVec 32
  dataBaseCount : BitVec 22
  reserved1 : BitVec 9
  interruptOnCompletion : BitVec 1

/-- `struct fisHost2Device`, without the reserved word at its end. -/
structure FisHost2Device where
  fisType : UInt8
  pmport : BitVec 4
  reserved0 : BitVec 3
  c : BitVec 1
  command : UInt8
  featureLow : UInt8
  lba0 : UInt8
  lba1 : UInt8
  lba2 : UInt8
  device : UInt8
  lba3 : UInt8
  lba4 : UInt8
  lba5 : UInt8
  featureHigh : UInt8
  countLow : UInt8
  countHigh : UInt8
  icc : UInt8
  control : UInt8

/-- `sizeof(struct commandHeader)`. -/
def COMMAND_HEADER_SIZE : Nat := 32
/-- `sizeof(struct fisHost2Device)`. -/
def FIS_SIZE : Nat := 20
/-- `sizeof(struct commandTable)`: the frame of 64 bytes, 16 bytes for ATAPI and 48 reserved
ones, and the regions. -/
def COMMAND_TABLE_SIZE : Nat := 128 + BOBAOS_MAX_AHCI_PRDT_ENTRIES * 16

/-! ## Layouts -/

def CommandHeader.bytes (header : CommandHeader) (offset : Nat) : UInt8 :=
  match offset with
  | 0 => .ofNat (header.commandFisLength.toNat + header.atapi.toNat * 2 ^ 5 +
      header.write.toNat * 2 ^ 6 + header.prefetchable.toNat * 2 ^ 7)
  | 1 => .ofNat (header.reset.toNat + header.bist.toNat * 2 + header.clearBusy.toNat * 2 ^ 2 +
      header.rsv0.toNat * 2 ^ 3 + header.portMultiplierPort.toNat * 2 ^ 4)
  | 2 => .ofNat header.physicalRegionDescriptorTableLength.toNat
  | 3 => .ofNat (header.physicalRegionDescriptorTableLength.toNat / 2 ^ 8)
  | offset =>
    if offset < 8 then
      wordBytes header.physicalRegionDescriptorTableBytesTransferred.toNat (offset - 4)
    else if offset < 12 then wordBytes header.commandTableBaseAddress.toNat (offset - 8)
    else wordBytes header.commandTableBaseAddressUpper.toNat (offset - 12)

def CommandHeader.parse (bytes : Nat → UInt8) : CommandHeader where
  commandFisLength := .ofNat 5 (bytes 0).toNat
  atapi := .ofNat 1 ((bytes 0).toNat / 2 ^ 5)
  write := .ofNat 1 ((bytes 0).toNat / 2 ^ 6)
  prefetchable := .ofNat 1 ((bytes 0).toNat / 2 ^ 7)
  reset := .ofNat 1 (bytes 1).toNat
  bist := .ofNat 1 ((bytes 1).toNat / 2)
  clearBusy := .ofNat 1 ((bytes 1).toNat / 2 ^ 2)
  rsv0 := .ofNat 1 ((bytes 1).toNat / 2 ^ 3)
  portMultiplierPort := .ofNat 4 ((bytes 1).toNat / 2 ^ 4)
  physicalRegionDescriptorTableLength := .ofNat 16 ((bytes 2).toNat + (bytes 3).toNat * 2 ^ 8)
  physicalRegionDescriptorTableBytesTransferred := .ofNat 32 (readWord bytes 4)
  commandTableBaseAddress := .ofNat 32 (readWord bytes 8)
  commandTableBaseAddressUpper := .ofNat 32 (readWord bytes 12)

/-- The counter and the flag at the end of a region share a word. -/
def PhysicalRegionDescriptor.last (region : PhysicalRegionDescriptor) : Nat :=
  region.dataBaseCount.toNat + region.reserved1.toNat * 2 ^ 22 +
    region.interruptOnCompletion.toNat * 2 ^ 31

def PhysicalRegionDescriptor.bytes (region : PhysicalRegionDescriptor) (offset : Nat) : UInt8 :=
  if offset < 4 then wordBytes region.dataBaseAddress.toNat offset
  else if offset < 8 then wordBytes region.dataBaseAddressUpper.toNat (offset - 4)
  else if offset < 12 then wordBytes region.reserved0.toNat (offset - 8)
  else wordBytes region.last (offset - 12)

def PhysicalRegionDescriptor.parse (bytes : Nat → UInt8) : PhysicalRegionDescriptor where
  dataBaseAddress := .ofNat 32 (readWord bytes 0)
  dataBaseAddressUpper := .ofNat 32 (readWord bytes 4)
  reserved0 := .ofNat 32 (readWord bytes 8)
  dataBaseCount := .ofNat 22 (readWord bytes 12)
  reserved1 := .ofNat 9 (readWord bytes 12 / 2 ^ 22)
  interruptOnCompletion := .ofNat 1 (readWord bytes 12 / 2 ^ 31)

def FisHost2Device.bytes (fis : FisHost2Device) (offset : Nat) : UInt8 :=
  match offset with
  | 0 => fis.fisType
  | 1 => .ofNat (fis.pmport.toNat + fis.reserved0.toNat * 2 ^ 4 + fis.c.toNat * 2 ^ 7)
  | 2 => fis.command
  | 3 => fis.featureLow
  | 4 => fis.lba0
  | 5 => fis.lba1
  | 6 => fis.lba2
  | 7 => fis.device
  | 8 => fis.lba3
  | 9 => fis.lba4
  | 10 => fis.lba5
  | 11 => fis.featureHigh
  | 12 => fis.countLow
  | 13 => fis.countHigh
  | 14 => fis.icc
  | _ => fis.control

def FisHost2Device.parse (bytes : Nat → UInt8) : FisHost2Device where
  fisType := bytes 0
  pmport := .ofNat 4 (bytes 1).toNat
  reserved0 := .ofNat 3 ((bytes 1).toNat / 2 ^ 4)
  c := .ofNat 1 ((bytes 1).toNat / 2 ^ 7)
  command := bytes 2
  featureLow := bytes 3
  lba0 := bytes 4
  lba1 := bytes 5
  lba2 := bytes 6
  device := bytes 7
  lba3 := bytes 8
  lba4 := bytes 9
  lba5 := bytes 10
  featureHigh := bytes 11
  countLow := bytes 12
  countHigh := bytes 13
  icc := bytes 14
  control := bytes 15

/-- A byte of flags is the number of them. -/
theorem toNat_byte {number : Nat} (small : number < 2 ^ 8) : (UInt8.ofNat number).toNat = number :=
  UInt8.toNat_ofNat_of_lt' small

theorem CommandHeader.parse_bytes (header : CommandHeader) :
    CommandHeader.parse header.bytes = header := by
  have flags := header.commandFisLength.isLt
  have atapi := header.atapi.isLt
  have write := header.write.isLt
  have prefetchable := header.prefetchable.isLt
  have reset := header.reset.isLt
  have bist := header.bist.isLt
  have clearBusy := header.clearBusy.isLt
  have rsv0 := header.rsv0.isLt
  have portMultiplierPort := header.portMultiplierPort.isLt
  have regions := header.physicalRegionDescriptorTableLength.isLt
  have low : (header.bytes 0).toNat = header.commandFisLength.toNat + header.atapi.toNat * 2 ^ 5 +
      header.write.toNat * 2 ^ 6 + header.prefetchable.toNat * 2 ^ 7 :=
    toNat_byte (by omega)
  have high : (header.bytes 1).toNat = header.reset.toNat + header.bist.toNat * 2 +
      header.clearBusy.toNat * 2 ^ 2 + header.rsv0.toNat * 2 ^ 3 +
      header.portMultiplierPort.toNat * 2 ^ 4 :=
    toNat_byte (by omega)
  have length : (header.bytes 2).toNat + (header.bytes 3).toNat * 2 ^ 8 =
      header.physicalRegionDescriptorTableLength.toNat := by
    rw [bytes, bytes, UInt8.toNat_ofNat', UInt8.toNat_ofNat']
    omega
  have transferred := @word_of_bytes header.bytes 4
    header.physicalRegionDescriptorTableBytesTransferred rfl rfl rfl rfl
  have base := @word_of_bytes header.bytes 8 header.commandTableBaseAddress rfl rfl rfl rfl
  have upper := @word_of_bytes header.bytes 12 header.commandTableBaseAddressUpper rfl rfl rfl rfl
  rw [parse, low, high, length, transferred, base, upper]
  congr 1 <;> apply ofNat_of_mod <;> omega

theorem PhysicalRegionDescriptor.parse_bytes (region : PhysicalRegionDescriptor) :
    PhysicalRegionDescriptor.parse region.bytes = region := by
  have count := region.dataBaseCount.isLt
  have reserved1 := region.reserved1.isLt
  have interrupt := region.interruptOnCompletion.isLt
  have address := @word_of_bytes region.bytes 0 region.dataBaseAddress rfl rfl rfl rfl
  have upper := @word_of_bytes region.bytes 4 region.dataBaseAddressUpper rfl rfl rfl rfl
  have reserved0 := @word_of_bytes region.bytes 8 region.reserved0 rfl rfl rfl rfl
  have last : readWord region.bytes 12 = region.last := by
    refine readWord_of ?_ fun offset _ => ?_
    · rw [PhysicalRegionDescriptor.last]
      omega
    · rw [bytes, if_neg (by omega), if_neg (by omega), if_neg (by omega), Nat.add_sub_cancel_left]
  rw [parse, address, upper, reserved0, last, PhysicalRegionDescriptor.last]
  congr 1 <;> apply ofNat_of_mod <;> omega

theorem FisHost2Device.parse_bytes (fis : FisHost2Device) :
    FisHost2Device.parse fis.bytes = fis := by
  have pmport := fis.pmport.isLt
  have reserved0 := fis.reserved0.isLt
  have c := fis.c.isLt
  have flags : (fis.bytes 1).toNat =
      fis.pmport.toNat + fis.reserved0.toNat * 2 ^ 4 + fis.c.toNat * 2 ^ 7 :=
    toNat_byte (by omega)
  rw [parse, flags]
  congr 1 <;> apply ofNat_of_mod <;> omega

def commandHeader : Layout CommandHeader where
  size := 16
  bytes := CommandHeader.bytes
  parse := CommandHeader.parse
  parse_congr left right same := by
    rw [CommandHeader.parse, CommandHeader.parse, same 0 (by decide), same 1 (by decide),
      same 2 (by decide), same 3 (by decide), readWord_same same 4 (by decide),
      readWord_same same 8 (by decide), readWord_same same 12 (by decide)]
  parse_bytes := CommandHeader.parse_bytes

def physicalRegionDescriptor : Layout PhysicalRegionDescriptor where
  size := 16
  bytes := PhysicalRegionDescriptor.bytes
  parse := PhysicalRegionDescriptor.parse
  parse_congr left right same := by
    rw [PhysicalRegionDescriptor.parse, PhysicalRegionDescriptor.parse,
      readWord_same same 0 (by decide), readWord_same same 4 (by decide),
      readWord_same same 8 (by decide), readWord_same same 12 (by decide)]
  parse_bytes := PhysicalRegionDescriptor.parse_bytes

def fisHost2Device : Layout FisHost2Device where
  size := 16
  bytes := FisHost2Device.bytes
  parse := FisHost2Device.parse
  parse_congr left right same := by
    have every (offset : Nat) (inside : offset < 16) : left offset = right offset :=
      same offset inside
    simp only [FisHost2Device.parse, every, Nat.reduceLT]
  parse_bytes := FisHost2Device.parse_bytes

/-! ## Ports -/

/-- A port and the memory. -/
structure Machine where
  port : HbaPort
  memory : BitVec 64 → UInt8

def getFreeSlotLoop : Nat → Nat → BitVec 8 → Code
  | 0, _, _ => -ENFOUND
  | left + 1, i, slots => if slots &&& 1 = 0 then i else getFreeSlotLoop left (i + 1) (slots >>> 1)

/-- The registers are put into a byte. -/
def getFreeSlot (port : HbaPort) : Code :=
  getFreeSlotLoop 32 0 ((port.sataActive ||| port.commandIssue).setWidth 8)

/-- What follows in the source, here and in `startCommandSending`, waits for the device. -/
def stopCommandSending (port : HbaPort) : HbaPort :=
  { port with commandAndStatus := port.commandAndStatus &&& ~~~PORT_CMD_START_PORT &&&
      ~~~PORT_CMD_FIS_RECEIVE_ENABLE }

def startCommandSending (port : HbaPort) : HbaPort :=
  { port with commandAndStatus := port.commandAndStatus ||| PORT_CMD_FIS_RECEIVE_ENABLE |||
      PORT_CMD_START_PORT }

def lowWord (address : BitVec 64) : BitVec 32 := (address &&& 0xFFFFFFFF).setWidth 32

def highWord (address : BitVec 64) : BitVec 32 := (address >>> 32 &&& 0xFFFFFFFF).setWidth 32

/-- The address in a pair of registers. -/
def joinWords (upper low : BitVec 32) : BitVec 64 := upper.setWidth 64 <<< 32 ||| low.setWidth 64

def remapPortLoop (cmdHeader : BitVec 64) :
    Nat → Nat → BitVec 64 → (BitVec 64 → UInt8) → BitVec 64 → UInt8
  | 0, _, _, memory => memory
  | left + 1, i, baseAddr, memory =>
    let address := cmdHeader + BitVec.ofNat 64 (COMMAND_HEADER_SIZE * i)
    let header := { commandHeader.load memory address with
      physicalRegionDescriptorTableLength := BitVec.ofNat 16 BOBAOS_MAX_AHCI_PRDT_ENTRIES
      commandTableBaseAddress := lowWord baseAddr
      commandTableBaseAddressUpper := highWord baseAddr }
    remapPortLoop cmdHeader left (i + 1) (baseAddr + BitVec.ofNat 64 COMMAND_HEADER_SIZE)
      (commandHeader.save memory address header)

/-- The address is the one from `kzalloc`. -/
def remapPort (addr : BitVec 64) (machine : Machine) : Code × Machine :=
  let port := stopCommandSending machine.port
  if addr = 0 then (-ENMEM, { machine with port := port })
  else
    let port := { port with
      interruptEnable := 0xFFFFFFFF
      commandListBase := lowWord addr
      commandListBaseUpper := highWord addr
      fisBase := lowWord (addr + 1024)
      fisBaseUpper := highWord (addr + 1024) }
    let cmdHeader := joinWords port.commandListBaseUpper port.commandListBase
    let memory := remapPortLoop cmdHeader 32 0 (addr + 1024 + 256) machine.memory
    (SUCCESS, ⟨startCommandSending port, memory⟩)

/-! ## Commands -/

def zeroCommandHeaderFlags (header : CommandHeader) : CommandHeader :=
  { header with
    commandFisLength := 0
    atapi := 0
    write := 0
    prefetchable := 0
    reset := 0
    bist := 0
    clearBusy := 0
    portMultiplierPort := 0
    physicalRegionDescriptorTableLength := 0
    physicalRegionDescriptorTableBytesTransferred := 0 }

/-- The header of a slot, as `ahciRead` and `ahciWrite` find it. -/
def cmdHeader (port : HbaPort) (slot : Nat) : BitVec 64 :=
  (port.commandListBaseUpper.setWidth 64 >>> 32 ||| port.commandListBase.setWidth 64) +
    BitVec.ofNat 64 (COMMAND_HEADER_SIZE * slot)

/-- The table of a header, as they find it. -/
def cmdTable (header : CommandHeader) : BitVec 64 :=
  header.commandTableBaseAddressUpper.setWidth 64 >>> 32 |||
    header.commandTableBaseAddress.setWidth 64

/-- A header is made up for one region, to be written to the disk or read from it. -/
def prepareHeader (write : BitVec 1) (memory : BitVec 64 → UInt8) (address : BitVec 64) :
    BitVec 64 → UInt8 :=
  let zeroed := zeroCommandHeaderFlags (commandHeader.load memory address)
  commandHeader.save memory address { zeroed with
    commandFisLength := BitVec.ofNat 5 (FIS_SIZE / 4)
    write := write
    physicalRegionDescriptorTableLength := 1 }

/-- `physicalRegionDescriptorTableEntries` follow the frame of 64 bytes and 64 more. -/
def prepareRegion (memory : BitVec 64 → UInt8) (cmdTable dataBufferAddress totalData : BitVec 64) :
    BitVec 64 → UInt8 :=
  let entry := cmdTable + 128
  physicalRegionDescriptor.save memory entry { physicalRegionDescriptor.load memory entry with
    dataBaseAddress := dataBufferAddress.setWidth 32
    dataBaseAddressUpper := (dataBufferAddress >>> 32).setWidth 32
    dataBaseCount := (totalData - 1).setWidth 22
    interruptOnCompletion := 1 }

/-- The frame is cleared and made up. -/
def prepareFis (command : UInt8) (memory : BitVec 64 → UInt8) (cmdTable lba total : BitVec 64) :
    BitVec 64 → UInt8 :=
  let memory := write memory cmdTable 64 fun _ => 0x0
  fisHost2Device.save memory cmdTable { fisHost2Device.load memory cmdTable with
    fisType := FIS_TYPE_REG_H2D
    c := 1
    command := command
    lba0 := .ofNat lba.toNat
    lba1 := .ofNat (lba >>> 8).toNat
    lba2 := .ofNat (lba >>> 16).toNat
    lba3 := .ofNat (lba >>> 16).toNat
    lba4 := .ofNat (lba >>> 32).toNat
    lba5 := .ofNat (lba >>> 48).toNat
    device := .ofNat (1 <<< 6)
    countLow := .ofNat (total &&& 0xFF).toNat
    countHigh := .ofNat (total >>> 8 &&& 0xFF).toNat }

/-- What the device's registers read while a call waits, one reading after another:
`taskFileData`, and then `commandIssue` with `interruptStatus`. -/
structure Readings where
  taskFileData : List (BitVec 32)
  completion : List (BitVec 32 × BitVec 32)

/-- A call waits, as far as the readings tell, or has returned. -/
inductive Outcome where
  | waiting
  | returned (code : Code)
deriving DecidableEq

def awaitReady : List (BitVec 32) → Bool
  | [] => false
  | taskFileData :: readings =>
    if taskFileData &&& (ATA_DEV_BUSY ||| ATA_DEV_DRQ) ≠ 0 then awaitReady readings else true

def awaitCompletion (slot : Nat) : List (BitVec 32 × BitVec 32) → Outcome
  | [] => .waiting
  | (commandIssue, interruptStatus) :: readings =>
    if commandIssue &&& 1 <<< slot = 0 then .returned SUCCESS
    else if interruptStatus &&& 1 <<< 30 ≠ 0 then .returned (-EHARDWARE)
    else awaitCompletion slot readings

section Transfers

variable (virtualToPhysical : BitVec 64 → BitVec 64) (readings : Readings)

/-- What `ahciRead` and `ahciWrite` have in common. -/
def transfer (command : UInt8) (write : BitVec 1) (lba total buffer : BitVec 64)
    (machine : Machine) : Outcome × Machine :=
  let totalData := total * 512
  if 0x3FFFFF < totalData then (.returned (-ELONG), machine)
  else
    let port := { machine.port with interruptStatus := 0 }
    let slot := getFreeSlot port
    if slot < 0 then (.waiting, { machine with port := port })
    else
      let slot := slot.toNat
      let memory := prepareHeader write machine.memory (cmdHeader port slot)
      let cmdTable := cmdTable (commandHeader.load memory (cmdHeader port slot))
      let memory := prepareRegion memory cmdTable (virtualToPhysical buffer) totalData
      let memory := prepareFis command memory cmdTable lba total
      if awaitReady readings.taskFileData then
        let port := { port with commandIssue := port.commandIssue ||| 1 <<< slot }
        (awaitCompletion slot readings.completion, ⟨port, memory⟩)
      else (.waiting, ⟨port, memory⟩)

def ahciRead (lba total out : BitVec 64) (machine : Machine) : Outcome × Machine :=
  transfer virtualToPhysical readings ATA_CMD_READ_DMA_EX 0 lba total out machine

def ahciWrite (lba total input : BitVec 64) (machine : Machine) : Outcome × Machine :=
  transfer virtualToPhysical readings ATA_CMD_WRITE_DMA_EX 1 lba total input machine

end Transfers

end BobaOS.Ahci
