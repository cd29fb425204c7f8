import Mathlib.Logic.Function.Basic
import BobaOS.Disk.DiskStream
import BobaOS.Library.Programs
import BobaOS.Library.Words

/-!
# The list of disks

`disk.c` with the probing of `ataPio.c` and `ahci.c`: the disks that are found get
their numbers in the drivers, are searched for partitions and put into the list.
Then the disk with the boot signature changes places with the first one, and the
boot partition with the one that has the label `C`.

What the probed registers show, what the drivers read and how the heap answers are
parameters, and so is what lies on the stack around the sector buffers. A disk is
named by the number of its creation. The sector buffers that were searched for
partitions are kept, so that a run can be asked what it scanned.
-/

namespace BobaOS.Disks

open ByteStore Programs

/-- What ends a call without a return. -/
inductive Fault where
  | nullPointer
  | outOfBounds
deriving DecidableEq

def BOBAOS_MAX_DISKS : Nat := 255
def BOBAOS_MAX_PARTITIONS_PER_DISK : Nat := 4
def BOBAOS_DEFAULT_VOLUME_LABEL : Int8 := 67
def LABEL_ASCII_OFFSET : Int := 67
def MBR_ACTIVE_FLAG : UInt8 := 0x80
def MBR_PARITION_TABLES_OFFSET : Nat := 0x1BE
def SATA_DRIVE_SIGNATURE : Nat := 0x101
def AHCI_DEVICE_DETECTION_PRESENT : Nat := 3
def AHCI_INTERFACE_POWER_MANAGEMENT_ACTIVE : Nat := 1

/-- What a driver addresses: a legacy port, or a port of an AHCI controller. -/
inductive Place where
  | legacy (port : Nat)
  | sata (controller port : Nat)
deriving DecidableEq

/-- `struct diskPartition`, without the file system. -/
structure DiskPartition where
  id : Nat
  label : Int8
  offsetBytes : Nat
  sizeBytes : Nat
  disk : Option Nat

/-- `struct disk`: its number, its size, its partitions and what its driver
addresses. -/
structure Disk where
  id : Nat
  size : Streams.Disk
  partitionCount : Nat
  partition : Nat → DiskPartition
  place : Place

/-- The registers of an AHCI port that are looked at. -/
structure HbaPort where
  sataStatus : Nat
  signature : Nat

/-- An AHCI controller: the kind of its fifth base address, whether that can be
mapped, and its registers. -/
structure Controller where
  isIo : Bool
  mapped : Bool
  ghc : Nat
  pi : Nat
  port : Nat → HbaPort

/-- What the machine answers. -/
structure Hardware where
  streams : Streams.Environment
  legacyDriver : Bool
  ahciDriver : Bool
  status : Nat → UInt8
  controllers : List Controller
  identify : Place → Nat
  contents : Place → Nat → UInt8
  stack : Nat → Nat → UInt8

/-- The variables of `disk.c`, the disks that were created, the number of calls made
to drivers and heap, and the sector buffers searched for partitions. -/
structure Globals where
  disks : Nat → Disk
  created : Nat
  diskList : Nat → Option Nat
  partitionList : Nat → Option (Nat × Nat)
  currentDisk : Nat
  currentPartition : Nat
  currentPartitionLabel : Int8
  calls : Nat
  scanned : List (Nat → UInt8)

abbrev M := Program Globals Fault

/-- The size that the identification of a disk reports, in 32 bits. -/
def diskSize (totalLBA : Nat) : Streams.Disk where
  sizeBytes := totalLBA * 512 % 2 ^ 32
  whole := by omega
  small := by omega

/-- A zeroed partition record and a zeroed disk. -/
def noPartition : DiskPartition := ⟨0, 0, 0, 0, none⟩
def freshDisk (id : Nat) (place : Place) : Disk :=
  ⟨id % 2 ^ 8, diskSize 0, 0, fun _ => noPartition, place⟩

/-- The variables before `diskInit`. -/
def boot (calls : Nat) : Globals :=
  ⟨fun _ => freshDisk 0 (.legacy 0), 0, fun _ => none, fun _ => none, 0, 0,
    BOBAOS_DEFAULT_VOLUME_LABEL, calls, []⟩

section Code

variable (hw : Hardware)

/-- Whether the heap has a block of the size. -/
def kzalloc (size : Nat) : M Bool := do
  let globals ← get
  set { globals with calls := globals.calls + 1 }
  return hw.streams.kzalloc globals.calls size

/-- The driver's `read` of the first sector into a buffer on the stack. -/
def readFirstSector (place : Place) : M (Code × (Nat → UInt8)) := do
  let globals ← get
  set { globals with calls := globals.calls + 1 }
  let answer := hw.streams.read globals.calls (hw.contents place) 0 1
  return (answer.1, overwrite (hw.stack globals.calls) 0 512 answer.2)

/-! ### Drivers -/

def ataPioProbePort (base : Nat) : Bool :=
  ! (hw.status base = 0xFF || hw.status base = 0)

/-- A disk that has been set up, with the memory of its driver. -/
def newDisk (id : Nat) (place : Place) : M Nat := do
  let globals ← get
  set { globals with
    disks := Function.update globals.disks globals.created (freshDisk id place)
    created := globals.created + 1 }
  return globals.created

/-- `createAndAttachDisk` of `ataPio.c`. -/
def createAndAttachDisk (id base : Nat) : M (Option Nat) := do
  let disk ← kzalloc hw 264
  let priv ← kzalloc hw 8
  if disk && priv then
    if ← kzalloc hw 48 then return some (← newDisk id (.legacy base))
    else return none
  else return none

/-- The second probe of `scanForDisk` of `ataPio.c`: the disk found at port `0x170`
is attached to port `0x1F0`. -/
def scanSlave (found : List Nat) (nextId : Nat) : M (List Nat) := do
  if ataPioProbePort hw 0x170 then
    match ← createAndAttachDisk hw nextId 0x1F0 with
    | none => return found
    | some disk => return found ++ [disk]
  else return found

/-- `scanForDisk` of `ataPio.c`: the disks found. The caller drops its code. -/
def scanLegacy (nextId : Nat) : M (List Nat) := do
  if ataPioProbePort hw 0x1F0 then
    match ← createAndAttachDisk hw nextId 0x1F0 with
    | none => return []
    | some disk => scanSlave hw [disk] ((nextId + 1) % 2 ^ 16)
  else scanSlave hw [] nextId

/-- `createDisk` of `ahci.c`. -/
def createDisk (id controller port : Nat) : M (Option Nat) := do
  if ← kzalloc hw 264 then
    if ← kzalloc hw 16 then
      if ← kzalloc hw 48 then return some (← newDisk id (.sata controller port))
      else return none
    else return none
  else return none

/-- Something is connected to the port, active and a SATA drive. -/
def connected (controller : Controller) (i : Nat) : Bool :=
  (controller.pi >>> i) &&& 1 = 1 &&
    (controller.port i).sataStatus &&& 0xF = AHCI_DEVICE_DETECTION_PRESENT &&
    ((controller.port i).sataStatus >>> 8) &&& 0xF = AHCI_INTERFACE_POWER_MANAGEMENT_ACTIVE &&
    (controller.port i).signature = SATA_DRIVE_SIGNATURE

/-- The ports of a controller: the disks found so far, the next number, and whether
the scan goes on. -/
def scanPorts (number : Nat) (controller : Controller) :
    List Nat → List Nat → Nat → M (List Nat × Nat × Bool)
  | [], found, nextId => return (found, nextId, true)
  | i :: rest, found, nextId => do
    if connected controller i then
      if ← kzalloc hw 9472 then
        match ← createDisk hw nextId number i with
        | none => return (found, nextId, false)
        | some disk =>
          if found.length < BOBAOS_MAX_DISKS then
            scanPorts number controller rest (found ++ [disk]) ((nextId + 1) % 2 ^ 16)
          else throw .outOfBounds
      else return (found, nextId, false)
    else scanPorts number controller rest found nextId

/-- `scanForDisk` of `ahci.c` from a controller on. -/
def scanControllers : List (Controller × Nat) → List Nat → Nat → M (List Nat)
  | [], found, _ => return found
  | (controller, number) :: rest, found, nextId => do
    if controller.isIo then scanControllers rest found nextId
    else if controller.mapped then
      if controller.ghc >>> 31 = 1 then
        let (found, nextId, goesOn) ←
          scanPorts hw number controller (List.range 32) found nextId
        if goesOn then scanControllers rest found nextId else return found
      else scanControllers rest found nextId
    else return found

/-- The size reported by `getInfo`. -/
def getInfo (place : Place) : M Streams.Disk := do
  match place with
  | .legacy _ =>
    if ← kzalloc hw 42 then return diskSize (hw.identify place) else throw .nullPointer
  | .sata _ _ => if ← kzalloc hw 512 then return diskSize (hw.identify place) else return diskSize 0

/-! ### Partitions -/

/-- Where the loop looks for its i-th table: the buffer has been moved by one table
in each round and is indexed by the round, so that the place is behind the sector
for the last two. -/
def tableOffset (i : Nat) : Nat := MBR_PARITION_TABLES_OFFSET + 16 * i + 16 * i

def bootable (sectorBuffer : Nat → UInt8) (i : Nat) : UInt8 := sectorBuffer (tableOffset i)

/-- The body of the loop for an active table. The list gets the first partition of
the disk, whichever was found. -/
def registerPartition (disk : Nat) (sectorBuffer : Nat → UInt8) (i count : Nat) (globals : Globals) :
    Globals :=
  let partition : DiskPartition :=
    ⟨count, globals.currentPartitionLabel,
      readWord sectorBuffer (tableOffset i + 8) * 512 % 2 ^ 32,
      readWord sectorBuffer (tableOffset i + 12) * 512 % 2 ^ 32, some disk⟩
  let was := globals.disks disk
  { globals with
    disks := Function.update globals.disks disk
      { was with partition := Function.update was.partition count partition }
    currentPartitionLabel := globals.currentPartitionLabel + 1
    partitionList := Function.update globals.partitionList globals.currentPartition (some (disk, 0))
    currentPartition := globals.currentPartition + 1 }

/-- The loop of `checkMbrPartition` over the tables. -/
def checkTables (disk : Nat) (sectorBuffer : Nat → UInt8) : List Nat → Nat → M Nat
  | [], count => return count
  | i :: rest, count => do
    if bootable sectorBuffer i = MBR_ACTIVE_FLAG then
      let globals ← get
      if BOBAOS_MAX_DISKS * BOBAOS_MAX_PARTITIONS_PER_DISK ≤ globals.currentPartition then
        return count
      set (registerPartition disk sectorBuffer i count globals)
      checkTables disk sectorBuffer rest (count + 1)
    else checkTables disk sectorBuffer rest count

def checkMbrPartition (disk : Nat) (sectorBuffer : Nat → UInt8) : M Nat := do
  modify fun globals => { globals with scanned := globals.scanned ++ [sectorBuffer] }
  checkTables disk sectorBuffer (List.range 4) 0

def checkDiskPartition (disk : Nat) : M Code := do
  let (code, buff) ← readFirstSector hw ((← get).disks disk).place
  if code < 0 then return code
  let mbrPartitions ← checkMbrPartition disk buff
  if mbrPartitions ≠ 0 then
    modify fun globals => { globals with
      disks := Function.update globals.disks disk
        { globals.disks disk with partitionCount := mbrPartitions } }
  return SUCCESS

/-! ### The list -/

def insertDisk (disk : Nat) : M Code := do
  let globals ← get
  if globals.currentDisk = BOBAOS_MAX_DISKS then return -ENMEM
  set { globals with
    diskList := Function.update globals.diskList globals.currentDisk (some disk)
    currentDisk := globals.currentDisk + 1 }
  return 0

/-- The loop of `scanLegacyPorts` and `scanSata` over the disks found. -/
def insertFound : List Nat → M Unit
  | [] => return
  | disk :: rest => do
    let size ← getInfo hw ((← get).disks disk).place
    modify fun globals => { globals with
      disks := Function.update globals.disks disk { globals.disks disk with size } }
    let _ ← checkDiskPartition hw disk
    if (← insertDisk disk) < 0 then return
    insertFound rest

def scanLegacyPorts : M Unit := do
  if hw.legacyDriver then insertFound hw (← scanLegacy hw (← get).currentDisk)

def scanSata : M Unit := do
  if hw.ahciDriver then
    insertFound hw (← scanControllers hw hw.controllers.zipIdx [] (← get).currentDisk)

def scanDisks : M Unit := do
  scanLegacyPorts hw
  scanSata hw

/-- `BOBA` at the place of the boot signature. -/
def signed (sector : Nat → UInt8) : Bool :=
  sector 442 = 66 && sector 443 = 79 && sector 444 = 66 && sector 445 = 65

/-- The loop of `findKernelDisk`, at a place of the list. What a read returns is
dropped. -/
def findKernelDiskFrom : Nat → Nat → M Bool
  | 0, _ => return false
  | left + 1, i => do
    match (← get).diskList i with
    | none => return false
    | some disk =>
      let (_, buff) ← readFirstSector hw ((← get).disks disk).place
      if signed buff then
        if i ≠ 0 then
          match (← get).diskList 0 with
          | none => throw .nullPointer
          | some tempDisk =>
            modify fun globals => { globals with
              diskList := Function.update (Function.update globals.diskList 0 (some disk)) i
                (some tempDisk) }
            modify fun globals => { globals with
              disks := Function.update globals.disks disk { globals.disks disk with id := 0 } }
            modify fun globals => { globals with
              disks := Function.update globals.disks tempDisk
                { globals.disks tempDisk with id := i % 2 ^ 8 } }
        return true
      else findKernelDiskFrom left (i + 1)

def findKernelDisk : M Bool := do
  findKernelDiskFrom hw (← get).currentDisk 0

def diskGet (globals : Globals) (id : Nat) : Option Nat :=
  if globals.currentDisk ≤ id then none else globals.diskList id

/-- An access to the list of partitions, which has room for four on each disk. -/
def partitionAt (globals : Globals) (index : Int) : Except Fault (Option (Nat × Nat)) :=
  if 0 ≤ index ∧ index < BOBAOS_MAX_DISKS * BOBAOS_MAX_PARTITIONS_PER_DISK then
    .ok (globals.partitionList index.toNat)
  else .error .outOfBounds

def partitionGetByVolumeLabel (globals : Globals) (label : Int8) :
    Except Fault (Option (Nat × Nat)) :=
  if (globals.currentPartition : Int) ≤ label.toInt - LABEL_ASCII_OFFSET then .ok none
  else partitionAt globals (LABEL_ASCII_OFFSET - label.toInt)

/-- `BOBAOS BOOT` in the buffer. -/
def labelMatches (buff : Nat → UInt8) : Bool :=
  (List.range 11).map buff = [66, 79, 66, 65, 79, 83, 32, 66, 79, 79, 84]

def setLabel (partition : Nat × Nat) (label : Int8) (globals : Globals) : Globals :=
  let disk := globals.disks partition.1
  { globals with
    disks := Function.update globals.disks partition.1
      { disk with
        partition := Function.update disk.partition partition.2
          { disk.partition partition.2 with label } } }

/-- The boot partition changes its place in the list and its label with the
partition at the start of the list. -/
def moveToStart (partition : Nat × Nat) : M Unit := do
  let globals ← get
  let label := ((globals.disks partition.1).partition partition.2).label
  let index := ((label.toInt - LABEL_ASCII_OFFSET) % 2 ^ 16).toNat
  if index < BOBAOS_MAX_DISKS * BOBAOS_MAX_PARTITIONS_PER_DISK then
    match globals.partitionList 0 with
    | none => throw .nullPointer
    | some tempDiskPartition =>
      modify fun globals => { globals with
        partitionList := Function.update
          (Function.update globals.partitionList 0 (some partition)) index (some tempDiskPartition) }
      modify fun globals => setLabel tempDiskPartition label globals
      modify fun globals => setLabel partition BOBAOS_DEFAULT_VOLUME_LABEL globals
  else throw .outOfBounds

/-- The loop of `findKernelPartition`, at a partition of the disk. What seek and read
return is dropped. -/
def findKernelPartitionFrom (disk : Nat) :
    Nat → Nat → Streams.DiskStream → (Nat → UInt8) → M Bool
  | 0, _, _, _ => return false
  | left + 1, i, stream, buff => do
    let globals ← get
    let partition := (globals.disks disk).partition i
    let sought := Streams.diskStreamSeek stream ((partition.offsetBytes + 0x47) % 2 ^ 64)
    let (buff, outcome) := Streams.diskStreamRead hw.streams sought.2 buff 11
      ⟨hw.contents (globals.disks disk).place, globals.calls⟩
    set { globals with calls := outcome.state.calls }
    if labelMatches buff then
      if partition.label = BOBAOS_DEFAULT_VOLUME_LABEL then return true
      moveToStart (disk, i)
      return true
    else findKernelPartitionFrom disk left (i + 1) outcome.stream buff

/-- `findKernelPartition`. The stream is stored to without a test for NULL. -/
def findKernelPartition : M Bool := do
  match diskGet (← get) 0 with
  | none => return false
  | some disk =>
    if ← kzalloc hw 16 then
      let first := (← get).disks disk
      findKernelPartitionFrom hw disk first.partitionCount 0 ⟨first.size, 0⟩ fun _ => 0
    else throw .nullPointer

def diskInit : M Code := do
  modify fun globals => { globals with diskList := fun _ => none }
  scanDisks hw
  if ← findKernelDisk hw then
    if ← findKernelPartition hw then return SUCCESS else return -ENFOUND
  else return -ENFOUND

end Code

end BobaOS.Disks
