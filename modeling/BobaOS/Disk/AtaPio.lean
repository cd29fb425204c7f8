import BobaOS.Library.Patience
import BobaOS.Library.Words
import BobaOS.Status

/-!
# The ATA driver

`ataPio.c` moves sectors through the ports of a drive, word by word. It waits until the drive
is not busy, tells it what to do, and before each sector waits until the drive asks for data.
The ports are parameters, and so is what the drive does; what a drive that keeps to the protocol
does is a structure of its own. Waiting has no bound in the source: the loops are given the
number of times that they may look.

A drive is told of 28 bits of the first sector and of 8 bits of the number of sectors, 0 for
256. Left out are the identification, whose data `ByteSizes` takes apart, the scan for drives,
and the text that is printed when a drive reports an error.
-/

namespace BobaOS.AtaPio

open ByteStore Programs

def ATAPIO_REG_ERROR : BitVec 16 := 1
def ATAPIO_REG_SECTOR : BitVec 16 := 2
def ATAPIO_REG_LBA0 : BitVec 16 := 3
def ATAPIO_REG_LBA1 : BitVec 16 := 4
def ATAPIO_REG_LBA2 : BitVec 16 := 5
def ATAPIO_REG_DRIVESELECT : BitVec 16 := 6
def ATAPIO_REG_STATUS : BitVec 16 := 7
def ATAPIO_REG_COMMAND : BitVec 16 := 7

def ATAPIO_COMMAND_READ_SECTORS : UInt8 := 0x20
def ATAPIO_COMMAND_WRITE_SECTORS : UInt8 := 0x30
/-- The command of `cacheFlush`. -/
def CACHE_FLUSH : UInt8 := 0xE7

def ATAPIO_STATUS_ERR : UInt8 := 0x1
def ATAPIO_STATUS_DRQ : UInt8 := 0x8
def ATAPIO_STATUS_BSY : UInt8 := 0x80
def ATAPIO_DEVICECON_SRST : UInt8 := 4

/-- The ports of a machine: what is read from them and what becomes of the machine. -/
structure Bus (σ : Type) where
  inb : BitVec 16 → σ → UInt8 × σ
  inw : BitVec 16 → σ → BitVec 16 × σ
  outb : BitVec 16 → UInt8 → σ → σ
  outw : BitVec 16 → BitVec 16 → σ → σ

inductive Fault where
  | endless
deriving DecidableEq

/-- `struct ataPioPrivate`, without the flag that no transfer looks at. -/
structure AtaPioPrivate where
  port : BitVec 16
  select : BitVec 16
  deviceCon : BitVec 16

section Code

variable {σ : Type} (bus : Bus σ)

def inb (port : BitVec 16) : Program σ Fault UInt8 := fun state => .ok (bus.inb port state)

def inw (port : BitVec 16) : Program σ Fault (BitVec 16) := fun state => .ok (bus.inw port state)

def outb (port : BitVec 16) (value : UInt8) : Program σ Fault Unit :=
  modify fun state => bus.outb port value state

def outw (port value : BitVec 16) : Program σ Fault Unit :=
  modify fun state => bus.outw port value state

def selectDrive (base select deviceCon : BitVec 16) : Program σ Fault Unit :=
  outb bus (base + deviceCon) (UInt8.ofNat select.toNat)

def ataPioWaitBsy (base : BitVec 16) : Nat → Program σ Fault UInt8 :=
  pollUntil (inb bus (base + ATAPIO_REG_STATUS)) (fun status => status &&& ATAPIO_STATUS_BSY = 0)
    .endless

def ataPioWaitDrq (base : BitVec 16) : Nat → Program σ Fault UInt8 :=
  pollUntil (inb bus (base + ATAPIO_REG_STATUS)) (fun status => status &&& ATAPIO_STATUS_DRQ ≠ 0)
    .endless

def checkStatusError (base : BitVec 16) : Program σ Fault Bool := do
  let status ← inb bus (base + ATAPIO_REG_STATUS)
  return status &&& ATAPIO_STATUS_ERR ≠ 0

def getErrorCode (base : BitVec 16) : Program σ Fault UInt8 := inb bus (base + ATAPIO_REG_ERROR)

def cacheFlush (port : BitVec 16) (patience : Nat) : Program σ Fault Unit := do
  outb bus (port + ATAPIO_REG_COMMAND) CACHE_FLUSH
  let _ ← ataPioWaitBsy bus port patience

variable (pr : AtaPioPrivate)

/-- The registers of a transfer, in the order in which both kinds of transfer write them. -/
def writeRegisters (lba total : Nat) : Program σ Fault Unit := do
  outb bus (pr.port + ATAPIO_REG_ERROR) 0x00
  outb bus (pr.port + ATAPIO_REG_SECTOR) (UInt8.ofNat total)
  outb bus (pr.port + ATAPIO_REG_LBA0) (UInt8.ofNat lba)
  outb bus (pr.port + ATAPIO_REG_LBA1) (UInt8.ofNat (lba / 2 ^ 8))
  outb bus (pr.port + ATAPIO_REG_LBA2) (UInt8.ofNat (lba / 2 ^ 16))
  outb bus (pr.port + ATAPIO_REG_DRIVESELECT) (0xE0 ||| UInt8.ofNat (lba / 2 ^ 24 % 2 ^ 4))

/-- How both begin. -/
def beginTransfer (command : UInt8) (lba total patience : Nat) : Program σ Fault Unit := do
  selectDrive bus pr.port pr.select pr.deviceCon
  let _ ← ataPioWaitBsy bus pr.port patience
  writeRegisters bus pr lba total
  outb bus (pr.port + ATAPIO_REG_COMMAND) command

/-- The loop over the words of a sector, which are put behind `out` from an offset on. -/
def readWords : Nat → Nat → (Nat → UInt8) → Program σ Fault (Nat → UInt8)
  | 0, _, out => return out
  | left + 1, place, out => do
    let word ← inw bus pr.port
    readWords left (place + 2) (overwrite out place 2 (wordBytes word.toNat))

/-- The loop over the sectors. -/
def readSectors (patience : Nat) : Nat → Nat → (Nat → UInt8) →
    Program σ Fault (Code × (Nat → UInt8))
  | 0, _, out => return (SUCCESS, out)
  | left + 1, place, out => do
    let _ ← ataPioWaitDrq bus pr.port patience
    if ← checkStatusError bus pr.port then
      let _ ← getErrorCode bus pr.port
      return (-EHARDWARE, out)
    let out ← readWords bus pr 256 place out
    readSectors patience left (place + 512) out

/-- `ataPioRead`: the code, and what is behind `out` then. -/
def ataPioRead (lba total : Nat) (out : Nat → UInt8) (patience : Nat) :
    Program σ Fault (Code × (Nat → UInt8)) := do
  beginTransfer bus pr ATAPIO_COMMAND_READ_SECTORS lba total patience
  readSectors bus pr patience total 0 out

def writeWords (input : Nat → UInt8) : Nat → Nat → Program σ Fault Unit
  | 0, _ => return
  | left + 1, place => do
    outw bus pr.port (BitVec.ofNat 16 (readWord input place))
    writeWords input left (place + 2)

def writeSectors (patience : Nat) (input : Nat → UInt8) : Nat → Nat → Program σ Fault Code
  | 0, _ => return SUCCESS
  | left + 1, place => do
    let _ ← ataPioWaitDrq bus pr.port patience
    if ← checkStatusError bus pr.port then
      let _ ← getErrorCode bus pr.port
      return -EHARDWARE
    writeWords bus pr input 256 place
    writeSectors patience input left (place + 512)

def ataPioWrite (lba total : Nat) (input : Nat → UInt8) (patience : Nat) :
    Program σ Fault Code := do
  beginTransfer bus pr ATAPIO_COMMAND_WRITE_SECTORS lba total patience
  let ret ← writeSectors bus pr patience input total 0
  if ret < 0 then return ret
  cacheFlush bus pr.port patience
  return SUCCESS

end Code

end BobaOS.AtaPio
