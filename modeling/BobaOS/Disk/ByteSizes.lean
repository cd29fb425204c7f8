import BobaOS.Disk.PartitionTables

/-!
# Sizes in bytes

Sectors are counted in 32 bits by the identification of a disk and by the entries of a
partition table. The products with 512 are taken in 32 bits too, and only then stored in
fields of 64 bits; so are the sizes that the streams compare positions with.
-/

namespace BobaOS.Disks

open ByteStore Programs

/-- `struct diskInfo`, its name up to the NUL. -/
structure DiskInfo where
  name : List UInt8
  size : BitVec 64

section Code

variable (dataBuffer : Nat → BitVec 16)

/-- The loop over the words of the model string, each with its high byte first. -/
def model : List UInt8 := (List.range 20).flatMap fun i =>
  [⟨(dataBuffer (27 + i) >>> 8).setWidth 8⟩, ⟨(dataBuffer (27 + i)).setWidth 8⟩]

def totalLBA : BitVec 32 := (dataBuffer 60).setWidth 32 ||| (dataBuffer 61).setWidth 32 <<< 16

/-- What both drivers make of the data of `IDENTIFY`. The character behind the model string
is the one that the buffer holds. -/
def diskInfo (behind : UInt8) : DiskInfo where
  name := (model dataBuffer ++ [behind]).takeWhile (· ≠ 0)
  size := (totalLBA dataBuffer * 512).setWidth 64

/-- `ataPioIdentify`, whose string is in a block that the heap has cleared. -/
def ataPioIdentify : DiskInfo := diskInfo dataBuffer 0

/-- `ahciIdentifyCommand`, whose string is on the stack. -/
def ahciIdentifyCommand (stack : UInt8) : DiskInfo := diskInfo dataBuffer stack

end Code

variable {dataBuffer : Nat → BitVec 16}

/-- Both report the size that a disk is given. -/
theorem diskInfo_size (dataBuffer : Nat → BitVec 16) (behind : UInt8) :
    (diskInfo dataBuffer behind).size.toNat =
      (diskSize (totalLBA dataBuffer).toNat).sizeBytes := by
  simp only [diskInfo, diskSize, BitVec.toNat_setWidth, BitVec.toNat_mul]
  exact Nat.mod_eq_of_lt (Nat.lt_trans (Nat.mod_lt _ (by decide)) (by decide))

/-- A product in 32 bits is the product of the numbers below 2^23. -/
theorem product_exact_iff (sectors : Nat) : sectors * 512 % 2 ^ 32 = sectors * 512 ↔ sectors < 2 ^ 23 := by
  omega

/-- The quantities in bytes are those of the sectors, for a disk with the data of `IDENTIFY`
and for a partition that is recorded from the i-th table of a sector. A stream on the disk
compares positions with its size. -/
structure BytesExact (dataBuffer : Nat → BitVec 16) (stack : UInt8) (disk : Nat)
    (sectorBuffer : Nat → UInt8) (i count : Nat) (globals : Globals) : Prop where
  ataPio : (ataPioIdentify dataBuffer).size.toNat = (totalLBA dataBuffer).toNat * 512
  ahci : (ahciIdentifyCommand dataBuffer stack).size.toNat = (totalLBA dataBuffer).toNat * 512
  bounds : ∀ position,
    Streams.checkDiskStream ⟨diskSize (totalLBA dataBuffer).toNat, position⟩ < 0 ↔
      (totalLBA dataBuffer).toNat * 512 ≤ position
  offset : (((registerPartition disk sectorBuffer i count globals).disks disk).partition
    count).offsetBytes = readWord sectorBuffer (tableOffset i + 8) * 512
  size : (((registerPartition disk sectorBuffer i count globals).disks disk).partition
    count).sizeBytes = readWord sectorBuffer (tableOffset i + 12) * 512

/-- The quantities are exact if and only if none of the numbers of sectors reaches 2^23. -/
theorem bytes_exact_iff (dataBuffer : Nat → BitVec 16) (stack : UInt8) (disk : Nat)
    (sectorBuffer : Nat → UInt8) (i count : Nat) (globals : Globals) :
    BytesExact dataBuffer stack disk sectorBuffer i count globals ↔
      (totalLBA dataBuffer).toNat < 2 ^ 23 ∧
      readWord sectorBuffer (tableOffset i + 8) < 2 ^ 23 ∧
      readWord sectorBuffer (tableOffset i + 12) < 2 ^ 23 := by
  have reported (behind : UInt8) : (diskInfo dataBuffer behind).size.toNat =
      (totalLBA dataBuffer).toNat * 512 % 2 ^ 32 := diskInfo_size dataBuffer behind
  have recorded : ((registerPartition disk sectorBuffer i count globals).disks disk).partition count =
      ⟨count, globals.currentPartitionLabel, readWord sectorBuffer (tableOffset i + 8) * 512 % 2 ^ 32,
        readWord sectorBuffer (tableOffset i + 12) * 512 % 2 ^ 32, some disk⟩ := by
    simp [registerPartition]
  constructor
  · intro exact
    have disk_exact := exact.ataPio
    have offset_exact := exact.offset
    have size_exact := exact.size
    rw [ataPioIdentify, reported, product_exact_iff] at disk_exact
    rw [recorded, product_exact_iff] at offset_exact
    rw [recorded, product_exact_iff] at size_exact
    exact ⟨disk_exact, offset_exact, size_exact⟩
  · rintro ⟨disk_small, offset_small, size_small⟩
    rw [← product_exact_iff] at disk_small offset_small size_small
    refine ⟨?_, ?_, fun position => ?_, ?_, ?_⟩
    · rw [ataPioIdentify, reported, disk_small]
    · rw [ahciIdentifyCommand, reported, disk_small]
    · have size : (diskSize (totalLBA dataBuffer).toNat).sizeBytes = _ := disk_small
      simp only [Streams.checkDiskStream, size]
      split
      · simp [*, ENMEM]
      · simp [*]
    · rw [recorded, offset_small]
    · rw [recorded, size_small]

/-- The data of a disk with 2^23 sectors. -/
def fourGigabytes (word : Nat) : BitVec 16 := if word = 61 then 0x80 else 0

/-- Its size is reported as zero. -/
theorem large_disk_empty :
    ¬ ∀ (dataBuffer : Nat → BitVec 16) (stack : UInt8) (disk : Nat) (sectorBuffer : Nat → UInt8)
      (i count : Nat) (globals : Globals),
      BytesExact dataBuffer stack disk sectorBuffer i count globals := by
  intro claim
  have exact := (claim fourGigabytes 0 0 (fun _ => 0) 0 0 (boot 0)).ataPio
  have zero : (ataPioIdentify fourGigabytes).size.toNat = 0 := by decide
  have sectors : (totalLBA fourGigabytes).toNat = 8388608 := by decide
  omega

end BobaOS.Disks
