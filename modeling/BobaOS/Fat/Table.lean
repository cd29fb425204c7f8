import BobaOS.Fat.Volume

/-!
# The FAT and the file write

`driver/fat32.c`: the numbers kept of a mounted volume, the addresses made from
them, the reading and writing of entries, the search for a free cluster, and the
three operations that change chains: a new file, a directory that grows, and the
write of a file.

Addresses are computed as the source computes them: those of entries being read
with 64 bits, all others with 32. An `int *oErrCode` is passed in and returned,
because some paths leave it as it was.
-/

namespace BobaOS.Fat

open ByteStore Programs

def FAT_ENTRY_AND : Nat := 0x0FFFFFFF
def FAT_ENTRY_FREE : Nat := 0
def FAT_ENTRY_USED : Nat := 0x0FFFFFFF

def DIR_ENTRY_ATTRIBUTE_DIRECTORY : UInt8 := 0x10
def DIR_ENTRY_ATTRIBUTE_ARCHIVE : UInt8 := 0x20
def DIR_ENTRY_ATTRIBUTE_LNF : UInt8 := 0xF

/-- The fields of `struct masterBootRecord` that the driver reads after mounting. -/
structure MasterBootRecord where
  bytesPerSector : Nat
  sectorsPerCluster : Nat
  reservedSectors : Nat
  fatCopies : Nat
  totalSectorsBig : Nat
  sectorsPerFat32 : Nat
  rootDirCluster : Nat

structure FatPrivate where
  bootRecord : MasterBootRecord
  clusterSize : Nat
  fatAddress : Nat
  fatCopyStartAddress : Nat
  dataClusterStartAddress : Nat
  rootDirStartAddress : Nat

/-- What `attachToDisk` derives from the boot record, with 32-bit arithmetic. -/
def attachToDisk (bootRecord : MasterBootRecord) : FatPrivate :=
  let clusterSize := bootRecord.bytesPerSector * bootRecord.sectorsPerCluster % 2 ^ 32
  let fatAddress := bootRecord.reservedSectors * bootRecord.bytesPerSector % 2 ^ 32
  let fatSize := bootRecord.sectorsPerFat32 * bootRecord.bytesPerSector
  let dataStart := (fatAddress + fatSize * bootRecord.fatCopies) % 2 ^ 32
  { bootRecord
    clusterSize
    fatAddress
    fatCopyStartAddress := (fatAddress + fatSize) % 2 ^ 32
    dataClusterStartAddress := dataStart
    rootDirStartAddress :=
      (dataStart + (bootRecord.rootDirCluster + 2 ^ 32 - 2) % 2 ^ 32 * clusterSize) % 2 ^ 32 }

structure FatFile where
  startCluster : Nat
  fileSize : Nat

/-- The 32 bytes of a `struct directoryEntry`. -/
abbrev DirectoryEntry := Nat → UInt8

namespace DirectoryEntry

def attributes (entry : DirectoryEntry) : UInt8 := entry 11

/-- `startClusterHigh << 16 | startClusterLow`. -/
def startCluster (entry : DirectoryEntry) : Nat :=
  ((entry 20).toNat + (entry 21).toNat * 256) * 65536 + (entry 26).toNat + (entry 27).toNat * 256

def fileSize (entry : DirectoryEntry) : Nat := readWord entry 28

def setAttributes (entry : DirectoryEntry) (attributes : UInt8) : DirectoryEntry :=
  overwrite entry 11 1 fun _ => attributes

def setStartCluster (entry : DirectoryEntry) (cluster : Nat) : DirectoryEntry :=
  overwrite (overwrite entry 20 2 (wordBytes (cluster / 65536))) 26 2 (wordBytes (cluster % 65536))

def setFileSize (entry : DirectoryEntry) (size : Nat) : DirectoryEntry :=
  overwrite entry 28 4 (wordBytes size)

end DirectoryEntry

/-- `strncpy` to an offset of a buffer: it stops at a NUL, which is not copied. -/
def strncpy (dest : Nat → UInt8) (offset : Nat) (src : Nat → UInt8) (size : Nat) : Nat → UInt8 :=
  let stop := ((List.range size).find? fun i => src i = 0).getD size
  overwrite dest offset stop src

/-- A code kept in a `uint32_t`. -/
def asUInt32 (code : Code) : Nat := (code % 2 ^ 32).toNat

section Addresses

variable (fat : FatPrivate)

/-- `absoluteAddressToCluster`, with its subtraction as it stands. -/
def absoluteAddressToCluster (absolute : Nat) : Nat :=
  if absolute < fat.dataClusterStartAddress then 0
  else
    (2 + (fat.dataClusterStartAddress + 2 ^ 32 - absolute) % 2 ^ 32 / fat.clusterSize) % 2 ^ 32

def dataClusterToAbsoluteAddress (dataCluster : Nat) : Nat :=
  ((dataCluster + 2 ^ 32 - 2) % 2 ^ 32 * fat.clusterSize + fat.dataClusterStartAddress) % 2 ^ 32

def clusterToFATTableAddress (cluster : Nat) : Nat := (fat.fatAddress + 4 * cluster) % 2 ^ 32

def clusterToFATCopyTableAddress (cluster : Nat) : Nat :=
  (fat.fatCopyStartAddress + 4 * cluster) % 2 ^ 32

/-- The entry of a cluster in the first FAT. -/
def entryAt (bytes : Nat → UInt8) (cluster : Nat) : Nat :=
  readWord bytes (fat.fatAddress + 4 * cluster) % 2 ^ 28

end Addresses

section Code

variable (env : Environment) (fat : FatPrivate)

/-- The entries of a window, read at once; NULL if there is no room for them. -/
def getMultipleFatEntries (start stop : Nat) (errCode : Code) : M (Code × Option (Nat → Nat)) := do
  let length := 4 * ((stop + 2 ^ 32 - start) % 2 ^ 32)
  match ← kzalloc env length with
  | none => return (errCode, none)
  | some ret =>
    let errCode ← seekRead env (start * 4 + fat.fatAddress)
    if errCode < 0 then return (errCode, none)
    let (errCode, buffer) ← readStream env (fun _ => 0) ret.capacity 0 length
    if errCode < 0 then return (errCode, none)
    return (errCode, some fun i => readWord buffer (4 * i) % 2 ^ 28)

/-- The first free one of so many entries. -/
@[irreducible] def firstFree (count : Nat) (entries : Nat → Nat) : Option Nat :=
  (List.range count).find? fun i => entries i = FAT_ENTRY_FREE

/-- The loop of the search, from the window that begins at `start`. After as many
windows as the fuel allows it is back at the first one, and goes on forever. -/
def searchWindows : Nat → Nat → Nat → Code → M (Code × Nat)
  | 0, _, _, _ => throw .endless
  | fuel + 1, start, stop, errCode => do
    if stop < fat.bootRecord.totalSectorsBig then
      let (errCode, entries) ← getMultipleFatEntries env fat start stop errCode
      if errCode < 0 then return (errCode, 0)
      match entries with
      | none => throw .nullPointer
      | some entries =>
        match firstFree 512 entries with
        | some i => return (errCode, (start + i) % 2 ^ 32)
        | none => searchWindows fuel ((start + 512) % 2 ^ 32) ((stop + 512) % 2 ^ 32) errCode
    else return (errCode, 0)

/-- `getFreeFatEntryCluster`; the search is recorded. -/
def getFreeFatEntryCluster (errCode : Code) : M (Code × Nat) := do
  let result ← searchWindows env fat (2 ^ 23) 0 512 errCode
  modify fun world =>
    { world with searches := world.searches ++ [⟨result.2, entryAt fat world.bytes result.2⟩] }
  return result

def getFatEntry (entry : Nat) : M (Code × Nat) := do
  let errCode ← seekRead env (entry * 4 + fat.fatAddress)
  if errCode < 0 then return (errCode, asUInt32 errCode)
  let (errCode, ret) ← readStream env (fun _ => 0) 4 0 4
  if errCode < 0 then return (errCode, asUInt32 errCode)
  return (errCode, readWord ret 0 % 2 ^ 28)

def writeFATEntry (cluster value : Nat) : M Code := do
  let ret ← seekWrite env (clusterToFATTableAddress fat cluster)
  if ret < 0 then return ret
  let ret ← writeStream env (wordBytes value) 4
  if ret < 0 then return ret
  let ret ← seekWrite env (clusterToFATCopyTableAddress fat cluster)
  if ret < 0 then return ret
  writeStream env (wordBytes value) 4

/-- `makeDirBigger`: the new cluster, or a negative code. -/
def makeDirBigger (endCluster : Nat) : M Code := do
  let (errCode, newFatEntryCluster) ← getFreeFatEntryCluster env fat 0
  if errCode < 0 then return errCode
  if newFatEntryCluster = 0 then return -EDISKSPACE
  let errCode ← writeFATEntry env fat endCluster newFatEntryCluster
  if errCode < 0 then return errCode
  let errCode ← writeFATEntry env fat newFatEntryCluster FAT_ENTRY_USED
  if errCode < 0 then return errCode
  let errCode ← seekWrite env (dataClusterToAbsoluteAddress fat newFatEntryCluster)
  if errCode < 0 then return errCode
  let errCode ← writeStream env (fun _ => 0) fat.clusterSize
  if errCode < 0 then return errCode
  return newFatEntryCluster

/-- The entry of a new file without content. -/
def newFileEntry (fileName : Nat → UInt8) (freeCluster : Nat) : DirectoryEntry :=
  let name := strncpy (fun _ => 0) 0 fileName 8
  let newEntry : DirectoryEntry := strncpy name 8 (fun i => fileName (9 + i)) 3
  ((newEntry.setAttributes DIR_ENTRY_ATTRIBUTE_ARCHIVE).setStartCluster freeCluster).setFileSize 0

/-- `createFileEntryAtAbsoluteAddress`: the code and the file, NULL if there is
none. -/
def createFileEntryAtAbsoluteAddress (address : Nat) (fileName : Nat → UInt8) (errCode : Code) :
    M (Code × Option FatFile) := do
  let (errCode, freeCluster) ← getFreeFatEntryCluster env fat errCode
  if freeCluster = 0 then return (errCode, none)
  let errCode ← writeFATEntry env fat freeCluster 0x0FFFFFFF
  if errCode < 0 then return (errCode, none)
  let errCode ← seekWrite env address
  if errCode < 0 then return (errCode, none)
  let errCode ← writeStream env (newFileEntry fileName freeCluster) 32
  if errCode < 0 then return (errCode, none)
  match ← kzalloc env 8 with
  | none => return (errCode, none)
  | some _ => return (errCode, some ⟨freeCluster, 0⟩)

/-- The loop of `unlinkFatChain`. It frees an entry each time, so that a chain is
shorter than the fuel. -/
def unlinkEntries : Nat → Nat → M Code
  | 0, _ => throw .endless
  | fuel + 1, fatEntry => do
    if fatEntry ≠ FAT_ENTRY_USED ∧ fatEntry ≠ FAT_ENTRY_FREE then
      let temp := fatEntry
      let (ret, fatEntry) ← getFatEntry env fat fatEntry
      if ret < 0 then return ret
      let ret ← writeFATEntry env fat temp FAT_ENTRY_FREE
      if ret < 0 then return ret
      unlinkEntries fuel fatEntry
    else return SUCCESS

def unlinkFatChain (cluster : Nat) : M Code := do
  let (ret, fatEntry) ← getFatEntry env fat cluster
  if ret < 0 then return ret
  let ret ← unlinkEntries env fat (2 ^ 28 + 1) fatEntry
  if ret < 0 then return ret
  writeFATEntry env fat cluster FAT_ENTRY_USED

/-- The loop that skips clusters, with what is left to skip. An error of a read
ends the write. -/
def skipClusters : Nat → Nat → Nat → M (Except Code (Nat × Nat × Nat))
  | 0, fatEntry, oldCluster => return .ok (0, fatEntry, oldCluster)
  | clustersToSkip + 1, fatEntry, _ => do
    let oldCluster := fatEntry
    let (ret, fatEntry) ← getFatEntry env fat fatEntry
    if ret < 0 then return .error ret
    if fatEntry = FAT_ENTRY_FREE ∨ fatEntry = FAT_ENTRY_USED then
      return .ok (clustersToSkip + 1, fatEntry, oldCluster)
    skipClusters clustersToSkip fatEntry oldCluster

/-- The length of the write to the next cluster, kept in a `uint16_t`, when so
many clusters are left and so many bytes are written. -/
def nextWrite (size left totalWritten : Nat) : Nat :=
  if left = 1 then (size + 2 ^ 64 - totalWritten % 2 ^ 64) % 2 ^ 64 % 2 ^ 16
  else fat.clusterSize % 2 ^ 16

/-- The loop over the clusters to write, with what is left of them. The codes of
the two writes that link a new cluster are not looked at. -/
def writeClusters (size : Nat) (input : Nat → UInt8) : Nat → Code → Nat → Nat → Nat → Nat → Nat →
    M Code
  | 0, ret, _, _, _, _, _ => return ret
  | left + 1, _, currCluster, oldCluster, startClusterPos, currentClusterToWrite, totalWritten => do
    let ret ← seekWrite env (dataClusterToAbsoluteAddress fat currCluster + startClusterPos)
    if ret < 0 then return ret
    let ret ← writeStream env (fun i => input (totalWritten + i)) currentClusterToWrite
    if ret < 0 then return ret
    let totalWritten := totalWritten + currentClusterToWrite
    let (ret, currCluster) ← getFatEntry env fat currCluster
    if ret < 0 then return ret
    let currentClusterToWrite := nextWrite fat size left totalWritten
    if currCluster = FAT_ENTRY_USED ∧ left ≠ 0 then
      let (ret, newFat) ← getFreeFatEntryCluster env fat ret
      if ret < 0 then return ret
      let _ ← writeFATEntry env fat oldCluster newFat
      let _ ← writeFATEntry env fat newFat FAT_ENTRY_USED
      writeClusters size input left ret newFat newFat 0 currentClusterToWrite totalWritten
    else
      writeClusters size input left ret currCluster oldCluster 0 currentClusterToWrite totalWritten

/-- The length of the first write, kept in a `uint16_t`. -/
def firstWrite (size startClusterPos : Nat) : Nat :=
  let rest := size % fat.clusterSize % 2 ^ 16
  let currentClusterToWrite := if rest = 0 then fat.clusterSize % 2 ^ 16 else rest
  if fat.clusterSize < currentClusterToWrite + startClusterPos then
    (currentClusterToWrite + 2 ^ 16 -
      (currentClusterToWrite + startClusterPos) % fat.clusterSize % 2 ^ 16) % 2 ^ 16
  else currentClusterToWrite

/-- The number of clusters that a write meets, kept in a `uint32_t`. -/
def clustersOfWrite (size startClusterPos : Nat) : Nat :=
  let stop := (startClusterPos + size) % 2 ^ 64
  if stop % fat.clusterSize ≠ 0 then (stop / fat.clusterSize % 2 ^ 32 + 1) % 2 ^ 32
  else stop / fat.clusterSize % 2 ^ 32

/-- The cluster to begin with, behind those that are skipped: one cluster is
appended if the chain ends there. -/
def findStartCluster (startCluster startPos : Nat) : M (Except Code Nat) := do
  match ← skipClusters env fat (startPos / fat.clusterSize % 2 ^ 32) startCluster startCluster with
  | .error ret => return .error ret
  | .ok (clustersToSkip, fatEntry, oldCluster) =>
    let oldCluster :=
      if fatEntry ≠ FAT_ENTRY_USED ∧ fatEntry ≠ FAT_ENTRY_FREE then fatEntry else oldCluster
    if clustersToSkip = 1 then
      let (ret, newCluster) ← getFreeFatEntryCluster env fat 0
      if ret < 0 then return .error ret
      let ret ← writeFATEntry env fat oldCluster newCluster
      if ret < 0 then return .error ret
      let ret ← writeFATEntry env fat newCluster FAT_ENTRY_USED
      if ret < 0 then return .error ret
      return .ok newCluster
    else if clustersToSkip ≠ 0 then return .error (-ENFOUND)
    else return .ok oldCluster

def writeFatFile (fatFile : FatFile) (size startPos : Nat) (input : Nat → UInt8) : M Code := do
  let startClusterPos := startPos % fat.clusterSize
  match ← findStartCluster env fat fatFile.startCluster startPos with
  | .error ret => return ret
  | .ok startCluster =>
    let ret ← unlinkFatChain env fat startCluster
    if ret < 0 then return ret
    writeClusters env fat size input (clustersOfWrite fat size startClusterPos) ret startCluster
      startCluster startClusterPos (firstWrite fat size startClusterPos) 0

end Code

end BobaOS.Fat
