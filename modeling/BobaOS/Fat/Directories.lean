import BobaOS.Fat.LongNames

/-!
# Directories

`driver/fat32.c`: the entries of a directory are read from the clusters of its chain,
compared with a name, replaced and added to. A long name is kept in entries before the
one it names, which carries a short name made from it.

Entries that were read are a block of the heap: reading them through NULL or behind the
room of the block is a fault, and so is putting more into an array on the stack than it
holds. What such an array holds before it is written is a parameter.
-/

namespace BobaOS.Fat

open ByteStore Programs Vfsl

def POINT : UInt8 := 46
def TILDE : UInt8 := 126

/-- The variables that are read before they are written as a whole. -/
inductive Local where
  | fullName (counter : Nat)
  | upperName
  | tempEntry
  | maxEntriesPerDirectory
deriving DecidableEq

/-- What a local variable holds at first, by the number of heap requests made before. -/
abbrev Stack := Nat → Local → Nat → UInt8

/-- A block of the heap that holds directory entries. -/
structure Entries where
  block : Block
  bytes : Nat → UInt8

def Entries.entry (entries : Entries) (i : Nat) : DirectoryEntry := slice entries.bytes (32 * i)

@[simp] theorem Entries.entry_zero (entries : Entries) : entries.entry 0 = entries.bytes := by
  funext offset
  rw [Entries.entry, slice_apply, Nat.mul_zero, Nat.zero_add]

/-- The attributes of an entry, read through a pointer. -/
def readAttributes (entries : Option Entries) (i : Nat) : M UInt8 :=
  match entries with
  | none => throw .nullPointer
  | some entries =>
    if entries.block.capacity < 32 * i + 12 then throw .outOfBounds
    else return (entries.entry i).attributes

/-! ## Strings -/

/-- The bytes of a string and its NUL. -/
def chars (str : CString) : Nat → UInt8 := fun i => str.getD i 0

def strncmpFrom (str1 str2 : Nat → UInt8) : Nat → Nat → Int
  | 0, _ => 0
  | left + 1, counter =>
    if str1 counter = 0 ∧ str2 counter = 0 then 0
    else if str1 counter ≠ str2 counter then
      if (str2 counter).toInt8 < (str1 counter).toInt8 then 1 else -1
    else strncmpFrom str1 str2 left (counter + 1)

def strncmp (str1 str2 : Nat → UInt8) (len : Nat) : Int := strncmpFrom str1 str2 len 0

def findCharFrom (c : UInt8) : Int → CString → Int
  | _, [] => -1
  | ret, char :: str => if char = c then ret else findCharFrom c (ret + 1) str

def findChar (str : CString) (c : UInt8) : Int := findCharFrom c 0 str

def isNumber (c : UInt8) : Bool := decide (48 ≤ c) && decide (c ≤ 57)

def toNumber (c : UInt8) : UInt8 := 48 - c

def upperCase (char : UInt8) : UInt8 := if 97 ≤ char ∧ char ≤ 122 then char - 32 else char

/-! ## Comparing entries -/

/-- `compareShortWithName`. Its two arrays have room for the two parts of a short name. -/
def compareShortWithName (entry : DirectoryEntry) (name : CString) : M Bool := do
  let pointPos := findChar name POINT
  let baseLength := if 0 < pointPos then pointPos.toNat else name.length
  let extensionLength := if 0 < pointPos then name.length - pointPos.toNat - 1 else 0
  if 8 < baseLength ∨ 3 < extensionLength then throw .outOfBounds
  let realName := strncpy (fun _ => 0x20) 0 (chars name) baseLength
  let extension := strncpy (fun _ => 0x10) 0 (slice (chars name) (baseLength + 1)) extensionLength
  return strncmp entry realName 8 = 0 ∧ strncmp (slice entry 8) extension 3 = 0

/-- `compareEntryWithEntryByFullName` gives zero. -/
def sameFullName (entry1 entry2 : DirectoryEntry) : Bool :=
  strncmp entry1 entry2 8 = 0 && strncmp (slice entry1 8) (slice entry2 8) 3 = 0

/-- The check sum of a short name, collected in an array of eleven characters. -/
def getCheckSumFromSEntry (entry : DirectoryEntry) (upperName : Nat → UInt8) : UInt8 :=
  let upperName := strncpy upperName 0 entry 8
  let upperName := strncpy upperName 8 (slice entry 8) 3
  (List.range 11).foldl (fun sum i => ((sum >>> 1) ||| (sum <<< 7)) + upperName i) 0

section Code

variable (env : Environment) (fat : FatPrivate) (stack : Stack)

/-! ## Reading a directory -/

/-- `getDirEntrySingleCluster`: the code, the number of entries, which may be as it was,
and the entries. The block is asked for one entry and takes a cluster. -/
def getDirEntrySingleCluster (clusterNum outMaxEntries : Nat) (errCode : Code) :
    M (Code × Nat × Option Entries) := do
  match ← kzalloc env 32 with
  | none => return (errCode, outMaxEntries, none)
  | some block =>
    let errCode ← seekRead env (dataClusterToAbsoluteAddress fat clusterNum)
    if errCode < 0 then return (errCode, outMaxEntries, none)
    let (errCode, bytes) ← readStream env (fun _ => 0) block.capacity 0 fat.clusterSize
    if errCode < 0 then return (errCode, outMaxEntries, none)
    return (errCode, fat.clusterSize / 32, some ⟨block, bytes⟩)

/-- The first loop of `getDirEntries`, with the number of clusters that its array still
has room for. -/
def listClusters : Nat → List Nat → Nat → Nat → Code → M (Code × Option (List Nat))
  | 0, _, _, _, _ => throw .outOfBounds
  | room + 1, clusterList, dataClusterNum, fatDir, errCode => do
    let clusterList := clusterList ++ [dataClusterNum]
    let dataClusterNum := fatDir
    if fatDir ≠ FAT_ENTRY_USED ∧ fatDir ≠ FAT_ENTRY_FREE then
      let (errCode, fatDir) ← getFatEntry env fat dataClusterNum
      if errCode < 0 then return (errCode, none)
      listClusters room clusterList dataClusterNum fatDir errCode
    else return (errCode, some clusterList)

/-- Its second loop. The place of a cluster is counted in entries instead of bytes, and
the codes are not looked at. -/
def readClusters (block : Block) : List Nat → Nat → Code → (Nat → UInt8) → M (Code × (Nat → UInt8))
  | [], _, errCode, ret => return (errCode, ret)
  | cluster :: clusterList, i, _, ret => do
    let _ ← seekRead env (dataClusterToAbsoluteAddress fat cluster)
    let (errCode, ret) ← readStream env ret block.capacity (i * fat.clusterSize % 2 ^ 32 * 32)
      fat.clusterSize
    readClusters block clusterList (i + 1) errCode ret

/-- `getDirEntries`: the code, the number of entries, zero where none is set, and the
entries. -/
def getDirEntries (dataClusterNum : Nat) : M (Code × Nat × Option Entries) := do
  let (errCode, fatDir) ← getFatEntry env fat dataClusterNum
  if errCode < 0 then return (errCode, 0, none)
  match ← listClusters env fat 255 [] dataClusterNum fatDir errCode with
  | (errCode, none) => return (errCode, 0, none)
  | (errCode, some clusterList) =>
    let size := fat.clusterSize * clusterList.length % 2 ^ 32
    match ← kzalloc env size with
    | none => return (-ENMEM, 0, none)
    | some block =>
      let (errCode, ret) ← readClusters env fat block clusterList 0 errCode fun _ => 0
      return (errCode, size / 32, some ⟨block, ret⟩)

/-- The block of entries that may be NULL. -/
def blockOf (entries : Option Entries) : Option Block := entries.map (·.block)

/-! ## Looking up a name -/

/-- The loop of `findDirEntry`, with what is left of the entries and the chain of long
entries so far. The attributes of an entry are read before it is known to be there. -/
def scanEntries (entries : Entries) (name : CString) (wanted : UInt8) :
    Nat → Nat → List LongFileNameEntry → M (Option Nat)
  | 0, counter, _ => do
    let _ ← readAttributes (some entries) counter
    return none
  | left + 1, counter, lfnChain => do
    let attributes ← readAttributes (some entries) counter
    if attributes = 0 then return none
    if attributes = DIR_ENTRY_ATTRIBUTE_LNF then
      if 12 ≤ lfnChain.length then throw .outOfBounds
      scanEntries entries name wanted left (counter + 1) (lfnChain ++ [entries.entry counter])
    else if lfnChain ≠ [] then
      let requests := (← get).requests
      let fullName := longFileNameEntriesToName lfnChain (stack requests (.fullName counter))
      let checkSum := getCheckSumFromSEntry (entries.entry counter) (stack requests .upperName)
      let lfnCheckSum := entries.entry (counter - 1) 13
      if strncmp fullName (chars name) BOBAOS_MAX_PATH_SIZE = 0 ∧ attributes = wanted ∧
          checkSum = lfnCheckSum then
        return some counter
      scanEntries entries name wanted left (counter + 1) []
    else
      if ← compareShortWithName (entries.entry counter) name then return some counter
      scanEntries entries name wanted left (counter + 1) []

def findDirEntry (dataClusterNum : Nat) (name : CString) (wanted : UInt8) :
    M (Code × Option Entries) := do
  match ← kzalloc env 32 with
  | none => return (-ENMEM, none)
  | some ret =>
    match ← getDirEntries env fat dataClusterNum with
    | (_, _, none) =>
      kzfree (some ret)
      return (-ENFOUND, none)
    | (errCode, maxEntries, some entries) =>
      match ← scanEntries stack entries name wanted maxEntries 0 [] with
      | none =>
        kzfree (some entries.block)
        kzfree (some ret)
        return (-ENFOUND, none)
      | some counter =>
        kzfree (some entries.block)
        return (errCode, some ⟨ret, entries.entry counter⟩)

/-! ## Following a path -/

/-- The entry that stands for a directory without one. -/
def directoryAt (dataClusterNum : Nat) : DirectoryEntry :=
  DirectoryEntry.setAttributes (DirectoryEntry.setStartCluster (fun _ => 0) dataClusterNum)
    DIR_ENTRY_ATTRIBUTE_DIRECTORY

/-- The end of `findDirectory`: what was found has to be a directory. -/
def checkDirectory (errCode : Code) (entry : Entries) : Code × Option Entries :=
  if (entry.entry 0).attributes = DIR_ENTRY_ATTRIBUTE_DIRECTORY then (errCode, some entry)
  else (-ENFOUND, none)

/-- The loop of `findDirectory` with the part it is at. It goes on to the next part only if
that one and the one behind it are directories, so that the wanted attribute stays the
same. -/
def followParts : PathTracerPart → List PathTracerPart → Nat → M (Code × Option Entries)
  | part, parts, dataClusterNum => do
    match ← findDirEntry env fat stack dataClusterNum part.pathPart
        DIR_ENTRY_ATTRIBUTE_DIRECTORY with
    | (errCode, none) => return (errCode, none)
    | (errCode, some entry) =>
      match parts with
      | part :: next :: parts =>
        if part.type = .DIRECTORY ∧ next.type = .DIRECTORY then
          kzfree (some entry.block)
          followParts part (next :: parts) (entry.entry 0).startCluster
        else return checkDirectory errCode entry
      | _ => return checkDirectory errCode entry

/-- `findDirectory`. The root of a path without parts has been freed: to look at it is a
fault. -/
def findDirectory (tracer : PathTracer) (errCode : Code) : M (Code × Option Entries) := do
  match tracer.parts with
  | [] => throw .outOfBounds
  | part :: parts =>
    let dataClusterNum := absoluteAddressToCluster fat fat.rootDirStartAddress
    if part.type = .FILE then
      match ← kzalloc env 32 with
      | none => return (-ENMEM, none)
      | some block => return (errCode, some ⟨block, directoryAt dataClusterNum⟩)
    else followParts env fat stack part parts dataClusterNum

def findFile (tracer : PathTracer) (errCode : Code) : M (Code × Option FatFile) := do
  match ← findDirectory env fat stack tracer errCode with
  | (errCode, none) => return (errCode, none)
  | (_, some entry) =>
    match pathTracerGetFileName tracer with
    | none => return (-EIARG, none)
    | some fileName =>
      let clusterNum := (entry.entry 0).startCluster
      let (errCode, fileEntry) ← findDirEntry env fat stack clusterNum fileName
        DIR_ENTRY_ATTRIBUTE_ARCHIVE
      kzfree (some entry.block)
      match fileEntry with
      | none => return (errCode, none)
      | some fileEntry =>
        match ← kzalloc env 8 with
        | none => return (-ENMEM, none)
        | some _ =>
          kzfree (some fileEntry.block)
          return (errCode, some ⟨(fileEntry.entry 0).startCluster, (fileEntry.entry 0).fileSize⟩)

/-! ## Replacing an entry -/

def writeEntryAtAddress (entry : DirectoryEntry) (address : Nat) : M Code := do
  let errCode ← seekWrite env address
  if errCode < 0 then return errCode
  writeStream env entry 32

/-- The loop over the entries of a cluster, with what is left of them: the first one with
the same name. -/
def findSameName (entries : Option Entries) (entryToUpdate : DirectoryEntry) :
    Nat → Nat → M (Option Nat)
  | 0, _ => return none
  | left + 1, i => do
    if (← readAttributes entries i) ≠ 0 ∧
        entries.any fun entries => sameFullName (entries.entry i) entryToUpdate then
      return some i
    findSameName entries entryToUpdate left (i + 1)

/-- The loop of `updateDirectoryEntry`. What follows is always the entry of the first
cluster, so that it goes on forever once it has looked at two without success. -/
def updateEntries (clusterOfDirectory : Nat) (entryToUpdate newEntry : DirectoryEntry) :
    Nat → Nat → Nat → Code → M Code
  | 0, _, _, _ => throw .endless
  | fuel + 1, nextEntry, maxEntriesPerDirectory, ret => do
    let (ret, maxEntriesPerDirectory, entries) ←
      getDirEntrySingleCluster env fat nextEntry maxEntriesPerDirectory ret
    if ret < 0 then return ret
    match ← findSameName entries entryToUpdate maxEntriesPerDirectory 0 with
    | some i =>
      writeEntryAtAddress env newEntry (dataClusterToAbsoluteAddress fat nextEntry + i * 32)
    | none =>
      let (ret, nextEntry) ← getFatEntry env fat clusterOfDirectory
      if ret < 0 then return ret
      if nextEntry ≠ FAT_ENTRY_FREE ∧ nextEntry ≠ FAT_ENTRY_USED then
        updateEntries clusterOfDirectory entryToUpdate newEntry fuel nextEntry
          maxEntriesPerDirectory ret
      else return -ENFOUND

def updateDirectoryEntry (clusterOfDirectory : Nat) (entryToUpdate newEntry : DirectoryEntry) :
    M Code := do
  let garbage := stack (← get).requests .maxEntriesPerDirectory
  updateEntries env fat clusterOfDirectory entryToUpdate newEntry (2 ^ 32) clusterOfDirectory
    (readWord garbage 0) 0

end Code

end BobaOS.Fat
