import BobaOS.Fat.Directories

/-!
# New files

`driver/fat32.c`: a new file takes the first entries of its directory that are free one
after the other, and the directory grows until there are as many. The long name goes
before the entry of the file, whose short name is the name itself in upper case, or its
first six characters with a number that no entry has.
-/

namespace BobaOS.Fat

open ByteStore Programs Vfsl

/-! ## Short names -/

/-- A string in a block of the heap. -/
structure HeapString where
  block : Block
  bytes : Nat → UInt8

/-- The numbers of `generateShortFileName` after some of the entries. -/
structure ShortNumbers where
  low : Nat
  next : Nat
  max : Nat
  foundAtLeastOne : Bool

/-- An entry of a file whose short name is made from the same six characters. -/
def sharesPrefix (fileName : CString) (entry : DirectoryEntry) : Bool :=
  entry.attributes = DIR_ENTRY_ATTRIBUTE_ARCHIVE && strncmp (chars fileName) entry 6 = 0 &&
    entry 6 = TILDE && isNumber (entry 7)

/-- The body of the loop over the entries. -/
def ShortNumbers.count (fileName : CString) (numbers : ShortNumbers) (entry : DirectoryEntry) :
    ShortNumbers :=
  if sharesPrefix fileName entry then
    let num := (toNumber (entry 7)).toNat
    let numbers :=
      if num < numbers.low then { numbers with low := num }
      else if num < numbers.next then { numbers with next := num }
      else if num < numbers.max then { numbers with max := num }
      else numbers
    { numbers with foundAtLeastOne := true }
  else numbers

def ShortNumbers.nextFreeNumber (numbers : ShortNumbers) : Code :=
  if numbers.low + 1 < numbers.next then numbers.low
  else if numbers.next + 1 < numbers.max then numbers.next
  else if numbers.foundAtLeastOne then -ENFOUND
  else 1

/-- The loop over the entries. -/
def countNumbers (fileName : CString) (entries : Option Entries) (entriesCount : Nat) :
    ShortNumbers :=
  let start : ShortNumbers := ⟨9, 9, 9, false⟩
  match entries with
  | none => start
  | some entries =>
    (List.range entriesCount).foldl (fun numbers i => numbers.count fileName (entries.entry i))
      start

section Code

variable (env : Environment) (fat : FatPrivate) (stack : Stack)

/-- `toUpperCase`. The block is asked for without the NUL, which is written all the same. -/
def toUpperCase (str : CString) (len : Nat) : M HeapString := do
  match ← kzalloc env len with
  | none => throw .nullPointer
  | some ret =>
    let upper := (str.take len).map upperCase
    if ret.capacity < upper.length + 1 then throw .outOfBounds
    return ⟨ret, overwrite (fun _ => 0) 0 upper.length (chars upper)⟩

/-- `strncpy` from a place of a string on the heap, which is read up to its next NUL. -/
def strncpyFrom (dest : Nat → UInt8) (offset : Nat) (src : HeapString) (start size : Nat) :
    M (Nat → UInt8) := do
  let stop := ((List.range size).find? fun i => src.bytes (start + i) = 0).elim size (· + 1)
  if src.block.capacity < start + stop then throw .outOfBounds
  return strncpy dest offset (slice src.bytes start) size

/-- The array `n` of `generateShortFileName`. -/
def blankName : Nat → UInt8 := fun i =>
  if i < 8 then 0x20 else if i = 8 then POINT else if i < 12 then 0x10 else 0

/-- `generateShortFileName`: its result and the name. -/
def generateShortFileName (currDir : DirectoryEntry) (fileName : CString) (oName : Nat → UInt8) :
    M (Code × (Nat → UInt8)) := do
  let upperName ← toUpperCase env fileName fileName.length
  let pointPos := findChar fileName POINT
  let len := if 0 < pointPos then pointPos.toNat else fileName.length
  if len ≤ 8 then
    let n ← strncpyFrom blankName 0 upperName 0 len
    let n ← strncpyFrom n 9 upperName (len + 1) 3
    kzfree (some upperName.block)
    return (SUCCESS, strncpy oName 0 n 13)
  else
    let (_, entriesCount, entries) ← getDirEntries env fat currDir.startCluster
    let nextFreeNumber := (countNumbers fileName entries entriesCount).nextFreeNumber
    if 1 ≤ nextFreeNumber then
      let oName ← strncpyFrom oName 0 upperName 0 6
      let oName := overwrite oName 6 1 fun _ => TILDE
      let oName := overwrite oName 7 1 fun _ => UInt8.ofNat (48 + nextFreeNumber.toNat)
      let oName := overwrite oName 8 1 fun _ => POINT
      let t ← if 0 < pointPos then strncpyFrom (fun _ => 0x10) 0 upperName (len + 1) 3
        else pure fun _ => 0x10
      kzfree (some upperName.block)
      kzfree (blockOf entries)
      return (nextFreeNumber, strncpy oName 9 t 3)
    kzfree (some upperName.block)
    kzfree (blockOf entries)
    return (nextFreeNumber, oName)

/-! ## Free entries -/

/-- The loop of `getFreeDirEntriesAddresses` over the entries of a cluster, with what is
left of them: whether there are enough that are free one after the other, and the
addresses of the last ones that are. -/
def scanFree (list : Block) (count oldCluster : Nat) (entries : Option Entries) :
    Nat → Nat → List Nat → M (Bool × List Nat)
  | 0, _, addresses => return (false, addresses)
  | left + 1, entriesCount, addresses => do
    if (← readAttributes entries entriesCount) = 0 then
      if list.capacity < 8 * addresses.length + 8 then throw .outOfBounds
      let addresses :=
        addresses ++ [dataClusterToAbsoluteAddress fat oldCluster + 32 * entriesCount]
      if addresses.length % 2 ^ 8 = count then return (true, addresses)
      scanFree list count oldCluster entries left (entriesCount + 1) addresses
    else scanFree list count oldCluster entries left (entriesCount + 1) []

/-- The same loop over the clusters. A directory that ends grows, and the result of that is
taken for a cluster whatever it is. -/
def searchFree (list : Block) (count : Nat) :
    Nat → Nat → Nat → Nat → Option Entries → List Nat → Code → M (Code × Option (List Nat))
  | 0, _, _, _, _, _, _ => throw .endless
  | fuel + 1, oldCluster, fatEntry, maxEntriesPerCluster, entries, addresses, errCode => do
    let (enough, addresses) ←
      scanFree fat list count oldCluster entries maxEntriesPerCluster 0 addresses
    if enough then return (errCode, some addresses)
    let fatEntry ← if fatEntry = FAT_ENTRY_USED then asUInt32 <$> makeDirBigger env fat oldCluster
      else pure fatEntry
    kzfree (blockOf entries)
    let (_, maxEntriesPerCluster, entries) ←
      getDirEntrySingleCluster env fat fatEntry maxEntriesPerCluster errCode
    let oldCluster := fatEntry
    let (errCode, fatEntry) ← getFatEntry env fat fatEntry
    if errCode < 0 then
      kzfree (blockOf entries)
      return (errCode, none)
    searchFree list count fuel oldCluster fatEntry maxEntriesPerCluster entries addresses errCode

/-- The end of a pass of this loop, which goes on with the cluster `fatEntry`. -/
def searchNext (list : Block) (count fuel maxEntriesPerCluster : Nat) (entries : Option Entries)
    (addresses : List Nat) (errCode : Code) (fatEntry : Nat) : M (Code × Option (List Nat)) := do
  kzfree (blockOf entries)
  let (_, maxEntriesPerCluster, entries) ←
    getDirEntrySingleCluster env fat fatEntry maxEntriesPerCluster errCode
  let oldCluster := fatEntry
  let (errCode, fatEntry) ← getFatEntry env fat fatEntry
  if errCode < 0 then
    kzfree (blockOf entries)
    return (errCode, none)
  searchFree env fat list count fuel oldCluster fatEntry maxEntriesPerCluster entries addresses
    errCode

theorem searchFree_succ (list : Block) (count fuel oldCluster fatEntry maxEntriesPerCluster : Nat)
    (entries : Option Entries) (addresses : List Nat) (errCode : Code) :
    searchFree env fat list count (fuel + 1) oldCluster fatEntry maxEntriesPerCluster entries
      addresses errCode = (do
        let (enough, addresses) ←
          scanFree fat list count oldCluster entries maxEntriesPerCluster 0 addresses
        if enough then return (errCode, some addresses)
        let fatEntry ← if fatEntry = FAT_ENTRY_USED then
            asUInt32 <$> makeDirBigger env fat oldCluster
          else pure fatEntry
        searchNext env fat list count fuel maxEntriesPerCluster entries addresses errCode
          fatEntry) := rfl

/-- `getFreeDirEntriesAddresses`: the code and the array of addresses, for which as many
bytes are asked for as it has elements. -/
def getFreeDirEntriesAddresses (startEntry : DirectoryEntry) (count : Nat) :
    M (Code × Option (Block × List Nat)) := do
  match ← kzalloc env count with
  | none => return (-ENMEM, none)
  | some dirEntryAddressList =>
    let oldCluster := startEntry.startCluster
    let (errCode, fatEntry) ← getFatEntry env fat oldCluster
    if errCode < 0 then return (errCode, none)
    let (errCode, maxEntriesPerCluster, entries) ←
      getDirEntrySingleCluster env fat oldCluster 0 errCode
    match ← searchFree env fat dirEntryAddressList count (2 ^ 32) oldCluster fatEntry
        maxEntriesPerCluster entries [] errCode with
    | (errCode, none) => return (errCode, none)
    | (errCode, some addresses) => return (errCode, some (dirEntryAddressList, addresses))

/-! ## Creating a file -/

/-- The number of entries of a new file, kept in a `uint8_t`. -/
def entriesOfFile (fileName : CString) : Nat :=
  (fileName.length / 13 + (if 0 < fileName.length % 13 then 1 else 0) + 1) % 2 ^ 8

/-- `createFatFileInDir`: the code and the file, NULL if there is none. -/
def createFatFileInDir (entry : DirectoryEntry) (fileName : CString) : M (Code × Option FatFile) := do
  match ← getFreeDirEntriesAddresses env fat entry (entriesOfFile fileName) with
  | (errCode, none) => return (errCode, none)
  | (errCode, some (block, addressList)) =>
    if errCode < 0 then
      kzfree (some block)
      return (errCode, none)
    let (_, shortFileName) ← generateShortFileName env fat entry fileName fun _ => 0
    let requests := (← get).requests
    let tempEntry := strncpy (stack requests .tempEntry) 0 shortFileName 8
    let tempEntry := strncpy tempEntry 8 (slice shortFileName 9) 3
    let checkSum := getCheckSumFromSEntry tempEntry (stack requests .upperName)
    let errCode ← createLongFileNameEntryAtAddress env (fun i => addressList.getD i 0) fileName
      checkSum errCode
    if errCode < 0 then
      kzfree (some block)
      return (errCode, none)
    let (errCode, file) ← createFileEntryAtAbsoluteAddress env fat
      (addressList.getD (entriesOfFile fileName - 1) 0) shortFileName errCode
    kzfree (some block)
    return (errCode, file)

/-- The part of `openFile` that finds the file or creates it. -/
def findOrCreate (tracer : PathTracer) (create : Bool) (errCode : Code) :
    M (Code × Option FatFile) := do
  match ← findFile env fat stack tracer errCode with
  | (errCode, some fatFile) => return (errCode, some fatFile)
  | (errCode, none) =>
    if create ∧ (errCode = 0 ∨ errCode = -ENFOUND) then
      match ← findDirectory env fat stack tracer errCode with
      | (errCode, none) => return (errCode, none)
      | (errCode, some entry) =>
        match pathTracerGetFileName tracer with
        | none =>
          kzfree (some entry.block)
          return (errCode, none)
        | some fileName =>
          let (errCode, fatFile) ← createFatFileInDir env fat stack (entry.entry 0) fileName
          kzfree (some entry.block)
          return (errCode, fatFile)
    else return (errCode, none)

end Code

end BobaOS.Fat
