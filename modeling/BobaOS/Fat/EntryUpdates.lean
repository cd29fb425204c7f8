import Mathlib.Data.List.Find
import BobaOS.Fat.DirectoryReads
import BobaOS.Fat.DirectoryScans

/-!
# Replacing an entry of a directory

`updateDirectoryEntry` looks for an entry in one cluster of the directory after the other,
but asks for the entry of the first cluster each time: behind the second cluster it comes to
the second cluster again. It replaces the entry if it is in one of the first two, reports
that there is none for a directory of one cluster, and goes on forever otherwise.
-/

namespace BobaOS.Fat

open ByteStore Programs Chains Vfsl

/-! ## The slots of a directory -/

/-- An entry that is in use has the name of the one looked for. -/
def hasName (wanted entry : DirectoryEntry) : Bool :=
  decide (entry.attributes ≠ 0) && sameFullName entry wanted

/-- The address of the first of the slots from an address on that has the name. -/
def slotIn (bytes : Nat → UInt8) (wanted : DirectoryEntry) (slots start : Nat) : Option Nat :=
  ((List.range' 0 slots).find? fun i => hasName wanted (slice bytes (start + 32 * i))).map
    fun i => start + 32 * i

/-- The first slot that has the name, in clusters that begin at these addresses. -/
def firstSlot (bytes : Nat → UInt8) (wanted : DirectoryEntry) (slots : Nat) (starts : List Nat) :
    Option Nat :=
  starts.findSome? (slotIn bytes wanted slots)

/-- The comparison of two strings depends on the characters compared only. -/
theorem strncmpFrom_congr {left right : Nat → UInt8} (other : Nat → UInt8) (count counter : Nat)
    (same : ∀ i < count, left (counter + i) = right (counter + i)) :
    strncmpFrom left other count counter = strncmpFrom right other count counter := by
  induction count generalizing counter with
  | zero => rfl
  | succ count induction =>
    have first : left counter = right counter := same 0 (Nat.zero_lt_succ count)
    have rest := induction (counter + 1) fun i before => by
      rw [Nat.add_assoc, Nat.add_comm 1 i]
      exact same (i + 1) (Nat.succ_lt_succ before)
    rw [strncmpFrom, strncmpFrom, first, rest]

/-- Whether an entry has a name is told by its first twelve bytes. -/
theorem hasName_congr (wanted : DirectoryEntry) {left right : DirectoryEntry}
    (same : ∀ i < 12, left i = right i) : hasName wanted left = hasName wanted right := by
  have attributes : left.attributes = right.attributes := same 11 (by decide)
  have name : strncmp left wanted 8 = strncmp right wanted 8 :=
    strncmpFrom_congr wanted 8 0 fun i before => same (0 + i) (by omega)
  have extension : strncmp (slice left 8) (slice wanted 8) 3 =
      strncmp (slice right 8) (slice wanted 8) 3 :=
    strncmpFrom_congr (slice wanted 8) 3 0 fun i before => same (8 + (0 + i)) (by omega)
  rw [hasName, hasName, sameFullName, sameFullName, attributes, name, extension]

/-! ## The operations -/

variable {env : Environment} {fat : FatPrivate} {stack : Stack} {world : World}
  {fault : Fault → Prop}

/-- A volume whose FAT can be read and whose clusters are not empty. -/
structure Readable (env : Environment) (fat : FatPrivate) : Prop where
  narrow : fat.fatAddress < 2 ^ 32
  table : fat.fatAddress + fat.fatSize ≤ env.volumeSize
  small : fat.clusterSize < 2 ^ 32
  positive : 0 < fat.clusterSize

/-- The entries of a cluster are read where the driver looks for it, or do not fit into the
block, for which the size of one entry is asked. -/
theorem getDirEntrySingleCluster_meets (quiet : env.Quiet) (roomy : env.Roomy)
    (positive : 0 < fat.clusterSize) (small : fat.clusterSize < 2 ^ 32) {cluster : Nat}
    (inside : dataClusterToAbsoluteAddress fat cluster + fat.clusterSize ≤ env.volumeSize)
    (outMaxEntries : Nat) (errCode : Code) :
    Meets (getDirEntrySingleCluster env fat cluster outMaxEntries errCode) world
      (fun fault => fault = .outOfBounds ∧ env.capacity 32 < fat.clusterSize)
      fun result after => Same world after ∧ fat.clusterSize ≤ env.capacity 32 ∧
        ∃ entries : Entries, result = (SUCCESS, fat.clusterSize / 32, some entries) ∧
          entries.block.capacity = env.capacity 32 ∧
          entries.bytes = overwrite (fun _ => 0) 0 fat.clusterSize
            (slice world.bytes (dataClusterToAbsoluteAddress fat cluster)) := by
  have below := dataClusterToAbsoluteAddress_lt fat cluster
  have fits : (dataClusterToAbsoluteAddress fat cluster + fat.clusterSize) % 2 ^ 64 =
      dataClusterToAbsoluteAddress fat cluster + fat.clusterSize := Nat.mod_eq_of_lt (by omega)
  have succeeds (call : Nat) : ¬ env.transfer call < 0 := by
    rw [quiet]
    decide
  rw [getDirEntrySingleCluster]
  apply (kzalloc_meets _).bind
  rintro (_ | block) between ⟨same, refused, room⟩
  · exact absurd roomy (refused rfl)
  have capacity : block.capacity = env.capacity 32 := room block rfl
  dsimp only
  apply (seekRead_cases _).bind
  rintro code moved (⟨rfl, -, rfl⟩ | ⟨-, outside, -⟩)
  case inr => omega
  rw [if_success]
  by_cases whole : fat.clusterSize ≤ env.capacity 32
  · apply (readStream_meets quiet (fun _ => 0) block.capacity 0 fat.clusterSize (by omega)).bind
    rintro ⟨code, bytes⟩ after ⟨still, ⟨rfl, -, rfl⟩ | ⟨-, beyond, -⟩⟩
    · dsimp only
      rw [if_success]
      refine .pure ⟨⟨still.bytes.trans same.bytes, still.searches.trans same.searches⟩, whole, _,
        rfl, capacity, ?_⟩
      rw [← same.bytes]
    · dsimp only at beyond
      omega
  · rw [readStream, bind_assoc, meets_bind, meets_get, if_neg (by dsimp only; omega)]
    simp only
    rw [if_neg (succeeds _), if_pos (by omega), meets_bind]
    exact .throw ⟨rfl, Nat.not_le.mp whole⟩

/-- The entry that leads on from a data cluster is read. -/
theorem Readable.getFatEntry_meets (readable : Readable env fat) (quiet : env.Quiet)
    {cluster : Nat} (is_data : DataCluster env fat cluster) :
    Meets (getFatEntry env fat cluster) world fault fun result after =>
      after.bytes = world.bytes ∧ 0 ≤ result.1 ∧ result.2 = entryAt fat world.bytes cluster := by
  have table := readable.table
  have entry := is_data.entry
  have small := is_data.narrow
  apply (getFatEntry_cases readable.narrow (by omega)).mono
  rintro result after ⟨bytes, ⟨outside | failed, -⟩ | ⟨-, nonnegative, read, -⟩⟩
  · omega
  · rw [quiet] at failed
    exact absurd failed (by decide)
  · exact ⟨bytes, nonnegative, read⟩

/-- The loop over the entries of a cluster finds the first that has the name. -/
theorem findSameName_eq (entries : Entries) (wanted : DirectoryEntry) (left i : Nat)
    (room : 32 * (i + left) ≤ entries.block.capacity) :
    findSameName (some entries) wanted left i =
      pure ((List.range' i left).find? fun i => hasName wanted (entries.entry i)) := by
  induction left generalizing i with
  | zero => rfl
  | succ left induction =>
    rw [findSameName, readAttributes, if_neg (by omega), pure_bind, List.range'_succ,
      List.find?_cons]
    by_cases found : hasName wanted (entries.entry i) = true
    · rw [found, if_pos (by simpa [hasName] using found)]
    · rw [if_neg (by simpa [hasName] using found), Bool.eq_false_iff.mpr found]
      exact induction (i + 1) (by omega)

/-- What comes of an update, by the slot that has the name. -/
def Replaced (bytes : Nat → UInt8) (newEntry : DirectoryEntry) (slot : Option Nat) (ret : Code)
    (after : Nat → UInt8) : Prop :=
  match slot with
  | some address => ret = SUCCESS ∧ after = overwrite bytes address 32 newEntry
  | none => ret = -ENFOUND ∧ after = bytes

section Loop

variable {clusterOfDirectory cluster : Nat} {entryToUpdate newEntry : DirectoryEntry}

/-- The search of a cluster that was read finds the slot that the volume has there. -/
theorem find_slotIn (entryToUpdate : DirectoryEntry) {bytes : Nat → UInt8} {entries : Entries}
    {start size : Nat}
    (read : entries.bytes = overwrite (fun _ => 0) 0 size (slice bytes start)) :
    ((List.range' 0 (size / 32)).find? fun i => hasName entryToUpdate (entries.entry i)).map
      (fun i => start + 32 * i) = slotIn bytes entryToUpdate (size / 32) start := by
  rw [slotIn]
  congr 1
  refine List.find?_congr fun i member => hasName_congr entryToUpdate fun offset before => ?_
  have inside : i < size / 32 := by simpa using member
  rw [Entries.entry, slice_apply, slice_apply, read,
    overwrite_inside _ _ _ _ _ ⟨Nat.zero_le _, by omega⟩, slice_apply, Nat.sub_zero, Nat.add_assoc]

/-- An entry is written where it was found. -/
theorem writeEntryAtAddress_meets (quiet : env.Quiet) (entry : DirectoryEntry) {address : Nat}
    (inside : address + 32 ≤ env.volumeSize) (narrow : address < 2 ^ 33) :
    Meets (writeEntryAtAddress env entry address) world fault fun ret after =>
      ret = SUCCESS ∧ after.bytes = overwrite world.bytes address 32 entry := by
  have fits : (address + 32) % 2 ^ 64 = address + 32 := Nat.mod_eq_of_lt (by omega)
  rw [writeEntryAtAddress]
  apply (seekWrite_meets address).bind
  rintro ret moved ⟨same, ⟨rfl, -, there⟩ | ⟨-, outside⟩⟩
  case inr => omega
  rw [if_success]
  apply (writeStream_meets quiet entry 32).mono
  rintro ret after ⟨-, ⟨rfl, -, written⟩ | ⟨-, outside, -⟩⟩
  · rw [there, same.bytes] at written
    exact ⟨rfl, written⟩
  · rw [there, fits] at outside
    omega

/-- One pass of the loop: the entry is replaced in this cluster, or the loop ends or goes on
as the entry of the first cluster says. -/
theorem updateEntries_step (readable : Readable env fat) (quiet : env.Quiet) (roomy : env.Roomy)
    (whole : fat.clusterSize ≤ env.capacity 32) (first : DataCluster env fat clusterOfDirectory)
    (is_data : DataCluster env fat cluster) (fuel maxEntries : Nat) (code : Code)
    {post : Code → World → Prop}
    (ends : ∀ slot ret after, slotIn world.bytes entryToUpdate (fat.clusterSize / 32)
        (dataClusterToAbsoluteAddress fat cluster) = slot →
      (slot = none → IsMark (entryAt fat world.bytes clusterOfDirectory)) →
      Replaced world.bytes newEntry slot ret after.bytes → post ret after)
    (goes_on : ∀ maxEntries ret after, after.bytes = world.bytes →
      slotIn world.bytes entryToUpdate (fat.clusterSize / 32)
        (dataClusterToAbsoluteAddress fat cluster) = none →
      ¬ IsMark (entryAt fat world.bytes clusterOfDirectory) →
      Meets (updateEntries env fat clusterOfDirectory entryToUpdate newEntry fuel
        (entryAt fat world.bytes clusterOfDirectory) maxEntries ret) after fault post) :
    Meets (updateEntries env fat clusterOfDirectory entryToUpdate newEntry (fuel + 1) cluster
      maxEntries code) world fault post := by
  have place := is_data.place_inside
  have below := dataClusterToAbsoluteAddress_lt fat cluster
  have small := readable.small
  rw [updateEntries]
  apply ((getDirEntrySingleCluster_meets quiet roomy readable.positive small place maxEntries
    code).mono_fault fun _ both => absurd both.2 (Nat.not_lt.mpr whole)).bind
  rintro ⟨ret, count, found⟩ read ⟨same, -, entries, result, capacity, bytes⟩
  obtain ⟨rfl, rfl, rfl⟩ : ret = SUCCESS ∧ count = fat.clusterSize / 32 ∧ found = some entries := by
    simpa using result
  have slot := find_slotIn entryToUpdate bytes
  dsimp only
  rw [if_success, findSameName_eq entries entryToUpdate _ 0 (by omega), pure_bind]
  cases search : (List.range' 0 (fat.clusterSize / 32)).find?
      fun i => hasName entryToUpdate (entries.entry i) with
  | some i =>
    rw [search] at slot
    have inside : i < fat.clusterSize / 32 := by simpa using List.mem_of_find?_eq_some search
    apply (writeEntryAtAddress_meets quiet newEntry (by omega) (by omega)).mono
    rintro ret after ⟨rfl, written⟩
    refine ends _ _ after slot.symm (fun impossible => nomatch impossible) ⟨rfl, ?_⟩
    rw [written, same.bytes, Nat.mul_comm i 32]
  | none =>
    rw [search] at slot
    apply (readable.getFatEntry_meets quiet first).bind
    rintro ⟨ret, next⟩ after ⟨still, nonnegative, rfl⟩
    dsimp only at nonnegative ⊢
    rw [if_neg (Int.not_lt.mpr nonnegative), same.bytes, meets_ite]
    constructor
    · rintro ⟨not_free, not_used⟩
      exact goes_on _ ret after (still.trans same.bytes) slot.symm
        fun mark => mark.elim not_used not_free
    · intro mark
      rw [not_and_or, not_not, not_not] at mark
      exact .pure (ends none _ after slot.symm (fun _ => mark.symm) ⟨rfl, still.trans same.bytes⟩)

/-- Once the loop is at the cluster that the entry of the first one leads to, and the name is
not in it, it stays there.

Proof: by induction on the passes, which change nothing. -/
theorem updateEntries_endless (readable : Readable env fat) (quiet : env.Quiet)
    (roomy : env.Roomy) (whole : fat.clusterSize ≤ env.capacity 32)
    (first : DataCluster env fat clusterOfDirectory) (is_data : DataCluster env fat cluster)
    (leads : entryAt fat world.bytes clusterOfDirectory = cluster) (goes_on : ¬ IsMark cluster)
    (absent : slotIn world.bytes entryToUpdate (fat.clusterSize / 32)
      (dataClusterToAbsoluteAddress fat cluster) = none) (fuel maxEntries : Nat) (code : Code) :
    Meets (updateEntries env fat clusterOfDirectory entryToUpdate newEntry fuel cluster maxEntries
      code) world (· = .endless) fun _ _ => False := by
  induction fuel generalizing world maxEntries code with
  | zero => exact .throw rfl
  | succ fuel induction =>
    apply updateEntries_step readable quiet roomy whole first is_data
    · intro slot ret after here mark _
      rw [← leads] at goes_on
      exact goes_on (mark (here.symm.trans absent))
    · intro maxEntries ret after bytes _ _
      rw [leads]
      exact induction (by rw [bytes, leads]) (by rw [bytes, absent]) maxEntries ret

end Loop

section Directory

variable {cluster : Nat} {rest : List Nat} {entryToUpdate newEntry : DirectoryEntry}

/-- Where the driver looks for the clusters of a directory that it comes to. -/
def looksAt (fat : FatPrivate) (cells : List Nat) : List Nat :=
  (cells.take 2).map (dataClusterToAbsoluteAddress fat)

/-- The slot that an update of the directory comes to. -/
def slotReached (fat : FatPrivate) (bytes : Nat → UInt8) (wanted : DirectoryEntry)
    (cells : List Nat) : Option Nat :=
  firstSlot bytes wanted (fat.clusterSize / 32) (looksAt fat cells)

/-- The slot of the directory that has the name. -/
def slotOf (fat : FatPrivate) (bytes : Nat → UInt8) (wanted : DirectoryEntry) (cells : List Nat) :
    Option Nat :=
  firstSlot bytes wanted (fat.clusterSize / 32) (cells.map (clusterStart fat))

/-- The loop replaces the entry in the first two clusters, or says of a directory of one
cluster that there is none. It goes on forever otherwise. -/
theorem updateEntries_meets (readable : Readable env fat) (quiet : env.Quiet)
    (roomy : env.Roomy) (whole : fat.clusterSize ≤ env.capacity 32)
    (chain : Chain (links fat world.bytes) (cluster :: rest))
    (clusters : Clusters env fat (cluster :: rest)) (fuel maxEntries : Nat) (code : Code) :
    Meets (updateEntries env fat cluster entryToUpdate newEntry (fuel + 2) cluster maxEntries code)
      world (fun fault => fault = .endless ∧
        ¬ (slotReached fat world.bytes entryToUpdate (cluster :: rest) = none → rest = []))
      fun ret after =>
        (slotReached fat world.bytes entryToUpdate (cluster :: rest) = none → rest = []) ∧
          Replaced world.bytes newEntry
            (slotReached fat world.bytes entryToUpdate (cluster :: rest)) ret after.bytes := by
  have first : DataCluster env fat cluster := clusters cluster List.mem_cons_self
  have leads : entryAt fat world.bytes cluster = entryTo rest :=
    (table_eq _ first.entry).symm.trans (chain_entryTo chain)
  apply updateEntries_step readable quiet roomy whole first first (fuel + 1)
  · intro slot ret after here mark replaced
    cases slot with
    | some address =>
      have reached : slotReached fat world.bytes entryToUpdate (cluster :: rest) = some address := by
        simp [slotReached, looksAt, firstSlot, here]
      rw [reached]
      exact ⟨fun impossible => (nomatch impossible), replaced⟩
    | none =>
      have ended : rest = [] := by
        cases rest with
        | nil => rfl
        | cons next rest =>
          have no_mark := chain_no_mark chain
          have marked := mark rfl
          rw [leads] at marked
          exact absurd marked (not_or.mpr ⟨no_mark.2, no_mark.1⟩)
      subst ended
      have reached : slotReached fat world.bytes entryToUpdate [cluster] = none := by
        simp [slotReached, looksAt, firstSlot, here]
      rw [reached]
      exact ⟨fun _ => rfl, replaced⟩
  · intro maxEntries code after bytes absent goes_on
    cases rest with
    | nil => exact absurd (Or.inl leads) goes_on
    | cons next rest =>
      have second : DataCluster env fat next := clusters.tail next List.mem_cons_self
      have next_leads : entryAt fat world.bytes cluster = next := leads
      have reached : slotReached fat world.bytes entryToUpdate (cluster :: next :: rest) =
          slotIn world.bytes entryToUpdate (fat.clusterSize / 32)
            (dataClusterToAbsoluteAddress fat next) := by
        simp [slotReached, looksAt, firstSlot, absent]
      rw [next_leads] at goes_on ⊢
      rw [reached]
      cases here : slotIn world.bytes entryToUpdate (fat.clusterSize / 32)
          (dataClusterToAbsoluteAddress fat next) with
      | none =>
        have endless : Meets (updateEntries env fat cluster entryToUpdate newEntry (fuel + 1) next
            maxEntries code) after (· = .endless) fun _ _ => False :=
          updateEntries_endless readable quiet roomy whole first second
            ((congrArg (entryAt fat · cluster) bytes).trans next_leads) goes_on
            (by rw [bytes, here]) (fuel + 1) maxEntries code
        refine (endless.mono fun _ _ impossible => impossible.elim).mono_fault ?_
        rintro problem rfl
        exact ⟨rfl, fun one => List.cons_ne_nil _ _ (one rfl)⟩
      | some address =>
        apply updateEntries_step readable quiet roomy whole first second fuel
        · intro slot ret final found _ replaced
          rw [bytes, here] at found
          rw [← found, bytes] at replaced
          exact ⟨fun impossible => (nomatch impossible), replaced⟩
        · intro _ _ _ _ none_here
          rw [bytes, here] at none_here
          exact nomatch none_here

/-- The same of `updateDirectoryEntry`, whose fuel lets it come to any cluster. -/
theorem updateDirectoryEntry_meets (readable : Readable env fat) (quiet : env.Quiet)
    (roomy : env.Roomy) (whole : fat.clusterSize ≤ env.capacity 32)
    (chain : Chain (links fat world.bytes) (cluster :: rest))
    (clusters : Clusters env fat (cluster :: rest)) :
    Meets (updateDirectoryEntry env fat stack cluster entryToUpdate newEntry) world
      (fun fault => fault = .endless ∧
        ¬ (slotReached fat world.bytes entryToUpdate (cluster :: rest) = none → rest = []))
      fun ret after =>
        (slotReached fat world.bytes entryToUpdate (cluster :: rest) = none → rest = []) ∧
          Replaced world.bytes newEntry
            (slotReached fat world.bytes entryToUpdate (cluster :: rest)) ret after.bytes := by
  obtain ⟨fuel, enough⟩ := Nat.exists_eq_add_of_le' (show 2 ≤ 2 ^ 32 by decide)
  rw [updateDirectoryEntry, meets_bind, meets_get, enough]
  exact updateEntries_meets readable quiet roomy whole chain clusters fuel _ 0

/-- The update of an entry, with whatever it is to be replaced by, replaces the first one in
the directory that has its name, or says that there is none. -/
def UpdatesFirst (env : Environment) (fat : FatPrivate) (stack : Stack) (world : World)
    (cells : List Nat) (entryToUpdate : DirectoryEntry) : Prop :=
  ∀ newEntry, ∃ ret after,
    (updateDirectoryEntry env fat stack (cells.headD 0) entryToUpdate newEntry).run world =
        .ok (ret, after) ∧
      Replaced world.bytes newEntry (slotOf fat world.bytes entryToUpdate cells) ret after.bytes

/-- Two updates with entries that differ from what is there in each byte were made at one
place if they come to the same. -/
theorem Replaced.unique {bytes after : Nat → UInt8} {left right : Option Nat} {ret : Code}
    (first : Replaced bytes (fun offset => bytes (left.getD 0 + offset) + 1) left ret after)
    (second : Replaced bytes (fun offset => bytes (left.getD 0 + offset) + 1) right ret after) :
    left = right := by
  cases left with
  | none =>
    cases right with
    | none => rfl
    | some other => exact absurd (first.1.symm.trans second.1) (by decide)
  | some address =>
    cases right with
    | none => exact absurd (first.1.symm.trans second.1) (by decide)
    | some other =>
      have same := first.2.symm.trans second.2
      have within (offset : Nat) (small : offset < 32) :
          other ≤ address + offset ∧ address + offset < other + 32 := by
        by_contra outside
        have shown := congrFun same (address + offset)
        rw [overwrite_inside _ _ _ _ _ (by omega), overwrite_outside _ _ _ _ _ (by omega),
          Nat.add_sub_cancel_left] at shown
        simp at shown
      have start := within 0 (by decide)
      have stop := within 31 (by decide)
      rw [show address = other by omega]

end Directory

/-- A heap whose blocks are pages. -/
def pageEnvironment (volumeSize : Nat) : Environment :=
  { plainEnvironment volumeSize with capacity := fun size => (size + 4095) / 4096 * 4096 }

/-- A directory of two clusters with an entry in its second cluster. -/
def secondClusterBytes : Nat → UInt8 := overwrite longDirectoryBytes 17952 32 fun _ => 65

theorem smallRecord_readable :
    Readable (pageEnvironment 82944) (attachToDisk smallRecord) := by
  constructor <;> decide

theorem smallRecord_pages : Clusters (pageEnvironment 82944) (attachToDisk smallRecord) [2, 3] :=
  fun cluster member =>
    have is_data := smallRecord_clusters cluster member
    ⟨is_data.numbered, is_data.narrow, is_data.entry, is_data.inside⟩

end BobaOS.Fat
