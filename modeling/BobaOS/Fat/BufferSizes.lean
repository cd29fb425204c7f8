import BobaOS.Fat.EntryUpdates
import BobaOS.Fat.FileCreation

/-!
# The sizes of the buffers

The block for a cluster of directory entries is asked for with the size of one entry, and
the array of addresses with as many bytes as it is to have elements of eight bytes each.
Where a block has just the bytes that were asked for, both are left as soon as a cluster
holds more than one entry.
-/

namespace BobaOS.Fat

open ByteStore Programs

/-- A block has the bytes asked for and no others. -/
def Environment.Exact (env : Environment) : Prop := ∀ size, env.capacity size = size

variable {env : Environment} {fat : FatPrivate} {world : World}

/-- A program stays inside all its blocks, whatever the volume holds and whichever requests
and transfers fail. -/
abbrev Inside {α : Type} (program : M α) : Prop := Confined (· ≠ Fault.outOfBounds) program

/-! ## What stays inside -/

theorem inside_seekRead (position : Nat) : Inside (seekRead env position) :=
  fun _ => (seekRead_cases position).mono fun _ _ _ => trivial

theorem inside_seekWrite (position : Nat) : Inside (seekWrite env position) :=
  fun _ => (seekWrite_cases position).mono fun _ _ _ => trivial

theorem inside_writeStream (input : Nat → UInt8) (length : Nat) :
    Inside (writeStream env input length) :=
  fun _ => (writeStream_cases input length).mono fun _ _ _ => trivial

theorem inside_readStream (out : Nat → UInt8) {capacity offset length : Nat}
    (room : offset + length ≤ capacity) : Inside (readStream env out capacity offset length) :=
  fun _ => (readStream_cases out capacity offset length room).mono fun _ _ _ => trivial

theorem inside_kzfree (block : Option Block) : Inside (kzfree block) :=
  fun _ => (kzfree_meets block).mono fun _ _ _ => trivial

theorem inside_getFatEntry (entry : Nat) : Inside (getFatEntry env fat entry) := by
  refine (inside_seekRead _).bind fun code => .ite (fun _ => .pure _) fun _ => ?_
  exact (inside_readStream _ (by decide)).bind fun result => .ite (fun _ => .pure _) fun _ => .pure _

theorem inside_writeFATEntry (cluster value : Nat) :
    Inside (writeFATEntry env fat cluster value) := by
  refine (inside_seekWrite _).bind fun _ => .ite (fun _ => .pure _) fun _ => ?_
  refine (inside_writeStream _ _).bind fun _ => .ite (fun _ => .pure _) fun _ => ?_
  exact (inside_seekWrite _).bind fun _ => .ite (fun _ => .pure _) fun _ => inside_writeStream _ _

/-- A window of the FAT is read into a block of its size. -/
theorem inside_getMultipleFatEntries (exact : env.Exact) (start stop : Nat) (errCode : Code) :
    Inside (getMultipleFatEntries env fat start stop errCode) := by
  intro world
  rw [getMultipleFatEntries]
  apply (kzalloc_meets _).bind
  rintro (_ | block) after ⟨-, -, room⟩
  · exact .pure trivial
  have fits : 0 + 4 * ((stop + 2 ^ 32 - start) % 2 ^ 32) ≤ block.capacity := by
    rw [room block rfl, exact, Nat.zero_add]
  exact ((inside_seekRead _).bind fun _ => .ite (fun _ => .pure _) fun _ =>
    (inside_readStream _ fits).bind fun _ => .ite (fun _ => .pure _) fun _ => .pure _) after

theorem inside_searchWindows (exact : env.Exact) (fuel start stop : Nat) (errCode : Code) :
    Inside (searchWindows env fat fuel start stop errCode) := by
  induction fuel generalizing start stop errCode with
  | zero => exact .throw (by decide)
  | succ fuel induction =>
    refine .ite (fun _ => ?_) fun _ => .pure _
    refine (inside_getMultipleFatEntries exact _ _ _).bind ?_
    rintro ⟨code, entries⟩
    refine .ite (fun _ => .pure _) fun _ => ?_
    cases entries with
    | none => exact .throw (by decide)
    | some entries =>
      dsimp only
      cases firstFree 512 entries with
      | none => exact induction _ _ _
      | some i => exact .pure _

theorem inside_makeDirBigger (exact : env.Exact) (endCluster : Nat) :
    Inside (makeDirBigger env fat endCluster) := by
  have search : Inside (getFreeFatEntryCluster env fat 0) := by
    refine (inside_searchWindows exact _ _ _ _).bind fun _ => ?_
    exact Confined.bind (fun world => by rw [meets_modify]; trivial) fun _ => .pure _
  refine search.bind fun _ => .ite (fun _ => .pure _) fun _ => .ite (fun _ => .pure _) fun _ => ?_
  refine (inside_writeFATEntry _ _).bind fun _ => .ite (fun _ => .pure _) fun _ => ?_
  refine (inside_writeFATEntry _ _).bind fun _ => .ite (fun _ => .pure _) fun _ => ?_
  refine (inside_seekWrite _).bind fun _ => .ite (fun _ => .pure _) fun _ => ?_
  exact (inside_writeStream _ _).bind fun _ => .ite (fun _ => .pure _) fun _ => .pure _

/-- A cluster that is no larger than an entry stays inside its block. -/
theorem getDirEntrySingleCluster_small (exact : env.Exact) (small : fat.clusterSize ≤ 32)
    (cluster outMaxEntries : Nat) (errCode : Code) :
    Meets (getDirEntrySingleCluster env fat cluster outMaxEntries errCode) world
      (· ≠ .outOfBounds)
      fun result _ => result.2.1 = outMaxEntries ∨ result.2.1 = fat.clusterSize / 32 := by
  rw [getDirEntrySingleCluster]
  apply (kzalloc_meets _).bind
  rintro (_ | block) after ⟨-, -, room⟩
  · exact .pure (.inl rfl)
  have fits : 0 + fat.clusterSize ≤ block.capacity := by
    rw [room block rfl, exact, Nat.zero_add]
    exact small
  dsimp only
  apply (inside_seekRead _ _).bind
  intro code moved _
  rw [meets_ite]
  refine ⟨fun _ => .pure (.inl rfl), fun _ => ?_⟩
  apply (inside_readStream _ fits _).bind
  intro result read _
  rw [meets_ite]
  exact ⟨fun _ => .pure (.inl rfl), fun _ => .pure (.inr rfl)⟩

/-- A search of clusters without entries finds none, and stores no address. -/
theorem inside_searchFree (exact : env.Exact) (tiny : fat.clusterSize < 32) (list : Block)
    (count fuel oldCluster fatEntry : Nat) (entries : Option Entries) (addresses : List Nat)
    (errCode : Code) :
    Inside (searchFree env fat list count fuel oldCluster fatEntry 0 entries addresses errCode) := by
  have none_here : fat.clusterSize / 32 = 0 := Nat.div_eq_of_lt tiny
  induction fuel generalizing oldCluster fatEntry entries addresses errCode with
  | zero => exact .throw (by decide)
  | succ fuel induction =>
    have onward (next : Nat) : Inside
        (searchNext env fat list count fuel 0 entries addresses errCode next) := by
      refine (inside_kzfree _).bind fun _ world => ?_
      apply (getDirEntrySingleCluster_small exact tiny.le next 0 errCode).bind
      rintro ⟨code, count, entries⟩ after counted
      obtain rfl : count = 0 := by simpa [none_here] using counted
      dsimp only
      refine ((inside_getFatEntry _).bind fun _ => .ite (fun _ => ?_) fun _ => ?_) after
      · exact (inside_kzfree _).bind fun _ => .pure _
      · exact induction _ _ _ _ _
    rw [searchFree_succ, scanFree, pure_bind]
    refine .ite (fun impossible => absurd impossible Bool.false_ne_true) fun _ => .ite (fun _ => ?_) fun _ => ?_
    · refine (Confined.map _ (inside_makeDirBigger exact _)).bind fun next => ?_
      exact onward next
    · exact (Confined.pure fatEntry).bind onward

theorem inside_getFreeDirEntriesAddresses (exact : env.Exact) (tiny : fat.clusterSize < 32)
    (startEntry : DirectoryEntry) (count : Nat) :
    Inside (getFreeDirEntriesAddresses env fat startEntry count) := by
  have none_here : fat.clusterSize / 32 = 0 := Nat.div_eq_of_lt tiny
  intro world
  rw [getFreeDirEntriesAddresses]
  apply (kzalloc_meets _).bind
  rintro (_ | list) between -
  · exact .pure trivial
  dsimp only
  apply (inside_getFatEntry _ _).bind
  rintro ⟨code, next⟩ read -
  rw [meets_ite]
  refine ⟨fun _ => .pure trivial, fun _ => ?_⟩
  apply (getDirEntrySingleCluster_small exact tiny.le _ 0 _).bind
  rintro ⟨code, entriesCount, entries⟩ after counted
  obtain rfl : entriesCount = 0 := by simpa [none_here] using counted
  dsimp only
  apply (inside_searchFree exact tiny list count _ _ _ _ _ _ _).bind
  rintro ⟨code, _ | addresses⟩ final -
  · exact .pure trivial
  · exact .pure trivial

/-! ## What does not -/

section Overrun

/-- A volume of zeros with clusters of one entry, and a heap of exact blocks. -/
structure Blank (env : Environment) (fat : FatPrivate) (world : World) : Prop where
  quiet : env.Quiet
  roomy : env.Roomy
  exact : env.Exact
  large : 2 ^ 35 ≤ env.volumeSize
  narrow : fat.fatAddress < 2 ^ 32
  single : fat.clusterSize = 32
  zero : world.bytes = fun _ => 0

/-- Nothing is written by a read. -/
theorem Blank.same {after : World} (blank : Blank env fat world) (same : after.bytes = world.bytes) :
    Blank env fat after :=
  { blank with zero := same.trans blank.zero }

/-- Its clusters have one free entry each. -/
theorem Blank.getDirEntrySingleCluster_meets (blank : Blank env fat world)
    (cluster outMaxEntries : Nat) (errCode : Code) {fault : Fault → Prop} :
    Meets (getDirEntrySingleCluster env fat cluster outMaxEntries errCode) world fault
      fun result after => Blank env fat after ∧ ∃ entries : Entries,
        result = (SUCCESS, 1, some entries) ∧ entries.block.capacity = 32 ∧
          (entries.entry 0).attributes = 0 := by
  have below := dataClusterToAbsoluteAddress_lt fat cluster
  have large := blank.large
  have single := blank.single
  have exact : env.capacity 32 = 32 := blank.exact 32
  apply ((Fat.getDirEntrySingleCluster_meets blank.quiet blank.roomy (by omega) (by omega) (by omega)
    outMaxEntries errCode).mono_fault fun _ both => absurd both.2 (by omega)).mono
  rintro result after ⟨same, -, entries, result, capacity, bytes⟩
  rw [single] at result
  refine ⟨blank.same same.bytes, entries, result, capacity.trans exact, ?_⟩
  simp [DirectoryEntry.attributes, bytes, single, overwrite, blank.zero]

/-- And their entries lead to cluster zero. -/
theorem Blank.getFatEntry_meets (blank : Blank env fat world) {entry : Nat}
    (small : entry < 2 ^ 32) {fault : Fault → Prop} :
    Meets (getFatEntry env fat entry) world fault fun result after =>
      Blank env fat after ∧ 0 ≤ result.1 ∧ result.2 = 0 := by
  have large := blank.large
  have narrow := blank.narrow
  apply (getFatEntry_cases narrow small).mono
  rintro result after ⟨bytes, ⟨outside | failed, -⟩ | ⟨-, nonnegative, read, -⟩⟩
  · omega
  · rw [blank.quiet] at failed
    exact absurd failed (by decide)
  · refine ⟨blank.same bytes, nonnegative, read.trans ?_⟩
    simp [entryAt, readWord, blank.zero]

/-- The addresses are stored one after the other until one does not fit into the array. -/
theorem searchFree_overruns (blank : Blank env fat world) (list : Block) {count : Nat}
    (asked : list.capacity = count) (wanted : 0 < count) (fuel oldCluster : Nat)
    (entries : Entries) (capacity : entries.block.capacity = 32)
    (free : (entries.entry 0).attributes = 0) (addresses : List Nat) (errCode : Code)
    (fit : 8 * addresses.length ≤ count) (few : count < 256)
    (enough : count < 8 * (addresses.length + fuel)) :
    Meets (searchFree env fat list count fuel oldCluster 0 1 (some entries) addresses errCode) world
      (· = .outOfBounds) fun _ _ => False := by
  induction fuel generalizing world oldCluster entries addresses errCode with
  | zero => omega
  | succ fuel induction =>
    rw [searchFree, scanFree, readAttributes, if_neg (by omega), pure_bind, if_pos free]
    by_cases full : list.capacity < 8 * addresses.length + 8
    · rw [if_pos full, meets_bind, meets_bind]
      exact .throw rfl
    · have not_all : ¬ (addresses ++ [dataClusterToAbsoluteAddress fat oldCluster + 32 * 0]).length
          % 2 ^ 8 = count := by
        rw [List.length_append, List.length_singleton]
        omega
      rw [if_neg full]
      dsimp only
      rw [if_neg not_all, scanFree, pure_bind]
      dsimp only
      rw [if_neg (by decide), if_neg (by decide), pure_bind]
      apply (kzfree_meets _).bind
      intro _ freed same
      apply ((blank.same same.bytes).getDirEntrySingleCluster_meets 0 1 errCode).bind
      rintro ⟨code, number, found⟩ read ⟨still, more, result, room, unused⟩
      obtain ⟨rfl, rfl, rfl⟩ : code = SUCCESS ∧ number = 1 ∧ found = some more := by
        simpa using result
      apply (still.getFatEntry_meets (by decide)).bind
      rintro ⟨ret, next⟩ after ⟨blank, nonnegative, rfl⟩
      dsimp only at nonnegative ⊢
      rw [if_neg (Int.not_lt.mpr nonnegative)]
      apply induction blank 0 more room unused
      · rw [List.length_append, List.length_singleton]
        omega
      · rw [List.length_append, List.length_singleton]
        omega

/-- The search of a blank volume leaves its array. -/
theorem Blank.overruns (blank : Blank env fat world) {count : Nat} (wanted : 0 < count)
    (few : count < 256) :
    Meets (getFreeDirEntriesAddresses env fat (fun _ => 0) count) world (· = .outOfBounds)
      fun _ _ => False := by
  rw [getFreeDirEntriesAddresses]
  apply (kzalloc_meets _).bind
  rintro (_ | list) between ⟨same, refused, room⟩
  · exact absurd blank.roomy (refused rfl)
  dsimp only
  apply ((blank.same same.bytes).getFatEntry_meets (by decide)).bind
  rintro ⟨ret, next⟩ after ⟨still, nonnegative, rfl⟩
  dsimp only at nonnegative ⊢
  rw [if_neg (Int.not_lt.mpr nonnegative)]
  apply (still.getDirEntrySingleCluster_meets _ 0 ret).bind
  rintro ⟨code, number, found⟩ read ⟨last, entries, result, capacity, free⟩
  obtain ⟨rfl, rfl, rfl⟩ : code = SUCCESS ∧ number = 1 ∧ found = some entries := by
    simpa using result
  apply (searchFree_overruns last list ((room list rfl).trans (blank.exact count)) wanted _ _
    entries capacity free [] SUCCESS (Nat.zero_le _) few ?_).bind
  · exact fun _ _ impossible => impossible.elim
  · rw [List.length_nil]
    omega

end Overrun

/-- The blocks of the directory code are large enough: whatever the volume holds and whichever
requests and transfers fail, the entries of a cluster and the addresses of so many free entries
are stored in the bytes that were asked for. -/
def BuffersSuffice (fat : FatPrivate) (count : Nat) : Prop :=
  ∀ env : Environment, env.Exact →
    (∀ cluster outMaxEntries errCode,
      Inside (getDirEntrySingleCluster env fat cluster outMaxEntries errCode)) ∧
    ∀ startEntry, Inside (getFreeDirEntriesAddresses env fat startEntry count)

/-- A volume of this size whose blocks are as large as asked for. -/
def exactEnvironment : Environment where
  volumeSize := 2 ^ 35
  transfer _ := SUCCESS
  spoiled _ bytes := bytes
  kzalloc _ _ := true
  capacity size := size

/-- The blocks are large enough exactly where a cluster does not hold a single entry.

Proof: a larger cluster does not fit into the block for one entry, and with one entry in each
cluster the addresses of a blank volume are stored until they leave their array. -/
theorem buffers_suffice_iff {bootRecord : MasterBootRecord} {count : Nat}
    (encoded : bootRecord.bytesPerSector < 2 ^ 16 ∧ bootRecord.sectorsPerCluster < 2 ^ 8)
    (wanted : 1 ≤ count ∧ count ≤ 21) :
    BuffersSuffice (attachToDisk bootRecord) count ↔
      bootRecord.bytesPerSector * bootRecord.sectorsPerCluster < 32 := by
  have product : bootRecord.bytesPerSector * bootRecord.sectorsPerCluster ≤ 2 ^ 16 * 2 ^ 8 :=
    Nat.mul_le_mul encoded.1.le encoded.2.le
  have size : (attachToDisk bootRecord).clusterSize =
      bootRecord.bytesPerSector * bootRecord.sectorsPerCluster := Nat.mod_eq_of_lt (by omega)
  rw [← size]
  constructor
  · intro suffice
    obtain ⟨clusters, addresses⟩ := suffice exactEnvironment fun _ => rfl
    by_contra large
    rcases Nat.lt_or_eq_of_le (Nat.not_lt.mp large) with larger | single
    · have below := dataClusterToAbsoluteAddress_lt (attachToDisk bootRecord) 0
      have reads : Meets (getDirEntrySingleCluster exactEnvironment (attachToDisk bootRecord) 0 0 0)
          (freshWorld fun _ => 0) _ _ := getDirEntrySingleCluster_meets (fun _ => rfl)
        (fun _ _ => rfl) (by omega) (by omega) (by dsimp only [exactEnvironment]; omega) 0 0
      obtain ⟨problem, ran, rfl, -⟩ :=
        (reads.mono fun _ _ fits => absurd fits.2.1 (Nat.not_le.mpr larger)).faults
      exact (clusters 0 0 0 _).faulted ran rfl
    · have blank : Blank exactEnvironment (attachToDisk bootRecord) (freshWorld fun _ => 0) :=
        ⟨fun _ => rfl, fun _ _ => rfl, fun _ => rfl, le_rfl, Nat.mod_lt _ (by decide), single.symm, rfl⟩
      obtain ⟨problem, ran, rfl⟩ := (blank.overruns wanted.1 (by omega)).faults
      exact (addresses _ _).faulted ran rfl
  · intro tiny env exact
    refine ⟨fun cluster outMaxEntries errCode world => ?_, fun startEntry => ?_⟩
    · exact (getDirEntrySingleCluster_small exact tiny.le cluster outMaxEntries errCode).mono
        fun _ _ _ => trivial
    · exact inside_getFreeDirEntriesAddresses exact tiny startEntry count

/-- A record of sectors of 31 bytes, one a cluster. -/
def tinyRecord : MasterBootRecord := { smallRecord with bytesPerSector := 31 }

theorem buffers_suffice_for_tiny_clusters : BuffersSuffice (attachToDisk tinyRecord) 21 :=
  (buffers_suffice_iff (by decide) (by decide)).mpr (by decide)

/-- A cluster of 512 bytes is stored in a block that was asked for 32 bytes. -/
theorem cluster_overruns_block : ¬ BuffersSuffice (attachToDisk smallRecord) 1 := by
  intro suffice
  have ran : (getDirEntrySingleCluster (plainEnvironment 82944) (attachToDisk smallRecord) 2 0
      0).run (freshWorld shortDirectoryBytes) = .error .outOfBounds :=
    error_of_faultOf (by decide +kernel)
  exact ((suffice (plainEnvironment 82944) fun _ => rfl).1 2 0 0 _).faulted ran rfl

end BobaOS.Fat
