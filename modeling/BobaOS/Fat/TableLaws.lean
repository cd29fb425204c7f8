import BobaOS.Library.Chains
import BobaOS.Fat.Table

/-!
# Laws of the FAT

The layout of a volume with two FATs, what a cluster of its data region is, and
one law for each function that reads or writes the FAT. Entries are written by
one pure function on the bytes, so that what a sequence of writes does to the
table, to its copy and to all other bytes is reasoned about without the programs.
-/

namespace BobaOS.Fat

open ByteStore Programs Chains

/-- The size of one FAT. -/
def FatPrivate.fatSize (fat : FatPrivate) : Nat :=
  fat.bootRecord.sectorsPerFat32 * fat.bootRecord.bytesPerSector

/-- The FAT, its copy and the data region follow one another inside the volume,
and no address before the data region needs more than 32 bits. -/
structure Layout (env : Environment) (fat : FatPrivate) : Prop where
  copy : fat.fatCopyStartAddress = fat.fatAddress + fat.fatSize
  data : fat.fatCopyStartAddress + fat.fatSize ≤ fat.dataClusterStartAddress
  narrow : fat.dataClusterStartAddress < 2 ^ 32
  inside : fat.dataClusterStartAddress ≤ env.volumeSize
  cluster : 0 < fat.clusterSize

/-- A cluster of the data region: its number is one that an entry can hold, its
entry is in the FAT and its bytes are in the volume. -/
structure DataCluster (env : Environment) (fat : FatPrivate) (cluster : Nat) : Prop where
  numbered : 2 ≤ cluster
  narrow : cluster < 0x0FFFFFF7
  entry : 4 * cluster + 4 ≤ fat.fatSize
  inside : fat.dataClusterStartAddress + (cluster - 1) * fat.clusterSize ≤ env.volumeSize

/-- The entries of the first FAT; there are none behind its end. -/
def table (fat : FatPrivate) (bytes : Nat → UInt8) (cluster : Nat) : Nat :=
  if 4 * cluster + 4 ≤ fat.fatSize then entryAt fat bytes cluster else 0

/-- What an entry says. -/
def decode (entry : Nat) : Link Nat :=
  if entry = FAT_ENTRY_FREE then .free
  else if entry = FAT_ENTRY_USED then .last
  else .next entry

def links (fat : FatPrivate) (bytes : Nat → UInt8) (cluster : Nat) : Link Nat :=
  decode (table fat bytes cluster)

/-- The second FAT is equal to the first. -/
def InStep (fat : FatPrivate) (bytes : Nat → UInt8) : Prop :=
  ∀ offset < fat.fatSize, bytes (fat.fatCopyStartAddress + offset) = bytes (fat.fatAddress + offset)

/-- The bytes with an entry written to both FATs. -/
def putEntry (fat : FatPrivate) (bytes : Nat → UInt8) (cluster value : Nat) : Nat → UInt8 :=
  writeWord (writeWord bytes (fat.fatAddress + 4 * cluster) value)
    (fat.fatCopyStartAddress + 4 * cluster) value

theorem decode_free {entry : Nat} : decode entry = .free ↔ entry = FAT_ENTRY_FREE := by
  rw [decode]
  split_ifs with free used
  · exact iff_of_true rfl free
  · exact iff_of_false nofun free
  · exact iff_of_false nofun free

theorem decode_last {entry : Nat} : decode entry = .last ↔ entry = FAT_ENTRY_USED := by
  rw [decode]
  split_ifs with free used
  · refine iff_of_false nofun ?_
    rw [free]
    decide
  · exact iff_of_true rfl used
  · exact iff_of_false nofun used

theorem decode_next {entry cluster : Nat} :
    decode entry = .next cluster ↔
      entry = cluster ∧ entry ≠ FAT_ENTRY_FREE ∧ entry ≠ FAT_ENTRY_USED := by
  rw [decode]
  split_ifs with free used
  · exact iff_of_false nofun fun both => both.2.1 free
  · exact iff_of_false nofun fun both => both.2.2 used
  · exact ⟨fun same => ⟨Link.next.inj same, free, used⟩, fun both => congrArg _ both.1⟩

section Entries

variable {env : Environment} {fat : FatPrivate}

theorem table_eq (bytes : Nat → UInt8) {cluster : Nat} (inside : 4 * cluster + 4 ≤ fat.fatSize) :
    table fat bytes cluster = entryAt fat bytes cluster := if_pos inside

/-- The number of a data cluster is no mark. -/
theorem DataCluster.no_mark {cluster : Nat} (is_data : DataCluster env fat cluster) :
    cluster ≠ FAT_ENTRY_FREE ∧ cluster ≠ FAT_ENTRY_USED := by
  have low := is_data.numbered
  have high := is_data.narrow
  constructor
  · rintro rfl
    exact absurd low (by decide)
  · rintro rfl
    exact absurd high (by decide)

/-- A byte of the volume outside the entry in both FATs is left. -/
theorem putEntry_outside (bytes : Nat → UInt8) (cluster value : Nat) {address : Nat}
    (first : address < fat.fatAddress + 4 * cluster ∨ fat.fatAddress + 4 * cluster + 4 ≤ address)
    (second : address < fat.fatCopyStartAddress + 4 * cluster ∨
      fat.fatCopyStartAddress + 4 * cluster + 4 ≤ address) :
    putEntry fat bytes cluster value address = bytes address := by
  rw [putEntry, writeWord, overwrite_outside _ _ _ _ _ second, writeWord,
    overwrite_outside _ _ _ _ _ first]

/-- Bytes before and behind the FATs are left. -/
theorem putEntry_data (layout : Layout env fat) (bytes : Nat → UInt8) {cluster : Nat}
    (value : Nat) (inside : 4 * cluster + 4 ≤ fat.fatSize) {address : Nat}
    (outside : address < fat.fatAddress ∨ fat.dataClusterStartAddress ≤ address) :
    putEntry fat bytes cluster value address = bytes address := by
  have copy := layout.copy
  have data := layout.data
  exact putEntry_outside bytes cluster value (by omega) (by omega)

/-- The first FAT shows the entry written. -/
theorem entryAt_putEntry (layout : Layout env fat) (bytes : Nat → UInt8) {cluster : Nat}
    (_inside : 4 * cluster + 4 ≤ fat.fatSize) {value : Nat} (small : value < 2 ^ 28) :
    entryAt fat (putEntry fat bytes cluster value) cluster = value := by
  have copy := layout.copy
  rw [entryAt, putEntry, writeWord, readWord_overwrite _ _ _ _ _ (by omega),
    readWord_writeWord _ _ _ (by omega), Nat.mod_eq_of_lt small]

/-- All other entries are left. -/
theorem entryAt_putEntry_of_ne (layout : Layout env fat) (bytes : Nat → UInt8)
    {cluster other : Nat} (value : Nat) (_inside : 4 * cluster + 4 ≤ fat.fatSize)
    (other_inside : 4 * other + 4 ≤ fat.fatSize) (different : other ≠ cluster) :
    entryAt fat (putEntry fat bytes cluster value) other = entryAt fat bytes other := by
  have copy := layout.copy
  have apart : other + 1 ≤ cluster ∨ cluster + 1 ≤ other := by omega
  rw [entryAt, entryAt, putEntry, writeWord, readWord_overwrite _ _ _ _ _ (by omega), writeWord,
    readWord_overwrite _ _ _ _ _ (by omega)]

/-- Writing an entry updates the table at one place. -/
theorem table_putEntry (layout : Layout env fat) (bytes : Nat → UInt8) {cluster : Nat}
    (inside : 4 * cluster + 4 ≤ fat.fatSize) {value : Nat} (small : value < 2 ^ 28) :
    table fat (putEntry fat bytes cluster value) =
      Function.update (table fat bytes) cluster value := by
  funext other
  by_cases same : other = cluster
  · subst same
    rw [Function.update_self, table_eq _ inside, entryAt_putEntry layout bytes inside small]
  · rw [Function.update_of_ne same]
    by_cases other_inside : 4 * other + 4 ≤ fat.fatSize
    · rw [table_eq _ other_inside, table_eq _ other_inside,
        entryAt_putEntry_of_ne layout bytes value inside other_inside same]
    · rw [table, table, if_neg other_inside, if_neg other_inside]

/-- The copies stay in step. -/
theorem InStep.putEntry (layout : Layout env fat) {bytes : Nat → UInt8} (step : InStep fat bytes)
    {cluster : Nat} (value : Nat) (inside : 4 * cluster + 4 ≤ fat.fatSize) :
    InStep fat (putEntry fat bytes cluster value) := by
  intro offset small
  have copy := layout.copy
  by_cases here : 4 * cluster ≤ offset ∧ offset < 4 * cluster + 4
  · rw [Fat.putEntry, writeWord, overwrite_inside _ _ _ _ _ (by omega),
      overwrite_outside _ _ _ _ (fat.fatAddress + offset) (by omega), writeWord,
      overwrite_inside _ _ _ _ _ (by omega)]
    congr 1
    omega
  · rw [putEntry_outside _ _ _ (by omega) (by omega), putEntry_outside _ _ _ (by omega) (by omega)]
    exact step offset small

/-- A write behind the FATs leaves the table. -/
theorem table_overwrite (layout : Layout env fat) (bytes : Nat → UInt8) {start : Nat}
    (length : Nat) (values : Nat → UInt8) (behind : fat.dataClusterStartAddress ≤ start) :
    table fat (overwrite bytes start length values) = table fat bytes := by
  have copy := layout.copy
  have data := layout.data
  funext cluster
  rw [table, table]
  split
  · rw [entryAt, entryAt, readWord_overwrite _ _ _ _ _ (by omega)]
  · rfl

theorem InStep.overwrite (layout : Layout env fat) {bytes : Nat → UInt8} (step : InStep fat bytes)
    {start : Nat} (length : Nat) (values : Nat → UInt8)
    (behind : fat.dataClusterStartAddress ≤ start) :
    InStep fat (overwrite bytes start length values) := by
  have copy := layout.copy
  have data := layout.data
  intro offset small
  rw [overwrite_outside _ _ _ _ _ (by omega), overwrite_outside _ _ _ _ _ (by omega)]
  exact step offset small

end Entries

/-! ## The functions on the FAT -/

variable {env : Environment} {fat : FatPrivate} {world : World} {fault : Fault → Prop}

/-- `getFatEntry` gives the entry of a cluster that has one. -/
theorem getFatEntry_meets (layout : Layout env fat) (quiet : env.Quiet) {entry : Nat}
    (inside : 4 * entry + 4 ≤ fat.fatSize) :
    Meets (getFatEntry env fat entry) world fault fun result after =>
      result = (SUCCESS, table fat world.bytes entry) ∧ Same world after := by
  have copy := layout.copy
  have data := layout.data
  have narrow := layout.narrow
  have volume := layout.inside
  have position : entry * 4 + fat.fatAddress < env.volumeSize := by omega
  apply (seekRead_meets _).bind
  rintro ret moved ⟨same, ⟨rfl, -, placed⟩ | ⟨-, outside⟩⟩
  · rw [meets_ite]
    refine ⟨fun negative => absurd negative (by decide), fun _ => ?_⟩
    apply (readStream_meets quiet (fun _ => 0) 4 0 4 (by decide)).bind
    rintro ⟨ret, buffer⟩ after ⟨read, ⟨rfl, -, rfl⟩ | ⟨-, refused, -⟩⟩
    · rw [meets_ite]
      refine ⟨fun negative => absurd negative (by decide), fun _ => ?_⟩
      refine .pure ⟨?_, same.trans read⟩
      rw [table_eq _ inside, entryAt, placed, same.bytes]
      have bytes : readWord (overwrite (fun _ => 0) 0 4
          (slice world.bytes (entry * 4 + fat.fatAddress))) 0 =
          readWord world.bytes (fat.fatAddress + 4 * entry) := by
        rw [Nat.mul_comm 4, Nat.add_comm fat.fatAddress]
        rfl
      rw [bytes]
    · rw [placed] at refused
      omega
  · omega

/-- A program that looks an entry up goes on with what the table has. -/
theorem getFatEntry_then {α : Type} {next : Code × Nat → M α} {post : α → World → Prop}
    (layout : Layout env fat) (quiet : env.Quiet) {entry : Nat} (inside : 4 * entry + 4 ≤ fat.fatSize)
    (onward : ∀ after, Same world after →
      Meets (next (SUCCESS, table fat world.bytes entry)) after fault post) :
    Meets (getFatEntry env fat entry >>= next) world fault post := by
  apply (getFatEntry_meets layout quiet inside).bind
  rintro _ after ⟨rfl, same⟩
  exact onward after same

/-- `writeFATEntry` writes the entry to both FATs. -/
theorem writeFATEntry_meets (layout : Layout env fat) (quiet : env.Quiet) {cluster : Nat}
    (value : Nat) (inside : 4 * cluster + 4 ≤ fat.fatSize) :
    Meets (writeFATEntry env fat cluster value) world fault fun ret after =>
      ret = SUCCESS ∧ after.searches = world.searches ∧
        after.bytes = putEntry fat world.bytes cluster value := by
  have copy := layout.copy
  have data := layout.data
  have narrow := layout.narrow
  have volume := layout.inside
  have first : clusterToFATTableAddress fat cluster = fat.fatAddress + 4 * cluster :=
    Nat.mod_eq_of_lt (by omega)
  have second : clusterToFATCopyTableAddress fat cluster = fat.fatCopyStartAddress + 4 * cluster :=
    Nat.mod_eq_of_lt (by omega)
  rw [writeFATEntry, first, second]
  apply (seekWrite_meets _).bind
  rintro ret moved ⟨same, ⟨rfl, -, placed⟩ | ⟨-, outside⟩⟩
  case inr => omega
  rw [meets_ite]
  refine ⟨fun negative => absurd negative (by decide), fun _ => ?_⟩
  apply (writeStream_meets quiet _ _).bind
  rintro ret written ⟨searched, ⟨rfl, -, bytes⟩ | ⟨-, refused, -⟩⟩
  case inr =>
    rw [placed] at refused
    omega
  rw [meets_ite]
  refine ⟨fun negative => absurd negative (by decide), fun _ => ?_⟩
  apply (seekWrite_meets _).bind
  rintro ret again ⟨still, ⟨rfl, -, there⟩ | ⟨-, outside⟩⟩
  case inr => omega
  rw [meets_ite]
  refine ⟨fun negative => absurd negative (by decide), fun _ => ?_⟩
  apply (writeStream_meets quiet _ _).mono
  rintro ret after ⟨kept, ⟨rfl, -, copied⟩ | ⟨-, refused, -⟩⟩
  case inr =>
    rw [there] at refused
    omega
  refine ⟨rfl, (kept.trans still.searches).trans (searched.trans same.searches), ?_⟩
  rw [copied, there, still.bytes, bytes, placed, same.bytes]
  rfl

/-- A search looks at the entry: its window ends before the number of sectors. -/
def Scanned (fat : FatPrivate) (entry : Nat) : Prop :=
  512 * (entry / 512 + 1) < fat.bootRecord.totalSectorsBig

/-- A search comes to the entry if those before it are in use. Where there are so many
sectors that the end of the last window wraps around, it comes to that one too. -/
def Examined (fat : FatPrivate) (entry : Nat) : Prop :=
  Scanned fat entry ∨
    2 ^ 32 - 512 ≤ entry ∧ entry < 2 ^ 32 ∧ 2 ^ 32 - 512 < fat.bootRecord.totalSectorsBig

/-- How a search ends: at the first free entry, without one among those looked
at, or at a window that is not in the volume. -/
inductive Searched (env : Environment) (fat : FatPrivate) (bytes : Nat → UInt8) (errCode : Code) :
    Code → Nat → Prop where
  | found (cluster : Nat) (examined : Examined fat cluster)
      (narrow : cluster < 2 ^ 32) (free : entryAt fat bytes cluster = FAT_ENTRY_FREE)
      (least : ∀ other < cluster, entryAt fat bytes other ≠ FAT_ENTRY_FREE) :
      Searched env fat bytes errCode SUCCESS cluster
  | exhausted (code : Code) (known : code = SUCCESS ∨ code = errCode)
      (few : fat.bootRecord.totalSectorsBig ≤ 2 ^ 32 - 512)
      (none : ∀ other, Scanned fat other → entryAt fat bytes other ≠ FAT_ENTRY_FREE) :
      Searched env fat bytes errCode code 0
  | refused (window : Nat) (outside : env.volumeSize < fat.fatAddress + 2048 * (window + 1))
      (none : ∀ other < 512 * window, entryAt fat bytes other ≠ FAT_ENTRY_FREE)
      (examined : Examined fat (512 * window)) :
      Searched env fat bytes errCode (-EDISKSPACE) 0

/-- What a search may fault with: a heap without room, and a volume with so many
sectors that the windows never end. -/
def SearchFault (env : Environment) (fat : FatPrivate) (bytes : Nat → UInt8) (fault : Fault) :
    Prop :=
  env.HeapFault fault ∨
    fault = .endless ∧ (∀ other < 2 ^ 32, entryAt fat bytes other ≠ FAT_ENTRY_FREE) ∧
      2 ^ 32 - 512 < fat.bootRecord.totalSectorsBig

/-- One window: NULL for want of room, its entries, or the refusal of a window
that is not in the volume. -/
theorem getMultipleFatEntries_meets (quiet : env.Quiet) (fitting : env.Fitting)
    (_narrow : fat.fatAddress < 2 ^ 32) {window : Nat} (_small : window < 2 ^ 23) (errCode : Code) :
    Meets (getMultipleFatEntries env fat (512 * window) (512 * (window + 1) % 2 ^ 32) errCode)
      world fault fun result after => Same world after ∧
        (result = (errCode, none) ∧ ¬ env.Roomy ∨
          (∃ entries, result = (SUCCESS, some entries) ∧
            ∀ i < 512, entries i = entryAt fat world.bytes (512 * window + i)) ∨
          result = (-EDISKSPACE, none) ∧
            env.volumeSize < fat.fatAddress + 2048 * (window + 1)) := by
  have length : 4 * ((512 * (window + 1) % 2 ^ 32 + 2 ^ 32 - 512 * window) % 2 ^ 32) = 2048 := by
    omega
  rw [getMultipleFatEntries, length]
  apply (kzalloc_meets _).bind
  rintro (_ | given) kept ⟨same, refused, room⟩
  · exact .pure ⟨same, .inl ⟨rfl, refused rfl⟩⟩
  have capacity : 0 + 2048 ≤ given.capacity := by
    rw [room given rfl, Nat.zero_add]
    exact fitting 2048
  apply (seekRead_meets _).bind
  rintro ret moved ⟨still, ⟨rfl, inside, placed⟩ | ⟨rfl, outside⟩⟩
  case inr =>
    rw [meets_ite]
    have beyond : env.volumeSize < fat.fatAddress + 2048 * (window + 1) := by omega
    exact ⟨fun _ => .pure ⟨same.trans still, .inr (.inr ⟨rfl, beyond⟩)⟩,
      fun not => absurd (by decide) not⟩
  rw [meets_ite]
  refine ⟨fun negative => absurd negative (by decide), fun _ => ?_⟩
  apply (readStream_meets quiet _ _ _ _ capacity).bind
  rintro ⟨ret, buffer⟩ after ⟨read, ⟨rfl, -, rfl⟩ | ⟨rfl, outside, rfl⟩⟩
  case inr =>
    rw [placed] at outside
    rw [meets_ite]
    have beyond : env.volumeSize < fat.fatAddress + 2048 * (window + 1) := by omega
    exact ⟨fun _ => .pure ⟨(same.trans still).trans read, .inr (.inr ⟨rfl, beyond⟩)⟩,
      fun not => absurd (by decide) not⟩
  rw [meets_ite]
  refine ⟨fun negative => absurd negative (by decide), fun _ => ?_⟩
  refine .pure ⟨(same.trans still).trans read, .inr (.inl ⟨_, rfl, fun i small => ?_⟩)⟩
  rw [placed, (same.trans still).bytes, entryAt]
  congr 1
  have address : fat.fatAddress + 4 * (512 * window + i) =
      512 * window * 4 + fat.fatAddress + 4 * i := by omega
  rw [address]
  simp only [readWord]
  rw [overwrite_inside _ _ _ _ _ (by omega), overwrite_inside _ _ _ _ _ (by omega),
    overwrite_inside _ _ _ _ _ (by omega), overwrite_inside _ _ _ _ _ (by omega)]
  rfl

/-- The first free entry is free and the entries before it are not. -/
theorem firstFree_some {count : Nat} {entries : Nat → Nat} {i : Nat}
    (first : firstFree count entries = some i) :
    i < count ∧ entries i = FAT_ENTRY_FREE ∧ ∀ j < i, entries j ≠ FAT_ENTRY_FREE := by
  rw [firstFree] at first
  refine ⟨List.mem_range.mp (List.mem_of_find?_eq_some first), ?_, fun j before => ?_⟩
  · simpa using List.find?_some first
  · simpa using (List.find?_range_eq_some.mp first).2.2 j before

theorem firstFree_none {count : Nat} {entries : Nat → Nat}
    (all : firstFree count entries = none) : ∀ j < count, entries j ≠ FAT_ENTRY_FREE := by
  rw [firstFree] at all
  intro j small
  simpa using List.find?_eq_none.mp all j (List.mem_range.mpr small)

/-- The loop over the windows, from the first one that is not known to be full. -/
theorem searchWindows_meets (quiet : env.Quiet) (fitting : env.Fitting)
    (narrow : fat.fatAddress < 2 ^ 32) (errCode known : Code)
    (codes : known = SUCCESS ∨ known = errCode) (nonnegative : 0 ≤ known) :
    ∀ (fuel window : Nat) (world : World), fuel + window = 2 ^ 23 →
      (window = 0 ∨ 512 * window < fat.bootRecord.totalSectorsBig ∨
        window = 2 ^ 23 ∧ 2 ^ 32 - 512 < fat.bootRecord.totalSectorsBig) →
      (∀ other < 512 * window, entryAt fat world.bytes other ≠ FAT_ENTRY_FREE) →
      Meets (searchWindows env fat fuel (512 * window % 2 ^ 32) (512 * (window + 1) % 2 ^ 32) known)
        world (SearchFault env fat world.bytes) fun result after =>
          Same world after ∧ Searched env fat world.bytes errCode result.1 result.2 := by
  intro fuel
  induction fuel generalizing known with
  | zero =>
    intro window world counted came none
    refine .throw (.inr ⟨rfl, fun other small => none other ?_, ?_⟩)
    · omega
    · omega
  | succ fuel ih =>
    intro window world counted came none
    have start : 512 * window % 2 ^ 32 = 512 * window := by omega
    rw [searchWindows, start, meets_ite]
    constructor
    · intro within
      apply (getMultipleFatEntries_meets quiet fitting narrow (by omega) _).bind
      rintro ⟨ret, entries⟩ after ⟨same, ⟨refused, full⟩ | ⟨entries', read, shown⟩ | ⟨refused, outside⟩⟩
      · obtain ⟨rfl, rfl⟩ := Prod.mk.inj refused
        rw [meets_ite]
        refine ⟨fun negative => absurd negative (Int.not_lt.mpr nonnegative), fun _ => ?_⟩
        exact .throw (.inl ⟨rfl, full⟩)
      · obtain ⟨rfl, rfl⟩ := Prod.mk.inj read
        rw [meets_ite]
        refine ⟨fun negative => absurd negative (by decide), fun _ => ?_⟩
        simp only
        split
        · rename_i i first
          obtain ⟨small, free, passed⟩ := firstFree_some first
          have index : (512 * window + i) % 2 ^ 32 = 512 * window + i := by omega
          refine .pure ⟨same, ?_⟩
          rw [index]
          refine .found _ ?_ (by omega) ((shown i small).symm.trans free) ?_
          · rw [Examined, Scanned]
            omega
          · intro other before
            by_cases earlier : other < 512 * window
            · exact none other earlier
            · obtain ⟨j, rfl⟩ := Nat.exists_eq_add_of_le (Nat.not_lt.mp earlier)
              have ahead : j < i := by omega
              rw [← shown j (by omega)]
              exact passed j ahead
        · rename_i all
          have next : (512 * window + 512) % 2 ^ 32 = 512 * (window + 1) % 2 ^ 32 := by
            rw [Nat.mul_succ]
          have beyond : (512 * (window + 1) % 2 ^ 32 + 512) % 2 ^ 32 =
              512 * (window + 1 + 1) % 2 ^ 32 := by omega
          rw [next, beyond]
          have longer : ∀ other < 512 * (window + 1),
              entryAt fat after.bytes other ≠ FAT_ENTRY_FREE := by
            intro other before
            rw [same.bytes]
            by_cases earlier : other < 512 * window
            · exact none other earlier
            · obtain ⟨j, rfl⟩ := Nat.exists_eq_add_of_le (Nat.not_lt.mp earlier)
              have small : j < 512 := by omega
              rw [← shown j small]
              exact firstFree_none all j small
          have rest := ih SUCCESS (.inl rfl) (by decide) (window + 1) after (by omega) (by omega)
            longer
          rw [same.bytes] at rest
          exact rest.mono fun result final reached => ⟨same.trans reached.1, reached.2⟩
      · obtain ⟨rfl, rfl⟩ := Prod.mk.inj refused
        rw [meets_ite]
        refine ⟨fun _ => .pure ⟨same, .refused window outside none ?_⟩, fun not => absurd (by decide) not⟩
        rw [Examined, Scanned]
        omega
    · intro ended
      refine .pure ⟨.refl world, .exhausted _ codes (by omega) fun other scanned => none other ?_⟩
      rw [Scanned] at scanned
      omega

/-- `getFreeFatEntryCluster` ends as a search ends, and is recorded. -/
theorem getFreeFatEntryCluster_meets (quiet : env.Quiet) (fitting : env.Fitting)
    (narrow : fat.fatAddress < 2 ^ 32) {errCode : Code} (nonnegative : 0 ≤ errCode) :
    Meets (getFreeFatEntryCluster env fat errCode) world (SearchFault env fat world.bytes)
      fun result after => after.bytes = world.bytes ∧
        after.searches = world.searches ++ [⟨result.2, entryAt fat world.bytes result.2⟩] ∧
        Searched env fat world.bytes errCode result.1 result.2 := by
  rw [getFreeFatEntryCluster]
  apply (searchWindows_meets quiet fitting narrow errCode errCode (.inr rfl) nonnegative (2 ^ 23) 0
    world rfl (.inl rfl) fun _ impossible => absurd impossible (Nat.not_lt_zero _)).bind
  rintro ⟨ret, cluster⟩ after ⟨same, searched⟩
  have recorded : after.searches ++ [⟨cluster, entryAt fat after.bytes cluster⟩] =
      world.searches ++ [⟨cluster, entryAt fat world.bytes cluster⟩] := by
    rw [same.searches, same.bytes]
  rw [meets_bind, meets_modify, meets_pure]
  exact ⟨same.bytes, recorded, searched⟩

/-! ## Where a transfer may fail -/

/-- An entry of a cluster is not read: it is not in the volume, or the next transfer fails. -/
def ReadFails (env : Environment) (fat : FatPrivate) (transfers entry : Nat) : Prop :=
  env.volumeSize < fat.fatAddress + 4 * entry + 4 ∨ env.transfer transfers < 0

theorem entryAt_lt (bytes : Nat → UInt8) (entry : Nat) : entryAt fat bytes entry < 2 ^ 28 :=
  Nat.mod_lt _ (by decide)

/-- `getFatEntry` gives the entry that it can read, and an error code otherwise. -/
theorem getFatEntry_cases (narrow : fat.fatAddress < 2 ^ 32) {entry : Nat}
    (small : entry < 2 ^ 32) :
    Meets (getFatEntry env fat entry) world fault fun result after =>
      after.bytes = world.bytes ∧
        (ReadFails env fat world.transfers entry ∧ result.1 < 0 ∨
          ¬ ReadFails env fat world.transfers entry ∧ 0 ≤ result.1 ∧
            result.2 = entryAt fat world.bytes entry ∧
            after.transfers = world.transfers + 1) := by
  have fits : (entry * 4 + fat.fatAddress + 4) % 2 ^ 64 = entry * 4 + fat.fatAddress + 4 :=
    Nat.mod_eq_of_lt (by omega)
  rw [getFatEntry]
  apply (seekRead_cases _).bind
  rintro ret moved (⟨rfl, inside, rfl⟩ | ⟨rfl, outside, rfl⟩)
  case inr =>
    rw [if_refused]
    refine .pure ⟨rfl, .inl ⟨.inl ?_, by decide⟩⟩
    omega
  rw [if_success]
  apply (readStream_cases (fun _ => 0) 4 0 4 (by decide)).bind
  rintro ⟨ret, buffer⟩ after
    (⟨beyond, result, rfl⟩ | ⟨failed, result, rfl⟩ | ⟨within, passed, result, rfl⟩)
  all_goals
    obtain ⟨rfl, rfl⟩ := Prod.mk.inj result
    dsimp only at *
  · rw [fits] at beyond
    rw [if_refused]
    refine .pure ⟨rfl, .inl ⟨.inl ?_, by decide⟩⟩
    omega
  · rw [if_pos failed]
    exact .pure ⟨rfl, .inl ⟨.inr failed, failed⟩⟩
  · rw [fits] at within
    rw [if_neg (Int.not_lt.mpr passed)]
    refine .pure ⟨rfl, .inr ⟨?_, passed, ?_, rfl⟩⟩
    · rintro (beyond | failed)
      · omega
      · exact Int.not_lt.mpr passed failed
    · rw [entryAt, Nat.mul_comm 4, Nat.add_comm fat.fatAddress]
      rfl

/-- An entry is not written to both FATs. -/
def WriteFails (env : Environment) (fat : FatPrivate) (transfers cluster : Nat) : Prop :=
  env.volumeSize < clusterToFATTableAddress fat cluster + 4 ∨ env.transfer transfers < 0 ∨
    env.volumeSize < clusterToFATCopyTableAddress fat cluster + 4 ∨
    env.transfer (transfers + 1) < 0

/-- `writeFATEntry` writes the entry to two places, or gives an error code. -/
theorem writeFATEntry_cases (cluster value : Nat) :
    Meets (writeFATEntry env fat cluster value) world fault fun ret after =>
      WriteFails env fat world.transfers cluster ∧ ret < 0 ∨
        ¬ WriteFails env fat world.transfers cluster ∧ 0 ≤ ret ∧
          after.bytes = writeWord (writeWord world.bytes (clusterToFATTableAddress fat cluster) value)
            (clusterToFATCopyTableAddress fat cluster) value := by
  have first : clusterToFATTableAddress fat cluster < 2 ^ 32 := Nat.mod_lt _ (by decide)
  have second : clusterToFATCopyTableAddress fat cluster < 2 ^ 32 := Nat.mod_lt _ (by decide)
  rw [writeFATEntry]
  apply (seekWrite_cases _).bind
  rintro ret moved (⟨rfl, inside, rfl⟩ | ⟨rfl, outside, rfl⟩)
  case inr =>
    rw [if_refused]
    exact .pure (.inl ⟨.inl (by omega), by decide⟩)
  rw [if_success]
  apply (writeStream_cases _ _).bind
  rintro ret written (⟨beyond, rfl, rfl⟩ | ⟨failed, rfl, -⟩ | ⟨within, passed, rfl, rfl⟩)
  · rw [if_refused]
    dsimp only at beyond
    exact .pure (.inl ⟨.inl (by omega), by decide⟩)
  · rw [if_pos failed]
    exact .pure (.inl ⟨.inr (.inl failed), failed⟩)
  rw [if_neg (Int.not_lt.mpr passed)]
  dsimp only at within passed ⊢
  apply (seekWrite_cases _).bind
  rintro ret again (⟨rfl, there, rfl⟩ | ⟨rfl, outside, rfl⟩)
  case inr =>
    rw [if_refused]
    exact .pure (.inl ⟨.inr (.inr (.inl (by omega))), by decide⟩)
  rw [if_success]
  apply (writeStream_cases _ _).mono
  rintro ret after (⟨beyond, rfl, rfl⟩ | ⟨failed, rfl, -⟩ | ⟨fits, succeeds, rfl, rfl⟩)
  · dsimp only at beyond
    exact .inl ⟨.inr (.inr (.inl (by omega))), by decide⟩
  · exact .inl ⟨.inr (.inr (.inr failed)), failed⟩
  · dsimp only at fits succeeds ⊢
    refine .inr ⟨?_, succeeds, rfl⟩
    rintro (outside | failed | outside | failed)
    · omega
    · exact Int.not_lt.mpr passed failed
    · omega
    · exact Int.not_lt.mpr succeeds failed

end BobaOS.Fat
