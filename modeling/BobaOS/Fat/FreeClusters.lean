import BobaOS.Fat.DirectoryReads

/-!
# The search for a free cluster

`getFreeFatEntryCluster` looks at windows of 512 entries as long as the end of a window is
below the number of sectors of the volume. That number has nothing to do with the number
of entries or of clusters: a window may be behind the FAT or behind the last cluster, and
the last clusters of a volume may be in no window. The search is right exactly where none
of this matters.
-/

namespace BobaOS.Fat

open ByteStore Programs

variable {env : Environment} {fat : FatPrivate} {world : World} {bytes : Nat → UInt8}
  {errCode : Code}

/-- A data cluster of the volume with a free entry in the first FAT. -/
structure FreeCluster (env : Environment) (fat : FatPrivate) (bytes : Nat → UInt8)
    (cluster : Nat) : Prop where
  numbered : 2 ≤ cluster
  entry : 4 * cluster + 4 ≤ fat.fatSize
  inside : fat.dataClusterStartAddress + (cluster - 1) * fat.clusterSize ≤ env.volumeSize
  free : entryAt fat bytes cluster = FAT_ENTRY_FREE

/-- Bytes that have the same first FAT. -/
def SameFat (fat : FatPrivate) (bytes other : Nat → UInt8) : Prop :=
  ∀ offset < fat.fatSize, other (fat.fatAddress + offset) = bytes (fat.fatAddress + offset)

/-- The search is right: it gives a cluster other than zero exactly if there is a free data
cluster, and then gives one, and what is behind the first FAT has no influence on it. -/
def FindsFree (env : Environment) (fat : FatPrivate) (errCode : Code) (world : World) : Prop :=
  ∃ code cluster after,
    (getFreeFatEntryCluster env fat errCode).run world = .ok ((code, cluster), after) ∧
      (cluster ≠ 0 ↔ ∃ other, FreeCluster env fat world.bytes other) ∧
      (cluster ≠ 0 → FreeCluster env fat world.bytes cluster) ∧
      ∀ bytes, SameFat fat world.bytes bytes → ∃ code' after',
        (getFreeFatEntryCluster env fat errCode).run { world with bytes } =
          .ok ((code', cluster), after')

/-- The first free entry is one that the search comes to. -/
structure FirstExamined (fat : FatPrivate) (bytes : Nat → UInt8) (entry : Nat) : Prop where
  examined : Examined fat entry
  free : entryAt fat bytes entry = FAT_ENTRY_FREE
  least : ∀ other < entry, entryAt fat bytes other ≠ FAT_ENTRY_FREE

/-- The search comes to an end without a free entry. -/
structure NoneExamined (fat : FatPrivate) (bytes : Nat → UInt8) : Prop where
  few : fat.bootRecord.totalSectorsBig ≤ 2 ^ 32 - 512
  used : ∀ entry, Examined fat entry → entryAt fat bytes entry ≠ FAT_ENTRY_FREE

/-- Each window that the search comes to is in the volume, so that it can be read. -/
def WindowsInside (env : Environment) (fat : FatPrivate) (bytes : Nat → UInt8) : Prop :=
  ∀ window, Examined fat (512 * window) →
    (∀ other < 512 * window, entryAt fat bytes other ≠ FAT_ENTRY_FREE) →
    fat.fatAddress + 2048 * (window + 1) ≤ env.volumeSize

/-- Where the search is right: the first free entry that it comes to is a data cluster's; or
no data cluster is free, and either it stops at entry 0 or it looks at nothing but entries
of the FAT and comes to an end. -/
def FindableFree (env : Environment) (fat : FatPrivate) (bytes : Nat → UInt8) : Prop :=
  (∃ entry, FirstExamined fat bytes entry ∧ FreeCluster env fat bytes entry) ∨
    (¬ ∃ other, FreeCluster env fat bytes other) ∧
      (FirstExamined fat bytes 0 ∧ 4 ≤ fat.fatSize ∨
        NoneExamined fat bytes ∧ ∀ entry, Examined fat entry → 4 * entry + 4 ≤ fat.fatSize)

/-! ## What the search gives -/

theorem Examined.lt {entry : Nat} (examined : Examined fat entry)
    (sectors : fat.bootRecord.totalSectorsBig < 2 ^ 32) : entry < 2 ^ 32 := by
  rw [Examined, Scanned] at examined
  omega

/-- The entries before one that the search comes to are in its way. -/
theorem Examined.earlier {entry other : Nat} (examined : Examined fat entry)
    (before : other ≤ entry) : Examined fat other := by
  rw [Examined, Scanned] at *
  omega

/-- So is the window that it is in. -/
theorem Examined.window {entry other : Nat} (examined : Examined fat entry)
    (same : other / 512 = entry / 512) : Examined fat other := by
  rw [Examined, Scanned] at *
  omega

theorem FirstExamined.unique {left right : Nat} (leftFree : entryAt fat bytes left = FAT_ENTRY_FREE)
    (leftLeast : ∀ other < left, entryAt fat bytes other ≠ FAT_ENTRY_FREE)
    (first : FirstExamined fat bytes right) : left = right := by
  refine Nat.le_antisymm (Nat.not_lt.mp fun before => ?_) (Nat.not_lt.mp fun before => ?_)
  · exact leftLeast right before first.free
  · exact first.least left before leftFree

section Outcomes

variable (quiet : env.Quiet) (fitting : env.Fitting) (roomy : env.Roomy)
  (narrow : fat.fatAddress < 2 ^ 32) (nonnegative : 0 ≤ errCode)

include quiet fitting roomy narrow nonnegative

/-- The search gives the first free entry that it comes to. -/
theorem search_first (sectors : fat.bootRecord.totalSectorsBig < 2 ^ 32) {entry : Nat}
    (first : FirstExamined fat world.bytes entry)
    (inside : fat.fatAddress + 2048 * (entry / 512 + 1) ≤ env.volumeSize) :
    ∃ code after,
      (getFreeFatEntryCluster env fat errCode).run world = .ok ((code, entry), after) := by
  have found : Meets (getFreeFatEntryCluster env fat errCode) world (fun _ => False)
      fun result _ => result.2 = entry := by
    refine ((getFreeFatEntryCluster_meets quiet fitting narrow nonnegative).mono_fault ?_).mono ?_
    · rintro fault (⟨-, full⟩ | ⟨-, none, -⟩)
      · exact full roomy
      · exact none entry (first.examined.lt sectors) first.free
    · rintro ⟨code, cluster⟩ after ⟨-, -, searched⟩
      cases searched with
      | found _ _ _ free least => exact FirstExamined.unique free least first
      | exhausted _ _ few none =>
        refine absurd first.free (none entry (first.examined.resolve_right ?_))
        omega
      | refused window outside none _ =>
        have reached : window ≤ entry / 512 := by
          by_contra behind
          exact none entry (by omega) first.free
        omega
  obtain ⟨⟨code, cluster⟩, after, ran, rfl⟩ := found.returns
  exact ⟨code, after, ran⟩

/-- Without a free one it gives zero. -/
theorem search_none (none : NoneExamined fat world.bytes) : ∃ code after,
    (getFreeFatEntryCluster env fat errCode).run world = .ok ((code, 0), after) := by
  have missed : Meets (getFreeFatEntryCluster env fat errCode) world (fun _ => False)
      fun result _ => result.2 = 0 := by
    refine ((getFreeFatEntryCluster_meets quiet fitting narrow nonnegative).mono_fault ?_).mono ?_
    · rintro fault (⟨-, full⟩ | ⟨-, -, many⟩)
      · exact full roomy
      · exact absurd none.few (Nat.not_le.mpr many)
    · rintro ⟨code, cluster⟩ after ⟨-, -, searched⟩
      cases searched with
      | found _ examined _ free _ => exact absurd free (none.used _ examined)
      | exhausted => rfl
      | refused => rfl
  obtain ⟨⟨code, cluster⟩, after, ran, rfl⟩ := missed.returns
  exact ⟨code, after, ran⟩

end Outcomes

/-! ## Bytes that are not the FAT's -/

variable {other : Nat → UInt8}

theorem SameFat.entryAt (same : SameFat fat bytes other) {entry : Nat}
    (inside : 4 * entry + 4 ≤ fat.fatSize) : entryAt fat other entry = entryAt fat bytes entry := by
  refine congrArg (· % 2 ^ 28) (readWord_congr fun offset small => ?_)
  rw [Nat.add_assoc]
  exact same _ (by omega)

/-- The first free entry is the same one if it is in the FAT. -/
theorem SameFat.first (same : SameFat fat bytes other) {entry : Nat}
    (first : FirstExamined fat bytes entry) (inside : 4 * entry + 4 ≤ fat.fatSize) :
    FirstExamined fat other entry where
  examined := first.examined
  free := (same.entryAt inside).trans first.free
  least earlier before := by
    rw [same.entryAt (by omega)]
    exact first.least earlier before

/-- Bytes with one more free entry. -/
def withFree (fat : FatPrivate) (bytes : Nat → UInt8) (entry : Nat) : Nat → UInt8 :=
  writeWord bytes (fat.fatAddress + 4 * entry) FAT_ENTRY_FREE

theorem withFree_first {entry : Nat} (examined : Examined fat entry)
    (used : ∀ earlier < entry, entryAt fat bytes earlier ≠ FAT_ENTRY_FREE) :
    FirstExamined fat (withFree fat bytes entry) entry where
  examined := examined
  free := by
    rw [Fat.entryAt, withFree, readWord_writeWord _ _ _ (by decide)]
    rfl
  least earlier before := by
    rw [Fat.entryAt, withFree, writeWord, readWord_overwrite _ _ _ _ _ (by omega)]
    exact used earlier before

/-- Behind the FAT such an entry is not part of it. -/
theorem withFree_same {entry : Nat} (behind : fat.fatSize ≤ 4 * entry) :
    SameFat fat bytes (withFree fat bytes entry) :=
  fun offset inside => overwrite_outside _ _ _ _ _ (by omega)

/-! ## Where the search is right -/

section Right

variable (quiet : env.Quiet) (fitting : env.Fitting) (roomy : env.Roomy)
  (narrow : fat.fatAddress < 2 ^ 32) (sectors : fat.bootRecord.totalSectorsBig < 2 ^ 32)
  (nonnegative : 0 ≤ errCode)

include quiet fitting roomy narrow sectors nonnegative

/-- An entry that would be found if it were free is in the FAT, if what is behind the FAT has
no influence on a search that gives zero. -/
theorem examined_inside (whole : 4 ∣ fat.fatSize) (inside : WindowsInside env fat bytes)
    (independent : ∀ other, SameFat fat bytes other → ∃ code after,
      (getFreeFatEntryCluster env fat errCode).run { world with bytes := other } =
        .ok ((code, 0), after))
    {entry : Nat} (positive : 0 < entry) (examined : Examined fat entry)
    (window : ∀ earlier < 512 * (entry / 512), entryAt fat bytes earlier ≠ FAT_ENTRY_FREE)
    (between : Nat → UInt8) (same : SameFat fat bytes between)
    (used : ∀ earlier < entry, entryAt fat between earlier ≠ FAT_ENTRY_FREE) :
    4 * entry + 4 ≤ fat.fatSize := by
  by_contra outside
  have behind : fat.fatSize ≤ 4 * entry := by omega
  let changed : World := { world with bytes := withFree fat between entry }
  have first : FirstExamined fat changed.bytes entry := withFree_first examined used
  have room := inside (entry / 512) (examined.earlier (by omega)) window
  obtain ⟨code, after, ran⟩ := search_first
    quiet fitting roomy narrow nonnegative sectors first room
  obtain ⟨code', after', other⟩ := independent (withFree fat between entry)
    fun offset small => (withFree_same behind offset small).trans (same offset small)
  have outcome := (Prod.mk.inj (Except.ok.inj (ran.symm.trans other))).1
  have zero : entry = 0 := (Prod.mk.inj outcome).2
  omega

/-- A search that is right is at a place where it can be. -/
theorem findable_of_findsFree (whole : 4 ∣ fat.fatSize)
    (inside : WindowsInside env fat world.bytes) (finds : FindsFree env fat errCode world) :
    FindableFree env fat world.bytes := by
  obtain ⟨code, cluster, after, ran, exact, right, independent⟩ := finds
  obtain ⟨-, -, searched⟩ :=
    (getFreeFatEntryCluster_meets quiet fitting narrow nonnegative).returned ran
  have missed (zero : cluster = 0) : ¬ ∃ other, FreeCluster env fat world.bytes other :=
    fun some => exact.mpr some zero
  cases searched with
  | found _ examined _ free least =>
    have first : FirstExamined fat world.bytes cluster := ⟨examined, free, least⟩
    by_cases zero : cluster = 0
    · subst zero
      refine .inr ⟨missed rfl, .inl ⟨first, ?_⟩⟩
      -- Entry 0 could be in use instead, and entry 1 free, if both were behind the FAT.
      by_contra small
      have empty : fat.fatSize = 0 := by omega
      have one := examined_inside quiet fitting roomy narrow sectors nonnegative whole inside
        independent Nat.one_pos (examined.window rfl) (fun earlier before => absurd before (by omega))
        (writeWord world.bytes fat.fatAddress 1) (fun offset small => by omega) ?_
      · omega
      · intro earlier before
        obtain rfl : earlier = 0 := by omega
        rw [entryAt, Nat.mul_zero, Nat.add_zero, readWord_writeWord _ _ _ (by decide)]
        decide
    · exact .inl ⟨cluster, first, right zero⟩
  | exhausted _ _ few none =>
    have used (entry : Nat) (examined : Examined fat entry) :
        entryAt fat world.bytes entry ≠ FAT_ENTRY_FREE :=
      none entry (examined.resolve_right fun last => by omega)
    refine .inr ⟨missed rfl, .inr ⟨⟨few, used⟩, fun entry examined => ?_⟩⟩
    have above : Examined fat (max entry 1) := examined.window (by omega)
    have one := examined_inside quiet fitting roomy narrow sectors nonnegative whole inside
      independent (by omega) above (fun earlier before => used earlier (above.earlier (by omega)))
      world.bytes (fun offset _ => rfl)
      (fun earlier before => used earlier (above.earlier before.le))
    omega
  | refused window outside none examined =>
    exact absurd (inside window examined none) (Nat.not_le.mpr outside)

/-- And where it can be it is. -/
theorem findsFree_of_findable (inside : WindowsInside env fat world.bytes)
    (findable : FindableFree env fat world.bytes) : FindsFree env fat errCode world := by
  -- A first free entry in the FAT is found, whatever is behind the FAT.
  have finds {entry : Nat} (first : FirstExamined fat world.bytes entry)
      (within : 4 * entry + 4 ≤ fat.fatSize) (bytes : Nat → UInt8)
      (same : SameFat fat world.bytes bytes) : ∃ code after,
        (getFreeFatEntryCluster env fat errCode).run { world with bytes } =
          .ok ((code, entry), after) := by
    refine search_first quiet fitting roomy narrow nonnegative sectors (same.first first within) ?_
    exact inside (entry / 512) (first.examined.earlier (by omega)) fun earlier before =>
      first.least earlier (by omega)
  rcases findable with ⟨entry, first, isFree⟩ | ⟨missed, ⟨first, within⟩ | ⟨none, within⟩⟩
  · obtain ⟨code, after, ran⟩ := finds first isFree.entry world.bytes fun _ _ => rfl
    have positive : entry ≠ 0 := Nat.ne_of_gt (Nat.lt_of_lt_of_le (by decide) isFree.numbered)
    exact ⟨code, entry, after, ran, iff_of_true positive ⟨entry, isFree⟩, fun _ => isFree,
      finds first isFree.entry⟩
  · obtain ⟨code, after, ran⟩ := finds first within world.bytes fun _ _ => rfl
    exact ⟨code, 0, after, ran, iff_of_false (fun not => not rfl) missed,
      fun not => absurd rfl not, finds first within⟩
  · obtain ⟨code, after, ran⟩ := search_none quiet fitting roomy narrow nonnegative none
    refine ⟨code, 0, after, ran, iff_of_false (fun not => not rfl) missed,
      fun not => absurd rfl not, fun bytes same => ?_⟩
    refine search_none quiet fitting roomy narrow nonnegative
      ⟨none.few, fun entry examined => ?_⟩
    dsimp only
    rw [same.entryAt (within entry examined)]
    exact none.used entry examined

end Right

/-- `getFreeFatEntryCluster` is right about a volume exactly if the first free entry that it
comes to is a data cluster's, or no data cluster is free and either it stops at entry 0 or
it looks at nothing but entries of the FAT and comes to an end.

Proof: what it gives is the first free entry, or zero. An entry behind the FAT that it looks
at could be free instead, and it would then give that one. -/
theorem free_cluster_found_iff {bootRecord : MasterBootRecord} (quiet : env.Quiet)
    (fitting : env.Fitting) (roomy : env.Roomy) (sector : 4 ∣ bootRecord.bytesPerSector)
    (sectors : bootRecord.totalSectorsBig < 2 ^ 32) (nonnegative : 0 ≤ errCode)
    (inside : WindowsInside env (attachToDisk bootRecord) world.bytes) :
    FindsFree env (attachToDisk bootRecord) errCode world ↔
      FindableFree env (attachToDisk bootRecord) world.bytes := by
  have narrow : (attachToDisk bootRecord).fatAddress < 2 ^ 32 := Nat.mod_lt _ (by decide)
  exact ⟨findable_of_findsFree quiet fitting roomy narrow sectors nonnegative
      (sector.mul_left _) inside,
    findsFree_of_findable quiet fitting roomy narrow sectors nonnegative inside⟩

/-- A volume of 600 sectors, whose FAT has 640 entries for its 558 clusters. -/
def narrowRecord : MasterBootRecord := ⟨512, 1, 32, 2, 600, 5, 2⟩

theorem first_cluster_found :
    FindsFree (plainEnvironment 307200) (attachToDisk narrowRecord) SUCCESS
      (freshWorld fun address => if address < 16392 then 255 else 0) := by
  refine (free_cluster_found_iff (fun _ => rfl) (fun _ => le_rfl) (fun _ _ => rfl) (by decide)
    (by decide) le_rfl ?_).mpr (.inl ⟨2, ⟨.inl (by rw [Scanned]; decide), rfl, ?_⟩, ?_⟩)
  · intro window examined _
    have few : narrowRecord.totalSectorsBig = 600 := rfl
    have first : (attachToDisk narrowRecord).fatAddress = 16384 := rfl
    have volume : (plainEnvironment 307200).volumeSize = 307200 := rfl
    have below : 512 * (512 * window / 512 + 1) < 600 := by
      rcases examined with scanned | ⟨-, -, many⟩
      · exact scanned
      · exact absurd many (by decide)
    omega
  · intro other before
    interval_cases other <;> decide
  · constructor <;> decide

/-- The only window ends before cluster 512, and no other cluster is free. -/
theorem last_clusters_missed :
    ¬ FindsFree (plainEnvironment 307200) (attachToDisk narrowRecord) SUCCESS
      (freshWorld fun address => if address < 18432 then 255 else 0) := by
  rintro ⟨code, cluster, after, ran, exact, -⟩
  have gave : (((getFreeFatEntryCluster (plainEnvironment 307200) (attachToDisk narrowRecord)
      SUCCESS).run (freshWorld fun address => if address < 18432 then 255 else 0)).toOption.map
        fun result => result.1.2) = some 0 := by decide +kernel
  rw [ran] at gave
  obtain rfl : cluster = 0 := Option.some.inj gave
  refine exact.mpr ⟨512, ?_⟩ rfl
  constructor <;> decide

end BobaOS.Fat
