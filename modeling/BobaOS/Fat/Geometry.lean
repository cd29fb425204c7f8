import BobaOS.Fat.DirectoryPaths

/-!
# The geometry of a volume

`attachToDisk` derives all addresses of a volume from its boot record, and looks at
none of the fields. This module settles for which boot records the numbers mean what
they are used for: the conversion of an address back to its cluster, the two copies of an
entry, and the numbers themselves.
-/

namespace BobaOS.Fat

open ByteStore Programs Vfsl

variable {env : Environment} {fat : FatPrivate} {stack : Stack}

/-! ## Addresses and clusters -/

/-- A cluster whose bytes lie below 4 GiB. -/
structure BelowFourGiB (fat : FatPrivate) (cluster : Nat) : Prop where
  numbered : 2 ≤ cluster
  narrow : cluster < 2 ^ 32
  ends : fat.dataClusterStartAddress + (cluster - 1) * fat.clusterSize ≤ 2 ^ 32

/-- The cluster is the first one, or half of 4 GiB lies between the first one and its end,
but not before it. -/
def ComesBack (clusterSize cluster : Nat) : Prop :=
  cluster = 2 ∨ 2 * ((cluster - 2) * clusterSize) ≤ 2 ^ 32 ∧
    2 ^ 32 < 2 * ((cluster - 2) * clusterSize) + clusterSize

instance (clusterSize cluster : Nat) : Decidable (ComesBack clusterSize cluster) :=
  inferInstanceAs (Decidable (_ ∨ _))

/-- A cluster below 4 GiB has its exact address. -/
theorem BelowFourGiB.address {cluster : Nat} (below : BelowFourGiB fat cluster)
    (positive : 0 < fat.clusterSize) :
    dataClusterToAbsoluteAddress fat cluster =
        (cluster - 2) * fat.clusterSize + fat.dataClusterStartAddress ∧
      (cluster - 2) * fat.clusterSize + fat.clusterSize + fat.dataClusterStartAddress ≤ 2 ^ 32 := by
  obtain ⟨numbered, narrow, ends⟩ := below
  have index : cluster - 1 = cluster - 2 + 1 := by omega
  rw [index, Nat.succ_mul] at ends
  have wrapped : (cluster + 2 ^ 32 - 2) % 2 ^ 32 = cluster - 2 := by omega
  refine ⟨?_, by omega⟩
  rw [dataClusterToAbsoluteAddress, wrapped]
  exact Nat.mod_eq_of_lt (by omega)

/-- The distance from the first cluster is subtracted the wrong way round, and wraps.

Proof: the quotient of what is left of 4 GiB is the number of the cluster exactly when that
many clusters, and no more, fit behind it. With clusters of one byte the sum of quotient and
two may wrap as well, but never to the cluster. -/
theorem cluster_comes_back_iff {cluster : Nat} (below : BelowFourGiB fat cluster)
    (positive : 0 < fat.clusterSize) :
    absoluteAddressToCluster fat (dataClusterToAbsoluteAddress fat cluster) = cluster ↔
      ComesBack fat.clusterSize cluster := by
  obtain ⟨address, ends⟩ := below.address positive
  obtain ⟨index, rfl⟩ := Nat.exists_eq_add_of_le' below.numbered
  have narrow := below.narrow
  rw [Nat.add_sub_cancel] at address ends
  rw [ComesBack, Nat.add_sub_cancel, address, absoluteAddressToCluster,
    if_neg (Nat.not_lt.mpr (Nat.le_add_left _ _))]
  generalize product : index * fat.clusterSize = distance at *
  have subtracted : (fat.dataClusterStartAddress + 2 ^ 32 -
      (distance + fat.dataClusterStartAddress)) % 2 ^ 32 = (2 ^ 32 - distance) % 2 ^ 32 := by
    congr 1
    omega
  rw [subtracted]
  rcases Nat.eq_zero_or_pos index with rfl | later
  · rw [Nat.zero_mul] at product
    subst product
    simp
  · have nonzero : 0 < distance := product ▸ Nat.mul_pos later positive
    rw [Nat.mod_eq_of_lt (show 2 ^ 32 - distance < 2 ^ 32 by omega)]
    have quotient : (2 ^ 32 - distance) / fat.clusterSize = index ↔
        2 * distance ≤ 2 ^ 32 ∧ 2 ^ 32 < 2 * distance + fat.clusterSize := by
      rw [Nat.div_eq_iff positive, product]
      omega
    rw [← quotient]
    have at_most : (2 ^ 32 - distance) / fat.clusterSize ≤ 2 ^ 32 - distance := Nat.div_le_self _ _
    generalize (2 ^ 32 - distance) / fat.clusterSize = behind at at_most ⊢
    omega

/-- The address of the root directory is the one of its cluster. -/
theorem rootDirStartAddress_eq (bootRecord : MasterBootRecord) :
    (attachToDisk bootRecord).rootDirStartAddress =
      dataClusterToAbsoluteAddress (attachToDisk bootRecord) bootRecord.rootDirCluster := by
  simp only [attachToDisk, dataClusterToAbsoluteAddress]
  rw [Nat.add_comm]

/-- Every path is followed from the cluster: the directory of a file without directories is
named by it, and the first directory of any other path is looked up in it. -/
def WalksFrom (fat : FatPrivate) (cluster : Nat) : Prop :=
  ∀ env stack label fileName errCode,
    entryOnly <$> findDirectory env fat stack ⟨label, partsTo [] fileName⟩ errCode =
        (fun result => (if result.2 = none then -ENMEM else errCode, result.2)) <$>
          walk env fat stack true [] cluster ∧
      ∀ first names, entryOnly <$> findDirectory env fat stack
          ⟨label, partsTo (first :: names) fileName⟩ errCode =
        walk env fat stack false (lookedUp first names) cluster

/-- Paths are followed from no cluster but the one that the address of the root directory
converts to, which the directory of a file in it shows. -/
theorem walksFrom_iff {cluster : Nat} (narrow : cluster < 2 ^ 32) :
    WalksFrom fat cluster ↔ absoluteAddressToCluster fat fat.rootDirStartAddress = cluster := by
  constructor
  · intro walks
    obtain ⟨after, roots⟩ := walk_root (plainEnvironment 0) fat (fun _ _ _ => 0) true
      (freshWorld fun _ => 0)
    have shown := (walks (plainEnvironment 0) (fun _ _ _ => 0) 0 [] 0).1.symm.trans
      (findDirectory_root 0 [] 0)
    have ran := congrArg (fun program => program.run (freshWorld fun _ => 0)) shown
    simp only [StateT.run_map, roots] at ran
    have same : directoryAt cluster =
        directoryAt (absoluteAddressToCluster fat fat.rootDirStartAddress) := by
      simpa [plainEnvironment] using Except.ok.inj ran
    rw [← startCluster_directoryAt (absoluteAddressToCluster_lt fat _), ← same,
      startCluster_directoryAt narrow]
  · rintro rfl env stack label fileName errCode
    exact ⟨findDirectory_root label fileName errCode,
      fun first names => findDirectory_walks label fileName first names errCode⟩

/-- On every volume the address of a cluster below 4 GiB converts back to it exactly when it
comes back, and paths are followed from the root directory exactly when its cluster does. -/
theorem cluster_of_address_iff (bootRecord : MasterBootRecord)
    (positive : 0 < (attachToDisk bootRecord).clusterSize) :
    (∀ cluster, BelowFourGiB (attachToDisk bootRecord) cluster →
      (absoluteAddressToCluster (attachToDisk bootRecord)
          (dataClusterToAbsoluteAddress (attachToDisk bootRecord) cluster) = cluster ↔
        ComesBack (attachToDisk bootRecord).clusterSize cluster)) ∧
    (BelowFourGiB (attachToDisk bootRecord) bootRecord.rootDirCluster →
      (WalksFrom (attachToDisk bootRecord) bootRecord.rootDirCluster ↔
        ComesBack (attachToDisk bootRecord).clusterSize bootRecord.rootDirCluster)) := by
  refine ⟨fun cluster below => cluster_comes_back_iff below positive, fun below => ?_⟩
  rw [walksFrom_iff below.narrow, rootDirStartAddress_eq]
  exact cluster_comes_back_iff below positive

/-- The first cluster of a small volume comes back. -/
theorem first_cluster_comes_back :
    absoluteAddressToCluster (attachToDisk smallRecord)
        (dataClusterToAbsoluteAddress (attachToDisk smallRecord) 2) = 2 ∧
      WalksFrom (attachToDisk smallRecord) 2 := by
  obtain ⟨comes_back, walks⟩ := cluster_of_address_iff smallRecord (by decide)
  exact ⟨(comes_back 2 ⟨by decide, by decide, by decide⟩).mpr (by decide),
    (walks ⟨by decide, by decide, by decide⟩).mpr (by decide)⟩

/-- The same volume with the root directory in its second cluster. -/
def movedRootRecord : MasterBootRecord := { smallRecord with rootDirCluster := 3 }

/-- The second cluster of a small volume does not come back, and a root directory there is
not found. -/
theorem second_cluster_lost :
    BelowFourGiB (attachToDisk movedRootRecord) 3 ∧
      absoluteAddressToCluster (attachToDisk movedRootRecord)
        (dataClusterToAbsoluteAddress (attachToDisk movedRootRecord) 3) = 8388609 ∧
      ¬ WalksFrom (attachToDisk movedRootRecord) 3 := by
  have lost : absoluteAddressToCluster (attachToDisk movedRootRecord)
      (attachToDisk movedRootRecord).rootDirStartAddress = 8388609 := by decide
  refine ⟨⟨by decide, by decide, by decide⟩, by decide, fun walks => ?_⟩
  rw [walksFrom_iff (by decide), lost] at walks
  exact absurd walks (by decide)

/-! ## The copies of an entry -/

/-- The address of the entry of a cluster in a copy of the FAT. -/
def copyEntryAddress (bootRecord : MasterBootRecord) (copy cluster : Nat) : Nat :=
  bootRecord.reservedSectors * bootRecord.bytesPerSector +
    copy * (bootRecord.sectorsPerFat32 * bootRecord.bytesPerSector) + 4 * cluster

/-- The address is one of the four of an entry. -/
def InEntry (start address : Nat) : Prop := start ≤ address ∧ address < start + 4

/-- The address belongs to the entry of the cluster in one of the copies. -/
def InSomeCopy (bootRecord : MasterBootRecord) (cluster address : Nat) : Prop :=
  ∃ copy < bootRecord.fatCopies, InEntry (copyEntryAddress bootRecord copy cluster) address

/-- Whatever the volume holds, an entry is written to every copy and nothing else is. -/
def WritesEveryCopy (env : Environment) (bootRecord : MasterBootRecord) (cluster : Nat) : Prop :=
  ∀ world value, value < 2 ^ 32 →
    Meets (writeFATEntry env (attachToDisk bootRecord) cluster value) world (fun _ => False)
      fun ret after => 0 ≤ ret ∧
        (∀ copy < bootRecord.fatCopies,
          readWord after.bytes (copyEntryAddress bootRecord copy cluster) = value) ∧
        ∀ address, ¬ InSomeCopy bootRecord cluster address →
          after.bytes address = world.bytes address

/-- The two addresses that are written belong to the copies that there are: there are two,
both with an address below 4 GiB, or there is one that the second address wraps to. -/
def CopiesWritten (bootRecord : MasterBootRecord) (cluster : Nat) : Prop :=
  copyEntryAddress bootRecord 0 cluster < 2 ^ 32 ∧
    (bootRecord.fatCopies = 2 ∧ copyEntryAddress bootRecord 1 cluster < 2 ^ 32 ∨
      bootRecord.fatCopies = 1 ∧
        bootRecord.sectorsPerFat32 * bootRecord.bytesPerSector % 2 ^ 32 = 0)

instance (bootRecord : MasterBootRecord) (cluster : Nat) :
    Decidable (CopiesWritten bootRecord cluster) := inferInstanceAs (Decidable (_ ∧ _))

/-- The first address written is the one in the first copy, with 32 bits. -/
theorem clusterToFATTableAddress_eq (bootRecord : MasterBootRecord) (cluster : Nat) :
    clusterToFATTableAddress (attachToDisk bootRecord) cluster =
      copyEntryAddress bootRecord 0 cluster % 2 ^ 32 := by
  simp only [clusterToFATTableAddress, attachToDisk, copyEntryAddress]
  omega

/-- The second address written is the one in the second copy, with 32 bits. -/
theorem clusterToFATCopyTableAddress_eq (bootRecord : MasterBootRecord) (cluster : Nat) :
    clusterToFATCopyTableAddress (attachToDisk bootRecord) cluster =
      copyEntryAddress bootRecord 1 cluster % 2 ^ 32 := by
  simp only [clusterToFATCopyTableAddress, attachToDisk, copyEntryAddress]
  omega

/-- An entry that is all ones marks the addresses that it is written to. -/
theorem writeWord_ones (store : Nat → UInt8) (written address : Nat) :
    (InEntry written address → writeWord store written 0xFFFFFFFF address = 255) ∧
      (¬ InEntry written address → writeWord store written 0xFFFFFFFF address = store address) := by
  have ones : ∀ offset < 4, wordBytes 0xFFFFFFFF offset = 255 := by decide
  constructor
  · rintro ⟨lower, upper⟩
    exact (overwrite_inside _ _ _ _ _ ⟨lower, upper⟩).trans (ones _ (by omega))
  · intro outside
    rw [InEntry] at outside
    exact overwrite_outside _ _ _ _ _ (by omega)

/-- A word that is all ones consists of bytes that are. -/
theorem readWord_ones {store : Nat → UInt8} {address : Nat}
    (ones : readWord store address = 0xFFFFFFFF) (offset : Nat) (inside : offset < 4) :
    store (address + offset) = 255 := by
  have zeroth := (store address).toNat_lt
  have first := (store (address + 1)).toNat_lt
  have second := (store (address + 2)).toNat_lt
  have third := (store (address + 3)).toNat_lt
  rw [readWord] at ones
  apply UInt8.toNat_inj.mp
  rw [show (255 : UInt8).toNat = 255 from rfl]
  obtain rfl | rfl | rfl | rfl : offset = 0 ∨ offset = 1 ∨ offset = 2 ∨ offset = 3 := by omega
  · rw [Nat.add_zero]
    omega
  all_goals omega

section Copies

variable {bootRecord : MasterBootRecord} {cluster : Nat}

/-- The addresses of the entries in the copies are as far apart as the size of a FAT. -/
theorem copyEntryAddress_succ (bootRecord : MasterBootRecord) (copy cluster : Nat) :
    copyEntryAddress bootRecord (copy + 1) cluster =
      copyEntryAddress bootRecord copy cluster +
        bootRecord.sectorsPerFat32 * bootRecord.bytesPerSector := by
  simp only [copyEntryAddress, Nat.succ_mul]
  omega

/-- Where a write reaches every copy, the addresses that an entry of ones is written to are
those of the copies. -/
theorem WritesEveryCopy.addresses (writes : WritesEveryCopy env bootRecord cluster)
    (address : Nat) : InSomeCopy bootRecord cluster address ↔
      InEntry (copyEntryAddress bootRecord 0 cluster % 2 ^ 32) address ∨
        InEntry (copyEntryAddress bootRecord 1 cluster % 2 ^ 32) address := by
  obtain ⟨ret, after, ran, succeeded, copies, others⟩ :=
    (writes (freshWorld fun _ => 0) 0xFFFFFFFF (by decide)).returns
  have law := @writeFATEntry_cases env (attachToDisk bootRecord) (freshWorld fun _ => 0)
    (fun _ => True) cluster 0xFFFFFFFF
  rcases law.returned ran with ⟨-, failed⟩ | ⟨-, -, bytes⟩
  · exact absurd failed (Int.not_lt.mpr succeeded)
  rw [clusterToFATTableAddress_eq, clusterToFATCopyTableAddress_eq] at bytes
  generalize copyEntryAddress bootRecord 0 cluster % 2 ^ 32 = first at bytes ⊢
  generalize copyEntryAddress bootRecord 1 cluster % 2 ^ 32 = second at bytes ⊢
  have zero : (255 : UInt8) ≠ 0 := by decide
  constructor
  · rintro ⟨copy, counted, lower, upper⟩
    have one := readWord_ones (copies copy counted)
      (address - copyEntryAddress bootRecord copy cluster) (by omega)
    rw [Nat.add_sub_cancel' lower, bytes] at one
    by_contra outside
    obtain ⟨not_first, not_second⟩ := not_or.mp outside
    rw [(writeWord_ones _ second address).2 not_second,
      (writeWord_ones _ first address).2 not_first] at one
    exact zero one.symm
  · intro inside
    by_contra outside
    have unchanged := others address outside
    rw [bytes] at unchanged
    by_cases late : InEntry second address
    · exact zero (((writeWord_ones _ second address).1 late).symm.trans unchanged)
    · rw [(writeWord_ones _ second address).2 late] at unchanged
      have early := (writeWord_ones (fun _ => 0) first address).1 (inside.resolve_right late)
      exact zero (early.symm.trans unchanged)

/-- There are two copies, both below 4 GiB, or the second address is that of the only one.

Proof: each of the two places holds an entry of at most one copy, since the copies are
further apart than an entry is long; and both places are entries of copies. -/
theorem WritesEveryCopy.copies (writes : WritesEveryCopy env bootRecord cluster)
    (copies : 1 ≤ bootRecord.fatCopies) (numbered : 2 ≤ cluster)
    (entry : 4 * cluster + 4 ≤ bootRecord.sectorsPerFat32 * bootRecord.bytesPerSector) :
    CopiesWritten bootRecord cluster := by
  have one : copyEntryAddress bootRecord 1 cluster = copyEntryAddress bootRecord 0 cluster + _ :=
    copyEntryAddress_succ bootRecord 0 cluster
  have two : copyEntryAddress bootRecord 2 cluster = copyEntryAddress bootRecord 1 cluster + _ :=
    copyEntryAddress_succ bootRecord 1 cluster
  have shown (copy : Nat) (counted : copy < bootRecord.fatCopies) (offset : Nat)
      (inside : offset < 4) :=
    (writes.addresses (copyEntryAddress bootRecord copy cluster + offset)).mp
      ⟨copy, counted, by omega, by omega⟩
  have met (address : Nat) := (writes.addresses address).mpr
  rw [CopiesWritten]
  simp only [InSomeCopy, InEntry] at shown met
  generalize bootRecord.sectorsPerFat32 * bootRecord.bytesPerSector = size at *
  obtain single | double | many : bootRecord.fatCopies = 1 ∨ bootRecord.fatCopies = 2 ∨
      3 ≤ bootRecord.fatCopies := by omega
  · simp only [single, Nat.lt_one_iff, exists_eq_left] at met
    have first := met _ (.inl ⟨Nat.le_refl _, by omega⟩)
    have first_end := met (copyEntryAddress bootRecord 0 cluster % 2 ^ 32 + 3) (by omega)
    have second := met _ (.inr ⟨Nat.le_refl _, by omega⟩)
    have second_end := met (copyEntryAddress bootRecord 1 cluster % 2 ^ 32 + 3) (by omega)
    omega
  · have first := shown 0 (by omega) 0 (by decide)
    have first_end := shown 0 (by omega) 3 (by decide)
    have second := shown 1 (by omega) 0 (by decide)
    have second_end := shown 1 (by omega) 3 (by decide)
    omega
  · have first := shown 0 (by omega) 0 (by decide)
    have second := shown 1 (by omega) 0 (by decide)
    have third := shown 2 (by omega) 0 (by decide)
    omega

/-- Where the volume holds both places, an entry is written to them. -/
theorem writeFATEntry_places (quiet : env.Quiet) (value : Nat) {world : World}
    (first : clusterToFATTableAddress fat cluster + 4 ≤ env.volumeSize)
    (second : clusterToFATCopyTableAddress fat cluster + 4 ≤ env.volumeSize) :
    Meets (writeFATEntry env fat cluster value) world (fun _ => False) fun ret after => 0 ≤ ret ∧
      after.bytes = writeWord (writeWord world.bytes (clusterToFATTableAddress fat cluster) value)
        (clusterToFATCopyTableAddress fat cluster) value := by
  apply (writeFATEntry_cases cluster value).mono
  rintro ret after (⟨failed, -⟩ | ⟨-, succeeded, bytes⟩)
  · have passes (call : Nat) : ¬ env.transfer call < 0 := by
      rw [quiet]
      decide
    rcases failed with outside | failed | outside | failed
    · omega
    · exact absurd failed (passes _)
    · omega
    · exact absurd failed (passes _)
  · exact ⟨succeeded, bytes⟩

/-- Where the two addresses are those of all copies, an entry is written to them alone. -/
theorem CopiesWritten.writes (written : CopiesWritten bootRecord cluster) (quiet : env.Quiet)
    (entry : 4 * cluster + 4 ≤ bootRecord.sectorsPerFat32 * bootRecord.bytesPerSector)
    (volume : bootRecord.reservedSectors * bootRecord.bytesPerSector + bootRecord.fatCopies *
      (bootRecord.sectorsPerFat32 * bootRecord.bytesPerSector) ≤ env.volumeSize) :
    WritesEveryCopy env bootRecord cluster := by
  intro world value small
  have first := clusterToFATTableAddress_eq bootRecord cluster
  have second := clusterToFATCopyTableAddress_eq bootRecord cluster
  have apart : copyEntryAddress bootRecord 1 cluster = copyEntryAddress bootRecord 0 cluster + _ :=
    copyEntryAddress_succ bootRecord 0 cluster
  have begins : copyEntryAddress bootRecord 0 cluster =
      bootRecord.reservedSectors * bootRecord.bytesPerSector + 4 * cluster := by
    rw [copyEntryAddress, Nat.zero_mul, Nat.add_zero]
  obtain ⟨low, ⟨two, lower⟩ | ⟨one, wraps⟩⟩ := written
  · rw [Nat.mod_eq_of_lt low] at first
    rw [Nat.mod_eq_of_lt lower] at second
    rw [two] at volume
    apply (writeFATEntry_places quiet value (by omega) (by omega)).mono
    rintro ret after ⟨succeeded, bytes⟩
    rw [first, second] at bytes
    refine ⟨succeeded, fun copy counted => ?_, fun address outside => ?_⟩
    · obtain rfl | rfl : copy = 0 ∨ copy = 1 := by omega
      · rw [bytes, writeWord, readWord_overwrite _ _ _ _ _ (by omega)]
        exact readWord_writeWord _ _ _ small
      · rw [bytes]
        exact readWord_writeWord _ _ _ small
    · have not_first : ¬ InEntry (copyEntryAddress bootRecord 0 cluster) address :=
        fun inside => outside ⟨0, by omega, inside⟩
      have not_second : ¬ InEntry (copyEntryAddress bootRecord 1 cluster) address :=
        fun inside => outside ⟨1, by omega, inside⟩
      rw [InEntry] at not_first not_second
      rw [bytes, writeWord, overwrite_outside _ _ _ _ _ (by omega), writeWord,
        overwrite_outside _ _ _ _ _ (by omega)]
  · have same : copyEntryAddress bootRecord 1 cluster % 2 ^ 32 =
        copyEntryAddress bootRecord 0 cluster := by omega
    rw [Nat.mod_eq_of_lt low] at first
    rw [same] at second
    rw [one] at volume
    apply (writeFATEntry_places quiet value (by omega) (by omega)).mono
    rintro ret after ⟨succeeded, bytes⟩
    rw [first, second] at bytes
    refine ⟨succeeded, fun copy counted => ?_, fun address outside => ?_⟩
    · obtain rfl : copy = 0 := by omega
      rw [bytes]
      exact readWord_writeWord _ _ _ small
    · have not_first : ¬ InEntry (copyEntryAddress bootRecord 0 cluster) address :=
        fun inside => outside ⟨0, by omega, inside⟩
      rw [InEntry] at not_first
      rw [bytes, writeWord, overwrite_outside _ _ _ _ _ (by omega), writeWord,
        overwrite_outside _ _ _ _ _ (by omega)]

/-- With the FATs in the volume and no error of a transfer, an entry is written to every copy
and to nothing else exactly when the copies are the two that are written. -/
theorem every_copy_written_iff (quiet : env.Quiet) (copies : 1 ≤ bootRecord.fatCopies)
    (numbered : 2 ≤ cluster)
    (entry : 4 * cluster + 4 ≤ bootRecord.sectorsPerFat32 * bootRecord.bytesPerSector)
    (volume : bootRecord.reservedSectors * bootRecord.bytesPerSector + bootRecord.fatCopies *
      (bootRecord.sectorsPerFat32 * bootRecord.bytesPerSector) ≤ env.volumeSize) :
    WritesEveryCopy env bootRecord cluster ↔ CopiesWritten bootRecord cluster :=
  ⟨fun writes => writes.copies copies numbered entry,
    fun written => written.writes quiet entry volume⟩

end Copies

/-- On a small volume with two copies an entry is written to both. -/
theorem two_copies_written : WritesEveryCopy (plainEnvironment 82944) smallRecord 2 :=
  (every_copy_written_iff (fun _ => rfl) (by decide) (by decide) (by decide) (by decide)).mpr
    (by decide)

/-- The same volume with one copy. -/
def singleCopyRecord : MasterBootRecord := { smallRecord with fatCopies := 1 }

/-- On a small volume with one copy the entry of a cluster is also written to the data area. -/
theorem data_area_written :
    1 ≤ singleCopyRecord.fatCopies ∧
      DataCluster (plainEnvironment 82944) (attachToDisk singleCopyRecord) 2 ∧
      ¬ WritesEveryCopy (plainEnvironment 82944) singleCopyRecord 2 := by
  refine ⟨by decide, by constructor <;> decide, fun writes => ?_⟩
  obtain ⟨ret, after, ran, -, -, others⟩ :=
    (writes (freshWorld fun _ => 0) 0xFFFFFFFF (by decide)).returns
  have shown : ((writeFATEntry (plainEnvironment 82944) (attachToDisk singleCopyRecord) 2
      0xFFFFFFFF).run (freshWorld fun _ => 0)).toOption.map
        (fun result => result.2.bytes ((attachToDisk singleCopyRecord).dataClusterStartAddress + 8)) =
      some 255 := by decide +kernel
  rw [ran] at shown
  have changed : after.bytes 16904 = 255 := Option.some.inj shown
  have kept : after.bytes 16904 = 0 := by
    refine others 16904 ?_
    rintro ⟨copy, counted, lower, upper⟩
    obtain rfl : copy = 0 := Nat.lt_one_iff.mp counted
    exact absurd upper (by decide)
  exact absurd (changed.symm.trans kept) (by decide)

/-! ## Mounting -/

/-- A 16-bit field of a boot sector. -/
def readHalf (sector : Nat → UInt8) (offset : Nat) : Nat :=
  (sector offset).toNat + (sector (offset + 1)).toNat * 256

/-- The fields of `struct masterBootRecord`, which is packed, in a boot sector. -/
def masterBootRecord (sector : Nat → UInt8) : MasterBootRecord where
  bytesPerSector := readHalf sector 11
  sectorsPerCluster := (sector 13).toNat
  reservedSectors := readHalf sector 14
  fatCopies := (sector 16).toNat
  totalSectorsBig := readWord sector 32
  sectorsPerFat32 := readWord sector 36
  rootDirCluster := readWord sector 44

/-- The characters of "FAT32   ". -/
def fat32String : CString := [70, 65, 84, 51, 50, 32, 32, 32]

/-- `resolve`, which compares the `systemIdString`. -/
def resolve (sector : Nat → UInt8) : Bool := strncmp (slice sector 82) (chars fat32String) 8 = 0

/-- How the calls of `attachToDisk` end: the requests for its two blocks, the two streams
that are created, and the read of the boot record. -/
structure Mounting where
  privateBlock : Bool
  rStream : Bool
  wStream : Bool
  errCode : Code
  retFs : Bool

/-- `attachToDisk` as a whole: NULL, or the file system with these numbers. -/
def attachPartition (mounting : Mounting) (sector : Nat → UInt8) : Option FatPrivate :=
  if ¬ mounting.privateBlock then none
  else if ¬ mounting.rStream then none
  else if ¬ mounting.wStream then none
  else if mounting.errCode < 0 then none
  else if ¬ mounting.retFs then none
  else some (attachToDisk (masterBootRecord sector))

section Divisions

variable (fat : FatPrivate)

/-- A quotient and a remainder; to divide by zero is a fault. -/
def divided (dividend divisor : Nat) : Option (Nat × Nat) :=
  if divisor = 0 then none else some (dividend / divisor, dividend % divisor)

/-- `absoluteAddressToCluster` with the fault of its division. -/
def addressDivided (absolute : Nat) : Option Nat :=
  if absolute < fat.dataClusterStartAddress then some 0
  else
    (divided ((fat.dataClusterStartAddress + 2 ^ 32 - absolute) % 2 ^ 32) fat.clusterSize).map
      fun parts => (2 + parts.1) % 2 ^ 32

/-- What `readFatFile` divides before it reads anything. -/
def readDivided (size filePos : Nat) : Option ((Nat × Nat) × Nat × Nat) := do
  let whole ← divided size fat.clusterSize
  let begun ← divided filePos fat.clusterSize
  return (whole, begun)

/-- What `writeFatFile` divides before it writes anything. -/
def writeDivided (size startPos : Nat) : Option ((Nat × Nat) × Nat × Nat) := do
  let begun ← divided startPos fat.clusterSize
  let whole ← divided ((begun.2 + size) % 2 ^ 64) fat.clusterSize
  return (begun, whole)

/-- No address is converted, no read and no write begun with a division by zero. All other
divisions of the three functions have the same divisor. -/
structure NeverDividesByZero : Prop where
  address : ∀ absolute, addressDivided fat absolute ≠ none
  read : ∀ size filePos, readDivided fat size filePos ≠ none
  write : ∀ size startPos, writeDivided fat size startPos ≠ none

end Divisions

namespace MasterBootRecord

variable (bootRecord : MasterBootRecord)

/-- Where the FAT begins, its copy, the data area and the root directory, as integers. -/
def fatStart : Nat := bootRecord.reservedSectors * bootRecord.bytesPerSector

def fatCopyStart : Nat :=
  bootRecord.fatStart + bootRecord.sectorsPerFat32 * bootRecord.bytesPerSector

def dataStart : Nat :=
  bootRecord.fatStart +
    bootRecord.sectorsPerFat32 * bootRecord.bytesPerSector * bootRecord.fatCopies

def rootStart : Int :=
  bootRecord.dataStart + ((bootRecord.rootDirCluster : Int) - 2) *
    (bootRecord.bytesPerSector * bootRecord.sectorsPerCluster : Nat)

end MasterBootRecord

/-- The numbers of a volume are what its boot record says they are, as integers. -/
structure ExactNumbers (bootRecord : MasterBootRecord) (fat : FatPrivate) : Prop where
  clusterSize : fat.clusterSize = bootRecord.bytesPerSector * bootRecord.sectorsPerCluster
  fatAddress : fat.fatAddress = bootRecord.fatStart
  fatCopyStartAddress : fat.fatCopyStartAddress = bootRecord.fatCopyStart
  dataClusterStartAddress : fat.dataClusterStartAddress = bootRecord.dataStart
  rootDirStartAddress : fat.rootDirStartAddress = bootRecord.rootStart

/-- A partition whose boot sector is accepted is refused, or mounted with exact numbers that
nothing is divided by if they are zero. -/
def MountsSafely (sector : Nat → UInt8) : Prop :=
  resolve sector = true → ∀ mounting fat, attachPartition mounting sector = some fat →
    0 < fat.clusterSize ∧ ExactNumbers (masterBootRecord sector) fat ∧ NeverDividesByZero fat

/-- Neither sectors nor clusters are empty, and the addresses of the volume fit into 32 bits. -/
structure Addressable (bootRecord : MasterBootRecord) : Prop where
  bytesPerSector : bootRecord.bytesPerSector ≠ 0
  sectorsPerCluster : bootRecord.sectorsPerCluster ≠ 0
  fatCopyStart : bootRecord.fatCopyStart < 2 ^ 32
  dataStart : bootRecord.dataStart < 2 ^ 32
  rootStart : 0 ≤ bootRecord.rootStart ∧ bootRecord.rootStart < 2 ^ 32

/-- The fields of a boot sector are no wider than the bytes that they are read from. -/
theorem readHalf_lt (sector : Nat → UInt8) (offset : Nat) : readHalf sector offset < 2 ^ 16 := by
  have low := (sector offset).toNat_lt
  have high := (sector (offset + 1)).toNat_lt
  rw [readHalf]
  omega

/-- The size of a cluster and the address of the FAT are exact for every boot sector. -/
theorem masterBootRecord_narrow (sector : Nat → UInt8) :
    (masterBootRecord sector).bytesPerSector * (masterBootRecord sector).sectorsPerCluster <
        2 ^ 32 ∧
      (masterBootRecord sector).fatStart < 2 ^ 32 := by
  have bytes : (masterBootRecord sector).bytesPerSector ≤ 2 ^ 16 :=
    Nat.le_of_lt (readHalf_lt sector 11)
  have sectors : (masterBootRecord sector).sectorsPerCluster < 2 ^ 8 := (sector 13).toNat_lt
  have reserved : (masterBootRecord sector).reservedSectors < 2 ^ 16 := readHalf_lt sector 14
  have cluster := Nat.mul_lt_mul_of_le_of_lt bytes sectors (by decide)
  have fat := Nat.mul_lt_mul_of_lt_of_le reserved bytes (by decide)
  rw [MasterBootRecord.fatStart]
  exact ⟨Nat.lt_trans cluster (by decide), fat⟩

/-- The address of the root directory wraps as a whole. -/
theorem rootDirStartAddress_wraps (bootRecord : MasterBootRecord)
    (narrow : bootRecord.bytesPerSector * bootRecord.sectorsPerCluster < 2 ^ 32)
    (number : bootRecord.rootDirCluster < 2 ^ 32) :
    ((attachToDisk bootRecord).rootDirStartAddress : Int) = bootRecord.rootStart % 2 ^ 32 := by
  simp only [attachToDisk, MasterBootRecord.rootStart, MasterBootRecord.dataStart,
    MasterBootRecord.fatStart, Nat.mod_eq_of_lt narrow]
  generalize bootRecord.bytesPerSector * bootRecord.sectorsPerCluster = size at *
  generalize bootRecord.sectorsPerFat32 * bootRecord.bytesPerSector * bootRecord.fatCopies = fats
  generalize bootRecord.reservedSectors * bootRecord.bytesPerSector = reserved
  obtain zero | one | ⟨index, two⟩ : bootRecord.rootDirCluster = 0 ∨
      bootRecord.rootDirCluster = 1 ∨ ∃ index, bootRecord.rootDirCluster = index + 2 := by
    rcases bootRecord.rootDirCluster with _ | _ | index
    · exact .inl rfl
    · exact .inr (.inl rfl)
    · exact .inr (.inr ⟨index, rfl⟩)
  · rw [zero]
    omega
  · rw [one]
    omega
  · have wrapped : (index + 2 + 2 ^ 32 - 2) % 2 ^ 32 = index := by omega
    have distance : ((index + 2 : Nat) : Int) - 2 = index := by omega
    rw [two, wrapped, distance, ← Int.natCast_mul]
    omega

/-- A partition is mounted with the numbers of its boot sector if nothing fails. -/
theorem attachPartition_some {mounting : Mounting} {sector : Nat → UInt8} {fat : FatPrivate}
    (mounted : attachPartition mounting sector = some fat) :
    fat = attachToDisk (masterBootRecord sector) := by
  simp only [attachPartition] at mounted
  split_ifs at mounted
  exact (Option.some.inj mounted).symm

/-- Nothing is divided by zero exactly where the size of a cluster is positive. -/
theorem neverDividesByZero_iff : NeverDividesByZero fat ↔ 0 < fat.clusterSize := by
  constructor
  · intro never
    rcases Nat.eq_zero_or_pos fat.clusterSize with zero | positive
    · exact absurd (show readDivided fat 0 0 = none by simp [readDivided, divided, zero])
        (never.read 0 0)
    · exact positive
  · intro positive
    have nonzero : fat.clusterSize ≠ 0 := Nat.ne_of_gt positive
    constructor
    · intro absolute
      rw [addressDivided, divided, if_neg nonzero]
      split <;> simp
    · intro size filePos
      simp [readDivided, divided, nonzero]
    · intro size startPos
      simp [writeDivided, divided, nonzero]

/-- The numbers of a boot sector are exact and positive exactly where they are addressable. -/
theorem exactNumbers_iff (sector : Nat → UInt8) :
    0 < (attachToDisk (masterBootRecord sector)).clusterSize ∧
        ExactNumbers (masterBootRecord sector) (attachToDisk (masterBootRecord sector)) ↔
      Addressable (masterBootRecord sector) := by
  obtain ⟨narrow, reserved⟩ := masterBootRecord_narrow sector
  have root := rootDirStartAddress_wraps _ narrow (readWord_lt sector 44)
  generalize masterBootRecord sector = bootRecord at *
  have cluster : (attachToDisk bootRecord).clusterSize =
      bootRecord.bytesPerSector * bootRecord.sectorsPerCluster := Nat.mod_eq_of_lt narrow
  have first : (attachToDisk bootRecord).fatAddress = bootRecord.fatStart :=
    Nat.mod_eq_of_lt reserved
  have copy : (attachToDisk bootRecord).fatCopyStartAddress = bootRecord.fatCopyStart % 2 ^ 32 :=
    congrArg (fun start => (start + _) % 2 ^ 32) first
  have data : (attachToDisk bootRecord).dataClusterStartAddress = bootRecord.dataStart % 2 ^ 32 :=
    congrArg (fun start => (start + _) % 2 ^ 32) first
  constructor
  · rintro ⟨positive, exact_numbers⟩
    rw [cluster] at positive
    have copies := exact_numbers.fatCopyStartAddress
    have begins := exact_numbers.dataClusterStartAddress
    have lies := exact_numbers.rootDirStartAddress
    rw [copy] at copies
    rw [data] at begins
    rw [root] at lies
    exact {
      bytesPerSector := Nat.ne_of_gt (Nat.pos_of_mul_pos_right positive)
      sectorsPerCluster := Nat.ne_of_gt (Nat.pos_of_mul_pos_left positive)
      fatCopyStart := by omega
      dataStart := by omega
      rootStart := by omega }
  · intro addressable
    obtain ⟨lower, upper⟩ := addressable.rootStart
    have positive : 0 < bootRecord.bytesPerSector * bootRecord.sectorsPerCluster :=
      Nat.mul_pos (Nat.pos_of_ne_zero addressable.bytesPerSector)
        (Nat.pos_of_ne_zero addressable.sectorsPerCluster)
    exact ⟨cluster ▸ positive, {
      clusterSize := cluster
      fatAddress := first
      fatCopyStartAddress := copy.trans (Nat.mod_eq_of_lt addressable.fatCopyStart)
      dataClusterStartAddress := data.trans (Nat.mod_eq_of_lt addressable.dataStart)
      rootDirStartAddress := root.trans (Int.emod_eq_of_lt lower upper) }⟩

/-- A boot sector that is accepted is mounted safely exactly when its sectors and clusters are
not empty and the addresses of its volume fit into 32 bits. -/
theorem mounted_safely_iff (sector : Nat → UInt8) :
    MountsSafely sector ↔ (resolve sector = true → Addressable (masterBootRecord sector)) := by
  rw [← exactNumbers_iff]
  constructor
  · intro safe accepted
    obtain ⟨positive, exact_numbers, -⟩ := safe accepted ⟨true, true, true, SUCCESS, true⟩ _ rfl
    exact ⟨positive, exact_numbers⟩
  · intro numbers accepted mounting fat mounted
    obtain rfl := attachPartition_some mounted
    obtain ⟨positive, exact_numbers⟩ := numbers accepted
    exact ⟨positive, exact_numbers, neverDividesByZero_iff.mpr positive⟩

/-- A boot sector that names its file system and is zero everywhere else. -/
def emptyBootSector : Nat → UInt8 := overwrite (fun _ => 0) 82 8 (chars fat32String)

/-- It is accepted and mounted, and every conversion of an address divides by zero. -/
theorem empty_sector_divides_by_zero :
    resolve emptyBootSector = true ∧
      attachPartition ⟨true, true, true, SUCCESS, true⟩ emptyBootSector =
        some (attachToDisk (masterBootRecord emptyBootSector)) ∧
      addressDivided (attachToDisk (masterBootRecord emptyBootSector))
        (attachToDisk (masterBootRecord emptyBootSector)).rootDirStartAddress = none ∧
      ¬ MountsSafely emptyBootSector := by
  refine ⟨by decide, rfl, by decide, fun safe => ?_⟩
  obtain ⟨positive, -⟩ := safe (by decide) ⟨true, true, true, SUCCESS, true⟩ _ rfl
  exact absurd positive (by decide)

end BobaOS.Fat
