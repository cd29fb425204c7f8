import Mathlib.Order.Interval.Finset.Nat
import BobaOS.Fat.DirectoryReads

/-!
# Unlinking any chain

`unlinkFatChain` follows entries that anything may have written, and clears each one as it
passes. Both places it clears are words at multiples of four, so that no word that is clear
is set again: a walk that comes back to where it has been finds a free entry and ends.
-/

namespace BobaOS.Fat

open ByteStore Programs Chains

variable {env : Environment} {fat : FatPrivate} {world : World} {fault : Fault → Prop}

/-! ## Clearing words -/

/-- Both FATs begin at multiples of four, and the entries of the first one have addresses
of 32 bits. -/
structure Aligned (fat : FatPrivate) : Prop where
  first : 4 ∣ fat.fatAddress
  second : 4 ∣ fat.fatCopyStartAddress
  narrow : fat.fatAddress < 2 ^ 28

/-- Sectors of the usual sizes, and a number of reserved ones that is kept in 16 bits, put
them there. -/
theorem attachToDisk_aligned {bootRecord : MasterBootRecord} {exponent : Nat}
    (sector : bootRecord.bytesPerSector = 2 ^ exponent) (least : 9 ≤ exponent)
    (most : exponent ≤ 12) (reserved : bootRecord.reservedSectors < 2 ^ 16) :
    Aligned (attachToDisk bootRecord) := by
  have word : 4 ∣ bootRecord.bytesPerSector := by
    rw [sector]
    exact Nat.pow_dvd_pow 2 (m := 2) (by omega)
  have large : bootRecord.bytesPerSector ≤ 2 ^ 12 := by
    rw [sector]
    exact Nat.pow_le_pow_right (by decide) most
  have range : bootRecord.reservedSectors * bootRecord.bytesPerSector ≤ (2 ^ 16 - 1) * 2 ^ 12 :=
    Nat.mul_le_mul (Nat.le_pred_of_lt reserved) large
  have first : (attachToDisk bootRecord).fatAddress =
      bootRecord.reservedSectors * bootRecord.bytesPerSector := Nat.mod_eq_of_lt (by omega)
  constructor
  · rw [first]
    exact word.mul_left _
  · refine (Nat.dvd_mod_iff (by decide)).mpr (Nat.dvd_add ?_ (word.mul_left _))
    exact (Nat.dvd_mod_iff (by decide)).mpr (word.mul_left _)
  · rw [first]
    omega

/-- The bytes after an entry has been cleared. -/
def clearEntry (fat : FatPrivate) (bytes : Nat → UInt8) (cluster : Nat) : Nat → UInt8 :=
  writeWord (writeWord bytes (clusterToFATTableAddress fat cluster) FAT_ENTRY_FREE)
    (clusterToFATCopyTableAddress fat cluster) FAT_ENTRY_FREE

/-- No entry is set by clearing one. -/
theorem entryAt_clearEntry_free (aligned : Aligned fat) (bytes : Nat → UInt8) {cluster other : Nat}
    (free : entryAt fat bytes other = FAT_ENTRY_FREE) :
    entryAt fat (clearEntry fat bytes cluster) other = FAT_ENTRY_FREE := by
  have first : 4 ∣ clusterToFATTableAddress fat cluster :=
    (Nat.dvd_mod_iff (by decide)).mpr (Nat.dvd_add aligned.first (Nat.dvd_mul_right _ _))
  have second : 4 ∣ clusterToFATCopyTableAddress fat cluster :=
    (Nat.dvd_mod_iff (by decide)).mpr (Nat.dvd_add aligned.second (Nat.dvd_mul_right _ _))
  have here : 4 ∣ fat.fatAddress + 4 * other := Nat.dvd_add aligned.first (Nat.dvd_mul_right _ _)
  rw [entryAt] at free
  rw [entryAt, clearEntry, readWord_writeWord_aligned _ (by decide) second here,
    readWord_writeWord_aligned _ (by decide) first here]
  split_ifs
  · rfl
  · rfl
  · exact free

/-- The entry itself is free then. -/
theorem entryAt_clearEntry (aligned : Aligned fat) (bytes : Nat → UInt8) {cluster : Nat}
    (small : cluster < 2 ^ 28) :
    entryAt fat (clearEntry fat bytes cluster) cluster = FAT_ENTRY_FREE := by
  have narrow := aligned.narrow
  have first : clusterToFATTableAddress fat cluster = fat.fatAddress + 4 * cluster :=
    Nat.mod_eq_of_lt (by omega)
  have second : 4 ∣ clusterToFATCopyTableAddress fat cluster :=
    (Nat.dvd_mod_iff (by decide)).mpr (Nat.dvd_add aligned.second (Nat.dvd_mul_right _ _))
  have here : 4 ∣ fat.fatAddress + 4 * cluster := Nat.dvd_add aligned.first (Nat.dvd_mul_right _ _)
  rw [entryAt, clearEntry, readWord_writeWord_aligned _ (by decide) second here, first,
    readWord_writeWord_aligned _ (by decide) here here, if_pos rfl, ite_self]
  rfl

/-! ## The walk ends -/

/-- The entries that can be walked to and lead on. -/
def leading (fat : FatPrivate) (bytes : Nat → UInt8) : Finset Nat :=
  (Finset.Ioo FAT_ENTRY_FREE FAT_ENTRY_USED).filter fun entry =>
    entryAt fat bytes entry ≠ FAT_ENTRY_FREE

theorem leading_card (fat : FatPrivate) (bytes : Nat → UInt8) : (leading fat bytes).card ≤ 2 ^ 28 - 2 :=
  (Finset.card_filter_le _ _).trans (Nat.card_Ioo _ _).le

/-- Clearing an entry that leads on leaves fewer of them. -/
theorem leading_clearEntry (aligned : Aligned fat) (bytes : Nat → UInt8) {entry : Nat}
    (small : entry < 2 ^ 28) (not_free : entry ≠ FAT_ENTRY_FREE) (not_used : entry ≠ FAT_ENTRY_USED)
    (leads : entryAt fat bytes entry ≠ FAT_ENTRY_FREE) :
    (leading fat (clearEntry fat bytes entry)).card < (leading fat bytes).card := by
  have used : FAT_ENTRY_USED = 2 ^ 28 - 1 := rfl
  have within : entry ∈ Finset.Ioo FAT_ENTRY_FREE FAT_ENTRY_USED :=
    Finset.mem_Ioo.mpr ⟨Nat.pos_of_ne_zero not_free, by omega⟩
  apply Finset.card_lt_card
  refine (Finset.ssubset_iff_of_subset ?_).mpr ⟨entry, Finset.mem_filter.mpr ⟨within, leads⟩, ?_⟩
  · intro other member
    obtain ⟨also, still⟩ := Finset.mem_filter.mp member
    exact Finset.mem_filter.mpr
      ⟨also, fun free => still (entryAt_clearEntry_free aligned bytes free)⟩
  · exact fun member => (Finset.mem_filter.mp member).2 (entryAt_clearEntry aligned bytes small)

/-- The loop of `unlinkFatChain` ends if it may go on more often than entries lead on.

Proof: by induction on the rounds that are left. A round that comes to a free entry is the
last but one; any other clears an entry that leads on. -/
theorem unlinkEntries_ends (aligned : Aligned fat) (fuel entry : Nat) (small : entry < 2 ^ 28)
    (enough : entry = FAT_ENTRY_FREE ∧ 0 < fuel ∨ (leading fat world.bytes).card + 1 < fuel) :
    Meets (unlinkEntries env fat fuel entry) world (fun _ => False) fun _ _ => True := by
  induction fuel generalizing entry world with
  | zero => exact absurd enough (by omega)
  | succ fuel induction =>
    rw [unlinkEntries, meets_ite]
    refine ⟨?_, fun _ => .pure trivial⟩
    rintro ⟨not_used, not_free⟩
    have left : (leading fat world.bytes).card < fuel :=
      Nat.lt_of_succ_lt_succ (enough.resolve_left fun free => not_free free.1)
    apply (getFatEntry_cases (aligned.narrow.trans (by decide)) (small.trans (by decide))).bind
    rintro ⟨ret, next⟩ read ⟨same, ⟨-, negative⟩ | ⟨-, nonnegative, rfl, -⟩⟩
    · dsimp only at *
      rw [if_pos negative]
      exact .pure trivial
    dsimp only at *
    rw [if_neg (Int.not_lt.mpr nonnegative)]
    apply (writeFATEntry_cases entry FAT_ENTRY_FREE).bind
    rintro ret cleared (⟨-, negative⟩ | ⟨-, nonnegative, bytes⟩)
    · rw [if_pos negative]
      exact .pure trivial
    rw [if_neg (Int.not_lt.mpr nonnegative)]
    refine induction _ (entryAt_lt _ _) ?_
    by_cases leads : entryAt fat world.bytes entry = FAT_ENTRY_FREE
    · exact .inl ⟨leads, Nat.zero_lt_of_lt left⟩
    · have fewer := leading_clearEntry aligned world.bytes small not_free not_used leads
      rw [clearEntry, ← same, ← bytes] at fewer
      rw [← same] at left
      exact .inr (Nat.lt_of_le_of_lt (Nat.succ_le_of_lt fewer) left)

/-! ## What it does to a chain -/

/-- The second FAT is behind the first one, and its entries have addresses of 32 bits. -/
structure Separate (fat : FatPrivate) : Prop where
  copy : fat.fatCopyStartAddress = fat.fatAddress + fat.fatSize
  narrow : fat.fatAddress + 2 * fat.fatSize ≤ 2 ^ 32

theorem attachToDisk_separate {bootRecord : MasterBootRecord}
    (first : (attachToDisk bootRecord).fatAddress < 2 ^ 28)
    (entries : bootRecord.sectorsPerFat32 * bootRecord.bytesPerSector ≤ 2 ^ 30) :
    Separate (attachToDisk bootRecord) := by
  have size : (attachToDisk bootRecord).fatSize =
      bootRecord.sectorsPerFat32 * bootRecord.bytesPerSector := rfl
  constructor
  · exact Nat.mod_eq_of_lt (Nat.lt_of_lt_of_le (Nat.add_lt_add_of_lt_of_le first entries) (by decide))
  · rw [size]
    omega

/-- Writing an entry to both FATs updates the table at one place. -/
theorem table_writeBoth (separate : Separate fat) (bytes : Nat → UInt8) {cluster value : Nat}
    (inside : 4 * cluster + 4 ≤ fat.fatSize) (small : value < 2 ^ 28) :
    table fat (writeWord (writeWord bytes (clusterToFATTableAddress fat cluster) value)
      (clusterToFATCopyTableAddress fat cluster) value) =
        Function.update (table fat bytes) cluster value := by
  have copy := separate.copy
  have narrow := separate.narrow
  have first : clusterToFATTableAddress fat cluster = fat.fatAddress + 4 * cluster :=
    Nat.mod_eq_of_lt (by omega)
  have second : clusterToFATCopyTableAddress fat cluster = fat.fatCopyStartAddress + 4 * cluster :=
    Nat.mod_eq_of_lt (by omega)
  rw [first, second]
  funext other
  by_cases has_entry : 4 * other + 4 ≤ fat.fatSize
  · rw [table_eq _ has_entry, entryAt, writeWord, readWord_overwrite _ _ _ _ _ (by omega)]
    by_cases same : other = cluster
    · rw [same, Function.update_self, readWord_writeWord _ _ _ (by omega), Nat.mod_eq_of_lt small]
    · rw [Function.update_of_ne same, table_eq _ has_entry, writeWord,
        readWord_overwrite _ _ _ _ _ (by omega)]
      rfl
  · have different : other ≠ cluster := by
      rintro rfl
      exact has_entry inside
    rw [Function.update_of_ne different, table, table, if_neg has_entry, if_neg has_entry]

/-- Nothing keeps the driver from the entries of the clusters: transfers succeed, and the
entries are in the volume. -/
def Undisturbed (env : Environment) (fat : FatPrivate) (cells : List Nat) : Prop :=
  env.Quiet ∧ ∀ cluster ∈ cells, fat.fatCopyStartAddress + 4 * cluster + 4 ≤ env.volumeSize

section Chains

variable {cluster : Nat} {rest : List Nat}

theorem Undisturbed.tail (undisturbed : Undisturbed env fat (cluster :: rest)) :
    Undisturbed env fat rest :=
  ⟨undisturbed.1, fun other member => undisturbed.2 other (List.mem_cons_of_mem _ member)⟩

theorem Undisturbed.reads (separate : Separate fat) (undisturbed : Undisturbed env fat (cluster :: rest))
    (transfers : Nat) : ¬ ReadFails env fat transfers cluster := by
  have copy := separate.copy
  have inside := undisturbed.2 cluster List.mem_cons_self
  rintro (outside | failed)
  · omega
  · rw [undisturbed.1] at failed
    exact absurd failed (by decide)

theorem Undisturbed.writes (separate : Separate fat) (undisturbed : Undisturbed env fat (cluster :: rest))
    (transfers : Nat) : ¬ WriteFails env fat transfers cluster := by
  have copy := separate.copy
  have inside := undisturbed.2 cluster List.mem_cons_self
  have first : clusterToFATTableAddress fat cluster ≤ fat.fatAddress + 4 * cluster := Nat.mod_le _ _
  have second : clusterToFATCopyTableAddress fat cluster ≤ fat.fatCopyStartAddress + 4 * cluster :=
    Nat.mod_le _ _
  have succeeds (call : Nat) : ¬ env.transfer call < 0 := by
    rw [undisturbed.1]
    decide
  rintro (outside | failed | outside | failed)
  · omega
  · exact succeeds _ failed
  · omega
  · exact succeeds _ failed

/-- A cluster on a chain has an entry. -/
theorem chain_inside {bytes : Nat → UInt8} {cells : List Nat} (chain : Chain (links fat bytes) cells)
    {cluster : Nat} (member : cluster ∈ cells) : 4 * cluster + 4 ≤ fat.fatSize := by
  by_contra outside
  exact chain_entry chain member (if_neg outside)

/-- The clusters behind the first one of a chain have numbers that are no marks. -/
theorem chain_tail_no_marks {bytes : Nat → UInt8} (chain : Chain (links fat bytes) (cluster :: rest)) :
    ∀ other ∈ rest, other ≠ FAT_ENTRY_FREE ∧ other ≠ FAT_ENTRY_USED := by
  induction rest generalizing cluster with
  | nil => exact fun other member => absurd member List.not_mem_nil
  | cons next rest induction =>
    intro other member
    rcases List.mem_cons.mp member with rfl | later
    · exact chain_no_mark chain
    · exact induction chain.2 other later

/-- A table in which the entries of the clusters are free. -/
def freed (before : Nat → Nat) (cells : List Nat) : Nat → Nat :=
  fun other => if other ∈ cells then FAT_ENTRY_FREE else before other

/-- The loop of `unlinkFatChain` frees the clusters of a chain, unless something keeps it
from them. -/
theorem unlinkEntries_frees (separate : Separate fat) (first : fat.fatAddress < 2 ^ 32) (fuel : Nat)
    (enough : rest.length < fuel) (chain : rest ≠ [] → Chain (links fat world.bytes) rest)
    (no_marks : ∀ other ∈ rest, other ≠ FAT_ENTRY_FREE ∧ other ≠ FAT_ENTRY_USED) :
    Meets (unlinkEntries env fat fuel (entryTo rest)) world (fun _ => False) fun ret after =>
      0 ≤ ret ∧ table fat after.bytes = freed (table fat world.bytes) rest ∨
        ret < 0 ∧ ¬ Undisturbed env fat rest := by
  induction rest generalizing fuel world with
  | nil =>
    obtain ⟨fuel, rfl⟩ := Nat.exists_eq_add_of_lt enough
    rw [unlinkEntries, if_neg fun both => both.1 rfl]
    refine .pure (.inl ⟨by decide, funext fun other => ?_⟩)
    rw [freed, if_neg List.not_mem_nil]
  | cons cluster rest induction =>
    obtain ⟨fuel, rfl⟩ := Nat.exists_eq_add_of_lt enough
    have linked := chain (List.cons_ne_nil _ _)
    have inside := chain_inside linked List.mem_cons_self
    have absent := (List.nodup_cons.mp linked.nodup).1
    have narrow := separate.narrow
    have small : cluster < 2 ^ 32 := by omega
    have first_entry : entryTo (cluster :: rest) = cluster := rfl
    rw [first_entry, unlinkEntries, if_pos (no_marks cluster List.mem_cons_self).symm]
    apply (getFatEntry_cases first small).bind
    rintro ⟨ret, next⟩ read ⟨same, ⟨fails, negative⟩ | ⟨-, nonnegative, rfl, -⟩⟩
    · dsimp only at *
      rw [if_pos negative]
      exact .pure (.inr ⟨negative, fun undisturbed => undisturbed.reads separate _ fails⟩)
    dsimp only at *
    rw [if_neg (Int.not_lt.mpr nonnegative)]
    apply (writeFATEntry_cases cluster FAT_ENTRY_FREE).bind
    rintro ret cleared (⟨fails, negative⟩ | ⟨-, nonnegative, bytes⟩)
    · rw [if_pos negative]
      exact .pure (.inr ⟨negative, fun undisturbed => undisturbed.writes separate _ fails⟩)
    rw [if_neg (Int.not_lt.mpr nonnegative), ← table_eq _ inside, chain_entryTo linked]
    have updated : table fat cleared.bytes =
        Function.update (table fat world.bytes) cluster FAT_ENTRY_FREE := by
      rw [bytes, same, table_writeBoth separate _ inside (by decide)]
    have onward : rest ≠ [] → Chain (links fat cleared.bytes) rest := by
      intro more
      refine (linked.tail more).congr fun other member => congrArg decode ?_
      rw [updated, Function.update_of_ne]
      rintro rfl
      exact absent member
    have still : rest.length < (cluster :: rest).length + fuel := by
      rw [List.length_cons]
      omega
    refine (induction _ still onward fun other member =>
      no_marks other (List.mem_cons_of_mem _ member)).mono ?_
    rintro ret after (⟨success, final⟩ | ⟨failure, disturbed⟩)
    · refine .inl ⟨success, final.trans (funext fun other => ?_)⟩
      rw [freed, freed, updated]
      by_cases here : other = cluster
      · simp [here]
      · simp [here, Function.update_of_ne]
    · exact .inr ⟨failure, fun undisturbed => disturbed undisturbed.tail⟩

/-- What `unlinkFatChain` is to do: the rest of the chain is free, the cluster is its end,
and the other entries are as they were. -/
def cutTable (before : Nat → Nat) (cluster : Nat) (rest : List Nat) : Nat → Nat :=
  Function.update (freed before rest) cluster FAT_ENTRY_USED

/-- A chain is shorter than the loop may go on. -/
theorem chain_short {bytes : Nat → UInt8} (chain : Chain (links fat bytes) (cluster :: rest))
    (entries : fat.fatSize ≤ 2 ^ 30) : rest.length < 2 ^ 28 + 1 := by
  have bounded : (cluster :: rest).toFinset ⊆ Finset.range (2 ^ 28) := by
    intro other member
    have inside := chain_inside chain (List.mem_toFinset.mp member)
    rw [Finset.mem_range]
    omega
  have counted := Finset.card_le_card bounded
  rw [List.toFinset_card_of_nodup chain.nodup, Finset.card_range, List.length_cons] at counted
  omega

/-- `unlinkFatChain` cuts a chain behind its first cluster, unless something keeps it from
the entries. -/
theorem unlinkFatChain_cuts (separate : Separate fat) (entries : fat.fatSize ≤ 2 ^ 30)
    (chain : Chain (links fat world.bytes) (cluster :: rest)) :
    Meets (unlinkFatChain env fat cluster) world (fun _ => False) fun ret after =>
      0 ≤ ret ∧ table fat after.bytes = cutTable (table fat world.bytes) cluster rest ∨
        ret < 0 ∧ ¬ Undisturbed env fat (cluster :: rest) := by
  have inside := chain_inside chain List.mem_cons_self
  have narrow := separate.narrow
  have first : fat.fatAddress < 2 ^ 32 := by omega
  have small : cluster < 2 ^ 32 := by omega
  rw [unlinkFatChain]
  apply (getFatEntry_cases first small).bind
  rintro ⟨ret, next⟩ read ⟨same, ⟨fails, negative⟩ | ⟨-, nonnegative, rfl, -⟩⟩
  · dsimp only at *
    rw [if_pos negative]
    exact .pure (.inr ⟨negative, fun undisturbed => undisturbed.reads separate _ fails⟩)
  dsimp only at *
  have onward : rest ≠ [] → Chain (links fat read.bytes) rest := by
    rw [same]
    exact chain.tail
  rw [if_neg (Int.not_lt.mpr nonnegative), ← table_eq _ inside, chain_entryTo chain]
  apply (unlinkEntries_frees separate first _ (chain_short chain entries) onward
    (chain_tail_no_marks chain)).bind
  rintro ret cleared (⟨success, bytes⟩ | ⟨failure, disturbed⟩)
  · rw [if_neg (Int.not_lt.mpr success)]
    apply (writeFATEntry_cases cluster FAT_ENTRY_USED).mono
    rintro ret after (⟨fails, negative⟩ | ⟨-, nonnegative, final⟩)
    · exact .inr ⟨negative, fun undisturbed => undisturbed.writes separate _ fails⟩
    · refine .inl ⟨nonnegative, ?_⟩
      rw [final, table_writeBoth separate _ inside (by decide), bytes, same, cutTable]
  · rw [if_pos failure]
    exact .pure (.inr ⟨failure, fun undisturbed => disturbed undisturbed.tail⟩)

end Chains

/-- `unlinkFatChain` ends for every volume, whatever its FATs hold and however its transfers
end. Where the cluster begins a chain it cuts that chain behind the cluster and leaves all
other entries, or reports an error; and it reports none where transfers succeed and the
entries are in the volume.

Proof: the loop may go on more often than there are entries that lead on, of which each
round leaves one less. On a chain it is at the next cluster after each round, as the
clusters of a chain are distinct. -/
theorem chain_unlinked {env : Environment} {bootRecord : MasterBootRecord} {exponent : Nat}
    (sector : bootRecord.bytesPerSector = 2 ^ exponent) (least : 9 ≤ exponent)
    (most : exponent ≤ 12) (reserved : bootRecord.reservedSectors < 2 ^ 16) {cluster : Nat}
    (small : cluster < 2 ^ 32) (world : World) :
    ∃ ret after, (unlinkFatChain env (attachToDisk bootRecord) cluster).run world = .ok (ret, after) ∧
      ∀ rest, Chain (links (attachToDisk bootRecord) world.bytes) (cluster :: rest) →
        bootRecord.sectorsPerFat32 * bootRecord.bytesPerSector ≤ 2 ^ 30 →
        (0 ≤ ret → table (attachToDisk bootRecord) after.bytes =
          cutTable (table (attachToDisk bootRecord) world.bytes) cluster rest) ∧
        (Undisturbed env (attachToDisk bootRecord) (cluster :: rest) → 0 ≤ ret) := by
  have aligned := attachToDisk_aligned sector least most reserved
  have ends : Meets (unlinkFatChain env (attachToDisk bootRecord) cluster) world (fun _ => False)
      fun _ _ => True := by
    rw [unlinkFatChain]
    apply (getFatEntry_cases (aligned.narrow.trans (by decide)) small).bind
    rintro ⟨ret, next⟩ read ⟨same, ⟨-, negative⟩ | ⟨-, nonnegative, rfl, -⟩⟩
    · dsimp only at *
      rw [if_pos negative]
      exact .pure trivial
    dsimp only at *
    rw [if_neg (Int.not_lt.mpr nonnegative)]
    have few := leading_card (attachToDisk bootRecord) read.bytes
    apply (unlinkEntries_ends aligned _ _ (entryAt_lt _ _) (.inr (by omega))).bind
    rintro ret cleared -
    rw [meets_ite]
    refine ⟨fun _ => .pure trivial, fun _ => ?_⟩
    exact (writeFATEntry_cases cluster FAT_ENTRY_USED).mono fun _ _ _ => trivial
  obtain ⟨ret, after, ran, -⟩ := ends.returns
  refine ⟨ret, after, ran, fun rest chain entries => ?_⟩
  rcases (unlinkFatChain_cuts (attachToDisk_separate aligned.narrow entries) entries
    chain).returned ran with ⟨success, cut⟩ | ⟨failure, disturbed⟩
  · exact ⟨fun _ => cut, fun _ => success⟩
  · exact ⟨fun success => absurd failure (Int.not_lt.mpr success),
      fun undisturbed => absurd undisturbed disturbed⟩

theorem second_cluster_unlinked : ∃ ret after,
    (unlinkFatChain (plainEnvironment 82944) (attachToDisk smallRecord) 2).run
        (freshWorld longDirectoryBytes) = .ok (ret, after) ∧ 0 ≤ ret ∧
      table (attachToDisk smallRecord) after.bytes =
        cutTable (table (attachToDisk smallRecord) longDirectoryBytes) 2 [3] := by
  obtain ⟨ret, after, ran, cuts⟩ := @chain_unlinked (plainEnvironment 82944) smallRecord 9 rfl
    (by decide) (by decide) (by decide) 2 (by decide) (freshWorld longDirectoryBytes)
  obtain ⟨cut, succeeds⟩ := cuts [3] ⟨by decide, chain_singleton.mpr (by decide)⟩ (by decide)
  have success := succeeds ⟨fun _ => rfl, by decide⟩
  exact ⟨ret, after, ran, success, cut success⟩

end BobaOS.Fat
