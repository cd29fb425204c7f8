import BobaOS.Fat.FreeClusters

/-!
# What is read from a file

`readFatFile` reads the clusters of a file one after the other. Its first read has the
length of a cluster, or of the whole read if that is shorter, wherever in the cluster it
begins; all lengths are kept in 16 bits, and addresses in 32. What is read is the content
of the file exactly where none of this makes a difference.
-/

namespace BobaOS.Fat

open ByteStore Programs Chains

section Code

variable (env : Environment) (fat : FatPrivate)

/-- The loop that skips clusters. -/
def skipRead : Nat → Nat → Code → M (Code × Nat)
  | 0, currentCluster, ret => return (ret, currentCluster)
  | clustersToSkip + 1, currentCluster, _ => do
    let (ret, currentCluster) ← getFatEntry env fat currentCluster
    if ret < 0 then return (ret, currentCluster)
    skipRead clustersToSkip currentCluster ret

/-- The number of clusters to read, kept in a `uint32_t`. -/
def clustersToRead (size : Nat) : Nat :=
  if size % fat.clusterSize ≠ 0 then (size / fat.clusterSize % 2 ^ 32 + 1) % 2 ^ 32
  else size / fat.clusterSize % 2 ^ 32

/-- The length of the first read, kept in a `uint16_t`. -/
def firstRead (size : Nat) : Nat :=
  if size < fat.clusterSize then
    (fat.clusterSize % 2 ^ 16 + 2 ^ 64 - (fat.clusterSize - size % fat.clusterSize)) % 2 ^ 16
  else fat.clusterSize % 2 ^ 16

/-- The length of the next read, with what is left of the clusters. -/
def nextRead (size filePos left : Nat) : Nat :=
  if left = 1 then
    (if (filePos + size) % 2 ^ 64 % fat.clusterSize = 0 then fat.clusterSize
      else size % fat.clusterSize) % 2 ^ 16
  else fat.clusterSize % 2 ^ 16

/-- The loop over the clusters to read, with what is left of them. To put more than was asked
for behind `ptr` is a fault. -/
def readParts (size filePos : Nat) : Nat → Nat → Nat → Nat → Nat → Code → (Nat → UInt8) →
    M (Code × (Nat → UInt8))
  | 0, _, _, _, _, ret, ptr => return (ret, ptr)
  | left + 1, currentCluster, currentFilePos, currentToRead, totalRead, _, ptr => do
    if currentCluster = FAT_ENTRY_USED ∨ currentCluster = FAT_ENTRY_FREE then
      return (-EFSYSTEM, ptr)
    let ret ← seekRead env (dataClusterToAbsoluteAddress fat currentCluster + currentFilePos)
    if ret < 0 then return (ret, ptr)
    let (ret, ptr) ← readStream env ptr size totalRead currentToRead
    if ret < 0 then return (ret, ptr)
    let totalRead := totalRead + currentToRead
    let (ret, currentCluster) ← getFatEntry env fat currentCluster
    if ret < 0 then return (ret, ptr)
    readParts size filePos left currentCluster 0 (nextRead fat size filePos left) totalRead ret ptr

/-- `readFatFile`: the code, and what is behind `ptr` then. -/
def readFatFile (fatFile : FatFile) (size filePos : Nat) (ptr : Nat → UInt8) :
    M (Code × (Nat → UInt8)) := do
  let (ret, currentCluster) ←
    skipRead env fat (filePos / fat.clusterSize % 2 ^ 32) fatFile.startCluster 0
  if ret < 0 then return (ret, ptr)
  readParts env fat size filePos (clustersToRead fat size) currentCluster
    (filePos % fat.clusterSize) (firstRead fat size) 0 ret ptr

end Code

variable {env : Environment} {fat : FatPrivate} {world : World} {fault : Fault → Prop}
  {bytes : Nat → UInt8} {cells : List Nat}

/-! ## Where it reads -/

/-- The loop that skips clusters comes to the rest of the chain. -/
theorem skipRead_meets (layout : Layout env fat) (quiet : env.Quiet) (count : Nat)
    (few : count ≤ cells.length) (clusters : Clusters env fat cells)
    (chain : cells ≠ [] → Chain (links fat world.bytes) cells) :
    Meets (skipRead env fat count (entryTo cells) SUCCESS) world fault fun result after =>
      Same world after ∧ result = (SUCCESS, entryTo (cells.drop count)) := by
  induction count generalizing cells world with
  | zero => exact .pure ⟨.refl world, rfl⟩
  | succ count induction =>
    cases cells with
    | nil => exact absurd few (Nat.not_succ_le_zero _)
    | cons cluster rest =>
      have linked := chain (List.cons_ne_nil _ _)
      have first_entry : entryTo (cluster :: rest) = cluster := rfl
      rw [skipRead, first_entry]
      refine getFatEntry_then layout quiet (clusters cluster List.mem_cons_self).entry
        fun after same => ?_
      dsimp only
      rw [if_success, chain_entryTo linked, List.drop_succ_cons]
      refine (induction (Nat.le_of_succ_le_succ few) clusters.tail ?_).mono ?_
      · rw [same.bytes]
        exact linked.tail
      · exact fun result final both => ⟨same.trans both.1, both.2⟩

section Parts

variable (fat) (next : Nat → Nat)

/-- What is behind `ptr` when parts of the clusters have been read to it. -/
def gathered (bytes : Nat → UInt8) : List Nat → Nat → Nat → Nat → (Nat → UInt8) → Nat → UInt8
  | [], _, _, _, ptr => ptr
  | cluster :: rest, pos, length, total, ptr =>
    gathered bytes rest 0 (next rest.length) (total + length)
      (overwrite ptr total length (slice bytes (dataClusterToAbsoluteAddress fat cluster + pos)))

/-- The number of bytes of so many parts. -/
def extent : Nat → Nat → Nat
  | 0, _ => 0
  | left + 1, length => length + extent left (next left)

/-- The parts are in the volume, and there is room for them. -/
def Placed (volumeSize size : Nat) : List Nat → Nat → Nat → Nat → Prop
  | [], _, _, _ => True
  | cluster :: rest, pos, length, total =>
    dataClusterToAbsoluteAddress fat cluster + pos < volumeSize ∧
      dataClusterToAbsoluteAddress fat cluster + pos + length ≤ volumeSize ∧
      total + length ≤ size ∧ Placed volumeSize size rest 0 (next rest.length) (total + length)

end Parts

/-- Where transfers succeed, a read is refused beyond the volume, fills its part of the
buffer, or leaves the buffer. -/
theorem readStream_outcome (quiet : env.Quiet) (out : Nat → UInt8) (capacity offset length : Nat) :
    Meets (readStream env out capacity offset length) world (fun _ => capacity < offset + length)
      fun result after => Same world after ∧
        (result.1 = SUCCESS ∧ offset + length ≤ capacity ∧
            result.2 = overwrite out offset length (slice world.bytes world.readPosition) ∨
          result.1 = -EDISKSPACE ∧ env.volumeSize < (world.readPosition + length) % 2 ^ 64) := by
  by_cases room : offset + length ≤ capacity
  · refine (readStream_meets quiet out capacity offset length room).mono ?_
    rintro ⟨code, buffer⟩ after ⟨same, ⟨rfl, -, rfl⟩ | ⟨rfl, beyond, -⟩⟩
    · exact ⟨same, .inl ⟨rfl, room, rfl⟩⟩
    · exact ⟨same, .inr ⟨rfl, beyond⟩⟩
  · have succeeds : ¬ env.transfer world.transfers < 0 := by
      rw [quiet]
      decide
    rw [readStream, meets_bind, meets_get, meets_ite]
    refine ⟨fun beyond => .pure ⟨.refl world, .inr ⟨rfl, beyond⟩⟩, fun _ => ?_⟩
    simp only
    rw [if_neg succeeds, if_pos (Nat.not_le.mp room)]
    exact .throw (Nat.not_le.mp room)

/-- The loop reads the parts, if they are in the volume and there is room for them. If it
succeeds at all it has read them. -/
theorem readParts_meets (layout : Layout env fat) (quiet : env.Quiet) (small : fat.clusterSize < 2 ^ 24)
    (size filePos left : Nat) (few : left ≤ cells.length) (pos length total : Nat)
    (near : pos < fat.clusterSize) (short : length ≤ 2 ^ 32) (ptr : Nat → UInt8)
    (clusters : Clusters env fat cells)
    (chain : cells ≠ [] → Chain (links fat world.bytes) cells) :
    Meets (readParts env fat size filePos left (entryTo cells) pos length total SUCCESS ptr) world
      (fun _ => ¬ Placed fat (nextRead fat size filePos) env.volumeSize size (cells.take left) pos
        length total)
      fun result _ =>
        (result.1 = SUCCESS → result.2 = gathered fat (nextRead fat size filePos) world.bytes
          (cells.take left) pos length total ptr) ∧
        (Placed fat (nextRead fat size filePos) env.volumeSize size (cells.take left) pos length
          total → result.1 = SUCCESS) := by
  induction left generalizing cells world pos length total ptr with
  | zero =>
    rw [List.take_zero]
    exact .pure ⟨fun _ => rfl, fun _ => rfl⟩
  | succ left induction =>
    cases cells with
    | nil => exact absurd few (Nat.not_succ_le_zero _)
    | cons cluster rest =>
      have linked := chain (List.cons_ne_nil _ _)
      have first_entry : entryTo (cluster :: rest) = cluster := rfl
      obtain ⟨not_free, not_used⟩ := (clusters cluster List.mem_cons_self).no_mark
      have address := dataClusterToAbsoluteAddress_lt fat cluster
      have refused : (-EDISKSPACE : Code) ≠ SUCCESS := by decide
      rw [readParts, first_entry, if_neg (not_or.mpr ⟨not_used, not_free⟩), List.take_succ_cons]
      apply (seekRead_cases _).bind
      rintro ret moved (⟨rfl, inside, rfl⟩ | ⟨rfl, outside, rfl⟩)
      case inr =>
        rw [if_refused]
        refine .pure ⟨fun impossible => absurd impossible refused, fun placed => ?_⟩
        exact absurd placed.1 (Nat.not_lt.mpr outside)
      rw [if_success]
      apply ((readStream_outcome quiet ptr size total length).mono_fault
        fun _ crowded placed => Nat.not_lt.mpr placed.2.2.1 crowded).bind
      rintro ⟨code, buffer⟩ read ⟨same, ⟨rfl, room, rfl⟩ | ⟨rfl, beyond⟩⟩
      case inr =>
        dsimp only at *
        have fits : (dataClusterToAbsoluteAddress fat cluster + pos + length) % 2 ^ 64 =
            dataClusterToAbsoluteAddress fat cluster + pos + length := Nat.mod_eq_of_lt (by omega)
        rw [fits] at beyond
        rw [if_refused]
        refine .pure ⟨fun impossible => absurd impossible refused, fun placed => ?_⟩
        exact absurd placed.2.1 (Nat.not_le.mpr beyond)
      dsimp only
      rw [if_success]
      refine getFatEntry_then layout quiet (clusters cluster List.mem_cons_self).entry
        fun after still => ?_
      have onward : rest ≠ [] → Chain (links fat after.bytes) rest := by
        rw [still.bytes, same.bytes]
        exact linked.tail
      have shorter : left ≤ rest.length := Nat.le_of_succ_le_succ few
      have taken : (rest.take left).length = left := by
        rw [List.length_take, Nat.min_eq_left shorter]
      have narrow : nextRead fat size filePos left ≤ 2 ^ 32 := by
        rw [nextRead]
        split
        · exact (Nat.mod_lt _ (by decide)).le.trans (by decide)
        · exact (Nat.mod_lt _ (by decide)).le.trans (by decide)
      have entries : table fat read.bytes cluster = entryTo rest := by
        rw [same.bytes]
        exact chain_entryTo linked
      have rest_read := induction shorter 0 (nextRead fat size filePos left) (total + length)
        layout.cluster narrow (overwrite ptr total length (slice world.bytes
          (dataClusterToAbsoluteAddress fat cluster + pos))) clusters.tail onward
      rw [if_success, entries, gathered, Placed, taken]
      rw [still.bytes, same.bytes] at rest_read
      refine (rest_read.mono_fault fun _ not placed => not placed.2.2.2).mono ?_
      exact fun result final both => ⟨both.1, fun placed => both.2 placed.2.2.2⟩

/-! ## What is behind `ptr` then -/

section Gathered

variable {next : Nat → Nat} {ptr : Nat → UInt8}

/-- Before the place of the first part nothing changes. -/
theorem gathered_before (pos length total : Nat) {offset : Nat} (before : offset < total) :
    gathered fat next bytes cells pos length total ptr offset = ptr offset := by
  induction cells generalizing pos length total ptr with
  | nil => rfl
  | cons cluster rest induction =>
    rw [gathered, induction _ _ _ (Nat.lt_add_right _ before)]
    exact overwrite_outside _ _ _ _ _ (.inl before)

/-- Nor does it behind the last one. -/
theorem gathered_behind (pos length total : Nat) {offset : Nat}
    (behind : total + extent next cells.length length ≤ offset) :
    gathered fat next bytes cells pos length total ptr offset = ptr offset := by
  induction cells generalizing pos length total ptr with
  | nil => rfl
  | cons cluster rest induction =>
    rw [List.length_cons, extent] at behind
    rw [gathered, induction _ _ _ (by omega)]
    exact overwrite_outside _ _ _ _ _ (by omega)

/-- The first part is where its cluster is. -/
theorem gathered_first (cluster : Nat) (rest : List Nat) (pos length total : Nat) {offset : Nat}
    (inside : offset < length) :
    gathered fat next bytes (cluster :: rest) pos length total ptr (total + offset) =
      bytes (dataClusterToAbsoluteAddress fat cluster + pos + offset) := by
  rw [gathered, gathered_before _ _ _ (Nat.add_lt_add_left inside total),
    overwrite_inside _ _ _ _ _ (by omega), Nat.add_sub_cancel_left, slice_apply]

/-- Parts that begin at their clusters and fill all of them but the last one. -/
theorem gathered_whole (positive : 0 < fat.clusterSize)
    (full : ∀ left, left ≠ 1 → next left = fat.clusterSize) (small : next 1 ≤ fat.clusterSize)
    (cluster : Nat) (rest : List Nat) (total : Nat) {offset : Nat}
    (inside : offset < rest.length * fat.clusterSize + next 1) :
    gathered fat next bytes (cluster :: rest) 0 (next (rest.length + 1)) total ptr (total + offset) =
      bytes (dataClusterToAbsoluteAddress fat ((cluster :: rest).getD (offset / fat.clusterSize) 0) +
        offset % fat.clusterSize) := by
  induction rest generalizing cluster total offset ptr with
  | nil =>
    rw [List.length_nil, Nat.zero_mul, Nat.zero_add] at inside
    have within : offset < fat.clusterSize := Nat.lt_of_lt_of_le inside small
    have one : ([] : List Nat).length + 1 = 1 := rfl
    rw [one, gathered_first _ _ _ _ _ inside, Nat.div_eq_of_lt within, Nat.mod_eq_of_lt within,
      Nat.add_zero, List.getD_cons_zero]
  | cons second rest induction =>
    have whole : next ((second :: rest).length + 1) = fat.clusterSize :=
      full _ (by rw [List.length_cons]; omega)
    rw [List.length_cons, Nat.succ_mul] at inside
    by_cases within : offset < fat.clusterSize
    · rw [whole, gathered_first _ _ _ _ _ within, Nat.div_eq_of_lt within,
        Nat.mod_eq_of_lt within, Nat.add_zero, List.getD_cons_zero]
    · obtain ⟨behind, rfl⟩ := Nat.exists_eq_add_of_le (Nat.not_lt.mp within)
      have rest_inside : behind < rest.length * fat.clusterSize + next 1 := by omega
      rw [gathered, whole, ← Nat.add_assoc, List.length_cons, induction _ _ rest_inside,
        Nat.add_div_left _ positive, Nat.add_mod_left, List.getD_cons_succ]

end Gathered

/-! ## Places that hold the same bytes -/

/-- A place whose byte is that of a place behind the FATs, whatever that holds, is that
place. -/
theorem same_place (layout : Layout env fat) (bytes : Nat → UInt8) {left right : Nat}
    (behind : fat.dataClusterStartAddress ≤ right)
    (same : ∀ other, table fat other = table fat bytes → other left = other right) :
    left = right := by
  by_contra different
  have now := same bytes rfl
  have changed := same (overwrite bytes right 1 fun _ => bytes right + 1)
    (table_overwrite layout bytes 1 _ behind)
  rw [overwrite_outside _ _ _ _ _ (by omega), overwrite_inside _ _ _ _ _ (by omega), now] at changed
  have values := congrArg UInt8.toNat changed
  rw [UInt8.toNat_add] at values
  have one : (1 : UInt8).toNat = 1 := rfl
  omega

/-- Nor is the byte of such a place always the same. -/
theorem not_constant (layout : Layout env fat) (bytes : Nat → UInt8) {right : Nat}
    (behind : fat.dataClusterStartAddress ≤ right) (value : UInt8)
    (same : ∀ other, table fat other = table fat bytes → value = other right) : False := by
  have changed := same (overwrite bytes right 1 fun _ => value + 1)
    (table_overwrite layout bytes 1 _ behind)
  rw [overwrite_inside _ _ _ _ _ (by omega)] at changed
  have values := congrArg UInt8.toNat changed
  rw [UInt8.toNat_add] at values
  have one : (1 : UInt8).toNat = 1 := rfl
  omega

/-! ## The lengths of the parts -/

section Lengths

variable {size filePos : Nat}

/-- The size of a read is that of the clusters before the last one and a remainder. -/
theorem remainder_eq (positive : 0 < fat.clusterSize) (some : 0 < size) :
    remainder fat size = size - (clustersMet fat 0 size - 1) * fat.clusterSize := by
  obtain ⟨-, low, high⟩ := clustersMet_bounds 0 positive some
  rw [Nat.zero_add] at low high
  have least : 0 < clustersMet fat 0 size := (clustersMet_bounds 0 positive some).1
  obtain ⟨count, counted⟩ := Nat.exists_eq_add_of_lt least
  rw [Nat.zero_add] at counted
  rw [counted, Nat.add_sub_cancel] at low ⊢
  rw [counted, Nat.succ_mul] at high
  obtain ⟨left, rfl⟩ := Nat.exists_eq_add_of_le low.le
  rw [remainder, Nat.mul_add_mod_self_right, Nat.add_sub_cancel_left]
  rcases Nat.lt_or_ge left fat.clusterSize with short | full
  · rw [Nat.mod_eq_of_lt short, if_neg (by omega)]
  · obtain rfl : left = fat.clusterSize := by omega
    rw [Nat.mod_self, if_pos rfl]

/-- The driver counts the clusters right. -/
theorem clustersToRead_eq (positive : 0 < fat.clusterSize) (some : 0 < size)
    (few : clustersMet fat 0 size < 2 ^ 32 - 1) (small : size < 2 ^ 64) :
    clustersToRead fat size = clustersMet fat 0 size := by
  rw [← clustersOfWrite_eq positive some few (by omega), clustersToRead, clustersOfWrite,
    Nat.zero_add, Nat.mod_eq_of_lt small]

/-- A read within one cluster's length is done at once. -/
theorem firstRead_single (small : fat.clusterSize < 2 ^ 24) (short : size ≤ fat.clusterSize)
    (narrow : size < 2 ^ 16) : firstRead fat size = size := by
  rw [firstRead]
  split
  · rw [Nat.mod_eq_of_lt ‹size < fat.clusterSize›]
    omega
  · obtain rfl : size = fat.clusterSize := by omega
    exact Nat.mod_eq_of_lt narrow

theorem firstRead_full (long : fat.clusterSize ≤ size) :
    firstRead fat size = fat.clusterSize % 2 ^ 16 := if_neg (Nat.not_lt.mpr long)

theorem nextRead_full {left : Nat} (more : left ≠ 1) :
    nextRead fat size filePos left = fat.clusterSize % 2 ^ 16 := if_neg more

/-- From the beginning of a cluster the last read takes what is left. -/
theorem nextRead_last (positive : 0 < fat.clusterSize) (narrow : fat.clusterSize < 2 ^ 16)
    (small : filePos + size < 2 ^ 64) (aligned : filePos % fat.clusterSize = 0) :
    nextRead fat size filePos 1 = remainder fat size := by
  have same : (filePos + size) % fat.clusterSize = size % fat.clusterSize := by
    rw [Nat.add_mod, aligned, Nat.zero_add, Nat.mod_mod]
  have inside := Nat.mod_lt size positive
  rw [nextRead, if_pos rfl, Nat.mod_eq_of_lt small, same, remainder]
  split
  · exact Nat.mod_eq_of_lt narrow
  · exact Nat.mod_eq_of_lt (inside.trans narrow)

/-- Parts of no more than so many bytes. -/
theorem extent_le {next : Nat → Nat} {full last : Nat}
    (fulls : ∀ left, left ≠ 1 → next left ≤ full) (lasts : next 1 ≤ last) (left : Nat) :
    extent next (left + 1) (next (left + 1)) ≤ left * full + last := by
  induction left with
  | zero =>
    simpa [extent] using lasts
  | succ left induction =>
    have first := fulls (left + 1 + 1) (by omega)
    rw [extent, Nat.succ_mul]
    omega

end Lengths

/-! ## Where the content is read -/

/-- The address of the cluster fits into 32 bits. -/
def Reached (fat : FatPrivate) (cluster : Nat) : Prop := clusterStart fat cluster < 2 ^ 32

/-- The driver's address of a data cluster is that of its bytes, in 32 bits. -/
theorem DataCluster.address {cluster : Nat} (is_data : DataCluster env fat cluster) :
    dataClusterToAbsoluteAddress fat cluster = clusterStart fat cluster % 2 ^ 32 := by
  have numbered := is_data.numbered
  have narrow := is_data.narrow
  have index : (cluster + 2 ^ 32 - 2) % 2 ^ 32 = cluster - 2 := by omega
  rw [dataClusterToAbsoluteAddress, index, clusterStart, Nat.add_comm]

theorem DataCluster.reached {cluster : Nat} (is_data : DataCluster env fat cluster) :
    dataClusterToAbsoluteAddress fat cluster = clusterStart fat cluster ↔ Reached fat cluster := by
  rw [is_data.address]
  exact Nat.mod_eq_iff_lt (by decide)

/-- The bytes of a data cluster are in the volume. -/
theorem DataCluster.whole {cluster : Nat} (is_data : DataCluster env fat cluster) :
    clusterStart fat cluster + fat.clusterSize ≤ env.volumeSize := by
  have inside := is_data.inside
  obtain ⟨count, rfl⟩ := Nat.exists_eq_add_of_le is_data.numbered
  have one : 2 + count - 1 = count + 1 := by omega
  rw [one, Nat.succ_mul] at inside
  rw [clusterStart, Nat.add_sub_cancel_left]
  omega

/-- Whatever the data region holds, the read returns 0 and gives the content of the file
from its position on. -/
def ReadsContent (env : Environment) (fat : FatPrivate) (bytes : Nat → UInt8) (cells : List Nat)
    (fileSize size filePos : Nat) (ptr : Nat → UInt8) : Prop :=
  ∀ world : World, table fat world.bytes = table fat bytes → ∃ read after,
    (readFatFile env fat ⟨cells.headD 0, fileSize⟩ size filePos ptr).run world =
      .ok ((SUCCESS, read), after) ∧
    ∀ offset < size, read offset = content fat world.bytes cells (filePos + offset)

/-- Where a read gives the content: its parts have lengths of 16 bits, and it begins at a
cluster, all it meets having addresses of 32 bits; or it is no longer than a cluster, and
ends in the one it begins in or goes on in the next one of the chain because that is the
next one on the disk. -/
def ReadFits (fat : FatPrivate) (cells : List Nat) (size filePos : Nat) : Prop :=
  let first := filePos / fat.clusterSize
  let pos := filePos % fat.clusterSize
  size = 0 ∨ min size fat.clusterSize < 2 ^ 16 ∧
    (pos = 0 ∧ (∀ i, i * fat.clusterSize < size → Reached fat (cells.getD (first + i) 0)) ∨
      size ≤ fat.clusterSize ∧ Reached fat (cells.getD first 0) ∧
        (pos + size ≤ fat.clusterSize ∨ cells.getD (first + 1) 0 = cells.getD first 0 + 1))

section Reading

variable {size filePos fileSize : Nat} {ptr : Nat → UInt8}

/-- The clusters that the read meets, from the one with its position on. -/
def visited (fat : FatPrivate) (cells : List Nat) (size filePos : Nat) : List Nat :=
  (cells.drop (filePos / fat.clusterSize)).take (clustersToRead fat size)

/-- `readFatFile` reads the parts of the clusters that it meets. -/
theorem readFatFile_meets (layout : Layout env fat) (quiet : env.Quiet)
    (small : fat.clusterSize < 2 ^ 24) (some : cells ≠ [])
    (chain : Chain (links fat world.bytes) cells) (clusters : Clusters env fat cells)
    (few : filePos / fat.clusterSize ≤ cells.length)
    (enough : clustersToRead fat size ≤ (cells.drop (filePos / fat.clusterSize)).length) :
    Meets (readFatFile env fat ⟨cells.headD 0, fileSize⟩ size filePos ptr) world
      (fun _ => ¬ Placed fat (nextRead fat size filePos) env.volumeSize size
        (visited fat cells size filePos) (filePos % fat.clusterSize) (firstRead fat size) 0)
      fun result _ =>
        (result.1 = SUCCESS → result.2 = gathered fat (nextRead fat size filePos) world.bytes
          (visited fat cells size filePos) (filePos % fat.clusterSize) (firstRead fat size) 0 ptr) ∧
        (Placed fat (nextRead fat size filePos) env.volumeSize size (visited fat cells size filePos)
          (filePos % fat.clusterSize) (firstRead fat size) 0 → result.1 = SUCCESS) := by
  have counted : cells.length ≤ 2 ^ 28 := clusters.length_le chain.nodup
  have skips : filePos / fat.clusterSize % 2 ^ 32 = filePos / fat.clusterSize :=
    Nat.mod_eq_of_lt (by omega)
  have begins : cells.headD 0 = entryTo cells := by
    obtain ⟨cluster, rest, rfl⟩ := List.exists_cons_of_ne_nil some
    rfl
  have dropped : Clusters env fat (cells.drop (filePos / fat.clusterSize)) :=
    fun cluster member => clusters cluster (List.mem_of_mem_drop member)
  have near := Nat.mod_lt filePos layout.cluster
  have short : firstRead fat size ≤ 2 ^ 32 := by
    rw [firstRead]
    split
    · exact (Nat.mod_lt _ (by decide)).le.trans (by decide)
    · exact (Nat.mod_lt _ (by decide)).le.trans (by decide)
  rw [readFatFile, skips]
  dsimp only
  rw [begins]
  apply (skipRead_meets layout quiet _ few clusters fun _ => chain).bind
  rintro ⟨ret, currentCluster⟩ after ⟨same, result⟩
  obtain ⟨rfl, rfl⟩ := Prod.mk.inj result
  dsimp only
  rw [if_success, visited, ← same.bytes]
  refine readParts_meets layout quiet small size filePos _ enough _ _ 0 near short ptr dropped ?_
  rw [same.bytes]
  exact chain.drop

end Reading

section Exact

variable {size filePos fileSize : Nat} {ptr : Nat → UInt8} {first : Nat} {rest : List Nat}

/-- A read that meets some clusters meets the one with its position first. -/
theorem met_clusters (positive : 0 < fat.clusterSize) (some : 0 < size)
    (inside : filePos + size ≤ cells.length * fat.clusterSize) :
    ∃ first rest, cells.drop (filePos / fat.clusterSize) = first :: rest ∧
      clustersMet fat 0 size - 1 ≤ rest.length ∧
      filePos % fat.clusterSize + size ≤ (rest.length + 1) * fat.clusterSize := by
  have whole := Nat.div_add_mod filePos fat.clusterSize
  rw [Nat.mul_comm] at whole
  have before : filePos / fat.clusterSize < cells.length := by
    by_contra behind
    have far := Nat.mul_le_mul_right fat.clusterSize (Nat.not_lt.mp behind)
    omega
  have length := List.length_drop (l := cells) (i := filePos / fat.clusterSize)
  obtain ⟨first, rest, split⟩ := List.exists_cons_of_length_pos
    (show 0 < (cells.drop (filePos / fat.clusterSize)).length by omega)
  rw [split, List.length_cons] at length
  have all : cells.length = filePos / fat.clusterSize + (rest.length + 1) := by omega
  rw [all, Nat.add_mul] at inside
  have room : filePos % fat.clusterSize + size ≤ (rest.length + 1) * fat.clusterSize := by omega
  refine ⟨first, rest, split, ?_, room⟩
  have low := (clustersMet_bounds 0 positive some).2.1
  have fewer := Nat.lt_of_mul_lt_mul_right
    (a := fat.clusterSize) (show (clustersMet fat 0 size - 1) * fat.clusterSize <
      (rest.length + 1) * fat.clusterSize by omega)
  omega

/-- The content from the position on is that of those clusters. -/
theorem content_met (positive : 0 < fat.clusterSize)
    (split : cells.drop (filePos / fat.clusterSize) = first :: rest) (offset : Nat) :
    content fat bytes cells (filePos + offset) =
      content fat bytes (first :: rest) (filePos % fat.clusterSize + offset) := by
  have front : (cells.take (filePos / fat.clusterSize)).length = filePos / fat.clusterSize := by
    rw [List.length_take, Nat.min_eq_left]
    by_contra behind
    rw [List.drop_eq_nil_of_le (by omega)] at split
    cases split
  have behind := content_behind bytes positive
    (cells.take (filePos / fat.clusterSize)) (first :: rest) (filePos % fat.clusterSize + offset)
  rw [front, ← split, List.take_append_drop, ← Nat.add_assoc, Nat.mul_comm, Nat.div_add_mod,
    split] at behind
  exact behind

/-- Where a byte of the content is. -/
def contentPlace (fat : FatPrivate) (cells : List Nat) (offset : Nat) : Nat :=
  clusterStart fat (cells.getD (offset / fat.clusterSize) 0) + offset % fat.clusterSize

theorem contentPlace_behind (fat : FatPrivate) (cells : List Nat) (offset : Nat) :
    fat.dataClusterStartAddress ≤ contentPlace fat cells offset :=
  (Nat.le_add_right _ _).trans (Nat.le_add_right _ _)

/-- What the parts of a read show is the content from the position on, whatever the data
region holds. -/
def ShowsContent (fat : FatPrivate) (bytes : Nat → UInt8) (first : Nat) (rest : List Nat)
    (size filePos : Nat) (ptr : Nat → UInt8) : Prop :=
  ∀ other, table fat other = table fat bytes → ∀ offset < size,
    gathered fat (nextRead fat size filePos) other
        (first :: rest.take (clustersMet fat 0 size - 1)) (filePos % fat.clusterSize)
        (firstRead fat size) 0 ptr offset =
      other (contentPlace fat (first :: rest) (filePos % fat.clusterSize + offset))

/-- The clusters of a read that is no longer than one are one. -/
theorem clustersMet_single (positive : 0 < fat.clusterSize) (some : 0 < size)
    (short : size ≤ fat.clusterSize) : clustersMet fat 0 size = 1 := by
  obtain ⟨-, low, high⟩ := clustersMet_bounds 0 positive some
  rw [Nat.zero_add] at low high
  refine clusters_unique low high ?_ ?_
  · rwa [Nat.sub_self, Nat.zero_mul]
  · rwa [Nat.one_mul]

/-- A read no longer than a cluster is one part. -/
theorem gathered_single (small : fat.clusterSize < 2 ^ 24) (short : size ≤ fat.clusterSize)
    (narrow : size < 2 ^ 16) (others : List Nat) {offset : Nat} (inside : offset < size) :
    gathered fat (nextRead fat size filePos) bytes (first :: others) (filePos % fat.clusterSize)
        (firstRead fat size) 0 ptr offset =
      bytes (dataClusterToAbsoluteAddress fat first + filePos % fat.clusterSize + offset) := by
  have part : gathered fat (nextRead fat size filePos) bytes (first :: others)
      (filePos % fat.clusterSize) size 0 ptr (0 + offset) = _ :=
    gathered_first first others (filePos % fat.clusterSize) size 0 inside
  rw [firstRead_single small short narrow]
  rwa [Nat.zero_add] at part

/-- The parts of a read that begins at a cluster. -/
structure WholeParts (fat : FatPrivate) (size filePos count : Nat) : Prop where
  full : ∀ left, left ≠ 1 → nextRead fat size filePos left = fat.clusterSize
  small : nextRead fat size filePos 1 ≤ fat.clusterSize
  first : firstRead fat size = nextRead fat size filePos (count + 1)
  all : count * fat.clusterSize + nextRead fat size filePos 1 = size

theorem wholeParts (positive : 0 < fat.clusterSize) (some : 0 < size)
    (narrow : fat.clusterSize < 2 ^ 16) (small : filePos + size < 2 ^ 64)
    (aligned : filePos % fat.clusterSize = 0) :
    WholeParts fat size filePos (clustersMet fat 0 size - 1) := by
  obtain ⟨least, low, high⟩ := clustersMet_bounds 0 positive some
  have last := nextRead_last positive narrow small aligned
  have left := remainder_eq positive some
  have whole : fat.clusterSize % 2 ^ 16 = fat.clusterSize := Nat.mod_eq_of_lt narrow
  obtain ⟨count, counted⟩ := Nat.exists_eq_add_of_lt least
  rw [Nat.zero_add] at counted low high
  rw [counted, Nat.succ_mul] at high
  rw [counted, Nat.add_sub_cancel] at low left ⊢
  rw [left] at last
  constructor
  · exact fun left more => (nextRead_full more).trans whole
  · omega
  · rcases Nat.eq_zero_or_pos count with rfl | more
    · rw [last, Nat.zero_mul, Nat.sub_zero]
      exact firstRead_single (by omega) (by omega) (by omega)
    · have least_size : fat.clusterSize ≤ count * fat.clusterSize := Nat.le_mul_of_pos_left _ more
      rw [firstRead_full (by omega), nextRead_full (by omega)]
  · omega

/-- What a read that begins at a cluster shows is at the addresses of its clusters. -/
theorem gathered_aligned (positive : 0 < fat.clusterSize) (some : 0 < size)
    (narrow : fat.clusterSize < 2 ^ 16) (small : filePos + size < 2 ^ 64)
    (aligned : filePos % fat.clusterSize = 0) (long : clustersMet fat 0 size - 1 ≤ rest.length)
    {offset : Nat} (inside : offset < size) :
    gathered fat (nextRead fat size filePos) bytes
        (first :: rest.take (clustersMet fat 0 size - 1)) (filePos % fat.clusterSize)
        (firstRead fat size) 0 ptr offset =
      bytes (dataClusterToAbsoluteAddress fat ((first :: rest).getD (offset / fat.clusterSize) 0) +
        offset % fat.clusterSize) := by
  have parts := wholeParts positive some narrow small aligned
  have taken : (rest.take (clustersMet fat 0 size - 1)).length = clustersMet fat 0 size - 1 := by
    rw [List.length_take, Nat.min_eq_left long]
  have shown : gathered fat _ bytes (first :: rest.take (clustersMet fat 0 size - 1)) 0 _ 0 ptr
      (0 + offset) = _ :=
    gathered_whole positive parts.full parts.small first (rest.take (clustersMet fat 0 size - 1)) 0
      (by rwa [taken, parts.all])
  obtain ⟨least, -, high⟩ := clustersMet_bounds 0 positive some
  have before : offset / fat.clusterSize < clustersMet fat 0 size - 1 + 1 := by
    rw [Nat.div_lt_iff_lt_mul positive, Nat.sub_add_cancel least]
    omega
  rw [taken, Nat.zero_add, ← List.take_succ_cons, List.getD_eq_getElem?_getD,
    List.getElem?_take_of_lt before, ← List.getD_eq_getElem?_getD] at shown
  rw [aligned, parts.first, ← List.take_succ_cons]
  exact shown

/-- The clusters that a read meets are data clusters. -/
theorem met_data (positive : 0 < fat.clusterSize) (some : 0 < size)
    (long : clustersMet fat 0 size - 1 ≤ rest.length) (clusters : Clusters env fat (first :: rest))
    {i : Nat} (meets : i * fat.clusterSize < size) :
    DataCluster env fat ((first :: rest).getD i 0) := by
  obtain ⟨least, -, high⟩ := clustersMet_bounds 0 positive some
  rw [Nat.zero_add] at high
  have before := Nat.lt_of_mul_lt_mul_right (meets.trans_le high)
  have within : i < (first :: rest).length := by
    rw [List.length_cons]
    omega
  rw [List.getD_eq_getElem _ _ within]
  exact clusters _ (List.getElem_mem within)

/-- Parts that begin at their clusters are in the volume if the clusters are. -/
theorem placed_whole {next : Nat → Nat} {volumeSize : Nat} (positive : 0 < fat.clusterSize)
    (full : ∀ left, left ≠ 1 → next left = fat.clusterSize) (small : next 1 ≤ fat.clusterSize)
    (first : Nat) (rest : List Nat) (total : Nat)
    (inside : ∀ cluster ∈ first :: rest,
      dataClusterToAbsoluteAddress fat cluster + fat.clusterSize ≤ volumeSize)
    (room : total + rest.length * fat.clusterSize + next 1 ≤ size) :
    Placed fat next volumeSize size (first :: rest) 0 (next (rest.length + 1)) total := by
  have here := inside first List.mem_cons_self
  induction rest generalizing first total with
  | nil =>
    rw [List.length_nil, Nat.zero_mul, Nat.add_zero] at room
    rw [Placed, Nat.add_zero]
    exact ⟨by omega, Nat.le_trans (Nat.add_le_add_left small _) here, room, trivial⟩
  | cons second rest induction =>
    rw [List.length_cons, Nat.succ_mul] at room
    have whole : next ((second :: rest).length + 1) = fat.clusterSize :=
      full _ (by rw [List.length_cons]; omega)
    rw [Placed, whole, Nat.add_zero]
    refine ⟨by omega, here, by omega, ?_⟩
    exact induction second (total + fat.clusterSize)
      (fun cluster member => inside cluster (List.mem_cons_of_mem _ member)) (by omega)
      (inside second (List.mem_cons_of_mem _ List.mem_cons_self))

section Needed

variable (layout : Layout env fat) (some : 0 < size)
  (long : clustersMet fat 0 size - 1 ≤ rest.length)
  (shows : ShowsContent fat bytes first rest size filePos ptr)

include layout some long shows

/-- Lengths of 16 bits leave the end of a read that needs more. -/
theorem ShowsContent.narrow : min size fat.clusterSize < 2 ^ 16 := by
  by_contra wide
  have taken : (rest.take (clustersMet fat 0 size - 1)).length = clustersMet fat 0 size - 1 := by
    rw [List.length_take, Nat.min_eq_left long]
  obtain ⟨-, low, high⟩ := clustersMet_bounds 0 layout.cluster some
  rw [Nat.zero_add] at low high
  have full := Nat.mod_lt fat.clusterSize (show 0 < 2 ^ 16 by decide)
  have short : extent (nextRead fat size filePos)
      (first :: rest.take (clustersMet fat 0 size - 1)).length (firstRead fat size) ≤ size - 1 := by
    rw [List.length_cons, taken]
    have first_short : firstRead fat size < 2 ^ 16 := by
      rw [firstRead]
      split
      · exact Nat.mod_lt _ (by decide)
      · exact full
    have last_short : nextRead fat size filePos 1 ≤ 2 ^ 16 - 1 := by
      rw [nextRead]
      exact Nat.le_pred_of_lt (Nat.mod_lt _ (by decide))
    generalize clustersMet fat 0 size - 1 = before at low ⊢
    cases before with
    | zero =>
      rw [extent, extent]
      omega
    | succ before =>
      have more : fat.clusterSize ≤ (before + 1) * fat.clusterSize :=
        Nat.le_mul_of_pos_left _ (Nat.succ_pos _)
      have fulls : ∀ left, left ≠ 1 →
          nextRead fat size filePos left ≤ fat.clusterSize % 2 ^ 16 :=
        fun left not_last => (nextRead_full not_last).le
      have covered := extent_le fulls last_short before
      have each : (before + 1) * (fat.clusterSize % 2 ^ 16 + 2 ^ 16) ≤
          (before + 1) * fat.clusterSize := Nat.mul_le_mul_left _ (by omega)
      rw [Nat.mul_add, Nat.succ_mul before] at each
      rw [extent, firstRead_full (by omega)]
      omega
  have behind := contentPlace_behind fat (first :: rest) (filePos % fat.clusterSize + (size - 1))
  refine not_constant layout bytes behind (ptr (size - 1)) fun other same => ?_
  rw [← shows other same (size - 1) (by omega), gathered_behind]
  rw [Nat.zero_add]
  exact short

/-- A read longer than a cluster has to begin at one: its second part is what is at the
beginning of the second cluster, or nothing. -/
theorem ShowsContent.begins (clusters : Clusters env fat (first :: rest)) :
    filePos % fat.clusterSize = 0 ∨ size ≤ fat.clusterSize := by
  have narrow := ShowsContent.narrow layout some long shows
  by_contra neither
  obtain ⟨between, longer⟩ := not_or.mp neither
  have whole : fat.clusterSize % 2 ^ 16 = fat.clusterSize := Nat.mod_eq_of_lt (by omega)
  have near := Nat.mod_lt filePos layout.cluster
  obtain ⟨-, -, high⟩ := clustersMet_bounds 0 layout.cluster some
  obtain ⟨before, counted⟩ : ∃ before, clustersMet fat 0 size - 1 = before + 1 := by
    refine Nat.exists_eq_succ_of_ne_zero fun none => longer ?_
    have one := Nat.mul_le_mul_right fat.clusterSize (show clustersMet fat 0 size ≤ 1 by omega)
    omega
  rw [counted] at long
  obtain ⟨second, others, rfl⟩ := List.exists_cons_of_length_pos (Nat.zero_lt_of_lt long)
  have is_data := clusters second (List.mem_cons_of_mem _ List.mem_cons_self)
  have place : contentPlace fat (first :: second :: others) (filePos % fat.clusterSize +
      fat.clusterSize) = clusterStart fat second + filePos % fat.clusterSize := by
    rw [contentPlace, Nat.add_div_right _ layout.cluster, Nat.add_mod_right,
      Nat.div_eq_of_lt near, Nat.mod_mod]
    rfl
  have behind := contentPlace_behind fat (first :: second :: others)
    (filePos % fat.clusterSize + fat.clusterSize)
  obtain ⟨length, second_length⟩ : ∃ length,
      nextRead fat size filePos ((others.take before).length + 1) = length := ⟨_, rfl⟩
  have unfolded (other : Nat → UInt8) (same : table fat other = table fat bytes) :
      gathered fat (nextRead fat size filePos) other (others.take before) 0
          (nextRead fat size filePos (others.take before).length) (fat.clusterSize + length)
          (overwrite (overwrite ptr 0 fat.clusterSize
              (slice other (dataClusterToAbsoluteAddress fat first + filePos % fat.clusterSize)))
            fat.clusterSize length (slice other (dataClusterToAbsoluteAddress fat second)))
          fat.clusterSize =
        other (contentPlace fat (first :: second :: others)
          (filePos % fat.clusterSize + fat.clusterSize)) := by
    have shown := shows other same fat.clusterSize (Nat.not_le.mp longer)
    rw [counted, List.take_succ_cons, firstRead_full (by omega), whole, gathered, gathered,
      Nat.zero_add, List.length_cons, second_length, Nat.add_zero] at shown
    exact shown
  rcases Nat.eq_zero_or_pos length with empty | part
  · have last : (others.take before).length + 1 = 1 := by
      by_contra more
      rw [nextRead_full more, whole] at second_length
      exact Nat.ne_of_gt layout.cluster (second_length.trans empty)
    have none : others.take before = [] := List.eq_nil_of_length_eq_zero (by omega)
    refine not_constant layout bytes behind (ptr fat.clusterSize) fun other same => ?_
    rw [← unfolded other same, none, gathered, empty, overwrite_empty,
      overwrite_outside _ _ _ _ _ (by omega)]
  · have same : dataClusterToAbsoluteAddress fat second =
        clusterStart fat second + filePos % fat.clusterSize := by
      rw [← place]
      refine same_place layout bytes behind fun other same => ?_
      have inside : fat.clusterSize < fat.clusterSize + length := Nat.lt_add_of_pos_right part
      rw [← unfolded other same, gathered_before _ _ _ inside,
        overwrite_inside _ _ _ _ _ ⟨le_rfl, inside⟩, Nat.sub_self, slice_apply, Nat.add_zero]
    have below := Nat.mod_le (clusterStart fat second) (2 ^ 32)
    rw [is_data.address] at same
    omega

/-- A read within one cluster's length has its cluster below 4 GiB. -/
theorem ShowsContent.single_reached (small : fat.clusterSize < 2 ^ 24)
    (is_data : DataCluster env fat first) (short : size ≤ fat.clusterSize) : Reached fat first := by
  have narrow := ShowsContent.narrow layout some long shows
  have near := Nat.mod_lt filePos layout.cluster
  refine is_data.reached.mp ?_
  have place : contentPlace fat (first :: rest) (filePos % fat.clusterSize + 0) =
      clusterStart fat first + filePos % fat.clusterSize := by
    rw [Nat.add_zero, contentPlace, Nat.div_eq_of_lt near, Nat.mod_eq_of_lt near,
      List.getD_cons_zero]
  have same : dataClusterToAbsoluteAddress fat first + filePos % fat.clusterSize =
      clusterStart fat first + filePos % fat.clusterSize := by
    rw [← place]
    refine same_place layout bytes (contentPlace_behind _ _ _) fun other same => ?_
    rw [← shows other same 0 some, gathered_single small short (by omega) _ some, Nat.add_zero]
  omega

/-- If it goes on behind its cluster, the next one is the next one on the disk. -/
theorem ShowsContent.single_next (small : fat.clusterSize < 2 ^ 24)
    (clusters : Clusters env fat (first :: rest)) (short : size ≤ fat.clusterSize)
    (room : filePos % fat.clusterSize + size ≤ (rest.length + 1) * fat.clusterSize) :
    filePos % fat.clusterSize + size ≤ fat.clusterSize ∨
      (first :: rest).getD 1 0 = first + 1 := by
  have narrow := ShowsContent.narrow layout some long shows
  have is_data := clusters first List.mem_cons_self
  have reached := ShowsContent.single_reached layout some long shows small is_data short
  have near := Nat.mod_lt filePos layout.cluster
  refine or_iff_not_imp_left.mpr fun crosses => ?_
  obtain ⟨second, others, rfl⟩ : ∃ second others, rest = second :: others := by
    refine List.exists_cons_of_ne_nil ?_
    rintro rfl
    rw [List.length_nil, Nat.zero_add, Nat.one_mul] at room
    exact crosses room
  have also_data := clusters second (List.mem_cons_of_mem _ List.mem_cons_self)
  obtain ⟨left, split⟩ := Nat.exists_eq_add_of_le near.le
  have place : contentPlace fat (first :: second :: others) (filePos % fat.clusterSize + left) =
      clusterStart fat second := by
    rw [← split, contentPlace, Nat.div_self layout.cluster, Nat.mod_self, Nat.add_zero]
    rfl
  have same : dataClusterToAbsoluteAddress fat first + filePos % fat.clusterSize + left =
      clusterStart fat second := by
    rw [← place]
    refine same_place layout bytes (contentPlace_behind _ _ _) fun other same => ?_
    rw [← shows other same left (by omega), gathered_single small short (by omega) _ (by omega)]
  rw [is_data.reached.mpr reached, Nat.add_assoc, ← split, clusterStart, clusterStart,
    Nat.add_assoc, ← Nat.succ_mul] at same
  have index := Nat.eq_of_mul_eq_mul_right layout.cluster (Nat.add_left_cancel same)
  have low := is_data.numbered
  have also_low := also_data.numbered
  rw [List.getD_cons_succ, List.getD_cons_zero]
  omega

/-- A read that begins at a cluster has all clusters that it meets below 4 GiB. -/
theorem ShowsContent.all_reached (small : fat.clusterSize < 2 ^ 24)
    (clusters : Clusters env fat (first :: rest)) (short : filePos + size < 2 ^ 64)
    (aligned : filePos % fat.clusterSize = 0) (i : Nat) (meets : i * fat.clusterSize < size) :
    Reached fat ((first :: rest).getD i 0) := by
  have narrow := ShowsContent.narrow layout some long shows
  rcases Nat.le_total size fat.clusterSize with single | more
  · obtain rfl : i = 0 := by
      by_contra later
      have least := Nat.le_mul_of_pos_left fat.clusterSize (Nat.pos_of_ne_zero later)
      omega
    exact ShowsContent.single_reached layout some long shows small
      (clusters first List.mem_cons_self) single
  · have wide : fat.clusterSize < 2 ^ 16 := by omega
    have count : (i * fat.clusterSize) / fat.clusterSize = i := Nat.mul_div_cancel i layout.cluster
    have even : i * fat.clusterSize % fat.clusterSize = 0 := Nat.mul_mod_left _ _
    have place : contentPlace fat (first :: rest) (filePos % fat.clusterSize + i * fat.clusterSize) =
        clusterStart fat ((first :: rest).getD i 0) := by
      rw [aligned, Nat.zero_add, contentPlace, count, even, Nat.add_zero]
    have same : dataClusterToAbsoluteAddress fat ((first :: rest).getD i 0) =
        clusterStart fat ((first :: rest).getD i 0) := by
      rw [← place]
      refine same_place layout bytes (contentPlace_behind _ _ _) fun other same => ?_
      rw [← shows other same _ meets, gathered_aligned layout.cluster some wide short aligned long
        meets, count, even, Nat.add_zero]
    exact (met_data layout.cluster some long clusters meets).reached.mp same

end Needed

/-- The condition, for the clusters from the position on. -/
def FitsFrom (fat : FatPrivate) (first : Nat) (rest : List Nat) (size filePos : Nat) : Prop :=
  min size fat.clusterSize < 2 ^ 16 ∧
    (filePos % fat.clusterSize = 0 ∧
        (∀ i, i * fat.clusterSize < size → Reached fat ((first :: rest).getD i 0)) ∨
      size ≤ fat.clusterSize ∧ Reached fat first ∧
        (filePos % fat.clusterSize + size ≤ fat.clusterSize ∨
          (first :: rest).getD 1 0 = first + 1))

/-- What a read within one cluster's length shows. -/
theorem shows_single (layout : Layout env fat) (some : 0 < size) (small : fat.clusterSize < 2 ^ 24)
    (clusters : Clusters env fat (first :: rest)) (single : size ≤ fat.clusterSize)
    (narrow : size < 2 ^ 16) (reached : Reached fat first)
    (ends : filePos % fat.clusterSize + size ≤ fat.clusterSize ∨
      (first :: rest).getD 1 0 = first + 1) :
    Placed fat (nextRead fat size filePos) env.volumeSize size
        (first :: rest.take (clustersMet fat 0 size - 1)) (filePos % fat.clusterSize)
        (firstRead fat size) 0 ∧
      ShowsContent fat bytes first rest size filePos ptr := by
  have is_data := clusters first List.mem_cons_self
  have near := Nat.mod_lt filePos layout.cluster
  have address := is_data.reached.mpr reached
  have whole := is_data.whole
  -- The read ends in the cluster, or the next one has what is behind it.
  have behind : filePos % fat.clusterSize + size ≤ fat.clusterSize ∨
      clusterStart fat ((first :: rest).getD 1 0) = clusterStart fat first + fat.clusterSize ∧
        clusterStart fat first + fat.clusterSize + fat.clusterSize ≤ env.volumeSize := by
    refine ends.imp_right fun next => ?_
    obtain ⟨second, others, rfl⟩ : ∃ second others, rest = second :: others := by
      refine List.exists_cons_of_ne_nil ?_
      rintro rfl
      rw [List.getD_cons_succ, List.getD_nil] at next
      exact absurd next.symm (Nat.succ_ne_zero first)
    have also := (clusters second (List.mem_cons_of_mem _ List.mem_cons_self)).whole
    rw [List.getD_cons_succ, List.getD_cons_zero] at next ⊢
    have start : clusterStart fat second = clusterStart fat first + fat.clusterSize := by
      have numbered := is_data.numbered
      have index : first + 1 - 2 = first - 2 + 1 := by omega
      rw [next, clusterStart, clusterStart, index, Nat.succ_mul, Nat.add_assoc]
    rw [start] at also
    exact ⟨start, also⟩
  constructor
  · rw [clustersMet_single layout.cluster some single, Nat.sub_self, List.take_zero, Placed,
      firstRead_single small single narrow, address]
    exact ⟨by omega, by omega, by omega, trivial⟩
  · intro other _ offset inside
    rw [gathered_single small single narrow _ inside, address, contentPlace]
    by_cases within : filePos % fat.clusterSize + offset < fat.clusterSize
    · rw [Nat.div_eq_of_lt within, Nat.mod_eq_of_lt within, List.getD_cons_zero, Nat.add_assoc]
    · obtain ⟨start, -⟩ := behind.resolve_left (by omega)
      obtain ⟨over', split⟩ := Nat.exists_eq_add_of_le (Nat.not_lt.mp within)
      have rest_near : over' < fat.clusterSize := by omega
      rw [split, Nat.add_div_left _ layout.cluster, Nat.add_mod_left, Nat.div_eq_of_lt rest_near,
        Nat.mod_eq_of_lt rest_near, start, Nat.add_assoc, Nat.add_assoc, split]

/-- What a longer read shows that begins at a cluster. -/
theorem shows_aligned (layout : Layout env fat) (some : 0 < size)
    (narrow : fat.clusterSize < 2 ^ 16) (short : filePos + size < 2 ^ 64)
    (long : clustersMet fat 0 size - 1 ≤ rest.length) (clusters : Clusters env fat (first :: rest))
    (aligned : filePos % fat.clusterSize = 0)
    (reached : ∀ i, i * fat.clusterSize < size → Reached fat ((first :: rest).getD i 0)) :
    Placed fat (nextRead fat size filePos) env.volumeSize size
        (first :: rest.take (clustersMet fat 0 size - 1)) (filePos % fat.clusterSize)
        (firstRead fat size) 0 ∧
      ShowsContent fat bytes first rest size filePos ptr := by
  have parts := wholeParts layout.cluster some narrow short aligned
  have taken : (rest.take (clustersMet fat 0 size - 1)).length = clustersMet fat 0 size - 1 := by
    rw [List.length_take, Nat.min_eq_left long]
  have address (i : Nat) (meets : i * fat.clusterSize < size) :
      dataClusterToAbsoluteAddress fat ((first :: rest).getD i 0) =
        clusterStart fat ((first :: rest).getD i 0) :=
    (met_data layout.cluster some long clusters meets).reached.mpr (reached i meets)
  constructor
  · have counted : clustersMet fat 0 size - 1 + 1 =
        (rest.take (clustersMet fat 0 size - 1)).length + 1 := by rw [taken]
    rw [aligned, parts.first, counted]
    refine placed_whole layout.cluster parts.full parts.small first _ 0 ?_ ?_
    · intro cluster member
      obtain ⟨i, within, rfl⟩ := List.mem_iff_getElem.mp member
      have few : i < clustersMet fat 0 size - 1 + 1 := by
        rwa [List.length_cons, taken] at within
      have same : (first :: rest.take (clustersMet fat 0 size - 1))[i] = (first :: rest).getD i 0 := by
        rw [← List.getD_eq_getElem _ 0 within, ← List.take_succ_cons, List.getD_eq_getElem?_getD,
          List.getElem?_take_of_lt few, ← List.getD_eq_getElem?_getD]
      have meets : i * fat.clusterSize < size :=
        Nat.lt_of_le_of_lt (Nat.mul_le_mul_right _ (Nat.le_of_lt_succ few))
          (clustersMet_bounds 0 layout.cluster some).2.1 |>.trans_eq (Nat.zero_add _)
      rw [same, address i meets]
      exact (met_data layout.cluster some long clusters meets).whole
    · rw [taken, Nat.zero_add, parts.all]
  · intro other _ offset inside
    have meets : offset / fat.clusterSize * fat.clusterSize < size :=
      Nat.lt_of_le_of_lt (Nat.div_mul_le_self _ _) inside
    rw [gathered_aligned layout.cluster some narrow short aligned long inside, address _ meets,
      contentPlace, aligned, Nat.zero_add]

/-- A read that fits shows the content, and its parts are in the volume. -/
theorem FitsFrom.shows (layout : Layout env fat) (some : 0 < size)
    (small : fat.clusterSize < 2 ^ 24) (short : filePos + size < 2 ^ 64)
    (long : clustersMet fat 0 size - 1 ≤ rest.length) (clusters : Clusters env fat (first :: rest))
    (fits : FitsFrom fat first rest size filePos) :
    Placed fat (nextRead fat size filePos) env.volumeSize size
        (first :: rest.take (clustersMet fat 0 size - 1)) (filePos % fat.clusterSize)
        (firstRead fat size) 0 ∧
      ShowsContent fat bytes first rest size filePos ptr := by
  obtain ⟨narrow, ⟨aligned, reached⟩ | ⟨single, reached, ends⟩⟩ := fits
  · rcases Nat.le_total size fat.clusterSize with single | more
    · refine shows_single layout some small clusters single (by omega) ?_ (.inl (by omega))
      exact reached 0 (by rwa [Nat.zero_mul])
    · exact shows_aligned layout some (by omega) short long clusters aligned reached
  · exact shows_single layout some small clusters single (by omega) reached ends

theorem fits_of_shows (layout : Layout env fat) (some : 0 < size)
    (small : fat.clusterSize < 2 ^ 24) (short : filePos + size < 2 ^ 64)
    (long : clustersMet fat 0 size - 1 ≤ rest.length) (clusters : Clusters env fat (first :: rest))
    (room : filePos % fat.clusterSize + size ≤ (rest.length + 1) * fat.clusterSize)
    (shows : ShowsContent fat bytes first rest size filePos ptr) :
    FitsFrom fat first rest size filePos := by
  refine ⟨ShowsContent.narrow layout some long shows, ?_⟩
  rcases ShowsContent.begins layout some long shows clusters with aligned | single
  · exact .inl ⟨aligned, ShowsContent.all_reached layout some long shows small clusters short aligned⟩
  · exact .inr ⟨single, ShowsContent.single_reached layout some long shows small
      (clusters first List.mem_cons_self) single,
      ShowsContent.single_next layout some long shows small clusters single room⟩

/-- The condition for a file, in terms of the clusters from the position on. -/
theorem readFits_iff (some : 0 < size)
    (split : cells.drop (filePos / fat.clusterSize) = first :: rest) :
    ReadFits fat cells size filePos ↔ FitsFrom fat first rest size filePos := by
  have at_index (i : Nat) : cells.getD (filePos / fat.clusterSize + i) 0 = (first :: rest).getD i 0 := by
    rw [List.getD_eq_getElem?_getD, ← List.getElem?_drop, split, ← List.getD_eq_getElem?_getD]
  have at_first := at_index 0
  rw [Nat.add_zero, List.getD_cons_zero] at at_first
  rw [ReadFits, FitsFrom]
  simp only [at_index, at_first, Nat.ne_of_gt some, false_or]

/-- A run of `readFatFile` on a volume with the same FAT. -/
theorem readFatFile_same (layout : Layout env fat) (quiet : env.Quiet)
    (small : fat.clusterSize < 2 ^ 24) (chain : Chain (links fat bytes) cells)
    (clusters : Clusters env fat cells) (some : 0 < size)
    (split : cells.drop (filePos / fat.clusterSize) = first :: rest)
    (long : clustersMet fat 0 size - 1 ≤ rest.length) (short : size < 2 ^ 64)
    (same : table fat world.bytes = table fat bytes) :
    Meets (readFatFile env fat ⟨cells.headD 0, fileSize⟩ size filePos ptr) world
      (fun _ => ¬ Placed fat (nextRead fat size filePos) env.volumeSize size
        (first :: rest.take (clustersMet fat 0 size - 1)) (filePos % fat.clusterSize)
        (firstRead fat size) 0)
      fun result _ =>
        (result.1 = SUCCESS → result.2 = gathered fat (nextRead fat size filePos) world.bytes
          (first :: rest.take (clustersMet fat 0 size - 1)) (filePos % fat.clusterSize)
          (firstRead fat size) 0 ptr) ∧
        (Placed fat (nextRead fat size filePos) env.volumeSize size
          (first :: rest.take (clustersMet fat 0 size - 1)) (filePos % fat.clusterSize)
          (firstRead fat size) 0 → result.1 = SUCCESS) := by
  have counted : cells.length ≤ 2 ^ 28 := clusters.length_le chain.nodup
  have length := congrArg List.length split
  rw [List.length_drop, List.length_cons] at length
  have least := (clustersMet_bounds 0 layout.cluster some).1
  have within : rest.length + 1 ≤ cells.length := by
    rw [← length]
    exact Nat.sub_le _ _
  have skipped : filePos / fat.clusterSize ≤ cells.length := by
    by_contra behind
    rw [Nat.sub_eq_zero_of_le (Nat.le_of_not_le behind)] at length
    exact absurd length.symm (Nat.succ_ne_zero _)
  have exact : clustersToRead fat size = clustersMet fat 0 size - 1 + 1 := by
    rw [clustersToRead_eq layout.cluster some (by omega) short, Nat.sub_add_cancel least]
  have nonempty : cells ≠ [] := by
    rintro rfl
    rw [List.drop_nil] at split
    cases split
  have linked : Chain (links fat world.bytes) cells :=
    chain.congr fun cluster _ => congrArg decode (congrFun same cluster)
  have enough : clustersToRead fat size ≤ (cells.drop (filePos / fat.clusterSize)).length := by
    rw [exact, split, List.length_cons]
    omega
  have seen : visited fat cells size filePos =
      first :: rest.take (clustersMet fat 0 size - 1) := by
    rw [visited, split, exact, List.take_succ_cons]
  rw [← seen]
  exact readFatFile_meets layout quiet small nonempty linked clusters skipped enough

end Exact

/-- A file of two clusters that are not next to each other. -/
def scatteredBytes : Nat → UInt8 :=
  putEntry (attachToDisk sectorRecord) (putEntry (attachToDisk sectorRecord) (fun _ => 0) 2 4) 4
    FAT_ENTRY_USED

theorem scattered_clusters :
    Clusters (plainEnvironment 1024000) (attachToDisk sectorRecord) [2, 4] := by
  intro cluster member
  simp only [List.mem_cons, List.not_mem_nil, or_false] at member
  rcases member with rfl | rfl
  · constructor <;> decide
  · constructor <;> decide

end BobaOS.Fat
