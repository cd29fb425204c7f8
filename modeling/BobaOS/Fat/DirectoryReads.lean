import BobaOS.Fat.Directories
import BobaOS.Fat.WriteFile

/-!
# Reading a directory

`getDirEntries` lists the clusters of a directory in an array of 255 places that is not
checked for room, and reads them to places that are 32 times as far apart as they should
be. A walk that ends in time is listed, and a directory of one cluster is read.
-/

namespace BobaOS.Fat

open ByteStore Programs Chains

section Collecting

variable (env : Environment) (fat : FatPrivate)

/-- `getDirEntries` up to the clusters that it is to read. -/
def collectClusters (dataClusterNum : Nat) : M (Code × Option (List Nat)) := do
  let (errCode, fatDir) ← getFatEntry env fat dataClusterNum
  if errCode < 0 then return (errCode, none)
  listClusters env fat 255 [] dataClusterNum fatDir errCode

/-- The rest of it. -/
def readCollected : Code × Option (List Nat) → M (Code × Nat × Option Entries)
  | (errCode, none) => return (errCode, 0, none)
  | (errCode, some clusterList) => do
    let size := fat.clusterSize * clusterList.length % 2 ^ 32
    match ← kzalloc env size with
    | none => return (-ENMEM, 0, none)
    | some block =>
      let (errCode, ret) ← readClusters env fat block clusterList 0 errCode fun _ => 0
      return (errCode, size / 32, some ⟨block, ret⟩)

theorem getDirEntries_collects (dataClusterNum : Nat) :
    getDirEntries env fat dataClusterNum =
      collectClusters env fat dataClusterNum >>= readCollected env fat := by
  rw [getDirEntries, collectClusters, bind_assoc]
  apply bind_congr
  rintro ⟨errCode, fatDir⟩
  dsimp only
  split
  · rfl
  · apply bind_congr
    rintro ⟨errCode, _ | clusterList⟩ <;> rfl

/-- An entry that ends a chain. -/
def IsMark (entry : Nat) : Prop := entry = FAT_ENTRY_USED ∨ entry = FAT_ENTRY_FREE

/-- The clusters from the one an entry leads to end within so many places, or one of the
entries on the way cannot be read. -/
def EndsWithin (bytes : Nat → UInt8) : Nat → Nat → Nat → Prop
  | 0, _, _ => False
  | room + 1, transfers, entry =>
    IsMark entry ∨ ReadFails env fat transfers entry ∨
      EndsWithin bytes room (transfers + 1) (entryAt fat bytes entry)

end Collecting

variable {env : Environment} {fat : FatPrivate} {world : World} {fault : Fault → Prop}

/-- The first loop of `getDirEntries` returns if the clusters end within the places that
are left, and stores behind them otherwise. -/
theorem listClusters_meets (narrow : fat.fatAddress < 2 ^ 32) (room : Nat) (list : List Nat)
    (cluster fatDir : Nat) (small : fatDir < 2 ^ 32) (errCode : Code) (world : World) :
    Meets (listClusters env fat room list cluster fatDir errCode) world
      (fun fault => fault = .outOfBounds ∧
        ¬ EndsWithin env fat world.bytes room world.transfers fatDir)
      fun _ _ => EndsWithin env fat world.bytes room world.transfers fatDir := by
  induction room generalizing list cluster fatDir errCode world with
  | zero => exact .throw ⟨rfl, id⟩
  | succ room induction =>
    rw [listClusters, meets_ite]
    constructor
    · rintro ⟨not_used, not_free⟩
      apply (getFatEntry_cases narrow small).bind
      rintro ⟨ret, next⟩ after ⟨bytes, ⟨fails, negative⟩ | ⟨read, nonnegative, rfl, moved⟩⟩
      · dsimp only at *
        rw [if_pos negative]
        exact .pure (.inr (.inl fails))
      · dsimp only at *
        rw [if_neg (Int.not_lt.mpr nonnegative)]
        have rest := induction (list ++ [cluster]) fatDir (entryAt fat world.bytes fatDir)
          ((entryAt_lt _ _).trans (by decide)) ret after
        rw [bytes, moved] at rest
        refine (rest.mono fun _ _ ends => .inr (.inr ends)).mono_fault ?_
        rintro problem ⟨rfl, endless⟩
        refine ⟨rfl, ?_⟩
        rintro (mark | fails | ends)
        · exact mark.elim not_used not_free
        · exact read fails
        · exact endless ends
    · intro mark
      rw [not_and_or, not_not, not_not] at mark
      exact .pure (.inl mark)

/-! ## Long chains -/

/-- The walk from a cluster ends within the places of `clusterList`. -/
def WalkEnds (env : Environment) (fat : FatPrivate) (world : World) (dataClusterNum : Nat) : Prop :=
  ReadFails env fat world.transfers dataClusterNum ∨
    EndsWithin env fat world.bytes 255 (world.transfers + 1)
      (entryAt fat world.bytes dataClusterNum)

theorem collectClusters_meets (narrow : fat.fatAddress < 2 ^ 32) {dataClusterNum : Nat}
    (small : dataClusterNum < 2 ^ 32) :
    Meets (collectClusters env fat dataClusterNum) world
      (fun fault => fault = .outOfBounds ∧ ¬ WalkEnds env fat world dataClusterNum)
      fun _ _ => WalkEnds env fat world dataClusterNum := by
  rw [collectClusters]
  apply (getFatEntry_cases narrow small).bind
  rintro ⟨ret, fatDir⟩ after ⟨bytes, ⟨fails, negative⟩ | ⟨read, nonnegative, rfl, moved⟩⟩
  · dsimp only at *
    rw [if_pos negative]
    exact .pure (.inl fails)
  · dsimp only at *
    rw [if_neg (Int.not_lt.mpr nonnegative)]
    have listed : Meets (listClusters env fat 255 [] dataClusterNum _ ret) after _ _ :=
      listClusters_meets narrow 255 [] dataClusterNum (entryAt fat world.bytes dataClusterNum)
        ((entryAt_lt _ _).trans (by decide)) ret after
    rw [bytes, moved] at listed
    refine (listed.mono fun _ _ ends => .inr ends).mono_fault ?_
    rintro problem ⟨rfl, endless⟩
    exact ⟨rfl, fun ends => ends.elim read endless⟩

/-- The clusters of a directory are listed, or an error reported, if the walk ends within
the 255 places of the array. Any other walk, and so any cycle, makes `getDirEntries` store
behind them.

Proof: by induction on the places that are left, the loop returns if the walk ends within
them and comes to no place otherwise. -/
theorem clusters_listed_iff (narrow : fat.fatAddress < 2 ^ 32) {dataClusterNum : Nat}
    (small : dataClusterNum < 2 ^ 32) :
    ((∃ result after, (collectClusters env fat dataClusterNum).run world = .ok (result, after)) ↔
      WalkEnds env fat world dataClusterNum) ∧
    (¬ WalkEnds env fat world dataClusterNum →
      (getDirEntries env fat dataClusterNum).run world = .error .outOfBounds) := by
  have collected : Meets (collectClusters env fat dataClusterNum) world _ _ :=
    collectClusters_meets narrow small
  refine ⟨(collected.mono_fault fun _ both => both.2).returns_iff, fun endless => ?_⟩
  have faults : Meets (getDirEntries env fat dataClusterNum) world (· = .outOfBounds)
      fun _ _ => False := by
    rw [getDirEntries_collects]
    exact (collected.mono_fault fun _ both => both.1).bind fun _ _ ends => absurd ends endless
  obtain ⟨problem, ran, rfl⟩ := faults.faults
  exact ran

/-- A volume whose root directory goes on in cluster 3, and there again in itself. -/
def cyclicBytes : Nat → UInt8 :=
  putEntry (attachToDisk smallRecord) (putEntry (attachToDisk smallRecord) (fun _ => 0) 2 3) 3 2

theorem short_walk_listed : ∃ result after,
    (collectClusters (plainEnvironment 82944) (attachToDisk smallRecord) 5).run
      (freshWorld cyclicBytes) = .ok (result, after) :=
  (clusters_listed_iff (by decide) (by decide)).1.mpr (.inr (.inl (.inr (by decide))))

/-- The walk never ends, and the array is left. -/
theorem cyclic_directory_overruns :
    (getDirEntries (plainEnvironment 82944) (attachToDisk smallRecord) 2).run
      (freshWorld cyclicBytes) = .error .outOfBounds :=
  error_of_faultOf (by decide +kernel)

/-! ## Well-formed chains -/

section WellFormedChains

variable {cluster : Nat} {rest : List Nat}

/-- A chain is listed as it is. -/
theorem listClusters_chain (layout : Layout env fat) (quiet : env.Quiet) (room : Nat)
    (list : List Nat) (errCode : Code) (chain : Chain (links fat world.bytes) (cluster :: rest))
    (clusters : Clusters env fat (cluster :: rest)) (enough : rest.length < room) :
    Meets (listClusters env fat room list cluster (entryTo rest) errCode) world fault
      fun result after => Same world after ∧ result.2 = some (list ++ cluster :: rest) := by
  induction room generalizing list errCode cluster rest world with
  | zero => exact absurd enough (Nat.not_lt_zero _)
  | succ room induction =>
    rw [listClusters, meets_ite]
    cases rest with
    | nil => exact ⟨fun goesOn => absurd rfl goesOn.1, fun _ => .pure ⟨.refl world, rfl⟩⟩
    | cons next rest =>
      obtain ⟨not_free, not_used⟩ := chain_no_mark chain
      have next_entry : entryTo (next :: rest) = next := rfl
      rw [next_entry]
      refine ⟨fun _ => ?_, fun ends => absurd ⟨not_used, not_free⟩ ends⟩
      refine getFatEntry_then layout quiet (clusters.tail next List.mem_cons_self).entry
        fun after same => ?_
      have onward : Chain (links fat after.bytes) (next :: rest) := by
        rw [same.bytes]
        exact chain.2
      have listed := induction (list ++ [cluster]) SUCCESS onward clusters.tail
        (Nat.lt_of_succ_lt_succ enough)
      dsimp only
      rw [if_success]
      rw [chain_entryTo chain.2]
      refine listed.mono fun result final both => ⟨same.trans both.1, both.2.trans ?_⟩
      simp

theorem collectClusters_chain (layout : Layout env fat) (quiet : env.Quiet)
    (chain : Chain (links fat world.bytes) (cluster :: rest))
    (clusters : Clusters env fat (cluster :: rest)) (few : (cluster :: rest).length ≤ 255) :
    Meets (collectClusters env fat cluster) world fault
      fun result after => Same world after ∧ result.2 = some (cluster :: rest) := by
  rw [collectClusters]
  refine getFatEntry_then layout quiet (clusters cluster List.mem_cons_self).entry
    fun after same => ?_
  have onward : Chain (links fat after.bytes) (cluster :: rest) := by
    rw [same.bytes]
    exact chain
  dsimp only
  rw [if_success, chain_entryTo chain]
  exact (listClusters_chain layout quiet 255 [] SUCCESS onward clusters few).mono
    fun result final both => ⟨same.trans both.1, both.2⟩

/-- Where the driver looks for a data cluster it finds as many bytes in the volume, though
not those of the cluster if its address needs more than 32 bits. -/
theorem DataCluster.place_inside {cluster : Nat} (is_data : DataCluster env fat cluster) :
    dataClusterToAbsoluteAddress fat cluster + fat.clusterSize ≤ env.volumeSize := by
  obtain ⟨count, rfl⟩ := Nat.exists_eq_add_of_le is_data.numbered
  have inside := is_data.inside
  have narrow := is_data.narrow
  have one : 2 + count - 1 = count + 1 := by omega
  have index : (2 + count + 2 ^ 32 - 2) % 2 ^ 32 = count := by omega
  rw [one, Nat.succ_mul] at inside
  rw [dataClusterToAbsoluteAddress, index]
  have lower := Nat.mod_le (count * fat.clusterSize + fat.dataClusterStartAddress) (2 ^ 32)
  omega

theorem dataClusterToAbsoluteAddress_lt (fat : FatPrivate) (cluster : Nat) :
    dataClusterToAbsoluteAddress fat cluster < 2 ^ 32 := Nat.mod_lt _ (by decide)

/-- A cluster is read to a place in the block, or does not fit there. -/
theorem readCluster_meets (layout : Layout env fat) (quiet : env.Quiet)
    (small : fat.clusterSize < 2 ^ 24) {cluster : Nat} (is_data : DataCluster env fat cluster)
    (ret : Nat → UInt8) (capacity offset : Nat) :
    Meets (do
        let _ ← seekRead env (dataClusterToAbsoluteAddress fat cluster)
        readStream env ret capacity offset fat.clusterSize) world
      (fun fault => fault = .outOfBounds ∧ capacity < offset + fat.clusterSize)
      fun result after => Same world after ∧ offset + fat.clusterSize ≤ capacity ∧
        result = (SUCCESS, overwrite ret offset fat.clusterSize
          (slice world.bytes (dataClusterToAbsoluteAddress fat cluster))) := by
  have positive := layout.cluster
  have inside := is_data.place_inside
  have below := dataClusterToAbsoluteAddress_lt fat cluster
  have fits : (dataClusterToAbsoluteAddress fat cluster + fat.clusterSize) % 2 ^ 64 =
      dataClusterToAbsoluteAddress fat cluster + fat.clusterSize := Nat.mod_eq_of_lt (by omega)
  apply (seekRead_cases _).bind
  rintro code moved (⟨rfl, -, rfl⟩ | ⟨-, outside, -⟩)
  case inr => omega
  by_cases room : offset + fat.clusterSize ≤ capacity
  · apply (readStream_meets quiet ret capacity offset fat.clusterSize room).mono
    rintro ⟨code, bytes⟩ after ⟨same, ⟨rfl, -, rfl⟩ | ⟨-, beyond, -⟩⟩
    · exact ⟨⟨same.bytes, same.searches⟩, room, rfl⟩
    · dsimp only at beyond
      omega
  · have succeeds : ¬ env.transfer world.transfers < 0 := by
      rw [quiet]
      decide
    rw [readStream, meets_bind, meets_get, if_neg (by dsimp only; omega)]
    simp only
    rw [if_neg succeeds, if_pos (Nat.not_le.mp room)]
    exact .throw ⟨rfl, Nat.not_le.mp room⟩

/-- The second loop of `getDirEntries` leaves a block in which its last cluster does not
fit. -/
theorem readClusters_overruns (layout : Layout env fat) (quiet : env.Quiet)
    (small : fat.clusterSize < 2 ^ 24) (block : Block) (cells : List Nat) (i : Nat)
    (errCode : Code) (ret : Nat → UInt8) (some : cells ≠ []) (clusters : Clusters env fat cells)
    (few : i + cells.length ≤ 255)
    (crowded : block.capacity < (i + cells.length - 1) * fat.clusterSize * 32 + fat.clusterSize) :
    Meets (readClusters env fat block cells i errCode ret) world (· = .outOfBounds)
      fun _ _ => False := by
  induction cells generalizing i errCode ret world with
  | nil => exact absurd rfl some
  | cons cluster cells induction =>
    have place : i * fat.clusterSize % 2 ^ 32 = i * fat.clusterSize := by
      have product : i * fat.clusterSize ≤ 255 * 2 ^ 24 :=
        Nat.mul_le_mul (by omega) small.le
      exact Nat.mod_eq_of_lt (by omega)
    rw [List.length_cons] at few crowded
    rw [readClusters, ← bind_assoc, place]
    apply ((readCluster_meets layout quiet small (clusters cluster List.mem_cons_self) ret
      block.capacity (i * fat.clusterSize * 32)).mono_fault fun _ both => both.1).bind
    rintro ⟨code, bytes⟩ after ⟨same, room, -⟩
    dsimp only at room ⊢
    have last : i + (cells.length + 1) - 1 = i + cells.length := rfl
    rw [last] at crowded
    apply induction (i + 1)
    · rintro rfl
      rw [List.length_nil, Nat.add_zero] at crowded
      omega
    · exact clusters.tail
    · omega
    · have same : i + 1 + cells.length - 1 = i + cells.length := by omega
      rw [same]
      exact crowded

end WellFormedChains

/-- The buffer has the clusters of the chain one behind the other, and nothing was written
behind it. -/
def ReadsWhole (env : Environment) (fat : FatPrivate) (world : World) (cells : List Nat) : Prop :=
  ∃ entries after, (getDirEntries env fat (cells.headD 0)).run world =
      .ok ((SUCCESS, cells.length * fat.clusterSize / 32, some entries), after) ∧
    ∀ offset < cells.length * fat.clusterSize,
      entries.bytes offset = content fat world.bytes cells offset

section Whole

variable {cluster : Nat} {rest : List Nat}

/-- What `getDirEntries` does once it has listed the chain: the clusters are read to a
block with room for them. -/
theorem readCollected_meets (roomy : env.Roomy) (exact : ∀ size, env.capacity size = size)
    (small : fat.clusterSize < 2 ^ 24) {cells : List Nat} (few : cells.length ≤ 255)
    (errCode : Code) {post : Code × Nat × Option Entries → World → Prop}
    (reads : ∀ (block : Block) (after : World), Same world after →
      block.capacity = cells.length * fat.clusterSize →
      Meets (readClusters env fat block cells 0 errCode fun _ => 0) after fault fun result final =>
        post (result.1, cells.length * fat.clusterSize / 32, some ⟨block, result.2⟩) final) :
    Meets (readCollected env fat (errCode, some cells)) world fault post := by
  have size : fat.clusterSize * cells.length % 2 ^ 32 = cells.length * fat.clusterSize := by
    have product : cells.length * fat.clusterSize ≤ 255 * 2 ^ 24 :=
      Nat.mul_le_mul few small.le
    rw [Nat.mul_comm]
    exact Nat.mod_eq_of_lt (by omega)
  rw [readCollected, size]
  apply (kzalloc_meets _).bind
  rintro (_ | block) after ⟨same, refused, room⟩
  · exact absurd roomy (refused rfl)
  · apply (reads block after same ((room block rfl).trans (exact _))).bind
    rintro ⟨code, ret⟩ final holds
    exact .pure holds

end Whole

/-- The root directory in one cluster, and in two. -/
def shortDirectoryBytes : Nat → UInt8 :=
  putEntry (attachToDisk smallRecord) (fun _ => 0) 2 FAT_ENTRY_USED

def longDirectoryBytes : Nat → UInt8 :=
  putEntry (attachToDisk smallRecord) (putEntry (attachToDisk smallRecord) (fun _ => 0) 2 3) 3
    FAT_ENTRY_USED

theorem smallRecord_formatted : Formatted (plainEnvironment 82944) smallRecord := by
  constructor <;> decide

theorem smallRecord_clusters :
    Clusters (plainEnvironment 82944) (attachToDisk smallRecord) [2, 3] := by
  intro cluster member
  simp only [List.mem_cons, List.not_mem_nil, or_false] at member
  rcases member with rfl | rfl
  · constructor <;> decide
  · constructor <;> decide

end BobaOS.Fat
