import BobaOS.Fat.ReadFile

/-!
# The parts of a write

`writeFatFile` passes its input to the disk in parts, one for each cluster that it writes.
Their lengths are computed in three ways: the first one from the size of the write, the
last one from what is left, all others are that of a cluster.

Whatever the position and the size are, the parts are the input in order, and each one is
put into a cluster of the chain. The addresses of the clusters have 32 bits, so that a part
is put elsewhere if its cluster is beyond them.
-/

namespace BobaOS.Fat

open ByteStore Programs Chains

/-- A part of the input: the cluster it is put into, its place there, the number of bytes
before it and its length. -/
structure Chunk where
  cluster : Nat
  pos : Nat
  first : Nat
  length : Nat

/-- The parts that `storeClusters` puts into the clusters. -/
def chunksOf (next : Nat → Nat → Nat) : List Nat → Nat → Nat → Nat → List Chunk
  | [], _, _, _ => []
  | cluster :: rest, pos, length, written =>
    ⟨cluster, pos, written, length⟩ ::
      chunksOf next rest 0 (next rest.length (written + length)) (written + length)

/-- The bytes with the parts put to the places of their clusters, one after the other. -/
def storeChunks (place : Nat → Nat) (input : Nat → UInt8) (chunks : List Chunk)
    (bytes : Nat → UInt8) : Nat → UInt8 :=
  chunks.foldl (fun bytes chunk => overwrite bytes (place chunk.cluster + chunk.pos) chunk.length
    fun i => input (chunk.first + i)) bytes

/-- The parts are the input from a byte on up to another one, in order. -/
def Consecutive (stop : Nat) : Nat → List Chunk → Prop
  | first, [] => first = stop
  | first, chunk :: rest => chunk.first = first ∧ Consecutive stop (first + chunk.length) rest

/-- The parts of the input have been put into clusters of the chain, one for each of the
clusters that the bytes meet, and nothing else has been done to the data region. -/
structure Passed (env : Environment) (fat : FatPrivate) (before after : Nat → UInt8)
    (cells : List Nat) (size startPos : Nat) (input : Nat → UInt8) (written : List Nat)
    (chunks : List Chunk) : Prop where
  begins : (cells.take (startPos / fat.clusterSize) ++ written).head? = cells.head?
  chain : Chain (links fat after) (cells.take (startPos / fat.clusterSize) ++ written)
  clusters : Clusters env fat (cells.take (startPos / fat.clusterSize) ++ written)
  here : ∀ cluster ∈ cells[startPos / fat.clusterSize]?, written.head? = some cluster
  fresh : ∀ cluster ∈ written, cluster ∉ cells → table fat before cluster = FAT_ENTRY_FREE
  count : written.length = clustersMet fat (startPos % fat.clusterSize) size
  whole : Consecutive size 0 chunks
  placed : chunks.map Chunk.cluster = written
  inside : ∀ chunk ∈ chunks, 0 < chunk.length ∧ chunk.pos + chunk.length ≤ fat.clusterSize
  data : ∀ address, fat.dataClusterStartAddress ≤ address →
    after address = storeChunks (clusterStart fat) input chunks before address
  others : ∀ other, Chain (links fat before) other → Clusters env fat other →
    (∀ cluster ∈ other, cluster ∉ cells) → ∀ cluster ∈ other, ∀ offset < fat.clusterSize,
      after (clusterStart fat cluster + offset) = before (clusterStart fat cluster + offset)

/-- Whatever the data region holds and is to hold, the write returns 0 and has passed its
input on. -/
def PassesParts (env : Environment) (fat : FatPrivate) (bytes : Nat → UInt8) (cells : List Nat)
    (size startPos : Nat) : Prop :=
  ∀ (world : World) (fileSize : Nat) (input : Nat → UInt8),
    table fat world.bytes = table fat bytes → ∃ after written chunks,
      (writeFatFile env fat ⟨cells.headD 0, fileSize⟩ size startPos input).run world =
        .ok (SUCCESS, after) ∧
      Passed env fat world.bytes after.bytes cells size startPos input written chunks

/-- The cluster at the position has an address of 32 bits, and so have enough of those that
are free or become free. -/
structure WithinReach (env : Environment) (fat : FatPrivate) (bytes : Nat → UInt8)
    (cells : List Nat) (size startPos : Nat) : Prop where
  here : ∀ cluster ∈ cells[startPos / fat.clusterSize]?, Reached fat cluster
  spare : Spare env fat (Reached fat) bytes cells size startPos

/-! ## Parts of clusters -/

section Chunks

variable {fat : FatPrivate} {next : Nat → Nat → Nat} {input : Nat → UInt8} {size : Nat}

theorem storeClusters_chunks (place : Nat → Nat) (cells : List Nat) (pos length written : Nat)
    (bytes : Nat → UInt8) :
    storeClusters place next input cells pos length written bytes =
      storeChunks place input (chunksOf next cells pos length written) bytes := by
  induction cells generalizing pos length written bytes with
  | nil => rfl
  | cons cluster rest induction => exact induction _ _ _ _

theorem chunksOf_clusters (cells : List Nat) (pos length written : Nat) :
    (chunksOf next cells pos length written).map Chunk.cluster = cells := by
  induction cells generalizing pos length written with
  | nil => rfl
  | cons cluster rest induction => rw [chunksOf, List.map_cons, induction]

theorem chunksOf_inside (cells : List Nat) (pos length written : Nat)
    (within : Within fat next cells.length pos length written) :
    ∀ chunk ∈ chunksOf next cells pos length written,
      0 < chunk.length ∧ chunk.pos + chunk.length ≤ fat.clusterSize := by
  induction cells generalizing pos length written with
  | nil => exact fun chunk member => absurd member List.not_mem_nil
  | cons cluster rest induction =>
    obtain ⟨room, some, within⟩ := within
    intro chunk member
    rcases List.mem_cons.mp member with rfl | later
    · exact ⟨some, room⟩
    · exact induction _ _ _ within chunk later

/-- Parts that begin at their clusters are what is left of the input. -/
theorem Parts.consecutive (parts : Parts fat size next) (cells : List Nat) (written : Nat)
    (some : (cells.length - 1) * fat.clusterSize < size - written)
    (enough : size - written ≤ cells.length * fat.clusterSize) :
    Consecutive size written
      (chunksOf next cells 0 (part fat size cells.length written) written) := by
  induction cells generalizing written with
  | nil =>
    rw [List.length_nil, Nat.zero_mul] at enough
    omega
  | cons cluster rest induction =>
    rw [List.length_cons, Nat.add_sub_cancel] at some
    rw [List.length_cons, Nat.succ_mul] at enough
    refine ⟨rfl, ?_⟩
    dsimp only
    cases rest with
    | nil =>
      rw [part, if_pos List.length_singleton]
      exact Nat.add_sub_cancel' (by omega)
    | cons second rest =>
      have longer : (second :: rest).length + 1 ≠ 1 := by simp
      rw [List.length_cons, part, if_neg longer]
      rw [List.length_cons, Nat.succ_mul] at some
      have still_some : ((second :: rest).length - 1) * fat.clusterSize <
          size - (written + fat.clusterSize) := by
        rw [List.length_cons, Nat.add_sub_cancel]
        omega
      have still_enough : size - (written + fat.clusterSize) ≤
          (second :: rest).length * fat.clusterSize := by omega
      rw [parts.next_eq (by omega) still_enough]
      exact induction _ still_some still_enough

/-- The first part may have any length that leaves as much as the others hold. -/
theorem Parts.consecutive_first (parts : Parts fat size next) (cluster pos length : Nat)
    (rest : List Nat) (alone : rest.length = 0 → length = size)
    (left : rest.length ≠ 0 → (rest.length - 1) * fat.clusterSize < size - length ∧
      size - length ≤ rest.length * fat.clusterSize) :
    Consecutive size 0 (chunksOf next (cluster :: rest) pos length 0) := by
  refine ⟨rfl, ?_⟩
  dsimp only
  rw [Nat.zero_add]
  cases rest with
  | nil => exact alone rfl
  | cons second rest =>
    obtain ⟨some_left, enough_left⟩ := left (Nat.succ_ne_zero _)
    rw [parts.next_eq (Nat.zero_lt_of_lt some_left) enough_left]
    exact parts.consecutive _ _ some_left enough_left

theorem storeChunks_congr {place other : Nat → Nat} (chunks : List Chunk)
    (same : ∀ chunk ∈ chunks, place chunk.cluster = other chunk.cluster) (bytes : Nat → UInt8) :
    storeChunks place input chunks bytes = storeChunks other input chunks bytes := by
  induction chunks generalizing bytes with
  | nil => rfl
  | cons chunk rest induction =>
    rw [storeChunks, List.foldl_cons, same chunk List.mem_cons_self]
    exact induction (fun chunk member => same chunk (List.mem_cons_of_mem _ member)) _

/-- Bytes outside all parts are left. -/
theorem storeChunks_outside {place : Nat → Nat} (chunks : List Chunk) (bytes : Nat → UInt8)
    {address : Nat} (outside : ∀ chunk ∈ chunks, address < place chunk.cluster + chunk.pos ∨
      place chunk.cluster + chunk.pos + chunk.length ≤ address) :
    storeChunks place input chunks bytes address = bytes address := by
  induction chunks generalizing bytes with
  | nil => rfl
  | cons chunk rest induction =>
    rw [storeChunks, List.foldl_cons]
    refine (induction _ fun chunk member => outside chunk (List.mem_cons_of_mem _ member)).trans ?_
    exact overwrite_outside _ _ _ _ _ (outside chunk List.mem_cons_self)

end Chunks

variable {env : Environment} {fat : FatPrivate} {world : World}

/-! ## Clusters with addresses of 32 bits -/

/-- What the driver does to a cluster with such an address it does to its bytes. -/
theorem reached_reachable (env : Environment) (fat : FatPrivate) :
    Reachable env fat fun cluster => DataCluster env fat cluster ∧ Reached fat cluster where
  is_data _ both := both.1
  addressed cluster both := by
    rw [Addressed, both.1.reached.mpr both.2]
    exact Nat.le_add_right _ _
  inVolume cluster both := by
    rw [InVolume, both.1.reached.mpr both.2]
    exact both.1.whole
  lower cluster other both numbered below := by
    refine ⟨both.1.lower numbered below, Nat.lt_of_le_of_lt ?_ both.2⟩
    exact Nat.add_le_add_left (Nat.mul_le_mul_right _ (Nat.sub_le_sub_right below 2)) _

section Forward

variable {bytes after : Nat → UInt8} {cells grown : List Nat} {size startPos cluster : Nat}
  {input : Nat → UInt8}

/-- Another content of the data region is of no importance for the domain. -/
theorem Growable.congr (growable : Growable env fat bytes cells size startPos)
    {other : Nat → UInt8} (same : table fat other = table fat bytes) :
    Growable env fat other cells size startPos where
  chain := growable.chain.congr fun cluster _ => congrArg decode (congrFun same cluster)
  clusters := growable.clusters
  inside := growable.inside
  some := growable.some
  marks entry mark := by
    obtain ⟨cluster, member⟩ := List.exists_mem_of_ne_nil cells growable.chain.ne_nil
    have is_data := growable.clusters cluster member
    have numbered := is_data.numbered
    have entries := is_data.entry
    have inside : 4 * entry + 4 ≤ fat.fatSize := by omega
    rw [← table_eq _ inside, same, table_eq _ inside]
    exact growable.marks entry mark
  enough := by
    rw [Spare, same]
    exact growable.enough

/-- The cluster of a part is one of those written. -/
theorem chunk_cluster {next : Nat → Nat → Nat} {pos length written : Nat} {chunk : Chunk}
    (member : chunk ∈ chunksOf next cells pos length written) : chunk.cluster ∈ cells := by
  have mapped := List.mem_map_of_mem (f := Chunk.cluster) member
  rwa [chunksOf_clusters] at mapped

/-- What the write of a chain comes to, in terms of its parts. -/
theorem Grown.passed (smallest : 512 ≤ fat.clusterSize) (largest : fat.clusterSize ≤ 32768)
    (growable : Growable env fat bytes cells size startPos)
    (ended : Grown env fat (fun cluster => DataCluster env fat cluster ∧ Reached fat cluster) bytes
      after cells size startPos input cluster grown) :
    Passed env fat bytes after cells size startPos input (cluster :: grown)
      (chunksOf (nextWrite fat size) (cluster :: grown) (startPos % fat.clusterSize)
        (firstWrite fat size (startPos % fat.clusterSize)) 0) := by
  have positive : 0 < fat.clusterSize := Nat.lt_of_lt_of_le (by decide) smallest
  have near := Nat.mod_lt startPos positive
  have parts := nextWrite_parts positive largest (growable.narrow positive largest)
  obtain ⟨room, some, left⟩ := firstWrite_parts smallest largest growable.some _ near
  have counted : clustersMet fat (startPos % fat.clusterSize) size - 1 = grown.length := by
    rw [← ended.count, Nat.add_sub_cancel]
  rw [counted] at left
  have inside := chunksOf_inside (cluster :: grown) _ _ _
    (parts.within_first positive room some left)
  have data (address : Nat) (behind : fat.dataClusterStartAddress ≤ address) :
      after address = storeChunks (clusterStart fat) input
        (chunksOf (nextWrite fat size) (cluster :: grown) (startPos % fat.clusterSize)
          (firstWrite fat size (startPos % fat.clusterSize)) 0) bytes address := by
    rw [ended.data address behind, storeClusters_chunks]
    refine congrFun (storeChunks_congr _ (fun chunk member => ?_) _) _
    obtain ⟨is_data, reached⟩ := ended.kinds _ (chunk_cluster member)
    exact is_data.reached.mpr reached
  constructor
  · have here := ended.here
    obtain ⟨head, rest, rfl⟩ := List.exists_cons_of_ne_nil growable.chain.ne_nil
    cases position : startPos / fat.clusterSize with
    | zero =>
      rw [position] at here
      exact congrArg Option.some here.symm
    | succ skip => rfl
  · exact ended.regrown.chained
  · intro other member
    rcases List.mem_append.mp member with kept | new
    · exact growable.clusters other (List.mem_of_mem_take kept)
    · exact (ended.kinds other new).1
  · intro first is_first
    have here := ended.here
    rw [List.getD_eq_getElem?_getD, Option.mem_def.mp is_first, Option.getD_some] at here
    rw [here, List.head?_cons]
  · exact fun other member new =>
      (ended.regrown.fresh other (List.mem_append_right _ member) new).2
  · exact ended.count
  · refine parts.consecutive_first _ _ _ _ (fun alone => ?_) left
    have single := (clustersMet_bounds (startPos % fat.clusterSize) positive growable.some).2.2
    rw [← ended.count, alone, Nat.zero_add, Nat.one_mul] at single
    exact firstWrite_single smallest largest growable.some near single
  · exact chunksOf_clusters _ _ _ _
  · exact inside
  · exact data
  · intro other chain clusters apart here member offset small
    have is_data := clusters here member
    have not_written : here ∉ cluster :: grown := fun new => chain_entry chain member
      (ended.regrown.fresh here (List.mem_append_right _ new) (apart here member)).2
    have behind : fat.dataClusterStartAddress ≤ clusterStart fat here + offset :=
      (Nat.le_add_right _ _).trans (Nat.le_add_right _ _)
    rw [data _ behind]
    refine storeChunks_outside _ _ fun chunk chunk_member => ?_
    have written := chunk_cluster chunk_member
    have chunk_data := (ended.kinds _ written).1
    obtain ⟨-, fits⟩ := inside chunk chunk_member
    have different : here ≠ chunk.cluster := fun same => not_written (same ▸ written)
    rcases clusterStart_apart fat is_data.numbered chunk_data.numbered different with
      before | later
    · exact .inl (by omega)
    · exact .inr (by omega)

/-- A write within reach passes its input on. -/
theorem WithinReach.passes (layout : Layout env fat) (quiet : env.Quiet) (fitting : env.Fitting)
    (roomy : env.Roomy) (smallest : 512 ≤ fat.clusterSize) (largest : fat.clusterSize ≤ 32768)
    (growable : Growable env fat bytes cells size startPos)
    (reach : WithinReach env fat bytes cells size startPos) :
    PassesParts env fat bytes cells size startPos := by
  intro world fileSize input same
  obtain ⟨head, rest, rfl⟩ := List.exists_cons_of_ne_nil growable.chain.ne_nil
  have there := growable.congr same
  have spare : Spare env fat (fun cluster => DataCluster env fat cluster ∧ Reached fat cluster)
      world.bytes (head :: rest) size startPos := by
    obtain ⟨spare, enough, shown⟩ := reach.spare
    refine ⟨spare, enough, fun cluster member => ?_⟩
    obtain ⟨is_data, reached, available⟩ := shown cluster member
    rw [same]
    exact ⟨is_data, ⟨is_data, reached⟩, available⟩
  have here (cluster : Nat) (member : cluster ∈ (head :: rest)[startPos / fat.clusterSize]?) :
      DataCluster env fat cluster ∧ Reached fat cluster :=
    ⟨growable.clusters cluster (List.mem_of_getElem? member), reach.here cluster member⟩
  have ran : Meets (writeFatFile env fat ⟨head, fileSize⟩ size startPos input) world _ _ :=
    there.grown input layout quiet fitting smallest largest (reached_reachable env fat) here spare
  obtain ⟨ret, after, returned, rfl, cluster, grown, ended⟩ :=
    (ran.mono_fault fun _ heap => heap.2 roomy).returns
  exact ⟨after, _, _, returned, ended.passed smallest largest there⟩

end Forward

/-! ## Bytes that no write comes to -/

variable {α β : Type} {bound : Nat}

/-- The program leaves the bytes from a place on, even where it goes wrong. -/
def Leaves (bound : Nat) (program : M α) : Prop :=
  ∀ world, Meets program world (fun _ => True) fun _ after =>
    ∀ address, bound ≤ address → after.bytes address = world.bytes address

theorem Leaves.pure (value : α) : Leaves bound (pure value : M α) :=
  fun _ => .pure fun _ _ => rfl

theorem Leaves.throw (fault : Fault) : Leaves bound (throw fault : M α) := fun _ => .throw trivial

theorem Leaves.bind {program : M α} {next : α → M β} (first : Leaves bound program)
    (second : ∀ value, Leaves bound (next value)) : Leaves bound (program >>= next) := by
  intro world
  apply (first world).bind
  intro value between left
  exact (second value between).mono fun _ _ still address behind =>
    (still address behind).trans (left address behind)

theorem Leaves.ite {condition : Prop} [Decidable condition] {program other : M α}
    (first : condition → Leaves bound program) (second : ¬ condition → Leaves bound other) :
    Leaves bound (if condition then program else other) := by
  split
  · exact first ‹_›
  · exact second ‹_›

/-- A check for an error code. -/
theorem Leaves.check {program : M α} {ret : Code} {final : α}
    (rest : 0 ≤ ret → Leaves bound program) :
    Leaves bound (if ret < 0 then Pure.pure final else program) :=
  .ite (fun _ => .pure _) fun passed => rest (Int.not_lt.mp passed)

theorem leaves_getFatEntry (entry : Nat) : Leaves bound (getFatEntry env fat entry) := by
  refine .bind (fun world => ?_) fun ret => .ite (fun _ => .pure _) fun _ => ?_
  · exact (seekRead_meets _).mono fun _ _ met _ _ => congrFun met.1.bytes _
  · refine .bind (fun world => ?_) fun result => .ite (fun _ => .pure _) fun _ => .pure _
    refine (readStream_cases _ _ _ _ (by decide)).mono ?_
    rintro result after (⟨-, -, rfl⟩ | ⟨-, -, rfl⟩ | ⟨-, -, -, rfl⟩) address -
    all_goals rfl

theorem leaves_search (quiet : env.Quiet) (fitting : env.Fitting) (narrow : fat.fatAddress < 2 ^ 32)
    {errCode : Code} (nonnegative : 0 ≤ errCode) :
    Leaves bound (getFreeFatEntryCluster env fat errCode) := fun _ =>
  ((getFreeFatEntryCluster_meets quiet fitting narrow nonnegative).mono_fault fun _ _ => trivial).mono
    fun _ _ met _ _ => congrFun met.1 _

/-- A write that ends before the place. -/
theorem leaves_writeAt (quiet : env.Quiet) {position length : Nat} (input : Nat → UInt8)
    {final : Code → α} {next : Code → M α} (ends : position + length ≤ bound)
    (rest : ∀ ret, Leaves bound (next ret)) :
    Leaves bound (seekWrite env position >>= fun ret =>
      if ret < 0 then Pure.pure (final ret) else writeStream env input length >>= next) := by
  intro world
  apply (seekWrite_cases _).bind
  rintro ret moved (⟨rfl, -, rfl⟩ | ⟨rfl, -, rfl⟩)
  · rw [if_success]
    apply (writeStream_meets quiet _ _).bind
    rintro ret written ⟨-, ⟨-, -, bytes⟩ | ⟨-, -, bytes⟩⟩
    all_goals
      refine (rest ret written).mono fun _ after left address behind => ?_
      rw [left address behind, bytes]
    exact overwrite_outside _ _ _ _ _ (.inr (ends.trans behind))
  · rw [if_refused]
    exact .pure fun _ _ => rfl

/-- The last words that an entry is written to are before the first address that does not
fit into 32 bits. -/
theorem leaves_writeFATEntry (quiet : env.Quiet) (wide : 2 ^ 32 ≤ bound)
    (first : 4 ∣ fat.fatAddress) (second : 4 ∣ fat.fatCopyStartAddress) (cluster value : Nat) :
    Leaves bound (writeFATEntry env fat cluster value) := by
  have ends {start : Nat} (aligned : 4 ∣ start) : (start + 4 * cluster) % 2 ^ 32 + 4 ≤ bound := by
    omega
  rw [writeFATEntry]
  refine leaves_writeAt quiet _ (ends first) fun ret => .check fun _ => ?_
  rw [← bind_pure (writeStream env (wordBytes value) 4)]
  exact leaves_writeAt quiet _ (ends second) .pure

theorem leaves_unlinkFatChain (quiet : env.Quiet) (wide : 2 ^ 32 ≤ bound)
    (first : 4 ∣ fat.fatAddress) (second : 4 ∣ fat.fatCopyStartAddress) (cluster : Nat) :
    Leaves bound (unlinkFatChain env fat cluster) := by
  have entries (fuel entry : Nat) : Leaves bound (unlinkEntries env fat fuel entry) := by
    induction fuel generalizing entry with
    | zero => exact .throw _
    | succ fuel induction =>
      refine .ite (fun _ => ?_) fun _ => .pure _
      refine (leaves_getFatEntry _).bind fun (ret, entry) => .check fun _ => ?_
      refine (leaves_writeFATEntry quiet wide first second _ _).bind fun ret => .check fun _ => ?_
      exact induction _
  refine (leaves_getFatEntry _).bind fun (ret, entry) => .check fun _ => ?_
  refine (entries _ _).bind fun ret => .check fun _ => ?_
  exact leaves_writeFATEntry quiet wide first second _ _

theorem leaves_findStartCluster (quiet : env.Quiet) (fitting : env.Fitting)
    (narrow : fat.fatAddress < 2 ^ 32) (wide : 2 ^ 32 ≤ bound) (first : 4 ∣ fat.fatAddress)
    (second : 4 ∣ fat.fatCopyStartAddress) (startCluster startPos : Nat) :
    Leaves bound (findStartCluster env fat startCluster startPos) := by
  have skips (count fatEntry oldCluster : Nat) :
      Leaves bound (skipClusters env fat count fatEntry oldCluster) := by
    induction count generalizing fatEntry oldCluster with
    | zero => exact .pure _
    | succ count induction =>
      refine (leaves_getFatEntry _).bind fun (ret, entry) => .check fun _ => ?_
      exact .ite (fun _ => .pure _) fun _ => induction _ _
  refine (skips _ _ _).bind fun result => ?_
  rcases result with ret | ⟨clustersToSkip, fatEntry, oldCluster⟩
  · exact .pure _
  refine .ite (fun _ => ?_) fun _ => .ite (fun _ => .pure _) fun _ => .pure _
  refine (leaves_search quiet fitting narrow (le_refl _)).bind fun (ret, new) => .check fun _ => ?_
  refine (leaves_writeFATEntry quiet wide first second _ _).bind fun ret => .check fun _ => ?_
  exact (leaves_writeFATEntry quiet wide first second _ _).bind fun ret => .check fun _ => .pure _

/-- The driver's address of any cluster is that of a whole cluster before the place, if that
is where one begins and cluster sizes divide `2 ^ 32`. -/
theorem address_ends (wide : 2 ^ 32 ≤ bound) (divides : fat.clusterSize ∣ 2 ^ 32)
    (begins : ∃ count, bound = fat.dataClusterStartAddress + count * fat.clusterSize)
    (cluster : Nat) : dataClusterToAbsoluteAddress fat cluster + fat.clusterSize ≤ bound := by
  obtain ⟨count, begins⟩ := begins
  obtain ⟨each, same⟩ := divides
  generalize index : (cluster + 2 ^ 32 - 2) % 2 ^ 32 = number
  have below : dataClusterToAbsoluteAddress fat cluster < 2 ^ 32 := Nat.mod_lt _ (by decide)
  have whole := Nat.div_add_mod (number * fat.clusterSize + fat.dataClusterStartAddress) (2 ^ 32)
  rw [dataClusterToAbsoluteAddress, index] at below ⊢
  generalize (number * fat.clusterSize + fat.dataClusterStartAddress) / 2 ^ 32 = laps at whole
  generalize (number * fat.clusterSize + fat.dataClusterStartAddress) % 2 ^ 32 = address
    at whole below ⊢
  have lapped : 2 ^ 32 * laps = laps * each * fat.clusterSize := by
    rw [same, Nat.mul_comm, Nat.mul_comm fat.clusterSize, Nat.mul_assoc]
  have fewer : number * fat.clusterSize < (laps * each + count) * fat.clusterSize := by
    rw [Nat.add_mul]
    omega
  have next := Nat.mul_le_mul_right fat.clusterSize
    (Nat.succ_le_of_lt (Nat.lt_of_mul_lt_mul_right fewer))
  rw [Nat.succ_mul, Nat.add_mul] at next
  omega

theorem leaves_writeClusters (quiet : env.Quiet) (fitting : env.Fitting)
    (narrow : fat.fatAddress < 2 ^ 32) (wide : 2 ^ 32 ≤ bound) (first : 4 ∣ fat.fatAddress)
    (second : 4 ∣ fat.fatCopyStartAddress)
    (ends : ∀ cluster, dataClusterToAbsoluteAddress fat cluster + fat.clusterSize ≤ bound)
    (size : Nat) (input : Nat → UInt8) (left : Nat) (ret : Code)
    (cluster old pos length written : Nat)
    (within : Within fat (nextWrite fat size) left pos length written) :
    Leaves bound (writeClusters env fat size input left ret cluster old pos length written) := by
  induction left generalizing ret cluster old pos length written with
  | zero => exact .pure _
  | succ left induction =>
    obtain ⟨room, -, within⟩ := within
    have before := ends cluster
    rw [writeClusters]
    refine leaves_writeAt quiet _ (by omega) fun ret => .check fun _ => ?_
    refine (leaves_getFatEntry _).bind ?_
    rintro ⟨ret, next⟩
    refine .check fun passed => ?_
    refine .ite (fun _ => ?_) fun _ => induction _ _ _ _ _ _ within
    refine (leaves_search quiet fitting narrow passed).bind ?_
    rintro ⟨ret, new⟩
    refine .check fun _ => ?_
    refine (leaves_writeFATEntry quiet wide first second _ _).bind fun _ => ?_
    exact (leaves_writeFATEntry quiet wide first second _ _).bind fun _ =>
      induction _ _ _ _ _ _ within

/-! ## Where the parts have to be put -/

section Backward

variable {bytes : Nat → UInt8} {cells : List Nat} {size startPos : Nat}

/-- A constant input is where any of its parts is. -/
theorem storeChunks_constant {place : Nat → Nat} (value : UInt8) (chunks : List Chunk)
    (bytes : Nat → UInt8) {address : Nat}
    (shown : (∃ chunk ∈ chunks, place chunk.cluster + chunk.pos ≤ address ∧
      address < place chunk.cluster + chunk.pos + chunk.length) ∨ bytes address = value) :
    storeChunks place (fun _ => value) chunks bytes address = value := by
  induction chunks generalizing bytes with
  | nil => exact shown.resolve_left fun ⟨_, member, _⟩ => absurd member List.not_mem_nil
  | cons chunk rest induction =>
    rw [storeChunks, List.foldl_cons]
    refine induction _ ?_
    by_cases here : place chunk.cluster + chunk.pos ≤ address ∧
        address < place chunk.cluster + chunk.pos + chunk.length
    · exact .inr (overwrite_inside _ _ _ _ _ here)
    · rw [overwrite_outside _ _ _ _ _ (by omega)]
      refine shown.imp_left ?_
      rintro ⟨other, member, covers⟩
      rcases List.mem_cons.mp member with rfl | later
      · exact absurd covers here
      · exact ⟨other, later, covers⟩

/-- The bytes of a volume without those of the data region. -/
def blankData (fat : FatPrivate) (bytes : Nat → UInt8) (address : Nat) : UInt8 :=
  if fat.dataClusterStartAddress ≤ address then 0 else bytes address

theorem table_blankData (layout : Layout env fat) (bytes : Nat → UInt8) :
    table fat (blankData fat bytes) = table fat bytes := by
  funext cluster
  have copy := layout.copy
  have data := layout.data
  rw [table, table]
  split
  · have same : readWord (blankData fat bytes) (fat.fatAddress + 4 * cluster) =
        readWord bytes (fat.fatAddress + 4 * cluster) :=
      readWord_congr fun offset inside => if_neg (by omega)
    rw [entryAt, entryAt, same]
  · rfl

/-- The clusters of parts that are all passed on have addresses of 32 bits. -/
theorem PassesParts.reached (layout : Layout env fat) (quiet : env.Quiet) (fitting : env.Fitting)
    (smallest : 512 ≤ fat.clusterSize) (largest : fat.clusterSize ≤ 32768)
    (divides : fat.clusterSize ∣ 2 ^ 32) (first : 4 ∣ fat.fatAddress)
    (second : 4 ∣ fat.fatCopyStartAddress)
    (growable : Growable env fat bytes cells size startPos) {world after : World} {fileSize : Nat}
    {written : List Nat} {chunks : List Chunk} (blank : world.bytes = blankData fat bytes)
    (ran : (writeFatFile env fat ⟨cells.headD 0, fileSize⟩ size startPos fun _ => 1).run world =
      .ok (SUCCESS, after))
    (passed : Passed env fat world.bytes after.bytes cells size startPos (fun _ => 1) written
      chunks) : ∀ cluster ∈ written, Reached fat cluster := by
  intro cluster member
  by_contra beyond
  have positive := layout.cluster
  have near := Nat.mod_lt startPos positive
  have narrow : fat.fatAddress < 2 ^ 32 := by
    have copy := layout.copy
    have data := layout.data
    have below := layout.narrow
    omega
  obtain ⟨room, some, left⟩ := firstWrite_parts smallest largest growable.some _ near
  have within := (nextWrite_parts positive largest
    (growable.narrow positive largest)).within_first positive room some left
  rw [Nat.sub_add_cancel (clustersMet_bounds _ positive growable.some).1,
    ← (growable.needed positive largest).1] at within
  have wide : 2 ^ 32 ≤ clusterStart fat cluster := Nat.not_lt.mp beyond
  have ends := address_ends wide divides ⟨cluster - 2, rfl⟩
  have leaves : Leaves (clusterStart fat cluster)
      (writeFatFile env fat ⟨cells.headD 0, fileSize⟩ size startPos fun _ => 1) := by
    refine (leaves_findStartCluster quiet fitting narrow wide first second _ _).bind fun result => ?_
    rcases result with ret | startCluster
    · exact .pure _
    refine (leaves_unlinkFatChain quiet wide first second _).bind fun ret => .check fun _ => ?_
    exact leaves_writeClusters quiet fitting narrow wide first second ends _ _ _ _ _ _ _ _ _ within
  rw [← passed.placed] at member
  obtain ⟨chunk, is_chunk, rfl⟩ := List.mem_map.mp member
  have behind : fat.dataClusterStartAddress ≤ clusterStart fat chunk.cluster + chunk.pos :=
    (Nat.le_add_right _ _).trans (Nat.le_add_right _ _)
  have stored : after.bytes (clusterStart fat chunk.cluster + chunk.pos) = 1 := by
    rw [passed.data _ behind]
    refine storeChunks_constant 1 chunks _ (.inl ⟨chunk, is_chunk, le_refl _, ?_⟩)
    exact Nat.lt_add_of_pos_right (passed.inside chunk is_chunk).1
  have untouched := (leaves world).returned ran _ (Nat.le_add_right _ chunk.pos)
  rw [stored, blank, blankData, if_pos behind] at untouched
  exact absurd untouched (by decide)

/-- Only a write within reach passes its input on. -/
theorem PassesParts.withinReach (layout : Layout env fat) (quiet : env.Quiet)
    (fitting : env.Fitting) (smallest : 512 ≤ fat.clusterSize) (largest : fat.clusterSize ≤ 32768)
    (divides : fat.clusterSize ∣ 2 ^ 32) (first : 4 ∣ fat.fatAddress)
    (second : 4 ∣ fat.fatCopyStartAddress)
    (growable : Growable env fat bytes cells size startPos)
    (passes : PassesParts env fat bytes cells size startPos) :
    WithinReach env fat bytes cells size startPos := by
  obtain ⟨after, written, chunks, ran, passed⟩ :=
    passes (freshWorld (blankData fat bytes)) 0 (fun _ => 1) (table_blankData layout bytes)
  have reached := PassesParts.reached layout quiet fitting smallest largest divides first second
    growable rfl ran passed
  have distinct := passed.chain.nodup
  obtain ⟨-, new_distinct, apart⟩ := List.nodup_append.mp distinct
  constructor
  · intro cluster here
    exact reached cluster (List.mem_of_mem_head? (passed.here cluster here))
  -- The clusters behind the one at the position are the spare ones.
  · refine ⟨(written.drop (if startPos / fat.clusterSize < cells.length then 1 else 0)).toFinset,
      ?_, fun cluster member => ?_⟩
    · rw [List.toFinset_card_of_nodup (new_distinct.sublist (List.drop_sublist _ _)),
        List.length_drop, passed.count]
    rw [List.mem_toFinset] at member
    have new := List.mem_of_mem_drop member
    refine ⟨passed.clusters cluster (List.mem_append_right _ new), reached cluster new, ?_⟩
    by_cases old : cluster ∈ cells
    · refine .inr ?_
      rw [← List.take_append_drop (startPos / fat.clusterSize + 1) cells] at old
      refine (List.mem_append.mp old).resolve_left fun kept => ?_
      rw [List.take_add_one] at kept
      rcases List.mem_append.mp kept with before | at_position
      · exact apart cluster before cluster new rfl
      · have is_here := Option.mem_toList.mp at_position
        have index : startPos / fat.clusterSize < cells.length := by
          by_contra outside
          rw [List.getElem?_eq_none (Nat.not_lt.mp outside)] at is_here
          exact absurd is_here (Option.not_mem_none _)
        obtain ⟨tail, rfl⟩ := List.head?_eq_some_iff.mp (passed.here cluster is_here)
        rw [if_pos index] at member
        exact (List.nodup_cons.mp new_distinct).1 member
    · have free := passed.fresh cluster new old
      have same : table fat (freshWorld (blankData fat bytes)).bytes = table fat bytes :=
        table_blankData layout bytes
      rw [same] at free
      exact .inl free

end Backward

/-- A large volume with the two marks and a file that has the cluster 131040. -/
def beyondBytes : Nat → UInt8 :=
  putEntry (attachToDisk largeRecord)
    (putEntry (attachToDisk largeRecord)
      (putEntry (attachToDisk largeRecord) (fun _ => 0) 0 0x0FFFFFF8) 1 FAT_ENTRY_USED) 131040
    FAT_ENTRY_USED

end BobaOS.Fat
