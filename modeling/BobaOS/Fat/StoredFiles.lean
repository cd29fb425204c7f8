import BobaOS.Library.FileStores
import BobaOS.Fat.ReadFile

/-!
# Files that are kept

Files are created, written and read again on one volume, in any order. Each of them is a chain
of clusters behind one FAT that they share; together they are a store of byte strings, as long
as the accesses keep clear of what the driver gets wrong: a write whose first part does not
fit, a read whose parts do not, and clusters that the search misses or addresses do not reach.
The size of a file is the one that `writeFile` puts into its directory entry.
-/

namespace BobaOS.Fat

open ByteStore Programs Chains Runs FileStores

variable {env : Environment} {fat : FatPrivate} {world : World} {fault : Fault → Prop}

/-! ## What a read leaves and shows -/

section Reads

variable {bytes : Nat → UInt8} {cells : List Nat} {size filePos fileSize : Nat}
  {ptr : Nat → UInt8}

/-- The bytes of the volume are these. -/
def Kept (bytes : Nat → UInt8) (world : World) : Prop := world.bytes = bytes

theorem kept_seekRead (position : Nat) :
    Triple (Kept bytes) (seekRead env position) fun _ => Kept bytes := by
  intro world kept
  apply (seekRead_meets position).mono
  exact fun _ after met => met.1.bytes.trans kept

theorem kept_readStream (out : Nat → UInt8) (capacity offset length : Nat) :
    Triple (Kept bytes) (readStream env out capacity offset length) fun _ => Kept bytes := by
  intro world kept
  rw [readStream, meets_bind, meets_get, meets_ite]
  refine ⟨fun _ => .pure kept, fun _ => ?_⟩
  rw [meets_ite]
  constructor
  · intro _
    rw [meets_bind, meets_set, meets_pure]
    exact kept
  · intro _
    rw [meets_ite]
    refine ⟨fun _ => .throw trivial, fun _ => ?_⟩
    rw [meets_bind, meets_set, meets_pure]
    exact kept

theorem kept_getFatEntry (entry : Nat) :
    Triple (Kept bytes) (getFatEntry env fat entry) fun _ => Kept bytes := by
  refine (kept_seekRead _).bind fun ret => .ite (fun _ => .pure fun _ => id) fun _ => ?_
  exact (kept_readStream _ _ _ _).bind fun result =>
    .ite (fun _ => .pure fun _ => id) fun _ => .pure fun _ => id

theorem kept_skipRead (count cluster : Nat) (ret : Code) :
    Triple (Kept bytes) (skipRead env fat count cluster ret) fun _ => Kept bytes := by
  induction count generalizing cluster ret with
  | zero => exact .pure fun _ => id
  | succ count ih =>
    exact (kept_getFatEntry cluster).bind fun result =>
      .ite (fun _ => .pure fun _ => id) fun _ => ih _ _

theorem kept_readParts (left cluster pos length total : Nat) (ret : Code) (ptr : Nat → UInt8) :
    Triple (Kept bytes) (readParts env fat size filePos left cluster pos length total ret ptr)
      fun _ => Kept bytes := by
  induction left generalizing cluster pos length total ret ptr with
  | zero => exact .pure fun _ => id
  | succ left ih =>
    refine .ite (fun _ => .pure fun _ => id) fun _ => ?_
    refine (kept_seekRead _).bind fun ret => .ite (fun _ => .pure fun _ => id) fun _ => ?_
    refine (kept_readStream _ _ _ _).bind fun result =>
      .ite (fun _ => .pure fun _ => id) fun _ => ?_
    exact (kept_getFatEntry _).bind fun entry =>
      .ite (fun _ => .pure fun _ => id) fun _ => ih _ _ _ _ _ _

theorem kept_readFatFile (file : FatFile) (ptr : Nat → UInt8) :
    Triple (Kept bytes) (readFatFile env fat file size filePos ptr) fun _ => Kept bytes :=
  (kept_skipRead _ _ _).bind fun _ =>
    .ite (fun _ => .pure fun _ => id) fun _ => kept_readParts _ _ _ _ _ _ _

/-- A read that fits returns 0 with the content from its position on. -/
theorem readFatFile_shows (layout : Layout env fat) (quiet : env.Quiet)
    (small : fat.clusterSize < 2 ^ 24) (chain : Chain (links fat world.bytes) cells)
    (clusters : Clusters env fat cells) (inside : filePos + size ≤ cells.length * fat.clusterSize)
    (fits : ReadFits fat cells size filePos) :
    Meets (readFatFile env fat ⟨cells.headD 0, fileSize⟩ size filePos ptr) world (fun _ => False)
      fun result after => (result.1 = SUCCESS ∧
        firsts result.2 size = firsts (slice (content fat world.bytes cells) filePos) size) ∧
        after.bytes = world.bytes := by
  have counted : cells.length ≤ 2 ^ 28 := clusters.length_le chain.nodup
  have volume : cells.length * fat.clusterSize ≤ 2 ^ 28 * 2 ^ 24 := Nat.mul_le_mul counted small.le
  have kept : ∀ post : Code × (Nat → UInt8) → World → Prop,
      Meets (readFatFile env fat ⟨cells.headD 0, fileSize⟩ size filePos ptr) world (fun _ => False)
        post →
      Meets (readFatFile env fat ⟨cells.headD 0, fileSize⟩ size filePos ptr) world (fun _ => False)
        fun result after => post result after ∧ after.bytes = world.bytes := by
    intro post meets
    obtain ⟨result, after, ran, holds⟩ := meets.returns
    exact meets_of_run ran ⟨holds, (kept_readFatFile _ _ world rfl).returned ran⟩
  rcases Nat.eq_zero_or_pos size with rfl | some
  · have none : clustersToRead fat 0 = 0 := by simp [clustersToRead]
    have few : filePos / fat.clusterSize ≤ cells.length :=
      Nat.div_le_of_le_mul (by rw [Nat.mul_comm]; omega)
    have read : Meets (readFatFile env fat ⟨cells.headD 0, fileSize⟩ 0 filePos ptr) world _ _ :=
      readFatFile_meets layout quiet small chain.ne_nil chain clusters few
        (none.trans_le (Nat.zero_le _))
    rw [visited, none, List.take_zero] at read
    apply kept
    exact (read.mono_fault fun _ not => not trivial).mono fun result after both =>
      ⟨both.2 trivial, rfl⟩
  · obtain ⟨first, rest, split, long, -⟩ := met_clusters layout.cluster some inside
    have dropped : Clusters env fat (first :: rest) := by
      rw [← split]
      exact fun cluster member => clusters cluster (List.mem_of_mem_drop member)
    rw [readFits_iff some split] at fits
    obtain ⟨placed, shows⟩ : _ ∧ ShowsContent fat world.bytes first rest size filePos ptr :=
      fits.shows layout some small (by omega) long dropped
    have read : Meets (readFatFile env fat ⟨cells.headD 0, fileSize⟩ size filePos ptr) world _ _ :=
      readFatFile_same layout quiet small chain clusters some split long (by omega) rfl
    apply kept
    refine (read.mono_fault fun _ not => not placed).mono fun result after both => ?_
    have success := both.2 placed
    refine ⟨success, firsts_congr fun offset before => ?_⟩
    rw [both.1 success, shows _ rfl offset before, slice_apply, content_met layout.cluster split]
    rfl

end Reads

/-! ## Where a file is kept -/

theorem Near.reached (positive : 0 < fat.clusterSize) {cluster : Nat}
    (near : Near env fat cluster) : Reached fat cluster := by
  obtain ⟨count, rfl⟩ := Nat.exists_eq_add_of_le near.is_data.numbered
  have below := near.below
  have one : 2 + count - 1 = count + 1 := by omega
  rw [one, Nat.succ_mul] at below
  rw [Reached, clusterStart, Nat.add_sub_cancel_left]
  omega

/-- A file is in clusters that addresses reach, from the beginning of the first one on. -/
structure KeptIn (env : Environment) (fat : FatPrivate) (bytes : Nat → UInt8) (cells : List Nat)
    (file : List UInt8) : Prop where
  near : ∀ cluster ∈ cells, Near env fat cluster
  room : file.length ≤ cells.length * fat.clusterSize
  shown : file = firsts (content fat bytes cells) file.length

section Kept

variable {before after : Nat → UInt8} {cells grown : List Nat} {file : List UInt8}
  {head cluster : Nat} {rest : List Nat} {fileSize size startPos : Nat} {input : Nat → UInt8}

/-- A file is kept as long as the bytes of its clusters are. -/
theorem KeptIn.congr (kept : KeptIn env fat before cells file) (positive : 0 < fat.clusterSize)
    (same : ∀ cluster ∈ cells, ∀ offset < fat.clusterSize,
      after (clusterStart fat cluster + offset) = before (clusterStart fat cluster + offset)) :
    KeptIn env fat after cells file := by
  refine ⟨kept.near, kept.room, kept.shown.trans (firsts_congr fun offset inside => ?_)⟩
  have index : offset / fat.clusterSize < cells.length := by
    refine Nat.div_lt_of_lt_mul (inside.trans_le ?_)
    rw [Nat.mul_comm]
    exact kept.room
  rw [content, content, List.getD_eq_getElem _ _ index]
  exact (same _ (List.getElem_mem index) _ (Nat.mod_lt _ positive)).symm

/-- A write puts bytes into its own clusters only. -/
theorem Outcome.elsewhere (smallest : 512 ≤ fat.clusterSize) (largest : fat.clusterSize ≤ 32768)
    (writing : Writing env fat before cells fileSize size startPos)
    (outcome : Outcome env fat before after cells size startPos input cluster grown) {other : Nat}
    (near : Near env fat other) (absent : other ∉ cluster :: grown) {offset : Nat}
    (inside : offset < fat.clusterSize) :
    after (clusterStart fat other + offset) = before (clusterStart fat other + offset) := by
  have positive : 0 < fat.clusterSize := Nat.lt_of_lt_of_le (by decide) smallest
  obtain ⟨room, some, left⟩ :=
    firstWrite_parts smallest largest writing.some _ (Nat.mod_lt startPos positive)
  have within := (nextWrite_parts positive largest
    (writing.growable.narrow positive largest)).within_first positive room some left
  rw [← outcome.count, Nat.add_sub_cancel] at within
  rw [outcome.data_at]
  refine storeClusters_outside _ _ _ _ _ within fun written member => ?_
  have of_write := outcome.near written (List.mem_append_right _ member)
  have different : other ≠ written := fun same => absent (same ▸ member)
  rw [of_write.place positive]
  rcases clusterStart_apart fat near.is_data.numbered of_write.is_data.numbered different with
    earlier | later
  · exact .inl (by omega)
  · exact .inr (by omega)

/-- A file that is written has what was before the position, and what was written. -/
theorem Landed.keptIn {new : List Nat}
    (landed : Landed env fat before after cells size startPos input new)
    (near : ∀ cluster ∈ new, Near env fat cluster) (kept : KeptIn env fat before cells file)
    (inside : startPos ≤ file.length) :
    KeptIn env fat after new (file.take startPos ++ firsts input size) := by
  have length : (file.take startPos ++ firsts input size).length = startPos + size := by
    rw [List.length_append, List.length_take, length_firsts, Nat.min_eq_left inside]
  refine ⟨near, length ▸ landed.long, ?_⟩
  have front : file.take startPos = firsts (content fat after new) startPos := by
    rw [kept.shown, take_firsts inside]
    exact firsts_congr fun offset small => (landed.kept offset small).symm
  have back : firsts input size = firsts (slice (content fat after new) startPos) size :=
    firsts_congr fun offset small => (landed.stored offset small).symm
  rw [length, front, back, firsts_append]

end Kept

/-! ## A new file -/

section Creation

variable {bytes : Nat → UInt8}

/-- A search finds the first free cluster, if a later one would do. -/
theorem found_near (marks : ∀ entry < 2, entryAt fat bytes entry ≠ FAT_ENTRY_FREE) {cluster : Nat}
    (near : Near env fat cluster) (findable : Findable env fat cluster)
    (free : table fat bytes cluster = FAT_ENTRY_FREE) :
    ¬ Unfound env fat (fun cluster => Near env fat cluster ∧ Findable env fat cluster) bytes := by
  intro unfound
  rw [table_eq _ near.is_data.entry] at free
  have exists_free : ∃ other, entryAt fat bytes other = FAT_ENTRY_FREE := ⟨cluster, free⟩
  have first : FirstFree fat bytes (Nat.find exists_free) :=
    ⟨Nat.find_spec exists_free, fun other below => Nat.find_min exists_free below⟩
  have lower : Nat.find exists_free ≤ cluster := Nat.find_min' exists_free free
  generalize Nat.find exists_free = least at first lower
  have numbered : 2 ≤ least := Nat.not_lt.mp fun mark => marks least mark first.1
  have least_findable := findable.mono lower
  exact unfound least ⟨near.mono numbered lower, least_findable⟩ least_findable first

/-- A file that is created has a cluster of its own, and its entry is the only other thing that
is written behind the FATs. -/
theorem createFileEntry_meets (layout : Layout env fat) (quiet : env.Quiet)
    (fitting : env.Fitting) {address : Nat} (behind : fat.dataClusterStartAddress ≤ address)
    (inside : address + 32 ≤ env.volumeSize) (fileName : Nat → UInt8) {errCode : Code}
    (nonnegative : 0 ≤ errCode)
    (marks : ∀ entry < 2, entryAt fat world.bytes entry ≠ FAT_ENTRY_FREE)
    (room : ∃ cluster, Near env fat cluster ∧ Findable env fat cluster ∧
      table fat world.bytes cluster = FAT_ENTRY_FREE) :
    Meets (createFileEntryAtAbsoluteAddress env fat address fileName errCode) world env.HeapFault
      fun result after => (result.2 = none → ¬ env.Roomy) ∧
        ∀ file, result.2 = some file → file.fileSize = 0 ∧ Near env fat file.startCluster ∧
          Regrown fat (Near env fat) world.bytes after.bytes [] [file.startCluster] ∧
          ∀ tested, fat.dataClusterStartAddress ≤ tested →
            tested < address ∨ address + 32 ≤ tested → after.bytes tested = world.bytes tested := by
  have narrow : fat.fatAddress < 2 ^ 32 := by
    have copy := layout.copy
    have data := layout.data
    have below := layout.narrow
    omega
  obtain ⟨spare, near, findable, free⟩ := room
  have no_mark : ¬ (Near env fat 0 ∧ Findable env fat 0) :=
    fun may => absurd may.1.is_data.numbered (by decide)
  have fits : (address + 32) % 2 ^ 64 ≤ env.volumeSize := (Nat.mod_le _ _).trans inside
  rw [createFileEntryAtAbsoluteAddress]
  refine ((getFreeFatEntryCluster_meets quiet fitting narrow nonnegative).mono_fault ?_).bind ?_
  · rintro fault (heap | ⟨-, full, -⟩)
    · exact heap
    · refine absurd ?_ (full spare (near.is_data.narrow.trans (by decide)))
      rw [← table_eq _ near.is_data.entry]
      exact free
  rintro ⟨code, cluster⟩ found ⟨same, -, searched⟩
  obtain ⟨-, ⟨cluster_near, -⟩, first⟩ := (searched.hits no_mark).resolve_right
    fun missed => found_near marks near findable free missed.1
  have is_data := cluster_near.is_data
  have not_zero : cluster ≠ 0 := Nat.ne_of_gt (Nat.lt_of_lt_of_le (by decide) is_data.numbered)
  dsimp only at *
  rw [if_neg not_zero]
  apply (writeFATEntry_meets layout quiet 0x0FFFFFFF is_data.entry).bind
  rintro ret marked ⟨rfl, -, put⟩
  rw [same] at put
  rw [if_success]
  apply (seekWrite_meets address).bind
  rintro ret moved ⟨still, ⟨rfl, -, placed⟩ | ⟨-, outside⟩⟩
  case inr => omega
  rw [if_success]
  apply (writeStream_meets quiet (newFileEntry fileName cluster) 32).bind
  rintro ret written ⟨-, ⟨rfl, -, stored⟩ | ⟨-, outside, -⟩⟩
  case inr =>
    rw [placed] at outside
    exact absurd fits (Nat.not_le.mpr outside)
  rw [placed, still.bytes, put] at stored
  have chained : Regrown fat (Near env fat) world.bytes written.bytes [] [cluster] := by
    rw [stored]
    exact (Regrown.head layout is_data cluster_near first.table).then_data
      (table_overwrite layout _ _ _ behind) fun step => step.overwrite layout _ _ behind
  rw [if_success]
  apply (kzalloc_meets 8).bind
  rintro (_ | block) after ⟨unchanged, refused, -⟩
  · exact .pure ⟨fun _ => refused rfl, by rintro file ⟨⟩⟩
  · refine .pure ⟨by rintro ⟨⟩, ?_⟩
    rintro _ ⟨⟩
    rw [unchanged.bytes]
    refine ⟨rfl, cluster_near, chained, fun tested data outside => ?_⟩
    rw [stored, overwrite_outside _ _ _ _ _ outside]
    exact putEntry_data layout _ _ is_data.entry (.inr data)

end Creation

/-! ## The volume and its files -/

/-- A volume and the sizes of its files. -/
structure FileVolume where
  world : World
  size : Nat → Option Nat

section System

variable (env : Environment) (fat : FatPrivate)

/-- The 32 bytes at the address are in a cluster that is on no chain of a file. -/
def InDirectory (volume : FileVolume) (address : Nat) : Prop :=
  ∃ cluster, DataCluster env fat cluster ∧ clusterStart fat cluster ≤ address ∧
    address + 32 ≤ clusterStart fat cluster + fat.clusterSize ∧
    ∀ head rest, (volume.size head).isSome → Chain (links fat volume.world.bytes) (head :: rest) →
      cluster ∉ head :: rest

/-- The accesses that succeed: a file that is created gets its entry in a directory, a write
ends the file behind what is written, and a read asks for bytes of the file. -/
inductive FileStep (volume : FileVolume) : Access Nat UInt8 → FileVolume → Prop where
  | create (address : Nat) (fileName : Nat → UInt8) (errCode code : Code) (file : FatFile)
      (world : World) (nonnegative : 0 ≤ errCode) (directory : InDirectory env fat volume address)
      (ran : (createFileEntryAtAbsoluteAddress env fat address fileName errCode).run volume.world =
        .ok ((code, some file), world)) :
      FileStep volume (.create file.startCluster)
        ⟨world, Function.update volume.size file.startCluster (some file.fileSize)⟩
  | write (head fileSize position size : Nat) (input : Nat → UInt8) (world : World)
      (known : volume.size head = some fileSize)
      (ran : (writeFatFile env fat ⟨head, fileSize⟩ size position input).run volume.world =
        .ok (SUCCESS, world)) :
      FileStep volume (.write head position (firsts input size))
        ⟨world, Function.update volume.size head (some (position + size))⟩
  | read (head fileSize position size : Nat) (ptr read : Nat → UInt8) (world : World)
      (known : volume.size head = some fileSize)
      (ran : (readFatFile env fat ⟨head, fileSize⟩ size position ptr).run volume.world =
        .ok ((SUCCESS, read), world)) :
      FileStep volume (.read head position (firsts read size)) ⟨world, volume.size⟩

/-- So many clusters as a write needs behind those that the chain keeps are free, or become
free when the chain is cut; the search looks at them and addresses reach them. -/
def HasRoom (bytes : Nat → UInt8) (cells : List Nat) (size startPos : Nat) : Prop :=
  ∃ spare : Finset Nat,
    clustersMet fat (startPos % fat.clusterSize) size -
      (if startPos / fat.clusterSize < cells.length then 1 else 0) ≤ spare.card ∧
    ∀ cluster ∈ spare, Near env fat cluster ∧ Findable env fat cluster ∧
      (table fat bytes cluster = FAT_ENTRY_FREE ∨
        cluster ∈ cells.drop (startPos / fat.clusterSize + 1))

/-- What the driver does right: there is a cluster for a new file; a write begins in the file or
at its end, its first part fits and there is room for it; a read is one of bytes of the file,
whose parts fit. -/
def FileFits (volume : FileVolume) : Access Nat UInt8 → Prop
  | .create _ => ∃ cluster, Near env fat cluster ∧ Findable env fat cluster ∧
      table fat volume.world.bytes cluster = FAT_ENTRY_FREE
  | .write head position data => (∃ fileSize ∈ volume.size head, position ≤ fileSize) ∧
      0 < data.length ∧ FirstPartFits fat data.length position ∧
      ∀ rest, Chain (links fat volume.world.bytes) (head :: rest) →
        HasRoom env fat volume.world.bytes (head :: rest) data.length position
  | .read head position data => (∃ fileSize ∈ volume.size head,
        position + data.length ≤ fileSize) ∧
      ∀ rest, Chain (links fat volume.world.bytes) (head :: rest) →
        ReadFits fat (head :: rest) data.length position

/-- The volume has these files: each has a chain, and is kept in its clusters. -/
structure HoldsFiles (volume : FileVolume) (files : Files Nat UInt8) : Prop where
  copies : InStep fat volume.world.bytes
  marks : ∀ entry < 2, entryAt fat volume.world.bytes entry ≠ FAT_ENTRY_FREE
  sizes : ∀ head, volume.size head = (files head).map List.length
  chains : ∃ heads chain,
    Forest (links fat volume.world.bytes) (DataCluster env fat) (2 ≤ ·) heads chain ∧
    ∀ head, ∀ file ∈ files head,
      heads head ∧ KeptIn env fat volume.world.bytes (chain head) file

/-- The runs of accesses on a volume, from any one on that has files. -/
def fileSystem : System FileVolume (Access Nat UInt8) where
  start volume := ∃ files, HoldsFiles env fat volume files
  step := FileStep env fat

end System

section Steps

variable {volume after : FileVolume} {files : Files Nat UInt8} {heads : Nat → Prop}
  {chain : Nat → List Nat} {head : Nat} {old new : List Nat} {file : List UInt8} {final : World}

/-- The first two entries are on no chain. -/
theorem Regrown.marks {allowed : Nat → Prop} {before after : Nat → UInt8}
    (regrown : Regrown fat allowed before after old new) (was : ∀ cluster ∈ old, 2 ≤ cluster)
    (is : ∀ cluster ∈ new, DataCluster env fat cluster) (begins : ∃ rest, new = head :: rest)
    (marks : ∀ entry < 2, entryAt fat before entry ≠ FAT_ENTRY_FREE) :
    ∀ entry < 2, entryAt fat after entry ≠ FAT_ENTRY_FREE := by
  intro entry mark
  obtain ⟨rest, rfl⟩ := begins
  have first := is head List.mem_cons_self
  have inside : 4 * entry + 4 ≤ fat.fatSize := by
    have numbered := first.numbered
    have last := first.entry
    omega
  rw [← table_eq _ inside, regrown.elsewhere entry
    (fun member => absurd (was entry member) (Nat.not_le.mpr mark))
    (fun member => absurd (is entry member).numbered (Nat.not_le.mpr mark)), table_eq _ inside]
  exact marks entry mark

/-- No cluster of another chain is on the old one or on the new one. -/
theorem Regrown.apart {allowed : Nat → Prop} {before after : Nat → UInt8}
    (forest : Forest (links fat before) (DataCluster env fat) (2 ≤ ·) heads chain)
    (regrown : Regrown fat allowed before after old new) (was : heads head → chain head = old)
    (owned : ¬ heads head → old = []) {other : Nat} (known : heads other) (different : other ≠ head)
    {cluster : Nat} (member : cluster ∈ chain other) : cluster ∉ old ∧ cluster ∉ new := by
  have not_old : cluster ∉ old := by
    intro here
    by_cases is_head : heads head
    · exact forest.disjoint other head known is_head different member (was is_head ▸ here)
    · rw [owned is_head] at here
      exact List.not_mem_nil here
  refine ⟨not_old, fun here => ?_⟩
  exact chain_entry (forest.chained other known) member (regrown.fresh cluster here not_old).2

/-- One file is kept in a new chain, and the bytes of the other files stay as they are. -/
theorem HoldsFiles.replaced (holds : HoldsFiles env fat volume files)
    (positive : 0 < fat.clusterSize)
    (forest : Forest (links fat volume.world.bytes) (DataCluster env fat) (2 ≤ ·) heads chain)
    (kept : ∀ head, ∀ file ∈ files head,
      heads head ∧ KeptIn env fat volume.world.bytes (chain head) file)
    (was : heads head → chain head = old) (owned : ¬ heads head → old = [])
    (begins : ∃ rest, new = head :: rest)
    (regrown : Regrown fat (Near env fat) volume.world.bytes final.bytes old new)
    (stored : KeptIn env fat final.bytes new file)
    (others : ∀ other, ∀ file ∈ files other, other ≠ head → ∀ cluster ∈ chain other,
      ∀ offset < fat.clusterSize, final.bytes (clusterStart fat cluster + offset) =
        volume.world.bytes (clusterStart fat cluster + offset)) :
    HoldsFiles env fat ⟨final, Function.update volume.size head (some file.length)⟩
      (Function.update files head (some file)) := by
  have usable (cluster : Nat) (member : cluster ∈ new) : DataCluster env fat cluster :=
    (stored.near cluster member).is_data
  have numbered (cluster : Nat) (member : cluster ∈ old) : 2 ≤ cluster := by
    by_cases known : heads head
    · rw [← was known] at member
      exact (forest.usable head cluster known member).numbered
    · rw [owned known] at member
      exact absurd member List.not_mem_nil
  refine ⟨regrown.copies holds.copies, regrown.marks numbered usable begins holds.marks, ?_, ?_⟩
  · intro other
    by_cases same : other = head
    · subst same
      simp only [Function.update_self, Option.map_some]
    · simp only [Function.update_of_ne same]
      exact holds.sizes other
  · refine ⟨_, _, forest.replace was begins regrown.chained regrown.distinct usable
      (fun cluster not_old not_new => congrArg decode (regrown.elsewhere cluster not_old not_new))
      (fun cluster member absent => decode_free.mpr (regrown.fresh cluster member absent).2)
      (fun cluster member absent => decode_free.mpr (regrown.dropped cluster member absent))
      owned, ?_⟩
    intro other held member
    by_cases same : other = head
    · subst same
      rw [Function.update_self] at member ⊢
      obtain rfl := Option.some.inj member
      exact ⟨.inr rfl, stored⟩
    · rw [Function.update_of_ne same] at member ⊢
      obtain ⟨known, where_kept⟩ := kept other held member
      exact ⟨.inl known, where_kept.congr positive (others other held member same)⟩

section Access

variable {fileSize position size : Nat} {input ptr : Nat → UInt8}

/-- A file of a known size is one of the volume's files. -/
theorem HoldsFiles.known (holds : HoldsFiles env fat volume files)
    (known : volume.size head = some fileSize) :
    ∃ file, files head = some file ∧ file.length = fileSize := by
  rw [holds.sizes] at known
  exact Option.map_eq_some_iff.mp known

/-- A write that fits is in the domain of the law for writes. -/
theorem HoldsFiles.writing (holds : HoldsFiles env fat volume files)
    (forest : Forest (links fat volume.world.bytes) (DataCluster env fat) (2 ≤ ·) heads chain)
    (is_head : heads head) (kept : KeptIn env fat volume.world.bytes (chain head) file)
    (inside : position ≤ file.length) (some : 0 < size)
    (room : ∀ rest, Chain (links fat volume.world.bytes) (head :: rest) →
      HasRoom env fat volume.world.bytes (head :: rest) size position) :
    Writing env fat volume.world.bytes (chain head) file.length size position := by
  obtain ⟨rest, starts⟩ := forest.starts head is_head
  have linked := forest.chained head is_head
  refine ⟨linked, linked.nodup, kept.near, kept.room, inside, some, holds.marks, ?_⟩
  rw [starts] at linked ⊢
  exact room rest linked

/-- A write that fits replaces what is behind its position, and leaves the other files. -/
theorem HoldsFiles.write (layout : Layout env fat) (quiet : env.Quiet) (fitting : env.Fitting)
    (smallest : 512 ≤ fat.clusterSize) (largest : fat.clusterSize ≤ 32768)
    (holds : HoldsFiles env fat volume files) (present : files head = some file)
    (fits : FileFits env fat volume (.write head position (firsts input size))) :
    position ≤ file.length ∧
    Meets (writeFatFile env fat ⟨head, file.length⟩ size position input) volume.world env.HeapFault
      fun ret after => ret = SUCCESS ∧
        HoldsFiles env fat ⟨after, Function.update volume.size head (some (position + size))⟩
          (Function.update files head (some (file.take position ++ firsts input size))) := by
  obtain ⟨⟨fileSize, same, inside⟩, some, fit, room⟩ := fits
  rw [holds.sizes, present] at same
  obtain rfl := Option.some.inj same
  rw [length_firsts] at some fit room
  refine ⟨inside, ?_⟩
  obtain ⟨heads, chain, forest, kept⟩ := holds.chains
  obtain ⟨is_head, where_kept⟩ := kept head file present
  have writing := holds.writing forest is_head where_kept inside some room
  obtain ⟨rest, starts⟩ := forest.starts head is_head
  rw [starts] at writing
  refine (writing.outcome input layout quiet fitting smallest largest).mono ?_
  rintro ret after ⟨success, cluster, grown, outcome⟩
  have landed := outcome.landed smallest largest writing fit
  have stored := landed.keptIn outcome.near (starts ▸ where_kept) inside
  have begins : ∃ others,
      (head :: rest).take (position / fat.clusterSize) ++ cluster :: grown = head :: others :=
    List.head?_eq_some_iff.mp landed.begins
  have regrown : Regrown fat (Near env fat) volume.world.bytes after.bytes (head :: rest)
      ((head :: rest).take (position / fat.clusterSize) ++ cluster :: grown) :=
    { outcome.regrown with
      fresh := fun other member absent => ⟨(outcome.regrown.fresh other member absent).1.1,
        (outcome.regrown.fresh other member absent).2⟩ }
  have length : (file.take position ++ firsts input size).length = position + size := by
    rw [List.length_append, List.length_take, length_firsts, Nat.min_eq_left inside]
  refine ⟨success, ?_⟩
  rw [← length]
  refine holds.replaced layout.cluster forest kept (fun _ => starts) (absurd is_head) begins regrown
    stored fun other held member different cell on_chain offset small => ?_
  obtain ⟨other_head, other_kept⟩ := kept other held member
  obtain ⟨-, not_new⟩ := regrown.apart forest (fun _ => starts) (absurd is_head) other_head
    different on_chain
  exact outcome.elsewhere smallest largest writing (other_kept.near cell on_chain)
    (fun here => not_new (List.mem_append_right _ here)) small

/-- A read that fits shows the bytes of the file, and leaves the volume. -/
theorem HoldsFiles.read (layout : Layout env fat) (quiet : env.Quiet)
    (largest : fat.clusterSize ≤ 32768) (holds : HoldsFiles env fat volume files)
    (present : files head = some file) (inside : position + size ≤ file.length)
    (fits : ∀ rest, Chain (links fat volume.world.bytes) (head :: rest) →
      ReadFits fat (head :: rest) size position) :
    Meets (readFatFile env fat ⟨head, file.length⟩ size position ptr) volume.world (fun _ => False)
      fun result after => (result.1 = SUCCESS ∧
        firsts result.2 size = (file.drop position).take size) ∧
        after.bytes = volume.world.bytes := by
  obtain ⟨heads, chain, forest, kept⟩ := holds.chains
  obtain ⟨is_head, where_kept⟩ := kept head file present
  obtain ⟨rest, starts⟩ := forest.starts head is_head
  have linked := forest.chained head is_head
  rw [starts] at linked where_kept
  have clusters : Clusters env fat (head :: rest) :=
    fun cluster member => (where_kept.near cluster member).is_data
  refine (readFatFile_shows layout quiet (largest.trans_lt (by decide)) linked clusters
    (inside.trans where_kept.room) (fits rest linked)).mono ?_
  rintro result after ⟨⟨success, shown⟩, same⟩
  refine ⟨⟨success, ?_⟩, same⟩
  rw [where_kept.shown, firsts_part inside]
  exact shown

/-- A file that is created is empty. -/
theorem HoldsFiles.create (layout : Layout env fat) (quiet : env.Quiet) (fitting : env.Fitting)
    (holds : HoldsFiles env fat volume files) {address : Nat}
    (directory : InDirectory env fat volume address) (fileName : Nat → UInt8) {errCode : Code}
    (nonnegative : 0 ≤ errCode)
    (room : ∃ cluster, Near env fat cluster ∧ Findable env fat cluster ∧
      table fat volume.world.bytes cluster = FAT_ENTRY_FREE) :
    Meets (createFileEntryAtAbsoluteAddress env fat address fileName errCode) volume.world
      env.HeapFault fun result after => (result.2 = none → ¬ env.Roomy) ∧
        ∀ created, result.2 = some created → files created.startCluster = none ∧
          HoldsFiles env fat ⟨after, Function.update volume.size created.startCluster
            (some created.fileSize)⟩ (Function.update files created.startCluster (some [])) := by
  obtain ⟨entry, entry_data, first, last, no_file⟩ := directory
  have behind : fat.dataClusterStartAddress ≤ address := (Nat.le_add_right _ _).trans first
  refine (createFileEntry_meets layout quiet fitting behind (last.trans entry_data.whole) fileName
    nonnegative holds.marks room).mono fun result after law => ⟨law.1, fun created is_some => ?_⟩
  obtain ⟨empty, near, regrown, outside⟩ := law.2 created is_some
  obtain ⟨heads, chain, forest, kept⟩ := holds.chains
  have free := (regrown.fresh _ (List.mem_singleton_self _) List.not_mem_nil).2
  have not_head : ¬ heads created.startCluster := by
    intro known
    obtain ⟨rest, starts⟩ := forest.starts _ known
    have linked := forest.chained _ known
    rw [starts] at linked
    exact chain_entry linked List.mem_cons_self free
  have fresh : files created.startCluster = none := by
    rw [Option.eq_none_iff_forall_not_mem]
    exact fun file present => not_head (kept _ file present).1
  have stored : KeptIn env fat after.bytes [created.startCluster] [] := by
    refine ⟨fun cluster member => ?_, Nat.zero_le _, rfl⟩
    rw [List.mem_singleton.mp member]
    exact near
  refine ⟨fresh, ?_⟩
  rw [empty]
  refine holds.replaced layout.cluster forest kept (fun known => absurd known not_head)
    (fun _ => rfl) ⟨[], rfl⟩ regrown stored fun other held member _ cell on_chain offset small => ?_
  obtain ⟨other_head, other_kept⟩ := kept other held member
  obtain ⟨rest, starts⟩ := forest.starts other other_head
  have linked := forest.chained other other_head
  have sized : (volume.size other).isSome := by
    rw [holds.sizes, Option.mem_def.mp member]
    rfl
  rw [starts] at linked on_chain
  have absent := no_file other rest sized linked
  have different : cell ≠ entry := fun same => absent (same ▸ on_chain)
  have cell_data := (other_kept.near cell (starts ▸ on_chain)).is_data
  refine outside _ ((Nat.le_add_right _ _).trans (Nat.le_add_right _ _)) ?_
  rcases clusterStart_apart fat cell_data.numbered entry_data.numbered different with
    earlier | later
  · exact .inl (by omega)
  · exact .inr (by omega)

end Access

end Steps

/-! ## Runs -/

section Runs

variable {bootRecord : MasterBootRecord}

/-- Each access that fits is one of the store of the files. -/
theorem files_simulated (formatted : Formatted env bootRecord) (quiet : env.Quiet)
    (fitting : env.Fitting) :
    System.Simulation ((fileSystem env (attachToDisk bootRecord)).restrict
      (FileFits env (attachToDisk bootRecord))) FileStores.system
      (HoldsFiles env (attachToDisk bootRecord)) := by
  have layout := formatted.layout
  have smallest := formatted.clusterSize ▸ formatted.smallest
  have largest := formatted.clusterSize ▸ formatted.largest
  constructor
  · rintro volume ⟨files, holds⟩
    exact ⟨files, trivial, holds⟩
  · rintro volume after access files holds ⟨fits, stepped⟩
    cases stepped with
    | create address fileName errCode code file world nonnegative directory ran =>
      obtain ⟨fresh, still⟩ :=
        (holds.create layout quiet fitting directory fileName nonnegative fits).returned ran |>.2 file rfl
      exact ⟨_, .create _ fresh, still⟩
    | write head fileSize position size input world known ran =>
      obtain ⟨file, present, rfl⟩ := holds.known known
      obtain ⟨inside, law⟩ := holds.write layout quiet fitting smallest largest present fits
      exact ⟨_, .write head file position _ present inside, (law.returned ran).2⟩
    | read head fileSize position size ptr read world known ran =>
      obtain ⟨file, present, rfl⟩ := holds.known known
      obtain ⟨⟨fileSize, same, inside⟩, fit⟩ := fits
      rw [holds.sizes, present] at same
      obtain rfl := Option.some.inj same
      rw [length_firsts] at inside fit
      obtain ⟨⟨-, shown⟩, unchanged⟩ :=
        (holds.read layout quiet largest present inside fit).returned ran
      refine ⟨files, .read head file position _ present ?_, ?_⟩
      · rw [length_firsts]
        exact shown.symm
      · constructor
        · exact unchanged ▸ holds.copies
        · exact unchanged ▸ holds.marks
        · exact holds.sizes
        · exact unchanged ▸ holds.chains

/-- With room on the heap, an access that fits succeeds: a new file in a directory, a write to
any file, and a read of the bytes that the file has. -/
structure Serves (env : Environment) (fat : FatPrivate) (volume : FileVolume)
    (files : Files Nat UInt8) : Prop where
  create : ∀ address, InDirectory env fat volume address → ∀ head,
    FileFits env fat volume (.create head) →
    ∃ made after, FileStep env fat volume (.create made) after
  write : ∀ head file position size input, files head = some file →
    FileFits env fat volume (.write head position (firsts input size)) →
    ∃ after, FileStep env fat volume (.write head position (firsts input size)) after
  read : ∀ head file position size, files head = some file →
    FileFits env fat volume (.read head position ((file.drop position).take size)) →
    position + size ≤ file.length →
    ∃ after, FileStep env fat volume (.read head position ((file.drop position).take size)) after

theorem HoldsFiles.serves (formatted : Formatted env bootRecord) (quiet : env.Quiet)
    (fitting : env.Fitting) (roomy : env.Roomy) {volume : FileVolume} {files : Files Nat UInt8}
    (holds : HoldsFiles env (attachToDisk bootRecord) volume files) :
    Serves env (attachToDisk bootRecord) volume files := by
  have layout := formatted.layout
  have smallest := formatted.clusterSize ▸ formatted.smallest
  have largest := formatted.clusterSize ▸ formatted.largest
  constructor
  · intro address directory _ fits
    obtain ⟨⟨code, made⟩, after, ran, refused, -⟩ := ((holds.create layout quiet fitting directory
      (fun _ => 0) (le_refl 0) fits).mono_fault fun _ heap => heap.2 roomy).returns
    cases made with
    | none => exact absurd roomy (refused rfl)
    | some file => exact ⟨_, _, .create address _ _ code file after (le_refl 0) directory ran⟩
  · intro head file position size input present fits
    obtain ⟨-, law⟩ := holds.write layout quiet fitting smallest largest present fits
    obtain ⟨ret, after, ran, rfl, -⟩ := (law.mono_fault fun _ heap => heap.2 roomy).returns
    have known : volume.size head = some file.length := by
      rw [holds.sizes, present]
      rfl
    exact ⟨_, .write head _ position size input after known ran⟩
  · intro head file position size present fits inside
    have length : ((file.drop position).take size).length = size := by
      rw [List.length_take, List.length_drop, Nat.min_eq_left (by omega)]
    have fit := fits.2
    rw [length] at fit
    have law : Meets (readFatFile env (attachToDisk bootRecord) ⟨head, file.length⟩ size position
        fun _ => 0) volume.world _ _ := holds.read layout quiet largest present inside fit
    obtain ⟨⟨code, read⟩, after, ran, ⟨rfl, shown⟩, -⟩ := law.returns
    have known : volume.size head = some file.length := by
      rw [holds.sizes, present]
      rfl
    dsimp only at shown
    rw [← shown]
    exact ⟨_, .read head _ position size _ read after known ran⟩

end Runs

/-! ## A file that is created, written and read -/

/-- The small volume with one directory, and no file. -/
def emptyVolume : FileVolume := ⟨freshWorld markedBytes, fun _ => none⟩

theorem emptyVolume_holds :
    HoldsFiles (plainEnvironment 1024000) (attachToDisk sectorRecord) emptyVolume fun _ => none := by
  have layout := sectorRecord_formatted.layout
  have blank := blank_well_formed (plainEnvironment 1024000) (attachToDisk sectorRecord)
  have is_data : DataCluster (plainEnvironment 1024000) (attachToDisk sectorRecord) 5 := by
    constructor <;> decide
  -- The two marks are no clusters of the data region.
  have marked (cluster : Nat) (numbered : 2 ≤ cluster) :
      table (attachToDisk sectorRecord) (putEntry (attachToDisk sectorRecord)
        (putEntry (attachToDisk sectorRecord) (fun _ => 0) 0 0x0FFFFFF8) 1 FAT_ENTRY_USED) cluster =
          FAT_ENTRY_FREE := by
    rw [table_putEntry layout _ (by decide) (by decide), Function.update_of_ne (by omega),
      table_putEntry layout _ (by decide) (by decide), Function.update_of_ne (by omega)]
    exact table_blank cluster
  have ready : Forest (links (attachToDisk sectorRecord) (putEntry (attachToDisk sectorRecord)
      (putEntry (attachToDisk sectorRecord) (fun _ => 0) 0 0x0FFFFFF8) 1 FAT_ENTRY_USED))
      (DataCluster (plainEnvironment 1024000) (attachToDisk sectorRecord)) (2 ≤ ·)
      (fun _ => False) fun _ => [] := by
    refine ⟨fun _ => False.elim, fun _ => False.elim, fun _ => False.elim,
      fun _ _ => False.elim, fun _ _ => False.elim, fun cluster numbered used => ?_⟩
    exact absurd (decode_free.mpr (marked cluster numbered)) used
  have copies := (blank.copies.putEntry layout 0x0FFFFFF8 (by decide : 4 * 0 + 4 ≤ _)).putEntry layout
    FAT_ENTRY_USED (by decide : 4 * 1 + 4 ≤ _)
  have formed := WellFormed.regrow copies ready False.elim (fun _ => rfl) ⟨[], rfl⟩ (fun _ may => may)
    (.head layout is_data is_data (marked 5 (by decide)))
  refine ⟨formed.copies, ?_, fun _ => rfl, ?_⟩
  · intro entry mark
    interval_cases entry
    · decide +kernel
    · decide +kernel
  · obtain ⟨chain, forest⟩ := formed.chains
    exact ⟨_, chain, forest, by rintro head file ⟨⟩⟩

/-- 12 bytes. -/
def greeting : List UInt8 := firsts (fun _ => 0xAB) 12

end BobaOS.Fat
