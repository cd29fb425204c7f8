import BobaOS.Fat.ChainLaws

/-!
# The law of the file write

A write either leaves everything as it is, because its position is too far behind
the end of the chain, or it changes the chain of its file into one that keeps the
clusters before the position; or one of its searches comes out with a cluster
that may not be taken, and then nothing is said of what follows.

Which clusters may be taken is a parameter. A search that misses is described by
the bytes it was made on, so that one law serves claims about runs whose searches
are known to be good and claims about volumes with enough free clusters.
-/

namespace BobaOS.Fat

open ByteStore Programs Chains

variable {env : Environment} {fat : FatPrivate} {allowed : Nat → Prop} {α β : Type}

/-! ## The record of the searches -/

/-- Whatever happens, the searches made are not forgotten. -/
def Keeps (program : M α) : Prop :=
  ∀ world, Meets program world (fun _ => True) fun _ after => world.searches ⊆ after.searches

theorem Same.keeps {before after : World} (same : Same before after) :
    before.searches ⊆ after.searches := by
  rw [same.searches]
  exact List.Subset.refl _

theorem Keeps.pure (value : α) : Keeps (pure value : M α) :=
  fun _ => .pure (List.Subset.refl _)

theorem Keeps.throw (fault : Fault) : Keeps (throw fault : M α) := fun _ => .throw trivial

theorem Keeps.bind {program : M α} {next : α → M β} (first : Keeps program)
    (second : ∀ value, Keeps (next value)) : Keeps (program >>= next) := by
  intro world
  apply (first world).bind
  intro value between kept
  exact (second value between).mono fun _ _ still => List.Subset.trans kept still

theorem Keeps.ite {condition : Prop} [Decidable condition] {program other : M α}
    (first : Keeps program) (second : Keeps other) :
    Keeps (if condition then program else other) := by
  intro world
  rw [meets_ite]
  exact ⟨fun _ => first world, fun _ => second world⟩

/-- A step whose error code is checked. -/
theorem Keeps.check {program : M Code} {final : Code → α} {next : Code → M α}
    (first : Keeps program) (rest : ∀ ret, Keeps (next ret)) :
    Keeps (program >>= fun ret => if ret < 0 then Pure.pure (final ret) else next ret) :=
  first.bind fun ret => .ite (.pure (final ret)) (rest ret)

theorem keeps_kzalloc (size : Nat) : Keeps (kzalloc env size) := fun _ =>
  (kzalloc_meets size).mono fun _ _ met => met.1.keeps

theorem keeps_seekRead (position : Nat) : Keeps (seekRead env position) := fun _ =>
  (seekRead_meets position).mono fun _ _ met => met.1.keeps

theorem keeps_seekWrite (position : Nat) : Keeps (seekWrite env position) := fun _ =>
  (seekWrite_meets position).mono fun _ _ met => met.1.keeps

theorem keeps_readStream (out : Nat → UInt8) (capacity offset length : Nat) :
    Keeps (readStream env out capacity offset length) := by
  intro world
  rw [readStream, meets_bind, meets_get, meets_ite]
  refine ⟨fun _ => .pure (List.Subset.refl _), fun _ => ?_⟩
  rw [meets_ite]
  constructor
  · intro _
    rw [meets_bind, meets_set, meets_pure]
    exact List.Subset.refl _
  · intro _
    rw [meets_ite]
    refine ⟨fun _ => .throw trivial, fun _ => ?_⟩
    rw [meets_bind, meets_set, meets_pure]
    exact List.Subset.refl _

theorem keeps_writeStream (input : Nat → UInt8) (length : Nat) :
    Keeps (writeStream env input length) := by
  intro world
  rw [writeStream, meets_bind, meets_get, meets_ite]
  refine ⟨fun _ => .pure (List.Subset.refl _), fun _ => ?_⟩
  rw [meets_ite]
  constructor
  · intro _
    rw [meets_bind, meets_set, meets_pure]
    exact List.Subset.refl _
  · intro _
    rw [meets_bind, meets_set, meets_pure]
    exact List.Subset.refl _

theorem keeps_getFatEntry (entry : Nat) : Keeps (getFatEntry env fat entry) := by
  refine (keeps_seekRead _).bind fun _ => .ite (.pure _) ?_
  exact (keeps_readStream _ _ _ _).bind fun _ => .ite (.pure _) (.pure _)

theorem keeps_writeFATEntry (cluster value : Nat) : Keeps (writeFATEntry env fat cluster value) := by
  refine (keeps_seekWrite _).bind fun _ => .ite (.pure _) ?_
  refine (keeps_writeStream _ _).bind fun _ => .ite (.pure _) ?_
  exact (keeps_seekWrite _).bind fun _ => .ite (.pure _) (keeps_writeStream _ _)

theorem keeps_getMultipleFatEntries (start stop : Nat) (errCode : Code) :
    Keeps (getMultipleFatEntries env fat start stop errCode) := by
  refine (keeps_kzalloc _).bind fun block => ?_
  cases block with
  | none => exact .pure _
  | some block =>
    refine (keeps_seekRead _).bind fun _ => .ite (.pure _) ?_
    exact (keeps_readStream _ _ _ _).bind fun _ => .ite (.pure _) (.pure _)

theorem keeps_searchWindows : ∀ (fuel start stop : Nat) (errCode : Code),
    Keeps (searchWindows env fat fuel start stop errCode) := by
  intro fuel
  induction fuel with
  | zero => exact fun _ _ _ => .throw _
  | succ fuel ih =>
    intro start stop errCode
    rw [searchWindows]
    refine .ite ?_ (.pure _)
    refine (keeps_getMultipleFatEntries _ _ _).bind fun result => .ite (.pure _) ?_
    obtain ⟨code, entries⟩ := result
    cases entries with
    | none => exact .throw _
    | some entries =>
      simp only
      split
      · exact .pure _
      · exact ih _ _ _

theorem keeps_getFreeFatEntryCluster (errCode : Code) :
    Keeps (getFreeFatEntryCluster env fat errCode) := by
  refine (keeps_searchWindows _ _ _ _).bind fun result => .bind (fun world => ?_) fun _ => .pure _
  rw [meets_modify]
  exact List.subset_append_left _ _

theorem keeps_unlinkEntries : ∀ (fuel entry : Nat), Keeps (unlinkEntries env fat fuel entry) := by
  intro fuel
  induction fuel with
  | zero => exact fun _ => .throw _
  | succ fuel ih =>
    intro entry
    refine .ite ?_ (.pure _)
    refine (keeps_getFatEntry _).bind fun _ => .ite (.pure _) ?_
    exact (keeps_writeFATEntry _ _).bind fun _ => .ite (.pure _) (ih _)

theorem keeps_unlinkFatChain (cluster : Nat) : Keeps (unlinkFatChain env fat cluster) := by
  refine (keeps_getFatEntry _).bind fun _ => .ite (.pure _) ?_
  exact (keeps_unlinkEntries _ _).bind fun _ => .ite (.pure _) (keeps_writeFATEntry _ _)

theorem keeps_writeClusters (size : Nat) (input : Nat → UInt8) :
    ∀ (left : Nat) (ret : Code) (cluster old pos length written : Nat),
      Keeps (writeClusters env fat size input left ret cluster old pos length written) := by
  intro left
  induction left with
  | zero => exact fun _ _ _ _ _ _ => .pure _
  | succ left ih =>
    intro ret cluster old pos length written
    refine (keeps_seekWrite _).bind fun _ => .ite (.pure _) ?_
    refine (keeps_writeStream _ _).bind fun _ => .ite (.pure _) ?_
    refine (keeps_getFatEntry _).bind fun _ => .ite (.pure _) (.ite ?_ (ih _ _ _ _ _ _))
    refine (keeps_getFreeFatEntryCluster _).bind fun _ => .ite (.pure _) ?_
    exact (keeps_writeFATEntry _ _).bind fun _ => (keeps_writeFATEntry _ _).bind fun _ =>
      ih _ _ _ _ _ _

/-! ## Searches that hit and searches that miss -/

/-- The cluster with the lowest number among the free ones. -/
def FirstFree (fat : FatPrivate) (bytes : Nat → UInt8) (cluster : Nat) : Prop :=
  entryAt fat bytes cluster = FAT_ENTRY_FREE ∧
    ∀ other < cluster, entryAt fat bytes other ≠ FAT_ENTRY_FREE

/-- The search looks at the cluster's window, and the window is in the volume. -/
def Findable (env : Environment) (fat : FatPrivate) (cluster : Nat) : Prop :=
  Scanned fat cluster ∧ fat.fatAddress + 2048 * (cluster / 512 + 1) ≤ env.volumeSize

/-- The first free cluster is not one that the search finds and that may be taken. -/
def Unfound (env : Environment) (fat : FatPrivate) (allowed : Nat → Prop) (bytes : Nat → UInt8) :
    Prop := ∀ cluster, allowed cluster → Findable env fat cluster → ¬ FirstFree fat bytes cluster

/-- A search on these bytes was made in vain, and is on record. -/
structure Missed (env : Environment) (fat : FatPrivate) (allowed : Nat → Prop)
    (bytes : Nat → UInt8) (searches : List Search) : Prop where
  unfound : Unfound env fat allowed bytes
  recorded : ∃ search ∈ searches, ¬ allowed search.cluster ∧
    (search.cluster = 0 ∨ FirstFree fat bytes search.cluster)

theorem Missed.mono {bytes : Nat → UInt8} {early late : List Search}
    (missed : Missed env fat allowed bytes early) (kept : early ⊆ late) :
    Missed env fat allowed bytes late := by
  obtain ⟨search, member, shown⟩ := missed.recorded
  exact ⟨missed.unfound, search, kept member, shown⟩

theorem FirstFree.unique {bytes : Nat → UInt8} {left right : Nat}
    (leftFree : FirstFree fat bytes left) (rightFree : FirstFree fat bytes right) :
    left = right := by
  refine Nat.le_antisymm (Nat.not_lt.mp fun before => ?_) (Nat.not_lt.mp fun before => ?_)
  · exact leftFree.2 right before rightFree.1
  · exact rightFree.2 left before leftFree.1

theorem FirstFree.table {bytes : Nat → UInt8} {cluster : Nat}
    (first : FirstFree fat bytes cluster) : table fat bytes cluster = FAT_ENTRY_FREE := by
  rw [Fat.table]
  split
  · exact first.1
  · rfl

/-- A search hits, or it misses. -/
theorem Searched.hits {bytes : Nat → UInt8} {errCode code : Code} {cluster : Nat}
    (searched : Searched env fat bytes errCode code cluster) (marked : ¬ allowed 0) :
    code = SUCCESS ∧ allowed cluster ∧ FirstFree fat bytes cluster ∨
      Unfound env fat allowed bytes ∧ ¬ allowed cluster ∧
        (cluster = 0 ∨ FirstFree fat bytes cluster) := by
  cases searched with
  | found cluster _ _ free least =>
    have first : FirstFree fat bytes cluster := ⟨free, least⟩
    by_cases granted : allowed cluster
    · exact .inl ⟨rfl, granted, first⟩
    · refine .inr ⟨?_, granted, .inr first⟩
      intro other may _ other_first
      exact granted (first.unique other_first ▸ may)
  | exhausted code _ _ none =>
    refine .inr ⟨?_, marked, .inl rfl⟩
    intro other _ findable first
    exact none other findable.1 first.1
  | refused window outside none _ =>
    refine .inr ⟨?_, marked, .inl rfl⟩
    intro other _ findable first
    refine none other (Nat.not_le.mp fun behind => ?_) first.1
    have later : window ≤ other / 512 := by omega
    have within := findable.2
    omega

/-- The search, in terms of what may be taken. -/
theorem search_meets (layout : Layout env fat) (quiet : env.Quiet) (fitting : env.Fitting)
    (usable : ∀ cluster, allowed cluster → DataCluster env fat cluster) {world : World} :
    Meets (getFreeFatEntryCluster env fat SUCCESS) world
      (fun fault => env.HeapFault fault ∨ Unfound env fat allowed world.bytes)
      fun result after => after.bytes = world.bytes ∧ world.searches ⊆ after.searches ∧
        (result.1 = SUCCESS ∧ allowed result.2 ∧ FirstFree fat world.bytes result.2 ∨
          Missed env fat allowed world.bytes after.searches) := by
  have narrow : fat.fatAddress < 2 ^ 32 := by
    have copy := layout.copy
    have data := layout.data
    have below := layout.narrow
    omega
  have marked : ¬ allowed 0 := fun may => absurd (usable 0 may).numbered (by decide)
  have zero : (0 : Code) ≤ SUCCESS := le_refl _
  refine ((getFreeFatEntryCluster_meets quiet fitting narrow zero).mono_fault ?_).mono ?_
  · rintro fault (heap | ⟨-, full, -⟩)
    · exact .inl heap
    · refine .inr fun cluster may _ first => full cluster ?_ first.1
      exact (usable cluster may).narrow.trans (by decide)
  · rintro ⟨ret, cluster⟩ after ⟨bytes, searches, searched⟩
    refine ⟨bytes, ?_, ?_⟩
    · rw [searches]
      exact List.subset_append_left _ _
    · rcases searched.hits marked with hit | ⟨unfound, refused, shown⟩
      · exact .inl hit
      · refine .inr ⟨unfound, ⟨cluster, entryAt fat world.bytes cluster⟩, ?_, refused, shown⟩
        rw [searches]
        exact List.mem_append_right _ (List.mem_singleton_self _)

/-! ## The loop over the clusters to write -/

/-- The driver's 32-bit address of the cluster is in the data region. -/
def Addressed (fat : FatPrivate) (cluster : Nat) : Prop :=
  fat.dataClusterStartAddress ≤ dataClusterToAbsoluteAddress fat cluster

/-- The bytes at the driver's address of the cluster are in the volume. -/
def InVolume (env : Environment) (fat : FatPrivate) (cluster : Nat) : Prop :=
  dataClusterToAbsoluteAddress fat cluster + fat.clusterSize ≤ env.volumeSize

/-- The bytes with the input put into the clusters of a list, from a position in
the first one on. Parameters give the place of a cluster, and the length of each
write after the first by the clusters left and the bytes written. -/
def storeClusters (place : Nat → Nat) (next : Nat → Nat → Nat) (input : Nat → UInt8) :
    List Nat → Nat → Nat → Nat → (Nat → UInt8) → Nat → UInt8
  | [], _, _, _, bytes => bytes
  | cluster :: rest, pos, length, written, bytes =>
    storeClusters place next input rest 0 (next rest.length (written + length)) (written + length)
      (overwrite bytes (place cluster + pos) length fun i => input (written + i))

/-- No write of the loop is empty or leaves its cluster. -/
def Within (fat : FatPrivate) (next : Nat → Nat → Nat) : Nat → Nat → Nat → Nat → Prop
  | 0, _, _, _ => True
  | left + 1, pos, length, written => pos + length ≤ fat.clusterSize ∧ 0 < length ∧
      Within fat next left 0 (next left (written + length)) (written + length)

theorem storeClusters_cons {place : Nat → Nat} {next : Nat → Nat → Nat} {input : Nat → UInt8}
    (cluster : Nat) (rest : List Nat) (pos length written : Nat) (bytes : Nat → UInt8) :
    storeClusters place next input (cluster :: rest) pos length written bytes =
      storeClusters place next input rest 0 (next rest.length (written + length))
        (written + length)
        (overwrite bytes (place cluster + pos) length fun i => input (written + i)) := rfl

/-- What is stored at an address depends on the byte that was there only. -/
theorem storeClusters_congr (place : Nat → Nat) (next : Nat → Nat → Nat) (input : Nat → UInt8)
    {address : Nat} : ∀ (cells : List Nat) (pos length written : Nat) {left right : Nat → UInt8},
      left address = right address →
      storeClusters place next input cells pos length written left address =
        storeClusters place next input cells pos length written right address := by
  intro cells
  induction cells with
  | nil => exact fun _ _ _ _ _ same => same
  | cons cluster rest ih =>
    intro pos length written left right same
    apply ih
    rw [overwrite, overwrite, same]

section Loop

variable (env : Environment) (fat : FatPrivate) (allowed : Nat → Prop) (size : Nat)
  (input : Nat → UInt8)

/-- The loop is left with the chain grown from a cluster. If it succeeds it has
used all clusters and stored the input; it does succeed if its writes stay in
clusters of the volume. -/
structure Stored (before : Nat → UInt8) (left cluster pos length written : Nat) (ret : Code)
    (after : Nat → UInt8) (grown : List Nat) : Prop where
  regrown : Regrown fat allowed before after [cluster] (cluster :: grown)
  succeeds : Within fat (nextWrite fat size) left pos length written → InVolume env fat cluster →
    (∀ other, allowed other → InVolume env fat other) → ret = SUCCESS
  content : 0 ≤ ret → left ≠ 0 → grown.length + 1 = left ∧
    ∀ address, fat.dataClusterStartAddress ≤ address → after address =
      storeClusters (dataClusterToAbsoluteAddress fat) (nextWrite fat size) input
        (cluster :: grown) pos length written before address

/-- The loop has come to a search that cannot find a cluster. -/
def Stuck (before : Nat → UInt8) (left cluster : Nat) (between : Nat → UInt8)
    (grown : List Nat) : Prop :=
  Regrown fat allowed before between [cluster] (cluster :: grown) ∧ grown.length + 1 < left ∧
    Unfound env fat allowed between

end Loop

section LoopLaw

variable {size : Nat} {input : Nat → UInt8}

/-- A write that is refused leaves the chain as it is. -/
theorem Stored.refused {before after : Nat → UInt8} {left cluster pos length written : Nat}
    (last : table fat before cluster = FAT_ENTRY_USED) (same : after = before)
    (outside : env.volumeSize ≤ dataClusterToAbsoluteAddress fat cluster + pos ∨
      env.volumeSize < dataClusterToAbsoluteAddress fat cluster + pos + length) :
    Stored env fat allowed size input before (left + 1) cluster pos length written (-EDISKSPACE)
      after [] where
  regrown := by
    rw [same]
    exact .same (decode_last.mpr last) (List.nodup_singleton _)
  succeeds within inside _ := by
    have room := within.1
    have some := within.2.1
    rw [InVolume] at inside
    omega
  content positive := absurd positive (by decide)

/-- The chain behind the cluster that is linked next, seen from the cluster
before it. -/
theorem Regrown.behind (layout : Layout env fat) {before written after : Nat → UInt8}
    {cluster new : Nat} {grown : List Nat} (same : table fat written = table fat before)
    (copies : InStep fat before → InStep fat written) (inside : 4 * cluster + 4 ≤ fat.fatSize)
    (last : table fat before cluster = FAT_ENTRY_USED) (is_data : DataCluster env fat new)
    (granted : allowed new) (free : table fat written new = FAT_ENTRY_FREE)
    (regrown : Regrown fat allowed
      (putEntry fat (putEntry fat written cluster new) new FAT_ENTRY_USED) after [new]
      (new :: grown)) :
    Regrown fat allowed before after [cluster] (cluster :: new :: grown) := by
  rw [← same] at last
  have linked : Regrown fat allowed written
      (putEntry fat (putEntry fat written cluster new) new FAT_ENTRY_USED) [cluster]
      ([cluster] ++ [new]) := .link layout inside last is_data granted free
  exact .after_data same copies (linked.extend regrown)

variable (size input) in
/-- The loop over the clusters to write, from the last cluster of a chain on. -/
theorem writeClusters_meets (layout : Layout env fat) (quiet : env.Quiet) (fitting : env.Fitting)
    (usable : ∀ cluster, allowed cluster → DataCluster env fat cluster) :
    ∀ (left : Nat) (world : World) (cluster pos length written : Nat),
      4 * cluster + 4 ≤ fat.fatSize → table fat world.bytes cluster = FAT_ENTRY_USED →
      (left ≠ 0 → Addressed fat cluster ∧ ∀ other, allowed other → Addressed fat other) →
      Meets (writeClusters env fat size input left SUCCESS cluster cluster pos length written) world
        (fun fault => env.HeapFault fault ∨
          ∃ between grown, Stuck env fat allowed world.bytes left cluster between grown)
        fun ret after => world.searches ⊆ after.searches ∧
          ((∃ grown, Stored env fat allowed size input world.bytes left cluster pos length written
              ret after.bytes grown) ∨
            ∃ between grown, Stuck env fat allowed world.bytes left cluster between grown ∧
              Missed env fat allowed between after.searches) := by
  intro left
  induction left with
  | zero =>
    intro world cluster pos length written _ last _
    refine .pure ⟨List.Subset.refl _, .inl ⟨[], ?_, fun _ _ _ => rfl, fun _ none => absurd rfl none⟩⟩
    exact .same (decode_last.mpr last) (List.nodup_singleton _)
  | succ left ih =>
    intro world cluster pos length written inside last reach
    obtain ⟨addressed, others⟩ := reach (Nat.succ_ne_zero _)
    rw [writeClusters]
    apply (seekWrite_meets _).bind
    rintro ret moved ⟨still, ⟨rfl, -, placed⟩ | ⟨rfl, outside⟩⟩
    case inr =>
      rw [meets_ite]
      refine ⟨fun _ => .pure ⟨still.keeps, .inl ⟨[], ?_⟩⟩, fun not => absurd (by decide) not⟩
      exact .refused last still.bytes (.inl outside)
    rw [meets_ite]
    refine ⟨fun negative => absurd negative (by decide), fun _ => ?_⟩
    apply (writeStream_meets quiet _ _).bind
    rintro ret stored ⟨searches, ⟨rfl, -, bytes⟩ | ⟨rfl, beyond, bytes⟩⟩
    case inr =>
      rw [placed] at beyond
      have outside : env.volumeSize <
          dataClusterToAbsoluteAddress fat cluster + pos + length :=
        Nat.lt_of_lt_of_le beyond (Nat.mod_le _ _)
      rw [meets_ite]
      refine ⟨fun _ => .pure ⟨?_, .inl ⟨[], ?_⟩⟩, fun not => absurd (by decide) not⟩
      · rw [searches]
        exact still.keeps
      · exact .refused last (bytes.trans still.bytes) (.inr outside)
    rw [meets_ite]
    refine ⟨fun negative => absurd negative (by decide), fun _ => ?_⟩
    rw [placed, still.bytes] at bytes
    have behind : fat.dataClusterStartAddress ≤ dataClusterToAbsoluteAddress fat cluster + pos :=
      addressed.trans (Nat.le_add_right _ _)
    have entries : table fat stored.bytes = table fat world.bytes := by
      rw [bytes]
      exact table_overwrite layout _ _ _ behind
    have copies : InStep fat world.bytes → InStep fat stored.bytes := by
      rw [bytes]
      exact fun step => step.overwrite layout _ _ behind
    refine getFatEntry_then layout quiet inside fun known same => ?_
    have early : world.searches ⊆ known.searches := by
      rw [same.searches, searches]
      exact still.keeps
    rw [meets_ite]
    refine ⟨fun negative => absurd negative (by decide), fun _ => ?_⟩
    rw [entries, last]
    have alone : Regrown fat allowed world.bytes stored.bytes [cluster] [cluster] :=
      .then_data (.same (decode_last.mpr last) (List.nodup_singleton _)) entries copies
    cases left with
    | zero =>
      -- The last cluster has been written.
      rw [if_neg fun both => both.2 rfl]
      refine .pure ⟨early, .inl ⟨[], ?_, fun _ _ _ => rfl, fun _ _ => ⟨rfl, ?_⟩⟩⟩
      · rw [same.bytes]
        exact alone
      · intro address _
        rw [same.bytes, bytes]
        rfl
    | succ left =>
      rw [if_pos ⟨rfl, Nat.succ_ne_zero _⟩]
      have more : ([] : List Nat).length + 1 < left + 1 + 1 := Nat.succ_lt_succ (Nat.succ_pos _)
      rw [← same.bytes] at alone
      refine ((search_meets layout quiet fitting usable).mono_fault ?_).bind ?_
      · exact fun fault => .imp_right fun unfound => ⟨_, [], alone, more, unfound⟩
      rintro ⟨ret, new⟩ found ⟨found_bytes, kept, ⟨rfl, granted, first⟩ | missed⟩
      · rw [meets_ite]
        refine ⟨fun negative => absurd negative (by decide), fun _ => ?_⟩
        have is_data := usable new granted
        apply (writeFATEntry_meets layout quiet new inside).bind
        rintro _ linked ⟨-, linked_searches, linked_bytes⟩
        apply (writeFATEntry_meets layout quiet FAT_ENTRY_USED is_data.entry).bind
        rintro _ marked ⟨-, marked_searches, marked_bytes⟩
        rw [linked_bytes, found_bytes, same.bytes] at marked_bytes
        have late : world.searches ⊆ marked.searches := by
          rw [marked_searches, linked_searches]
          exact List.Subset.trans early kept
        rw [same.bytes] at first
        have join {after : Nat → UInt8} {grown : List Nat}
            (regrown : Regrown fat allowed marked.bytes after [new] (new :: grown)) :
            Regrown fat allowed world.bytes after [cluster] (cluster :: new :: grown) := by
          rw [marked_bytes] at regrown
          exact regrown.behind layout entries copies inside last is_data granted first.table
        have new_last : table fat marked.bytes new = FAT_ENTRY_USED := by
          rw [marked_bytes, table_putEntry layout _ is_data.entry (by decide),
            Function.update_self]
        refine ((ih marked new 0 _ _ is_data.entry new_last
          fun _ => ⟨others new granted, others⟩).mono_fault ?_).mono ?_
        · rintro fault (heap | ⟨between, grown, regrown, shorter, unfound⟩)
          · exact .inl heap
          · exact .inr ⟨between, new :: grown, join regrown, Nat.succ_lt_succ shorter, unfound⟩
        · rintro ret after ⟨last_kept, ⟨grown, result⟩ | ⟨between, grown, stuck, missed⟩⟩
          · refine ⟨List.Subset.trans late last_kept, .inl ⟨new :: grown, join result.regrown, ?_, ?_⟩⟩
            · intro within _ volume
              exact result.succeeds within.2.2 (volume new granted) volume
            · intro positive _
              obtain ⟨count, shown⟩ := result.content positive (Nat.succ_ne_zero _)
              refine ⟨congrArg Nat.succ count, fun address data => ?_⟩
              have rest : (new :: grown).length = left + 1 := count
              rw [shown address data, storeClusters_cons cluster (new :: grown), rest]
              apply storeClusters_congr
              rw [marked_bytes, putEntry_data layout _ _ is_data.entry (.inr data),
                putEntry_data layout _ _ inside (.inr data), bytes]
          · obtain ⟨regrown, shorter, unfound⟩ := stuck
            exact ⟨List.Subset.trans late last_kept, .inr ⟨between, new :: grown,
              ⟨join regrown, Nat.succ_lt_succ shorter, unfound⟩, missed⟩⟩
      · -- A cluster that may not be taken: what follows is not looked at.
        have stuck := (⟨alone, more, missed.unfound⟩ :
          Stuck env fat allowed world.bytes (left + 1 + 1) cluster known.bytes [])
        have rest : Keeps (writeClusters env fat size input (left + 1) ret new new 0
            (nextWrite fat size (left + 1) (written + length)) (written + length)) :=
          keeps_writeClusters _ _ _ _ _ _ _ _ _
        have link : Keeps (writeFATEntry env fat cluster new) := keeps_writeFATEntry _ _
        have mark : Keeps (writeFATEntry env fat new FAT_ENTRY_USED) := keeps_writeFATEntry _ _
        have linked := link.bind fun _ => mark.bind fun _ => rest
        rw [meets_ite]
        refine ⟨fun _ => .pure ⟨List.Subset.trans early kept, .inr ⟨_, [], stuck, missed⟩⟩,
          fun _ => ((linked found).mono_fault fun _ _ => .inr ⟨_, [], stuck⟩).mono ?_⟩
        intro ret after still_kept
        exact ⟨List.Subset.trans early (List.Subset.trans kept still_kept),
          .inr ⟨_, [], stuck, missed.mono still_kept⟩⟩

end LoopLaw

/-! ## The start of a write, and the whole of it -/

/-- The clusters before the position of a write. -/
def skipped (fat : FatPrivate) (startPos : Nat) : Nat := startPos / fat.clusterSize % 2 ^ 32

/-- The clusters that a write to a chain of this length searches for. -/
def clustersNeeded (fat : FatPrivate) (length size startPos : Nat) : Nat :=
  let count := clustersOfWrite fat size (startPos % fat.clusterSize)
  if skipped fat startPos < length then count - 1
  else if skipped fat startPos = length then max 1 count
  else 0

/-- Where a write begins: at a cluster of the chain, at one that is appended to
it, or not at all. -/
inductive Start (env : Environment) (fat : FatPrivate) (allowed : Nat → Prop)
    (before : Nat → UInt8) (cells : List Nat) (skip : Nat) :
    Except Code Nat → (Nat → UInt8) → List Search → Prop where
  | inside (front tail : List Nat) (cluster : Nat) (searches : List Search)
      (split : cells = front ++ cluster :: tail) (length : front.length = skip) :
      Start env fat allowed before cells skip (.ok cluster) before searches
  | beyond (searches : List Search) (short : cells.length < skip) :
      Start env fat allowed before cells skip (.error (-ENFOUND)) before searches
  | appended (front : List Nat) (last new : Nat) (searches : List Search)
      (split : cells = front ++ [last]) (length : cells.length = skip) (granted : allowed new)
      (first : FirstFree fat before new) :
      Start env fat allowed before cells skip (.ok new)
        (putEntry fat (putEntry fat before last new) new FAT_ENTRY_USED) searches
  | missed (result : Except Code Nat) (after : Nat → UInt8) (searches : List Search)
      (length : cells.length = skip) (missed : Missed env fat allowed before searches) :
      Start env fat allowed before cells skip result after searches

section WriteLaw

variable {world : World} {size startPos : Nat} {input : Nat → UInt8}

theorem findStartCluster_meets (layout : Layout env fat) (quiet : env.Quiet)
    (fitting : env.Fitting) (usable : ∀ cluster, allowed cluster → DataCluster env fat cluster)
    {head : Nat} {rest : List Nat} (chain : Chain (links fat world.bytes) (head :: rest))
    (clusters : Clusters env fat (head :: rest)) :
    Meets (findStartCluster env fat head startPos) world
      (fun fault => env.HeapFault fault ∨
        (head :: rest).length = skipped fat startPos ∧ Unfound env fat allowed world.bytes)
      fun result after => world.searches ⊆ after.searches ∧
        Start env fat allowed world.bytes (head :: rest) (skipped fat startPos) result after.bytes
          after.searches := by
  rw [findStartCluster]
  apply (skipClusters_meets layout quiet rest head _ head world chain clusters).bind
  rintro result between ⟨same, front, here, tail, split, outcome⟩
  have member : here ∈ head :: rest := by
    rw [split]
    exact List.mem_append_right _ List.mem_cons_self
  have no_mark := (clusters here member).no_mark
  rcases outcome with ⟨length, old, rfl⟩ | ⟨rfl, shorter, rfl⟩
  · -- The cluster asked for is on the chain.
    simp only
    rw [if_neg (by decide), if_neg (fun not => not rfl), if_pos ⟨no_mark.2, no_mark.1⟩]
    refine .pure ⟨same.keeps, ?_⟩
    rw [same.bytes]
    exact .inside front tail here _ split length
  · have whole : (head :: rest).length = front.length + 1 := by
      rw [split, List.length_append, List.length_singleton]
    have old : (if FAT_ENTRY_USED ≠ FAT_ENTRY_USED ∧ FAT_ENTRY_USED ≠ FAT_ENTRY_FREE
        then FAT_ENTRY_USED else here) = here := if_neg fun both => both.1 rfl
    simp only
    rw [old, meets_ite]
    constructor
    · intro one
      -- The chain ends right before the cluster asked for.
      have length : (head :: rest).length = skipped fat startPos := by
        rw [whole, skipped]
        omega
      have last : table fat world.bytes here = FAT_ENTRY_USED := by
        rw [split] at chain
        exact decode_last.mp chain.suffix
      have inside := (clusters here member).entry
      refine ((search_meets layout quiet fitting usable).mono_fault ?_).bind ?_
      · rw [same.bytes]
        exact fun fault => .imp_right fun unfound => ⟨length, unfound⟩
      rintro ⟨ret, new⟩ found ⟨bytes, kept, ⟨rfl, granted, first⟩ | missed⟩
      · simp only
        rw [meets_ite]
        refine ⟨fun negative => absurd negative (by decide), fun _ => ?_⟩
        apply (writeFATEntry_meets layout quiet new inside).bind
        rintro ret linked ⟨rfl, linked_searches, linked_bytes⟩
        rw [meets_ite]
        refine ⟨fun negative => absurd negative (by decide), fun _ => ?_⟩
        apply (writeFATEntry_meets layout quiet FAT_ENTRY_USED (usable new granted).entry).bind
        rintro ret marked ⟨rfl, marked_searches, marked_bytes⟩
        rw [meets_ite]
        refine ⟨fun negative => absurd negative (by decide), fun _ => .pure ⟨?_, ?_⟩⟩
        · rw [marked_searches, linked_searches]
          exact List.Subset.trans same.keeps kept
        · rw [marked_bytes, linked_bytes, bytes, same.bytes]
          rw [same.bytes] at first
          exact .appended front here new _ split length granted first
      · rw [same.bytes] at missed
        have link : Keeps (writeFATEntry env fat here new) := keeps_writeFATEntry _ _
        have mark : Keeps (writeFATEntry env fat new FAT_ENTRY_USED) := keeps_writeFATEntry _ _
        have finish (result : Except Code Nat) (after : World)
            (still : found.searches ⊆ after.searches) : world.searches ⊆ after.searches ∧
              Start env fat allowed world.bytes (head :: rest) (skipped fat startPos) result
                after.bytes after.searches :=
          ⟨List.Subset.trans (List.Subset.trans same.keeps kept) still,
            .missed _ _ _ length (missed.mono still)⟩
        rw [meets_ite]
        refine ⟨fun _ => .pure (finish _ _ (List.Subset.refl _)), fun _ => ?_⟩
        apply ((link found).mono_fault fun _ _ => .inr ⟨length, missed.unfound⟩).bind
        intro ret linked linked_kept
        rw [meets_ite]
        refine ⟨fun _ => .pure (finish _ _ linked_kept), fun _ => ?_⟩
        apply ((mark linked).mono_fault fun _ _ => .inr ⟨length, missed.unfound⟩).bind
        intro ret marked marked_kept
        have still := List.Subset.trans linked_kept marked_kept
        rw [meets_ite]
        exact ⟨fun _ => .pure (finish _ _ still), fun _ => .pure (finish _ _ still)⟩
    · intro more
      have short : (head :: rest).length < skipped fat startPos := by
        rw [whole, skipped]
        omega
      rw [if_pos (by omega)]
      refine .pure ⟨same.keeps, ?_⟩
      rw [same.bytes]
      exact .beyond _ short

/-- What a whole write does. The clusters up to the position are kept; those
behind it are replaced by clusters that the searches found. -/
inductive Wrote (env : Environment) (fat : FatPrivate) (allowed : Nat → Prop) (size startPos : Nat)
    (input : Nat → UInt8) (before : Nat → UInt8) (cells : List Nat) :
    Code → (Nat → UInt8) → List Search → Prop where
  | beyond (searches : List Search) (short : cells.length < skipped fat startPos) :
      Wrote env fat allowed size startPos input before cells (-ENFOUND) before searches
  | written (ret : Code) (between after : Nat → UInt8) (searches : List Search)
      (cluster : Nat) (grown : List Nat) (reached : skipped fat startPos ≤ cells.length)
      (here : cells.getD (skipped fat startPos) cluster = cluster)
      (regrown : Regrown fat allowed before after cells
        (cells.take (skipped fat startPos) ++ cluster :: grown))
      (data : ∀ address, fat.dataClusterStartAddress ≤ address → between address = before address)
      (stored : Stored env fat allowed size input between
        (clustersOfWrite fat size (startPos % fat.clusterSize)) cluster (startPos % fat.clusterSize)
        (firstWrite fat size (startPos % fat.clusterSize)) 0 ret after grown) :
      Wrote env fat allowed size startPos input before cells ret after searches
  | missed (ret : Code) (between after : Nat → UInt8) (searches : List Search) (taken : List Nat)
      (regrown : Regrown fat allowed before between cells
        (cells.take (skipped fat startPos + 1) ++ taken))
      (few : taken.length < clustersNeeded fat cells.length size startPos)
      (missed : Missed env fat allowed between searches) :
      Wrote env fat allowed size startPos input before cells ret after searches

/-- A search of the write that cannot find a cluster. -/
def WriteStuck (env : Environment) (fat : FatPrivate) (allowed : Nat → Prop) (size startPos : Nat)
    (before : Nat → UInt8) (cells : List Nat) : Prop :=
  ∃ between taken, Regrown fat allowed before between cells
      (cells.take (skipped fat startPos + 1) ++ taken) ∧
    taken.length < clustersNeeded fat cells.length size startPos ∧
    Unfound env fat allowed between

/-- The bytes with the chain cut behind a cluster. -/
def cutBehind (fat : FatPrivate) (bytes : Nat → UInt8) (cluster : Nat) (tail : List Nat) :
    Nat → UInt8 := putEntry fat (freeEntries fat bytes tail) cluster FAT_ENTRY_USED

variable (size input) in
/-- The write from a cluster on: the chain is cut behind it and grown again. -/
theorem writeFrom_meets (layout : Layout env fat) (quiet : env.Quiet) (fitting : env.Fitting)
    (usable : ∀ cluster, allowed cluster → DataCluster env fat cluster) (world : World)
    (count : Nat) {cluster : Nat} {tail : List Nat} (pos length : Nat) (chain : Chain (links fat world.bytes) (cluster :: tail))
    (distinct : (cluster :: tail).Nodup) (clusters : Clusters env fat (cluster :: tail))
    (addressed : count ≠ 0 → Addressed fat cluster ∧ ∀ other, allowed other → Addressed fat other) :
    Meets (do
        let ret ← unlinkFatChain env fat cluster
        if ret < 0 then return ret
        writeClusters env fat size input count ret cluster cluster pos length 0) world
      (fun fault => env.HeapFault fault ∨ ∃ between grown,
        Stuck env fat allowed (cutBehind fat world.bytes cluster tail) count cluster between grown)
      fun ret after => world.searches ⊆ after.searches ∧
        ((∃ grown, Stored env fat allowed size input (cutBehind fat world.bytes cluster tail) count
            cluster pos length 0 ret after.bytes grown) ∨
          ∃ between grown, Stuck env fat allowed (cutBehind fat world.bytes cluster tail) count
            cluster between grown ∧ Missed env fat allowed between after.searches) := by
  have is_data := clusters cluster List.mem_cons_self
  apply (unlinkFatChain_meets layout quiet chain distinct clusters).bind
  rintro ret cut ⟨rfl, searches, bytes⟩
  rw [meets_ite]
  refine ⟨fun negative => absurd negative (by decide), fun _ => ?_⟩
  have last : table fat cut.bytes cluster = FAT_ENTRY_USED := by
    rw [bytes, table_putEntry layout _ is_data.entry (by decide), Function.update_self]
  have law := writeClusters_meets size input layout quiet fitting usable count cut cluster pos
    length 0 is_data.entry last addressed
  rw [bytes, searches] at law
  exact law

/-- What the write from a cluster on does, seen from the chain before the write.
The cluster is the one skipped to, or an extra one behind the chain. -/
theorem Wrote.from_cut {found : World} {program : M Code} {before cut : Nat → UInt8}
    {cells : List Nat} {cluster : Nat} (extra : List Nat) (kept : world.searches ⊆ found.searches)
    (reached : skipped fat startPos ≤ cells.length)
    (here : cells.getD (skipped fat startPos) cluster = cluster)
    (front : cells.take (skipped fat startPos + 1) ++ extra =
      cells.take (skipped fat startPos) ++ [cluster])
    (few : ∀ more, more + 1 < clustersOfWrite fat size (startPos % fat.clusterSize) →
      extra.length + more < clustersNeeded fat cells.length size startPos)
    (cutting : Regrown fat allowed before cut cells
      (cells.take (skipped fat startPos) ++ [cluster]))
    (data : ∀ address, fat.dataClusterStartAddress ≤ address → cut address = before address)
    (law : Meets program found
      (fun fault => env.HeapFault fault ∨ ∃ between grown,
        Stuck env fat allowed cut (clustersOfWrite fat size (startPos % fat.clusterSize)) cluster
          between grown)
      fun ret after => found.searches ⊆ after.searches ∧
        ((∃ grown, Stored env fat allowed size input cut
            (clustersOfWrite fat size (startPos % fat.clusterSize)) cluster
            (startPos % fat.clusterSize) (firstWrite fat size (startPos % fat.clusterSize)) 0 ret
            after.bytes grown) ∨
          ∃ between grown, Stuck env fat allowed cut
            (clustersOfWrite fat size (startPos % fat.clusterSize)) cluster between grown ∧
              Missed env fat allowed between after.searches)) :
    Meets program found
      (fun fault => env.HeapFault fault ∨
        WriteStuck env fat allowed size startPos before cells)
      fun ret after => world.searches ⊆ after.searches ∧
        Wrote env fat allowed size startPos input before cells ret after.bytes after.searches := by
  have stuck_chain (grown : List Nat) : cells.take (skipped fat startPos + 1) ++ (extra ++ grown) =
      cells.take (skipped fat startPos) ++ cluster :: grown := by
    rw [← List.append_assoc, front, List.append_assoc]
    rfl
  refine (law.mono_fault ?_).mono ?_
  · rintro fault (heap | ⟨between, grown, regrown, shorter, unfound⟩)
    · exact .inl heap
    · refine .inr ⟨between, extra ++ grown, ?_, ?_, unfound⟩
      · rw [stuck_chain]
        exact cutting.extend regrown
      · rw [List.length_append]
        exact few _ shorter
  · rintro ret after ⟨later, ⟨grown, stored⟩ | ⟨between, grown, ⟨regrown, shorter, _⟩, missed⟩⟩
    · exact ⟨List.Subset.trans kept later, .written ret cut after.bytes _ cluster grown reached here
        (cutting.extend stored.regrown) data stored⟩
    · refine ⟨List.Subset.trans kept later,
        .missed ret between after.bytes _ (extra ++ grown) ?_ ?_ missed⟩
      · rw [stuck_chain]
        exact cutting.extend regrown
      · rw [List.length_append]
        exact few _ shorter

/-- `writeFatFile` on a chain. -/
theorem writeFatFile_meets (layout : Layout env fat) (quiet : env.Quiet) (fitting : env.Fitting)
    (usable : ∀ cluster, allowed cluster → DataCluster env fat cluster)
    (addressed : clustersOfWrite fat size (startPos % fat.clusterSize) ≠ 0 →
      ∀ cluster, allowed cluster → Addressed fat cluster)
    {head fileSize : Nat} {rest : List Nat} (chain : Chain (links fat world.bytes) (head :: rest))
    (distinct : (head :: rest).Nodup) (clusters : Clusters env fat (head :: rest))
    (here : clustersOfWrite fat size (startPos % fat.clusterSize) ≠ 0 →
      ∀ cluster ∈ (head :: rest)[skipped fat startPos]?, Addressed fat cluster) :
    Meets (writeFatFile env fat ⟨head, fileSize⟩ size startPos input) world
      (fun fault => env.HeapFault fault ∨
        WriteStuck env fat allowed size startPos world.bytes (head :: rest))
      fun ret after => world.searches ⊆ after.searches ∧
        Wrote env fat allowed size startPos input world.bytes (head :: rest) ret after.bytes
          after.searches := by
  -- Before the chain is extended, nothing has been changed and one cluster is needed.
  have idle (length : (head :: rest).length = skipped fat startPos) :
      Regrown fat allowed world.bytes world.bytes (head :: rest)
        ((head :: rest).take (skipped fat startPos + 1) ++ []) := by
    rw [List.append_nil, List.take_of_length_le (length.le.trans (Nat.le_succ _))]
    exact .same chain distinct
  have some_needed (length : (head :: rest).length = skipped fat startPos) :
      ([] : List Nat).length < clustersNeeded fat (head :: rest).length size startPos := by
    rw [clustersNeeded, if_neg (by omega), if_pos length.symm]
    exact Nat.lt_of_lt_of_le Nat.zero_lt_one (Nat.le_max_left _ _)
  rw [writeFatFile]
  refine ((findStartCluster_meets layout quiet fitting usable chain clusters).mono_fault ?_).bind ?_
  · rintro fault (heap | ⟨length, unfound⟩)
    · exact .inl heap
    · exact .inr ⟨world.bytes, [], idle length, some_needed length, unfound⟩
  rintro result found ⟨kept, start⟩
  generalize found_bytes : found.bytes = bytes at start
  generalize found_searches : found.searches = searches at start
  cases start with
  | inside front tail cluster _ split length =>
    have is_here : (head :: rest)[skipped fat startPos]? = some cluster := by
      rw [split, ← length, List.getElem?_append_right (le_refl _), Nat.sub_self]
      rfl
    have reached : skipped fat startPos < (head :: rest).length := by
      rw [split, List.length_append, List.length_cons]
      omega
    have take : (head :: rest).take (skipped fat startPos) = front := by
      rw [split, ← length, List.take_left]
    have take_more : (head :: rest).take (skipped fat startPos + 1) = front ++ [cluster] := by
      rw [List.take_add_one, take, is_here]
      rfl
    have cells_chain := chain
    have cells_distinct := distinct
    have cells_clusters := clusters
    rw [split] at cells_chain cells_distinct cells_clusters
    have tail_clusters : Clusters env fat (cluster :: tail) :=
      fun other member => cells_clusters other (List.mem_append_right _ member)
    have is_data := tail_clusters cluster List.mem_cons_self
    have have_entries := tail_clusters.tail.have_entries
    have cutting : Regrown fat allowed world.bytes (cutBehind fat world.bytes cluster tail)
        (head :: rest) ((head :: rest).take (skipped fat startPos) ++ [cluster]) := by
      rw [take, split]
      exact .cut layout cells_chain cells_distinct is_data.entry have_entries
    have data (address : Nat) (behind : fat.dataClusterStartAddress ≤ address) :
        cutBehind fat world.bytes cluster tail address = world.bytes address := by
      rw [cutBehind, putEntry_data layout _ _ is_data.entry (.inr behind),
        freeEntries_data layout have_entries (.inr behind)]
    rw [← found_bytes] at cells_chain
    have law := writeFrom_meets size input layout quiet fitting usable found
      (clustersOfWrite fat size (startPos % fat.clusterSize)) (startPos % fat.clusterSize)
      (firstWrite fat size (startPos % fat.clusterSize)) cells_chain.suffix
      (List.nodup_append.mp cells_distinct).2.1 tail_clusters
      fun some => ⟨here some cluster is_here, addressed some⟩
    rw [found_bytes] at law
    refine Wrote.from_cut [] kept reached.le ?_ ?_ ?_ cutting data law
    · rw [List.getD_eq_getElem?_getD, is_here]
      rfl
    · rw [List.append_nil, take, take_more]
    · intro more shorter
      rw [clustersNeeded, if_pos reached, List.length_nil]
      omega
  | beyond _ short =>
    refine .pure ⟨kept, ?_⟩
    rw [found_bytes]
    exact .beyond _ short
  | appended front last new _ split length granted first =>
    have is_data := usable new granted
    have take : (head :: rest).take (skipped fat startPos) = head :: rest :=
      List.take_of_length_le length.le
    have take_more : (head :: rest).take (skipped fat startPos + 1) = head :: rest :=
      List.take_of_length_le (length.le.trans (Nat.le_succ _))
    have last_member : last ∈ head :: rest := by
      rw [split]
      exact List.mem_append_right _ (List.mem_singleton_self _)
    have inside := (clusters last last_member).entry
    have appended : Regrown fat allowed world.bytes
        (putEntry fat (putEntry fat world.bytes last new) new FAT_ENTRY_USED) (head :: rest)
        ((head :: rest) ++ [new]) := by
      have cells_chain := chain
      have cells_distinct := distinct
      rw [split] at cells_chain cells_distinct
      have linked := Regrown.link layout inside (decode_last.mp cells_chain.suffix) is_data granted
        first.table
      rw [split, List.append_assoc]
      exact (Regrown.same cells_chain cells_distinct).extend linked
    have alone : Chain (links fat found.bytes) [new] := by
      rw [found_bytes]
      exact appended.chained.suffix
    have new_clusters : Clusters env fat [new] := by
      intro other member
      rw [List.mem_singleton.mp member]
      exact is_data
    have law := writeFrom_meets size input layout quiet fitting usable found
      (clustersOfWrite fat size (startPos % fat.clusterSize)) (startPos % fat.clusterSize)
      (firstWrite fat size (startPos % fat.clusterSize)) alone
      (List.nodup_singleton _) new_clusters fun some => ⟨addressed some new granted, addressed some⟩
    rw [found_bytes] at law
    refine Wrote.from_cut [new] kept length.ge ?_ ?_ ?_ ?_ ?_ law
    · rw [List.getD_eq_getElem?_getD, List.getElem?_eq_none length.le]
      rfl
    · rw [take, take_more]
    · intro more shorter
      rw [clustersNeeded, if_neg (by omega), if_pos length.symm, List.length_singleton]
      exact Nat.lt_of_lt_of_le (by omega) (Nat.le_max_right _ _)
    · rw [take]
      refine appended.then_data ?_ fun step => step.putEntry layout _ is_data.entry
      rw [cutBehind, freeEntries, table_putEntry layout _ is_data.entry (by decide)]
      refine Function.update_eq_self_iff.mpr ?_
      rw [table_putEntry layout _ is_data.entry (by decide), Function.update_self]
    · intro address behind
      rw [cutBehind, freeEntries, putEntry_data layout _ _ is_data.entry (.inr behind),
        putEntry_data layout _ _ is_data.entry (.inr behind),
        putEntry_data layout _ _ inside (.inr behind)]
  | missed _ _ _ length missed =>
    have finish (ret : Code) (after : World) (still : found.searches ⊆ after.searches) :
        world.searches ⊆ after.searches ∧ Wrote env fat allowed size startPos input world.bytes
          (head :: rest) ret after.bytes after.searches := by
      rw [← found_searches] at missed
      exact ⟨List.Subset.trans kept still,
        .missed _ world.bytes _ _ [] (idle length) (some_needed length) (missed.mono still)⟩
    have stuck : WriteStuck env fat allowed size startPos world.bytes (head :: rest) :=
      ⟨world.bytes, [], idle length, some_needed length, missed.unfound⟩
    cases result with
    | error ret => exact .pure (finish _ _ (List.Subset.refl _))
    | ok cluster =>
      have unlink : Keeps (unlinkFatChain env fat cluster) := keeps_unlinkFatChain _
      apply ((unlink found).mono_fault fun _ _ => .inr stuck).bind
      intro ret cut cut_kept
      rw [meets_ite]
      refine ⟨fun _ => .pure (finish _ _ cut_kept), fun _ => ?_⟩
      refine ((keeps_writeClusters _ _ _ _ _ _ _ _ _ cut).mono_fault fun _ _ => .inr stuck).mono ?_
      exact fun ret after later => finish ret after (List.Subset.trans cut_kept later)

end WriteLaw

end BobaOS.Fat
