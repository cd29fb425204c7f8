import Mathlib.Data.Finset.Lattice.Basic
import BobaOS.Library.Runs
import BobaOS.Fat.WriteLaws

/-!
# Well-formed tables over whole runs

A table is well-formed for a set of heads when their chains are finite, disjoint
and hold every entry that is not free, and the two FATs agree. Files are created,
directories grow and files are written, in any order.

A run keeps the table well-formed as long as each step writes data only to
clusters whose address fits into 32 bits: an address that does not fit is that of
another place of the volume, which may be inside the FATs.
-/

namespace BobaOS.Fat

open ByteStore Programs Chains Runs

/-- A volume formatted with two FATs and with clusters of an ordinary size. -/
structure Formatted (env : Environment) (bootRecord : MasterBootRecord) : Prop where
  sector : bootRecord.bytesPerSector ≤ 4096
  reserved : bootRecord.reservedSectors < 2 ^ 16
  copies : bootRecord.fatCopies = 2
  entries : bootRecord.sectorsPerFat32 * bootRecord.bytesPerSector ≤ 2 ^ 30
  inside : bootRecord.reservedSectors * bootRecord.bytesPerSector +
    2 * (bootRecord.sectorsPerFat32 * bootRecord.bytesPerSector) ≤ env.volumeSize
  smallest : 512 ≤ bootRecord.bytesPerSector * bootRecord.sectorsPerCluster
  largest : bootRecord.bytesPerSector * bootRecord.sectorsPerCluster ≤ 32768

variable {env : Environment} {bootRecord : MasterBootRecord} {fat : FatPrivate}

theorem Formatted.clusterSize (formatted : Formatted env bootRecord) :
    (attachToDisk bootRecord).clusterSize =
      bootRecord.bytesPerSector * bootRecord.sectorsPerCluster :=
  Nat.mod_eq_of_lt (formatted.largest.trans_lt (by decide))

/-- What is derived from the boot record of a formatted volume is a layout. -/
theorem Formatted.layout (formatted : Formatted env bootRecord) :
    Layout env (attachToDisk bootRecord) := by
  have reserved : bootRecord.reservedSectors * bootRecord.bytesPerSector ≤ 2 ^ 16 * 4096 :=
    Nat.mul_le_mul formatted.reserved.le formatted.sector
  have entries := formatted.entries
  have inside := formatted.inside
  have first : (attachToDisk bootRecord).fatAddress =
      bootRecord.reservedSectors * bootRecord.bytesPerSector := Nat.mod_eq_of_lt (by omega)
  have second : (attachToDisk bootRecord).fatCopyStartAddress =
      bootRecord.reservedSectors * bootRecord.bytesPerSector +
        bootRecord.sectorsPerFat32 * bootRecord.bytesPerSector := by
    rw [← first]
    exact Nat.mod_eq_of_lt (by omega)
  have data : (attachToDisk bootRecord).dataClusterStartAddress =
      bootRecord.reservedSectors * bootRecord.bytesPerSector +
        bootRecord.sectorsPerFat32 * bootRecord.bytesPerSector * 2 := by
    rw [← first, ← formatted.copies]
    refine Nat.mod_eq_of_lt ?_
    rw [formatted.copies]
    omega
  have size : (attachToDisk bootRecord).fatSize =
      bootRecord.sectorsPerFat32 * bootRecord.bytesPerSector := rfl
  constructor
  · rw [second, first, size]
  · rw [second, data, size]
    omega
  · rw [data]
    omega
  · rw [data]
    omega
  · rw [formatted.clusterSize]
    exact Nat.lt_of_lt_of_le (by decide) formatted.smallest

/-- The chains of the heads are finite, disjoint and made of data clusters, every
entry in use is on one of them, and the copies are in step. -/
structure WellFormed (env : Environment) (fat : FatPrivate) (bytes : Nat → UInt8)
    (heads : Nat → Prop) : Prop where
  copies : InStep fat bytes
  chains : ∃ chain, Forest (links fat bytes) (DataCluster env fat) (2 ≤ ·) heads chain

/-- A mounted volume with the heads of its files and directories. -/
structure Mounted where
  world : World
  heads : Nat → Prop

inductive Call where
  | create (address : Nat) (fileName : Nat → UInt8) (errCode : Code)
  | grow (head : Nat)
  | write (head fileSize size startPos : Nat) (input : Nat → UInt8)

section Runs

variable (env : Environment) (fat : FatPrivate)

/-- Every search on record gave a data cluster whose entry was free. -/
def GoodSearches (world : World) : Prop :=
  ∀ search ∈ world.searches, DataCluster env fat search.cluster ∧ search.entry = FAT_ENTRY_FREE

/-- The 32 bytes at the address are in a cluster that is in use. -/
def InUse (bytes : Nat → UInt8) (address : Nat) : Prop :=
  ∃ cluster, DataCluster env fat cluster ∧ table fat bytes cluster ≠ FAT_ENTRY_FREE ∧
    fat.dataClusterStartAddress + (cluster - 2) * fat.clusterSize ≤ address ∧
    address + 32 ≤ fat.dataClusterStartAddress + (cluster - 1) * fat.clusterSize

/-- The calls that return: a new file adds the cluster that was found to the
heads, a directory grows behind the last cluster of its chain, and a file is
written that has a head. -/
inductive Step (state : Mounted) : Call → Mounted → Prop where
  | create (address : Nat) (fileName : Nat → UInt8) (errCode code : Code) (file : Option FatFile)
      (world : World) (search : Search) (nonnegative : 0 ≤ errCode)
      (inUse : InUse env fat state.world.bytes address)
      (ran : (createFileEntryAtAbsoluteAddress env fat address fileName errCode).run state.world =
        .ok ((code, file), world))
      (searched : world.searches = state.world.searches ++ [search]) :
      Step state (.create address fileName errCode)
        ⟨world, fun other => state.heads other ∨ other = search.cluster⟩
  | grow (head last : Nat) (front : List Nat) (ret : Code) (world : World) (known : state.heads head)
      (begins : (front ++ [last]).head? = some head)
      (chain : Chain (links fat state.world.bytes) (front ++ [last]))
      (ran : (makeDirBigger env fat last).run state.world = .ok (ret, world)) :
      Step state (.grow head) ⟨world, state.heads⟩
  | write (head fileSize size startPos : Nat) (input : Nat → UInt8) (ret : Code) (world : World)
      (known : state.heads head)
      (ran : (writeFatFile env fat ⟨head, fileSize⟩ size startPos input).run state.world =
        .ok (ret, world)) :
      Step state (.write head fileSize size startPos input) ⟨world, state.heads⟩

/-- Runs from a well-formed volume on, in which every search is good. -/
def fatSystem : System Mounted Call where
  start state := WellFormed env fat state.world.bytes state.heads
  step state call after := Step env fat state call after ∧ GoodSearches env fat after.world

end Runs

/-- One of the lowest clusters, so many, among those that are free or dropped. -/
def Taken (fat : FatPrivate) (bytes : Nat → UInt8) (dropped : List Nat) (count cluster : Nat) :
    Prop :=
  (table fat bytes cluster = FAT_ENTRY_FREE ∨ cluster ∈ dropped) ∧
    ((Finset.range cluster).filter fun other =>
      table fat bytes other = FAT_ENTRY_FREE ∨ other ∈ dropped).card < count

/-- The address of every data cluster that the step writes data to fits: of the
cluster that a write begins with and of those that it comes to take, and of the
one that a directory is given. -/
def Fits (env : Environment) (fat : FatPrivate) (state : Mounted) : Call → Prop
  | .create _ _ _ => True
  | .grow _ => ∀ cluster, DataCluster env fat cluster →
      Taken fat state.world.bytes [] 1 cluster → Addressed fat cluster
  | .write head _ size startPos _ => ∀ rest, Chain (links fat state.world.bytes) (head :: rest) →
      clustersOfWrite fat size (startPos % fat.clusterSize) ≠ 0 →
      (∀ cluster ∈ (head :: rest)[skipped fat startPos]?, Addressed fat cluster) ∧
        ∀ cluster, DataCluster env fat cluster →
          Taken fat state.world.bytes ((head :: rest).drop (skipped fat startPos + 1))
            (clustersNeeded fat (head :: rest).length size startPos) cluster →
          Addressed fat cluster

/-! ## The clusters that searches come to -/

variable {allowed : Nat → Prop} {before between : Nat → UInt8} {cells taken : List Nat} {kept : Nat}

/-- A cluster that was free or is dropped stays free until it is taken. -/
theorem Regrown.still_free (chain : Chain (links fat before) cells) (distinct : cells.Nodup)
    (regrown : Regrown fat allowed before between cells (cells.take kept ++ taken)) {cluster : Nat}
    (available : table fat before cluster = FAT_ENTRY_FREE ∨ cluster ∈ cells.drop kept)
    (not_taken : cluster ∉ taken) : table fat between cluster = FAT_ENTRY_FREE := by
  have whole : cells.take kept ++ cells.drop kept = cells := List.take_append_drop kept cells
  have not_kept : cluster ∉ cells.take kept := by
    intro here
    rcases available with free | dropped
    · exact chain_entry chain (List.mem_of_mem_take here) free
    · rw [← whole] at distinct
      exact (List.nodup_append.mp distinct).2.2 _ here _ dropped rfl
  have not_new : cluster ∉ cells.take kept ++ taken := by
    rw [List.mem_append, not_or]
    exact ⟨not_kept, not_taken⟩
  by_cases old : cluster ∈ cells
  · exact regrown.dropped cluster old not_new
  · rw [regrown.elsewhere cluster old not_new]
    exact available.resolve_right fun dropped => old (List.mem_of_mem_drop dropped)

/-- The first free cluster after some have been taken is one of the lowest. -/
theorem Regrown.first_taken (chain : Chain (links fat before) cells) (distinct : cells.Nodup)
    (regrown : Regrown fat allowed before between cells (cells.take kept ++ taken)) {count : Nat}
    (few : taken.length < count) {cluster : Nat} (inside : 4 * cluster + 4 ≤ fat.fatSize)
    (first : FirstFree fat between cluster) :
    Taken fat before (cells.drop kept) count cluster := by
  have not_new : cluster ∉ cells.take kept ++ taken :=
    fun here => chain_entry regrown.chained here first.table
  constructor
  · by_cases old : cluster ∈ cells
    · rw [← List.take_append_drop kept cells] at old
      refine .inr ((List.mem_append.mp old).resolve_left fun early => not_new ?_)
      exact List.mem_append_left _ early
    · rw [← regrown.elsewhere cluster old not_new]
      exact .inl first.table
  · refine Nat.lt_of_le_of_lt ?_ few
    refine (Finset.card_le_card fun other member => ?_).trans (List.toFinset_card_le taken)
    obtain ⟨below, available⟩ := Finset.mem_filter.mp member
    rw [List.mem_toFinset]
    by_contra not_taken
    have lower : other < cluster := Finset.mem_range.mp below
    have other_inside : 4 * other + 4 ≤ fat.fatSize := by omega
    refine first.2 other lower ?_
    rw [← table_eq _ other_inside]
    exact regrown.still_free chain distinct available not_taken

/-! ## One change of a chain -/

/-- A table stays well-formed when one of its chains is changed, or one is added. -/
theorem WellFormed.regrow {after : Nat → UInt8} {heads : Nat → Prop} {chain : Nat → List Nat}
    (copies : InStep fat before)
    (forest : Forest (links fat before) (DataCluster env fat) (2 ≤ ·) heads chain) {head : Nat}
    {old new : List Nat} (was : heads head → chain head = old) (owned : ¬ heads head → old = [])
    (begins : ∃ rest, new = head :: rest)
    (usable : ∀ cluster, allowed cluster → DataCluster env fat cluster)
    (regrown : Regrown fat allowed before after old new) :
    WellFormed env fat after fun other => heads other ∨ other = head := by
  refine ⟨regrown.copies copies, _, forest.replace was begins regrown.chained regrown.distinct ?_
    ?_ ?_ ?_ owned⟩
  · intro cluster member
    by_cases here : cluster ∈ old
    · by_cases known : heads head
      · exact forest.usable head cluster known (was known ▸ here)
      · rw [owned known] at here
        exact absurd here List.not_mem_nil
    · exact usable cluster (regrown.fresh cluster member here).1
  · exact fun cluster not_old not_new => congrArg decode (regrown.elsewhere cluster not_old not_new)
  · exact fun cluster member absent => decode_free.mpr (regrown.fresh cluster member absent).2
  · exact fun cluster member absent => decode_free.mpr (regrown.dropped cluster member absent)

/-- The same when the head is one of the heads already. -/
theorem WellFormed.same_heads {after : Nat → UInt8} {heads : Nat → Prop} {head : Nat}
    (known : heads head) (formed : WellFormed env fat after fun other => heads other ∨ other = head) :
    WellFormed env fat after heads := by
  obtain ⟨chain, forest⟩ := formed.chains
  exact ⟨formed.copies, chain, forest.same_heads known⟩

/-! ## The three calls -/

variable {world : World}

/-- A new file: a cluster of its own is marked, and its directory entry is
written behind the FATs. -/
theorem create_meets (layout : Layout env fat) (quiet : env.Quiet) (fitting : env.Fitting)
    {address : Nat} (behind : fat.dataClusterStartAddress ≤ address) (fileName : Nat → UInt8)
    {errCode : Code} (nonnegative : 0 ≤ errCode) :
    Meets (createFileEntryAtAbsoluteAddress env fat address fileName errCode) world (fun _ => True)
      fun _ after => GoodSearches env fat after → ∃ search,
        after.searches = world.searches ++ [search] ∧
        Regrown fat (DataCluster env fat) world.bytes after.bytes [] [search.cluster] := by
  have narrow : fat.fatAddress < 2 ^ 32 := by
    have copy := layout.copy
    have data := layout.data
    have below := layout.narrow
    omega
  rw [createFileEntryAtAbsoluteAddress]
  refine ((getFreeFatEntryCluster_meets quiet fitting narrow nonnegative).mono_fault
    fun _ _ => trivial).bind ?_
  rintro ⟨code, cluster⟩ found ⟨bytes, searches, searched⟩
  have recorded : (⟨cluster, entryAt fat world.bytes cluster⟩ : Search) ∈ found.searches := by
    rw [searches]
    exact List.mem_append_right _ (List.mem_singleton_self _)
  simp only
  rw [meets_ite]
  constructor
  · rintro rfl
    exact .pure fun good => absurd (good _ recorded).1.numbered (show ¬ 2 ≤ 0 by decide)
  intro some
  by_cases is_data : DataCluster env fat cluster
  case neg =>
    have mark : Keeps (writeFATEntry env fat cluster 0x0FFFFFFF) := keeps_writeFATEntry _ _
    have seek : Keeps (seekWrite env address) := keeps_seekWrite _
    have write : Keeps (writeStream env (newFileEntry fileName cluster) 32) := keeps_writeStream _ _
    have finish {after : World} (kept : found.searches ⊆ after.searches) :
        GoodSearches env fat after → ∃ search, after.searches = world.searches ++ [search] ∧
          Regrown fat (DataCluster env fat) world.bytes after.bytes [] [search.cluster] :=
      fun good => absurd (good _ (kept recorded)).1 is_data
    apply (mark found).bind
    intro ret marked marked_kept
    rw [meets_ite]
    refine ⟨fun _ => .pure (finish marked_kept), fun _ => ?_⟩
    apply (seek marked).bind
    intro ret placed placed_kept
    have early := List.Subset.trans marked_kept placed_kept
    rw [meets_ite]
    refine ⟨fun _ => .pure (finish early), fun _ => ?_⟩
    apply (write placed).bind
    intro ret written written_kept
    have late := List.Subset.trans early written_kept
    rw [meets_ite]
    refine ⟨fun _ => .pure (finish late), fun _ => ?_⟩
    apply (keeps_kzalloc 8 written).bind
    rintro (_ | block) after kept
    · exact .pure (finish (List.Subset.trans late kept))
    · exact .pure (finish (List.Subset.trans late kept))
  have free : table fat world.bytes cluster = FAT_ENTRY_FREE := by
    rcases searched.hits (fun none : DataCluster env fat 0 => absurd none.numbered (by decide))
      with ⟨-, -, first⟩ | ⟨-, refused, -⟩
    · exact first.table
    · exact absurd is_data refused
  apply (writeFATEntry_meets layout quiet 0x0FFFFFFF is_data.entry).bind
  rintro ret marked ⟨rfl, marked_searches, marked_bytes⟩
  rw [bytes] at marked_bytes
  -- Nothing that follows touches the FATs or the record.
  have finish {after : World} (kept : after.searches = marked.searches)
      (same : table fat after.bytes = table fat marked.bytes)
      (copies : InStep fat marked.bytes → InStep fat after.bytes) :
      GoodSearches env fat after → ∃ search, after.searches = world.searches ++ [search] ∧
        Regrown fat (DataCluster env fat) world.bytes after.bytes [] [search.cluster] := by
    intro _
    refine ⟨⟨cluster, _⟩, kept.trans (marked_searches.trans searches), ?_⟩
    refine Regrown.then_data ?_ same copies
    rw [marked_bytes]
    exact .head layout is_data is_data free
  rw [meets_ite]
  refine ⟨fun negative => absurd negative (by decide), fun _ => ?_⟩
  apply (seekWrite_meets _).bind
  rintro ret moved ⟨still, ⟨rfl, -, placed⟩ | ⟨rfl, outside⟩⟩
  case inr =>
    rw [meets_ite]
    refine ⟨fun _ => .pure (finish still.searches ?_ ?_), fun not => absurd (by decide) not⟩
    · rw [still.bytes]
    · rw [still.bytes]
      exact id
  rw [meets_ite]
  refine ⟨fun negative => absurd negative (by decide), fun _ => ?_⟩
  apply (writeStream_meets quiet _ _).bind
  rintro ret written ⟨kept, stored⟩
  have same : table fat written.bytes = table fat marked.bytes ∧
      (InStep fat marked.bytes → InStep fat written.bytes) := by
    rcases stored with ⟨-, -, stored⟩ | ⟨-, -, refused⟩
    · rw [stored, placed, still.bytes]
      exact ⟨table_overwrite layout _ _ _ behind, fun step => step.overwrite layout _ _ behind⟩
    · rw [refused, still.bytes]
      exact ⟨rfl, id⟩
  rw [meets_ite]
  refine ⟨fun _ => .pure (finish (kept.trans still.searches) same.1 same.2), fun _ => ?_⟩
  apply (kzalloc_meets 8).bind
  rintro block after ⟨unchanged, -⟩
  rw [← unchanged.bytes] at same
  have final := finish ((unchanged.searches.trans kept).trans still.searches) same.1 same.2
  cases block with
  | none => exact .pure final
  | some block => exact .pure final

/-- A directory that grows: the cluster that the search found is linked behind
its last one, and zeroed behind the FATs. -/
theorem makeDirBigger_meets (layout : Layout env fat) (quiet : env.Quiet) (fitting : env.Fitting)
    {allowed : Nat → Prop} (usable : ∀ cluster, allowed cluster → DataCluster env fat cluster)
    (addressed : ∀ cluster, allowed cluster → Addressed fat cluster) {front : List Nat}
    {last : Nat} (chain : Chain (links fat world.bytes) (front ++ [last]))
    (distinct : (front ++ [last]).Nodup) (inside : 4 * last + 4 ≤ fat.fatSize) :
    Meets (makeDirBigger env fat last) world (fun _ => True) fun _ after =>
      (∃ new, Regrown fat allowed world.bytes after.bytes (front ++ [last]) (front ++ [last, new])) ∨
        Missed env fat allowed world.bytes after.searches := by
  rw [makeDirBigger]
  refine ((search_meets layout quiet fitting usable).mono_fault fun _ _ => trivial).bind ?_
  rintro ⟨code, new⟩ found ⟨bytes, kept, ⟨rfl, granted, first⟩ | missed⟩
  case inr =>
    have link : Keeps (writeFATEntry env fat last new) := keeps_writeFATEntry _ _
    have mark : Keeps (writeFATEntry env fat new FAT_ENTRY_USED) := keeps_writeFATEntry _ _
    have seek : Keeps (seekWrite env (dataClusterToAbsoluteAddress fat new)) := keeps_seekWrite _
    have zero : Keeps (writeStream env (fun _ => 0) fat.clusterSize) := keeps_writeStream _ _
    have finish {after : World} (still : found.searches ⊆ after.searches) :=
      (.inr (missed.mono still) : (∃ new, Regrown fat allowed world.bytes after.bytes
        (front ++ [last]) (front ++ [last, new])) ∨ Missed env fat allowed world.bytes
          after.searches)
    rw [meets_ite]
    refine ⟨fun _ => .pure (finish (List.Subset.refl _)), fun _ => ?_⟩
    rw [meets_ite]
    refine ⟨fun _ => .pure (finish (List.Subset.refl _)), fun _ => ?_⟩
    refine ((link.check fun _ => mark.check fun _ => seek.check fun _ => zero.check fun _ =>
      .pure _) found).mono fun _ _ still => finish still
  have is_data := usable new granted
  have some : ¬ new = 0 := is_data.no_mark.1
  simp only
  rw [if_success, if_neg some]
  apply (writeFATEntry_meets layout quiet new inside).bind
  rintro ret linked ⟨rfl, -, linked_bytes⟩
  rw [if_success]
  apply (writeFATEntry_meets layout quiet FAT_ENTRY_USED is_data.entry).bind
  rintro ret marked ⟨rfl, -, marked_bytes⟩
  rw [if_success]
  rw [linked_bytes, bytes] at marked_bytes
  have linking := Regrown.link layout inside (decode_last.mp chain.suffix) is_data granted first.table
  have grown : Regrown fat allowed world.bytes marked.bytes (front ++ [last])
      (front ++ [last, new]) := by
    rw [marked_bytes]
    exact (Regrown.same chain distinct).extend linking
  have finish {after : World} (same : table fat after.bytes = table fat marked.bytes)
      (copies : InStep fat marked.bytes → InStep fat after.bytes) :=
    (.inl ⟨new, grown.then_data same copies⟩ : (∃ new, Regrown fat allowed world.bytes after.bytes
      (front ++ [last]) (front ++ [last, new])) ∨ Missed env fat allowed world.bytes after.searches)
  apply (seekWrite_meets _).bind
  rintro ret moved ⟨still, ⟨rfl, -, placed⟩ | ⟨rfl, outside⟩⟩
  case inr =>
    rw [if_refused]
    refine .pure (finish ?_ ?_)
    · rw [still.bytes]
    · rw [still.bytes]
      exact id
  rw [if_success]
  apply (writeStream_meets quiet _ _).bind
  rintro ret after ⟨-, stored⟩
  have same : table fat after.bytes = table fat marked.bytes ∧
      (InStep fat marked.bytes → InStep fat after.bytes) := by
    rcases stored with ⟨-, -, stored⟩ | ⟨-, -, refused⟩
    · have behind := addressed new granted
      rw [stored, placed, still.bytes]
      exact ⟨table_overwrite layout _ _ _ behind, fun step => step.overwrite layout _ _ behind⟩
    · rw [refused, still.bytes]
      exact ⟨rfl, id⟩
  rw [meets_ite]
  exact ⟨fun _ => .pure (finish same.1 same.2), fun _ => .pure (finish same.1 same.2)⟩

/-! ## Steps and runs -/

/-- What a write leaves, when all its searches were good. -/
theorem Wrote.well_formed {allowed : Nat → Prop} {size startPos : Nat} {input : Nat → UInt8}
    {after : Nat → UInt8} {searches : List Search} {heads : Nat → Prop} {chain : Nat → List Nat}
    {head : Nat} {rest : List Nat} {ret : Code} (copies : InStep fat before)
    (forest : Forest (links fat before) (DataCluster env fat) (2 ≤ ·) heads chain)
    (known : heads head) (starts : chain head = head :: rest)
    (usable : ∀ cluster, allowed cluster → DataCluster env fat cluster)
    (may : ∀ cluster, DataCluster env fat cluster →
      Taken fat before ((head :: rest).drop (skipped fat startPos + 1))
        (clustersNeeded fat (head :: rest).length size startPos) cluster → allowed cluster)
    (good : ∀ search ∈ searches, DataCluster env fat search.cluster)
    (wrote : Wrote env fat allowed size startPos input before (head :: rest) ret after searches) :
    WellFormed env fat after heads := by
  have cells_chain : Chain (links fat before) (head :: rest) := starts ▸ forest.chained head known
  have cells_distinct : (head :: rest).Nodup := starts ▸ forest.distinct head known
  cases wrote with
  | beyond => exact ⟨copies, chain, forest⟩
  | written ret between after searches cluster grown reached here regrown =>
    refine .same_heads known (.regrow copies forest (fun _ => starts) (absurd known) ?_ usable
      regrown)
    generalize skipped fat startPos = skip at reached here regrown ⊢
    cases skip with
    | zero =>
      obtain rfl : head = cluster := here
      exact ⟨grown, rfl⟩
    | succ skip => exact ⟨rest.take skip ++ cluster :: grown, rfl⟩
  | missed ret between after searches taken regrown few missed =>
    -- A good search would have been one that may be taken.
    obtain ⟨search, member, refused, shown⟩ := missed.recorded
    have is_data := good search member
    rcases shown with none | first
    · exact absurd none is_data.no_mark.1
    · refine absurd (may search.cluster is_data ?_) refused
      exact regrown.first_taken cells_chain cells_distinct few is_data.entry first

/-- A step keeps the table well-formed. -/
theorem Step.well_formed (layout : Layout env fat) (quiet : env.Quiet) (fitting : env.Fitting)
    {state after : Mounted} {call : Call} (formed : WellFormed env fat state.world.bytes state.heads)
    (fits : Fits env fat state call) (stepped : Step env fat state call after)
    (good : GoodSearches env fat after.world) :
    WellFormed env fat after.world.bytes after.heads := by
  obtain ⟨chain, forest⟩ := formed.chains
  cases stepped with
  | create address fileName errCode code file world search nonnegative inUse ran searched =>
    obtain ⟨cluster, is_data, _, first, _⟩ := inUse
    have behind : fat.dataClusterStartAddress ≤ address := (Nat.le_add_right _ _).trans first
    obtain ⟨made, added, regrown⟩ :=
      (create_meets layout quiet fitting behind fileName nonnegative).returned ran good
    obtain rfl : search = made := by
      rw [searched] at added
      exact List.singleton_inj.mp (List.append_cancel_left added)
    have free := (regrown.fresh _ (List.mem_singleton_self _) List.not_mem_nil).2
    refine .regrow formed.copies forest ?_ (fun _ => rfl) ⟨[], rfl⟩ (fun _ may => may) regrown
    intro known
    obtain ⟨rest, starts⟩ := forest.starts _ known
    have linked := forest.chained _ known
    rw [starts] at linked
    exact absurd free (chain_entry linked List.mem_cons_self)
  | grow head last front ret world known begins linked ran =>
    obtain ⟨rest, starts⟩ := forest.starts head known
    have head_chain := forest.chained head known
    -- The chain that is grown is the chain of the head.
    obtain ⟨others, split⟩ : ∃ others, front ++ [last] = head :: others := by
      cases front with
      | nil => exact ⟨[], by rw [← Option.some.inj begins]; rfl⟩
      | cons first front => exact ⟨front ++ [last], by rw [← Option.some.inj begins]; rfl⟩
    have whole : chain head = front ++ [last] := by
      rw [starts] at head_chain ⊢
      rw [split] at linked ⊢
      rw [head_chain.unique linked]
    have distinct : (front ++ [last]).Nodup := whole ▸ forest.distinct head known
    have inside := (forest.usable head last known
      (whole ▸ List.mem_append_right _ (List.mem_singleton_self _))).entry
    have usable (cluster : Nat) (may : DataCluster env fat cluster ∧ Addressed fat cluster) :
        DataCluster env fat cluster := may.1
    have law := (makeDirBigger_meets layout quiet fitting usable (fun _ may => may.2) linked
      distinct inside).returned ran
    rcases law with ⟨new, regrown⟩ | missed
    · refine .same_heads known (.regrow formed.copies forest (fun _ => whole) (absurd known) ?_
        usable regrown)
      refine ⟨others ++ [new], ?_⟩
      rw [← List.cons_append, ← split, List.append_assoc]
      rfl
    · obtain ⟨search, member, refused, shown⟩ := missed.recorded
      have is_data := (good search member).1
      rcases shown with none | first
      · exact absurd none is_data.no_mark.1
      · refine absurd ⟨is_data, fits _ is_data ⟨.inl first.table, ?_⟩⟩ refused
        rw [Nat.lt_one_iff, Finset.card_eq_zero, Finset.filter_eq_empty_iff]
        intro other below
        have lower : other < search.cluster := Finset.mem_range.mp below
        have other_inside : 4 * other + 4 ≤ fat.fatSize := by
          have entry := is_data.entry
          omega
        rw [not_or]
        refine ⟨?_, List.not_mem_nil⟩
        rw [table_eq _ other_inside]
        exact first.2 other lower
  | write head fileSize size startPos input ret world known ran =>
    obtain ⟨rest, starts⟩ := forest.starts head known
    have linked : Chain (links fat state.world.bytes) (head :: rest) :=
      starts ▸ forest.chained head known
    have distinct : (head :: rest).Nodup := starts ▸ forest.distinct head known
    have clusters : Clusters env fat (head :: rest) :=
      fun cluster member => forest.usable head cluster known (starts ▸ member)
    have usable (cluster : Nat) (may : DataCluster env fat cluster ∧
        (clustersOfWrite fat size (startPos % fat.clusterSize) ≠ 0 → Addressed fat cluster)) :
        DataCluster env fat cluster := may.1
    have law := (writeFatFile_meets layout quiet fitting usable (fun some _ may => may.2 some) linked
      distinct clusters fun some => (fits rest linked some).1).returned ran
    refine law.2.well_formed formed.copies forest known starts usable ?_
      fun search member => (good search member).1
    exact fun cluster is_data taken => ⟨is_data, fun some => (fits rest linked some).2 cluster
      is_data taken⟩

/-- Files are created, directories grow and files are written without a cluster
being lost, shared or linked in a cycle, and with both FATs in step, as long as
each step writes data only to clusters whose address fits. -/
theorem well_formed_while_addresses_fit (formatted : Formatted env bootRecord) (quiet : env.Quiet)
    (fitting : env.Fitting) {past : List Call} {state : Mounted}
    (reached : ((fatSystem env (attachToDisk bootRecord)).restrict
      (Fits env (attachToDisk bootRecord))).Reaches past state) :
    WellFormed env (attachToDisk bootRecord) state.world.bytes state.heads := by
  have invariant : System.Invariant ((fatSystem env (attachToDisk bootRecord)).restrict
      (Fits env (attachToDisk bootRecord)))
      fun _ state => WellFormed env (attachToDisk bootRecord) state.world.bytes state.heads := by
    constructor
    · exact fun state started => started
    · intro past state after call formed stepped
      exact stepped.2.1.well_formed formatted.layout quiet fitting formed stepped.1 stepped.2.2
  exact invariant.reached reached

/-! ## A volume with one file -/

/-- A volume on which nothing goes wrong, with this many bytes. -/
def plainEnvironment (volumeSize : Nat) : Environment where
  volumeSize := volumeSize
  transfer _ := SUCCESS
  spoiled _ bytes := bytes
  kzalloc _ _ := true
  capacity size := size

/-- The volume right after mounting, with these bytes. -/
def freshWorld (bytes : Nat → UInt8) : World := ⟨bytes, 0, 0, [], 0, 0, []⟩

/-- The only file of a volume has this cluster. -/
def oneFile (bootRecord : MasterBootRecord) (cluster : Nat) : Mounted where
  world := freshWorld (putEntry (attachToDisk bootRecord) (fun _ => 0) cluster FAT_ENTRY_USED)
  heads other := False ∨ other = cluster

theorem table_blank (cluster : Nat) : table fat (fun _ => 0) cluster = FAT_ENTRY_FREE := by
  simp [table, entryAt, readWord, FAT_ENTRY_FREE]

/-- A blank table is well-formed for no heads. -/
theorem blank_well_formed (env : Environment) (fat : FatPrivate) :
    WellFormed env fat (fun _ => 0) fun _ => False where
  copies _ _ := rfl
  chains := by
    refine ⟨fun _ => [], fun _ => False.elim, fun _ => False.elim, fun _ => False.elim,
      fun _ _ => False.elim, fun _ _ => False.elim, ?_⟩
    exact fun cluster _ used => absurd (decode_free.mpr (table_blank cluster)) used

theorem oneFile_well_formed (formatted : Formatted env bootRecord) {cluster : Nat}
    (is_data : DataCluster env (attachToDisk bootRecord) cluster) :
    WellFormed env (attachToDisk bootRecord) (oneFile bootRecord cluster).world.bytes
      (oneFile bootRecord cluster).heads := by
  have blank := blank_well_formed env (attachToDisk bootRecord)
  obtain ⟨chain, forest⟩ := blank.chains
  exact .regrow blank.copies forest False.elim (fun _ => rfl) ⟨[], rfl⟩ (fun _ may => may)
    (.head formatted.layout is_data is_data (table_blank cluster))

/-- A small volume: 128 clusters of one sector. -/
def smallRecord : MasterBootRecord := ⟨512, 1, 32, 2, 162, 1, 2⟩

/-- A file of one cluster on it is written, and the table stays well-formed. -/
theorem small_write_well_formed : ∃ state,
    ((fatSystem (plainEnvironment 82944) (attachToDisk smallRecord)).restrict
      (Fits (plainEnvironment 82944) (attachToDisk smallRecord))).Reaches
        [.write 5 0 12 0 fun _ => 7] state ∧
    WellFormed (plainEnvironment 82944) (attachToDisk smallRecord) state.world.bytes state.heads := by
  have formatted : Formatted (plainEnvironment 82944) smallRecord := by
    constructor <;> decide
  have is_data : DataCluster (plainEnvironment 82944) (attachToDisk smallRecord) 5 := by
    constructor <;> decide
  have shown : (((writeFatFile (plainEnvironment 82944) (attachToDisk smallRecord)
      ⟨5, 0⟩ 12 0 fun _ => 7).run (oneFile smallRecord 5).world).toOption.map fun result =>
        result.2.searches.length) = some 0 := by
    decide +kernel
  obtain ⟨⟨ret, world⟩, ran, none⟩ := Option.map_eq_some_iff.mp shown
  have good : GoodSearches (plainEnvironment 82944) (attachToDisk smallRecord) world := by
    intro search member
    rw [List.eq_nil_of_length_eq_zero none] at member
    exact absurd member List.not_mem_nil
  have stepped : Step (plainEnvironment 82944) (attachToDisk smallRecord) (oneFile smallRecord 5)
      (.write 5 0 12 0 fun _ => 7) ⟨world, (oneFile smallRecord 5).heads⟩ :=
    .write 5 0 12 0 (fun _ => 7) ret world (.inr rfl) (ran_of_toOption ran)
  have fits : Fits (plainEnvironment 82944) (attachToDisk smallRecord) (oneFile smallRecord 5)
      (.write 5 0 12 0 fun _ => 7) := by
    intro rest _ _
    have start : skipped (attachToDisk smallRecord) 0 = 0 := by decide
    constructor
    · rw [start]
      rintro cluster ⟨⟩
      show (attachToDisk smallRecord).dataClusterStartAddress ≤ _
      decide
    · intro cluster _ taken
      have needs : clustersNeeded (attachToDisk smallRecord) (5 :: rest).length 12 0 = 0 := by
        have longer : 0 < (5 :: rest).length := Nat.succ_pos _
        rw [clustersNeeded, start, if_pos longer]
        decide
      rw [needs] at taken
      exact absurd taken.2 (Nat.not_lt_zero _)
  have reached : ((fatSystem (plainEnvironment 82944) (attachToDisk smallRecord)).restrict
      (Fits (plainEnvironment 82944) (attachToDisk smallRecord))).Reaches
      [.write 5 0 12 0 fun _ => 7] ⟨world, (oneFile smallRecord 5).heads⟩ :=
    .step [] _ _ _ (.start _ (oneFile_well_formed formatted is_data)) ⟨fits, stepped, good⟩
  exact ⟨_, reached, well_formed_while_addresses_fit formatted (fun _ => rfl)
    (fun size => Nat.le_refl size) reached⟩

/-- A volume somewhat larger than 4 GiB, with clusters of 32 KiB. -/
def largeRecord : MasterBootRecord := ⟨512, 64, 32, 2, 8388736, 1088, 2⟩

/-- The address of its cluster 131040 is that of the FAT, modulo `2 ^ 32`: a write
to a file there leaves an entry in use that is on no chain. -/
theorem write_beyond_four_gib_overwrites_table :
    ¬ ∀ (env : Environment) (bootRecord : MasterBootRecord), Formatted env bootRecord →
      env.Quiet → env.Fitting → ∀ past state,
      (fatSystem env (attachToDisk bootRecord)).Reaches past state →
      WellFormed env (attachToDisk bootRecord) state.world.bytes state.heads := by
  intro claim
  have shown : (((writeFatFile (plainEnvironment 4295032832) (attachToDisk largeRecord)
      ⟨131040, 0⟩ 12 0 fun i => if i = 8 then 7 else 0).run
        (oneFile largeRecord 131040).world).toOption.map fun result =>
          (result.2.searches.length, entryAt (attachToDisk largeRecord) result.2.bytes 2,
            entryAt (attachToDisk largeRecord) result.2.bytes 131040)) =
      some (0, 7, FAT_ENTRY_USED) := by
    decide +kernel
  obtain ⟨⟨ret, world⟩, ran, shown⟩ := Option.map_eq_some_iff.mp shown
  have none := congrArg Prod.fst shown
  have overwritten : entryAt (attachToDisk largeRecord) world.bytes 2 = 7 :=
    congrArg (fun triple => triple.2.1) shown
  have last : entryAt (attachToDisk largeRecord) world.bytes 131040 = FAT_ENTRY_USED :=
    congrArg (fun triple => triple.2.2) shown
  have formatted : Formatted (plainEnvironment 4295032832) largeRecord := by
    constructor <;> decide
  have is_data : DataCluster (plainEnvironment 4295032832) (attachToDisk largeRecord) 131040 := by
    constructor <;> decide
  have good : GoodSearches (plainEnvironment 4295032832) (attachToDisk largeRecord) world := by
    intro search member
    rw [List.eq_nil_of_length_eq_zero none] at member
    exact absurd member List.not_mem_nil
  have stepped : Step (plainEnvironment 4295032832) (attachToDisk largeRecord)
      (oneFile largeRecord 131040) (.write 131040 0 12 0 fun i => if i = 8 then 7 else 0)
      ⟨world, (oneFile largeRecord 131040).heads⟩ :=
    .write 131040 0 12 0 _ ret world (.inr rfl) (ran_of_toOption ran)
  have formed := claim (plainEnvironment 4295032832) largeRecord formatted (fun _ => rfl)
    (fun size => Nat.le_refl size) _ _
    (.step [] _ _ _ (.start _ (oneFile_well_formed formatted is_data)) ⟨stepped, good⟩)
  obtain ⟨chain, forest⟩ := formed.chains
  -- The entry that was overwritten is on no chain.
  have used : links (attachToDisk largeRecord) world.bytes 2 ≠ .free := by
    rw [links, table_eq _ (by decide), overwritten]
    decide
  obtain ⟨head, known, member⟩ := forest.covers 2 (le_refl 2) used
  obtain rfl := known.resolve_left id
  obtain ⟨rest, starts⟩ := forest.starts 131040 known
  have linked := forest.chained 131040 known
  have alone : Chain (links (attachToDisk largeRecord) world.bytes) [131040] := by
    rw [chain_singleton, links, table_eq _ (by decide), last]
    rfl
  rw [starts] at linked member
  rw [linked.unique alone] at member
  exact absurd member (by decide)

end BobaOS.Fat
