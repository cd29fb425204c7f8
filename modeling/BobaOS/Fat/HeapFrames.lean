import BobaOS.Fat.FileCreation
import BobaOS.Fat.ReadFile

/-!
# Who owns a block

A block of the kernel heap is known by the number of its request, so that a new block is
none of those in use. What a function of the driver does to the heap is said by a triple: it
keeps the blocks that are in use before and that it is not given, and a block that it
returns is a new one.
-/

namespace BobaOS.Fat

open ByteStore Programs Vfsl

/-- At least so many requests have been made, and the blocks of the list are in use. -/
def Keeping (start : Nat) (kept : List Block) (world : World) : Prop :=
  start ≤ world.requests ∧
    ∀ block ∈ kept, block ∈ world.live ∧ block.request < world.requests

/-- A block is a new one beside those kept, and is in use. -/
structure Owned (start : Nat) (kept : List Block) (block : Block) (world : World) : Prop where
  fresh : block ∉ kept
  late : start ≤ block.request
  keeping : Keeping start (block :: kept) world

/-- Likewise a block that may be NULL. -/
def Given (start : Nat) (kept : List Block) (block : Option Block) (world : World) : Prop :=
  match block with
  | none => Keeping start kept world
  | some block => Owned start kept block world

variable {env : Environment} {fat : FatPrivate} {stack : Stack} {start : Nat} {kept : List Block}

/-- To give a block up does not end its use. -/
theorem Keeping.drop {block : Block} {world : World} (keeping : Keeping start (block :: kept) world) :
    Keeping start kept world :=
  ⟨keeping.1, fun other member => keeping.2 other (List.mem_cons_of_mem _ member)⟩

/-- Fewer blocks are kept too. -/
theorem Keeping.sub {fewer : List Block} {world : World} (keeping : Keeping start kept world)
    (sub : fewer ⊆ kept) : Keeping start fewer world :=
  ⟨keeping.1, fun block member => keeping.2 block (sub member)⟩

theorem Given.before {block : Option Block} {world : World} (given : Given start kept block world) :
    Keeping start kept world := by
  cases block with
  | none => exact given
  | some block => exact (Owned.keeping given).drop

/-- The blocks in use stay so where neither they nor the number of requests change. -/
theorem Keeping.same {world after : World} (keeping : Keeping start kept world)
    (live : after.live = world.live) (requests : after.requests = world.requests) :
    Keeping start kept after := by
  rw [Keeping, live, requests]
  exact keeping

/-- The program keeps the blocks. -/
abbrev Tidy {α : Type} (start : Nat) (kept : List Block) (program : M α) : Prop :=
  Triple (Keeping start kept) program fun _ => Keeping start kept

/-- It keeps them, and returns a new one or NULL. -/
abbrev Gives {α : Type} (start : Nat) (kept : List Block) (program : M α)
    (block : α → Option Block) : Prop :=
  Triple (Keeping start kept) program fun value => Given start kept (block value)

/-! ## The heap -/

theorem gives_kzalloc (size : Nat) : Gives start kept (kzalloc env size) id := by
  intro world keeping
  rw [kzalloc, meets_bind, meets_get, meets_ite]
  constructor
  · intro _
    rw [meets_bind, meets_set, meets_pure]
    refine ⟨fun member => ?_, keeping.1, Nat.le_succ_of_le keeping.1, ?_⟩
    · exact Nat.lt_irrefl _ (keeping.2 _ member).2
    · intro block member
      rcases List.mem_cons.mp member with rfl | old
      · exact ⟨List.mem_cons_self, Nat.lt_succ_self _⟩
      · exact ⟨List.mem_cons_of_mem _ (keeping.2 block old).1,
          Nat.lt_succ_of_lt (keeping.2 block old).2⟩
  · intro _
    rw [meets_bind, meets_set, meets_pure]
    exact ⟨Nat.le_succ_of_le keeping.1, fun block member =>
      ⟨(keeping.2 block member).1, Nat.lt_succ_of_lt (keeping.2 block member).2⟩⟩

/-- A block that is freed is none of those kept. -/
theorem tidy_kzfree {block : Option Block} (other : ∀ freed, block = some freed → freed ∉ kept) :
    Tidy start kept (kzfree block) := by
  intro world keeping
  cases block with
  | none => exact .pure keeping
  | some freed =>
    rw [kzfree, meets_modify]
    refine ⟨keeping.1, fun block member => ⟨?_, (keeping.2 block member).2⟩⟩
    refine (List.mem_erase_of_ne ?_).mpr (keeping.2 block member).1
    rintro rfl
    exact other block rfl member

/-- One of the blocks kept is freed, and the others are kept on. -/
theorem frees_one {freed : Block} (rest : List Block) (sub : rest ⊆ kept) (other : freed ∉ rest) :
    Triple (Keeping start kept) (kzfree (some freed)) fun _ => Keeping start rest := by
  intro world keeping
  refine tidy_kzfree ?_ world (keeping.sub sub)
  rintro block ⟨⟩
  exact other

/-- A block that was given is freed. -/
theorem frees_given (block : Option Block) :
    Triple (Given start kept block) (kzfree block) fun _ => Keeping start kept := by
  cases block with
  | none => exact tidy_kzfree fun freed impossible => nomatch impossible
  | some block =>
    intro world owned
    refine tidy_kzfree ?_ world (Owned.keeping owned).drop
    rintro freed ⟨⟩
    exact Owned.fresh owned

section Owning

variable {α : Type} {program : M α} {post : α → World → Prop} {block : Block}

/-- A new block is used, and kept beside the others. -/
theorem triple_owned (rest : block ∉ kept → start ≤ block.request →
    Triple (Keeping start (block :: kept)) program post) :
    Triple (Owned start kept block) program post :=
  fun world owned => rest owned.fresh owned.late world owned.keeping

/-- A new block may be freed later, as it is none of those kept. -/
theorem triple_fresh (rest : block ∉ kept → Triple (Keeping start kept) program post) :
    Triple (Owned start kept block) program post :=
  fun world owned => rest owned.fresh world owned.keeping.drop

theorem triple_loose {block : Option Block}
    (rest : (∀ freed, block = some freed → freed ∉ kept) → Triple (Keeping start kept) program post) :
    Triple (Given start kept block) program post := by
  cases block with
  | none => exact rest fun freed impossible => nomatch impossible
  | some block =>
    refine triple_fresh fun fresh => rest ?_
    rintro freed ⟨⟩
    exact fresh

end Owning

/-! ## The streams -/

theorem tidy_seekRead (position : Nat) : Tidy start kept (seekRead env position) := by
  intro world keeping
  refine (seekRead_cases position).mono ?_
  rintro ret after (⟨-, -, rfl⟩ | ⟨-, -, rfl⟩)
  · exact keeping
  · exact keeping

theorem tidy_seekWrite (position : Nat) : Tidy start kept (seekWrite env position) := by
  intro world keeping
  refine (seekWrite_cases position).mono ?_
  rintro ret after (⟨-, -, rfl⟩ | ⟨-, -, rfl⟩)
  · exact keeping
  · exact keeping

theorem tidy_readStream (out : Nat → UInt8) (capacity offset length : Nat) :
    Tidy start kept (readStream env out capacity offset length) := by
  intro world keeping
  rw [readStream, meets_bind, meets_get, meets_ite]
  refine ⟨fun _ => .pure keeping, fun _ => ?_⟩
  rw [meets_ite]
  constructor
  · intro _
    rw [meets_bind, meets_set, meets_pure]
    exact keeping
  · intro _
    rw [meets_ite]
    refine ⟨fun _ => .throw trivial, fun _ => ?_⟩
    rw [meets_bind, meets_set, meets_pure]
    exact keeping

theorem tidy_writeStream (input : Nat → UInt8) (length : Nat) :
    Tidy start kept (writeStream env input length) := by
  intro world keeping
  refine (writeStream_cases input length).mono ?_
  rintro ret after (⟨-, -, rfl⟩ | ⟨-, -, rfl⟩ | ⟨-, -, -, rfl⟩)
  · exact keeping
  · exact keeping
  · exact keeping

/-- To return leaves everything. -/
theorem tidy_pure {α : Type} (value : α) : Tidy start kept (pure value : M α) :=
  .pure fun _ keeping => keeping

/-! ## The FAT -/

theorem tidy_getFatEntry (entry : Nat) : Tidy start kept (getFatEntry env fat entry) := by
  refine (tidy_seekRead _).bind fun _ => .ite (fun _ => tidy_pure _) fun _ => ?_
  exact (tidy_readStream _ _ _ _).bind fun _ => .ite (fun _ => tidy_pure _) fun _ => tidy_pure _

theorem tidy_writeFATEntry (cluster value : Nat) :
    Tidy start kept (writeFATEntry env fat cluster value) := by
  refine (tidy_seekWrite _).bind fun _ => .ite (fun _ => tidy_pure _) fun _ => ?_
  refine (tidy_writeStream _ _).bind fun _ => .ite (fun _ => tidy_pure _) fun _ => ?_
  refine (tidy_seekWrite _).bind fun _ => .ite (fun _ => tidy_pure _) fun _ => ?_
  exact tidy_writeStream _ _

/-- A block that was asked for and is not needed any more may stay. -/
theorem tidy_kzalloc {α : Type} (size : Nat) {next : Option Block → M α}
    {post : α → World → Prop} (rest : ∀ block, Triple (Keeping start kept) (next block) post) :
    Triple (Keeping start kept) (kzalloc env size >>= next) post :=
  (gives_kzalloc size).bind fun block => (rest block).weaken (fun _ given => given.before)
    fun _ _ holds => holds

theorem tidy_getMultipleFatEntries (first last : Nat) (errCode : Code) :
    Tidy start kept (getMultipleFatEntries env fat first last errCode) := by
  refine tidy_kzalloc _ fun block => ?_
  cases block with
  | none => exact tidy_pure _
  | some block =>
    refine (tidy_seekRead _).bind fun _ => .ite (fun _ => tidy_pure _) fun _ => ?_
    exact (tidy_readStream _ _ _ _).bind fun _ => .ite (fun _ => tidy_pure _) fun _ => tidy_pure _

theorem tidy_searchWindows (fuel first last : Nat) (errCode : Code) :
    Tidy start kept (searchWindows env fat fuel first last errCode) := by
  induction fuel generalizing first last errCode with
  | zero => exact .throw
  | succ fuel induction =>
    refine .ite (fun _ => ?_) fun _ => tidy_pure _
    refine (tidy_getMultipleFatEntries _ _ _).bind ?_
    rintro ⟨code, _ | entries⟩
    · exact .ite (fun _ => tidy_pure _) fun _ => .throw
    · refine .ite (fun _ => tidy_pure _) fun _ => ?_
      dsimp only
      cases firstFree 512 entries with
      | none => exact induction _ _ _
      | some i => exact tidy_pure _

theorem tidy_getFreeFatEntryCluster (errCode : Code) :
    Tidy start kept (getFreeFatEntryCluster env fat errCode) := by
  refine (tidy_searchWindows _ _ _ _).bind fun result => Triple.bind ?_ fun _ => tidy_pure _
  intro world keeping
  rw [meets_modify]
  exact keeping

theorem tidy_makeDirBigger (endCluster : Nat) : Tidy start kept (makeDirBigger env fat endCluster) := by
  refine (tidy_getFreeFatEntryCluster _).bind fun _ => .ite (fun _ => tidy_pure _) fun _ => ?_
  refine .ite (fun _ => tidy_pure _) fun _ => ?_
  refine (tidy_writeFATEntry _ _).bind fun _ => .ite (fun _ => tidy_pure _) fun _ => ?_
  refine (tidy_writeFATEntry _ _).bind fun _ => .ite (fun _ => tidy_pure _) fun _ => ?_
  refine (tidy_seekWrite _).bind fun _ => .ite (fun _ => tidy_pure _) fun _ => ?_
  exact (tidy_writeStream _ _).bind fun _ => .ite (fun _ => tidy_pure _) fun _ => tidy_pure _

theorem tidy_unlinkEntries (fuel entry : Nat) :
    Tidy start kept (unlinkEntries env fat fuel entry) := by
  induction fuel generalizing entry with
  | zero => exact .throw
  | succ fuel induction =>
    refine .ite (fun _ => ?_) fun _ => tidy_pure _
    refine (tidy_getFatEntry _).bind fun _ => .ite (fun _ => tidy_pure _) fun _ => ?_
    exact (tidy_writeFATEntry _ _).bind fun _ => .ite (fun _ => tidy_pure _) fun _ => induction _

theorem tidy_unlinkFatChain (cluster : Nat) : Tidy start kept (unlinkFatChain env fat cluster) := by
  refine (tidy_getFatEntry _).bind fun _ => .ite (fun _ => tidy_pure _) fun _ => ?_
  refine (tidy_unlinkEntries _ _).bind fun _ => .ite (fun _ => tidy_pure _) fun _ => ?_
  exact tidy_writeFATEntry _ _

/-! ## Files -/

theorem tidy_skipClusters (count fatEntry oldCluster : Nat) :
    Tidy start kept (skipClusters env fat count fatEntry oldCluster) := by
  induction count generalizing fatEntry oldCluster with
  | zero => exact tidy_pure _
  | succ count induction =>
    refine (tidy_getFatEntry _).bind fun _ => .ite (fun _ => tidy_pure _) fun _ => ?_
    exact .ite (fun _ => tidy_pure _) fun _ => induction _ _

theorem tidy_findStartCluster (startCluster startPos : Nat) :
    Tidy start kept (findStartCluster env fat startCluster startPos) := by
  refine (tidy_skipClusters _ _ _).bind ?_
  rintro (ret | ⟨clustersToSkip, fatEntry, oldCluster⟩)
  · exact tidy_pure _
  · refine .ite (fun _ => ?_) fun _ => .ite (fun _ => tidy_pure _) fun _ => tidy_pure _
    refine (tidy_getFreeFatEntryCluster _).bind fun _ => .ite (fun _ => tidy_pure _) fun _ => ?_
    refine (tidy_writeFATEntry _ _).bind fun _ => .ite (fun _ => tidy_pure _) fun _ => ?_
    exact (tidy_writeFATEntry _ _).bind fun _ => .ite (fun _ => tidy_pure _) fun _ => tidy_pure _

theorem tidy_writeClusters (size : Nat) (input : Nat → UInt8) (left : Nat) (ret : Code)
    (currCluster oldCluster startClusterPos length totalWritten : Nat) :
    Tidy start kept (writeClusters env fat size input left ret currCluster oldCluster startClusterPos
      length totalWritten) := by
  induction left generalizing ret currCluster oldCluster startClusterPos length totalWritten with
  | zero => exact tidy_pure _
  | succ left induction =>
    refine (tidy_seekWrite _).bind fun _ => .ite (fun _ => tidy_pure _) fun _ => ?_
    refine (tidy_writeStream _ _).bind fun _ => .ite (fun _ => tidy_pure _) fun _ => ?_
    refine (tidy_getFatEntry _).bind fun _ => .ite (fun _ => tidy_pure _) fun _ => ?_
    refine .ite (fun _ => ?_) fun _ => induction _ _ _ _ _ _
    refine (tidy_getFreeFatEntryCluster _).bind fun _ => .ite (fun _ => tidy_pure _) fun _ => ?_
    refine (tidy_writeFATEntry _ _).bind fun _ => ?_
    exact (tidy_writeFATEntry _ _).bind fun _ => induction _ _ _ _ _ _

theorem tidy_writeFatFile (fatFile : FatFile) (size startPos : Nat) (input : Nat → UInt8) :
    Tidy start kept (writeFatFile env fat fatFile size startPos input) := by
  refine (tidy_findStartCluster _ _).bind ?_
  rintro (ret | startCluster)
  · exact tidy_pure _
  · refine (tidy_unlinkFatChain _).bind fun _ => .ite (fun _ => tidy_pure _) fun _ => ?_
    exact tidy_writeClusters _ _ _ _ _ _ _ _ _

theorem tidy_skipRead (count cluster : Nat) (ret : Code) :
    Tidy start kept (skipRead env fat count cluster ret) := by
  induction count generalizing cluster ret with
  | zero => exact tidy_pure _
  | succ count induction =>
    exact (tidy_getFatEntry _).bind fun _ => .ite (fun _ => tidy_pure _) fun _ => induction _ _

theorem tidy_readParts (size filePos left cluster pos length total : Nat) (ret : Code)
    (ptr : Nat → UInt8) :
    Tidy start kept (readParts env fat size filePos left cluster pos length total ret ptr) := by
  induction left generalizing cluster pos length total ret ptr with
  | zero => exact tidy_pure _
  | succ left induction =>
    refine .ite (fun _ => tidy_pure _) fun _ => ?_
    refine (tidy_seekRead _).bind fun _ => .ite (fun _ => tidy_pure _) fun _ => ?_
    refine (tidy_readStream _ _ _ _).bind fun _ => .ite (fun _ => tidy_pure _) fun _ => ?_
    refine (tidy_getFatEntry _).bind fun _ => .ite (fun _ => tidy_pure _) fun _ => ?_
    exact induction _ _ _ _ _ _

theorem tidy_readFatFile (fatFile : FatFile) (size filePos : Nat) (ptr : Nat → UInt8) :
    Tidy start kept (readFatFile env fat fatFile size filePos ptr) := by
  refine (tidy_skipRead _ _ _).bind fun _ => .ite (fun _ => tidy_pure _) fun _ => ?_
  exact tidy_readParts _ _ _ _ _ _ _ _ _

/-! ## Directories -/

theorem gives_getDirEntrySingleCluster (clusterNum outMaxEntries : Nat) (errCode : Code) :
    Gives start kept (getDirEntrySingleCluster env fat clusterNum outMaxEntries errCode)
      fun result => blockOf result.2.2 := by
  refine (gives_kzalloc 32).bind ?_
  rintro (_ | block)
  · exact .pure fun _ keeping => keeping
  refine triple_owned fun fresh late => ?_
  refine (tidy_seekRead _).bind fun _ => .ite (fun _ => .pure fun _ kept => kept.drop) fun _ => ?_
  refine (tidy_readStream _ _ _ _).bind fun _ => .ite (fun _ => .pure fun _ kept => kept.drop) ?_
  exact fun _ => .pure fun _ kept => ⟨fresh, late, kept⟩

theorem tidy_listClusters (room : Nat) (list : List Nat) (cluster fatDir : Nat) (errCode : Code) :
    Tidy start kept (listClusters env fat room list cluster fatDir errCode) := by
  induction room generalizing list cluster fatDir errCode with
  | zero => exact .throw
  | succ room induction =>
    refine .ite (fun _ => ?_) fun _ => tidy_pure _
    exact (tidy_getFatEntry _).bind fun _ => .ite (fun _ => tidy_pure _) fun _ => induction _ _ _ _

theorem tidy_readClusters (block : Block) (clusters : List Nat) (i : Nat) (errCode : Code)
    (ret : Nat → UInt8) : Tidy start kept (readClusters env fat block clusters i errCode ret) := by
  induction clusters generalizing i errCode ret with
  | nil => exact tidy_pure _
  | cons cluster clusters induction =>
    exact (tidy_seekRead _).bind fun _ => (tidy_readStream _ _ _ _).bind fun _ => induction _ _ _

theorem gives_getDirEntries (dataClusterNum : Nat) :
    Gives start kept (getDirEntries env fat dataClusterNum) fun result => blockOf result.2.2 := by
  refine (tidy_getFatEntry _).bind fun _ => .ite (fun _ => .pure fun _ keeping => keeping) fun _ => ?_
  refine (tidy_listClusters _ _ _ _ _).bind ?_
  rintro ⟨errCode, _ | clusterList⟩
  · exact .pure fun _ keeping => keeping
  refine (gives_kzalloc _).bind ?_
  rintro (_ | block)
  · exact .pure fun _ keeping => keeping
  refine triple_owned fun fresh late => (tidy_readClusters _ _ _ _ _).bind fun _ => ?_
  exact .pure fun _ keeping => ⟨fresh, late, keeping⟩

theorem tidy_readAttributes (entries : Option Entries) (i : Nat) :
    Tidy start kept (readAttributes entries i) := by
  cases entries with
  | none => exact .throw
  | some entries => exact .ite (fun _ => .throw) fun _ => tidy_pure _

theorem tidy_scanEntries (entries : Entries) (name : CString) (wanted : UInt8) (left counter : Nat)
    (chain : List LongFileNameEntry) :
    Tidy start kept (scanEntries stack entries name wanted left counter chain) := by
  induction left generalizing counter chain with
  | zero => exact (tidy_readAttributes _ _).bind fun _ => tidy_pure _
  | succ left induction =>
    refine (tidy_readAttributes _ _).bind fun attributes => .ite (fun _ => tidy_pure _) fun _ => ?_
    refine .ite (fun _ => .ite (fun _ => .throw) fun _ => induction _ _) fun _ => .ite ?_ ?_
    · exact fun _ => .get fun _ => .ite (fun _ => tidy_pure _) fun _ => induction _ _
    · intro _
      refine Triple.bind ?_ fun _ => .ite (fun _ => tidy_pure _) fun _ => induction _ _
      exact .ite (fun _ => .throw) fun _ => tidy_pure _

/-- What `findDirEntry` returns is a block of its own. -/
theorem gives_findDirEntry (dataClusterNum : Nat) (name : CString) (wanted : UInt8) :
    Gives start kept (findDirEntry env fat stack dataClusterNum name wanted)
      fun result => blockOf result.2 := by
  refine (gives_kzalloc 32).bind ?_
  rintro (_ | ret)
  · exact .pure fun _ keeping => keeping
  refine triple_owned fun fresh late => (gives_getDirEntries _).bind ?_
  rintro ⟨errCode, maxEntries, _ | entries⟩
  · refine Triple.bind (fun world keeping => ?_) fun _ => .pure fun _ keeping => keeping
    exact frees_given (some ret) world ⟨fresh, late, keeping⟩
  refine triple_fresh fun loose => (tidy_scanEntries _ _ _ _ _ _).bind ?_
  have other : ∀ freed, some entries.block = some freed → freed ∉ ret :: kept := by
    rintro freed ⟨⟩
    exact loose
  rintro (_ | counter)
  · refine (tidy_kzfree other).bind fun _ => Triple.bind (fun world keeping => ?_) fun _ =>
      .pure fun _ keeping => keeping
    exact frees_given (some ret) world ⟨fresh, late, keeping⟩
  · exact (tidy_kzfree other).bind fun _ => .pure fun _ keeping => ⟨fresh, late, keeping⟩

theorem gives_checkDirectory (errCode : Code) (entry : Entries) (fresh : entry.block ∉ kept)
    (late : start ≤ entry.block.request) :
    Triple (Keeping start (entry.block :: kept)) (pure (checkDirectory errCode entry) : M _)
      fun result => Given start kept (blockOf result.2) := by
  rw [checkDirectory]
  split
  · exact .pure fun _ keeping => ⟨fresh, late, keeping⟩
  · exact .pure fun _ keeping => keeping.drop

theorem gives_followParts (part : PathTracerPart) (parts : List PathTracerPart)
    (dataClusterNum : Nat) :
    Gives start kept (followParts env fat stack part parts dataClusterNum)
      fun result => blockOf result.2 := by
  induction parts generalizing part dataClusterNum with
  | nil =>
    rw [followParts]
    refine (gives_findDirEntry _ _ _).bind ?_
    rintro ⟨errCode, _ | entry⟩
    · exact .pure fun _ keeping => keeping
    · exact triple_owned (gives_checkDirectory errCode entry)
  | cons next parts induction =>
    rw [followParts]
    refine (gives_findDirEntry _ _ _).bind ?_
    rintro ⟨errCode, _ | entry⟩
    · exact .pure fun _ keeping => keeping
    cases parts with
    | nil => exact triple_owned (gives_checkDirectory errCode entry)
    | cons further parts =>
      refine .ite (fun _ => ?_) fun _ => triple_owned (gives_checkDirectory errCode entry)
      exact (frees_given (some entry.block)).bind fun _ => induction next _

theorem gives_findDirectory (tracer : PathTracer) (errCode : Code) :
    Gives start kept (findDirectory env fat stack tracer errCode) fun result => blockOf result.2 := by
  rw [findDirectory]
  split
  · exact .throw
  · refine .ite (fun _ => ?_) fun _ => gives_followParts _ _ _
    refine (gives_kzalloc 32).bind ?_
    rintro (_ | block)
    · exact .pure fun _ keeping => keeping
    · exact .pure fun _ owned => owned

/-! ## The block of a file -/

/-- The block that was asked for last. -/
def lastBlock (env : Environment) (size : Nat) (world : World) : Block :=
  ⟨world.requests - 1, env.capacity size⟩

/-- A `struct fatFile` that is returned is the block that was asked for last. -/
def FileGiven (env : Environment) (start : Nat) (kept : List Block) (file : Option FatFile)
    (world : World) : Prop :=
  match file with
  | none => Keeping start kept world
  | some _ => Owned start kept (lastBlock env 8 world) world

theorem kzalloc_last (size : Nat) : Triple (Keeping start kept) (kzalloc env size) fun block world =>
    Given start kept block world ∧ ∀ given, block = some given → given = lastBlock env size world := by
  intro world keeping
  refine ((gives_kzalloc size world keeping).and ?_).mono fun _ _ both => both
  rw [kzalloc, meets_bind, meets_get, meets_ite]
  constructor
  · intro _
    rw [meets_bind, meets_set, meets_pure]
    rintro given ⟨⟩
    rfl
  · intro _
    rw [meets_bind, meets_set, meets_pure]
    exact fun given impossible => absurd impossible.symm (Option.some_ne_none given)

/-- To free another block leaves the one asked for last. -/
theorem last_kzfree (size : Nat) {freed : Block} (other : freed ∉ kept) :
    Triple (fun world => Owned start (freed :: kept) (lastBlock env size world) world)
      (kzfree (some freed)) fun _ world => Owned start kept (lastBlock env size world) world := by
  intro world owned
  have apart : lastBlock env size world ≠ freed := fun same =>
    owned.fresh (same ▸ List.mem_cons_self)
  have outside : freed ∉ lastBlock env size world :: kept := fun member =>
    (List.mem_cons.mp member).elim (fun same => apart same.symm) other
  have frees := frees_one (lastBlock env size world :: kept)
    (List.cons_subset_cons _ (List.subset_cons_self freed kept)) outside world owned.keeping
  rw [kzfree, meets_modify] at frees ⊢
  exact ⟨fun member => owned.fresh (List.mem_cons_of_mem _ member), owned.late, frees⟩

theorem gives_findFile (tracer : PathTracer) (errCode : Code) :
    Triple (Keeping start kept) (findFile env fat stack tracer errCode)
      fun result => FileGiven env start kept result.2 := by
  refine (gives_findDirectory _ _).bind ?_
  rintro ⟨errCode, _ | entry⟩
  · exact .pure fun _ keeping => keeping
  refine triple_owned fun fresh late => ?_
  dsimp only
  cases pathTracerGetFileName tracer with
  | none => exact .pure fun _ keeping => keeping.drop
  | some fileName =>
    refine (gives_findDirEntry _ _ _).bind ?_
    rintro ⟨errCode, _ | fileEntry⟩
    · exact (frees_one kept (List.subset_cons_self _ _) fresh).bind fun _ => .pure fun _ keeping => keeping
    refine triple_owned fun apart _ => ?_
    refine (frees_one (fileEntry.block :: kept)
      (List.cons_subset_cons _ (List.subset_cons_self _ _)) ?_).bind fun _ => ?_
    · exact fun member => (List.mem_cons.mp member).elim
        (fun same => apart (same ▸ List.mem_cons_self)) fresh
    refine (kzalloc_last 8).bind ?_
    rintro (_ | file)
    · exact .pure fun _ both => both.1.drop
    · have other : fileEntry.block ∉ kept := fun member => apart (List.mem_cons_of_mem _ member)
      refine Triple.bind ?_ fun _ => .pure fun _ owned => owned
      refine (@last_kzfree env _ _ 8 _ other).weaken ?_ fun _ _ owned => owned
      rintro world ⟨owned, last⟩
      rw [← last file rfl]
      exact owned

/-! ## New files -/

theorem gives_toUpperCase (str : CString) (len : Nat) :
    Triple (Keeping start kept) (toUpperCase env str len)
      fun upper => Owned start kept upper.block := by
  refine (gives_kzalloc len).bind ?_
  rintro (_ | ret)
  · exact .throw
  · exact .ite (fun _ => .throw) fun _ => .pure fun _ owned => owned

theorem tidy_strncpyFrom (dest : Nat → UInt8) (offset : Nat) (src : HeapString) (first size : Nat) :
    Tidy start kept (strncpyFrom dest offset src first size) :=
  .ite (fun _ => .throw) fun _ => tidy_pure _

/-- To free a block that is not kept. -/
theorem tidy_frees {block : Block} (other : block ∉ kept) : Tidy start kept (kzfree (some block)) :=
  frees_one kept (List.Subset.refl _) other

theorem tidy_generateShortFileName (currDir : DirectoryEntry) (fileName : CString)
    (oName : Nat → UInt8) :
    Tidy start kept (generateShortFileName env fat currDir fileName oName) := by
  refine (gives_toUpperCase _ _).bind fun upper => triple_fresh fun loose => ?_
  refine .ite (fun _ => ?_) fun _ => ?_
  · refine (tidy_strncpyFrom _ _ _ _ _).bind fun _ => (tidy_strncpyFrom _ _ _ _ _).bind fun _ => ?_
    exact (tidy_frees loose).bind fun _ => tidy_pure _
  refine (gives_getDirEntries _).bind ?_
  rintro ⟨errCode, entriesCount, entries⟩
  refine triple_loose fun unused => .ite (fun _ => ?_) fun _ => ?_
  · refine (tidy_strncpyFrom _ _ _ _ _).bind fun _ => .ite (fun _ => ?_) fun _ => ?_
    · refine (tidy_strncpyFrom _ _ _ _ _).bind fun _ => (tidy_frees loose).bind fun _ => ?_
      exact (tidy_kzfree unused).bind fun _ => tidy_pure _
    · refine (tidy_pure _).bind fun _ => (tidy_frees loose).bind fun _ => ?_
      exact (tidy_kzfree unused).bind fun _ => tidy_pure _
  · exact (tidy_frees loose).bind fun _ => (tidy_kzfree unused).bind fun _ => tidy_pure _

theorem tidy_scanFree (list : Block) (count oldCluster : Nat) (entries : Option Entries)
    (left entriesCount : Nat) (addresses : List Nat) :
    Tidy start kept (scanFree fat list count oldCluster entries left entriesCount addresses) := by
  induction left generalizing entriesCount addresses with
  | zero => exact tidy_pure _
  | succ left induction =>
    refine (tidy_readAttributes _ _).bind fun _ => .ite (fun _ => ?_) fun _ => induction _ _
    refine .ite (fun _ => .throw) fun _ => .ite (fun _ => tidy_pure _) fun _ => induction _ _

theorem tidy_searchFree (list : Block) (count fuel oldCluster fatEntry maxEntries : Nat)
    (entries : Option Entries) (addresses : List Nat) (errCode : Code)
    (unused : ∀ freed, blockOf entries = some freed → freed ∉ kept) :
    Tidy start kept (searchFree env fat list count fuel oldCluster fatEntry maxEntries entries
      addresses errCode) := by
  induction fuel generalizing oldCluster fatEntry maxEntries entries addresses errCode with
  | zero => exact .throw
  | succ fuel induction =>
    have onward (next : Nat) (addresses : List Nat) : Tidy start kept
        (searchNext env fat list count fuel maxEntries entries addresses errCode next) := by
      refine (tidy_kzfree unused).bind fun _ => (gives_getDirEntrySingleCluster _ _ _).bind ?_
      rintro ⟨code, number, found⟩
      refine triple_loose fun loose => (tidy_getFatEntry _).bind fun _ => .ite (fun _ => ?_) fun _ => ?_
      · exact (tidy_kzfree loose).bind fun _ => tidy_pure _
      · exact induction _ _ _ _ _ _ loose
    rw [searchFree_succ]
    refine (tidy_scanFree _ _ _ _ _ _ _).bind ?_
    rintro ⟨enough, addresses⟩
    refine .ite (fun _ => tidy_pure _) fun _ => .ite (fun _ => ?_) fun _ => ?_
    · have grows : Tidy start kept (asUInt32 <$> makeDirBigger env fat oldCluster) :=
        Triple.map _ (tidy_makeDirBigger oldCluster)
      exact grows.bind fun next => onward next addresses
    · exact (tidy_pure fatEntry).bind fun next => onward next addresses

/-- The array of addresses is returned. -/
theorem gives_getFreeDirEntriesAddresses (startEntry : DirectoryEntry) (count : Nat) :
    Gives start kept (getFreeDirEntriesAddresses env fat startEntry count)
      fun result => result.2.map Prod.fst := by
  refine (gives_kzalloc count).bind ?_
  rintro (_ | list)
  · exact .pure fun _ keeping => keeping
  refine triple_owned fun fresh late => ?_
  refine (tidy_getFatEntry _).bind fun _ => .ite (fun _ => .pure fun _ kept => kept.drop) fun _ => ?_
  refine (gives_getDirEntrySingleCluster _ _ _).bind ?_
  rintro ⟨code, number, entries⟩
  refine triple_loose fun unused => (tidy_searchFree _ _ _ _ _ _ _ _ _ unused).bind ?_
  rintro ⟨code, _ | addresses⟩
  · exact .pure fun _ keeping => keeping.drop
  · exact .pure fun _ keeping => ⟨fresh, late, keeping⟩

theorem tidy_writeLongEntries (address : Nat → Nat) (fileName : CString) (checkSum : UInt8)
    (left count : Nat) (errCode : Code) :
    Tidy start kept (writeLongEntries env address fileName checkSum left count errCode) := by
  induction left generalizing count errCode with
  | zero => exact tidy_pure _
  | succ left induction =>
    refine (gives_kzalloc 32).bind ?_
    rintro (_ | block)
    · exact .pure fun _ keeping => keeping
    refine triple_fresh fun loose => .ite (fun _ => tidy_pure _) fun _ => ?_
    refine (tidy_seekWrite _).bind fun _ => .ite (fun _ => tidy_pure _) fun _ => ?_
    refine (tidy_writeStream _ _).bind fun _ => .ite (fun _ => tidy_pure _) fun _ => ?_
    exact (tidy_frees loose).bind fun _ => induction _ _

theorem gives_createFileEntryAtAbsoluteAddress (address : Nat) (fileName : Nat → UInt8)
    (errCode : Code) :
    Triple (Keeping start kept) (createFileEntryAtAbsoluteAddress env fat address fileName errCode)
      fun result => FileGiven env start kept result.2 := by
  refine (tidy_getFreeFatEntryCluster _).bind fun _ => .ite (fun _ => .pure fun _ k => k) fun _ => ?_
  refine (tidy_writeFATEntry _ _).bind fun _ => .ite (fun _ => .pure fun _ k => k) fun _ => ?_
  refine (tidy_seekWrite _).bind fun _ => .ite (fun _ => .pure fun _ k => k) fun _ => ?_
  refine (tidy_writeStream _ _).bind fun _ => .ite (fun _ => .pure fun _ k => k) fun _ => ?_
  refine (kzalloc_last 8).bind ?_
  rintro (_ | block)
  · exact .pure fun _ both => both.1
  · refine .pure fun world both => ?_
    obtain ⟨owned, last⟩ := both
    rw [FileGiven, ← last block rfl]
    exact owned

/-- Another block is freed behind a file that was given. -/
theorem file_kzfree {freed : Block} (file : Option FatFile) (other : freed ∉ kept) :
    Triple (FileGiven env start (freed :: kept) file) (kzfree (some freed))
      fun _ => FileGiven env start kept file := by
  cases file with
  | none => exact frees_one kept (List.subset_cons_self _ _) other
  | some file => exact last_kzfree 8 other

theorem gives_createFatFileInDir (entry : DirectoryEntry) (fileName : CString) :
    Triple (Keeping start kept) (createFatFileInDir env fat stack entry fileName)
      fun result => FileGiven env start kept result.2 := by
  refine (gives_getFreeDirEntriesAddresses _ _).bind ?_
  rintro ⟨errCode, _ | ⟨block, addressList⟩⟩
  · exact .pure fun _ keeping => keeping
  refine triple_owned fun fresh late => ?_
  have frees : Triple (Keeping start (block :: kept)) (kzfree (some block) : M Unit)
      fun _ => Keeping start kept := frees_one kept (List.subset_cons_self _ _) fresh
  refine .ite (fun _ => frees.bind fun _ => .pure fun _ keeping => keeping) fun _ => ?_
  refine (tidy_generateShortFileName _ _ _).bind fun _ => .get fun _ => ?_
  refine (tidy_writeLongEntries _ _ _ _ _ _).bind fun _ => .ite (fun _ => ?_) fun _ => ?_
  · exact frees.bind fun _ => .pure fun _ keeping => keeping
  · refine (gives_createFileEntryAtAbsoluteAddress _ _ _).bind fun result => ?_
    exact (file_kzfree result.2 fresh).bind fun _ => .pure fun _ given => given

theorem gives_findOrCreate (tracer : PathTracer) (create : Bool) (errCode : Code) :
    Triple (Keeping start kept) (findOrCreate env fat stack tracer create errCode)
      fun result => FileGiven env start kept result.2 := by
  refine (gives_findFile _ _).bind ?_
  rintro ⟨errCode, _ | fatFile⟩
  · refine .ite (fun _ => ?_) fun _ => .pure fun _ keeping => keeping
    refine (gives_findDirectory _ _).bind ?_
    rintro ⟨errCode, _ | entry⟩
    · exact .pure fun _ keeping => keeping
    refine triple_owned fun fresh late => ?_
    dsimp only
    cases pathTracerGetFileName tracer with
    | none =>
      exact (frees_one kept (List.subset_cons_self _ _) fresh).bind fun _ =>
        .pure fun _ keeping => keeping
    | some fileName =>
      refine (gives_createFatFileInDir _ _).bind fun result => ?_
      exact (file_kzfree result.2 fresh).bind fun _ => .pure fun _ given => given
  · exact .pure fun _ given => given

/-! ## Replacing an entry -/

theorem tidy_findSameName (entries : Option Entries) (entryToUpdate : DirectoryEntry)
    (left i : Nat) : Tidy start kept (findSameName entries entryToUpdate left i) := by
  induction left generalizing i with
  | zero => exact tidy_pure _
  | succ left induction =>
    exact (tidy_readAttributes _ _).bind fun _ => .ite (fun _ => tidy_pure _) fun _ => induction _

theorem tidy_updateEntries (clusterOfDirectory : Nat) (entryToUpdate newEntry : DirectoryEntry)
    (fuel cluster maxEntries : Nat) (ret : Code) :
    Tidy start kept (updateEntries env fat clusterOfDirectory entryToUpdate newEntry fuel cluster
      maxEntries ret) := by
  induction fuel generalizing cluster maxEntries ret with
  | zero => exact .throw
  | succ fuel induction =>
    refine (gives_getDirEntrySingleCluster _ _ _).bind ?_
    rintro ⟨code, number, entries⟩
    refine triple_loose fun _ => .ite (fun _ => tidy_pure _) fun _ => ?_
    refine (tidy_findSameName _ _ _ _).bind ?_
    rintro (_ | i)
    · refine (tidy_getFatEntry _).bind fun _ => .ite (fun _ => tidy_pure _) fun _ => ?_
      exact .ite (fun _ => induction _ _ _) fun _ => tidy_pure _
    · exact (tidy_seekWrite _).bind fun _ => .ite (fun _ => tidy_pure _) fun _ => tidy_writeStream _ _

theorem tidy_updateDirectoryEntry (clusterOfDirectory : Nat)
    (entryToUpdate newEntry : DirectoryEntry) :
    Tidy start kept (updateDirectoryEntry env fat stack clusterOfDirectory entryToUpdate newEntry) :=
  .get fun _ => tidy_updateEntries _ _ _ _ _ _ _

end BobaOS.Fat
