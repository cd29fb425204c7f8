import BobaOS.Fat.EntryUpdates
import BobaOS.Fat.HeapFrames
import BobaOS.Vfsl.FilePositions

/-!
# Files and the kernel heap

`fopen`, `fread`, `fwrite` and `fclose` with the file system below them, on one volume and
one kernel heap. The path of a file is taken apart again by each call. What a call has asked
the heap for it gives back but for one or more blocks: the `struct fatFile` of a read, the
directory entry of a write, and the `struct file` and the path of a file that was opened,
which closing it does not free.
-/

namespace BobaOS.Fat

open ByteStore Programs Vfsl

/-- What `strHash` computes, and the volumes that there are. -/
structure Names where
  strHash : CString → Nat
  volumes : UInt8 → Bool

/-- The table of open files sees the hash, and the answer of the heap to its one request. -/
def Names.environment (names : Names) (answer : Bool) : Vfsl.Environment :=
  ⟨names.strHash, fun _ => answer, fun _ => none⟩

/-- A function of the table runs without the heap. -/
def onTable {α : Type} (result : Except Vfsl.Fault α) : M α :=
  match result with
  | .ok value => return value
  | .error .endless => throw .endless
  | .error _ => throw .nullPointer

section Code

variable (env : Environment) (fat : FatPrivate) (stack : Stack) (names : Names)

/-! ## Path tracers -/

/-- The blocks of the parts of a tracer, and of the tracer, which was asked for first. -/
def tracerBlocks (first : Nat) (tracer : PathTracer) : List Block :=
  ((List.range tracer.parts.length).map fun i => ⟨first + 1 + i, env.capacity 272⟩) ++
    [⟨first, env.capacity 16⟩]

/-- `createPathTracer` on the heap of the driver. Where it fails, or the path ends with a
slash, it has freed what is not in use any more. -/
def createPathTracer (path : CString) : M (Except Code (PathTracer × List Block)) := do
  let world ← get
  let size request := if request = world.requests then 16 else 272
  match Vfsl.createPathTracer names.volumes (fun request => env.kzalloc request (size request)) path
      world.requests with
  | (.error code, requests) =>
    set { world with requests := requests }
    return .error code
  | (.ok tracer, requests) =>
    let blocks := tracerBlocks env world.requests tracer
    set { world with requests := requests, live := blocks ++ world.live }
    return .ok (tracer, blocks)

def destroyPathTracer : List Block → M Unit
  | [] => return
  | block :: blocks => do
    kzfree (some block)
    destroyPathTracer blocks

/-! ## The file system -/

def openFile (tracer : PathTracer) (create : Bool) : M (Code × Option (Block × File)) := do
  let (errCode, fatFile) ← findOrCreate env fat stack tracer create 0
  if errCode < 0 then return (errCode, none)
  let fatBlock := lastBlock env 8 (← get)
  match ← kzalloc env 528 with
  | none => return (-ENMEM, none)
  | some block =>
    match fatFile, ← kzalloc env BOBAOS_MAX_PATH_SIZE, pathTracerGetFileName tracer with
    | some fatFile, some _, some name =>
      kzfree (some fatBlock)
      return (errCode, some (block,
        { label := tracer.label, path := pathTracerGetPathString tracer, name := name, mode := 0
          position := 0, size := fatFile.fileSize }))
    | _, _, _ => throw .nullPointer

def readFile (ptr : Nat → UInt8) (size : Nat) (file : File) : M (Code × (Nat → UInt8)) := do
  match ← createPathTracer env names file.path with
  | .error errCode => return (errCode, ptr)
  | .ok (tracer, blocks) =>
    let (errCode, fatFile) ← findFile env fat stack tracer 0
    destroyPathTracer blocks
    match fatFile with
    | none => return (errCode, ptr)
    | some fatFile => readFatFile env fat fatFile size file.position ptr

/-- The part of `writeFile` that gives a file without clusters its first one. -/
def firstCluster (fatFile : FatFile) (errCode : Code) : M (Except Code (FatFile × Nat)) := do
  if fatFile.startCluster = 0 then
    let (_, cluster) ← getFreeFatEntryCluster env fat errCode
    if cluster = 0 then return .error (-EDISKSPACE)
    let errCode ← writeFATEntry env fat cluster FAT_ENTRY_USED
    if errCode < 0 then return .error errCode
    return .ok ({ fatFile with startCluster := cluster }, cluster)
  else return .ok (fatFile, 0)

/-- The entry of a file after a write. -/
def writtenEntry (fileEntry : DirectoryEntry) (file : File) (size startPos startClusterWritten : Nat) :
    DirectoryEntry :=
  let append := file.mode &&& FILE_MODE_APPEND > 0
  let newEntry := fileEntry.setFileSize (if append then file.size + size else size + startPos)
  if 0 < startClusterWritten then newEntry.setStartCluster startClusterWritten else newEntry

def writeFile (inBytes : Nat → UInt8) (size : Nat) (file : File) : M Code := do
  match ← createPathTracer env names file.path with
  | .error errCode => return errCode
  | .ok (tracer, blocks) =>
    match ← findFile env fat stack tracer 0 with
    | (errCode, none) =>
      destroyPathTracer blocks
      return errCode
    | (errCode, some fatFile) =>
      let fatBlock := lastBlock env 8 (← get)
      match ← firstCluster env fat fatFile errCode with
      | .error errCode =>
        kzfree (some fatBlock)
        destroyPathTracer blocks
        return errCode
      | .ok (fatFile, startClusterWritten) =>
        let startPos := if file.mode &&& FILE_MODE_APPEND > 0 then file.size else file.position
        let errCode ← writeFatFile env fat fatFile size startPos inBytes
        if errCode ≠ 0 then
          kzfree (some fatBlock)
          destroyPathTracer blocks
          return errCode
        let (errCode, dir) ← findDirectory env fat stack tracer errCode
        if errCode < 0 then return errCode
        match dir, pathTracerGetFileName tracer with
        | some dir, some fileName =>
          let cluster := (dir.entry 0).startCluster
          match ← findDirEntry env fat stack cluster fileName DIR_ENTRY_ATTRIBUTE_ARCHIVE with
          | (errCode, none) => return errCode
          | (_, some fileEntry) =>
            let newEntry := writtenEntry (fileEntry.entry 0) file size startPos startClusterWritten
            let errCode ← updateDirectoryEntry env fat stack cluster (fileEntry.entry 0) newEntry
            kzfree (some dir.block)
            kzfree (some fatBlock)
            destroyPathTracer blocks
            return errCode
        | _, _ => throw .nullPointer

/-! ## The open files -/

/-- `addOpenFile`: an entry behind the static one of a bucket is a block of its own. -/
def addOpenFile (file : FileRef) (table : State) : M (Code × State) := do
  let head := EntryRef.slot (bucket (names.environment true) (table.files file).path)
  if (table.openFiles head).file = none then
    onTable (Vfsl.addOpenFile (names.environment true) file table)
  else
    let newEntry ← kzalloc env 24
    onTable (Vfsl.addOpenFile (names.environment newEntry.isSome) file table)

def fopen (path mode : CString) (table : State) : M (Code × Option FileRef × State) := do
  if ← onTable (checkIfFileIsOpenString (names.environment true) table path) then
    return (-EIUSE, none, table)
  let m := checkMode 0 mode
  if m = 0 then return (-EWMODE, none, table)
  match ← createPathTracer env names path with
  | .error errCode => return (errCode, none, table)
  | .ok (pathTracer, blocks) =>
    let create := decide (m &&& FILE_MODE_WRITE > 0 ∧ m &&& FILE_MODE_APPEND = 0)
    let (errCode, file) ← openFile env fat stack pathTracer create
    destroyPathTracer blocks
    match file with
    | none => return (errCode, none, table)
    | some (block, file) =>
      let ref := table.opened
      let (errCode, table) ← addOpenFile env names ref { table with
        files := Function.update table.files ref { file with mode := m }
        opened := table.opened + 1 }
      if 0 ≤ errCode then return (errCode, some ref, table)
      kzfree (some block)
      return (errCode, none, table)

def fread (file : FileRef) (out : Nat → UInt8) (size count : Nat) (table : State) :
    M ((Code × (Nat → UInt8)) × State) := do
  if !(← onTable (checkIfFileIsOpen (names.environment true) table (some file))) then
    return ((-ENFOUND, out), table)
  let opened := table.files file
  let bytes := size * count % 2 ^ 64
  if opened.mode &&& FILE_MODE_READ = 0 then return ((-EWMODE, out), table)
  if names.volumes opened.label = false then return ((-EIARG, out), table)
  if (opened.size + opened.position) % 2 ^ 64 < bytes then return ((-EOF, out), table)
  let (ret, out) ← readFile env fat stack names out bytes opened
  if ret = 0 then return ((ret, out), table.setFile file (opened.afterRead bytes))
  return ((ret, out), table)

def fwrite (file : FileRef) (inBytes : Nat → UInt8) (size count : Nat) (table : State) :
    M (Code × State) := do
  if !(← onTable (checkIfFileIsOpen (names.environment true) table (some file))) then
    return (-ENFOUND, table)
  let opened := table.files file
  let bytes := size * count % 2 ^ 64
  if opened.mode &&& FILE_MODE_WRITE = 0 then return (-EWMODE, table)
  if names.volumes opened.label = false then return (-EIARG, table)
  let ret ← writeFile env fat stack names inBytes bytes opened
  if ret = 0 then return (ret, table.setFile file (opened.afterWrite bytes))
  return (ret, table)

/-- `fclose` frees nothing. -/
def fclose (file : FileRef) (table : State) : M (Code × State) :=
  onTable (Vfsl.fclose (names.environment true) (some file) table)

end Code

variable {env : Environment} {fat : FatPrivate} {stack : Stack} {names : Names} {start : Nat}
  {kept : List Block}

/-! ## Where nothing is found -/

/-- A result without an entry or a file has an error code. -/
def Reported {α : Type} (result : Code × Option α) (_world : World) : Prop :=
  result.2 = none → result.1 < 0

theorem reported_some {α : Type} (code : Code) (value : α) {pre : World → Prop} :
    Triple pre (pure (code, some value) : M (Code × Option α)) Reported :=
  .pure fun _ _ impossible => nomatch impossible

theorem reported_none {α : Type} {code : Code} (negative : code < 0) {pre : World → Prop} :
    Triple pre (pure (code, none) : M (Code × Option α)) Reported :=
  .pure fun _ _ _ => negative

theorem reported_findDirEntry (dataClusterNum : Nat) (name : CString) (wanted : UInt8) :
    Triple (Keeping start kept) (findDirEntry env fat stack dataClusterNum name wanted) Reported := by
  refine tidy_kzalloc 32 ?_
  rintro (_ | ret)
  · exact reported_none (by decide)
  refine (gives_getDirEntries _).bind ?_
  rintro ⟨errCode, maxEntries, _ | entries⟩
  · exact Triple.any.bind fun _ => reported_none (by decide)
  refine triple_fresh fun loose => (tidy_scanEntries _ _ _ _ _ _).bind ?_
  rintro (_ | counter)
  · exact Triple.any.bind fun _ => Triple.any.bind fun _ => reported_none (by decide)
  · exact Triple.any.bind fun _ => reported_some _ _

theorem reported_checkDirectory {pre : World → Prop} (errCode : Code) (entry : Entries) :
    Triple pre (pure (checkDirectory errCode entry) : M _) Reported := by
  rw [checkDirectory]
  split
  · exact reported_some _ _
  · exact reported_none (by decide)

/-- A program that gives a block or reports an error. -/
theorem gives_reported {α : Type} {program : M (Code × Option α)} {block : α → Block}
    (gives : Gives start kept program fun result => result.2.map block)
    (reported : Triple (Keeping start kept) program Reported) :
    Triple (Keeping start kept) program fun result world =>
      (result.2 = none → result.1 < 0) ∧ Given start kept (result.2.map block) world :=
  fun world keeping => (reported world keeping).and (gives world keeping)

/-- Where nothing was given, the code is negative. -/
theorem reported_nothing {α β : Type} {code : Code} {pre : World → Prop} :
    Triple (fun world => ((none : Option β) = none → code < 0) ∧ pre world)
      (pure (code, none) : M (Code × Option α)) Reported :=
  .assume fun negative => reported_none (negative rfl)

theorem reported_followParts (part : PathTracerPart) (parts : List PathTracerPart)
    (dataClusterNum : Nat) :
    Triple (Keeping start kept) (followParts env fat stack part parts dataClusterNum) Reported := by
  have finds (cluster : Nat) (name : CString) :
      Triple (Keeping start kept)
        (findDirEntry env fat stack cluster name DIR_ENTRY_ATTRIBUTE_DIRECTORY) fun result world =>
          (result.2 = none → result.1 < 0) ∧ Given start kept (blockOf result.2) world :=
    gives_reported (gives_findDirEntry _ _ _) (reported_findDirEntry _ _ _)
  induction parts generalizing part dataClusterNum with
  | nil =>
    rw [followParts]
    refine (finds _ _).bind ?_
    rintro ⟨errCode, _ | entry⟩
    · exact reported_nothing
    · exact reported_checkDirectory _ _
  | cons next parts induction =>
    rw [followParts]
    refine (finds _ _).bind ?_
    rintro ⟨errCode, _ | entry⟩
    · exact reported_nothing
    cases parts with
    | nil => exact reported_checkDirectory _ _
    | cons further parts =>
      refine .ite (fun _ => .assume fun _ => ?_) fun _ => reported_checkDirectory _ _
      exact (frees_given (some entry.block)).bind fun _ => induction next _

theorem reported_findDirectory (tracer : PathTracer) (errCode : Code) :
    Triple (Keeping start kept) (findDirectory env fat stack tracer errCode) Reported := by
  rw [findDirectory]
  split
  · exact .throw
  · refine .ite (fun _ => ?_) fun _ => reported_followParts _ _ _
    refine tidy_kzalloc 32 ?_
    rintro (_ | block)
    · exact reported_none (by decide)
    · exact reported_some _ _

theorem reported_findFile (tracer : PathTracer) (errCode : Code) :
    Triple (Keeping start kept) (findFile env fat stack tracer errCode) Reported := by
  refine Triple.bind (gives_reported (gives_findDirectory _ _) (reported_findDirectory _ _)) ?_
  rintro ⟨errCode, _ | entry⟩
  · exact reported_nothing
  refine .assume fun _ => triple_fresh fun fresh => ?_
  dsimp only
  cases pathTracerGetFileName tracer with
  | none => exact reported_none (by decide)
  | some fileName =>
    refine Triple.bind (gives_reported (gives_findDirEntry _ _ _) (reported_findDirEntry _ _ _)) ?_
    rintro ⟨errCode, fileEntry⟩
    refine .assume fun negative => triple_loose fun loose => (tidy_frees fresh).bind fun _ => ?_
    cases fileEntry with
    | none => exact reported_none (negative rfl)
    | some fileEntry =>
      refine tidy_kzalloc 8 ?_
      rintro (_ | block)
      · exact reported_none (by decide)
      · exact Triple.any.bind fun _ => reported_some _ _

/-! ## Path tracers on the heap -/

/-- The loop makes a request for each part that it completes. -/
theorem collectParts_requests (kzalloc : Nat → Bool) (rest : CString) :
    ∀ (done : List PathTracerPart) (pathPart : CString) (requests : Nat),
      requests ≤ (collectParts kzalloc done pathPart requests rest).2 ∧
        ∀ parts last, (collectParts kzalloc done pathPart requests rest).1 = .ok (parts, last) →
          requests + parts.length =
            (collectParts kzalloc done pathPart requests rest).2 + done.length := by
  induction rest with
  | nil =>
    intro done pathPart requests
    refine ⟨Nat.le_refl _, ?_⟩
    rintro parts last ⟨⟩
    rfl
  | cons char rest induction =>
    intro done pathPart requests
    rw [collectParts]
    split_ifs
    · exact ⟨Nat.le_refl _, by rintro parts last ⟨⟩⟩
    · obtain ⟨more, counted⟩ := induction (done ++ [⟨pathPart, .DIRECTORY⟩]) [] (requests + 1)
      refine ⟨Nat.le_of_succ_le more, fun parts last collected => ?_⟩
      have count := counted parts last collected
      rw [List.length_append, List.length_singleton] at count
      omega
    · exact ⟨Nat.le_succ _, by rintro parts last ⟨⟩⟩
    · exact induction done (pathPart ++ [char]) requests

/-- A tracer and its parts are as many requests at least. -/
theorem createPathTracer_requests (volumes : UInt8 → Bool) (kzalloc : Nat → Bool) (path : CString)
    (requests : Nat) :
    requests ≤ (Vfsl.createPathTracer volumes kzalloc path requests).2 ∧
      ∀ tracer, (Vfsl.createPathTracer volumes kzalloc path requests).1 = .ok tracer →
        requests + 1 + tracer.parts.length ≤
          (Vfsl.createPathTracer volumes kzalloc path requests).2 := by
  rw [Vfsl.createPathTracer]
  split_ifs
  · exact ⟨Nat.le_refl _, by rintro tracer ⟨⟩⟩
  · exact ⟨Nat.le_refl _, by rintro tracer ⟨⟩⟩
  · exact ⟨Nat.le_refl _, by rintro tracer ⟨⟩⟩
  · exact ⟨Nat.le_refl _, by rintro tracer ⟨⟩⟩
  · exact ⟨Nat.le_succ _, by rintro tracer ⟨⟩⟩
  · exact ⟨Nat.le_add_right _ 2, by rintro tracer ⟨⟩⟩
  · obtain ⟨more, counted⟩ := collectParts_requests kzalloc (path.drop 3) [] [] (requests + 2)
    split
    next code after collected =>
      rw [collected] at more
      exact ⟨Nat.le_of_add_right_le more, by rintro tracer ⟨⟩⟩
    next done pathPart after collected =>
      rw [collected] at more counted
      have count := counted done pathPart rfl
      refine ⟨Nat.le_of_add_right_le more, ?_⟩
      rintro tracer ⟨⟩
      rw [List.length_nil] at count
      dsimp only
      split_ifs
      · omega
      · rw [List.length_append, List.length_singleton]
        omega

/-- The blocks of a tracer are those of the requests made for it. -/
theorem request_tracerBlocks {first : Nat} {tracer : PathTracer} {block : Block}
    (member : block ∈ tracerBlocks env first tracer) :
    first ≤ block.request ∧ block.request < first + 1 + tracer.parts.length := by
  rcases List.mem_append.mp member with part | only
  · obtain ⟨i, inside, rfl⟩ := List.mem_map.mp part
    rw [List.mem_range] at inside
    exact ⟨by dsimp only; omega, by dsimp only; omega⟩
  · rw [List.mem_singleton.mp only]
    exact ⟨Nat.le_refl _, by dsimp only; omega⟩

/-- A tracer is new blocks, and NULL has an error code. -/
theorem gives_createPathTracer (path : CString) :
    Triple (Keeping start kept) (createPathTracer env names path) fun result world =>
      match result with
      | .error code => code < 0
      | .ok (_, blocks) => Keeping start (blocks ++ kept) world := by
  intro world keeping
  rw [createPathTracer, meets_bind, meets_get]
  dsimp only
  have counts := createPathTracer_requests names.volumes
    (fun request => env.kzalloc request (if request = world.requests then 16 else 272)) path
    world.requests
  split
  next code requests refused =>
    rw [refused] at counts
    have negative : code < 0 := by
      rcases createPathTracer_error refused with rfl | rfl | rfl | rfl <;> decide
    rw [meets_bind, meets_set, meets_pure]
    exact negative
  next tracer requests created =>
    rw [created] at counts
    have enough := counts.2 tracer rfl
    rw [meets_bind, meets_set, meets_pure]
    refine ⟨Nat.le_trans keeping.1 counts.1, fun block member => ?_⟩
    rcases List.mem_append.mp member with new | old
    · have request := (request_tracerBlocks new).2
      exact ⟨List.mem_append_left _ new, by dsimp only; omega⟩
    · have request := (keeping.2 block old).2
      exact ⟨List.mem_append_right _ (keeping.2 block old).1, Nat.lt_of_lt_of_le request counts.1⟩

/-- The blocks of a tracer are freed, and others are kept on. -/
theorem frees_tracer {blocks : List Block} (rest : List Block) (sub : rest ⊆ kept)
    (other : ∀ block ∈ blocks, block ∉ rest) :
    Triple (Keeping start kept) (destroyPathTracer blocks) fun _ => Keeping start rest := by
  induction blocks generalizing kept with
  | nil => exact .pure fun _ keeping => keeping.sub sub
  | cons block blocks induction =>
    refine (frees_one rest sub (other block List.mem_cons_self)).bind fun _ => ?_
    exact induction (List.Subset.refl rest) fun later member =>
      other later (List.mem_cons_of_mem _ member)

/-! ## What is left behind -/

/-- A block that was not in use before is. -/
def Left (start : Nat) (world : World) : Prop := ∃ block ∈ world.live, start ≤ block.request

theorem Keeping.left {block : Block} {world : World} (keeping : Keeping start (block :: kept) world)
    (late : start ≤ block.request) : Left start world :=
  ⟨block, (keeping.2 block List.mem_cons_self).1, late⟩

/-- The blocks kept are others than a new one. -/
theorem apart {block : Block} (fresh : block ∉ kept) : ∀ other ∈ kept, other ∉ [block] := by
  rintro other member only
  rw [List.mem_singleton.mp only] at member
  exact fresh member

/-- Nothing is said of a call that fails. -/
theorem no_success {code : Code} (negative : code < 0) {left : Prop} : code = SUCCESS → left :=
  fun success => absurd success (Int.ne_of_lt negative)

/-- A file that was found is a new block. -/
theorem triple_file {α : Type} {program : M α} {post : α → World → Prop} {file : FatFile}
    (rest : ∀ block ∉ kept, start ≤ block.request →
      Triple (Keeping start (block :: kept)) program post) :
    Triple (FileGiven env start kept (some file)) program post :=
  fun world owned => rest _ owned.fresh owned.late world owned.keeping

/-- Likewise where its block is looked up to be freed later. -/
theorem triple_fileBlock {α : Type} {next : World → M α} {post : α → World → Prop} {file : FatFile}
    (rest : ∀ given, lastBlock env 8 given ∉ kept → start ≤ (lastBlock env 8 given).request →
      Triple (Keeping start (lastBlock env 8 given :: kept)) (next given) post) :
    Triple (FileGiven env start kept (some file)) (get >>= next) post := by
  intro world owned
  rw [meets_bind, meets_get]
  exact rest world owned.fresh owned.late world owned.keeping

/-- `findFile` reports an error or gives a file. -/
theorem file_findFile (tracer : PathTracer) (errCode : Code) :
    Triple (Keeping start kept) (findFile env fat stack tracer errCode) fun result world =>
      (result.2 = none → result.1 < 0) ∧ FileGiven env start kept result.2 world :=
  fun world keeping =>
    (reported_findFile tracer errCode world keeping).and (gives_findFile tracer errCode world keeping)

/-- The file is not freed. -/
theorem left_readFile (ptr : Nat → UInt8) (size : Nat) (file : File) :
    Triple (Keeping start []) (readFile env fat stack names ptr size file) fun result world =>
      result.1 = SUCCESS → Left start world := by
  refine (gives_createPathTracer file.path).bind ?_
  rintro (code | ⟨tracer, blocks⟩)
  · exact .pure fun _ negative => no_success negative
  refine Triple.bind (file_findFile tracer 0) ?_
  rintro ⟨errCode, fatFile⟩
  refine .assume fun negative => ?_
  cases fatFile with
  | none =>
    refine (frees_tracer [] (List.nil_subset _) fun _ _ => List.not_mem_nil).bind fun _ => ?_
    exact .pure fun _ _ => no_success (negative rfl)
  | some fatFile =>
    refine triple_file fun block fresh late => ?_
    have other : ∀ freed ∈ blocks, freed ∉ [block] := fun freed member =>
      apart fresh freed (List.mem_append_left _ member)
    have sub : [block] ⊆ block :: (blocks ++ []) :=
      List.cons_subset_cons block (List.nil_subset _)
    refine (frees_tracer [block] sub other).bind fun _ => ?_
    exact (tidy_readFatFile _ _ _ _).weaken (fun _ keeping => keeping)
      fun _ _ keeping _ => keeping.left late

/-- The first cluster leaves the blocks, and without it there is an error code. -/
theorem tidy_firstCluster (fatFile : FatFile) (errCode : Code) :
    Triple (Keeping start kept) (firstCluster env fat fatFile errCode) fun result world =>
      match result with
      | .error code => code < 0 ∧ Keeping start kept world
      | .ok _ => Keeping start kept world := by
  refine .ite (fun _ => ?_) fun _ => .pure fun _ keeping => keeping
  refine (tidy_getFreeFatEntryCluster _).bind fun found => .ite (fun _ => ?_) fun _ => ?_
  · exact .pure fun _ keeping => ⟨by decide, keeping⟩
  refine (tidy_writeFATEntry _ _).bind fun _ => .ite (fun negative => ?_) fun _ => ?_
  · exact .pure fun _ keeping => ⟨negative, keeping⟩
  · exact .pure fun _ keeping => keeping

/-- The entry of the file is not freed. -/
theorem left_writeFile (inBytes : Nat → UInt8) (size : Nat) (file : File) :
    Triple (Keeping start []) (writeFile env fat stack names inBytes size file) fun code world =>
      code = SUCCESS → Left start world := by
  refine (gives_createPathTracer file.path).bind ?_
  rintro (code | ⟨tracer, blocks⟩)
  · exact .pure fun _ negative => no_success negative
  refine Triple.bind (file_findFile tracer 0) ?_
  rintro ⟨errCode, fatFile⟩
  refine .assume fun negative => ?_
  cases fatFile with
  | none =>
    refine (frees_tracer [] (List.nil_subset _) fun _ _ => List.not_mem_nil).bind fun _ => ?_
    exact .pure fun _ _ => no_success (negative rfl)
  | some fatFile =>
    refine triple_fileBlock fun given fresh late => ?_
    generalize lastBlock env 8 given = fatBlock at fresh late ⊢
    -- What frees the file and the tracer, and keeps some other blocks.
    have ends (code : Code) {used : List Block} (rest : List Block) (sub : rest ⊆ used)
        (file : fatBlock ∉ rest) (other : ∀ block ∈ blocks, block ∉ rest) :
        Triple (Keeping start used) (do
          kzfree (some fatBlock)
          destroyPathTracer blocks
          return code) fun ret world => ret = code ∧ Keeping start rest world := by
      refine (frees_one rest sub file).bind fun _ => ?_
      refine (frees_tracer rest (List.Subset.refl rest) other).bind fun _ => ?_
      exact .pure fun _ keeping => ⟨rfl, keeping⟩
    have fails {code : Code} (failed : code ≠ SUCCESS) {used : List Block} :
        Triple (Keeping start used) (do
          kzfree (some fatBlock)
          destroyPathTracer blocks
          return code) fun ret world => ret = SUCCESS → Left start world :=
      (ends code [] (List.nil_subset _) List.not_mem_nil fun _ _ => List.not_mem_nil).weaken
        (fun _ keeping => keeping) fun _ _ both success => absurd (both.1.symm.trans success) failed
    refine (tidy_firstCluster fatFile errCode).bind ?_
    rintro (code | ⟨fatFile, startClusterWritten⟩)
    · exact .assume fun negative => fails (Int.ne_of_lt negative)
    refine (tidy_writeFatFile _ _ _ _).bind fun code => .ite (fun failed => fails failed) fun _ => ?_
    refine Triple.bind (gives_reported (gives_findDirectory _ _) (reported_findDirectory _ _)) ?_
    rintro ⟨errCode, dir⟩
    refine .assume fun _ => .ite (fun negative => .pure fun _ _ => no_success negative) fun _ => ?_
    dsimp only
    cases dir with
    | none => exact .throw
    | some dir =>
      refine triple_owned fun fresh_dir _ => ?_
      cases pathTracerGetFileName tracer with
      | none => exact .throw
      | some fileName =>
        refine Triple.bind (gives_reported (gives_findDirEntry _ _ _) (reported_findDirEntry _ _ _)) ?_
        rintro ⟨errCode, fileEntry⟩
        refine .assume fun negative => ?_
        cases fileEntry with
        | none => exact .pure fun _ _ => no_success (negative rfl)
        | some fileEntry =>
          refine triple_owned fun fresh_entry late_entry => ?_
          have other := apart fresh_entry
          refine (tidy_updateDirectoryEntry _ _ _).bind fun code => ?_
          refine (frees_one [fileEntry.block] (List.cons_subset_cons _ (List.nil_subset _))
            (other _ List.mem_cons_self)).bind fun _ => ?_
          refine (ends code [fileEntry.block] (List.Subset.refl _) (other _ ?_) ?_).weaken
            (fun _ keeping => keeping) fun _ _ both _ => both.2.left late_entry
          · exact List.mem_cons_of_mem _ List.mem_cons_self
          · exact fun block member => other block
              (List.mem_cons_of_mem _ (List.mem_cons_of_mem _ (List.mem_append_left _ member)))

/-- What was opened is a new block. -/
theorem gives_openFile (tracer : PathTracer) (create : Bool) :
    Gives start kept (openFile env fat stack tracer create) fun result => result.2.map Prod.fst := by
  refine (gives_findOrCreate tracer create 0).bind ?_
  rintro ⟨errCode, _ | fatFile⟩
  · refine .ite (fun _ => .pure fun _ keeping => keeping) fun _ => .get fun _ => tidy_kzalloc 528 ?_
    rintro (_ | block)
    · exact .pure fun _ keeping => keeping
    · exact tidy_kzalloc _ fun _ => .throw
  refine .ite (fun _ => triple_file fun _ _ _ => .pure fun _ keeping => keeping.drop) fun _ => ?_
  refine triple_fileBlock fun given fresh _ => ?_
  generalize lastBlock env 8 given = fatBlock at fresh ⊢
  refine (gives_kzalloc 528).bind ?_
  rintro (_ | block)
  · exact .pure fun _ keeping => keeping.drop
  refine triple_owned fun fresh_block late => tidy_kzalloc _ ?_
  rintro (_ | path)
  · exact .throw
  dsimp only
  cases pathTracerGetFileName tracer with
  | none => exact .throw
  | some name =>
    have other : fatBlock ∉ block :: kept := fun member => (List.mem_cons.mp member).elim
      (fun same => fresh_block (same ▸ List.mem_cons_self)) fresh
    refine (frees_one (block :: kept) (List.cons_subset_cons _ (List.subset_cons_self _ _))
      other).bind fun _ => ?_
    exact .pure fun _ keeping => ⟨fun member => fresh_block (List.mem_cons_of_mem _ member), late, keeping⟩

theorem tidy_onTable {α : Type} (result : Except Vfsl.Fault α) : Tidy start kept (onTable result) := by
  cases result with
  | ok value => exact tidy_pure _
  | error fault => cases fault <;> exact .throw

theorem tidy_addOpenFile (file : FileRef) (table : State) :
    Tidy start kept (addOpenFile env names file table) :=
  .ite (fun _ => tidy_onTable _) fun _ => tidy_kzalloc _ fun _ => tidy_onTable _

/-- The structure of a file that was opened is in use. -/
theorem left_fopen (path mode : CString) (table : State) :
    Triple (Keeping start []) (fopen env fat stack names path mode table) fun result world =>
      result.2.1.isSome → Left start world := by
  refine (tidy_onTable _).bind fun _ => .ite (fun _ => .pure fun _ _ h => nomatch h) fun _ => ?_
  refine .ite (fun _ => .pure fun _ _ h => nomatch h) fun _ => ?_
  refine (gives_createPathTracer path).bind ?_
  rintro (code | ⟨tracer, blocks⟩)
  · exact .pure fun _ _ h => nomatch h
  refine (gives_openFile _ _).bind ?_
  rintro ⟨errCode, _ | ⟨block, file⟩⟩
  · refine (frees_tracer [] (List.nil_subset _) fun _ _ => List.not_mem_nil).bind fun _ => ?_
    exact .pure fun _ _ h => nomatch h
  refine triple_owned fun fresh late => ?_
  have other : ∀ freed ∈ blocks, freed ∉ [block] := fun freed member =>
    apart fresh freed (List.mem_append_left _ member)
  refine (frees_tracer [block] (List.cons_subset_cons block (List.nil_subset _)) other).bind fun _ => ?_
  refine (tidy_addOpenFile _ _).bind ?_
  rintro ⟨errCode, table⟩
  refine .ite (fun _ => .pure fun _ keeping _ => keeping.left late) fun _ => ?_
  exact Triple.any.bind fun _ => .pure fun _ _ h => nomatch h

theorem left_fread (file : FileRef) (out : Nat → UInt8) (size count : Nat) (table : State) :
    Triple (Keeping start []) (fread env fat stack names file out size count table)
      fun result world => result.1.1 = SUCCESS → Left start world := by
  have fails (code : Code) (negative : code < 0) :
      Triple (Keeping start []) (pure ((code, out), table) : M ((Code × (Nat → UInt8)) × State))
        fun result world => result.1.1 = SUCCESS → Left start world :=
    .pure fun _ _ => no_success negative
  refine (tidy_onTable _).bind fun _ => .ite (fun _ => fails (-ENFOUND) (by decide)) fun _ => ?_
  refine .ite (fun _ => fails (-EWMODE) (by decide)) fun _ => ?_
  refine .ite (fun _ => fails (-EIARG) (by decide)) fun _ => ?_
  refine .ite (fun _ => fails (-EOF) (by decide)) fun _ => ?_
  refine (left_readFile _ _ _).bind ?_
  rintro ⟨ret, out⟩
  exact .ite (fun _ => .pure fun _ left => left) fun _ => .pure fun _ left => left

theorem left_fwrite (file : FileRef) (inBytes : Nat → UInt8) (size count : Nat) (table : State) :
    Triple (Keeping start []) (fwrite env fat stack names file inBytes size count table)
      fun result world => result.1 = SUCCESS → Left start world := by
  have fails (code : Code) (negative : code < 0) :
      Triple (Keeping start []) (pure (code, table) : M (Code × State))
        fun result world => result.1 = SUCCESS → Left start world :=
    .pure fun _ _ => no_success negative
  refine (tidy_onTable _).bind fun _ => .ite (fun _ => fails (-ENFOUND) (by decide)) fun _ => ?_
  refine .ite (fun _ => fails (-EWMODE) (by decide)) fun _ => ?_
  refine .ite (fun _ => fails (-EIARG) (by decide)) fun _ => ?_
  refine (left_writeFile _ _ _).bind fun ret => ?_
  exact .ite (fun _ => .pure fun _ left => left) fun _ => .pure fun _ left => left

/-- Closing a file changes nothing but the table. -/
theorem world_fclose (file : FileRef) (table : State) (world : World) :
    Meets (fclose names file table) world (fun _ => True) fun _ after => after = world := by
  rw [fclose]
  cases Vfsl.fclose (names.environment true) (some file) table with
  | ok value => exact .pure rfl
  | error fault => cases fault <;> exact .throw trivial

/-! ## The blocks in use before and after a call -/

/-- The same blocks are in use. -/
def SameBlocks (before after : World) : Prop := ∀ block, block ∈ after.live ↔ block ∈ before.live

/-- The blocks in use are of requests that were made. -/
def World.Numbered (world : World) : Prop := ∀ block ∈ world.live, block.request < world.requests

/-- What is left behind by a call was not in use before it. -/
theorem Left.changed {world after : World} (numbered : world.Numbered)
    (left : Left world.requests after) : ¬ SameBlocks world after := by
  intro same
  obtain ⟨block, used, late⟩ := left
  exact Nat.not_lt.mpr late (numbered block ((same block).mp used))

/-- A call begins with no block that it has to keep. -/
theorem keeping_nothing (world : World) : Keeping world.requests [] world :=
  ⟨Nat.le_refl _, fun _ member => nomatch member⟩

section Calls

variable {world after : World} (numbered : world.Numbered)
include numbered

/-- A successful read, a successful write, and opening a file and closing it leave blocks in
use that were not in use before, whatever the state they begin in.

Proof: a block that is asked for and kept is not the block of another request, and the code
frees only what it was given since. -/
theorem calls_leave_blocks (table : State) :
    (∀ file out size count read next,
      (fread env fat stack names file out size count table).run world =
        .ok (((SUCCESS, read), next), after) → ¬ SameBlocks world after) ∧
    (∀ file inBytes size count next,
      (fwrite env fat stack names file inBytes size count table).run world =
        .ok ((SUCCESS, next), after) → ¬ SameBlocks world after) ∧
    ∀ path mode errCode file opened between code next,
      (fopen env fat stack names path mode table).run world =
        .ok ((errCode, some file, opened), between) →
      (fclose names file opened).run between = .ok ((code, next), after) →
        ¬ SameBlocks world after := by
  have keeping := keeping_nothing world
  refine ⟨?_, ?_, ?_⟩
  · intro file out size count read next ran
    have left := (left_fread file out size count table world keeping).returned ran
    exact Left.changed numbered (left rfl)
  · intro file inBytes size count next ran
    have left := (left_fwrite file inBytes size count table world keeping).returned ran
    exact Left.changed numbered (left rfl)
  · intro path mode errCode file opened between code next ran closed
    have left := (left_fopen path mode table world keeping).returned ran
    obtain rfl := (world_fclose file opened between).returned closed
    exact Left.changed numbered (left rfl)

end Calls

/-! ## A volume with one file -/

/-- The entry of the file `A` with its five bytes in the third cluster. -/
def entryOfFile : DirectoryEntry :=
  let name : DirectoryEntry := fun i => if i = 0 then 65 else if i < 8 then 0x20 else 0x10
  let entry := DirectoryEntry.setAttributes name DIR_ENTRY_ATTRIBUTE_ARCHIVE
  DirectoryEntry.setFileSize (DirectoryEntry.setStartCluster entry 3) 5

def fileBytes : Nat → UInt8 :=
  let bytes := putEntry (attachToDisk smallRecord) (fun _ => 0) 2 FAT_ENTRY_USED
  overwrite (putEntry (attachToDisk smallRecord) bytes 3 FAT_ENTRY_USED) 17408 32 entryOfFile

/-- One hash for all paths, and all volumes. -/
def oneHash : Names := ⟨fun _ => 0, fun _ => true⟩

/-- `C:/A` -/
def pathOfFile : CString := [67, 58, 47, 65]

/-- The table in which that file is open with a mode. -/
def openTable (mode : UInt8) : State :=
  ⟨Function.update (fun _ => .zero) (.slot 0) ⟨some 0, none, none⟩,
    fun _ => ⟨67, pathOfFile, [65], mode, 0, 5⟩, 0, 1, 0⟩

/-- The table without open files. -/
def emptyTable : State := ⟨fun _ => .zero, fun _ => ⟨0, [], [], 0, 0, 0⟩, 0, 0, 0⟩

/-- A program on that volume, where nothing goes wrong. -/
def onVolume {α : Type} (program : Environment → FatPrivate → Stack → Names → M α) :
    Option (α × World) :=
  ((program (pageEnvironment 82944) (attachToDisk smallRecord) (fun _ _ _ => 0) oneHash).run
    (freshWorld fileBytes)).toOption

theorem freshWorld_numbered (bytes : Nat → UInt8) : (freshWorld bytes).Numbered :=
  fun _ member => nomatch member

/-- Opening the file to read it and closing it, reading it and writing it are successful there. -/
theorem file_calls_leave_blocks :
    (∃ read next after, onVolume (fread · · · · 0 (fun _ => 0) 1 5 (openTable FILE_MODE_READ)) =
      some (((SUCCESS, read), next), after) ∧ ¬ SameBlocks (freshWorld fileBytes) after) ∧
    (∃ next after, onVolume (fwrite · · · · 0 (fun _ => 7) 1 5 (openTable FILE_MODE_WRITE)) =
      some ((SUCCESS, next), after) ∧ ¬ SameBlocks (freshWorld fileBytes) after) ∧
    ∃ errCode opened between code next after,
      onVolume (fopen · · · · pathOfFile [114] emptyTable) =
        some ((errCode, some 0, opened), between) ∧
      (fclose oneHash 0 opened).run between = .ok ((code, next), after) ∧
      ¬ SameBlocks (freshWorld fileBytes) after := by
  have reads : (onVolume (fread · · · · 0 (fun _ => 0) 1 5 (openTable FILE_MODE_READ))).map
      (fun result => result.1.1.1) = some SUCCESS := by decide +kernel
  have writes : (onVolume (fwrite · · · · 0 (fun _ => 7) 1 5 (openTable FILE_MODE_WRITE))).map
      (fun result => result.1.1) = some SUCCESS := by decide +kernel
  have opens : (onVolume (fopen · · · · pathOfFile [114] emptyTable)).map
      (fun result => (result.1.2.1, ((fclose oneHash 0 result.1.2.2).run result.2).toOption.isSome)) =
        some (some 0, true) := by decide +kernel
  have numbered := freshWorld_numbered fileBytes
  refine ⟨?_, ?_, ?_⟩
  · obtain ⟨⟨⟨⟨ret, read⟩, next⟩, after⟩, ran, rfl⟩ := Option.map_eq_some_iff.mp reads
    exact ⟨read, next, after, ran,
      (calls_leave_blocks numbered _).1 0 _ 1 5 read next (ran_of_toOption ran)⟩
  · obtain ⟨⟨⟨ret, next⟩, after⟩, ran, rfl⟩ := Option.map_eq_some_iff.mp writes
    exact ⟨next, after, ran, (calls_leave_blocks numbered _).2.1 0 _ 1 5 next (ran_of_toOption ran)⟩
  · obtain ⟨⟨⟨errCode, file, opened⟩, between⟩, ran, both⟩ := Option.map_eq_some_iff.mp opens
    obtain ⟨rfl, closes⟩ := Prod.mk.inj both
    obtain ⟨⟨⟨code, next⟩, after⟩, closed⟩ := Option.isSome_iff_exists.mp closes
    have closing := ran_of_toOption closed
    exact ⟨errCode, opened, between, code, next, after, ran, closing,
      (calls_leave_blocks numbered _).2.2 pathOfFile [114] errCode 0 opened between code next
        (ran_of_toOption ran) closing⟩

/-- The `struct fatFile` of a read of no bytes is in use behind it. -/
theorem read_leaves_block :
    ∃ read next after, onVolume (fread · · · · 0 (fun _ => 0) 1 0 (openTable FILE_MODE_READ)) =
      some (((SUCCESS, read), next), after) ∧ ¬ SameBlocks (freshWorld fileBytes) after := by
  have shown : (onVolume (fread · · · · 0 (fun _ => 0) 1 0 (openTable FILE_MODE_READ))).map
      (fun result => (result.1.1.1, result.2.live)) = some (SUCCESS, [⟨5, 4096⟩]) := by
    decide +kernel
  obtain ⟨⟨⟨⟨ret, read⟩, next⟩, after⟩, ran, both⟩ := Option.map_eq_some_iff.mp shown
  obtain ⟨rfl, used⟩ := Prod.mk.inj both
  refine ⟨read, next, after, ran, fun same => ?_⟩
  have before := (same ⟨5, 4096⟩).mp (used ▸ List.mem_singleton_self _)
  exact nomatch before

end BobaOS.Fat
