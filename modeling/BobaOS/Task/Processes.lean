import Mathlib.Data.Set.Insert
import BobaOS.Vfsl.OpenPaths

/-!
# Processes

`process.c` and `task.c`: a process is made from a file. Its task is made first: the file is
opened, and the task and its frame are requested from the heap. Whoever fails on the way
returns NULL and leaves the code; the last part to be asked for, the frame, is always NULL,
and nobody closes the file.

Pointers to the blocks of tasks and processes are their contents; the parent and the page
table are named by the number of the request that made them. The heap, the volumes and their
file systems are those of the table of open files.
-/

namespace BobaOS.Tasks

open Vfsl

def BOBAOS_MAX_PROCESSES : Nat := 12
def BOBAOS_USER_SELECTOR_CODE : UInt64 := 0x1B
def BOBAOS_USER_SELECTOR_DATA : UInt64 := 0x23
def BOBAOS_DEFAULT_PROCESS_ENTRY : UInt64 := 0x400000
def BOBAOS_DEFAULT_TASK_STACK : UInt64 := 0x3FFFF0
def BOBAOS_DEFAULT_TASK_KERNEL_STACK : UInt64 := 0xffff900000000000

def PROCESS_FLAG_FORMAT_BINARY : UInt8 := 1
def PROCESS_FLAG_TYPE_USER : UInt8 := 4
def PROCESS_FLAG_TYPE_KERNEL : UInt8 := 8
def PROCESS_FLAG_STATE_ALIVE : UInt8 := 16

/-- The number of a heap request. -/
abbrev BlockRef := Nat

structure TrapFrame where
  rip : UInt64
  cs : UInt64
  rsp : UInt64
  ds : UInt64

inductive TaskState where
  | READY
  | RUNNING
  | SLEEP
  | KERNEL

/-- `struct task`, without the links that nothing sets. -/
structure Task where
  id : UInt32
  pid : UInt32
  frame : TrapFrame
  state : TaskState
  kernelStack : UInt64

/-- `struct process`, without the allocations and the return code that nothing sets. -/
structure Process where
  pid : UInt32
  parentProcess : Option BlockRef
  path : CString
  mainTask : Task
  flags : UInt32
  pageTable : BlockRef

/-- The variables of `process.c` and `task.c`, and the table of open files. -/
structure Processes where
  files : State
  processList : Nat → Option Process
  nextProcess : UInt32
  nextProcessId : UInt32
  nextTaskId : UInt32

section Code

variable (env : Environment)

/-- The request of a block, by its number. -/
def kzalloc (state : Processes) : Option BlockRef × Processes :=
  let calls := state.files.calls
  (if env.kzalloc calls then some calls else none,
    { state with files := { state.files with calls := calls + 1 } })

/-- The frame is filled, and then NULL is returned. -/
def createNewTaskFrame (taskStack taskEntry : UInt64) (oErrCode : Code) (state : Processes) :
    Code × Option TrapFrame × Processes :=
  match kzalloc env state with
  | (none, state) => (-ENMEM, none, state)
  | (some _, state) =>
    let _frame : TrapFrame :=
      { rsp := taskStack
        rip := taskEntry
        cs := BOBAOS_USER_SELECTOR_CODE
        ds := BOBAOS_USER_SELECTOR_DATA }
    (oErrCode, none, state)

def createTaskFromBinFile (path : CString) (pid : UInt32) (state : Processes) :
    Except Fault (Code × Option Task × Processes) :=
  match fopen env path [114] state.files with
  | .error fault => .error fault
  | .ok (oErrCode, none, files) => .ok (oErrCode, none, { state with files })
  | .ok (oErrCode, some _, files) =>
    match kzalloc env { state with files } with
    | (none, state) => .ok (-ENMEM, none, state)
    | (some _, state) =>
      match createNewTaskFrame env BOBAOS_DEFAULT_TASK_STACK BOBAOS_DEFAULT_PROCESS_ENTRY oErrCode
        state with
      | (oErrCode, none, state) => .ok (oErrCode, none, state)
      | (oErrCode, some frame, state) =>
        .ok (oErrCode, some ⟨state.nextTaskId, pid, frame, .READY, BOBAOS_DEFAULT_TASK_KERNEL_STACK⟩,
          { state with nextTaskId := state.nextTaskId + 1 })

def createTaskFromFile (path : CString) (pid : UInt32) (state : Processes) :
    Except Fault (Code × Option Task × Processes) := createTaskFromBinFile env path pid state

def addToProcessList (process : Process) (state : Processes) : Code × Processes :=
  if BOBAOS_MAX_PROCESSES ≤ state.nextProcess.toNat then (-ENSPACE, state)
  else (SUCCESS, { state with
    processList := Function.update state.processList state.nextProcess.toNat (some process)
    nextProcess := state.nextProcess + 1 })

/-- The error code, and the process, NULL on an error. -/
def createProcess (path : CString) (parentProcess : Option BlockRef) (processType : UInt8)
    (state : Processes) : Except Fault (Code × Option Process × Processes) :=
  if processType = PROCESS_FLAG_TYPE_KERNEL then .ok (-ENIMPLEMENTED, none, state)
  else
    match kzalloc env state with
    | (none, state) => .ok (-ENMEM, none, state)
    | (some _, state) =>
      let newProcessId := state.nextProcessId
      let failed (state : Processes) := { state with nextProcessId := state.nextProcessId - 1 }
      match createTaskFromFile env path newProcessId
        { state with nextProcessId := state.nextProcessId + 1 } with
      | .error fault => .error fault
      | .ok (oErrCode, none, state) => .ok (oErrCode, none, failed state)
      | .ok (_, some task, state) =>
        match kzalloc env state with
        | (none, state) => .ok (-ENMEM, none, failed state)
        | (some table, state) =>
          let process : Process :=
            { pid := newProcessId
              mainTask := task
              flags := (PROCESS_FLAG_FORMAT_BINARY ||| PROCESS_FLAG_STATE_ALIVE ||| processType).toUInt32
              parentProcess
              pageTable := table
              path := path.take BOBAOS_MAX_PATH_SIZE }
          let (oErrCode, state) := addToProcessList process state
          if oErrCode < 0 then .ok (oErrCode, none, failed state)
          else .ok (oErrCode, some process, state)

end Code

/-! ## The files that are open -/

section Files

variable {env : Environment} {path mode : CString} {state after : State} {code : Code}

/-- The files that a table holds. -/
def held (table : EntryRef → FileListEntry) : Set FileRef :=
  {file | ∃ entry, (table entry).file = some file}

/-- The table of open files holds only files that have been opened before. -/
def Known (state : State) : Prop := ∀ file ∈ held state.openFiles, file < state.opened

/-- An entry that is written has its file and leaves the others. -/
theorem held_update (table : EntryRef → FileListEntry) (entry : EntryRef) (value : FileListEntry) :
    held (Function.update table entry value) ⊆ {file | value.file = some file} ∪ held table := by
  rintro file ⟨other, here⟩
  by_cases same : other = entry
  · rw [same, Function.update_self] at here
    exact .inl here
  · rw [Function.update_of_ne same] at here
    exact .inr ⟨other, here⟩

/-- A written entry has its file. -/
theorem mem_held_update (table : EntryRef → FileListEntry) (entry : EntryRef)
    {value : FileListEntry} {file : FileRef} (has : value.file = some file) :
    file ∈ held (Function.update table entry value) := ⟨entry, by rw [Function.update_self, has]⟩

/-- An entry that is linked otherwise keeps its file. -/
theorem held_link (table : EntryRef → FileListEntry) (entry : EntryRef) (value : FileListEntry)
    (same : value.file = (table entry).file) : held (Function.update table entry value) = held table := by
  ext file
  refine exists_congr fun other => ?_
  by_cases here : other = entry
  · rw [here, Function.update_self, same]
  · rw [Function.update_of_ne here]

/-- A file is added to the table, or the heap has no room for its entry. -/
theorem addOpenFile_cases {file : FileRef} (added : addOpenFile env file state = .ok (code, after)) :
    after.opened = state.opened ∧
      (code = 0 ∧ file ∈ held after.openFiles ∧ held after.openFiles ⊆ insert file (held state.openFiles) ∨
        code = -ENMEM ∧ after.openFiles = state.openFiles) := by
  have new {table : EntryRef → FileListEntry} {entry : EntryRef} {value : FileListEntry}
      (has : value.file = some file) :
      held (Function.update table entry value) ⊆ insert file (held table) := by
    refine (held_update _ _ _).trans (Set.union_subset ?_ (Set.subset_insert _ _))
    rintro other same
    exact .inl (Option.some.inj (has.symm.trans same)).symm
  simp only [addOpenFile] at added
  split at added
  · simp only [Except.ok.injEq, Prod.mk.injEq] at added
    obtain ⟨rfl, rfl⟩ := added
    exact ⟨rfl, .inl ⟨rfl, mem_held_update _ _ rfl, new rfl⟩⟩
  · split at added
    · cases added
    · split at added
      · simp only [Except.ok.injEq, Prod.mk.injEq] at added
        obtain ⟨rfl, rfl⟩ := added
        exact ⟨rfl, .inr ⟨rfl, rfl⟩⟩
      · simp only [Except.ok.injEq, Prod.mk.injEq] at added
        obtain ⟨rfl, rfl⟩ := added
        refine ⟨rfl, .inl ⟨rfl, ?_⟩⟩
        dsimp only
        rw [held_link]
        · exact ⟨mem_held_update _ _ rfl, new rfl⟩
        · -- The entry before the new one keeps its file.
          rfl

/-- `fopen` returns a new file that the table holds from then on, or leaves the table. -/
theorem fopen_cases {file : Option FileRef}
    (opened : fopen env path mode state = .ok (code, file, after)) :
    state.opened ≤ after.opened ∧
      (file = none ∧ after.openFiles = state.openFiles ∨
        file = some state.opened ∧ state.opened < after.opened ∧
          state.opened ∈ held after.openFiles ∧
            held after.openFiles ⊆ insert state.opened (held state.openFiles)) := by
  simp only [fopen] at opened
  generalize checkIfFileIsOpenString env state path = search at opened
  rcases search with fault | _ | _
  · cases opened
  · dsimp only at opened
    split at opened
    · simp only [Except.ok.injEq, Prod.mk.injEq] at opened
      obtain ⟨-, rfl, rfl⟩ := opened
      exact ⟨Nat.le_refl _, .inl ⟨rfl, rfl⟩⟩
    generalize createPathTracer _ env.kzalloc path state.calls = traced at opened
    rcases traced with ⟨refused | pathTracer, calls⟩
    · simp only [Except.ok.injEq, Prod.mk.injEq] at opened
      obtain ⟨-, rfl, rfl⟩ := opened
      exact ⟨Nat.le_refl _, .inl ⟨rfl, rfl⟩⟩
    dsimp only at opened
    generalize env.partitionGetByVolumeLabel pathTracer.label = volume at opened
    rcases volume with _ | _ | fileSystem
    · cases opened
    · cases opened
    dsimp only at opened
    generalize fileSystem.openFile calls pathTracer _ = answer at opened
    rcases answer with _ | ⟨refused, _ | made⟩
    · cases opened
    · simp only [Except.ok.injEq, Prod.mk.injEq] at opened
      obtain ⟨-, rfl, rfl⟩ := opened
      exact ⟨Nat.le_refl _, .inl ⟨rfl, rfl⟩⟩
    dsimp only at opened
    generalize added : addOpenFile env state.opened _ = result at opened
    rcases result with fault | ⟨returned, state'⟩
    · cases opened
    simp only [Except.ok.injEq, Prod.mk.injEq] at opened
    obtain ⟨rfl, rfl, rfl⟩ := opened
    obtain ⟨counted, outcome⟩ := addOpenFile_cases added
    dsimp only at counted outcome
    refine ⟨by omega, ?_⟩
    rcases outcome with ⟨rfl, here, others⟩ | ⟨rfl, same⟩
    · exact .inr ⟨rfl, by omega, here, others⟩
    · exact .inl ⟨if_neg (by decide), same⟩
  · simp only [Except.ok.injEq, Prod.mk.injEq] at opened
    obtain ⟨-, rfl, rfl⟩ := opened
    exact ⟨Nat.le_refl _, .inl ⟨rfl, rfl⟩⟩

theorem known_vfslInit (files : FileRef → File) (calls : Nat) : Known (vfslInit files calls) := by
  rintro file ⟨entry, held⟩
  cases held

theorem Known.fopen (known : Known state) {file : Option FileRef}
    (opened : fopen env path mode state = .ok (code, file, after)) : Known after := by
  obtain ⟨more, ⟨-, same⟩ | ⟨-, new, -, others⟩⟩ := fopen_cases opened
  · intro other member
    rw [same] at member
    exact Nat.lt_of_lt_of_le (known other member) more
  · intro other member
    rcases others member with rfl | old
    · exact new
    · exact Nat.lt_of_lt_of_le (known other old) more

/-- Closing adds no file to the table. -/
theorem removePath_held (fuel : Nat) (entry : EntryRef)
    (removed : removePath state path fuel entry = .ok (code, after)) :
    after.opened = state.opened ∧ held after.openFiles ⊆ held state.openFiles := by
  induction fuel generalizing entry with
  | zero => cases removed
  | succ fuel ih =>
    rw [removePath] at removed
    cases has : (state.openFiles entry).file with
    | none =>
      simp only [has] at removed
      cases removed
    | some file =>
      simp only [has] at removed
      split at removed
      · split at removed
        · simp only [Except.ok.injEq, Prod.mk.injEq] at removed
          obtain ⟨-, rfl⟩ := removed
          refine ⟨rfl, (held_update _ _ _).trans (Set.union_subset ?_ subset_rfl)⟩
          rintro other impossible
          cases impossible
        · split at removed
          · cases removed
          · split at removed
            · cases removed
            · simp only [Except.ok.injEq, Prod.mk.injEq] at removed
              obtain ⟨-, rfl⟩ := removed
              refine ⟨rfl, ?_⟩
              dsimp only
              rw [held_link]
              · refine (held_update _ _ _).trans (Set.union_subset ?_ subset_rfl)
                exact fun other here => ⟨_, here⟩
              · rfl
      · split at removed
        · simp only [Except.ok.injEq, Prod.mk.injEq] at removed
          obtain ⟨-, rfl⟩ := removed
          exact ⟨rfl, subset_rfl⟩
        · exact ih _ removed

theorem Known.fclose (known : Known state) {file : Option FileRef}
    (closed : fclose env file state = .ok (code, after)) : Known after := by
  simp only [Vfsl.fclose] at closed
  split at closed
  · cases closed
  · obtain ⟨counted, fewer⟩ := removePath_held _ _ closed
    intro other member
    rw [counted]
    exact known other (fewer member)
  · simp only [Except.ok.injEq, Prod.mk.injEq] at closed
    obtain ⟨-, rfl⟩ := closed
    exact known

variable (env) in
/-- In every session the table holds only files that have been opened. -/
theorem sessions_known : (sessions env).Invariant fun _ state => Known state where
  initially state started := by
    obtain ⟨files, calls, rfl⟩ := started
    exact known_vfslInit files calls
  preserved past state after label known stepped := by
    cases label with
    | fopen path mode code file => exact known.fopen stepped
    | fclose file path code => exact known.fclose stepped.2

end Files

/-! ## A process that is made -/

section Main

variable {env : Environment} {path : CString} {parentProcess : Option BlockRef}
  {processType : UInt8}

/-- The list, its counters and the set of open files are as they were. -/
structure Unchanged (before after : Processes) : Prop where
  processList : after.processList = before.processList
  nextProcess : after.nextProcess = before.nextProcess
  nextProcessId : after.nextProcessId = before.nextProcessId
  openFiles : held after.files.openFiles = held before.files.openFiles

/-- The process is in the list, and no other process there has its number. -/
def Listed (process : Process) (state : Processes) : Prop :=
  ∃ index < state.nextProcess.toNat, state.processList index = some process ∧
    ∀ other < state.nextProcess.toNat, other ≠ index → ∀ listed,
      state.processList other = some listed → listed.pid ≠ process.pid

/-- NULL comes with a negative code and changes nothing, and a process is listed. -/
def Atomic (env : Environment) (path : CString) (parentProcess : Option BlockRef)
    (processType : UInt8) (state : Processes) : Prop :=
  ∀ code process after,
    createProcess env path parentProcess processType state = .ok (code, process, after) →
      match process with
      | none => code < 0 ∧ Unchanged state after
      | some process => Listed process after

/-- The file cannot be opened, and a negative code tells so. -/
def Refused (env : Environment) (path : CString) (state : State) : Prop :=
  ∀ code file after, fopen env path [114] state = .ok (code, file, after) → file = none ∧ code < 0

/-- The variables that a failed call puts back. -/
structure Restored (before after : Processes) : Prop where
  processList : after.processList = before.processList
  nextProcess : after.nextProcess = before.nextProcess
  nextProcessId : after.nextProcessId = before.nextProcessId

/-- A task is never made, and where the file has been opened it stays open. -/
theorem createTaskFromFile_null (pid : UInt32) {state : Processes} {opened : Code}
    {file : Option FileRef} {files : State}
    (opening : fopen env path [114] state.files = .ok (opened, file, files)) :
    ∃ code after, createTaskFromFile env path pid state = .ok (code, none, after) ∧
      (file = none → code = opened) ∧ after.files.openFiles = files.openFiles ∧
        Restored state after := by
  cases file with
  | none =>
    refine ⟨opened, { state with files }, ?_, fun _ => rfl, rfl, ⟨rfl, rfl, rfl⟩⟩
    simp [createTaskFromFile, createTaskFromBinFile, opening]
  | some file =>
    by_cases room : env.kzalloc files.calls = true
    · by_cases frame : env.kzalloc (files.calls + 1) = true
      · refine ⟨opened, { state with files := { files with calls := files.calls + 2 } }, ?_, nofun,
          rfl, ⟨rfl, rfl, rfl⟩⟩
        simp [createTaskFromFile, createTaskFromBinFile, opening, kzalloc, room,
          createNewTaskFrame, frame]
      · refine ⟨-ENMEM, { state with files := { files with calls := files.calls + 2 } }, ?_, nofun,
          rfl, ⟨rfl, rfl, rfl⟩⟩
        simp [createTaskFromFile, createTaskFromBinFile, opening, kzalloc, room,
          createNewTaskFrame, frame]
    · refine ⟨-ENMEM, { state with files := { files with calls := files.calls + 1 } }, ?_, nofun,
        rfl, ⟨rfl, rfl, rfl⟩⟩
      simp [createTaskFromFile, createTaskFromBinFile, opening, kzalloc, room]

/-- The table of open files with one more request made to the heap. -/
def requested (state : Processes) : State := { state.files with calls := state.files.calls + 1 }

/-- So a process is never made either. -/
theorem createProcess_null {state : Processes} (user : processType ≠ PROCESS_FLAG_TYPE_KERNEL)
    (room : env.kzalloc state.files.calls = true) {opened : Code} {file : Option FileRef}
    {files : State} (opening : fopen env path [114] (requested state) = .ok (opened, file, files)) :
    ∃ code after, createProcess env path parentProcess processType state = .ok (code, none, after) ∧
      (file = none → code = opened) ∧ after.files.openFiles = files.openFiles ∧
        Restored state after := by
  let numbered : Processes :=
    { state with files := requested state, nextProcessId := state.nextProcessId + 1 }
  have opening : fopen env path [114] numbered.files = .ok (opened, file, files) := opening
  obtain ⟨code, after, made, told, table, list, next, id⟩ :=
    createTaskFromFile_null state.nextProcessId opening
  refine ⟨code, { after with nextProcessId := after.nextProcessId - 1 }, ?_, told, table, list, next, ?_⟩
  · have made : createTaskFromFile env path state.nextProcessId
        { state with
          files := { state.files with calls := state.files.calls + 1 }
          nextProcessId := state.nextProcessId + 1 } = .ok (code, none, after) := made
    simp only [createProcess, if_neg user, kzalloc, room, if_true, made]
  · rw [id]
    exact UInt32.add_sub_cancel ..

theorem createProcess_fault {state : Processes} (user : processType ≠ PROCESS_FLAG_TYPE_KERNEL)
    (room : env.kzalloc state.files.calls = true) {fault : Fault}
    (opening : fopen env path [114] (requested state) = .error fault) :
    createProcess env path parentProcess processType state = .error fault := by
  have opening : fopen env path [114] { state.files with calls := state.files.calls + 1 } =
    .error fault := opening
  simp [createProcess, user, kzalloc, room, createTaskFromFile, createTaskFromBinFile, opening]

/-- `createProcess` keeps its promise if and only if it gives up before it opens the file,
or the file cannot be opened. -/
theorem createProcess_atomic_iff {state : Processes} (known : Known state.files) :
    Atomic env path parentProcess processType state ↔
      processType = PROCESS_FLAG_TYPE_KERNEL ∨ env.kzalloc state.files.calls = false ∨
        Refused env path (requested state) := by
  by_cases user : processType = PROCESS_FLAG_TYPE_KERNEL
  · refine iff_of_true ?_ (.inl user)
    intro code process after made
    simp only [createProcess, if_pos user, Except.ok.injEq, Prod.mk.injEq] at made
    obtain ⟨rfl, rfl, rfl⟩ := made
    exact ⟨by decide, rfl, rfl, rfl, rfl⟩
  by_cases room : env.kzalloc state.files.calls = true
  · simp only [user, room, false_or, Bool.true_eq_false]
    rcases opening : fopen env path [114] (requested state) with fault | ⟨opened, file, files⟩
    · -- Nothing is returned.
      refine iff_of_true ?_ fun code file after impossible => ?_
      · intro code process after made
        rw [createProcess_fault user room opening] at made
        cases made
      · rw [opening] at impossible
        cases impossible
    · obtain ⟨code, after, made, told, table, list, next, id⟩ :=
        createProcess_null user room opening
      constructor
      · intro atomic
        obtain ⟨negative, unchanged⟩ := atomic code none after made
        intro other ref final same
        rw [opening] at same
        obtain ⟨rfl, rfl, rfl⟩ := same
        obtain ⟨-, ⟨rfl, -⟩ | ⟨-, -, here, -⟩⟩ := fopen_cases opening
        · exact ⟨rfl, told rfl ▸ negative⟩
        · -- The file that has been opened was not there before.
          rw [← table, unchanged.openFiles] at here
          exact absurd (known _ here) (Nat.lt_irrefl _)
      · intro refused other process final again
        obtain ⟨rfl, negative⟩ := refused _ _ _ opening
        rw [made] at again
        obtain ⟨rfl, rfl, rfl⟩ := again
        obtain ⟨-, ⟨-, same⟩ | ⟨impossible, -⟩⟩ := fopen_cases opening
        · exact ⟨told rfl ▸ negative, list, next, id, by rw [table, same]; rfl⟩
        · cases impossible
  · refine iff_of_true ?_ (.inr (.inl (by simpa using room)))
    intro code process after made
    simp only [createProcess, if_neg user, kzalloc, room] at made
    obtain ⟨rfl, rfl, rfl⟩ := made
    exact ⟨by decide, rfl, rfl, rfl, rfl⟩

end Main

/-! ## A volume with a file system -/

/-- A volume `C`, whose file system opens a file for every path or for none. -/
def volumeC (opens : Bool) : Environment where
  strHash _ := 0
  kzalloc _ := true
  partitionGetByVolumeLabel label := if label = 67 then some (some ⟨fun _ tracer _ =>
    some (if opens then
      (0, some ⟨67, pathTracerGetPathString tracer, [], FILE_MODE_READ, 0, 0⟩)
    else (-ENFOUND, none))⟩) else none

/-- Nothing is open and no process is listed. -/
def noProcesses : Processes where
  files := vfslInit (fun _ => ⟨0, [], [], 0, 0, 0⟩) 0
  processList _ := none
  nextProcess := 0
  nextProcessId := 0
  nextTaskId := 0

/-- The path `C:/a`. -/
def pathA : CString := [67, COLON, SLASH, 97]

theorem missing_file_atomic :
    Atomic (volumeC false) pathA none PROCESS_FLAG_TYPE_USER noProcesses := by
  refine (createProcess_atomic_iff (known_vfslInit _ _)).mpr (.inr (.inr ?_))
  intro code file after opened
  have ran : fopen (volumeC false) pathA [114] (requested noProcesses) =
    .ok (-ENFOUND, none, { vfslInit (fun _ => ⟨0, [], [], 0, 0, 0⟩) 0 with calls := 4 }) := rfl
  rw [ran] at opened
  cases opened
  exact ⟨rfl, by decide⟩

theorem opened_file_left_open :
    ¬ Atomic (volumeC true) pathA none PROCESS_FLAG_TYPE_USER noProcesses := by
  intro atomic
  have told := atomic 0 none _ rfl
  exact absurd told.1 (by decide)

end BobaOS.Tasks
