import Mathlib.Logic.Function.Basic
import BobaOS.Library.Runs
import BobaOS.Vfsl.PathTracer

/-!
# The table of open files

`virtualFilesystemLayer.c`: the files that are open, by the hash of their path. A
bucket is a static entry and, behind it, entries from the kernel heap. Three
functions walk a bucket, each with a loop condition of its own.

The table behaves as a map from paths to files as long as no call is made with a
path whose bucket holds another path. A call made with such a path runs off the
end of the bucket.

The hash, the heap's answers, the volumes and their file systems are parameters.
The reference of an entry is an index into the static array or the address of a
heap entry; a file is known by the number of files opened before it.
-/

namespace BobaOS.Vfsl

open Runs

def BOBAOS_MAX_OPEN_FILES : Nat := 1024

def FILE_MODE_READ : UInt8 := 1
def FILE_MODE_WRITE : UInt8 := 2
def FILE_MODE_APPEND : UInt8 := 4

structure File where
  label : UInt8
  path : CString
  name : CString
  mode : UInt8
  position : Nat
  size : Nat

abbrev FileRef := Nat

/-- Where an entry is: in the static array or on the heap. -/
inductive EntryRef where
  | slot (id : Nat)
  | node (address : Nat)
deriving DecidableEq

/-- Pointers that may be NULL are options. -/
structure FileListEntry where
  file : Option FileRef
  next : Option EntryRef
  prev : Option EntryRef

/-- A cleared entry. -/
def FileListEntry.zero : FileListEntry := ⟨none, none, none⟩

/-- The entries, the files by their reference, the numbers of entries and files
made so far, and the number of calls made to the heap and the file systems. -/
structure State where
  openFiles : EntryRef → FileListEntry
  files : FileRef → File
  nodes : Nat
  opened : Nat
  calls : Nat

/-- What ends a call without a return: a NULL entry or an entry without a file
is dereferenced, a bucket has no end, or the file system does not return. -/
inductive Fault where
  | nullEntry
  | nullFile
  | endless
  | fileSystem
deriving DecidableEq

/-- The `open` of a file system: the code it sets and the file it returns, if it
returns. -/
structure FileSystem where
  openFile : Nat → PathTracer → Bool → Option (Code × Option File)

/-- The hash of paths, the heap's answers, and the volumes with the file system
attached to each of them. -/
structure Environment where
  strHash : CString → Nat
  kzalloc : Nat → Bool
  partitionGetByVolumeLabel : UInt8 → Option (Option FileSystem)

/-- `strHash`: characters are signed. -/
def strHash (str : CString) : Nat :=
  (str.foldl (fun (hash : BitVec 64) char => (hash <<< 5) + hash + char.toBitVec.signExtend 64)
    5381).toNat

section Code

variable (env : Environment)

/-- The bucket of a path. -/
def bucket (path : CString) : Nat := env.strHash path % BOBAOS_MAX_OPEN_FILES

/-- The loop of `checkIfFileIsOpenString`, from an entry on. A bucket without a
cycle is shorter than the fuel. -/
def findPath (state : State) (path : CString) : Nat → Option EntryRef → Except Fault Bool
  | 0, _ => .error .endless
  | _ + 1, none => .error .nullEntry
  | fuel + 1, some entry =>
    match (state.openFiles entry).file with
    | none => .ok false
    | some file =>
      if path = (state.files file).path then .ok true
      else findPath state path fuel (state.openFiles entry).next

def checkIfFileIsOpenString (state : State) (path : CString) : Except Fault Bool :=
  let head := EntryRef.slot (bucket env path)
  if (state.openFiles head).file ≠ none then findPath state path (state.nodes + 2) (some head)
  else .ok false

def checkIfFileIsOpen (state : State) (file : Option FileRef) : Except Fault Bool :=
  match file with
  | none => .ok false
  | some file => checkIfFileIsOpenString env state (state.files file).path

/-- The loop of `addOpenFile`: it passes entries of the same path. -/
def findEnd (state : State) (path : CString) : Nat → EntryRef → Except Fault EntryRef
  | 0, _ => .error .endless
  | fuel + 1, currEntry =>
    match (state.openFiles currEntry).file with
    | none => .error .nullFile
    | some file =>
      if (state.files file).path = path then
        match (state.openFiles currEntry).next with
        | none => .ok currEntry
        | some next => findEnd state path fuel next
      else .ok currEntry

def addOpenFile (file : FileRef) (state : State) : Except Fault (Code × State) :=
  let head := EntryRef.slot (bucket env (state.files file).path)
  if (state.openFiles head).file = none then
    .ok (0, { state with openFiles := Function.update state.openFiles head ⟨some file, none, none⟩ })
  else
    match findEnd state (state.files file).path (state.nodes + 2) head with
    | .error fault => .error fault
    | .ok currEntry =>
      if env.kzalloc state.calls = false then
        .ok (-ENMEM, { state with calls := state.calls + 1 })
      else
        let newEntry := EntryRef.node state.nodes
        let openFiles :=
          Function.update state.openFiles newEntry ⟨some file, none, some currEntry⟩
        .ok (0, { state with
          openFiles := Function.update openFiles currEntry
            { openFiles currEntry with next := some newEntry }
          nodes := state.nodes + 1
          calls := state.calls + 1 })

def checkMode (ret : UInt8) : CString → UInt8
  | [] => ret
  | char :: mode =>
    if char = 114 then
      if ret &&& FILE_MODE_WRITE = 0 ∧ ret &&& FILE_MODE_APPEND = 0 then
        checkMode (ret ||| FILE_MODE_READ) mode
      else 0
    else if char = 119 then
      if ret &&& FILE_MODE_READ = 0 then checkMode (ret ||| FILE_MODE_WRITE) mode else 0
    else if char = 97 then
      if ret &&& FILE_MODE_READ = 0 then checkMode (ret ||| FILE_MODE_APPEND) mode else 0
    else 0

/-- The loop of `closeFile`: an entry that is alone is emptied, any other takes
over the file behind it. -/
def removePath (state : State) (path : CString) : Nat → EntryRef → Except Fault (Code × State)
  | 0, _ => .error .endless
  | fuel + 1, currEntry =>
    let entry := state.openFiles currEntry
    match entry.file with
    | none => .error .nullFile
    | some file =>
      if (state.files file).path = path then
        if entry.prev = none ∧ entry.next = none then
          .ok (SUCCESS, { state with
            openFiles := Function.update state.openFiles currEntry { entry with file := none } })
        else
          match entry.next with
          | none => .error .nullEntry
          | some next =>
            let behind := state.openFiles next
            let openFiles := Function.update state.openFiles currEntry
              { entry with file := behind.file, next := behind.next }
            match behind.next with
            | none => .error .nullEntry
            | some further =>
              .ok (SUCCESS, { state with
                openFiles := Function.update openFiles further
                  { openFiles further with prev := some currEntry } })
      else
        match entry.next with
        | none => .ok (-ENFOUND, state)
        | some next => removePath state path fuel next

def closeFile (file : FileRef) (state : State) : Except Fault (Code × State) :=
  let path := (state.files file).path
  removePath state path (state.nodes + 2) (.slot (bucket env path))

/-- The error code and the file, NULL on an error. -/
def fopen (path mode : CString) (state : State) : Except Fault (Code × Option FileRef × State) :=
  match checkIfFileIsOpenString env state path with
  | .error fault => .error fault
  | .ok true => .ok (-EIUSE, none, state)
  | .ok false =>
    let m := checkMode 0 mode
    if m = 0 then .ok (-EWMODE, none, state)
    else
      match createPathTracer (fun label => (env.partitionGetByVolumeLabel label).isSome) env.kzalloc
        path state.calls with
      | (.error code, calls) => .ok (code, none, { state with calls })
      | (.ok pathTracer, calls) =>
        match env.partitionGetByVolumeLabel pathTracer.label with
        | some (some fileSystem) =>
          let create := decide (m &&& FILE_MODE_WRITE > 0 ∧ m &&& FILE_MODE_APPEND = 0)
          match fileSystem.openFile calls pathTracer create with
          | none => .error .fileSystem
          | some (code, none) => .ok (code, none, { state with calls := calls + 1 })
          | some (_, some file) =>
            let ref := state.opened
            match addOpenFile env ref { state with
              files := Function.update state.files ref { file with mode := m }
              opened := state.opened + 1
              calls := calls + 1 } with
            | .error fault => .error fault
            | .ok (code, state) => .ok (code, if 0 ≤ code then some ref else none, state)
        | _ => .error .fileSystem

def fclose (file : Option FileRef) (state : State) : Except Fault (Code × State) :=
  match checkIfFileIsOpen env state file, file with
  | .error fault, _ => .error fault
  | .ok true, some file => closeFile env file state
  | .ok _, _ => .ok (-ENFOUND, state)

end Code

/-- `vfslInit` clears the table. -/
def vfslInit (files : FileRef → File) (calls : Nat) : State where
  openFiles _ := .zero
  files := files
  nodes := 0
  opened := 0
  calls := calls

/-- The file systems give the file they open the path of the tracer, and do not
report it as open. -/
def Environment.Opens (env : Environment) : Prop :=
  ∀ label fileSystem, env.partitionGetByVolumeLabel label = some (some fileSystem) →
    ∀ call tracer create code file,
      fileSystem.openFile call tracer create = some (code, file) →
      code ≠ -EIUSE ∧ ∀ opened, file = some opened → opened.path = pathTracerGetPathString tracer

end BobaOS.Vfsl
