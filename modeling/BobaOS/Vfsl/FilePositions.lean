import BobaOS.Vfsl.OpenPaths

/-!
# The position in an open file

`virtualFilesystemLayer.c`: `fseek`, `fread` and `fwrite` move the position of an open
file, and `fwrite` sets its size.

The position is to stay within the file. `fread` compares the bytes that are asked for
with the size and the position together, not with what is left behind the position.

Numbers of bytes have 64 bits. The file systems are parameters.
-/

namespace BobaOS.Vfsl

open Runs

/-- The `read` and `write` of a file system, which do not change the file: the code they
return, and what is behind the pointer after a read. -/
structure FileOperations where
  readFile : Nat → (Nat → UInt8) → Nat → File → Option (Code × (Nat → UInt8))
  writeFile : Nat → (Nat → UInt8) → Nat → File → Option Code

/-- The volumes, with what their file systems do. -/
structure TransferEnvironment extends Environment where
  operations : FileSystem → FileOperations

/-- Another content of a file's structure. -/
def State.setFile (state : State) (file : FileRef) (changed : File) : State :=
  { state with files := Function.update state.files file changed }

def fseek (file : FileRef) (offset : Nat) (state : State) : Code × State :=
  if offset ≤ (state.files file).size then
    (SUCCESS, state.setFile file { state.files file with position := offset })
  else (-ENMEM, state)

/-- The file after a read of some bytes. -/
def File.afterRead (file : File) (bytes : Nat) : File :=
  { file with position := (file.position + bytes) % 2 ^ 64 }

/-- The file after a write of some bytes. -/
def File.afterWrite (file : File) (bytes : Nat) : File :=
  if file.mode &&& FILE_MODE_APPEND > 0 then
    { file with
      position := (file.position + bytes) % 2 ^ 64
      size := (file.size + bytes) % 2 ^ 64 }
  else
    { file with
      size := (file.position + bytes) % 2 ^ 64
      position := (file.position + bytes) % 2 ^ 64 }

section Code

variable (env : TransferEnvironment)

/-- The code, and what is behind `out` then. -/
def fread (file : Option FileRef) (out : Nat → UInt8) (size count : Nat) (state : State) :
    Except Fault ((Code × (Nat → UInt8)) × State) :=
  match checkIfFileIsOpen env.toEnvironment state file, file with
  | .error fault, _ => .error fault
  | .ok true, some ref =>
    let opened := state.files ref
    let bytes := size * count % 2 ^ 64
    if opened.mode &&& FILE_MODE_READ = 0 then .ok ((-EWMODE, out), state)
    else match env.partitionGetByVolumeLabel opened.label with
      | none => .ok ((-EIARG, out), state)
      | some volume =>
        if (opened.size + opened.position) % 2 ^ 64 < bytes then .ok ((-EOF, out), state)
        else match volume with
          | none => .error .fileSystem
          | some fileSystem =>
            match (env.operations fileSystem).readFile state.calls out bytes opened with
            | none => .error .fileSystem
            | some (ret, out) =>
              let state := { state with calls := state.calls + 1 }
              if ret = 0 then .ok ((ret, out), state.setFile ref (opened.afterRead bytes))
              else .ok ((ret, out), state)
  | .ok _, _ => .ok ((-ENFOUND, out), state)

def fwrite (file : Option FileRef) (inBytes : Nat → UInt8) (size count : Nat) (state : State) :
    Except Fault (Code × State) :=
  match checkIfFileIsOpen env.toEnvironment state file, file with
  | .error fault, _ => .error fault
  | .ok true, some ref =>
    let opened := state.files ref
    let bytes := size * count % 2 ^ 64
    if opened.mode &&& FILE_MODE_WRITE = 0 then .ok (-EWMODE, state)
    else match env.partitionGetByVolumeLabel opened.label with
      | none => .ok (-EIARG, state)
      | some none => .error .fileSystem
      | some (some fileSystem) =>
        match (env.operations fileSystem).writeFile state.calls inBytes bytes opened with
        | none => .error .fileSystem
        | some ret =>
          let state := { state with calls := state.calls + 1 }
          if ret = 0 then .ok (ret, state.setFile ref (opened.afterWrite bytes))
          else .ok (ret, state)
  | .ok _, _ => .ok (-ENFOUND, state)

end Code

/-! ## Calls on one file -/

/-- The calls that move the position, with their codes. -/
inductive Transfer where
  | fseek (offset : Nat) (code : Code)
  | fread (size count : Nat) (code : Code)
  | fwrite (size count : Nat) (code : Code)

/-- A file that `fopen` has just returned, and any calls on it that return. -/
def transfers (env : TransferEnvironment) (file : FileRef) : System State Transfer where
  start state := ∃ path mode code before,
    fopen env.toEnvironment path mode before = .ok (code, some file, state)
  step state call after := match call with
    | .fseek offset code => Vfsl.fseek file offset state = (code, after)
    | .fread size count code => ∃ out read,
        Vfsl.fread env (some file) out size count state = .ok ((code, read), after)
    | .fwrite size count code => ∃ inBytes,
        Vfsl.fwrite env (some file) inBytes size count state = .ok (code, after)

/-- The file systems give the file they open the label of the tracer, and begin at its first
byte. -/
def TransferEnvironment.Begins (env : TransferEnvironment) : Prop :=
  ∀ label fileSystem, env.partitionGetByVolumeLabel label = some (some fileSystem) →
    ∀ call tracer create code file,
      fileSystem.openFile call tracer create = some (code, some file) →
      file.label = tracer.label ∧ file.position = 0 ∧ file.size < 2 ^ 64

/-- No `read` of a file system returns the code for the end of the file. -/
def TransferEnvironment.Silent (env : TransferEnvironment) : Prop :=
  ∀ fileSystem call out bytes file code read,
    (env.operations fileSystem).readFile call out bytes file = some (code, read) → code ≠ -EOF

/-- A read that is refused exactly if it is too long: it ends in the file and is no longer
than the size and the position together, or it ends behind the file and is longer than
them. -/
def File.Judged (file : File) (bytes : Nat) : Prop :=
  file.position + bytes ≤ file.size ∧ bytes ≤ (file.size + file.position) % 2 ^ 64 ∨
    file.size < file.position + bytes ∧
      (file.size + file.position) % 2 ^ 64 < bytes % 2 ^ 64

/-- A write behind the end has a size of 64 bits, or no position of 64 bits either. -/
def File.Counted (file : File) (bytes : Nat) : Prop :=
  file.mode &&& FILE_MODE_APPEND > 0 →
    file.size + bytes % 2 ^ 64 < 2 ^ 64 ∨ 2 ^ 64 ≤ file.position + bytes % 2 ^ 64

/-- A call whose 64-bit numbers are compared and added rightly. -/
def Transfer.Fits (file : FileRef) (state : State) : Transfer → Prop
  | .fseek _ _ => True
  | .fread size count _ => (state.files file).Judged (size * count)
  | .fwrite size count _ => (state.files file).Counted (size * count)

/-! ## Files stay open -/

/-- The search for a path looks at nothing of a file but its path. -/
theorem findPath_congr {state other : State} (entries : other.openFiles = state.openFiles)
    (paths : ∀ file, (other.files file).path = (state.files file).path) (path : CString)
    (fuel : Nat) (entry : Option EntryRef) :
    findPath other path fuel entry = findPath state path fuel entry := by
  induction fuel generalizing entry with
  | zero => rfl
  | succ fuel induction =>
    cases entry with
    | none => rfl
    | some entry => simp only [findPath, entries, paths, induction]

theorem checkIfFileIsOpen_congr (env : Environment) {state other : State}
    (entries : other.openFiles = state.openFiles) (nodes : other.nodes = state.nodes)
    (paths : ∀ file, (other.files file).path = (state.files file).path)
    (file : Option FileRef) :
    checkIfFileIsOpen env other file = checkIfFileIsOpen env state file := by
  cases file with
  | none => rfl
  | some file =>
    simp only [checkIfFileIsOpen, checkIfFileIsOpenString, entries, nodes, paths,
      findPath_congr entries paths]

/-- A file that has been added is found, in the static entry or behind it. -/
theorem addOpenFile_opens {env : Environment} {file : FileRef} {state after : State} {code : Code}
    (added : addOpenFile env file state = .ok (code, after)) (success : 0 ≤ code) :
    after.files = state.files ∧ checkIfFileIsOpen env after (some file) = .ok true := by
  rw [addOpenFile] at added
  dsimp only at added
  split at added
  · cases added
    refine ⟨rfl, ?_⟩
    simp [checkIfFileIsOpen, checkIfFileIsOpenString, findPath]
  next taken =>
    obtain ⟨first, isFirst⟩ := Option.ne_none_iff_exists'.mp taken
    split at added
    · cases added
    next currEntry found =>
      split at added
      · cases added
        exact absurd success (by decide)
      · cases added
        refine ⟨rfl, ?_⟩
        by_cases same : (state.files first).path = (state.files file).path
        · -- The first file of the bucket has the path, and is still the first one.
          have still : (Function.update (Function.update state.openFiles (.node state.nodes)
              ⟨some file, none, some currEntry⟩) currEntry
              { Function.update state.openFiles (.node state.nodes)
                  ⟨some file, none, some currEntry⟩ currEntry with
                next := some (.node state.nodes) }
              (.slot (bucket env (state.files file).path))).file = some first := by
            by_cases head : currEntry = .slot (bucket env (state.files file).path)
            · simp [head, isFirst]
            · simp [Ne.symm head, isFirst]
          simp [checkIfFileIsOpen, checkIfFileIsOpenString, findPath, still, same]
        · -- The search for the end stops at the first file, and the new entry is put there.
          obtain rfl : EntryRef.slot (bucket env (state.files file).path) = currEntry := by
            simpa [findEnd, isFirst, same] using found
          simp [checkIfFileIsOpen, checkIfFileIsOpenString, findPath, isFirst]

/-! ## What holds in every run -/

variable {env : TransferEnvironment} {file : FileRef} {state after : State}

/-- The file is open on a volume, and its position is in it. -/
structure Placed (env : TransferEnvironment) (file : FileRef) (state : State) : Prop where
  opened : checkIfFileIsOpen env.toEnvironment state (some file) = .ok true
  attached : (env.partitionGetByVolumeLabel (state.files file).label).isSome
  within : (state.files file).position ≤ (state.files file).size
  narrow : (state.files file).size < 2 ^ 64

/-- The number of calls is of no importance. -/
theorem Placed.called (placed : Placed env file state) (calls : Nat) :
    Placed env file { state with calls } where
  opened := by
    rw [← placed.opened]
    refine checkIfFileIsOpen_congr env.toEnvironment ?_ ?_ (fun _ => ?_) _ <;> rfl
  attached := placed.attached
  within := placed.within
  narrow := placed.narrow

/-- Nor are the position and the size for the file to be open. -/
theorem Placed.setFile (placed : Placed env file state) {changed : File}
    (label : changed.label = (state.files file).label)
    (path : changed.path = (state.files file).path)
    (within : changed.position ≤ changed.size) (narrow : changed.size < 2 ^ 64) :
    Placed env file (state.setFile file changed) where
  opened := by
    rw [← placed.opened]
    refine checkIfFileIsOpen_congr env.toEnvironment ?_ ?_ (fun other => ?_) _
    · rfl
    · rfl
    · by_cases same : other = file
      · simp [State.setFile, same, path]
      · simp [State.setFile, same]
  attached := by simpa [State.setFile, label] using placed.attached
  within := by simpa [State.setFile] using within
  narrow := by simpa [State.setFile] using narrow

/-- A file that `fopen` returns is open, at its first byte. -/
theorem fopen_placed (begins : env.Begins) {path mode : CString} {code : Code} {before : State}
    (returned : fopen env.toEnvironment path mode before = .ok (code, some file, state)) :
    Placed env file state := by
  unfold fopen at returned
  split at returned
  · cases returned
  · cases returned
  dsimp only at returned
  split at returned
  · cases returned
  split at returned
  · cases returned
  next tracer calls parsed =>
  split at returned
  · next fileSystem attached =>
    split at returned
    · cases returned
    · cases returned
    next code' made opens =>
    split at returned
    · cases returned
    next added =>
    simp only [Except.ok.injEq, Prod.mk.injEq, Option.ite_none_right_eq_some,
      Option.some.injEq] at returned
    obtain ⟨rfl, ⟨success, rfl⟩, rfl⟩ := returned
    obtain ⟨label, start, narrow⟩ := begins _ _ attached _ _ _ _ _ opens
    obtain ⟨files, isOpen⟩ := addOpenFile_opens added success
    constructor
    · exact isOpen
    · simp [files, label, attached]
    · simp [files, start]
    · simpa [files] using narrow
  · cases returned

/-- What a read of an open file does. -/
inductive Freads (env : TransferEnvironment) (file : FileRef) (bytes : Nat) (state : State) :
    Code → State → Prop where
  | wrongMode (writing : (state.files file).mode &&& FILE_MODE_READ = 0) :
      Freads env file bytes state (-EWMODE) state
  | endOfFile (reading : (state.files file).mode &&& FILE_MODE_READ ≠ 0)
      (long : ((state.files file).size + (state.files file).position) % 2 ^ 64 < bytes) :
      Freads env file bytes state (-EOF) state
  | reads (calls : Nat)
      (short : bytes ≤ ((state.files file).size + (state.files file).position) % 2 ^ 64) :
      Freads env file bytes state SUCCESS
        (State.setFile { state with calls } file ((state.files file).afterRead bytes))
  | fails (code : Code) (calls : Nat) (failed : code ≠ SUCCESS)
      (short : bytes ≤ ((state.files file).size + (state.files file).position) % 2 ^ 64)
      (other : env.Silent → code ≠ -EOF) :
      Freads env file bytes state code { state with calls }

theorem fread_cases (placed : Placed env file state) {out read : Nat → UInt8} {size count : Nat}
    {code : Code}
    (returned : fread env (some file) out size count state = .ok ((code, read), after)) :
    Freads env file (size * count % 2 ^ 64) state code after := by
  obtain ⟨volume, attached⟩ := Option.isSome_iff_exists.mp placed.attached
  simp only [fread, placed.opened, attached] at returned
  split at returned
  next writing =>
    cases returned
    exact .wrongMode writing
  next reading =>
  split at returned
  next long =>
    cases returned
    exact .endOfFile reading long
  next short =>
  cases volume with
  | none => cases returned
  | some fileSystem =>
    dsimp only at returned
    split at returned
    · cases returned
    next ret bytes transferred =>
    split at returned
    next success =>
      cases returned
      rw [success]
      exact .reads _ (Nat.not_lt.mp short)
    next failed =>
      cases returned
      exact .fails _ _ failed (Nat.not_lt.mp short) fun silent =>
        silent _ _ _ _ _ _ _ transferred

/-- A write of an open file leaves it as it was or counts the bytes. -/
theorem fwrite_cases (placed : Placed env file state) {inBytes : Nat → UInt8} {size count : Nat}
    {code : Code} (returned : fwrite env (some file) inBytes size count state = .ok (code, after)) :
    ∃ calls, after = { state with calls } ∨
      after = State.setFile { state with calls } file
        ((state.files file).afterWrite (size * count % 2 ^ 64)) := by
  obtain ⟨volume, attached⟩ := Option.isSome_iff_exists.mp placed.attached
  simp only [fwrite, placed.opened, attached] at returned
  split at returned
  · cases returned
    exact ⟨state.calls, .inl rfl⟩
  cases volume with
  | none => cases returned
  | some fileSystem =>
    dsimp only at returned
    split at returned
    · cases returned
    split at returned
    · cases returned
      exact ⟨_, .inr rfl⟩
    · cases returned
      exact ⟨_, .inl rfl⟩

/-- A read that is judged rightly leaves the position in the file. -/
theorem Placed.fread (placed : Placed env file state) {size count : Nat} {code : Code}
    (judged : (state.files file).Judged (size * count))
    (read : Freads env file (size * count % 2 ^ 64) state code after) : Placed env file after := by
  cases read with
  | wrongMode => exact placed
  | endOfFile => exact placed
  | fails code calls => exact placed.called calls
  | reads calls short =>
    refine (placed.called calls).setFile rfl rfl ?_ placed.narrow
    rcases judged with ⟨inside, -⟩ | ⟨-, long⟩
    · have narrow := placed.narrow
      simp only [File.afterRead]
      rwa [Nat.mod_eq_of_lt (a := size * count) (by omega), Nat.mod_eq_of_lt (by omega)]
    · exact absurd short (Nat.not_le.mpr long)

/-- A write that is counted rightly does so as well. -/
theorem Placed.fwrite (placed : Placed env file state) {bytes : Nat}
    (counted : (state.files file).Counted bytes) {calls : Nat}
    (wrote : after = { state with calls } ∨ after = State.setFile { state with calls } file
      ((state.files file).afterWrite (bytes % 2 ^ 64))) : Placed env file after := by
  rcases wrote with rfl | rfl
  · exact placed.called calls
  have within := placed.within
  have narrow := placed.narrow
  have small : bytes % 2 ^ 64 < 2 ^ 64 := Nat.mod_lt _ (by decide)
  by_cases append : (state.files file).mode &&& FILE_MODE_APPEND > 0
  · rw [File.afterWrite, if_pos append]
    refine (placed.called calls).setFile rfl rfl ?_ (Nat.mod_lt _ (by decide))
    have fits := counted append
    dsimp only
    omega
  · rw [File.afterWrite, if_neg append]
    exact (placed.called calls).setFile rfl rfl (Nat.le_refl _) (Nat.mod_lt _ (by decide))

/-- Every call that fits leaves the position in the file. -/
theorem placed_invariant (begins : env.Begins) :
    ((transfers env file).restrict (Transfer.Fits file)).Invariant
      fun _ state => Placed env file state where
  initially := by
    rintro state ⟨path, mode, code, before, returned⟩
    exact fopen_placed begins returned
  preserved := by
    rintro past state after call placed ⟨fits, stepped⟩
    cases call with
    | fseek offset code =>
      simp only [transfers, Vfsl.fseek] at stepped
      split at stepped
      next inside =>
        cases stepped
        exact placed.setFile rfl rfl inside placed.narrow
      · cases stepped
        exact placed
    | fread size count code =>
      obtain ⟨out, read, returned⟩ := stepped
      exact placed.fread fits (fread_cases placed returned)
    | fwrite size count code =>
      obtain ⟨inBytes, returned⟩ := stepped
      obtain ⟨calls, wrote⟩ := fwrite_cases placed returned
      exact placed.fwrite fits wrote

/-! ## The position in every run -/

/-- As long as every read is judged rightly and every write counted, the position stays in
the file, and a read of a file that is open for reading reports the end of the file, and
leaves the position, exactly if it would go on behind the end. A read that succeeds ends in
the file.

Proof: that the position is in the file is kept by every call. A read in the file is then no
longer than what the position and the size can be compared with. -/
theorem position_in_file_while_reads_judged (begins : env.Begins) (silent : env.Silent)
    {past : List Transfer}
    (reached : ((transfers env file).restrict (Transfer.Fits file)).Reaches past state) :
    (state.files file).position ≤ (state.files file).size ∧
    ((state.files file).mode &&& FILE_MODE_READ ≠ 0 → ∀ out size count code read after,
      (state.files file).Judged (size * count) →
      fread env (some file) out size count state = .ok ((code, read), after) →
      (code = -EOF ↔ (state.files file).size < (state.files file).position + size * count) ∧
      (code = -EOF → after.files file = state.files file) ∧
      (code = SUCCESS → (state.files file).position + size * count ≤ (state.files file).size ∧
        (after.files file).position = (state.files file).position + size * count)) := by
  have placed := (placed_invariant begins).reached reached
  refine ⟨placed.within, fun reading out size count code read after judged returned => ?_⟩
  have narrow := placed.narrow
  cases fread_cases placed returned with
  | wrongMode writing => exact absurd writing reading
  | endOfFile _ long =>
    refine ⟨iff_of_true rfl ?_, fun _ => rfl, fun not => absurd not (by decide)⟩
    rcases judged with ⟨inside, short⟩ | ⟨behind, -⟩
    · rw [Nat.mod_eq_of_lt (a := size * count) (by omega)] at long
      exact absurd short (Nat.not_le.mpr long)
    · exact behind
  | fails _ calls failed short other =>
    refine ⟨iff_of_false (other silent) ?_, fun not => absurd not (other silent),
      fun not => absurd not failed⟩
    exact judged.elim (fun inside => Nat.not_lt.mpr inside.1)
      fun behind => absurd short (Nat.not_le.mpr behind.2)
  | reads calls short =>
    obtain ⟨inside, -⟩ := judged.resolve_right fun behind => absurd short (Nat.not_le.mpr behind.2)
    refine ⟨iff_of_false (by decide) (Nat.not_lt.mpr inside), fun not => absurd not (by decide),
      fun _ => ⟨inside, ?_⟩⟩
    simp only [State.setFile, Function.update_self, File.afterRead]
    rw [Nat.mod_eq_of_lt (a := size * count) (by omega), Nat.mod_eq_of_lt (by omega)]

/-- A volume whose files have ten bytes, all of them zero. -/
def tenBytes : TransferEnvironment where
  strHash := strHash
  kzalloc _ := true
  partitionGetByVolumeLabel label := if label = 67 then
    some (some ⟨fun _ tracer _ => some (0, some
      ⟨tracer.label, pathTracerGetPathString tracer, [], 0, 0, 10⟩)⟩) else none
  operations _ := ⟨fun _ _ _ _ => some (SUCCESS, fun _ => 0), fun _ _ _ _ => some SUCCESS⟩

theorem tenBytes_begins : tenBytes.Begins := by
  intro label fileSystem attached call tracer create code file returned
  simp only [tenBytes] at attached
  split at attached
  · cases attached
    cases returned
    exact ⟨rfl, rfl, (by decide : 10 < 2 ^ 64)⟩
  · cases attached

theorem tenBytes_silent : tenBytes.Silent := by
  rintro fileSystem call out bytes file code read ⟨⟩
  decide

/-- Its file `C:/a`, opened for reading, at a position. -/
def tenBytesAt (position calls : Nat) : State where
  openFiles := Function.update (fun _ => .zero) (.slot (bucket tenBytes.toEnvironment pathA))
    ⟨some 0, none, none⟩
  files := Function.update (fun _ => ⟨0, [], [], 0, 0, 0⟩) 0
    ⟨67, pathA, [], FILE_MODE_READ, position, 10⟩
  nodes := 0
  opened := 1
  calls := calls

theorem tenBytes_opened : (transfers tenBytes 0).start (tenBytesAt 0 3) := by
  refine ⟨pathA, [114], 0, nothingOpen, ?_⟩
  rfl

theorem tenBytes_sought (position offset calls : Nat) (inside : offset ≤ 10) :
    fseek 0 offset (tenBytesAt position calls) = (SUCCESS, tenBytesAt offset calls) := by
  simp [fseek, tenBytesAt, State.setFile, inside]

/-- A read that is not refused. -/
theorem tenBytes_read (position calls size count : Nat) (out : Nat → UInt8)
    (short : size * count % 2 ^ 64 ≤ (10 + position) % 2 ^ 64) :
    fread tenBytes (some 0) out size count (tenBytesAt position calls) =
      .ok ((SUCCESS, fun _ => 0),
        tenBytesAt ((position + size * count % 2 ^ 64) % 2 ^ 64) (calls + 1)) := by
  have opened : checkIfFileIsOpen tenBytes.toEnvironment (tenBytesAt position calls) (some 0) =
      .ok true := by
    simp [checkIfFileIsOpen, checkIfFileIsOpenString, findPath, tenBytesAt]
  have file : (tenBytesAt position calls).files 0 =
      ⟨67, pathA, [], FILE_MODE_READ, position, 10⟩ := by simp [tenBytesAt]
  have reading : ¬ FILE_MODE_READ &&& FILE_MODE_READ = 0 := by decide
  have attached : tenBytes.partitionGetByVolumeLabel 67 = some (some _) := rfl
  simp only [fread, opened, file, attached]
  rw [if_neg reading, if_neg (Nat.not_lt.mpr short)]
  simp [tenBytes, tenBytesAt, State.setFile, File.afterRead, SUCCESS]

/-- The last five bytes are read. -/
theorem last_bytes_read : ∃ state,
    ((transfers tenBytes 0).restrict (Transfer.Fits 0)).Reaches
      [.fseek 5 SUCCESS, .fread 1 5 SUCCESS] state ∧
    (state.files 0).position ≤ (state.files 0).size := by
  have begun : ((transfers tenBytes 0).restrict (Transfer.Fits 0)).Reaches [] (tenBytesAt 0 3) :=
    .start _ tenBytes_opened
  have sought := System.Reaches.step [] _ (tenBytesAt 5 3) (Transfer.fseek 5 SUCCESS) begun
    ⟨trivial, tenBytes_sought 0 5 3 (by decide)⟩
  have reached := System.Reaches.step _ _ (tenBytesAt 10 4) (Transfer.fread 1 5 SUCCESS) sought
    ⟨.inl (by decide), fun _ => 0, fun _ => 0, tenBytes_read 5 3 1 5 _ (by decide)⟩
  exact ⟨_, reached,
    (position_in_file_while_reads_judged tenBytes_begins tenBytes_silent reached).1⟩

/-- From there ten more are, though the file has none, and the position is behind it. -/
theorem read_goes_on_behind_end : tenBytes.Begins ∧ tenBytes.Silent ∧
    ¬ ∀ past state, (transfers tenBytes 0).Reaches past state →
      (state.files 0).position ≤ (state.files 0).size := by
  refine ⟨tenBytes_begins, tenBytes_silent, fun within => ?_⟩
  have begun : (transfers tenBytes 0).Reaches [] (tenBytesAt 0 3) := .start _ tenBytes_opened
  have sought := System.Reaches.step [] _ (tenBytesAt 5 3) (Transfer.fseek 5 SUCCESS) begun
    (tenBytes_sought 0 5 3 (by decide))
  have reached := System.Reaches.step _ _ (tenBytesAt 15 4) (Transfer.fread 1 10 SUCCESS) sought
    ⟨fun _ => 0, fun _ => 0, tenBytes_read 5 3 1 10 _ (by decide)⟩
  exact absurd (within _ _ reached) (by decide)

end BobaOS.Vfsl
