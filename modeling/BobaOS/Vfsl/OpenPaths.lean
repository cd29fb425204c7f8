import BobaOS.Vfsl.OpenFiles

/-!
# The open-file table as a map of paths

What the table is for is a map from the paths that are open to their files.
Every run in which no call meets a bucket of another path shows such a map: every
bucket then has at most its static entry. A call that meets one dereferences a
NULL entry, because the search for the path does not stop at the end of the
bucket.
-/

namespace BobaOS.Vfsl

open Runs

/-! ## The map of open paths -/

/-- The file under which a path is open. -/
abbrev OpenPaths := CString → Option FileRef

/-- The calls with what they return. Closing names the path of the file. -/
inductive Call where
  | fopen (path mode : CString) (code : Code) (file : Option FileRef)
  | fclose (file : Option FileRef) (path : CString) (code : Code)

/-- An open path is refused; any other is not refused as one, and a file that is
returned is new and open from then on. -/
def OpenPaths.Opened (open' : OpenPaths) (path : CString) (code : Code) (file : Option FileRef)
    (next : OpenPaths) : Prop :=
  if (open' path).isSome then code = -EIUSE ∧ file = none ∧ next = open'
  else code ≠ -EIUSE ∧
    match file with
    | none => next = open'
    | some ref => 0 ≤ code ∧ (∀ other, open' other ≠ some ref) ∧
        next = Function.update open' path (some ref)

/-- Closing removes the path if it is open, and nothing else. -/
def OpenPaths.Closed (open' : OpenPaths) (file : Option FileRef) (path : CString) (code : Code)
    (next : OpenPaths) : Prop :=
  if file.isSome ∧ (open' path).isSome then
    code = SUCCESS ∧ next = Function.update open' path none
  else code = -ENFOUND ∧ next = open'

/-- The abstract system. -/
def openPaths : System OpenPaths Call where
  start open' := open' = fun _ => none
  step open' call next := match call with
    | .fopen path _ code file => open'.Opened path code file next
    | .fclose file path code => open'.Closed file path code next

/-! ## Sessions with the table -/

/-- Calls of `fopen` with any strings and of `fclose` with NULL or any file that
`fopen` has made. -/
def sessions (env : Environment) : System State Call where
  start state := ∃ files calls, state = vfslInit files calls
  step state call after := match call with
    | .fopen path mode code file => fopen env path mode state = .ok (code, file, after)
    | .fclose file path code =>
        (∀ ref, file = some ref → ref < state.opened ∧ path = (state.files ref).path) ∧
        fclose env file state = .ok (code, after)

/-- The bucket of the path holds no file of another path. -/
def Clear (env : Environment) (state : State) (path : CString) : Prop :=
  ∀ file, (state.openFiles (.slot (bucket env path))).file = some file →
    (state.files file).path = path

/-- The path of a call meets no other path in its bucket. -/
def Call.Clear (env : Environment) (state : State) : Call → Prop
  | .fopen path _ _ _ => Vfsl.Clear env state path
  | .fclose file path _ => file.isSome → Vfsl.Clear env state path

/-- The static entries stand alone, and each file is in the bucket of its path. -/
structure Sound (env : Environment) (state : State) : Prop where
  alone : ∀ id, (state.openFiles (.slot id)).next = none ∧ (state.openFiles (.slot id)).prev = none
  made : ∀ id file, (state.openFiles (.slot id)).file = some file → file < state.opened
  placed : ∀ id file, (state.openFiles (.slot id)).file = some file →
    bucket env (state.files file).path = id

/-- The table shows the map. -/
def Shows (env : Environment) (state : State) (open' : OpenPaths) : Prop :=
  ∀ path file, open' path = some file ↔
    (state.openFiles (.slot (bucket env path))).file = some file ∧ (state.files file).path = path

variable {env : Environment}

/-- A clear bucket holds a file exactly when the path is open. -/
theorem Shows.isSome_iff {state : State} {open' : OpenPaths} (shows : Shows env state open')
    {path : CString} (clear : Clear env state path) :
    (open' path).isSome ↔ (state.openFiles (.slot (bucket env path))).file ≠ none := by
  constructor
  · intro opened
    obtain ⟨file, here⟩ := Option.isSome_iff_exists.mp opened
    rw [((shows path file).mp here).1]
    exact Option.some_ne_none file
  · intro taken
    obtain ⟨file, here⟩ := Option.ne_none_iff_exists'.mp taken
    rw [(shows path file).mpr ⟨here, clear file here⟩]
    rfl

/-- In a clear bucket the search tells whether the path is open. -/
theorem Shows.checkIfFileIsOpenString {state : State} {open' : OpenPaths}
    (shows : Shows env state open') {path : CString} (clear : Clear env state path) :
    checkIfFileIsOpenString env state path = .ok (open' path).isSome := by
  rw [Vfsl.checkIfFileIsOpenString]
  by_cases taken : (state.openFiles (.slot (bucket env path))).file = none
  · have closed : (open' path).isSome = false := by
      rw [Bool.eq_false_iff]
      exact fun opened => (shows.isSome_iff clear).mp opened taken
    simp only [taken, ne_eq, not_true_eq_false, ↓reduceIte, closed]
  · have opened : (open' path).isSome = true := (shows.isSome_iff clear).mpr taken
    obtain ⟨file, here⟩ := Option.ne_none_iff_exists'.mp taken
    have same : path = (state.files file).path := (clear file here).symm
    rw [if_pos taken, findPath]
    simp only [here, if_pos same, opened]

/-- In any other bucket it dereferences the NULL entry behind the static one. -/
theorem Sound.search_faults {state : State} (sound : Sound env state) {path : CString}
    (occupied : ¬ Clear env state path) :
    Vfsl.checkIfFileIsOpenString env state path = .error .nullEntry := by
  obtain ⟨file, here, different⟩ : ∃ file,
      (state.openFiles (.slot (bucket env path))).file = some file ∧
        (state.files file).path ≠ path := by
    simpa only [Clear, not_forall, exists_prop] using occupied
  have taken : (state.openFiles (.slot (bucket env path))).file ≠ none := by
    rw [here]
    exact Option.some_ne_none file
  rw [Vfsl.checkIfFileIsOpenString]
  rw [if_pos taken, findPath]
  simp only [here, if_neg different.symm, (sound.alone _).1, findPath]

/-- An entry put into a bucket by itself, holding a file of that bucket or none,
keeps the table sound. -/
theorem Sound.put {state : State} (sound : Sound env state) (id : Nat) (file : Option FileRef)
    (held : ∀ ref, file = some ref →
      ref < state.opened ∧ bucket env (state.files ref).path = id) :
    Sound env { state with
      openFiles := Function.update state.openFiles (.slot id) ⟨file, none, none⟩ } where
  alone other := by
    simp only [Function.update_apply]
    split
    · exact ⟨rfl, rfl⟩
    · exact sound.alone other
  made other ref here := by
    simp only [Function.update_apply] at here
    split at here
    · exact (held ref here).1
    · exact sound.made other ref here
  placed other ref here := by
    simp only [Function.update_apply] at here
    split at here
    · rename_i same
      rw [EntryRef.slot.injEq] at same
      exact (held ref here).2.trans same.symm
    · exact sound.placed other ref here

/-- In a clear bucket, the entry put there is what the map says of its path. -/
theorem Shows.put {state : State} {open' : OpenPaths} (shows : Shows env state open')
    {path : CString} (clear : Clear env state path) (file : Option FileRef)
    (held : ∀ ref, file = some ref → (state.files ref).path = path) :
    Shows env { state with
      openFiles := Function.update state.openFiles (.slot (bucket env path)) ⟨file, none, none⟩ }
      (Function.update open' path file) := by
  intro tested ref
  simp only [Function.update_apply, EntryRef.slot.injEq]
  by_cases same : tested = path
  · subst same
    rw [if_pos rfl, if_pos rfl]
    exact ⟨fun here => ⟨here, held ref here⟩, fun here => here.1⟩
  · rw [if_neg same, shows tested ref]
    by_cases together : bucket env tested = bucket env path
    · -- The bucket held no file of another path, and the new one is not of this path.
      rw [if_pos together]
      constructor
      · rintro ⟨here, rfl⟩
        exact absurd (clear ref (together ▸ here)) same
      · rintro ⟨here, rfl⟩
        exact absurd (held ref here) same
    · rw [if_neg together]

/-- A file that has just been made changes neither the table nor what it shows. -/
theorem Sound.made_file {state : State} (sound : Sound env state) (file : File) (calls : Nat) :
    Sound env { state with
      files := Function.update state.files state.opened file
      opened := state.opened + 1
      calls } where
  alone := sound.alone
  made id ref here := Nat.lt_succ_of_lt (sound.made id ref here)
  placed id ref here := by
    have older : ref ≠ state.opened := Nat.ne_of_lt (sound.made id ref here)
    simp only [Function.update_apply, if_neg older]
    exact sound.placed id ref here

theorem Shows.made_file {state : State} {open' : OpenPaths} (shows : Shows env state open')
    (sound : Sound env state) (file : File) (calls : Nat) :
    Shows env { state with
      files := Function.update state.files state.opened file
      opened := state.opened + 1
      calls } open' := by
  intro path ref
  rw [shows path ref]
  constructor
  · rintro ⟨here, same⟩
    have older : ref ≠ state.opened := Nat.ne_of_lt (sound.made _ ref here)
    simp only [Function.update_apply, if_neg older]
    exact ⟨here, same⟩
  · rintro ⟨here, same⟩
    have older : ref ≠ state.opened := Nat.ne_of_lt (sound.made _ ref here)
    simp only [Function.update_apply, if_neg older] at same
    exact ⟨here, same⟩

/-- Closing an open path in a clear bucket empties the static entry. -/
theorem Sound.closeFile {state : State} {open' : OpenPaths} (sound : Sound env state)
    (shows : Shows env state open') {file : FileRef}
    (clear : Clear env state (state.files file).path)
    (opened : (open' (state.files file).path).isSome) :
    closeFile env file state = .ok (SUCCESS, { state with
      openFiles := Function.update state.openFiles
        (.slot (bucket env (state.files file).path)) .zero }) := by
  obtain ⟨held, here⟩ := Option.ne_none_iff_exists'.mp ((shows.isSome_iff clear).mp opened)
  obtain ⟨next, prev⟩ := sound.alone (bucket env (state.files file).path)
  have same : (state.files held).path = (state.files file).path := clear held here
  simp only [Vfsl.closeFile, removePath, here, same, ↓reduceIte, next, prev, and_self,
    FileListEntry.zero]

/-- `fclose` in a clear bucket takes the abstract step. -/
theorem Sound.fclose {state after : State} {open' : OpenPaths} {file : Option FileRef}
    {path : CString} {code : Code} (sound : Sound env state) (shows : Shows env state open')
    (known : ∀ ref, file = some ref → ref < state.opened ∧ path = (state.files ref).path)
    (clear : file.isSome → Clear env state path)
    (called : fclose env file state = .ok (code, after)) :
    Sound env after ∧ ∃ next, open'.Closed file path code next ∧ Shows env after next := by
  cases file with
  | none =>
    simp only [Vfsl.fclose, checkIfFileIsOpen, Except.ok.injEq, Prod.mk.injEq] at called
    obtain ⟨rfl, rfl⟩ := called
    refine ⟨sound, open', ?_, shows⟩
    rw [OpenPaths.Closed, if_neg (by simp)]
    exact ⟨rfl, rfl⟩
  | some file =>
    obtain ⟨_, rfl⟩ := known file rfl
    have clear := clear rfl
    simp only [Vfsl.fclose, checkIfFileIsOpen, shows.checkIfFileIsOpenString clear] at called
    by_cases opened : (open' (state.files file).path).isSome = true
    · simp only [opened, sound.closeFile shows clear opened, Except.ok.injEq,
        Prod.mk.injEq] at called
      obtain ⟨rfl, rfl⟩ := called
      have noFile : ∀ ref : FileRef, none = some ref → False := fun _ impossible => nomatch impossible
      refine ⟨sound.put _ none fun ref impossible => (noFile ref impossible).elim, _, ?_,
        shows.put clear none fun ref impossible => (noFile ref impossible).elim⟩
      rw [OpenPaths.Closed, if_pos ⟨rfl, opened⟩]
      exact ⟨rfl, rfl⟩
    · rw [Bool.not_eq_true] at opened
      simp only [opened, Except.ok.injEq, Prod.mk.injEq] at called
      obtain ⟨rfl, rfl⟩ := called
      refine ⟨sound, open', ?_, shows⟩
      rw [OpenPaths.Closed, if_neg (by simp [opened])]
      exact ⟨rfl, rfl⟩

/-- In a clear bucket, a file of a path that is not open goes into the static entry. -/
theorem addOpenFile_vacant {state : State} {file : FileRef}
    (vacant : (state.openFiles (.slot (bucket env (state.files file).path))).file = none) :
    addOpenFile env file state = .ok (0, { state with
      openFiles := Function.update state.openFiles
        (.slot (bucket env (state.files file).path)) ⟨some file, none, none⟩ }) := by
  rw [Vfsl.addOpenFile, if_pos vacant]

/-- The state after `fopen` has made a file and put it into its bucket. -/
def State.withFile (env : Environment) (state : State) (file : File) (calls : Nat) : State where
  openFiles := Function.update state.openFiles (.slot (bucket env file.path))
    ⟨some state.opened, none, none⟩
  files := Function.update state.files state.opened file
  nodes := state.nodes
  opened := state.opened + 1
  calls := calls

/-- Everything `fopen` can do in a clear bucket: the file system does not return;
NULL is returned, with the code for an open path exactly if the path is open; or
a file of the path is made and added. -/
theorem Shows.fopen_cases (opens : env.Opens) {state : State} {open' : OpenPaths}
    (shows : Shows env state open') {path : CString} (clear : Clear env state path)
    (mode : CString) :
    fopen env path mode state = .error .fileSystem ∨
    (∃ code calls, fopen env path mode state = .ok (code, none, { state with calls }) ∧
      ((open' path).isSome ↔ code = -EIUSE)) ∨
    ∃ file calls, ¬ (open' path).isSome ∧ file.path = path ∧
      fopen env path mode state = .ok (0, some state.opened, state.withFile env file calls) := by
  have search := shows.checkIfFileIsOpenString clear
  by_cases opened : (open' path).isSome = true
  · refine .inr (.inl ⟨-EIUSE, state.calls, ?_, fun _ => rfl, fun _ => opened⟩)
    simp only [fopen, search, opened]
  have notOpen : (open' path).isSome = false := Bool.eq_false_iff.mpr opened
  have other {code : Code} (reason : code ≠ -EIUSE) : (open' path).isSome = true ↔ code = -EIUSE :=
    ⟨fun impossible => absurd impossible opened, fun same => absurd same reason⟩
  by_cases badMode : checkMode 0 mode = 0
  · refine .inr (.inl ⟨-EWMODE, state.calls, ?_, other (by decide)⟩)
    simp only [fopen, search, notOpen, if_pos badMode]
  rcases parsed : createPathTracer (fun label => (env.partitionGetByVolumeLabel label).isSome)
    env.kzalloc path state.calls with ⟨result, calls⟩
  cases result with
  | error code =>
    -- The path is no path.
    refine .inr (.inl ⟨code, calls, ?_, other ?_⟩)
    · simp only [fopen, search, notOpen, if_neg badMode, parsed]
    · rcases createPathTracer_error parsed with rfl | rfl | rfl | rfl <;> decide
  | ok tracer =>
    rcases attached : env.partitionGetByVolumeLabel tracer.label with _ | _ | fileSystem
    · exact .inl (by simp only [fopen, search, notOpen, if_neg badMode, parsed, attached])
    · exact .inl (by simp only [fopen, search, notOpen, if_neg badMode, parsed, attached])
    have law := opens _ _ attached calls tracer
    rcases returned : fileSystem.openFile calls tracer (decide (checkMode 0 mode &&& FILE_MODE_WRITE > 0 ∧
      checkMode 0 mode &&& FILE_MODE_APPEND = 0)) with _ | ⟨code, _ | made⟩
    · exact .inl (by simp only [fopen, search, notOpen, if_neg badMode, parsed, attached, returned])
    · refine .inr (.inl ⟨code, calls + 1, ?_, other (law _ _ _ returned).1⟩)
      simp only [fopen, search, notOpen, if_neg badMode, parsed, attached, returned]
    · have spelled : made.path = path := by
        rw [(law _ _ _ returned).2 made rfl]
        exact createPathTracer_spells parsed
      have vacant : (state.openFiles (.slot (bucket env path))).file = none :=
        not_not.mp fun taken => opened ((shows.isSome_iff clear).mpr taken)
      refine .inr (.inr ⟨{ made with mode := checkMode 0 mode }, calls + 1, opened, spelled, ?_⟩)
      simp only [fopen, search, notOpen, if_neg badMode, parsed, attached, returned]
      rw [addOpenFile_vacant (by simp only [Function.update_self, spelled]; exact vacant)]
      simp only [Int.le_refl, ↓reduceIte, State.withFile, Function.update_self]

/-- A file that has been made and added leaves the table sound, and it shows the
map with the path open. -/
theorem Sound.withFile {state : State} {open' : OpenPaths} {file : File} (sound : Sound env state)
    (shows : Shows env state open') (clear : Clear env state file.path)
    (notOpen : ¬ (open' file.path).isSome) (calls : Nat) :
    Sound env (state.withFile env file calls) ∧
      Shows env (state.withFile env file calls)
        (Function.update open' file.path (some state.opened)) := by
  have vacant : (state.openFiles (.slot (bucket env file.path))).file = none :=
    not_not.mp fun taken => notOpen ((shows.isSome_iff clear).mpr taken)
  have path (ref : FileRef) (new : some state.opened = some ref) :
      (Function.update state.files state.opened file ref).path = file.path := by
    rw [← Option.some.inj new, Function.update_self]
  constructor
  · refine (sound.made_file file calls).put _ (some state.opened) fun ref new => ⟨?_, ?_⟩
    · rw [← Option.some.inj new]
      exact Nat.lt_succ_self _
    · rw [path ref new]
  · refine (shows.made_file sound file calls).put ?_ (some state.opened) path
    intro ref here
    rw [show (state.openFiles _).file = none from vacant] at here
    cases here

/-- `fopen` in a clear bucket takes the abstract step. -/
theorem Sound.fopen (opens : env.Opens) {state after : State} {open' : OpenPaths}
    {path mode : CString} {code : Code} {file : Option FileRef} (sound : Sound env state)
    (shows : Shows env state open') (clear : Clear env state path)
    (called : fopen env path mode state = .ok (code, file, after)) :
    Sound env after ∧ ∃ next, open'.Opened path code file next ∧ Shows env after next := by
  rcases shows.fopen_cases opens clear mode with
    faulted | ⟨result, calls, returned, reason⟩ | ⟨made, calls, notOpen, rfl, returned⟩
  · rw [faulted] at called
    cases called
  · rw [returned] at called
    cases called
    refine ⟨⟨sound.alone, sound.made, sound.placed⟩, open', ?_, shows⟩
    rw [OpenPaths.Opened]
    split
    · exact ⟨reason.mp ‹_›, rfl, rfl⟩
    · exact ⟨fun same => absurd (reason.mpr same) ‹_›, rfl⟩
  · rw [returned] at called
    cases called
    obtain ⟨still, together⟩ := sound.withFile shows clear notOpen calls
    refine ⟨still, _, ?_, together⟩
    rw [OpenPaths.Opened, if_neg notOpen]
    refine ⟨by decide, by decide, fun other held => ?_, rfl⟩
    exact absurd (sound.made _ _ ((shows other _).mp held).1) (Nat.lt_irrefl _)

/-- Sessions whose calls meet no other path in their bucket refine the map. -/
theorem sessions_simulated (opens : env.Opens) :
    System.Simulation ((sessions env).restrict fun state call => call.Clear env state) openPaths
      (fun state open' => Sound env state ∧ Shows env state open') where
  initially := by
    rintro state ⟨files, calls, rfl⟩
    refine ⟨fun _ => none, rfl, ⟨fun _ => ⟨rfl, rfl⟩, ?_, ?_⟩, ?_⟩
    · intro id file impossible
      cases impossible
    · intro id file impossible
      cases impossible
    · intro path file
      constructor
      · intro impossible
        cases impossible
      · rintro ⟨impossible, _⟩
        cases impossible
  matched := by
    rintro state after call open' ⟨sound, shows⟩ ⟨clear, stepped⟩
    cases call with
    | fopen path mode code file =>
      obtain ⟨still, next, taken, together⟩ := sound.fopen opens shows clear stepped
      exact ⟨next, taken, still, together⟩
    | fclose file path code =>
      obtain ⟨still, next, taken, together⟩ := sound.fclose shows stepped.1 clear stepped.2
      exact ⟨next, taken, still, together⟩

/-- In a clear bucket `fclose` returns. -/
theorem Sound.fclose_returns {state : State} {open' : OpenPaths} {file : FileRef}
    (sound : Sound env state) (shows : Shows env state open')
    (clear : Clear env state (state.files file).path) :
    ∃ code after, Vfsl.fclose env (some file) state = .ok (code, after) := by
  simp only [Vfsl.fclose, checkIfFileIsOpen, shows.checkIfFileIsOpenString clear]
  by_cases opened : (open' (state.files file).path).isSome = true
  · simp only [opened, sound.closeFile shows clear opened]
    exact ⟨_, _, rfl⟩
  · rw [Bool.not_eq_true] at opened
    simp only [opened]
    exact ⟨_, _, rfl⟩

/-- As long as no call meets another path in its bucket, the table is a map of
the open paths. Then for a path that meets none: it is reported open exactly if
it is open; `fopen` and `fclose` of it dereference nothing that is NULL, since
only the file system can keep `fopen` from returning and `fclose` does return;
an open path is refused as one and no other is; and closing removes that path
and no other. For a path that meets another one, `fopen` dereferences a NULL
entry, and so does `fclose` of a file with that path. -/
theorem open_paths_while_buckets_clear (opens : env.Opens) {past : List Call} {state : State}
    (reached : ((sessions env).restrict fun state call => call.Clear env state).Reaches
      past state) :
    ∃ open', openPaths.Reaches past open' ∧ ∀ path,
      (Clear env state path →
        checkIfFileIsOpenString env state path = .ok (open' path).isSome ∧
        (∀ mode fault, fopen env path mode state = .error fault → fault = .fileSystem) ∧
        (∀ mode code file after, fopen env path mode state = .ok (code, file, after) →
          ∃ next, open'.Opened path code file next ∧ Shows env after next) ∧
        ∀ file < state.opened, (state.files file).path = path →
          ∃ code after next, fclose env (some file) state = .ok (code, after) ∧
            open'.Closed (some file) path code next ∧ Shows env after next) ∧
      (¬ Clear env state path →
        (∀ mode, fopen env path mode state = .error .nullEntry) ∧
        ∀ file, (state.files file).path = path →
          fclose env (some file) state = .error .nullEntry) := by
  obtain ⟨open', abstractRun, sound, shows⟩ := (sessions_simulated opens).reached reached
  refine ⟨open', abstractRun, fun path => ⟨fun clear => ⟨?_, ?_, ?_, ?_⟩, fun occupied => ⟨?_, ?_⟩⟩⟩
  · exact shows.checkIfFileIsOpenString clear
  · intro mode fault faulted
    rcases shows.fopen_cases opens clear mode with
      stuck | ⟨_, _, returned, _⟩ | ⟨_, _, _, _, returned⟩
    · rw [stuck] at faulted
      exact (Except.error.inj faulted).symm
    · rw [returned] at faulted
      cases faulted
    · rw [returned] at faulted
      cases faulted
  · intro mode code file after called
    exact (sound.fopen opens shows clear called).2
  · rintro file younger rfl
    obtain ⟨code, after, returned⟩ := sound.fclose_returns shows clear
    have known : ∀ ref, some file = some ref →
        ref < state.opened ∧ (state.files file).path = (state.files ref).path := by
      rintro ref ⟨⟩
      exact ⟨younger, rfl⟩
    obtain ⟨_, next, closed, together⟩ := sound.fclose shows known (fun _ => clear) returned
    exact ⟨code, after, next, returned, closed, together⟩
  · intro mode
    rw [fopen, sound.search_faults occupied]
  · rintro file rfl
    simp only [fclose, checkIfFileIsOpen, sound.search_faults occupied]

/-- One volume, whose file system opens any path, and a heap that has room. -/
def oneVolume : Environment where
  strHash := strHash
  kzalloc _ := true
  partitionGetByVolumeLabel label := if label = 67 then
    some (some ⟨fun _ tracer _ => some (0, some
      ⟨tracer.label, pathTracerGetPathString tracer, [], 0, 0, 0⟩)⟩) else none

theorem oneVolume_opens : oneVolume.Opens := by
  intro label fileSystem attached call tracer create code file returned
  simp only [oneVolume] at attached
  split at attached
  · cases attached
    cases returned
    refine ⟨by decide, ?_⟩
    rintro opened ⟨⟩
    rfl
  · cases attached

/-- The paths `C:/a` and `C:/kv`, which fall into one bucket. -/
def pathA : CString := [67, 58, 47, 97]
def pathKv : CString := [67, 58, 47, 107, 118]

/-- A table with nothing open, before any file has been made. -/
def nothingOpen : State := vfslInit (fun _ => ⟨0, [], [], 0, 0, 0⟩) 0

/-- A path that was opened is looked for. -/
theorem one_path_open :
    ∃ state open', openPaths.Reaches [.fopen pathA [114] 0 (some 0)] open' ∧
      checkIfFileIsOpenString oneVolume state pathA = .ok (open' pathA).isSome := by
  have begun : ((sessions oneVolume).restrict
      fun state call => call.Clear oneVolume state).Reaches [] nothingOpen :=
    .start _ ⟨_, _, rfl⟩
  have clear : (Call.fopen pathA [114] 0 (some 0)).Clear oneVolume nothingOpen := by
    intro file impossible
    cases impossible
  have reached := System.Reaches.step [] _ _ (Call.fopen pathA [114] 0 (some 0)) begun ⟨clear, rfl⟩
  obtain ⟨open', abstractRun, laws⟩ := open_paths_while_buckets_clear oneVolume_opens reached
  refine ⟨_, open', abstractRun, ((laws pathA).1 ?_).1⟩
  rintro file ⟨⟩
  rfl

/-- With one path open, opening another one of the same bucket dereferences the
NULL entry behind the first. -/
theorem colliding_fopen_faults :
    oneVolume.Opens ∧ ∃ state,
      (sessions oneVolume).Reaches [.fopen pathA [114] 0 (some 0)] state ∧
      fopen oneVolume pathKv [114] state = .error .nullEntry := by
  have begun : (sessions oneVolume).Reaches [] nothingOpen := .start _ ⟨_, _, rfl⟩
  exact ⟨oneVolume_opens, _, .step [] _ _ _ begun rfl, rfl⟩

end BobaOS.Vfsl
