import BobaOS.Disk.DiskList
import BobaOS.Vfsl.OpenFiles

/-!
# File systems and volumes

`vfslInit` looks for the volumes that the file system driver recognises, and `fopen` goes
through the file system of the volume that a path names. The search ends with the first
volume that is recognised, and the volume of a label is looked up in front of the list.

What the driver recognises and attaches is a parameter, as are the hash of paths and the
answers of the heap.
-/

namespace BobaOS.Vfsl

def BOBAOS_MAX_FILESYSTEMS : Nat := 12

/-- A pointer to a partition record. -/
abbrev PartitionRef := Nat × Nat

/-- The functions of a file system that is not attached yet. -/
structure FileSystemDriver where
  resolve : PartitionRef → Bool
  attach : PartitionRef → Option FileSystem

/-- The variables of `disk.c`, and the `fileSystem` of the partition records. -/
structure Volumes where
  disks : Disks.Globals
  fileSystem : PartitionRef → Option FileSystem

/-- What ends `fopen` without a return: what ends a call on the table of open files, an
access outside the list of partitions, or a NULL volume or file system that is followed. -/
inductive OpenFault where
  | table (fault : Fault)
  | outOfBounds
  | nullPointer

/-- What `fopen` returns, the volume whose file system it has called, and the table. -/
structure Opened where
  code : Code
  file : Option FileRef
  asked : Option PartitionRef
  state : State

section Code

def addFileSystem (fileSystem : Option FileSystemDriver) (fileSystemList : List FileSystemDriver) :
    Code × List FileSystemDriver :=
  if BOBAOS_MAX_FILESYSTEMS ≤ fileSystemList.length then (-ENMEM, fileSystemList)
  else
    match fileSystem with
    | none => (-EIARG, fileSystemList)
    | some fileSystem => (0, fileSystemList ++ [fileSystem])

def appendFileSystemToDisk (fileSystem : Option FileSystem) (volume : PartitionRef)
    (volumes : Volumes) : Code × Volumes :=
  match fileSystem with
  | none => (-EIARG, volumes)
  | some fileSystem => (0, { volumes with
      fileSystem := Function.update volumes.fileSystem volume (some fileSystem) })

/-- The loop over the drivers: it returns with the first one that recognises the volume. -/
def resolveVolume (fileSystemList : List FileSystemDriver) (volume : PartitionRef)
    (volumes : Volumes) : Option (Code × Volumes) :=
  match fileSystemList.find? (·.resolve volume) with
  | none => none
  | some fileSystem =>
    let (code, after) := appendFileSystemToDisk (fileSystem.attach volume) volume volumes
    if code < 0 then some (-EIARG, after) else some (SUCCESS, after)

/-- The loop of `resolveStaticFileSystems` over the volumes, at a place of their list. A
place behind the list is outside, so that the fuel is one more than its length. -/
def resolveFrom (fileSystemList : List FileSystemDriver) (volumes : Volumes) :
    Nat → Nat → Except Disks.Fault (Code × Volumes)
  | 0, _ => .error .outOfBounds
  | left + 1, index =>
    (Disks.partitionAt volumes.disks index).bind fun
      | none => .ok (-ENFOUND, volumes)
      | some volume =>
        match resolveVolume fileSystemList volume volumes with
        | some returned => .ok returned
        | none => resolveFrom fileSystemList volumes left (index + 1)

/-- `vfslInit` with the one driver that there is. -/
def vfslInitVolumes (fat32 : FileSystemDriver) (volumes : Volumes) :
    Except Disks.Fault (Code × Volumes) :=
  let (ret, fileSystemList) := addFileSystem (some fat32) []
  if ret < 0 then .ok (ret, volumes)
  else resolveFrom fileSystemList volumes
    (Disks.BOBAOS_MAX_DISKS * Disks.BOBAOS_MAX_PARTITIONS_PER_DISK + 1) 0

/-- The label of a path is looked up if the path begins as one does. -/
def asksVolume (path : CString) : Bool :=
  checkVolumeLabel (path.getD 0 0) && decide (path.length < BOBAOS_MAX_PATH_SIZE) &&
    path.getD 1 0 == COLON && path.getD 2 0 == SLASH

variable (strHash : CString → Nat) (kzalloc : Nat → Bool) (volumes : Volumes)

/-- The table of open files and the file systems of the volumes that are found. -/
def Volumes.environment : Environment where
  strHash := strHash
  kzalloc := kzalloc
  partitionGetByVolumeLabel label :=
    match Disks.partitionGetByVolumeLabel volumes.disks label.toInt8 with
    | .ok (some volume) => some (volumes.fileSystem volume)
    | _ => none

/-- `fopen` once more, with the lookup of the volume. -/
def fopenOn (path mode : CString) (state : State) : Except OpenFault Opened :=
  let env := volumes.environment strHash kzalloc
  match checkIfFileIsOpenString env state path with
  | .error fault => .error (.table fault)
  | .ok true => .ok ⟨-EIUSE, none, none, state⟩
  | .ok false =>
    let m := checkMode 0 mode
    if m = 0 then .ok ⟨-EWMODE, none, none, state⟩
    else
      match if asksVolume path then
          Disks.partitionGetByVolumeLabel volumes.disks (path.getD 0 0).toInt8 else .ok none with
      | .error _ => .error .outOfBounds
      | .ok found =>
        match createPathTracer (fun _ => found.isSome) kzalloc path state.calls with
        | (.error code, calls) => .ok ⟨code, none, none, { state with calls }⟩
        | (.ok pathTracer, calls) =>
          match found, found.bind volumes.fileSystem with
          | some volume, some fileSystem =>
            let create := decide (m &&& FILE_MODE_WRITE > 0 ∧ m &&& FILE_MODE_APPEND = 0)
            match fileSystem.openFile calls pathTracer create with
            | none => .error (.table .fileSystem)
            | some (code, none) => .ok ⟨code, none, some volume, { state with calls := calls + 1 }⟩
            | some (_, some file) =>
              let ref := state.opened
              match addOpenFile env ref { state with
                files := Function.update state.files ref { file with mode := m }
                opened := state.opened + 1
                calls := calls + 1 } with
              | .error fault => .error (.table fault)
              | .ok (code, after) =>
                .ok ⟨code, if 0 ≤ code then some ref else none, some volume, after⟩
          | _, _ => .error .nullPointer

end Code

/-- The volumes matter to a tracer where the label of the path is looked up. -/
theorem createPathTracer_congr {left right : UInt8 → Bool} {kzalloc : Nat → Bool} {path : CString}
    (requests : Nat)
    (same : asksVolume path = true → left (path.getD 0 0) = right (path.getD 0 0)) :
    createPathTracer left kzalloc path requests = createPathTracer right kzalloc path requests := by
  by_cases asks : asksVolume path = true
  · simp only [createPathTracer, same asks]
  · by_cases label : checkVolumeLabel (path.getD 0 0) = false
    · simp only [createPathTracer, if_pos label]
    by_cases long : BOBAOS_MAX_PATH_SIZE ≤ path.length
    · simp only [createPathTracer, if_neg label, if_pos long]
    have format : path.getD 1 0 ≠ COLON ∨ path.getD 2 0 ≠ SLASH := by
      by_contra formed
      rw [not_or, not_not, not_not] at formed
      refine asks ?_
      rw [Bool.not_eq_false] at label
      simp only [asksVolume, label, Nat.not_le.mp long, formed]
      rfl
    simp only [createPathTracer, if_neg label, if_neg long, if_pos format]

/-- As long as the list of partitions is read inside, this is `fopen`. -/
theorem fopenOn_fopen {strHash : CString → Nat} {kzalloc : Nat → Bool} {volumes : Volumes}
    {path mode : CString} {state : State} {opened : Opened}
    (ran : fopenOn strHash kzalloc volumes path mode state = .ok opened) :
    fopen (volumes.environment strHash kzalloc) path mode state =
      .ok (opened.code, opened.file, opened.state) := by
  rcases search : checkIfFileIsOpenString (volumes.environment strHash kzalloc) state path with
    fault | _ | _
  · simp [fopenOn, search] at ran
  · by_cases badMode : checkMode 0 mode = 0
    · obtain rfl : _ = opened := by simpa [fopenOn, search, badMode] using ran
      simp [fopen, search, badMode]
    rcases lookup : (if asksVolume path = true then
        Disks.partitionGetByVolumeLabel volumes.disks (path.getD 0 0).toInt8 else .ok none) with
      fault | found
    · simp only [fopenOn, search, if_neg badMode, lookup] at ran
      cases ran
    have known (asks : asksVolume path = true) :
        (volumes.environment strHash kzalloc).partitionGetByVolumeLabel (path.getD 0 0) =
          found.map volumes.fileSystem := by
      rw [if_pos asks] at lookup
      simp only [Volumes.environment, lookup]
      cases found <;> rfl
    have tracers : createPathTracer (fun label =>
        ((volumes.environment strHash kzalloc).partitionGetByVolumeLabel label).isSome)
          (volumes.environment strHash kzalloc).kzalloc path state.calls =
            createPathTracer (fun _ => found.isSome) kzalloc path state.calls :=
      createPathTracer_congr _ fun asks => by rw [known asks, Option.isSome_map]
    rcases parsed : createPathTracer (fun _ => found.isSome) kzalloc path state.calls with
      ⟨code | pathTracer, calls⟩
    · simp only [fopenOn, search, if_neg badMode, lookup, parsed, Except.ok.injEq] at ran
      rw [← ran]
      simp only [fopen, search, if_neg badMode, tracers, parsed]
    · have label : pathTracer.label = path.getD 0 0 := by
        rw [← createPathTracer_spells parsed]
        rfl
      have present : found.isSome = true := createPathTracer_volume parsed
      obtain ⟨volume, rfl⟩ := Option.isSome_iff_exists.mp present
      have asks : asksVolume path = true := by
        by_contra silent
        rw [if_neg silent] at lookup
        cases lookup
      have known := known asks
      rw [← label, Option.map_some] at known
      rcases attached : volumes.fileSystem volume with _ | fileSystem
      · simp only [fopenOn, search, if_neg badMode, lookup, parsed, Option.bind_some, attached] at ran
        cases ran
      simp only [fopenOn, search, if_neg badMode, lookup, parsed, Option.bind_some, attached] at ran
      simp only [fopen, search, if_neg badMode, tracers, parsed, known, attached]
      generalize fileSystem.openFile calls pathTracer _ = answer at ran ⊢
      rcases answer with _ | ⟨code, _ | file⟩
      · cases ran
      · rw [← Except.ok.inj ran]
      · dsimp only at ran ⊢
        generalize addOpenFile (volumes.environment strHash kzalloc) state.opened _ = added at ran ⊢
        rcases added with fault | ⟨code, after⟩
        · cases ran
        · rw [← Except.ok.inj ran]
  · obtain rfl : _ = opened := by simpa [fopenOn, search] using ran
    simp [fopen, search]

/-! ## What is attached -/

variable {fat32 : FileSystemDriver} {volumes after : Volumes}

/-- A list of registered partitions: it fits, and no place in it is left out. -/
structure Volumes.Registered (volumes : Volumes) : Prop where
  few : volumes.disks.currentPartition ≤
    Disks.BOBAOS_MAX_DISKS * Disks.BOBAOS_MAX_PARTITIONS_PER_DISK
  listed : ∀ index, (volumes.disks.partitionList index).isSome ↔
    index < volumes.disks.currentPartition

/-- Every registered partition that the driver recognises has a file system. -/
def AllAttached (fat32 : FileSystemDriver) (volumes : Volumes) : Prop :=
  ∀ index volume, volumes.disks.partitionList index = some volume → fat32.resolve volume = true →
    volumes.fileSystem volume ≠ none

/-- The search has ended with a volume that is recognised. -/
structure Ended (fat32 : FileSystemDriver) (volumes after : Volumes) (index : Nat)
    (volume : PartitionRef) (fileSystem : FileSystem) : Prop where
  listed : volumes.disks.partitionList index = some volume
  recognised : fat32.resolve volume = true
  attached : after = { volumes with
    fileSystem := Function.update volumes.fileSystem volume (some fileSystem) }

/-- A place of the list is read inside it. -/
theorem partitionAt_listed {globals : Disks.Globals} {index : Nat} {found : Option PartitionRef}
    (read : Disks.partitionAt globals index = .ok found) : globals.partitionList index = found := by
  rw [Disks.partitionAt] at read
  split at read
  · exact Except.ok.inj read
  · cases read

/-- A driver that returns success has recognised the volume and attached itself. -/
theorem resolveVolume_success {volume : PartitionRef}
    (returned : resolveVolume [fat32] volume volumes = some (SUCCESS, after)) :
    fat32.resolve volume = true ∧ ∃ fileSystem, after = { volumes with
      fileSystem := Function.update volumes.fileSystem volume (some fileSystem) } := by
  cases recognised : fat32.resolve volume with
  | false => simp [resolveVolume, recognised] at returned
  | true =>
    cases made : fat32.attach volume with
    | none => simp [resolveVolume, recognised, made, appendFileSystemToDisk, EIARG, SUCCESS] at returned
    | some fileSystem =>
      refine ⟨rfl, fileSystem, ?_⟩
      simpa [resolveVolume, recognised, made, appendFileSystemToDisk, eq_comm] using returned

/-- A search that succeeds has attached a file system to one volume. -/
theorem resolveFrom_success (left : Nat) :
    ∀ index, resolveFrom [fat32] volumes left index = .ok (SUCCESS, after) →
      ∃ found volume fileSystem, Ended fat32 volumes after found volume fileSystem := by
  induction left with
  | zero =>
    intro index ran
    cases ran
  | succ left ih =>
    intro index ran
    rw [resolveFrom] at ran
    rcases read : Disks.partitionAt volumes.disks index with _ | _ | volume
    · simp [read, Except.bind] at ran
    · simp [read, Except.bind, ENFOUND, SUCCESS] at ran
    · cases returned : resolveVolume [fat32] volume volumes with
      | none =>
        simp only [read, Except.bind, returned] at ran
        exact ih (index + 1) ran
      | some result =>
        simp only [read, Except.bind, returned, Except.ok.injEq] at ran
        obtain ⟨recognised, fileSystem, attached⟩ :=
          resolveVolume_success (returned.trans (congrArg some ran))
        exact ⟨index, volume, fileSystem, partitionAt_listed read, recognised, attached⟩

/-- After a search that ended with a volume, all volumes that are recognised have a file
system if and only if it was the only one. -/
theorem Ended.all_attached_iff {index : Nat} {volume : PartitionRef} {fileSystem : FileSystem}
    (ended : Ended fat32 volumes after index volume fileSystem)
    (fresh : ∀ volume, volumes.fileSystem volume = none) :
    AllAttached fat32 after ↔ ∀ other recognised, volumes.disks.partitionList other = some recognised →
      fat32.resolve recognised = true → recognised = volume := by
  obtain ⟨-, -, rfl⟩ := ended
  refine forall_congr' fun other => forall_congr' fun recognised => imp_congr_right fun _ =>
    imp_congr_right fun _ => ?_
  by_cases same : recognised = volume
  · simp [same]
  · simp [fresh, same]

/-! ## What is opened -/

/-- A registered partition has the label: labels are given in the order of the list. -/
def Volumes.Labelled (volumes : Volumes) (label : UInt8) : Prop :=
  BOBAOS_DEFAULT_VOLUME_LABEL ≤ label ∧
    label.toNat - BOBAOS_DEFAULT_VOLUME_LABEL.toNat < volumes.disks.currentPartition

/-- The outcome of opening a path on the volume of a label: a negative code, or a call of
the file system that is attached to that volume. No pointer has gone astray. -/
def OpensOwn (volumes : Volumes) (label : UInt8) : Except OpenFault Opened → Prop
  | .ok opened => opened.asked = none ∧ opened.code < 0 ∨
      ∃ volume, opened.asked = some volume ∧ volumes.fileSystem volume ≠ none ∧
        volumes.disks.partitionList (label.toNat - BOBAOS_DEFAULT_VOLUME_LABEL.toNat) = some volume
  | .error fault => ∃ problem, fault = .table problem

/-- Every path whose label exists is opened so. -/
def AllOpened (volumes : Volumes) : Prop :=
  ∀ (strHash : CString → Nat) (kzalloc : Nat → Bool) (path mode : CString) (state : State),
    volumes.Labelled (path.getD 0 0) →
      OpensOwn volumes (path.getD 0 0) (fopenOn strHash kzalloc volumes path mode state)

/-- The volume that a label is looked up as has a file system, so that a path goes to that
file system or is refused. -/
theorem fopenOn_own {strHash : CString → Nat} {kzalloc : Nat → Bool} {path mode : CString}
    {state : State} {volume : PartitionRef} {fileSystem : FileSystem}
    (looked : Disks.partitionGetByVolumeLabel volumes.disks (path.getD 0 0).toInt8 =
      .ok (some volume))
    (attached : volumes.fileSystem volume = some fileSystem)
    (own : volumes.disks.partitionList
      ((path.getD 0 0).toNat - BOBAOS_DEFAULT_VOLUME_LABEL.toNat) = some volume) :
    OpensOwn volumes (path.getD 0 0) (fopenOn strHash kzalloc volumes path mode state) := by
  rcases search : checkIfFileIsOpenString (volumes.environment strHash kzalloc) state path with
    fault | _ | _
  · simp [fopenOn, search, OpensOwn]
  · by_cases badMode : checkMode 0 mode = 0
    · simp [fopenOn, search, badMode, OpensOwn, EWMODE]
    obtain ⟨found, lookup, known⟩ : ∃ found, (if asksVolume path = true then
        Disks.partitionGetByVolumeLabel volumes.disks (path.getD 0 0).toInt8 else .ok none) =
          .ok found ∧ (found = none ∨ found = some volume) := by
      by_cases asks : asksVolume path = true
      · exact ⟨some volume, (if_pos asks).trans looked, .inr rfl⟩
      · exact ⟨none, if_neg asks, .inl rfl⟩
    rcases parsed : createPathTracer (fun _ => found.isSome) kzalloc path state.calls with
      ⟨code | pathTracer, calls⟩
    · simp only [fopenOn, search, if_neg badMode, lookup, parsed, OpensOwn]
      refine .inl ⟨trivial, ?_⟩
      rcases createPathTracer_error parsed with rfl | rfl | rfl | rfl <;> decide
    · obtain rfl | rfl := known
      · exact absurd (createPathTracer_volume parsed) Bool.false_ne_true
      have present : volumes.fileSystem volume ≠ none := by simp [attached]
      simp only [fopenOn, search, if_neg badMode, lookup, parsed, Option.bind_some, attached]
      rcases fileSystem.openFile calls pathTracer _ with _ | ⟨code, _ | file⟩
      · exact ⟨_, rfl⟩
      · exact .inr ⟨volume, rfl, present, own⟩
      · dsimp only
        rcases addOpenFile (volumes.environment strHash kzalloc) state.opened _ with fault | result
        · exact ⟨fault, rfl⟩
        · exact .inr ⟨volume, rfl, present, own⟩
  · simp [fopenOn, search, OpensOwn, EIUSE]

/-- A label behind the first one is looked up in front of the list. -/
theorem fopenOn_second_label (strHash : CString → Nat) (kzalloc : Nat → Bool) (files : FileRef → File)
    (many : 2 ≤ volumes.disks.currentPartition) :
    fopenOn strHash kzalloc volumes [68, COLON, SLASH, 120] [114] (vfslInit files 0) =
      .error .outOfBounds := by
  have search : checkIfFileIsOpenString (volumes.environment strHash kzalloc) (vfslInit files 0)
      [68, COLON, SLASH, 120] = .ok false := by
    simp [checkIfFileIsOpenString, vfslInit, FileListEntry.zero]
  have inside : ¬ (volumes.disks.currentPartition : Int) ≤ (68 : Int8).toInt - Disks.LABEL_ASCII_OFFSET := by
    rw [show (68 : Int8).toInt - Disks.LABEL_ASCII_OFFSET = 1 from rfl]
    omega
  have lookup : Disks.partitionGetByVolumeLabel volumes.disks 68 = .error .outOfBounds := by
    rw [Disks.partitionGetByVolumeLabel, if_neg inside]
    rfl
  have asks : asksVolume [68, COLON, SLASH, 120] = true := by decide
  have mode : checkMode 0 [114] ≠ 0 := by decide
  simp only [fopenOn, search, if_neg mode, if_pos asks]
  rw [show ([68, COLON, SLASH, 120].getD 0 0 : UInt8).toInt8 = 68 from rfl, lookup]

/-- The only volume of a list is found under its label. -/
theorem only_label_found (single : volumes.disks.currentPartition = 1) {volume : PartitionRef}
    (listed : volumes.disks.partitionList 0 = some volume) {label : UInt8}
    (labelled : volumes.Labelled label) :
    label = BOBAOS_DEFAULT_VOLUME_LABEL ∧
      Disks.partitionGetByVolumeLabel volumes.disks label.toInt8 = .ok (some volume) := by
  obtain ⟨least, few⟩ := labelled
  have least : BOBAOS_DEFAULT_VOLUME_LABEL.toNat ≤ label.toNat := UInt8.le_iff_toNat_le.mp least
  have first : label = BOBAOS_DEFAULT_VOLUME_LABEL := UInt8.toNat_inj.mp (by omega)
  subst first
  refine ⟨rfl, ?_⟩
  have inside : ¬ (volumes.disks.currentPartition : Int) ≤
      BOBAOS_DEFAULT_VOLUME_LABEL.toInt8.toInt - Disks.LABEL_ASCII_OFFSET := by
    rw [single]
    decide
  rw [Disks.partitionGetByVolumeLabel, if_neg inside, ← listed]
  rfl

/-- After a successful search every recognised volume has a file system and every path is
opened on its own volume if and only if there is one volume only. -/
theorem attached_and_opened_iff (registered : volumes.Registered)
    (ran : vfslInitVolumes fat32 volumes = .ok (SUCCESS, after)) :
    AllAttached fat32 after ∧ AllOpened after ↔ volumes.disks.currentPartition = 1 := by
  obtain ⟨index, volume, fileSystem, listed, -, attached⟩ := resolveFrom_success _ _ ran
  have same : after.disks = volumes.disks := by simp [attached]
  have own : after.fileSystem volume = some fileSystem := by simp [attached]
  have early : index < volumes.disks.currentPartition :=
    (registered.listed index).mp (by simp [listed])
  constructor
  · rintro ⟨-, opened⟩
    by_contra several
    have many : 2 ≤ after.disks.currentPartition := by
      rw [same]
      omega
    have second := opened (fun _ => 0) (fun _ => true) [68, COLON, SLASH, 120] [114]
      (vfslInit (fun _ => ⟨0, [], [], 0, 0, 0⟩) 0) ⟨by decide, many⟩
    rw [fopenOn_second_label _ _ _ many] at second
    obtain ⟨_, impossible⟩ := second
    cases impossible
  · intro single
    obtain rfl : index = 0 := by omega
    constructor
    · intro other recognised place _
      rw [same] at place
      have here : other < volumes.disks.currentPartition :=
        (registered.listed other).mp (by simp [place])
      obtain rfl : other = 0 := by omega
      obtain rfl : volume = recognised := Option.some.inj (listed.symm.trans place)
      simp [own]
    · intro strHash kzalloc path mode state labelled
      rw [← same] at single listed
      obtain ⟨label, looked⟩ := only_label_found single listed labelled
      refine fopenOn_own looked own ?_
      rw [label]
      exact listed

/-- A driver that recognises every volume, and a list of some volumes. -/
def everyVolume : FileSystemDriver where
  resolve _ := true
  attach _ := some ⟨fun _ _ _ => none⟩

def listedVolumes (count : Nat) : Volumes where
  disks := { Disks.boot 0 with
    partitionList := fun index => if index < count then some (0, index) else none
    currentPartition := count }
  fileSystem _ := none

theorem listedVolumes_registered {count : Nat}
    (few : count ≤ Disks.BOBAOS_MAX_DISKS * Disks.BOBAOS_MAX_PARTITIONS_PER_DISK) :
    (listedVolumes count).Registered :=
  ⟨few, fun index => by simp [listedVolumes]⟩

/-- The first volume is recognised at once. -/
theorem listedVolumes_found {count : Nat} (listed : 0 < count) :
    vfslInitVolumes everyVolume (listedVolumes count) = .ok (SUCCESS,
      { listedVolumes count with
        fileSystem := Function.update (fun _ => none) (0, 0) (some ⟨fun _ _ _ => none⟩) }) := by
  have first : Disks.partitionAt (listedVolumes count).disks (0 : Nat) = .ok (some (0, 0)) := by
    simp [Disks.partitionAt, listedVolumes, listed, Disks.BOBAOS_MAX_DISKS,
      Disks.BOBAOS_MAX_PARTITIONS_PER_DISK]
  change resolveFrom [everyVolume] _
    (Disks.BOBAOS_MAX_DISKS * Disks.BOBAOS_MAX_PARTITIONS_PER_DISK + 1) 0 = _
  rw [resolveFrom, first]
  rfl

theorem one_volume_attached_and_opened : ∃ after,
    vfslInitVolumes everyVolume (listedVolumes 1) = .ok (SUCCESS, after) ∧
      AllAttached everyVolume after ∧ AllOpened after :=
  ⟨_, listedVolumes_found Nat.one_pos,
    (attached_and_opened_iff (listedVolumes_registered (by decide))
      (listedVolumes_found Nat.one_pos)).mpr rfl⟩

/-- The second of two recognised volumes has no file system, and its paths are looked up
outside the list. -/
theorem second_volume_not_attached : ∃ after, (listedVolumes 2).Registered ∧
    vfslInitVolumes everyVolume (listedVolumes 2) = .ok (SUCCESS, after) ∧
      ¬ AllAttached everyVolume after ∧ ¬ AllOpened after := by
  refine ⟨_, listedVolumes_registered (by decide), listedVolumes_found Nat.two_pos, ?_, ?_⟩
  · intro attached
    exact attached 1 (0, 1) rfl rfl rfl
  · intro opened
    have second := opened (fun _ => 0) (fun _ => true) [68, COLON, SLASH, 120] [114]
      (vfslInit (fun _ => ⟨0, [], [], 0, 0, 0⟩) 0) ⟨by decide, Nat.le_refl 2⟩
    rw [fopenOn_second_label _ _ _ (Nat.le_refl 2)] at second
    obtain ⟨_, impossible⟩ := second
    cases impossible

end BobaOS.Vfsl
