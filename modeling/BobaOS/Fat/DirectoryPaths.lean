import BobaOS.Fat.Directories
import BobaOS.Fat.WellFormed

/-!
# The directory a path names

A path names a directory by its components: each is looked up in the directory found for
the one before it, the first one in the root directory. `findDirectory` looks up all
components but the last one, if there are at least two, and begins at the cluster that
the address of the root directory converts to.
-/

namespace BobaOS.Fat

open ByteStore Programs Vfsl

section Walks

variable (env : Environment) (fat : FatPrivate) (stack : Stack)

/-- Components are looked up one in the other, from the directory of a cluster on. The
entry found last has to be a directory, and, if each is checked, those on the way too.
An entry is freed before the next component is looked up. -/
def walk (checked : Bool) : List CString → Nat → M (Code × Option DirectoryEntry)
  | [], cluster => do
    match ← kzalloc env 32 with
    | none => return (-ENMEM, none)
    | some _ => return (SUCCESS, some (directoryAt cluster))
  | name :: names, cluster => do
    match ← findDirEntry env fat stack cluster name DIR_ENTRY_ATTRIBUTE_DIRECTORY with
    | (errCode, none) => return (errCode, none)
    | (errCode, some found) =>
      if (checked ∨ names = []) ∧ (found.entry 0).attributes ≠ DIR_ENTRY_ATTRIBUTE_DIRECTORY then
        return (-ENFOUND, none)
      else if names = [] then return (errCode, some (found.entry 0))
      else
        kzfree (some found.block)
        walk checked names (found.entry 0).startCluster

/-- The directory that the components name. -/
def namedDirectory (directories : List CString) : M (Code × Option DirectoryEntry) :=
  walk env fat stack true directories fat.bootRecord.rootDirCluster

end Walks

/-- The parts of a path to a file. -/
def partsTo (directories : List CString) (fileName : CString) : List PathTracerPart :=
  directories.map (⟨·, .DIRECTORY⟩) ++ [⟨fileName, .FILE⟩]

/-- Two results are the same: the same entry, or none for the same reason. -/
def SameResult (left right : Code × Option DirectoryEntry) : Prop :=
  left.2 = right.2 ∧ (right.2 = none → left.1 = right.1)

/-- The entry instead of its block. -/
def entryOnly (result : Code × Option Entries) : Code × Option DirectoryEntry :=
  (result.1, result.2.map (·.entry 0))

variable {env : Environment} {fat : FatPrivate} {stack : Stack} {world : World}

/-- The components that the loop looks up, the first of which is given. -/
def lookedUp (first : CString) : List CString → List CString
  | [] => [first]
  | [_] => [first]
  | second :: third :: names => first :: lookedUp second (third :: names)

theorem lookedUp_eq (first : CString) (names : List CString) :
    lookedUp first names = if names = [] then [first] else (first :: names).dropLast := by
  fun_induction lookedUp first names with
  | case1 => rfl
  | case2 => rfl
  | case3 first second third names ih => simp [ih]

/-- What was found last has to be a directory on both sides. -/
theorem entryOnly_checkDirectory (errCode : Code) (found : Entries) :
    entryOnly (checkDirectory errCode found) =
      if (found.entry 0).attributes ≠ DIR_ENTRY_ATTRIBUTE_DIRECTORY then (-ENFOUND, none)
      else (errCode, some (found.entry 0)) := by
  rw [checkDirectory]
  split <;> simp_all [entryOnly]

/-- The loop of `findDirectory` follows these components, and checks the last entry. -/
theorem followParts_walks (fileName first : CString) (names : List CString) (cluster : Nat) :
    entryOnly <$> followParts env fat stack ⟨first, .DIRECTORY⟩ (partsTo names fileName) cluster =
      walk env fat stack false (lookedUp first names) cluster := by
  fun_induction lookedUp first names generalizing cluster with
  | case1 first =>
    rw [followParts, walk, map_bind]
    apply bind_congr
    rintro ⟨errCode, _ | found⟩
    · rfl
    · simp only [partsTo, List.map_nil, List.nil_append, map_pure, entryOnly_checkDirectory]
      split <;> simp_all
  | case2 first second =>
    rw [followParts, walk, map_bind]
    apply bind_congr
    rintro ⟨errCode, _ | found⟩
    · rfl
    · simp only [partsTo, List.map_cons, List.map_nil, List.cons_append, List.nil_append,
        reduceCtorEq, and_false, if_false, map_pure, entryOnly_checkDirectory]
      split <;> simp_all
  | case3 first second third names ih =>
    rw [followParts, walk, map_bind]
    apply bind_congr
    rintro ⟨errCode, _ | found⟩
    · rfl
    · have more : lookedUp second (third :: names) ≠ [] := by
        rw [lookedUp_eq]
        simp
      simp only [partsTo, List.map_cons, List.cons_append]
      simp [more, ← ih, partsTo]

/-! ## What is returned -/

/-- A walk along one component checks what it finds. -/
theorem walk_single (name : CString) (cluster : Nat) :
    walk env fat stack false [name] cluster = walk env fat stack true [name] cluster := by
  simp [walk]

/-- The cluster of a directory's entry is the one it was made for. -/
theorem startCluster_directoryAt {cluster : Nat} (narrow : cluster < 2 ^ 32) :
    (directoryAt cluster).startCluster = cluster := by
  simp only [directoryAt, DirectoryEntry.startCluster, DirectoryEntry.setAttributes,
    DirectoryEntry.setStartCluster, overwrite, wordBytes]
  simp
  omega

theorem absoluteAddressToCluster_lt (fat : FatPrivate) (absolute : Nat) :
    absoluteAddressToCluster fat absolute < 2 ^ 32 := by
  rw [absoluteAddressToCluster]
  split
  · decide
  · exact Nat.mod_lt _ (by decide)

/-- `findDirectory` returns, and what it returns is the expected result. -/
def Reports (env : Environment) (fat : FatPrivate) (stack : Stack) (tracer : PathTracer)
    (errCode : Code) (world : World) (expected : Code × Option DirectoryEntry) : Prop :=
  ∃ result after, (findDirectory env fat stack tracer errCode).run world = .ok (result, after) ∧
    SameResult (entryOnly result) expected

/-- A program that returns the entries of another one reports what that one returns. -/
theorem reports_iff {tracer : PathTracer} {errCode : Code} {expected : Code × Option DirectoryEntry}
    {program : M (Code × Option DirectoryEntry)}
    (same : entryOnly <$> findDirectory env fat stack tracer errCode = program) :
    Reports env fat stack tracer errCode world expected ↔
      ∃ result after, program.run world = .ok (result, after) ∧ SameResult result expected := by
  rw [← same, Reports, StateT.run_map]
  cases (findDirectory env fat stack tracer errCode).run world with
  | error fault => simp
  | ok returned =>
    constructor
    · rintro ⟨result, after, ran, agrees⟩
      obtain rfl := Except.ok.inj ran
      exact ⟨entryOnly result, after, rfl, agrees⟩
    · rintro ⟨result, after, ran, agrees⟩
      obtain ⟨rfl, rfl⟩ := Prod.mk.inj (Except.ok.inj ran)
      exact ⟨returned.1, returned.2, rfl, agrees⟩

/-- A path to a file of the root directory leads to an entry made for that. -/
theorem findDirectory_root (label : UInt8) (fileName : CString) (errCode : Code) :
    entryOnly <$> findDirectory env fat stack ⟨label, partsTo [] fileName⟩ errCode =
      (fun result => (if result.2 = none then -ENMEM else errCode, result.2)) <$>
        walk env fat stack true [] (absoluteAddressToCluster fat fat.rootDirStartAddress) := by
  rw [walk, findDirectory, partsTo, List.map_nil, List.nil_append]
  simp only [if_true, map_bind]
  apply bind_congr
  rintro (_ | block) <;> simp [entryOnly]

/-- The root directory is named unless there is no room for an entry. -/
theorem walk_root (env : Environment) (fat : FatPrivate) (stack : Stack) (checked : Bool)
    (world : World) : ∃ after, ∀ cluster,
    (walk env fat stack checked [] cluster).run world =
      .ok (if env.kzalloc world.requests 32 then (SUCCESS, some (directoryAt cluster))
        else (-ENMEM, none), after) := by
  cases room : env.kzalloc world.requests 32 with
  | true =>
    refine ⟨{ world with
      requests := world.requests + 1
      live := ⟨world.requests, env.capacity 32⟩ :: world.live }, fun cluster => ?_⟩
    simp [walk, kzalloc, room]
    rfl
  | false =>
    refine ⟨{ world with requests := world.requests + 1 }, fun cluster => ?_⟩
    simp [walk, kzalloc, room]
    rfl

/-- Any other path is followed from the cluster that the address of the root directory
converts to. -/
theorem findDirectory_walks (label : UInt8) (fileName first : CString) (names : List CString)
    (errCode : Code) :
    entryOnly <$> findDirectory env fat stack ⟨label, partsTo (first :: names) fileName⟩ errCode =
      walk env fat stack false (lookedUp first names)
        (absoluteAddressToCluster fat fat.rootDirStartAddress) := by
  rw [← followParts_walks fileName]
  rfl

/-- The result of a program that is run is all that there is to agree with. -/
theorem exists_ran {program : M (Code × Option DirectoryEntry)}
    {result expected : Code × Option DirectoryEntry} {after : World}
    (ran : program.run world = .ok (result, after)) :
    (∃ result after, program.run world = .ok (result, after) ∧ SameResult result expected) ↔
      SameResult result expected := by
  constructor
  · rintro ⟨other, final, again, agrees⟩
    obtain ⟨rfl, -⟩ := Prod.mk.inj (Except.ok.inj (ran.symm.trans again))
    exact agrees
  · exact fun agrees => ⟨result, after, ran, agrees⟩

theorem SameResult.refl (result : Code × Option DirectoryEntry) : SameResult result result :=
  ⟨rfl, fun _ => rfl⟩

/-- The address of the root directory converts to its cluster if that is the first one. -/
theorem root_converts (bootRecord : MasterBootRecord) (first : bootRecord.rootDirCluster = 2) :
    absoluteAddressToCluster (attachToDisk bootRecord) (attachToDisk bootRecord).rootDirStartAddress =
      bootRecord.rootDirCluster := by
  simp [absoluteAddressToCluster, attachToDisk, first]

/-! ## Directories in directories -/

/-- The entry of a directory with the name in a cluster, behind its long entry. -/
def directoryEntries (name : CString) (cluster : Nat) (bytes : Nat → UInt8) (address : Nat) :
    Nat → UInt8 :=
  let entry := (strncpy (fun i => if i < 11 then 0x20 else 0) 0 (chars (name.map upperCase)) 8)
  let entry := DirectoryEntry.setStartCluster entry cluster
  let entry := DirectoryEntry.setAttributes entry DIR_ENTRY_ATTRIBUTE_DIRECTORY
  let checkSum := getCheckSumFromSEntry entry fun _ => 0
  overwrite (overwrite bytes address 32 (longEntryOf name checkSum 0)) (address + 32) 32 entry

/-- A volume whose root directory has a directory `a` without entries. -/
def nestedBytes : Nat → UInt8 :=
  let bytes := putEntry (attachToDisk smallRecord) (fun _ => 0) 2 FAT_ENTRY_USED
  let bytes := putEntry (attachToDisk smallRecord) bytes 3 FAT_ENTRY_USED
  directoryEntries [97] 3 bytes 17408

/-- The code of a result and the cluster of its entry. -/
def outcome (result : Code × Option DirectoryEntry) : Code × Option Nat :=
  (result.1, result.2.map DirectoryEntry.startCluster)

/-- What a program comes to on that volume, where nothing goes wrong. -/
def comesTo (program : Environment → FatPrivate → Stack → M (Code × Option DirectoryEntry)) :
    Option (Code × Option Nat) :=
  ((program (plainEnvironment 82944) (attachToDisk smallRecord) fun _ _ _ => 0).run
    (freshWorld nestedBytes)).toOption.map fun result => outcome result.1

end BobaOS.Fat
