import Mathlib.Data.List.Basic
import Mathlib.Tactic.SplitIfs
import BobaOS.Status

/-!
# Path tracers

`pathTracer.c`: a path such as `C:/dir/file` is split at its slashes into parts,
each followed by a slash and typed as a directory, except a last one without a
slash, typed as a file. Strings are the bytes before their NUL.

The kernel heap's answer to the n-th request and the volumes that exist are
parameters. The list of parts stands for the linked nodes; a path with nothing
behind its first slash leaves a tracer whose root has been freed, here a tracer
without parts.
-/

namespace BobaOS.Vfsl

/-- The bytes of a string before its NUL. -/
abbrev CString := List UInt8

def BOBAOS_MAX_PATH_SIZE : Nat := 255
def BOBAOS_DEFAULT_VOLUME_LABEL : UInt8 := 67

/-- The characters that structure a path. -/
def COLON : UInt8 := 58
def SLASH : UInt8 := 47

inductive PartType where
  | DIRECTORY
  | FILE
deriving DecidableEq, Repr

structure PathTracerPart where
  pathPart : CString
  type : PartType
deriving DecidableEq, Repr

structure PathTracer where
  label : UInt8
  parts : List PathTracerPart
deriving DecidableEq, Repr

def checkVolumeLabel (label : UInt8) : Bool :=
  decide (BOBAOS_DEFAULT_VOLUME_LABEL ≤ label) && decide (label ≤ 90)

/-- The loop over the characters behind the first slash, with the parts that are
complete, the part being collected and the number of heap requests made. -/
def collectParts (kzalloc : Nat → Bool) (done : List PathTracerPart) (pathPart : CString)
    (requests : Nat) : CString → Except Code (List PathTracerPart × CString) × Nat
  | [] => (.ok (done, pathPart), requests)
  | char :: rest =>
    if pathPart.length = BOBAOS_MAX_PATH_SIZE - 1 ∨ char = SLASH then
      if pathPart.length = 0 then (.error (-EFORMAT), requests)
      else if kzalloc requests then
        collectParts kzalloc (done ++ [⟨pathPart, .DIRECTORY⟩]) [] (requests + 1) rest
      else (.error (-ENMEM), requests + 1)
    else collectParts kzalloc done (pathPart ++ [char]) requests rest

/-- The tracer, or the error code with which NULL is returned, and the number of
heap requests made so far. -/
def createPathTracer (volumes : UInt8 → Bool) (kzalloc : Nat → Bool) (path : CString)
    (requests : Nat) : Except Code PathTracer × Nat :=
  if checkVolumeLabel (path.getD 0 0) = false then (.error (-EFORMAT), requests)
  else if BOBAOS_MAX_PATH_SIZE ≤ path.length then (.error (-ELONG), requests)
  else if path.getD 1 0 ≠ COLON ∨ path.getD 2 0 ≠ SLASH then (.error (-EFORMAT), requests)
  else if volumes (path.getD 0 0) = false then (.error (-ENFOUND), requests)
  else if kzalloc requests = false then (.error (-ENMEM), requests + 1)
  else if kzalloc (requests + 1) = false then (.error (-ENMEM), requests + 2)
  else
    match collectParts kzalloc [] [] (requests + 2) (path.drop 3) with
    | (.error code, requests) => (.error code, requests)
    | (.ok (done, pathPart), requests) =>
      (.ok ⟨path.getD 0 0, if pathPart.length = 0 then done else done ++ [⟨pathPart, .FILE⟩]⟩,
        requests)

/-- The parts as they are put behind the first slash. A part without a slash is
followed by a NUL, which ends the string. -/
def partsString : List PathTracerPart → CString
  | [] => []
  | ⟨pathPart, .DIRECTORY⟩ :: rest => pathPart ++ SLASH :: partsString rest
  | ⟨pathPart, .FILE⟩ :: _ => pathPart

def pathTracerGetPathString (tracer : PathTracer) : CString :=
  tracer.label :: COLON :: SLASH :: partsString tracer.parts

/-- The first part typed as a file, NULL if there is none. -/
def pathTracerGetFileName (tracer : PathTracer) : Option CString :=
  (tracer.parts.find? (·.type = .FILE)).map (·.pathPart)

/-- The parts, all directories, before the one being collected. -/
def Directories (parts : List PathTracerPart) : Prop := ∀ part ∈ parts, part.type = .DIRECTORY

/-- Directory parts put their own names and slashes before whatever follows. -/
theorem partsString_append {parts : List PathTracerPart} (directories : Directories parts)
    (rest : List PathTracerPart) :
    partsString (parts ++ rest) = partsString parts ++ partsString rest := by
  induction parts with
  | nil => rfl
  | cons part parts ih =>
    obtain ⟨pathPart, type⟩ := part
    have kind : type = .DIRECTORY := directories _ List.mem_cons_self
    subst kind
    have tail : Directories parts := fun other member =>
      directories other (List.mem_cons_of_mem _ member)
    simp only [List.cons_append, partsString, ih tail, List.append_assoc]

/-- The loop drops no character of a short path: what it has collected and what
is left spell the same path all along. -/
theorem collectParts_spells (kzalloc : Nat → Bool) (rest : CString) :
    ∀ (done : List PathTracerPart) (pathPart : CString) (requests : Nat)
      (parts : List PathTracerPart) (last : CString) (after : Nat),
      Directories done → pathPart.length + rest.length < BOBAOS_MAX_PATH_SIZE - 1 →
      collectParts kzalloc done pathPart requests rest = (.ok (parts, last), after) →
      Directories parts ∧ partsString parts ++ last = partsString done ++ pathPart ++ rest := by
  induction rest with
  | nil =>
    intro done pathPart requests parts last after directories _ collected
    simp only [collectParts, Prod.mk.injEq, Except.ok.injEq] at collected
    obtain ⟨⟨rfl, rfl⟩, _⟩ := collected
    exact ⟨directories, (List.append_nil _).symm⟩
  | cons char rest ih =>
    intro done pathPart requests parts last after directories short collected
    rw [List.length_cons] at short
    have narrow : ¬ pathPart.length = BOBAOS_MAX_PATH_SIZE - 1 := by omega
    rw [collectParts] at collected
    by_cases slash : char = SLASH
    · rw [if_pos (.inr slash)] at collected
      have longer : Directories (done ++ [⟨pathPart, .DIRECTORY⟩]) := by
        intro part member
        rcases List.mem_append.mp member with earlier | new
        · exact directories part earlier
        · rw [List.mem_singleton.mp new]
      by_cases empty : pathPart.length = 0
      · rw [if_pos empty] at collected
        cases collected
      rw [if_neg empty] at collected
      by_cases full : kzalloc requests = false
      · rw [if_neg (by rw [full]; decide)] at collected
        cases collected
      rw [if_pos (by simpa using full)] at collected
      obtain ⟨kinds, spelled⟩ := ih _ [] _ parts last after longer
        (by rw [List.length_nil]; omega) collected
      refine ⟨kinds, ?_⟩
      rw [spelled, partsString_append directories]
      simp [partsString, slash]
    · rw [if_neg (fun either => either.elim narrow slash)] at collected
      obtain ⟨kinds, spelled⟩ := ih done (pathPart ++ [char]) _ parts last after directories
        (by rw [List.length_append, List.length_singleton]; omega) collected
      refine ⟨kinds, ?_⟩
      rw [spelled]
      simp

/-- A path that is parsed begins with its label, a colon and a slash, is short,
and is what the tracer's parts spell. -/
theorem createPathTracer_spells {volumes kzalloc : _} {path : CString} {requests after : Nat}
    {tracer : PathTracer}
    (created : createPathTracer volumes kzalloc path requests = (.ok tracer, after)) :
    pathTracerGetPathString tracer = path := by
  simp only [createPathTracer] at created
  split_ifs at created with label long format missing first second
  any_goals cases created
  have length : path.length < BOBAOS_MAX_PATH_SIZE := Nat.not_le.mp long
  obtain ⟨colon, slash⟩ := not_or.mp format
  -- The three characters that were tested are the beginning of the path.
  obtain ⟨volume, rest, rfl⟩ : ∃ volume rest, path = volume :: COLON :: SLASH :: rest := by
    rcases path with _ | ⟨volume, _ | ⟨second, _ | ⟨third, rest⟩⟩⟩
    · exact absurd rfl label
    · exact absurd (show (0 : UInt8) ≠ COLON by decide) colon
    · exact absurd (show (0 : UInt8) ≠ SLASH by decide) slash
    · obtain rfl : second = COLON := not_not.mp colon
      obtain rfl : third = SLASH := not_not.mp slash
      exact ⟨volume, rest, rfl⟩
  split at created
  · cases created
  · rename_i done last _ collected
    obtain ⟨rfl, _⟩ := created
    obtain ⟨kinds, spelled⟩ := collectParts_spells kzalloc rest [] [] _ done last _
      (fun _ member => absurd member List.not_mem_nil)
      (by simp only [List.length_cons, List.length_nil] at length ⊢; omega) collected
    simp only [partsString, List.nil_append] at spelled
    by_cases directory : last.length = 0
    · rw [List.eq_nil_of_length_eq_zero directory, List.append_nil] at spelled
      rw [if_pos directory, pathTracerGetPathString, spelled]
      rfl
    · rw [if_neg directory, pathTracerGetPathString, partsString_append kinds]
      simp only [partsString, spelled]
      rfl

/-- The codes with which the loop gives up. -/
theorem collectParts_error (kzalloc : Nat → Bool) (rest : CString) :
    ∀ (done : List PathTracerPart) (pathPart : CString) (requests : Nat) (code : Code) (after : Nat),
      collectParts kzalloc done pathPart requests rest = (.error code, after) →
      code = -EFORMAT ∨ code = -ENMEM := by
  induction rest with
  | nil =>
    intro done pathPart requests code after collected
    cases collected
  | cons char rest ih =>
    intro done pathPart requests code after collected
    rw [collectParts] at collected
    split_ifs at collected
    · cases collected
      exact .inl rfl
    · exact ih _ _ _ _ _ collected
    · cases collected
      exact .inr rfl
    · exact ih _ _ _ _ _ collected

/-- The codes with which a path is refused. -/
theorem createPathTracer_error {volumes kzalloc : _} {path : CString} {requests after : Nat}
    {code : Code}
    (refused : createPathTracer volumes kzalloc path requests = (.error code, after)) :
    code = -EFORMAT ∨ code = -ELONG ∨ code = -ENFOUND ∨ code = -ENMEM := by
  simp only [createPathTracer] at refused
  split_ifs at refused
  · cases refused
    exact .inl rfl
  · cases refused
    exact .inr (.inl rfl)
  · cases refused
    exact .inl rfl
  · cases refused
    exact .inr (.inr (.inl rfl))
  · cases refused
    exact .inr (.inr (.inr rfl))
  · cases refused
    exact .inr (.inr (.inr rfl))
  · split at refused
    · rename_i collected
      cases refused
      rcases collectParts_error kzalloc _ _ _ _ _ _ collected with format | full
      · exact .inl format
      · exact .inr (.inr (.inr full))
    · cases refused

/-- A path that is parsed names a volume that exists. -/
theorem createPathTracer_volume {volumes kzalloc : _} {path : CString} {requests after : Nat}
    {tracer : PathTracer}
    (created : createPathTracer volumes kzalloc path requests = (.ok tracer, after)) :
    volumes tracer.label = true := by
  simp only [createPathTracer] at created
  split_ifs at created with label long format missing first second
  any_goals cases created
  split at created
  · cases created
  · obtain ⟨rfl, _⟩ := created
    simpa using missing

/-! ## What is accepted -/

/-- The components, separated by single slashes, and a slash at the end or not. -/
def spelled (components : List CString) (trailing : Bool) : CString :=
  [SLASH].intercalate components ++ if trailing then [SLASH] else []

/-- The path has a label and is well-formed: its components are not empty. -/
structure PathForm (path : CString) (label : UInt8) (components : List CString)
    (trailing : Bool) : Prop where
  shape : path = label :: COLON :: SLASH :: spelled components trailing
  some : components ≠ []
  proper : ∀ component ∈ components, component ≠ [] ∧ SLASH ∉ component

/-- The parts of the components: each one followed by a slash is a directory, a last
one without a slash is a file. -/
def tracedParts : List CString → Bool → List PathTracerPart
  | [], _ => []
  | [last], trailing => [⟨last, if trailing then .DIRECTORY else .FILE⟩]
  | component :: next :: rest, trailing =>
    ⟨component, .DIRECTORY⟩ :: tracedParts (next :: rest) trailing

theorem tracedParts_concat (front : List CString) (last : CString) (trailing : Bool) :
    tracedParts (front ++ [last]) trailing =
      front.map (⟨·, .DIRECTORY⟩) ++ [⟨last, if trailing then .DIRECTORY else .FILE⟩] := by
  induction front with
  | nil => rfl
  | cons component front ih =>
    cases front with
    | nil => rfl
    | cons next front =>
      have onward := congrArg (⟨component, .DIRECTORY⟩ :: ·) ih
      exact onward

/-- The pieces between the slashes of what is left, the characters collected so far
before the first. -/
def pieces (pathPart rest : CString) : List CString :=
  (rest.splitOn SLASH).modifyHead (pathPart ++ ·)

theorem pieces_all (rest : CString) : pieces [] rest = rest.splitOn SLASH := by
  rw [pieces]
  cases rest.splitOn SLASH with
  | nil => rfl
  | cons first others => rfl

theorem pieces_nil (pathPart : CString) : pieces pathPart [] = [pathPart] := by
  rw [pieces, List.splitOn_nil, List.modifyHead_cons, List.append_nil]

theorem pieces_slash (pathPart rest : CString) :
    pieces pathPart (SLASH :: rest) = pathPart :: pieces [] rest := by
  rw [pieces_all, pieces, List.splitOn_cons_eq_if_modifyHead]
  simp

theorem pieces_char (pathPart rest : CString) {char : UInt8} (inside : char ≠ SLASH) :
    pieces pathPart (char :: rest) = pieces (pathPart ++ [char]) rest := by
  rw [pieces, pieces, List.splitOn_cons_eq_if_modifyHead]
  cases rest.splitOn SLASH with
  | nil => simp [inside]
  | cons first others => simp [inside]

theorem pieces_ne_nil (pathPart rest : CString) : pieces pathPart rest ≠ [] := by
  have some := List.splitOn_ne_nil SLASH rest
  rw [pieces]
  cases split : rest.splitOn SLASH with
  | nil => exact absurd split some
  | cons first others => exact List.cons_ne_nil _ _

/-- No piece has a slash. -/
theorem slash_notMem_pieces (rest : CString) : ∀ (pathPart : CString), SLASH ∉ pathPart →
    ∀ piece ∈ pieces pathPart rest, SLASH ∉ piece := by
  induction rest with
  | nil =>
    intro pathPart clear piece member
    rw [pieces_nil, List.mem_singleton] at member
    rwa [member]
  | cons char rest ih =>
    intro pathPart clear
    by_cases slash : char = SLASH
    · intro piece member
      rw [slash, pieces_slash] at member
      rcases List.mem_cons.mp member with rfl | later
      · exact clear
      · exact ih [] List.not_mem_nil piece later
    · rw [pieces_char _ _ slash]
      refine ih _ ?_
      rw [List.mem_append, List.mem_singleton]
      exact fun either => either.elim clear fun same => slash same.symm

/-- On a heap that does not fail, the loop over a short path accepts the pieces when
none before the last is empty. -/
theorem collectParts_pieces {kzalloc : Nat → Bool} (roomy : ∀ request, kzalloc request = true)
    (rest : CString) : ∀ (done : List PathTracerPart) (pathPart : CString) (requests : Nat),
      pathPart.length + rest.length < BOBAOS_MAX_PATH_SIZE - 1 →
      (collectParts kzalloc done pathPart requests rest).1 =
        if [] ∈ (pieces pathPart rest).dropLast then .error (-EFORMAT)
        else .ok (done ++ (pieces pathPart rest).dropLast.map (⟨·, .DIRECTORY⟩),
          (pieces pathPart rest).getLastD []) := by
  induction rest with
  | nil =>
    intro done pathPart requests _
    simp [collectParts, pieces_nil]
  | cons char rest ih =>
    intro done pathPart requests short
    rw [List.length_cons] at short
    have narrow : ¬ pathPart.length = BOBAOS_MAX_PATH_SIZE - 1 := by omega
    rw [collectParts]
    by_cases slash : char = SLASH
    · rw [if_pos (.inr slash), slash, pieces_slash,
        List.dropLast_cons_of_ne_nil (pieces_ne_nil [] rest)]
      by_cases empty : pathPart.length = 0
      · rw [if_pos empty, List.eq_nil_of_length_eq_zero empty, if_pos List.mem_cons_self]
      · have not_empty : [] ≠ pathPart := fun same => empty (by rw [← same]; rfl)
        have short_rest : ([] : CString).length + rest.length < BOBAOS_MAX_PATH_SIZE - 1 := by
          rw [List.length_nil]
          omega
        rw [if_neg empty, if_pos (roomy requests), ih _ _ _ short_rest]
        obtain ⟨first, others, split⟩ := List.exists_cons_of_ne_nil (pieces_ne_nil [] rest)
        simp [not_empty, split]
    · rw [if_neg fun either => either.elim narrow slash, pieces_char _ _ slash]
      refine ih _ _ _ ?_
      rw [List.length_append, List.length_singleton]
      omega

/-- The pieces of a well-formed path are its components, and an empty one behind a
slash at the end. -/
theorem pieces_spelled {components : List CString} (some : components ≠ [])
    (proper : ∀ component ∈ components, component ≠ [] ∧ SLASH ∉ component) (trailing : Bool) :
    pieces [] (spelled components trailing) = components ++ if trailing then [[]] else [] := by
  have joined : spelled components trailing =
      [SLASH].intercalate (components ++ if trailing then [[]] else []) := by
    rw [spelled]
    cases trailing with
    | false => simp
    | true =>
      simp only [if_pos]
      clear proper
      induction components with
      | nil => exact absurd rfl some
      | cons component rest ih =>
        cases rest with
        | nil => simp [List.intercalate_cons_cons]
        | cons next rest =>
          have onward := ih (List.cons_ne_nil _ _)
          rw [List.cons_append] at onward
          rw [List.cons_append, List.cons_append, List.intercalate_cons_cons,
            List.intercalate_cons_cons, ← onward]
          simp only [List.append_assoc]
  rw [pieces_all, joined, List.splitOn_intercalate]
  · intro piece member
    rcases List.mem_append.mp member with component | last
    · exact (proper piece component).2
    · cases trailing with
      | false => exact absurd last List.not_mem_nil
      | true =>
        rw [List.mem_singleton.mp last]
        exact List.not_mem_nil
  · exact List.append_ne_nil_of_left_ne_nil some _

section Acceptance

variable {volumes : UInt8 → Bool} {kzalloc : Nat → Bool} {path : CString} {label : UInt8}
  {components : List CString} {trailing : Bool}

/-- The parts of the components are what the loop has done, and a file unless the
path ends with a slash. -/
theorem tracedParts_eq (trailing : Bool) (some : components ≠ [])
    (proper : ∀ component ∈ components, component ≠ [] ∧ SLASH ∉ component) :
    [] ∉ (components ++ if trailing then [[]] else []).dropLast ∧
      (let last := (components ++ if trailing then [[]] else []).getLastD []
        let done := (components ++ if trailing then [[]] else []).dropLast.map
          fun name => (⟨name, .DIRECTORY⟩ : PathTracerPart)
        if last.length = 0 then done else done ++ [⟨last, .FILE⟩]) =
        tracedParts components trailing := by
  obtain ⟨front, last, rfl⟩ := List.eq_nil_or_concat' components |>.resolve_left some
  have not_empty (component : CString) (member : component ∈ front ++ [last]) :
      component ≠ [] := (proper component member).1
  rw [tracedParts_concat]
  cases trailing with
  | true =>
    simp only [if_pos]
    rw [List.dropLast_concat]
    refine ⟨fun empty => not_empty [] empty rfl, ?_⟩
    rw [List.getLastD_concat, if_pos List.length_nil, List.map_append]
    rfl
  | false =>
    have named : ¬ last.length = 0 := fun empty =>
      not_empty last (List.mem_append_right _ (List.mem_singleton_self _))
        (List.eq_nil_of_length_eq_zero empty)
    have shape : (front ++ [last] ++ if false = true then [[]] else []) = front ++ [last] :=
      List.append_nil _
    rw [shape, List.dropLast_concat, List.getLastD_concat]
    refine ⟨fun empty => not_empty [] (List.mem_append_left _ empty) rfl, ?_⟩
    exact if_neg named

/-- A short well-formed path on a volume that exists is parsed into its parts. -/
theorem createPathTracer_of_form (roomy : ∀ request, kzalloc request = true) (requests : Nat)
    (short : path.length < BOBAOS_MAX_PATH_SIZE) (form : PathForm path label components trailing)
    (valid : checkVolumeLabel label = true) (volume : volumes label = true) :
    (createPathTracer volumes kzalloc path requests).1 =
      .ok ⟨label, tracedParts components trailing⟩ := by
  obtain ⟨rfl, some, proper⟩ := form
  have room : ([] : CString).length + (spelled components trailing).length <
      BOBAOS_MAX_PATH_SIZE - 1 := by
    simp only [List.length_cons, List.length_nil, BOBAOS_MAX_PATH_SIZE] at short ⊢
    omega
  obtain ⟨clear, parts⟩ := tracedParts_eq trailing some proper
  have law := collectParts_pieces roomy (spelled components trailing) [] [] (requests + 2) room
  rw [pieces_spelled some proper, if_neg clear, List.nil_append] at law
  have valid' : ¬ checkVolumeLabel label = false := by
    rw [valid]
    decide
  have volume' : ¬ volumes label = false := by
    rw [volume]
    decide
  have room' (request : Nat) : ¬ kzalloc request = false := by
    rw [roomy]
    decide
  have format : ¬ (COLON ≠ COLON ∨ SLASH ≠ SLASH) := by decide
  rw [createPathTracer]
  simp only [List.getD_cons_zero, List.getD_cons_succ, List.drop_succ_cons, List.drop_zero]
  rw [if_neg valid', if_neg (Nat.not_le.mpr short), if_neg format, if_neg volume', if_neg (room' _),
    if_neg (room' _)]
  generalize collectParts kzalloc [] [] (requests + 2) (spelled components trailing) = collected at law
  obtain ⟨result, count⟩ := collected
  obtain rfl := law
  rw [← parts]

/-- A path that is parsed, and is more than a label with a slash, is short and
well-formed. -/
theorem form_of_createPathTracer (roomy : ∀ request, kzalloc request = true)
    (not_bare : ∀ label, path ≠ [label, COLON, SLASH]) {requests : Nat} {tracer : PathTracer}
    (created : (createPathTracer volumes kzalloc path requests).1 = .ok tracer) :
    path.length < BOBAOS_MAX_PATH_SIZE ∧ ∃ label components trailing,
      PathForm path label components trailing ∧ checkVolumeLabel label = true ∧
        volumes label = true := by
  rw [createPathTracer] at created
  split_ifs at created with invalid long format missing first second
  obtain ⟨colon, slash⟩ := not_or.mp format
  obtain ⟨label, rest, rfl⟩ : ∃ label rest, path = label :: COLON :: SLASH :: rest := by
    rcases path with _ | ⟨label, _ | ⟨second, _ | ⟨third, rest⟩⟩⟩
    · exact absurd rfl invalid
    · exact absurd (show (0 : UInt8) ≠ COLON by decide) colon
    · exact absurd (show (0 : UInt8) ≠ SLASH by decide) slash
    · obtain rfl : second = COLON := not_not.mp colon
      obtain rfl : third = SLASH := not_not.mp slash
      exact ⟨label, rest, rfl⟩
  have length : (label :: COLON :: SLASH :: rest).length < BOBAOS_MAX_PATH_SIZE := Nat.not_le.mp long
  have valid : checkVolumeLabel label = true := by simpa using invalid
  have volume : volumes label = true := by simpa using missing
  have room : ([] : CString).length + rest.length < BOBAOS_MAX_PATH_SIZE - 1 := by
    simp only [List.length_cons, List.length_nil, BOBAOS_MAX_PATH_SIZE] at length ⊢
    omega
  have law := collectParts_pieces roomy rest [] [] (requests + 2) room
  simp only [List.drop_succ_cons, List.drop_zero] at created
  -- No piece before the last is empty.
  have clear : [] ∉ (pieces [] rest).dropLast := by
    intro empty
    rw [if_pos empty] at law
    generalize collectParts kzalloc [] [] (requests + 2) rest = collected at law created
    obtain ⟨result, count⟩ := collected
    obtain rfl := law
    cases created
  have joined : [SLASH].intercalate (pieces [] rest) = rest := by
    rw [pieces_all, List.intercalate_splitOn]
  have free := slash_notMem_pieces rest [] List.not_mem_nil
  refine ⟨length, label, ?_⟩
  obtain ⟨front, last, split⟩ := (List.eq_nil_or_concat' (pieces [] rest)).resolve_left
    (pieces_ne_nil [] rest)
  rw [split] at joined free clear
  rw [List.dropLast_concat] at clear
  have front_proper (component : CString) (member : component ∈ front) :
      component ≠ [] ∧ SLASH ∉ component :=
    ⟨fun empty => clear (empty ▸ member), free component (List.mem_append_left _ member)⟩
  by_cases directory : last = []
  · -- The path ends with a slash.
    subst directory
    have some : front ≠ [] := by
      rintro rfl
      have nothing : rest = [] := by
        rw [← joined]
        rfl
      exact not_bare label (by rw [nothing])
    refine ⟨front, true, ⟨?_, some, front_proper⟩, valid, volume⟩
    have spelled_front := pieces_spelled some front_proper true
    rw [pieces_all] at spelled_front
    have whole : [SLASH].intercalate (List.splitOn SLASH (spelled front true)) =
        spelled front true := List.intercalate_splitOn SLASH
    rw [spelled_front, if_pos rfl, joined] at whole
    rw [whole]
  · refine ⟨front ++ [last], false, ⟨?_, by simp, ?_⟩, valid, volume⟩
    · rw [spelled, joined]
      simp
    · intro component member
      rcases List.mem_append.mp member with earlier | final
      · exact front_proper component earlier
      · rw [List.mem_singleton.mp final]
        exact ⟨directory, free last (List.mem_append_right _ (List.mem_singleton_self _))⟩

end Acceptance

end BobaOS.Vfsl
