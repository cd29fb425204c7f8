import Mathlib.Logic.Function.Basic
import BobaOS.Library.Programs
import BobaOS.Status

/-!
# The kernel's output

`koal.c`: devices for output are attached to a table, and one of them is selected by its name.
A character goes to the selected device.

The table has twelve places; an access to any other place is a fault, and so is the use of a
place that is empty.
-/

namespace BobaOS.Output.Console

open Programs

def BOBAOS_MAX_KOAL_ENTRIES : Nat := 12

/-- What ends a call without a return. The last two are those of `kprintf`. -/
inductive Fault (ε : Type) where
  | device (fault : ε)
  | nullPointer
  | outOfBounds
  | noArgument
deriving DecidableEq

/-- A device, with its name up to the NUL. -/
structure Koal (δ ε : Type) where
  name : List (BitVec 8)
  outChar : BitVec 8 → Program δ ε Code

/-- The variables of `koal.c`, and what the devices have. -/
structure State (δ ε : Type) where
  kernelOutputAbstractionLayer : Nat → Option (Koal δ ε)
  currentIndex : BitVec 8
  selectedOutput : Int
  devices : δ

abbrev M (δ ε α : Type) := Program (State δ ε) (Fault ε) α

variable {δ ε : Type}

/-! ## Code -/

/-- A `char` is signed. The texts have no NUL, and a text that ends shows one. -/
def strcmp : List (BitVec 8) → List (BitVec 8) → Int
  | [], [] => 0
  | [], char :: _ => if 0 > char.toInt then 1 else -1
  | char :: _, [] => if char.toInt > 0 then 1 else -1
  | first :: str1, second :: str2 =>
    if first ≠ second then if first.toInt > second.toInt then 1 else -1 else strcmp str1 str2

/-- A place of the table. -/
def entryAt (index : Nat) : M δ ε (Option (Koal δ ε)) := do
  if index < BOBAOS_MAX_KOAL_ENTRIES then return (← get).kernelOutputAbstractionLayer index
  else throw .outOfBounds

/-- What a pointer points to. -/
def deref : Option (Koal δ ε) → M δ ε (Koal δ ε)
  | none => throw .nullPointer
  | some koal => return koal

def onDevices {α : Type} (program : Program δ ε α) : M δ ε α :=
  Lens.embed ⟨(·.devices), fun state devices => { state with devices }⟩ .device program

def checkCurrentSelected : M δ ε Code := do
  let selectedOutput := (← get).selectedOutput
  if selectedOutput < 0 then return -ENFOUND
  if (← entryAt selectedOutput.toNat).isNone then return -ENFOUND
  return 0

/-- The loop of `koalSelectCurrentOutputByName`, at an entry. -/
def selectFrom (name : List (BitVec 8)) : Nat → Nat → M δ ε Code
  | 0, _ => return -ENFOUND
  | left + 1, i => do
    let koal ← deref (← entryAt i)
    if strcmp name koal.name = 0 then
      modify fun state => { state with selectedOutput := i }
      return 0
    else selectFrom name left (i + 1)

def koalSelectCurrentOutputByName (name : List (BitVec 8)) : M δ ε Code := do
  selectFrom name (← get).currentIndex.toNat 0

def koalAttach (koal : Koal δ ε) : M δ ε Code := do
  let currentIndex := (← get).currentIndex
  if currentIndex.toNat ≥ BOBAOS_MAX_KOAL_ENTRIES then return -ENMEM
  modify fun state => { state with
    kernelOutputAbstractionLayer :=
      Function.update state.kernelOutputAbstractionLayer currentIndex.toNat (some koal)
    currentIndex := currentIndex + 1 }
  return 0

def koalPrintChar (c : BitVec 8) : M δ ε Code := do
  let ret ← checkCurrentSelected
  if ret < 0 then return ret
  let koal ← deref (← entryAt (← get).selectedOutput.toNat)
  onDevices (koal.outChar c)

/-- The loop of `koalPrint`, with the code of the last character. -/
def koalPrintFrom (ret : Code) : List (BitVec 8) → M δ ε Code
  | [] => return ret
  | c :: str => do
    let ret ← koalPrintChar c
    if ret < 0 then return ret else koalPrintFrom ret str

def koalPrint (str : List (BitVec 8)) : M δ ε Code := koalPrintFrom 0 str

/-- The table is cleared, its counter is not. -/
def koalInit : M δ ε Unit :=
  modify fun state => { state with kernelOutputAbstractionLayer := fun _ => none }

/-! ## The registry -/

/-- What the table is for: the devices in the order in which they came, and the one that is
selected. -/
structure Registry (δ ε : Type) where
  attached : List (Koal δ ε)
  selected : Option Nat

def Registry.empty : Registry δ ε := ⟨[], none⟩

inductive Command (δ ε : Type) where
  | attach (koal : Koal δ ε)
  | select (name : List (BitVec 8))

/-- A command on the registry, with its code: no more than twelve devices are attached, and the
first one with a name is selected. -/
def Registry.apply (registry : Registry δ ε) : Command δ ε → Code × Registry δ ε
  | .attach koal =>
    if registry.attached.length < BOBAOS_MAX_KOAL_ENTRIES then
      (0, { registry with attached := registry.attached ++ [koal] })
    else (-ENMEM, registry)
  | .select name =>
    match registry.attached.findIdx? fun koal => koal.name = name with
    | some index => (0, { registry with selected := some index })
    | none => (-ENFOUND, registry)

def Command.run : Command δ ε → M δ ε Code
  | .attach koal => koalAttach koal
  | .select name => koalSelectCurrentOutputByName name

/-- The commands in their order, with their codes. -/
def Registry.applyAll (registry : Registry δ ε) : List (Command δ ε) → List Code × Registry δ ε
  | [] => ([], registry)
  | command :: rest =>
    let (ret, next) := registry.apply command
    let (codes, last) := next.applyAll rest
    (ret :: codes, last)

def runAll : List (Command δ ε) → M δ ε (List Code)
  | [] => return []
  | command :: rest => do
    let ret ← command.run
    let codes ← runAll rest
    return ret :: codes

/-- The device that a character goes to. -/
def Registry.current (registry : Registry δ ε) : Option (Koal δ ε) :=
  registry.selected.bind fun index => registry.attached[index]?

/-- A character goes there, or nowhere. -/
def Registry.put (registry : Registry δ ε) (c : BitVec 8) : M δ ε Code :=
  match registry.current with
  | none => return -ENFOUND
  | some koal => onDevices (koal.outChar c)

/-- The table holds a registry. -/
structure Represents (state : State δ ε) (registry : Registry δ ε) : Prop where
  entries : ∀ index < BOBAOS_MAX_KOAL_ENTRIES,
    state.kernelOutputAbstractionLayer index = registry.attached[index]?
  count : state.currentIndex.toNat = registry.attached.length
  few : registry.attached.length ≤ BOBAOS_MAX_KOAL_ENTRIES
  selected : state.selectedOutput = registry.selected.elim (-1) Nat.cast
  attached : ∀ index ∈ registry.selected, index < registry.attached.length

/-! ## Laws -/

section Laws

variable {state : State δ ε} {registry : Registry δ ε} {fault : Fault ε → Prop}

theorem strcmp_eq_zero (str1 str2 : List (BitVec 8)) : strcmp str1 str2 = 0 ↔ str1 = str2 := by
  induction str1 generalizing str2 with
  | nil =>
    cases str2 with
    | nil => simp [strcmp]
    | cons char rest =>
      rw [strcmp]
      split <;> simp
  | cons first str1 ih =>
    cases str2 with
    | nil =>
      rw [strcmp]
      split <;> simp
    | cons second str2 =>
      rw [strcmp]
      by_cases same : first = second
      · rw [if_neg (not_not.mpr same), ih, same, List.cons_inj_right]
      · rw [if_pos same]
        split <;> simp [same]

@[simp] theorem meets_entryAt {index : Nat} {post : Option (Koal δ ε) → State δ ε → Prop} :
    Meets (entryAt index) state fault post ↔
      (index < BOBAOS_MAX_KOAL_ENTRIES → post (state.kernelOutputAbstractionLayer index) state) ∧
        (BOBAOS_MAX_KOAL_ENTRIES ≤ index → fault .outOfBounds) := by
  simp only [entryAt, meets_ite, meets_bind, meets_get, meets_pure, meets_throw, Nat.not_lt]

@[simp] theorem meets_deref_some {koal : Koal δ ε} {post : Koal δ ε → State δ ε → Prop} :
    Meets (deref (some koal)) state fault post ↔ post koal state := meets_pure koal

@[simp] theorem meets_onDevices {α : Type} {program : Program δ ε α}
    {post : α → State δ ε → Prop} : Meets (onDevices program) state fault post ↔
      Meets program state.devices (fun problem => fault (.device problem))
        fun value devices => post value { state with devices } := meets_embed _ _ program

/-- An attached device has a place. -/
theorem Represents.entry (represents : Represents state registry) {index : Nat}
    (inside : index < registry.attached.length) :
    index < BOBAOS_MAX_KOAL_ENTRIES ∧
      state.kernelOutputAbstractionLayer index = some registry.attached[index] := by
  have low := Nat.lt_of_lt_of_le inside represents.few
  exact ⟨low, by rw [represents.entries index low, List.getElem?_eq_getElem inside]⟩

/-- The loop finds the first device of a name from an entry on. -/
theorem selectFrom_meets (represents : Represents state registry) (name : List (BitVec 8))
    (left : Nat) : ∀ i, i + left = registry.attached.length →
      (∀ before, ∀ inside : before < registry.attached.length, before < i →
        registry.attached[before].name ≠ name) →
      Meets (selectFrom name left i) state (fun _ => False) fun ret after =>
        ret = (registry.apply (.select name)).1 ∧
          Represents after (registry.apply (.select name)).2 ∧ after.devices = state.devices := by
  induction left with
  | zero =>
    intro i all none
    have missing : registry.attached.findIdx? (fun koal => koal.name = name) = .none := by
      rw [List.findIdx?_eq_none_iff]
      intro koal member
      obtain ⟨index, inside, rfl⟩ := List.mem_iff_getElem.mp member
      simpa using none index inside (by omega)
    rw [selectFrom, Registry.apply, missing]
    exact .pure ⟨rfl, represents, rfl⟩
  | succ left ih =>
    intro i all none
    have inside : i < registry.attached.length := by omega
    obtain ⟨low, entry⟩ := represents.entry inside
    rw [selectFrom, meets_bind, meets_entryAt, entry]
    refine ⟨fun _ => ?_, fun beyond => by omega⟩
    rw [meets_bind, meets_deref_some, meets_ite]
    constructor
    · intro same
      have named := ((strcmp_eq_zero _ _).mp same).symm
      have found : registry.attached.findIdx? (fun koal => koal.name = name) = some i := by
        rw [List.findIdx?_eq_some_iff_getElem]
        exact ⟨inside, by simpa using named,
          fun before earlier => by simpa using none before (by omega) earlier⟩
      rw [Registry.apply, found, meets_bind, meets_modify]
      refine .pure ⟨rfl, { represents with selected := rfl, attached := ?_ }, rfl⟩
      rintro _ ⟨⟩
      exact inside
    · intro other
      refine ih (i + 1) (by omega) fun before within earlier => ?_
      rcases Nat.lt_succ_iff_lt_or_eq.mp earlier with sooner | rfl
      · exact none before within sooner
      · exact fun named => other ((strcmp_eq_zero _ _).mpr named.symm)

/-- A command on the table is that command on the registry. -/
theorem Command.run_meets (represents : Represents state registry) (command : Command δ ε) :
    Meets command.run state (fun _ => False) fun ret after =>
      ret = (registry.apply command).1 ∧ Represents after (registry.apply command).2 ∧
        after.devices = state.devices := by
  cases command with
  | select name =>
    rw [Command.run, koalSelectCurrentOutputByName, meets_bind, meets_get, represents.count]
    exact selectFrom_meets represents name _ 0 (Nat.zero_add _) fun _ _ => fun below =>
      absurd below (Nat.not_lt_zero _)
  | attach koal =>
    rw [Command.run, koalAttach, meets_bind, meets_get]
    simp only [meets_bind, meets_ite, meets_pure, meets_modify, represents.count]
    have few := represents.few
    constructor
    · intro full
      rw [Registry.apply, if_neg (by omega)]
      exact ⟨rfl, represents, trivial⟩
    · intro room
      rw [Registry.apply, if_pos (by omega)]
      refine ⟨rfl, ⟨?_, ?_, ?_, represents.selected, ?_⟩, trivial⟩
      · intro index low
        dsimp only
        by_cases new : index = registry.attached.length
        · rw [new, Function.update_self, List.getElem?_append_right (Nat.le_refl _), Nat.sub_self]
          rfl
        · rw [Function.update_of_ne new, represents.entries index low]
          rcases Nat.lt_or_gt_of_ne new with before | behind
          · rw [List.getElem?_append_left before]
          · rw [List.getElem?_eq_none (by omega), List.getElem?_eq_none (by simp; omega)]
      · have count := represents.count
        have low : registry.attached.length < BOBAOS_MAX_KOAL_ENTRIES := by omega
        rw [BOBAOS_MAX_KOAL_ENTRIES] at low
        rw [BitVec.toNat_add, count, List.length_append]
        exact Nat.mod_eq_of_lt (by simp; omega)
      · rw [List.length_append, List.length_singleton]
        omega
      · intro index member
        rw [List.length_append]
        exact Nat.lt_add_right _ (represents.attached index member)

theorem runAll_meets (commands : List (Command δ ε)) :
    ∀ {state : State δ ε} {registry : Registry δ ε}, Represents state registry →
      Meets (runAll commands) state (fun _ => False) fun codes after =>
        codes = (registry.applyAll commands).1 ∧
          Represents after (registry.applyAll commands).2 := by
  induction commands with
  | nil =>
    intro state registry represents
    exact .pure ⟨rfl, represents⟩
  | cons command rest ih =>
    intro state registry represents
    rw [runAll]
    apply (command.run_meets represents).bind
    rintro _ between ⟨rfl, represents, -⟩
    apply (ih represents).bind
    rintro _ after ⟨rfl, represents⟩
    exact .pure ⟨rfl, represents⟩

theorem checkCurrentSelected_none (selected : state.selectedOutput = -1) :
    checkCurrentSelected.run state = .ok (-ENFOUND, state) := by
  refine Meets.ran ?_
  simp [checkCurrentSelected, selected]

theorem checkCurrentSelected_some {index : Nat} {koal : Koal δ ε}
    (selected : state.selectedOutput = index) (low : index < BOBAOS_MAX_KOAL_ENTRIES)
    (entry : state.kernelOutputAbstractionLayer index = some koal) :
    checkCurrentSelected.run state = .ok (0, state) := by
  refine Meets.ran ?_
  have positive : ¬ (index : Int) < 0 := by omega
  simp [checkCurrentSelected, selected, positive, entry, low]

/-- A character goes to the device that is selected; where none is, it is not printed. -/
theorem koalPrintChar_run (represents : Represents state registry) (c : BitVec 8) :
    (koalPrintChar c).run state = (registry.put c).run state := by
  have selected := represents.selected
  have attached := represents.attached
  rw [Registry.put, Registry.current]
  cases current : registry.selected with
  | none =>
    rw [current, Option.elim_none] at selected
    rw [koalPrintChar, run_bind_of (checkCurrentSelected_none selected)]
    rfl
  | some index =>
    rw [current, Option.elim_some] at selected
    have inside := attached index current
    obtain ⟨low, entry⟩ := represents.entry inside
    have found : (entryAt index).run state = .ok (some registry.attached[index], state) := by
      refine Meets.ran ?_
      rw [meets_entryAt, entry]
      exact ⟨fun _ => ⟨rfl, rfl⟩, fun beyond => by omega⟩
    have place : state.selectedOutput.toNat = index := by rw [selected, Int.toNat_natCast]
    have looked : (get : M δ ε (State δ ε)).run state = .ok (state, state) := rfl
    rw [koalPrintChar, run_bind_of (checkCurrentSelected_some selected low entry),
      if_neg (by decide), run_bind_of looked, place, run_bind_of found, Option.bind_some,
      List.getElem?_eq_getElem inside]
    rfl

/-- The state before `koalInit`, with whatever the table and the devices hold. -/
def boot (table : Nat → Option (Koal δ ε)) (devices : δ) : State δ ε := ⟨table, 0, -1, devices⟩

theorem koalInit_represents (table : Nat → Option (Koal δ ε)) (devices : δ) :
    Meets koalInit (boot table devices) fault fun _ after =>
      Represents after .empty ∧ after.devices = devices := by
  rw [koalInit, meets_modify]
  exact ⟨⟨fun _ _ => rfl, rfl, Nat.zero_le _, rfl, by rintro _ ⟨⟩⟩, rfl⟩

end Laws

end BobaOS.Output.Console
