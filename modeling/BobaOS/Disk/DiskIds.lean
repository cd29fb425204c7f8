import Mathlib.Data.List.Range
import Mathlib.Logic.Equiv.Basic
import BobaOS.Disk.DiskList

/-!
# The numbers of the disks

The drivers number the disks from the next free place of the list on, and the
disks are put there in the same order. So each disk has the number of its place,
also after the boot disk has changed places with the first one, and opening a
partition's disk by its number opens that disk.

The disk found at the second legacy port is attached to the first one. Which disk
comes first is decided by what is read there.
-/

namespace BobaOS.Disks

open ByteStore Programs

variable {hw : Hardware} {globals : Globals}

/-! ## What is found -/

section Found

variable (hw : Hardware)

/-- The places at which the legacy driver finds disks. -/
def legacyPlaces : List Place :=
  if hw.legacyDriver then
    (if ataPioProbePort hw 0x1F0 then [.legacy 0x1F0] else []) ++
      if ataPioProbePort hw 0x170 then [.legacy 0x170] else []
  else []

/-- The places of the disks that the ports of a controller are connected to. -/
def portPlaces (number : Nat) (controller : Controller) (ports : List Nat) : List Place :=
  (ports.filter (connected controller)).map (.sata number)

/-- The places of the disks of the controllers. The scan ends at a controller that
cannot be mapped. -/
def controllerPlaces : List (Controller × Nat) → List Place
  | [] => []
  | (controller, number) :: rest =>
    if controller.isIo then controllerPlaces rest
    else if controller.mapped then
      if controller.ghc >>> 31 = 1 then
        portPlaces number controller (List.range 32) ++ controllerPlaces rest
      else controllerPlaces rest
    else []

def sataPlaces : List Place :=
  if hw.ahciDriver then controllerPlaces hw.controllers.zipIdx else []

/-- The disks that are there, in the order in which they are found. -/
def places : List Place := legacyPlaces hw ++ sataPlaces hw

/-- What the driver of a disk found at a place addresses. -/
def attached : Place → Place
  | .legacy _ => .legacy 0x1F0
  | .sata controller port => .sata controller port

end Found

/-! ## Disks that are numbered in order -/

/-- The disks of these places have been created and numbered in order, the first
ones are in the list, and the partitions of each belong to it. -/
structure Numbered (found : List Place) (globals : Globals) : Prop where
  created : globals.created = found.length
  disk : ∀ k place, found[k]? = some place →
    (globals.disks k).place = attached place ∧ (globals.disks k).id = k
  listed : ∀ k, globals.diskList k = if k < globals.currentDisk then some k else none
  owned : ∀ d k, k < (globals.disks d).partitionCount →
    ((globals.disks d).partition k).disk = some d

/-- Of the disks, at most the partitions and the size of one have changed. -/
structure Around (disk : Nat) (before after : Globals) : Prop where
  created : after.created = before.created
  diskList : after.diskList = before.diskList
  currentDisk : after.currentDisk = before.currentDisk
  others : ∀ other, other ≠ disk → after.disks other = before.disks other
  id : (after.disks disk).id = (before.disks disk).id
  place : (after.disks disk).place = (before.disks disk).place

theorem Around.refl (disk : Nat) (globals : Globals) : Around disk globals globals :=
  ⟨rfl, rfl, rfl, fun _ _ => rfl, rfl, rfl⟩

theorem Around.trans {disk : Nat} {first second third : Globals} (early : Around disk first second)
    (late : Around disk second third) : Around disk first third where
  created := late.created.trans early.created
  diskList := late.diskList.trans early.diskList
  currentDisk := late.currentDisk.trans early.currentDisk
  others other different := (late.others other different).trans (early.others other different)
  id := late.id.trans early.id
  place := late.place.trans early.place

/-- Disks stay numbered when the partitions of one change and belong to it. -/
theorem Numbered.around {found : List Place} {disk : Nat} {after : Globals}
    (numbered : Numbered found globals) (around : Around disk globals after)
    (owned : ∀ k, k < (after.disks disk).partitionCount →
      ((after.disks disk).partition k).disk = some disk) : Numbered found after where
  created := around.created.trans numbered.created
  disk k place there := by
    by_cases here : k = disk
    · subst here
      rw [around.id, around.place]
      exact numbered.disk k place there
    · rw [around.others k here]
      exact numbered.disk k place there
  listed k := by
    rw [around.diskList, around.currentDisk]
    exact numbered.listed k
  owned d k := by
    by_cases here : d = disk
    · subst here
      exact owned k
    · rw [around.others d here]
      exact numbered.owned d k

section Calls

theorem kzalloc_meets (reliable : hw.streams.Reliable) (size : Nat) {fault : Fault → Prop} :
    Meets (kzalloc hw size) globals fault fun value after =>
      value = true ∧ after = { globals with calls := globals.calls + 1 } := by
  rw [kzalloc, meets_bind, meets_get, meets_bind, meets_set]
  exact .pure ⟨reliable.kzalloc _ _, rfl⟩

theorem readFirstSector_meets (reliable : hw.streams.Reliable) (place : Place)
    {fault : Fault → Prop} :
    Meets (readFirstSector hw place) globals fault fun value after =>
      value.1 = 0 ∧ (∀ i < 512, value.2 i = hw.contents place i) ∧
        after = { globals with calls := globals.calls + 1 } := by
  rw [readFirstSector, meets_bind, meets_get, meets_bind, meets_set]
  have code := reliable.read globals.calls (hw.contents place) 0 1
  refine .pure ⟨code, ?_, rfl⟩
  intro i inside
  have data := reliable.exact.read_data globals.calls (hw.contents place) 0 1 code i (by omega)
  rw [Nat.zero_mul, Nat.zero_add] at data
  exact (overwrite_inside _ _ _ _ _ ⟨Nat.zero_le _, by omega⟩).trans data

/-- The loop over the tables changes the partitions of its disk, which belong to it. -/
theorem checkTables_around (disk : Nat) (sectorBuffer : Nat → UInt8) (rest : List Nat) :
    ∀ (globals : Globals) (count : Nat),
      (∀ k < count, ((globals.disks disk).partition k).disk = some disk) →
      Meets (checkTables disk sectorBuffer rest count) globals (fun _ => False) fun total after =>
        Around disk globals after ∧
          (after.disks disk).partitionCount = (globals.disks disk).partitionCount ∧
          ∀ k < total, ((after.disks disk).partition k).disk = some disk := by
  induction rest with
  | nil =>
    intro globals count owned
    exact .pure ⟨.refl disk globals, rfl, owned⟩
  | cons i rest ih =>
    intro globals count owned
    rw [checkTables, meets_ite]
    constructor
    · intro _
      rw [meets_bind, meets_get, meets_ite]
      refine ⟨fun _ => .pure ⟨.refl disk globals, rfl, owned⟩, fun _ => ?_⟩
      rw [meets_bind, meets_set]
      have registered : Around disk globals (registerPartition disk sectorBuffer i count globals) := by
        refine ⟨rfl, rfl, rfl, ?_, ?_, ?_⟩
        · exact fun other different => Function.update_of_ne different _ _
        · simp [registerPartition]
        · simp [registerPartition]
      have same : ((registerPartition disk sectorBuffer i count globals).disks disk).partitionCount =
          (globals.disks disk).partitionCount := by
        simp [registerPartition]
      refine (ih _ (count + 1) ?_).mono fun total after all =>
        ⟨registered.trans all.1, all.2.1.trans same, all.2.2⟩
      intro k small
      simp only [registerPartition, Function.update_self]
      by_cases here : k = count
      · rw [here, Function.update_self]
      · rw [Function.update_of_ne here]
        exact owned k (by omega)
    · intro _
      exact ih globals count owned

/-- A disk that has not been searched yet is searched for partitions. -/
theorem checkDiskPartition_numbered (reliable : hw.streams.Reliable) {found : List Place}
    (numbered : Numbered found globals) {disk : Nat}
    (fresh : (globals.disks disk).partitionCount = 0) :
    Meets (checkDiskPartition hw disk) globals (fun _ => False) fun _ after =>
      Numbered found after ∧ Around disk globals after := by
  rw [checkDiskPartition, meets_bind, meets_get]
  apply (readFirstSector_meets reliable _).bind
  rintro ⟨code, buff⟩ read ⟨good, -, rfl⟩
  have good : code = 0 := good
  subst good
  simp only
  rw [if_neg (by decide), checkMbrPartition, meets_bind, meets_bind, meets_modify]
  have before : Around disk globals { globals with
      calls := globals.calls + 1, scanned := globals.scanned ++ [buff] } :=
    ⟨rfl, rfl, rfl, fun _ _ => rfl, rfl, rfl⟩
  apply (checkTables_around disk buff _ _ 0 fun k small => absurd small (Nat.not_lt_zero k)).mono
  rintro count after ⟨around, same, owned⟩
  have around := before.trans around
  rw [meets_ite]
  constructor
  · intro _
    rw [meets_bind, meets_modify]
    have counted : Around disk after { after with
        disks := Function.update after.disks disk
          { after.disks disk with partitionCount := count } } := by
      refine ⟨rfl, rfl, rfl, fun other different => Function.update_of_ne different _ _, ?_, ?_⟩
      · simp
      · simp
    refine .pure ⟨numbered.around (around.trans counted) ?_, around.trans counted⟩
    intro k small
    simp only [Function.update_self] at small ⊢
    exact owned k small
  · intro _
    refine .pure ⟨numbered.around around ?_, around⟩
    intro k small
    rw [same] at small
    exact absurd small (by rw [fresh]; exact Nat.not_lt_zero k)

end Calls

/-! ## The two scans -/

section Scans

/-- The disks from a number on have not been searched for partitions. -/
def Unsearched (first : Nat) (globals : Globals) : Prop :=
  ∀ k, first ≤ k → (globals.disks k).partitionCount = 0

/-- A scan has created the disks of some new places, behind those in the list. -/
structure Scanning (base new : List Place) (globals : Globals) : Prop where
  numbered : Numbered (base ++ new) globals
  unsearched : Unsearched base.length globals
  listed : globals.currentDisk = base.length

variable {base new : List Place}

/-- Calls of the heap and the drivers do not matter. -/
theorem Scanning.calls (scanning : Scanning base new globals) (calls : Nat) :
    Scanning base new { globals with calls } :=
  ⟨⟨scanning.numbered.created, scanning.numbered.disk, scanning.numbered.listed,
    scanning.numbered.owned⟩, scanning.unsearched, scanning.listed⟩

theorem length_concat (base new : List Place) (place : Place) :
    (base ++ (new ++ [place])).length = (base ++ new).length + 1 := by
  rw [← List.append_assoc, List.length_append, List.length_singleton]

/-- One more disk is created. -/
theorem newDisk_meets (scanning : Scanning base new globals) (few : (base ++ new).length < 2 ^ 8)
    (place : Place) :
    Meets (newDisk (base ++ new).length (attached place)) globals (fun _ => False) fun disk after =>
      disk = (base ++ new).length ∧ Scanning base (new ++ [place]) after := by
  rw [newDisk, meets_bind, meets_get, meets_bind, meets_set]
  have created := scanning.numbered.created
  refine .pure ⟨created, ⟨?_, ?_, scanning.numbered.listed, ?_⟩, ?_, scanning.listed⟩
  · rw [length_concat]
    exact congrArg Nat.succ created
  · intro k other there
    rw [← List.append_assoc] at there
    simp only [created]
    by_cases last : k = (base ++ new).length
    · subst last
      rw [List.getElem?_concat_length] at there
      rw [Function.update_self, Option.some.inj there]
      exact ⟨rfl, Nat.mod_eq_of_lt few⟩
    · rw [Function.update_of_ne last]
      refine scanning.numbered.disk k other ?_
      have inside := (List.getElem?_eq_some_iff.mp there).1
      rw [List.length_append, List.length_singleton] at inside
      rwa [List.getElem?_append_left (by omega)] at there
  · intro d k
    by_cases last : d = globals.created
    · subst last
      simp [freshDisk]
    · simp only [Function.update_of_ne last]
      exact scanning.numbered.owned d k
  · intro k behind
    by_cases last : k = globals.created
    · subst last
      simp [freshDisk]
    · simp only [Function.update_of_ne last]
      exact scanning.unsearched k behind

theorem createAndAttachDisk_meets (reliable : hw.streams.Reliable)
    (scanning : Scanning base new globals) (few : (base ++ new).length < 2 ^ 8) (port : Nat) :
    Meets (createAndAttachDisk hw (base ++ new).length 0x1F0) globals (fun _ => False)
      fun disk after => disk = some (base ++ new).length ∧
        Scanning base (new ++ [.legacy port]) after := by
  rw [createAndAttachDisk]
  apply (kzalloc_meets reliable _).bind
  rintro _ _ ⟨rfl, rfl⟩
  apply (kzalloc_meets reliable _).bind
  rintro _ _ ⟨rfl, rfl⟩
  rw [Bool.and_self, if_pos rfl]
  apply (kzalloc_meets reliable _).bind
  rintro _ _ ⟨rfl, rfl⟩
  rw [if_pos rfl]
  apply (newDisk_meets (scanning.calls _) few (.legacy port)).bind
  rintro _ after ⟨rfl, grown⟩
  exact .pure ⟨rfl, grown⟩

theorem createDisk_meets (reliable : hw.streams.Reliable) (scanning : Scanning base new globals)
    (few : (base ++ new).length < 2 ^ 8) (controller port : Nat) :
    Meets (createDisk hw (base ++ new).length controller port) globals (fun _ => False)
      fun disk after => disk = some (base ++ new).length ∧
        Scanning base (new ++ [.sata controller port]) after := by
  rw [createDisk]
  apply (kzalloc_meets reliable _).bind
  rintro _ _ ⟨rfl, rfl⟩
  rw [if_pos rfl]
  apply (kzalloc_meets reliable _).bind
  rintro _ _ ⟨rfl, rfl⟩
  rw [if_pos rfl]
  apply (kzalloc_meets reliable _).bind
  rintro _ _ ⟨rfl, rfl⟩
  rw [if_pos rfl]
  apply (newDisk_meets (scanning.calls _) few (.sata controller port)).bind
  rintro _ after ⟨rfl, grown⟩
  exact .pure ⟨rfl, grown⟩

/-- The numbers of the disks that a scan has created. -/
def numbers (base new : List Place) : List Nat := List.range' base.length new.length

theorem numbers_concat (base new : List Place) (place : Place) :
    numbers base (new ++ [place]) = numbers base new ++ [(base ++ new).length] := by
  rw [numbers, numbers, List.length_append, List.length_singleton, List.range'_1_concat,
    List.length_append]

theorem scanSlave_meets (reliable : hw.streams.Reliable) (scanning : Scanning base new globals)
    (few : (base ++ new).length < 2 ^ 8) :
    Meets (scanSlave hw (numbers base new) (base ++ new).length) globals (fun _ => False)
      fun found after => ∃ more, more = (if ataPioProbePort hw 0x170 then [.legacy 0x170] else []) ∧
        found = numbers base (new ++ more) ∧ Scanning base (new ++ more) after := by
  rw [scanSlave, meets_ite]
  constructor
  · intro there
    rw [if_pos there]
    apply (createAndAttachDisk_meets reliable scanning few 0x170).bind
    rintro _ after ⟨rfl, grown⟩
    exact .pure ⟨_, rfl, (numbers_concat base new _).symm, grown⟩
  · intro absent
    rw [if_neg absent]
    refine .pure ⟨[], rfl, ?_, ?_⟩
    · rw [List.append_nil]
    · rw [List.append_nil]
      exact scanning

/-- The legacy driver creates the disks of its places. -/
theorem scanLegacy_meets (reliable : hw.streams.Reliable) (driver : hw.legacyDriver = true)
    (scanning : Scanning [] [] globals) :
    Meets (scanLegacy hw 0) globals (fun _ => False) fun found after =>
      found = numbers [] (legacyPlaces hw) ∧ Scanning [] (legacyPlaces hw) after := by
  rw [scanLegacy, meets_ite, legacyPlaces, if_pos driver]
  constructor
  · intro there
    rw [if_pos there]
    apply (createAndAttachDisk_meets reliable scanning (by decide) 0x1F0).bind
    rintro _ after ⟨rfl, grown⟩
    apply (scanSlave_meets reliable grown (by decide)).mono
    rintro found last ⟨more, rfl, rfl, scanned⟩
    exact ⟨rfl, scanned⟩
  · intro absent
    rw [if_neg absent]
    apply (scanSlave_meets reliable scanning (by decide)).mono
    rintro found last ⟨more, rfl, rfl, scanned⟩
    exact ⟨rfl, scanned⟩

theorem scanPorts_meets (reliable : hw.streams.Reliable) (number : Nat) (controller : Controller)
    (ports : List Nat) : ∀ (globals : Globals) (new : List Place), Scanning base new globals →
      (base ++ new).length + (portPlaces number controller ports).length ≤ BOBAOS_MAX_DISKS →
      Meets (scanPorts hw number controller ports (numbers base new) (base ++ new).length) globals
        (fun _ => False) fun result after =>
          result = (numbers base (new ++ portPlaces number controller ports),
            (base ++ (new ++ portPlaces number controller ports)).length, true) ∧
          Scanning base (new ++ portPlaces number controller ports) after := by
  induction ports with
  | nil =>
    intro globals new scanning _
    have none : portPlaces number controller [] = [] := rfl
    rw [none, List.append_nil]
    exact .pure ⟨rfl, scanning⟩
  | cons i rest ih =>
    intro globals new scanning few
    rw [scanPorts, meets_ite]
    constructor
    · intro there
      have shape : portPlaces number controller (i :: rest) =
          .sata number i :: portPlaces number controller rest := by
        rw [portPlaces, List.filter_cons_of_pos there]
        rfl
      rw [shape, List.length_cons] at few
      rw [shape]
      have small : (base ++ new).length < 2 ^ 8 := by
        rw [BOBAOS_MAX_DISKS] at few
        omega
      apply (kzalloc_meets reliable _).bind
      rintro _ _ ⟨rfl, rfl⟩
      rw [if_pos rfl]
      apply (createDisk_meets reliable (scanning.calls _) small number i).bind
      rintro _ after ⟨rfl, grown⟩
      have room : (numbers base new).length < BOBAOS_MAX_DISKS := by
        rw [numbers, List.length_range']
        rw [List.length_append] at few
        omega
      have next : ((base ++ new).length + 1) % 2 ^ 16 = (base ++ new).length + 1 :=
        Nat.mod_eq_of_lt (by omega)
      simp only
      rw [if_pos room, ← numbers_concat base new (.sata number i), next,
        ← length_concat base new (.sata number i)]
      have law := ih after (new ++ [.sata number i]) grown (by rw [length_concat]; omega)
      rw [List.append_assoc new] at law
      exact law
    · intro absent
      have shape : portPlaces number controller (i :: rest) = portPlaces number controller rest := by
        rw [portPlaces, List.filter_cons_of_neg absent]
        rfl
      rw [shape] at few ⊢
      exact ih globals new scanning few

/-- The AHCI driver creates the disks of its places. -/
theorem scanControllers_meets (reliable : hw.streams.Reliable) (controllers : List (Controller × Nat)) :
    ∀ (globals : Globals) (new : List Place), Scanning base new globals →
      (base ++ new).length + (controllerPlaces controllers).length ≤ BOBAOS_MAX_DISKS →
      Meets (scanControllers hw controllers (numbers base new) (base ++ new).length) globals
        (fun _ => False) fun found after =>
          found = numbers base (new ++ controllerPlaces controllers) ∧
          Scanning base (new ++ controllerPlaces controllers) after := by
  induction controllers with
  | nil =>
    intro globals new scanning _
    have none : controllerPlaces [] = [] := rfl
    rw [none, List.append_nil]
    exact .pure ⟨rfl, scanning⟩
  | cons entry rest ih =>
    obtain ⟨controller, number⟩ := entry
    intro globals new scanning few
    rw [scanControllers, meets_ite]
    rw [controllerPlaces] at few ⊢
    refine ⟨fun io => ?_, fun memory => ?_⟩
    · rw [if_pos io] at few ⊢
      exact ih globals new scanning few
    rw [if_neg memory] at few ⊢
    rw [meets_ite]
    refine ⟨fun mapped => ?_, fun refused => ?_⟩
    · rw [if_pos mapped] at few ⊢
      rw [meets_ite]
      refine ⟨fun mode => ?_, fun legacy => ?_⟩
      · rw [if_pos mode] at few ⊢
        have total : (portPlaces number controller (List.range 32) ++ controllerPlaces rest).length =
            (portPlaces number controller (List.range 32)).length + (controllerPlaces rest).length :=
          List.length_append
        rw [total] at few
        apply (scanPorts_meets reliable number controller _ globals new scanning (by omega)).bind
        rintro ⟨found, nextId, goesOn⟩ after ⟨result, scanned⟩
        obtain ⟨rfl, others⟩ := Prod.mk.inj result
        obtain ⟨rfl, rfl⟩ := Prod.mk.inj others
        simp only
        rw [if_pos trivial]
        have law := ih after _ scanned (by
          rw [List.length_append, List.length_append]
          rw [List.length_append] at few
          omega)
        rw [List.append_assoc] at law
        exact law
      · rw [if_neg legacy] at few ⊢
        exact ih globals new scanning few
    · rw [if_neg refused] at few ⊢
      rw [List.append_nil]
      exact .pure ⟨rfl, scanning⟩

theorem getInfo_meets (reliable : hw.streams.Reliable) (place : Place) :
    Meets (getInfo hw place) globals (fun _ => False) fun _ after =>
      after = { globals with calls := globals.calls + 1 } := by
  cases place with
  | legacy port =>
    apply (kzalloc_meets reliable 42).bind
    rintro _ _ ⟨rfl, rfl⟩
    exact .pure rfl
  | sata controller port =>
    apply (kzalloc_meets reliable 512).bind
    rintro _ _ ⟨rfl, rfl⟩
    exact .pure rfl

/-- One more disk is put into the list. -/
theorem insertDisk_meets {found : List Place} (numbered : Numbered found globals)
    (room : globals.currentDisk < BOBAOS_MAX_DISKS) :
    Meets (insertDisk globals.currentDisk) globals (fun _ => False) fun ret after =>
      ret = 0 ∧ Numbered found after ∧ after.currentDisk = globals.currentDisk + 1 ∧
        after.disks = globals.disks := by
  rw [insertDisk, meets_bind, meets_get, meets_ite]
  refine ⟨fun full => absurd full (Nat.ne_of_lt room), fun _ => ?_⟩
  rw [meets_bind, meets_set]
  refine .pure ⟨rfl, ⟨numbered.created, numbered.disk, ?_, numbered.owned⟩, rfl, rfl⟩
  intro k
  by_cases here : k = globals.currentDisk
  · subst here
    simp
  · have same : (k < globals.currentDisk + 1) = (k < globals.currentDisk) :=
      propext ⟨by omega, by omega⟩
    simp only [Function.update_of_ne here, same]
    exact numbered.listed k

/-- The disks found are inserted in the order of their numbers. -/
theorem insertFound_meets (reliable : hw.streams.Reliable) {found : List Place} (count : Nat) :
    ∀ (globals : Globals), Numbered found globals → Unsearched globals.currentDisk globals →
      globals.currentDisk + count ≤ BOBAOS_MAX_DISKS →
      Meets (insertFound hw (List.range' globals.currentDisk count)) globals (fun _ => False)
        fun _ after => Numbered found after ∧ after.currentDisk = globals.currentDisk + count ∧
          Unsearched (globals.currentDisk + count) after := by
  induction count with
  | zero =>
    intro globals numbered unsearched _
    exact .pure ⟨numbered, rfl, unsearched⟩
  | succ count ih =>
    intro globals numbered unsearched few
    rw [List.range'_succ, insertFound, meets_bind, meets_get]
    apply (getInfo_meets reliable _).bind
    rintro size _ rfl
    rw [meets_bind, meets_modify]
    have fresh := unsearched globals.currentDisk (Nat.le_refl _)
    have sized : Around globals.currentDisk globals { globals with
        calls := globals.calls + 1
        disks := Function.update globals.disks globals.currentDisk
          { globals.disks globals.currentDisk with size } } := by
      refine ⟨rfl, rfl, rfl, fun other different => Function.update_of_ne different _ _, ?_, ?_⟩
      · simp
      · simp
    have kept := numbered.around sized (by simp [fresh])
    apply (checkDiskPartition_numbered reliable kept (by simpa using fresh)).bind
    rintro _ checked ⟨searched, around⟩
    have around := sized.trans around
    have same : globals.currentDisk = checked.currentDisk := around.currentDisk.symm
    rw [same] at few ⊢
    apply (insertDisk_meets searched (by omega)).bind
    rintro _ inserted ⟨rfl, listed, current, disks⟩
    rw [meets_ite]
    refine ⟨fun negative => absurd negative (by decide), fun _ => ?_⟩
    have rest : Unsearched inserted.currentDisk inserted := by
      intro k behind
      rw [current, ← same] at behind
      rw [disks, around.others k (by omega)]
      exact unsearched k (by omega)
    have law := ih inserted listed rest (by rw [current]; omega)
    rw [current] at law
    have total : checked.currentDisk + (count + 1) = checked.currentDisk + 1 + count := by omega
    rw [total]
    exact law

/-- Both scans number the disks found in order. -/
theorem scanDisks_meets (reliable : hw.streams.Reliable)
    (few : (places hw).length ≤ BOBAOS_MAX_DISKS) (calls : Nat) :
    Meets (scanDisks hw) (boot calls) (fun _ => False) fun _ after =>
      Numbered (places hw) after ∧ after.currentDisk = (places hw).length := by
  have total : (places hw).length = (legacyPlaces hw).length + (sataPlaces hw).length :=
    List.length_append
  rw [total] at few
  have start : Scanning [] [] (boot calls) := by
    refine ⟨⟨rfl, ?_, fun _ => rfl, ?_⟩, fun _ _ => rfl, rfl⟩
    · intro k place there
      rw [List.nil_append, List.getElem?_nil] at there
      cases there
    · exact fun _ _ none => absurd none (Nat.not_lt_zero _)
  have legacy : Meets (scanLegacyPorts hw) (boot calls) (fun _ => False) fun _ after =>
      Scanning (legacyPlaces hw) [] after := by
    rw [scanLegacyPorts, meets_ite]
    constructor
    · intro driver
      rw [meets_bind, meets_get]
      apply (scanLegacy_meets reliable driver start).bind
      rintro _ scanned ⟨rfl, scanning⟩
      have current : scanned.currentDisk = 0 := scanning.listed
      have unsearched : Unsearched scanned.currentDisk scanned := by
        rw [current]
        exact scanning.unsearched
      have law := insertFound_meets reliable (legacyPlaces hw).length scanned scanning.numbered
        unsearched (by omega)
      rw [current, Nat.zero_add] at law
      exact law.mono fun _ after all =>
        ⟨by rw [List.append_nil]; exact all.1, all.2.2, all.2.1⟩
    · intro absent
      have none : legacyPlaces hw = [] := by rw [legacyPlaces, if_neg absent]
      rw [none]
      exact .pure start
  rw [scanDisks]
  apply legacy.bind
  intro _ between scanning
  rw [scanSata, meets_ite]
  constructor
  · intro driver
    have shape : sataPlaces hw = controllerPlaces hw.controllers.zipIdx := by
      rw [sataPlaces, if_pos driver]
    rw [shape] at few
    rw [meets_bind, meets_get, scanning.listed]
    have law := scanControllers_meets reliable hw.controllers.zipIdx between [] scanning (by
      rw [List.append_nil]
      exact few)
    rw [List.append_nil] at law
    apply law.bind
    rintro _ scanned ⟨rfl, scanning⟩
    rw [List.nil_append] at scanning ⊢
    have current : scanned.currentDisk = (legacyPlaces hw).length := scanning.listed
    have unsearched : Unsearched scanned.currentDisk scanned := by
      rw [current]
      exact scanning.unsearched
    have law := insertFound_meets reliable (controllerPlaces hw.controllers.zipIdx).length scanned
      scanning.numbered unsearched (by omega)
    rw [current] at law
    refine law.mono fun _ after all => ⟨?_, ?_⟩
    · rw [places, shape]
      exact all.1
    · rw [total, shape]
      exact all.2.1
  · intro absent
    have none : sataPlaces hw = [] := by rw [sataPlaces, if_neg absent]
    rw [places, none, List.append_nil]
    refine .pure ⟨?_, scanning.listed⟩
    have numbered := scanning.numbered
    rwa [List.append_nil] at numbered

end Scans

/-! ## The boot disk -/

section KernelDisk

/-- What is read of the disk found at a place has the boot signature. -/
def seen (hw : Hardware) (place : Place) : Bool := signed (hw.contents (attached place))

/-- The disks are in the list in order, but for the m-th one and the first, and each
has the number of its place. -/
structure Placed (m count : Nat) (globals : Globals) : Prop where
  current : globals.currentDisk = count
  listed : ∀ k < count, globals.diskList k = some (Equiv.swap 0 m k)
  ids : ∀ d < count, (globals.disks d).id = Equiv.swap 0 m d
  owned : ∀ d k, k < (globals.disks d).partitionCount →
    ((globals.disks d).partition k).disk = some d

theorem signed_congr {left right : Nat → UInt8} (same : ∀ i < 512, left i = right i) :
    signed left = signed right := by
  rw [signed, signed, same 442 (by decide), same 443 (by decide), same 444 (by decide),
    same 445 (by decide)]

/-- The loop ends at the first disk that is seen to have the signature. -/
theorem findKernelDiskFrom_meets (reliable : hw.streams.Reliable) {found : List Place}
    (few : found.length ≤ BOBAOS_MAX_DISKS) (left : Nat) :
    ∀ (globals : Globals) (i : Nat), Numbered found globals → globals.currentDisk = found.length →
      i + left = found.length →
      Meets (findKernelDiskFrom hw left i) globals (fun _ => False) fun _ after =>
        Placed ((((found.drop i).findIdx? (seen hw)).map (· + i)).getD 0) found.length after := by
  induction left with
  | zero =>
    intro globals i numbered current whole
    have none : found.drop i = [] := List.drop_eq_nil_of_le (by omega)
    rw [none]
    refine .pure ⟨current, ?_, ?_, numbered.owned⟩
    · intro k inside
      rw [numbered.listed, current, if_pos inside]
      simp
    · intro d inside
      obtain ⟨-, id⟩ := numbered.disk d _ (List.getElem?_eq_getElem inside)
      rw [id]
      simp
  | succ left ih =>
    intro globals i numbered current whole
    have inside : i < found.length := by omega
    have listed : globals.diskList i = some i := by
      rw [numbered.listed, current, if_pos inside]
    obtain ⟨place, -⟩ := numbered.disk i _ (List.getElem?_eq_getElem inside)
    rw [findKernelDiskFrom, meets_bind, meets_get, listed]
    simp only
    rw [meets_bind, meets_get]
    apply (readFirstSector_meets reliable _).bind
    rintro ⟨code, buff⟩ _ ⟨-, data, rfl⟩
    have shown : signed buff = seen hw (found[i]) := by
      rw [seen, ← place]
      exact signed_congr data
    simp only
    rw [shown, List.drop_eq_getElem_cons inside, List.findIdx?_cons, meets_ite]
    constructor
    · intro here
      rw [if_pos here, Option.map_some, Option.getD_some, Nat.zero_add]
      by_cases first : i = 0
      · subst first
        simp only [ne_eq, not_true_eq_false, if_false]
        refine .pure ⟨current, ?_, ?_, numbered.owned⟩
        · intro k small
          simp only [numbered.listed, current, if_pos small, Equiv.swap_self, Equiv.refl_apply]
        · intro d small
          obtain ⟨-, id⟩ := numbered.disk d _ (List.getElem?_eq_getElem small)
          simpa using id
      · have head : globals.diskList 0 = some 0 := by
          rw [numbered.listed, current, if_pos (by omega)]
        rw [if_pos first, meets_bind, meets_get]
        simp only [head]
        simp only [meets_bind, meets_modify]
        have narrow : i % 2 ^ 8 = i := by
          rw [BOBAOS_MAX_DISKS] at few
          exact Nat.mod_eq_of_lt (by omega)
        refine .pure ⟨current, ?_, ?_, ?_⟩
        · intro k small
          by_cases last : k = i
          · subst last
            simp
          · by_cases zero : k = 0
            · subst zero
              simp [Function.update_of_ne last]
            · simp only [Function.update_of_ne last, Function.update_of_ne zero,
                Equiv.swap_apply_of_ne_of_ne zero last, numbered.listed, current, if_pos small]
        · intro d small
          by_cases zero : d = 0
          · subst zero
            simpa using narrow
          · by_cases last : d = i
            · subst last
              simp [Function.update_of_ne zero]
            · obtain ⟨-, id⟩ := numbered.disk d _ (List.getElem?_eq_getElem small)
              simp only [Function.update_of_ne last, Function.update_of_ne zero,
                Equiv.swap_apply_of_ne_of_ne zero last, id]
        · intro d k
          by_cases zero : d = 0
          · subst zero
            simp only [Function.update_self, Function.update_of_ne (Ne.symm first)]
            exact numbered.owned 0 k
          · by_cases last : d = i
            · subst last
              simp only [Function.update_self, Function.update_of_ne zero]
              exact numbered.owned d k
            · simp only [Function.update_of_ne last, Function.update_of_ne zero]
              exact numbered.owned d k
    · intro not_here
      rw [if_neg not_here, Option.map_map]
      have law := ih { globals with calls := globals.calls + 1 } (i + 1)
        ⟨numbered.created, numbered.disk, numbered.listed, numbered.owned⟩ current (by omega)
      have shift : ((fun j => j + i) ∘ fun j => j + 1) = fun j => j + (i + 1) := by
        funext j
        exact Nat.add_right_comm j 1 i
      rw [shift]
      exact law

/-- Both scans and the search for the boot disk. -/
theorem findKernelDisk_meets (reliable : hw.streams.Reliable)
    (few : (places hw).length ≤ BOBAOS_MAX_DISKS) (calls : Nat) :
    Meets (do scanDisks hw; findKernelDisk hw) (boot calls) (fun _ => False) fun _ after =>
      Placed (((places hw).findIdx? (seen hw)).getD 0) (places hw).length after := by
  apply (scanDisks_meets reliable few calls).bind
  rintro _ scanned ⟨numbered, current⟩
  rw [findKernelDisk, meets_bind, meets_get, current]
  have law := findKernelDiskFrom_meets reliable few (places hw).length scanned 0 numbered current
    (Nat.zero_add _)
  rw [List.drop_zero] at law
  simpa using law

/-- The first sector of the disk at a place has the boot signature. -/
def hasSignature (hw : Hardware) (place : Place) : Bool := signed (hw.contents place)

def legacyFound (hw : Hardware) (port : Nat) : Bool := hw.legacyDriver && ataPioProbePort hw port

/-- The disk at the second legacy port and the first sector read at the first port
both have the signature or both lack it. If not, a disk at the first port has it, or
there is none there and no SATA disk has it. -/
def SecondDiskFits (hw : Hardware) : Prop :=
  legacyFound hw 0x170 = true →
    hasSignature hw (.legacy 0x170) = hasSignature hw (.legacy 0x1F0) ∨
      if legacyFound hw 0x1F0 then hasSignature hw (.legacy 0x1F0) = true
      else ∀ place ∈ sataPlaces hw, hasSignature hw place = false

theorem attached_controllerPlaces (controllers : List (Controller × Nat)) :
    (controllerPlaces controllers).map attached = controllerPlaces controllers := by
  induction controllers with
  | nil => rfl
  | cons entry rest ih =>
    have ports (controller : Controller) (number : Nat) :
        (portPlaces number controller (List.range 32)).map attached =
          portPlaces number controller (List.range 32) := by
      rw [portPlaces, List.map_map]
      rfl
    rw [controllerPlaces]
    split_ifs
    · exact ih
    · rw [List.map_append, ports, ih]
    · exact ih
    · rfl

/-- What is read of a SATA disk is what it has. -/
theorem findIdx_sataPlaces (hw : Hardware) :
    (sataPlaces hw).findIdx? (seen hw) = (sataPlaces hw).findIdx? (hasSignature hw) := by
  have same : (sataPlaces hw).map attached = sataPlaces hw := by
    rw [sataPlaces]
    split
    · exact attached_controllerPlaces _
    · rfl
  have law : ((sataPlaces hw).map attached).findIdx? (hasSignature hw) =
      (sataPlaces hw).findIdx? (seen hw) := by
    rw [List.findIdx?_map]
    rfl
  rw [← law, same]

/-- The disk that comes first is the first one with the signature, if there is one,
exactly when the second legacy disk fits. -/
theorem first_signed_iff (hw : Hardware) :
    (∀ m, (places hw).findIdx? (hasSignature hw) = some m →
      ((places hw).findIdx? (seen hw)).getD 0 = m) ↔ SecondDiskFits hw := by
  have sata := findIdx_sataPlaces hw
  have none_signed : (∀ place ∈ sataPlaces hw, hasSignature hw place = false) ↔
      (sataPlaces hw).findIdx? (hasSignature hw) = none := by
    rw [List.findIdx?_eq_none_iff]
  have seen_second : seen hw (.legacy 0x170) = hasSignature hw (.legacy 0x1F0) := rfl
  have seen_first : seen hw (.legacy 0x1F0) = hasSignature hw (.legacy 0x1F0) := rfl
  rw [SecondDiskFits, none_signed, places, legacyPlaces, legacyFound, legacyFound]
  -- Only a second legacy disk is read at another place than its own.
  by_cases driver : hw.legacyDriver = true
  case neg =>
    simp only [driver, if_false, List.nil_append, sata, Bool.false_and, Bool.false_eq_true,
      false_implies, iff_true]
    intro m found
    rw [found]
    rfl
  by_cases there : ataPioProbePort hw 0x170 = true
  case neg =>
    by_cases before : ataPioProbePort hw 0x1F0 = true
    · simp only [driver, there, before, if_true, if_false, List.append_nil, List.singleton_append,
        List.findIdx?_cons, sata, seen_first, Bool.and_false, Bool.false_eq_true, false_implies,
        iff_true]
      intro m found
      rw [found]
      rfl
    · simp only [driver, there, before, if_true, if_false, List.append_nil, List.nil_append, sata,
        Bool.and_false, Bool.false_eq_true, false_implies, iff_true]
      intro m found
      rw [found]
      rfl
  by_cases before : ataPioProbePort hw 0x1F0 = true
  · simp only [driver, there, before, if_true, List.cons_append, List.nil_append,
      List.findIdx?_cons, sata, seen_first, seen_second, Bool.true_and, true_implies]
    generalize (sataPlaces hw).findIdx? (hasSignature hw) = others
    cases hasSignature hw (.legacy 0x170) <;> cases hasSignature hw (.legacy 0x1F0) <;>
      cases others <;> simp
  · have shape : (if hw.legacyDriver = true then
        (if ataPioProbePort hw 0x1F0 = true then [Place.legacy 0x1F0] else []) ++
          if ataPioProbePort hw 0x170 = true then [Place.legacy 0x170] else []
        else []) ++ sataPlaces hw = .legacy 0x170 :: sataPlaces hw := by
      rw [if_pos driver, if_neg before, if_pos there]
      rfl
    have absent : ataPioProbePort hw 0x1F0 = false := by simpa using before
    rw [shape, List.findIdx?_cons, List.findIdx?_cons, sata, seen_second, driver, there, absent]
    generalize (sataPlaces hw).findIdx? (hasSignature hw) = others
    cases hasSignature hw (.legacy 0x170) <;> cases hasSignature hw (.legacy 0x1F0) <;>
      cases others <;> simp

/-- After both scans and the search for the boot disk, every disk is in the list
once, under its number, and the disk of a partition is opened by its number. The
first place has the first disk with the signature, if there is one, exactly when the
second legacy disk fits. -/
theorem disks_numbered_in_place (reliable : hw.streams.Reliable)
    (few : (places hw).length ≤ BOBAOS_MAX_DISKS) (calls : Nat) : ∃ found after,
    (do scanDisks hw; findKernelDisk hw).run (boot calls) = .ok (found, after) ∧
      after.currentDisk = (places hw).length ∧
      (∀ k < after.currentDisk, ∃ d < (places hw).length,
        after.diskList k = some d ∧ (after.disks d).id = k) ∧
      (∀ d < (places hw).length, ∃! k, k < after.currentDisk ∧ after.diskList k = some d) ∧
      (∀ d < (places hw).length, ∀ k < (after.disks d).partitionCount,
        ((after.disks d).partition k).disk = some d ∧
          diskGet after (after.disks d).id = some d) ∧
      ((∀ m, (places hw).findIdx? (hasSignature hw) = some m → after.diskList 0 = some m) ↔
        SecondDiskFits hw) := by
  obtain ⟨found, after, ran, placed⟩ := (findKernelDisk_meets reliable few calls).returns
  have signed_iff := first_signed_iff hw
  have bounded : (places hw).length ≠ 0 →
      ((places hw).findIdx? (seen hw)).getD 0 < (places hw).length := by
    intro some
    cases first : (places hw).findIdx? (seen hw) with
    | none => exact Nat.pos_of_ne_zero some
    | some m => exact (List.findIdx?_eq_some_iff_getElem.mp first).1
  generalize ((places hw).findIdx? (seen hw)).getD 0 = m at *
  -- The exchange of the first and the m-th disk stays inside the list.
  have inside (k : Nat) (small : k < (places hw).length) :
      Equiv.swap 0 m k < (places hw).length := by
    have m_small := bounded (by omega)
    rw [Equiv.swap_apply_def]
    split_ifs <;> omega
  have current := placed.current
  refine ⟨found, after, ran, current, ?_, ?_, ?_, ?_⟩
  · intro k small
    rw [current] at small
    refine ⟨Equiv.swap 0 m k, inside k small, placed.listed k small, ?_⟩
    rw [placed.ids _ (inside k small), Equiv.swap_apply_self]
  · intro d small
    rw [current]
    refine ⟨Equiv.swap 0 m d, ⟨inside d small, ?_⟩, ?_⟩
    · rw [placed.listed _ (inside d small), Equiv.swap_apply_self]
    · rintro k ⟨k_small, there⟩
      rw [placed.listed k k_small] at there
      rw [← Option.some.inj there, Equiv.swap_apply_self]
  · intro d small k owned
    refine ⟨placed.owned d k owned, ?_⟩
    rw [placed.ids d small, diskGet, current, if_neg (by have := inside d small; omega),
      placed.listed _ (inside d small), Equiv.swap_apply_self]
  · rw [← signed_iff]
    constructor
    · intro first n is_first
      have some : 0 < (places hw).length :=
        Nat.zero_lt_of_lt (List.findIdx?_eq_some_iff_getElem.mp is_first).1
      have here := first n is_first
      rw [placed.listed 0 some, Equiv.swap_apply_left] at here
      exact Option.some.inj here
    · intro first n is_first
      have some : 0 < (places hw).length :=
        Nat.zero_lt_of_lt (List.findIdx?_eq_some_iff_getElem.mp is_first).1
      rw [placed.listed 0 some, Equiv.swap_apply_left, first n is_first]

/-! ### Two legacy disks -/

/-- A driver and a heap that do not fail. -/
def plainStreams : Streams.Environment where
  read _ bytes lba _ := (0, fun offset => bytes (lba * 512 + offset))
  write _ bytes lba total buffer := (0, overwrite bytes (lba * 512) (total * 512) buffer)
  kzalloc _ _ := true

theorem plainStreams_reliable : plainStreams.Reliable where
  exact := ⟨fun _ _ _ _ => Int.le_refl 0, fun _ _ _ _ _ _ _ => rfl, fun _ _ _ _ _ => Int.le_refl 0,
    fun _ _ _ _ _ _ => rfl⟩
  read _ _ _ _ := rfl
  write _ _ _ _ _ := rfl
  kzalloc _ _ := rfl

/-- A sector with the boot signature and nothing else. -/
def bootBytes (offset : Nat) : UInt8 :=
  if offset = 442 then 66 else if offset = 443 then 79 else if offset = 444 then 66
  else if offset = 445 then 65 else 0

/-- Two legacy disks, of which the one at the given port has the signature. -/
def twoDisks (port : Nat) : Hardware where
  streams := plainStreams
  legacyDriver := true
  ahciDriver := false
  status _ := 0x50
  controllers := []
  identify _ := 1000
  contents place := if place = .legacy port then bootBytes else fun _ => 0
  stack _ _ := 0

theorem twoDisks_reliable (port : Nat) : (twoDisks port).streams.Reliable := plainStreams_reliable

/-- The first one has it. -/
theorem first_disk_boots : ∃ found after,
    (do scanDisks (twoDisks 0x1F0); findKernelDisk (twoDisks 0x1F0)).run (boot 0) =
        .ok (found, after) ∧
      after.currentDisk = 2 ∧ after.diskList 0 = some 0 := by
  obtain ⟨found, after, ran, current, -, -, -, fits⟩ :=
    disks_numbered_in_place (twoDisks_reliable 0x1F0) (by decide) 0
  have second : SecondDiskFits (twoDisks 0x1F0) := by
    intro _
    right
    decide
  exact ⟨found, after, ran, current, fits.mpr second 0 (by decide)⟩

/-- The second one has it, but stays behind the first. -/
theorem second_disk_overlooked :
    ¬ ∀ (hw : Hardware), hw.streams.Reliable → (places hw).length ≤ BOBAOS_MAX_DISKS →
      ∀ calls, ∃ found after,
        (do scanDisks hw; findKernelDisk hw).run (boot calls) = .ok (found, after) ∧
          ∀ m, (places hw).findIdx? (hasSignature hw) = some m → after.diskList 0 = some m := by
  intro claim
  obtain ⟨found, after, ran, first⟩ := claim (twoDisks 0x170) (twoDisks_reliable 0x170) (by decide) 0
  have placed := (findKernelDisk_meets (twoDisks_reliable 0x170) (by decide) 0).returned ran
  have none_seen : ((places (twoDisks 0x170)).findIdx? (seen (twoDisks 0x170))).getD 0 = 0 := by
    decide
  rw [none_seen] at placed
  have one := first 1 (by decide)
  rw [placed.listed 0 (by decide)] at one
  exact absurd (Option.some.inj one) (by decide)

end KernelDisk

end BobaOS.Disks
