import BobaOS.Disk.DiskIds

/-!
# The labels of the partitions

The partitions get the labels from `C` on in the order in which they are found, and
the list of partitions is to be indexed by the label. But the index is taken the
wrong way round, so that the lookup of every label behind `C` is outside the list,
and every table of a disk is listed as the first one. With one partition in all
none of this shows.

The laws hold for any answers of the hardware: a table is one that a scan has seen
in a sector buffer.
-/

namespace BobaOS.Disks

open ByteStore Programs

variable {hw : Hardware} {globals after : Globals}

/-- The tables of a sector buffer, among the given ones, that are marked active. -/
def activeAmong (sectorBuffer : Nat → UInt8) (tables : List Nat) : Nat :=
  tables.countP fun i => bootable sectorBuffer i = MBR_ACTIVE_FLAG

/-- The active tables that the scans have seen. -/
def tablesSeen (globals : Globals) : Nat :=
  (globals.scanned.map fun sectorBuffer => activeAmong sectorBuffer (List.range 4)).sum

def partitionCounts (globals : Globals) (disk : Nat) : Nat := (globals.disks disk).partitionCount

def labelOf (globals : Globals) (partition : Nat × Nat) : Int8 :=
  ((globals.disks partition.1).partition partition.2).label

/-- The partition belongs to a disk. -/
def Registered (globals : Globals) (partition : Nat × Nat) : Prop :=
  partition.2 < partitionCounts globals partition.1

/-- Each partition has its own label and is found under it. Any other label is not
assigned, and is looked up without leaving the list. -/
def LabelsAssigned (globals : Globals) : Prop :=
  (∀ left right, Registered globals left → Registered globals right →
    labelOf globals left = labelOf globals right → left = right) ∧
  ∀ label,
    (∃ partition, Registered globals partition ∧ labelOf globals partition = label ∧
      partitionGetByVolumeLabel globals label = .ok (some partition)) ∨
    ((∀ partition, Registered globals partition → labelOf globals partition ≠ label) ∧
      partitionGetByVolumeLabel globals label = .ok none)

/-! ## Partitions that are labelled in order -/

/-- That many tables have been registered, and the disks have these numbers of
partitions. -/
structure Labelled (total : Nat) (counts : Nat → Nat) (globals : Globals) : Prop where
  counted : globals.currentPartition = total
  next : globals.currentPartitionLabel.toInt = 67 + total
  within : ∀ disk k, k < counts disk → 67 ≤ (labelOf globals (disk, k)).toInt ∧
    (labelOf globals (disk, k)).toInt < 67 + total
  vacant : ∀ i, total ≤ i → globals.partitionList i = none
  first : 0 < total → globals.partitionList 0 ≠ none
  single : total = 1 → ∃ disk, globals.partitionList 0 = some (disk, 0) ∧
    counts = Function.update (fun _ => 0) disk 1

/-- No partition belongs to a disk that is not there, and up to 24 tables are
labelled in order. -/
structure Sound (globals : Globals) : Prop where
  unused : ∀ disk, globals.created ≤ disk → partitionCounts globals disk = 0
  labelled : tablesSeen globals ≤ 24 →
    Labelled (tablesSeen globals) (partitionCounts globals) globals

theorem Labelled.no_counts {total : Nat} {counts : Nat → Nat}
    (labelled : Labelled total counts globals) (empty : total = 0) (disk : Nat) :
    counts disk = 0 := by
  by_contra some
  have within := labelled.within disk 0 (Nat.pos_of_ne_zero some)
  omega

/-- The labels and the list have not changed. -/
structure Kept (counts : Nat → Nat) (before after : Globals) : Prop where
  partitionList : after.partitionList = before.partitionList
  currentPartition : after.currentPartition = before.currentPartition
  currentPartitionLabel : after.currentPartitionLabel = before.currentPartitionLabel
  labels : ∀ disk k, k < counts disk → labelOf after (disk, k) = labelOf before (disk, k)

theorem Labelled.kept {total : Nat} {counts : Nat → Nat} (labelled : Labelled total counts globals)
    (kept : Kept counts globals after) : Labelled total counts after where
  counted := kept.currentPartition.trans labelled.counted
  next := by
    rw [kept.currentPartitionLabel]
    exact labelled.next
  within disk k small := by
    rw [kept.labels disk k small]
    exact labelled.within disk k small
  vacant := by
    rw [kept.partitionList]
    exact labelled.vacant
  first := by
    rw [kept.partitionList]
    exact labelled.first
  single := by
    rw [kept.partitionList]
    exact labelled.single

theorem Sound.kept (sound : Sound globals) (kept : Kept (partitionCounts globals) globals after)
    (counts : partitionCounts after = partitionCounts globals)
    (scanned : after.scanned = globals.scanned) (created : globals.created ≤ after.created) :
    Sound after where
  unused disk absent := by
    rw [counts]
    exact sound.unused disk (Nat.le_trans created absent)
  labelled few := by
    rw [tablesSeen, scanned] at few ⊢
    rw [counts]
    exact (sound.labelled few).kept kept

/-- Calls of the heap and the drivers do not matter. -/
theorem Sound.calls (sound : Sound globals) (calls : Nat) : Sound { globals with calls } :=
  sound.kept ⟨rfl, rfl, rfl, fun _ _ _ => rfl⟩ rfl rfl (Nat.le_refl _)

/-- A change of a disk that leaves its partitions alone keeps all labels. -/
theorem Kept.update (counts : Nat → Nat) {disk : Nat} {record : Disk}
    (partition : record.partition = (globals.disks disk).partition) :
    Kept counts globals { globals with disks := Function.update globals.disks disk record } := by
  refine ⟨rfl, rfl, rfl, ?_⟩
  intro other k _
  by_cases here : other = disk
  · subst here
    simp [labelOf, partition]
  · simp [labelOf, here]

theorem partitionCounts_update (disk : Nat) (record : Disk) :
    partitionCounts { globals with disks := Function.update globals.disks disk record } =
      Function.update (partitionCounts globals) disk record.partitionCount := by
  funext other
  by_cases here : other = disk
  · subst here
    simp [partitionCounts]
  · simp [partitionCounts, here]

theorem Sound.update (sound : Sound globals) (disk : Nat) (record : Disk)
    (count : record.partitionCount = (globals.disks disk).partitionCount)
    (partition : record.partition = (globals.disks disk).partition) :
    Sound { globals with disks := Function.update globals.disks disk record } := by
  have counts : partitionCounts { globals with disks := Function.update globals.disks disk record } =
      partitionCounts globals := by
    rw [partitionCounts_update, count]
    exact Function.update_eq_self disk (partitionCounts globals)
  exact sound.kept (.update _ partition) counts rfl (Nat.le_refl _)

/-! ## The scans -/

section Scans

theorem kzalloc_calls (size : Nat) {fault : Fault → Prop} :
    Meets (kzalloc hw size) globals fault fun _ after =>
      after = { globals with calls := globals.calls + 1 } := by
  rw [kzalloc, meets_bind, meets_get, meets_bind, meets_set]
  exact .pure rfl

/-- The partitions stay labelled, and the disks found are there. -/
structure Found (found : List Nat) (globals : Globals) : Prop where
  sound : Sound globals
  there : ∀ disk ∈ found, disk < globals.created

variable {found : List Nat}

theorem Found.calls (all : Found found globals) (calls : Nat) :
    Found found { globals with calls } := ⟨all.sound.calls calls, all.there⟩

theorem Found.sublist {fewer : List Nat} (all : Found found globals)
    (sublist : fewer ⊆ found) : Found fewer globals :=
  ⟨all.sound, fun disk member => all.there disk (sublist member)⟩

/-- A new disk has no partitions. -/
theorem newDisk_found (all : Found found globals) (id : Nat) (place : Place) :
    Meets (newDisk id place) globals (fun _ => True) fun disk after =>
      Found (found ++ [disk]) after := by
  rw [newDisk, meets_bind, meets_get, meets_bind, meets_set]
  have unused := all.sound.unused globals.created (Nat.le_refl _)
  refine .pure ⟨all.sound.kept ⟨rfl, rfl, rfl, ?_⟩ ?_ rfl (Nat.le_succ _), ?_⟩
  · intro disk k small
    have here : disk ≠ globals.created := by
      rintro rfl
      omega
    simp [labelOf, here]
  · funext disk
    by_cases here : disk = globals.created
    · subst here
      simpa [partitionCounts, freshDisk] using unused.symm
    · simp [partitionCounts, here]
  · intro disk member
    rcases List.mem_append.mp member with old | new
    · exact Nat.lt_succ_of_lt (all.there disk old)
    · rw [List.mem_singleton.mp new]
      exact Nat.lt_succ_self _

theorem createAndAttachDisk_found (all : Found found globals) (id base : Nat) :
    Meets (createAndAttachDisk hw id base) globals (fun _ => True) fun disk after =>
      Found (found ++ disk.toList) after := by
  rw [createAndAttachDisk]
  apply (kzalloc_calls _).bind
  rintro disk _ rfl
  apply (kzalloc_calls _).bind
  rintro priv _ rfl
  have all := (all.calls (globals.calls + 1)).calls (globals.calls + 2)
  rw [meets_ite]
  constructor
  · intro _
    apply (kzalloc_calls _).bind
    rintro driver _ rfl
    rw [meets_ite]
    constructor
    · intro _
      apply (newDisk_found (all.calls _) _ _).bind
      intro disk after grown
      exact .pure grown
    · intro _
      exact .pure (by simpa using all.calls _)
  · intro _
    exact .pure (by simpa using all)

theorem createDisk_found (all : Found found globals) (id controller port : Nat) :
    Meets (createDisk hw id controller port) globals (fun _ => True) fun disk after =>
      Found (found ++ disk.toList) after := by
  rw [createDisk]
  apply (kzalloc_calls _).bind
  rintro disk _ rfl
  have all := all.calls (globals.calls + 1)
  rw [meets_ite]
  constructor
  · intro _
    apply (kzalloc_calls _).bind
    rintro priv _ rfl
    have all := all.calls (globals.calls + 2)
    rw [meets_ite]
    constructor
    · intro _
      apply (kzalloc_calls _).bind
      rintro driver _ rfl
      rw [meets_ite]
      constructor
      · intro _
        apply (newDisk_found (all.calls _) _ _).bind
        intro disk after grown
        exact .pure grown
      · intro _
        exact .pure (by simpa using all.calls _)
    · intro _
      exact .pure (by simpa using all)
  · intro _
    exact .pure (by simpa using all)

theorem scanSlave_found (all : Found found globals) (nextId : Nat) :
    Meets (scanSlave hw found nextId) globals (fun _ => True) Found := by
  rw [scanSlave, meets_ite]
  constructor
  · intro _
    apply (createAndAttachDisk_found all _ _).bind
    intro disk after grown
    cases disk with
    | none => exact .pure (by simpa using grown)
    | some disk => exact .pure grown
  · intro _
    exact .pure all

theorem scanLegacy_found (sound : Sound globals) (nextId : Nat) :
    Meets (scanLegacy hw nextId) globals (fun _ => True) Found := by
  have none_found : Found [] globals := ⟨sound, fun _ member => absurd member List.not_mem_nil⟩
  rw [scanLegacy, meets_ite]
  constructor
  · intro _
    apply (createAndAttachDisk_found none_found _ _).bind
    intro disk after grown
    cases disk with
    | none => exact .pure grown
    | some disk => exact scanSlave_found grown _
  · intro _
    exact scanSlave_found none_found _

theorem scanPorts_found (number : Nat) (controller : Controller) (ports : List Nat) :
    ∀ (found : List Nat) (nextId : Nat) (globals : Globals), Found found globals →
      Meets (scanPorts hw number controller ports found nextId) globals (fun _ => True)
        fun value after => Found value.1 after := by
  induction ports with
  | nil =>
    intro found nextId globals all
    exact .pure all
  | cons i rest ih =>
    intro found nextId globals all
    rw [scanPorts, meets_ite]
    constructor
    · intro _
      apply (kzalloc_calls _).bind
      rintro some _ rfl
      have all := all.calls (globals.calls + 1)
      rw [meets_ite]
      constructor
      · intro _
        apply (createDisk_found all _ _ _).bind
        intro disk after grown
        cases disk with
        | none => exact .pure (by simpa using grown)
        | some disk =>
          simp only [meets_ite]
          exact ⟨fun _ => ih _ _ _ grown, fun _ => .throw trivial⟩
      · intro _
        exact .pure all
    · intro _
      exact ih _ _ _ all

theorem scanControllers_found (controllers : List (Controller × Nat)) :
    ∀ (found : List Nat) (nextId : Nat) (globals : Globals), Found found globals →
      Meets (scanControllers hw controllers found nextId) globals (fun _ => True) Found := by
  induction controllers with
  | nil =>
    intro found nextId globals all
    exact .pure all
  | cons first rest ih =>
    obtain ⟨controller, number⟩ := first
    intro found nextId globals all
    rw [scanControllers, meets_ite]
    refine ⟨fun _ => ih _ _ _ all, fun _ => ?_⟩
    rw [meets_ite]
    refine ⟨fun _ => ?_, fun _ => .pure all⟩
    rw [meets_ite]
    refine ⟨fun _ => ?_, fun _ => ih _ _ _ all⟩
    apply (scanPorts_found number controller _ _ _ _ all).bind
    rintro ⟨found, nextId, goesOn⟩ after grown
    simp only [meets_ite]
    exact ⟨fun _ => ih _ _ _ grown, fun _ => .pure grown⟩

end Scans

/-! ## The tables -/

section Tables

/-- The numbers of partitions while a disk is searched. The disk gets its number
when the search has found one. -/
def countsWith (counts : Nat → Nat) (disk count : Nat) : Nat → Nat :=
  if count = 0 then counts else Function.update counts disk count

/-- A table gets the next label and the next place of the list. -/
theorem Labelled.register {total count disk : Nat} {counts : Nat → Nat}
    (labelled : Labelled total (countsWith counts disk count) globals) (few : total < 24)
    (sectorBuffer : Nat → UInt8) (i : Nat) :
    Labelled (total + 1) (countsWith counts disk (count + 1))
      (registerPartition disk sectorBuffer i count globals) where
  counted := congrArg Nat.succ labelled.counted
  next := by
    have next := labelled.next
    have step : (globals.currentPartitionLabel + 1).toInt = 67 + total + 1 := by
      rw [Int8.toInt_add, next, Int8.toInt_one, Int.bmod_def]
      omega
    simp only [registerPartition, step]
    omega
  within other k small := by
    have next := labelled.next
    have within := labelled.within other k
    by_cases here : other = disk
    · subst here
      by_cases last : k = count
      · subst last
        simp only [labelOf, registerPartition, Function.update_self, next]
        omega
      · have before : k < count := by
          simp only [countsWith, Nat.succ_ne_zero, if_false, Function.update_self] at small
          omega
        have within := within (by
          rw [countsWith, if_neg (by omega), Function.update_self]
          exact before)
        simp only [labelOf, registerPartition, Function.update_self,
          Function.update_of_ne last] at within ⊢
        omega
    · have within := within (by
        simp only [countsWith, Nat.succ_ne_zero, if_false, Function.update_of_ne here] at small
        rw [countsWith]
        split
        · exact small
        · rwa [Function.update_of_ne here])
      simp only [labelOf, registerPartition, Function.update_of_ne here] at within ⊢
      omega
  vacant k behind := by
    have counted := labelled.counted
    simp only [registerPartition]
    rw [Function.update_of_ne (by omega)]
    exact labelled.vacant k (by omega)
  first _ := by
    simp only [registerPartition]
    by_cases start : globals.currentPartition = 0
    · rw [start, Function.update_self]
      exact Option.some_ne_none _
    · rw [Function.update_of_ne (Ne.symm start)]
      exact labelled.first (by rw [← labelled.counted]; omega)
  single one := by
    have counted := labelled.counted
    have none_before := labelled.no_counts (by omega)
    have start : count = 0 := by
      by_contra some
      have here := none_before disk
      rw [countsWith, if_neg some, Function.update_self] at here
      exact some here
    subst start
    refine ⟨disk, ?_, ?_⟩
    · simp only [registerPartition]
      rw [show globals.currentPartition = 0 by omega, Function.update_self]
    · have no_counts : counts = fun _ => 0 := funext none_before
      rw [countsWith, if_neg (by omega), no_counts]

/-- The loop over the tables labels those that are active. -/
theorem checkTables_labelled (disk : Nat) (sectorBuffer : Nat → UInt8) (counts : Nat → Nat)
    (tables : List Nat) :
    ∀ (total count : Nat) (globals : Globals), partitionCounts globals = counts →
      (total + activeAmong sectorBuffer tables ≤ 24 →
        Labelled total (countsWith counts disk count) globals) →
      Meets (checkTables disk sectorBuffer tables count) globals (fun _ => True) fun found after =>
        after.scanned = globals.scanned ∧ after.created = globals.created ∧
          partitionCounts after = counts ∧
          (total + activeAmong sectorBuffer tables ≤ 24 →
            Labelled (total + activeAmong sectorBuffer tables) (countsWith counts disk found)
              after) := by
  induction tables with
  | nil =>
    intro total count globals same labelled
    exact .pure ⟨rfl, rfl, same, labelled⟩
  | cons i rest ih =>
    intro total count globals same labelled
    rw [checkTables, meets_ite]
    constructor
    · intro active
      have more : activeAmong sectorBuffer (i :: rest) = activeAmong sectorBuffer rest + 1 :=
        List.countP_cons_of_pos (by simpa using active)
      rw [more] at labelled ⊢
      rw [meets_bind, meets_get, meets_ite]
      constructor
      · intro full
        refine .pure ⟨rfl, rfl, same, fun few => ?_⟩
        have counted := (labelled few).counted
        rw [counted] at full
        exact absurd full (by simp only [BOBAOS_MAX_DISKS, BOBAOS_MAX_PARTITIONS_PER_DISK]; omega)
      · intro _
        rw [meets_bind, meets_set]
        have unchanged : partitionCounts (registerPartition disk sectorBuffer i count globals) =
            counts := by
          rw [← same]
          funext other
          by_cases here : other = disk
          · subst here
            simp [partitionCounts, registerPartition]
          · simp [partitionCounts, registerPartition, here]
        refine (ih (total + 1) (count + 1) _ unchanged fun few =>
          (labelled (by omega)).register (by omega) sectorBuffer i).mono ?_
        rintro found after ⟨scanned, created, kept, grown⟩
        refine ⟨scanned, created, kept, fun few => ?_⟩
        rw [show total + (activeAmong sectorBuffer rest + 1) =
          total + 1 + activeAmong sectorBuffer rest by omega]
        exact grown (by omega)
    · intro inactive
      have same_count : activeAmong sectorBuffer (i :: rest) = activeAmong sectorBuffer rest :=
        List.countP_cons_of_neg (by simpa using inactive)
      rw [same_count] at labelled ⊢
      exact ih total count globals same labelled

theorem tablesSeen_concat (globals : Globals) (sectorBuffer : Nat → UInt8) :
    tablesSeen { globals with scanned := globals.scanned ++ [sectorBuffer] } =
      tablesSeen globals + activeAmong sectorBuffer (List.range 4) := by
  simp [tablesSeen]

theorem readFirstSector_calls (place : Place) {fault : Fault → Prop} :
    Meets (readFirstSector hw place) globals fault fun _ after =>
      after = { globals with calls := globals.calls + 1 } := by
  rw [readFirstSector, meets_bind, meets_get, meets_bind, meets_set]
  exact .pure rfl

/-- A disk is searched. -/
theorem checkDiskPartition_sound (sound : Sound globals) {disk : Nat}
    (there : disk < globals.created) :
    Meets (checkDiskPartition hw disk) globals (fun _ => True) fun _ after =>
      Sound after ∧ after.created = globals.created := by
  rw [checkDiskPartition, meets_bind, meets_get]
  apply (readFirstSector_calls _).bind
  rintro ⟨code, buff⟩ _ rfl
  simp only
  rw [meets_ite]
  refine ⟨fun _ => .pure ⟨sound.calls _, rfl⟩, fun _ => ?_⟩
  rw [checkMbrPartition, meets_bind, meets_bind, meets_modify]
  have start (few : tablesSeen globals + activeAmong buff (List.range 4) ≤ 24) :
      Labelled (tablesSeen globals) (partitionCounts globals)
        { globals with calls := globals.calls + 1, scanned := globals.scanned ++ [buff] } :=
    (sound.labelled (by omega)).kept ⟨rfl, rfl, rfl, fun _ _ _ => rfl⟩
  have same : partitionCounts
      { globals with calls := globals.calls + 1, scanned := globals.scanned ++ [buff] } =
      partitionCounts globals := rfl
  apply (checkTables_labelled disk buff _ _ (tablesSeen globals) 0 _ same start).mono
  rintro count after ⟨scanned, created, same, labelled⟩
  have seen : tablesSeen after = tablesSeen globals + activeAmong buff (List.range 4) := by
    rw [tablesSeen, scanned]
    exact tablesSeen_concat globals buff
  rw [meets_ite]
  constructor
  · intro some
    rw [meets_bind, meets_modify]
    have counted : partitionCounts { after with
        disks := Function.update after.disks disk
          { after.disks disk with partitionCount := count } } =
        countsWith (partitionCounts globals) disk count := by
      rw [partitionCounts_update, countsWith, if_neg some, same]
    refine .pure ⟨⟨?_, ?_⟩, created⟩
    · intro other absent
      have absent : globals.created ≤ other := created ▸ absent
      rw [counted, countsWith, if_neg some, Function.update_of_ne (by omega)]
      exact sound.unused other absent
    · intro few
      have seen : tablesSeen { after with
          disks := Function.update after.disks disk
            { after.disks disk with partitionCount := count } } =
          tablesSeen globals + activeAmong buff (List.range 4) := seen
      rw [seen] at few ⊢
      rw [counted]
      exact (labelled few).kept (.update _ rfl)
  · intro none_found
    have none_found : count = 0 := not_not.mp none_found
    subst none_found
    refine .pure ⟨⟨?_, ?_⟩, created⟩
    · intro other absent
      rw [same]
      exact sound.unused other (created ▸ absent)
    · intro few
      rw [seen] at few ⊢
      rw [same]
      exact labelled few

end Tables

/-! ## The whole initialization -/

section Initialization

theorem getInfo_calls (place : Place) :
    Meets (getInfo hw place) globals (fun _ => True) fun _ after =>
      after = { globals with calls := globals.calls + 1 } := by
  cases place with
  | legacy port =>
    rw [getInfo]
    apply (kzalloc_calls _).bind
    rintro some _ rfl
    rw [meets_ite]
    exact ⟨fun _ => .pure rfl, fun _ => .throw trivial⟩
  | sata controller port =>
    rw [getInfo]
    apply (kzalloc_calls _).bind
    rintro some _ rfl
    rw [meets_ite]
    exact ⟨fun _ => .pure rfl, fun _ => .pure rfl⟩

/-- What the list of disks holds does not matter. -/
theorem Sound.relist (sound : Sound globals) (diskList : Nat → Option Nat) (currentDisk : Nat) :
    Sound { globals with diskList, currentDisk } :=
  sound.kept ⟨rfl, rfl, rfl, fun _ _ _ => rfl⟩ rfl rfl (Nat.le_refl _)

theorem insertDisk_sound (sound : Sound globals) (disk : Nat) :
    Meets (insertDisk disk) globals (fun _ => True) fun _ after =>
      Sound after ∧ after.created = globals.created := by
  rw [insertDisk, meets_bind, meets_get, meets_ite]
  refine ⟨fun _ => .pure ⟨sound, rfl⟩, fun _ => ?_⟩
  rw [meets_bind, meets_set]
  exact .pure ⟨sound.relist _ _, rfl⟩

theorem insertFound_sound (found : List Nat) :
    ∀ globals : Globals, Found found globals →
      Meets (insertFound hw found) globals (fun _ => True) fun _ after => Sound after := by
  induction found with
  | nil =>
    intro globals all
    exact .pure all.sound
  | cons disk rest ih =>
    intro globals all
    have there := all.there disk List.mem_cons_self
    rw [insertFound, meets_bind, meets_get]
    apply (getInfo_calls _).bind
    rintro size _ rfl
    rw [meets_bind, meets_modify]
    have sized := (all.sound.calls (globals.calls + 1)).update disk
      { globals.disks disk with size } rfl rfl
    apply (checkDiskPartition_sound sized there).bind
    rintro _ searched ⟨sound, created⟩
    apply (insertDisk_sound sound disk).bind
    rintro code listed ⟨sound, kept⟩
    rw [meets_ite]
    refine ⟨fun _ => .pure sound, fun _ => ih listed ⟨sound, ?_⟩⟩
    intro other member
    rw [kept, created]
    exact all.there other (List.mem_cons_of_mem _ member)

theorem scanDisks_sound (sound : Sound globals) :
    Meets (scanDisks hw) globals (fun _ => True) fun _ after => Sound after := by
  have legacy : Meets (scanLegacyPorts hw) globals (fun _ => True) fun _ after => Sound after := by
    rw [scanLegacyPorts, meets_ite]
    refine ⟨fun _ => ?_, fun _ => .pure sound⟩
    rw [meets_bind, meets_get]
    apply (scanLegacy_found sound _).bind
    exact fun found after all => insertFound_sound found after all
  rw [scanDisks]
  apply legacy.bind
  intro _ after sound
  rw [scanSata, meets_ite]
  refine ⟨fun _ => ?_, fun _ => .pure sound⟩
  rw [meets_bind, meets_get]
  apply (scanControllers_found _ _ _ _ ⟨sound, fun _ member => absurd member List.not_mem_nil⟩).bind
  exact fun found after all => insertFound_sound found after all

/-- The exchange of disks changes their numbers and the list of disks. -/
theorem findKernelDiskFrom_sound (left : Nat) :
    ∀ (i : Nat) (globals : Globals), Sound globals →
      Meets (findKernelDiskFrom hw left i) globals (fun _ => True) fun _ after => Sound after := by
  induction left with
  | zero =>
    intro i globals sound
    exact .pure sound
  | succ left ih =>
    intro i globals sound
    rw [findKernelDiskFrom, meets_bind, meets_get]
    cases globals.diskList i with
    | none => exact .pure sound
    | some disk =>
      simp only
      rw [meets_bind, meets_get]
      apply (readFirstSector_calls _).bind
      rintro ⟨code, buff⟩ _ rfl
      have sound := sound.calls (globals.calls + 1)
      simp only
      rw [meets_ite]
      refine ⟨fun _ => ?_, fun _ => ih _ _ sound⟩
      rw [meets_ite]
      refine ⟨fun _ => ?_, fun _ => .pure sound⟩
      rw [meets_bind, meets_get]
      cases globals.diskList 0 with
      | none => exact .throw trivial
      | some tempDisk =>
        simp only
        rw [meets_bind, meets_modify, meets_bind, meets_modify, meets_bind, meets_modify]
        refine .pure (Sound.update (Sound.update (sound.relist _ _) _ _ ?_ ?_) _ _ ?_ ?_)
        all_goals rfl

theorem findKernelDisk_sound (calls : Nat) :
    Meets (do scanDisks hw; findKernelDisk hw) (boot calls) (fun _ => True) fun _ after =>
      Sound after := by
  have sound : Sound (boot calls) := by
    refine ⟨fun _ _ => rfl, fun _ => ⟨rfl, rfl, ?_, fun _ _ => rfl, ?_, ?_⟩⟩
    · exact fun disk k small => absurd small (Nat.not_lt_zero k)
    · exact fun some => absurd some (Nat.lt_irrefl 0)
    · exact fun one => absurd one Nat.zero_ne_one
  apply (scanDisks_sound sound).bind
  intro _ after sound
  rw [findKernelDisk, meets_bind, meets_get]
  exact findKernelDiskFrom_sound _ _ _ sound

/-- What is left of the labels after the move of the boot partition. With more than
one partition the labels do not matter, since the lookup fails anyway. -/
structure Settled (total : Nat) (globals : Globals) : Prop where
  counted : globals.currentPartition = total
  labelled : total ≤ 1 → Labelled total (partitionCounts globals) globals

/-- The labels are assigned exactly when there is at most one partition. -/
theorem Settled.assigned_iff {total : Nat} (settled : Settled total globals) :
    LabelsAssigned globals ↔ total ≤ 1 := by
  constructor
  · rintro ⟨-, found⟩
    by_contra many
    have counted := settled.counted
    have second : partitionGetByVolumeLabel globals 68 = .error .outOfBounds := by
      have inside : ¬ (globals.currentPartition : Int) ≤ (68 : Int8).toInt - LABEL_ASCII_OFFSET := by
        simp only [LABEL_ASCII_OFFSET, show (68 : Int8).toInt = 68 from rfl]
        omega
      rw [partitionGetByVolumeLabel, if_neg inside]
      rfl
    rcases found 68 with ⟨_, -, -, looked⟩ | ⟨-, looked⟩
    · rw [second] at looked
      cases looked
    · rw [second] at looked
      cases looked
  · intro few
    have labelled := settled.labelled few
    have one_label (partition : Nat × Nat) (registered : Registered globals partition) :
        total = 1 ∧ labelOf globals partition = 67 := by
      obtain ⟨disk, k⟩ := partition
      have within := labelled.within disk k registered
      refine ⟨by omega, Int8.toInt_inj.mp ?_⟩
      rw [show (67 : Int8).toInt = 67 from rfl]
      omega
    have one_partition (partition : Nat × Nat) (registered : Registered globals partition) :
        globals.partitionList 0 = some partition := by
      obtain ⟨disk, listed, counts⟩ := labelled.single (one_label partition registered).1
      rw [Registered, counts] at registered
      by_cases here : partition.1 = disk
      · rw [here, Function.update_self] at registered
        rw [listed, ← here, ← Nat.lt_one_iff.mp registered]
      · rw [Function.update_of_ne here] at registered
        exact absurd registered (Nat.not_lt_zero _)
    refine ⟨?_, ?_⟩
    · intro left right left_registered right_registered _
      have same := (one_partition left left_registered).symm.trans
        (one_partition right right_registered)
      exact Option.some.inj same
    · intro label
      have largest := Int8.toInt_lt label
      have smallest := Int8.le_toInt label
      have counted := labelled.counted
      rw [partitionGetByVolumeLabel, counted]
      by_cases behind : (total : Int) ≤ label.toInt - LABEL_ASCII_OFFSET
      · right
        refine ⟨?_, if_pos behind⟩
        intro partition registered same
        have here := one_label partition registered
        rw [← same, here.2, here.1] at behind
        exact absurd behind (by decide)
      · have inside : 0 ≤ LABEL_ASCII_OFFSET - label.toInt ∧ LABEL_ASCII_OFFSET - label.toInt <
            BOBAOS_MAX_DISKS * BOBAOS_MAX_PARTITIONS_PER_DISK := by
          simp only [LABEL_ASCII_OFFSET, BOBAOS_MAX_DISKS, BOBAOS_MAX_PARTITIONS_PER_DISK] at behind ⊢
          omega
        rw [if_neg behind, partitionAt, if_pos inside]
        by_cases first : total = 1 ∧ label = 67
        · left
          obtain ⟨rfl, rfl⟩ := first
          obtain ⟨disk, listed, counts⟩ := labelled.single rfl
          have registered : Registered globals (disk, 0) := by
            rw [Registered, counts, Function.update_self]
            exact Nat.zero_lt_one
          exact ⟨(disk, 0), registered, (one_label _ registered).2, congrArg Except.ok listed⟩
        · right
          refine ⟨?_, congrArg Except.ok (labelled.vacant _ ?_)⟩
          · rintro partition registered rfl
            exact first (one_label partition registered)
          · by_contra early
            have different : label.toInt ≠ 67 → False := by
              intro different
              simp only [LABEL_ASCII_OFFSET] at early behind
              omega
            refine first ⟨by omega, Int8.toInt_inj.mp ?_⟩
            exact not_not.mp different

/-- A partition that is moved has a label of the list. -/
theorem moveToStart_settled {total : Nat}
    (labelled : Labelled total (partitionCounts globals) globals) (few : total ≤ 24)
    {partition : Nat × Nat} (registered : Registered globals partition)
    (other : labelOf globals partition ≠ BOBAOS_DEFAULT_VOLUME_LABEL) {fault : Fault → Prop} :
    Meets (moveToStart partition) globals fault fun _ after => Settled total after := by
  obtain ⟨disk, k⟩ := partition
  have within := labelled.within disk k registered
  have different : (labelOf globals (disk, k)).toInt ≠ 67 := fun same =>
    other (Int8.toInt_inj.mp same)
  rw [moveToStart, meets_bind, meets_get]
  have inside : (((labelOf globals (disk, k)).toInt - LABEL_ASCII_OFFSET) % 2 ^ 16).toNat <
      BOBAOS_MAX_DISKS * BOBAOS_MAX_PARTITIONS_PER_DISK := by
    simp only [LABEL_ASCII_OFFSET, BOBAOS_MAX_DISKS, BOBAOS_MAX_PARTITIONS_PER_DISK]
    omega
  have first := labelled.first (by omega)
  simp only [labelOf] at inside
  rw [meets_ite]
  refine ⟨fun _ => ?_, fun outside => absurd inside outside⟩
  cases start : globals.partitionList 0 with
  | none => exact absurd start first
  | some tempDiskPartition =>
    simp only
    rw [meets_bind, meets_modify, meets_bind, meets_modify, meets_modify]
    exact ⟨labelled.counted, fun one => absurd one (by omega)⟩

/-- The search for the boot partition leaves the list settled. -/
theorem findKernelPartitionFrom_settled {total disk : Nat} (few : total ≤ 24)
    {fault : Fault → Prop} (left : Nat) :
    ∀ (i : Nat) (stream : Streams.DiskStream) (buff : Nat → UInt8) (globals : Globals),
      Labelled total (partitionCounts globals) globals →
      i + left = partitionCounts globals disk →
      Meets (findKernelPartitionFrom hw disk left i stream buff) globals fault fun _ after =>
        Settled total after := by
  induction left with
  | zero =>
    intro i stream buff globals labelled _
    exact .pure ⟨labelled.counted, fun _ => labelled⟩
  | succ left ih =>
    intro i stream buff globals labelled remaining
    rw [findKernelPartitionFrom, meets_bind, meets_get]
    simp only
    rw [meets_bind, meets_set]
    generalize (Streams.diskStreamRead hw.streams _ buff 11 _).2.state.calls = calls
    generalize (Streams.diskStreamRead hw.streams _ buff 11 _).2.stream = stream
    generalize (Streams.diskStreamRead hw.streams _ buff 11 _).1 = buff
    have labelled : Labelled total (partitionCounts globals) { globals with calls } :=
      labelled.kept ⟨rfl, rfl, rfl, fun _ _ _ => rfl⟩
    have registered : Registered { globals with calls } (disk, i) := by
      simp only [Registered, partitionCounts] at remaining ⊢
      omega
    rw [meets_ite]
    constructor
    · intro _
      rw [meets_ite]
      constructor
      · intro _
        exact .pure ⟨labelled.counted, fun _ => labelled⟩
      · intro other
        apply (moveToStart_settled labelled few registered other).bind
        exact fun _ _ settled => .pure settled
    · intro _
      refine ih (i + 1) stream buff _ labelled ?_
      rw [Nat.add_right_comm, Nat.add_assoc]
      exact remaining

/-- Only a heap without room for the stream stops the search. -/
def NoStream (hw : Hardware) (problem : Fault) : Prop :=
  problem = .nullPointer ∧ ∃ call, hw.streams.kzalloc call 16 = false

theorem findKernelPartition_settled {total : Nat} (few : total ≤ 24)
    (labelled : Labelled total (partitionCounts globals) globals) :
    Meets (findKernelPartition hw) globals (NoStream hw) fun _ after => Settled total after := by
  rw [findKernelPartition, meets_bind, meets_get]
  cases diskGet globals 0 with
  | none => exact .pure ⟨labelled.counted, fun _ => labelled⟩
  | some disk =>
    simp only
    rw [kzalloc]
    simp only [meets_bind, meets_get, meets_set, meets_pure, meets_ite, meets_throw]
    constructor
    · intro _
      exact findKernelPartitionFrom_settled few _ 0 _ _ _
        (labelled.kept ⟨rfl, rfl, rfl, fun _ _ _ => rfl⟩) (Nat.zero_add _)
    · intro full
      exact ⟨rfl, globals.calls, by simpa using full⟩

/-- Where the scans and the search for the boot disk have seen at most 24 active
tables, the labels are assigned exactly when they have seen at most one. The rest of
the initialization does not leave the list of partitions, and the same holds after
it. -/
theorem labels_assigned_iff_one_table (hw : Hardware) (calls : Nat) {found : Bool}
    {middle : Globals}
    (ran : (do scanDisks hw; findKernelDisk hw).run (boot calls) = .ok (found, middle))
    (few : tablesSeen middle ≤ 24) :
    (LabelsAssigned middle ↔ tablesSeen middle ≤ 1) ∧
      Meets (diskInit hw) (boot calls) (NoStream hw) fun _ after =>
        (LabelsAssigned after ↔ tablesSeen middle ≤ 1) := by
  have labelled := ((findKernelDisk_sound calls).returned ran).labelled few
  have settled : Settled (tablesSeen middle) middle := ⟨labelled.counted, fun _ => labelled⟩
  refine ⟨settled.assigned_iff, ?_⟩
  have scanned : Meets (do scanDisks hw; findKernelDisk hw) (boot calls) (NoStream hw)
      fun value after => value = found ∧ after = middle := meets_of_run ran ⟨rfl, rfl⟩
  rw [meets_bind] at scanned
  rw [diskInit, meets_bind, meets_modify]
  apply scanned.bind
  intro _ after searched
  apply searched.bind
  rintro _ _ ⟨rfl, rfl⟩
  rw [meets_ite]
  refine ⟨fun _ => ?_, fun _ => .pure settled.assigned_iff⟩
  apply (findKernelPartition_settled few labelled).bind
  intro moved after settled
  rw [meets_ite]
  exact ⟨fun _ => .pure settled.assigned_iff, fun _ => .pure settled.assigned_iff⟩

/-! ### One disk with two tables -/

/-- A boot disk with active tables at the given offsets. The first partition is the
second sector, with the boot label. -/
def bootDisk (tables : List Nat) (offset : Nat) : UInt8 :=
  if offset ∈ tables then MBR_ACTIVE_FLAG
  else if offset = 0x1BE + 8 then 1
  else if 442 ≤ offset ∧ offset < 446 then [66, 79, 66, 65].getD (offset - 442) 0
  else if 583 ≤ offset ∧ offset < 594 then
    [66, 79, 66, 65, 79, 83, 32, 66, 79, 79, 84].getD (offset - 583) 0
  else 0

/-- A machine with that disk at the first legacy port. -/
def oneDisk (tables : List Nat) : Hardware where
  streams := plainStreams
  legacyDriver := true
  ahciDriver := false
  status base := if base = 0x1F0 then 0x50 else 0
  controllers := []
  identify _ := 1000
  contents _ := bootDisk tables
  stack _ _ := 0

/-- One table: its partition is `C`. -/
theorem one_table_assigned : ∃ code after,
    (diskInit (oneDisk [0x1BE])).run (boot 0) = .ok (code, after) ∧ LabelsAssigned after := by
  have scanned : (((do scanDisks (oneDisk [0x1BE]); findKernelDisk (oneDisk [0x1BE])).run
      (boot 0)).toOption.map fun result : Bool × Globals => tablesSeen result.2) = some 1 := by decide +kernel
  obtain ⟨⟨found, middle⟩, came, one⟩ := Option.map_eq_some_iff.mp scanned
  have one : tablesSeen middle = 1 := one
  have law := (labels_assigned_iff_one_table (oneDisk [0x1BE]) 0 (ran_of_toOption came)
    (by omega)).2
  have roomy (problem : Fault) : ¬ NoStream (oneDisk [0x1BE]) problem := by
    rintro ⟨-, call, refused⟩
    cases (show true = false from refused)
  obtain ⟨code, after, ran, assigned⟩ := (law.mono_fault roomy).returns
  exact ⟨code, after, ran, assigned.mpr (by omega)⟩

/-- Two tables: the label `D` is looked up in front of the list. -/
theorem second_label_out_of_bounds :
    ¬ ∀ (hw : Hardware) (calls : Nat) (code : Code) (after : Globals), hw.streams.Reliable →
      (diskInit hw).run (boot calls) = .ok (code, after) → tablesSeen after ≤ 24 →
      LabelsAssigned after := by
  intro claim
  have booted : (((diskInit (oneDisk [0x1BE, 0x1DE])).run (boot 0)).toOption.map
      fun result => (result.1, result.2.currentPartition, tablesSeen result.2)) =
      some (0, 2, 2) := by decide +kernel
  obtain ⟨⟨code, after⟩, came, shown⟩ := Option.map_eq_some_iff.mp booted
  simp only [Prod.mk.injEq] at shown
  have assigned := claim (oneDisk [0x1BE, 0x1DE]) 0 code after plainStreams_reliable
    (ran_of_toOption came) (by omega)
  have settled : Settled 2 after := ⟨shown.2.1, fun one => absurd one (by decide)⟩
  exact absurd (settled.assigned_iff.mp assigned) (by decide)

end Initialization

end BobaOS.Disks
