import BobaOS.Disk.AtaTransfers
import BobaOS.Library.FileStores

/-!
# A drive behind its driver is a disk

Whatever is read from a drive and written to it, in any order, and wherever transfers fail, the
driver shows the bytes of a disk: what is read was written last, and a transfer changes no
sector but its own. The drive may lose the last sector of a write, which the driver does not
notice, and the disk is free to lose it too.
-/

namespace BobaOS.AtaPio

open ByteStore Programs Runs FileStores

/-! ## A disk -/

/-- What is moved, or was not: sectors from a first one on. -/
inductive Transfer where
  | read (first total : Nat) (data : List UInt8)
  | write (first total : Nat) (data : Nat → UInt8)
  | failedRead (first total : Nat)
  | failedWrite (first total : Nat)

/-- What the transfers do to the bytes of a disk that cannot store some of its sectors. -/
inductive DiskStep (loses : Nat → Prop) (bytes : Nat → UInt8) :
    Transfer → (Nat → UInt8) → Prop where
  | read (first total : Nat) : DiskStep loses bytes
      (.read first total (firsts (slice bytes (512 * first)) (512 * total))) bytes
  | write (first total : Nat) (data after : Nat → UInt8)
      (written : ∀ address, ¬ (address / 512 + 1 = first + total ∧ loses (address / 512)) →
        after address = overwrite bytes (512 * first) (512 * total) data address) :
      DiskStep loses bytes (.write first total data) after
  | failedRead (first total : Nat) : DiskStep loses bytes (.failedRead first total) bytes
  | failedWrite (first total : Nat) (after : Nat → UInt8)
      (apart : ∀ address, address / 512 < first ∨ first + total ≤ address / 512 →
        after address = bytes address) :
      DiskStep loses bytes (.failedWrite first total) after

def disk (loses : Nat → Prop) : System (Nat → UInt8) Transfer where
  start _ := True
  step := DiskStep loses

section Driver

variable {σ : Type} (bus : Bus σ) (pr : AtaPioPrivate)

/-- The driver at work. The sectors are named by 28 bits of what it is given. -/
inductive DriverStep (machine : σ) : Transfer → σ → Prop where
  | read (lba total : Nat) (out : Nat → UInt8) (data : List UInt8) (after : σ) (some : 0 < total)
      (moved : Settles .endless (ataPioRead bus pr lba total out) machine fun result final =>
        result.1 = SUCCESS ∧ firsts result.2 (512 * total) = data ∧ final = after) :
      DriverStep machine (.read (lba % 2 ^ 28) total data) after
  | write (lba total : Nat) (input : Nat → UInt8) (after : σ) (some : 0 < total)
      (moved : Settles .endless (ataPioWrite bus pr lba total input) machine fun code final =>
        code = SUCCESS ∧ final = after) :
      DriverStep machine (.write (lba % 2 ^ 28) total input) after
  | failedRead (lba total : Nat) (out : Nat → UInt8) (after : σ) (some : 0 < total)
      (failed : Settles .endless (ataPioRead bus pr lba total out) machine fun result final =>
        result.1 < 0 ∧ final = after) :
      DriverStep machine (.failedRead (lba % 2 ^ 28) total) after
  | failedWrite (lba total : Nat) (input : Nat → UInt8) (after : σ) (some : 0 < total)
      (failed : Settles .endless (ataPioWrite bus pr lba total input) machine fun code final =>
        code < 0 ∧ final = after) :
      DriverStep machine (.failedWrite (lba % 2 ^ 28) total) after

def driverSystem (drive : σ → Drive) : System σ Transfer where
  start machine := (drive machine).phase.Idle
  step := DriverStep bus pr

end Driver

section Refinement

variable {σ : Type} {bus : Bus σ} {pr : AtaPioPrivate} {defects : Defects} {drive : σ → Drive}
  {busy : σ → Nat} (conforms : Conforms bus pr defects drive busy)
  (harmless : UInt8.ofNat pr.select.toNat &&& ATAPIO_DEVICECON_SRST = 0) {machine : σ}
include conforms harmless

/-- A read succeeds exactly if the drive can be told of its sectors and can read them all. -/
theorem ataPioRead_succeeds_iff (idle : (drive machine).phase.Idle) (lba total : Nat)
    (out : Nat → UInt8) :
    (Settles .endless (ataPioRead bus pr lba total out) machine fun result _ =>
      result.1 = SUCCESS) ↔
      total ≤ 256 ∧ ∀ nth < total, defects.read (lba % 2 ^ 28 + nth) = none := by
  have ends := ataPioRead_ends conforms harmless idle lba total out
  have complete := @ending_complete (readTrouble defects (lba % 2 ^ 28) (told total))
    (told total) total 0
  have clear : (total = 0 ∨ 0 + total ≤ told total) ∧
      (∀ nth < total, readTrouble defects (lba % 2 ^ 28) (told total) (0 + nth) = none) ↔
        total ≤ 256 ∧ ∀ nth < total, defects.read (lba % 2 ^ 28 + nth) = none := by
    rw [Nat.zero_add, or_iff_right_of_imp (fun none => none ▸ Nat.zero_le _), le_told]
    refine and_congr_right fun few => forall₂_congr fun nth before => ?_
    rw [Nat.zero_add, readTrouble, if_pos (Nat.lt_of_lt_of_le before (le_told.mpr few))]
  rw [← clear, ← complete]
  constructor
  · intro succeeds
    obtain ⟨failed, result, after, came, ended, code⟩ := ends.settled succeeds
    cases failed with
    | none => exact came
    | some index =>
      rw [ended.2.1] at code
      cases code
  · intro came
    rw [came] at ends
    refine Settles.mono ends ?_
    rintro result after ⟨-, rfl, -⟩
    rfl

/-- And a write, if it can take them all and store all but the last. -/
theorem ataPioWrite_succeeds_iff (idle : (drive machine).phase.Idle) (lba : Nat) {total : Nat}
    (some : 0 < total) (input : Nat → UInt8) :
    (Settles .endless (ataPioWrite bus pr lba total input) machine fun code _ => code = SUCCESS) ↔
      total ≤ 256 ∧ (∀ nth < total, defects.take (lba % 2 ^ 28 + nth) = none) ∧
        ∀ nth, nth + 1 < total → defects.store (lba % 2 ^ 28 + nth) = none := by
  have ends := ataPioWrite_ends conforms harmless idle lba some input
  have complete := @ending_complete (writeTrouble defects (lba % 2 ^ 28) (told total))
    (told total) total 0
  have clear : (total = 0 ∨ 0 + total ≤ told total) ∧
      (∀ nth < total, writeTrouble defects (lba % 2 ^ 28) (told total) (0 + nth) = none) ↔
        total ≤ 256 ∧ (∀ nth < total, defects.take (lba % 2 ^ 28 + nth) = none) ∧
          ∀ nth, nth + 1 < total → defects.store (lba % 2 ^ 28 + nth) = none := by
    rw [Nat.zero_add, or_iff_right (Nat.ne_of_gt some), le_told]
    refine and_congr_right fun few => ?_
    rw [told_of_le some few]
    constructor
    · intro clear
      refine ⟨fun nth before => ?_, fun nth before => ?_⟩
      · have fine := clear nth before
        rw [Nat.zero_add] at fine
        cases nth with
        | zero => rwa [writeTrouble, if_pos before] at fine
        | succ nth =>
          rw [writeTrouble] at fine
          split at fine
          · cases fine
          · rwa [if_pos before] at fine
      · have fine := clear (nth + 1) before
        rw [Nat.zero_add, writeTrouble] at fine
        split at fine
        · cases fine
        · assumption
    · rintro ⟨takes, stores⟩ nth before
      rw [Nat.zero_add]
      cases nth with
      | zero =>
        rw [writeTrouble, if_pos before]
        exact takes 0 before
      | succ nth =>
        rw [writeTrouble, stores nth before]
        simp only
        rw [if_pos before]
        exact takes (nth + 1) before
  rw [← clear, ← complete]
  constructor
  · intro succeeds
    obtain ⟨failed, code, after, came, ended, zero⟩ := ends.settled succeeds
    cases failed with
    | none => exact came
    | some index =>
      rw [ended.2.1] at zero
      cases zero
  · intro came
    rw [came] at ends
    exact Settles.mono ends fun code after ended => ended.2.1

/-- Every step of the driver is one of the disk. -/
theorem driver_simulated : System.Simulation (driverSystem bus pr drive)
    (disk fun sector => (defects.store sector).isSome)
    fun machine bytes => (drive machine).phase.Idle ∧ (drive machine).bytes = bytes where
  initially machine idle := ⟨_, trivial, idle, rfl⟩
  matched machine after label bytes := by
    rintro ⟨idle, rfl⟩ stepped
    cases stepped with
    | read lba total out data after some moved =>
      have ends := ataPioRead_ends conforms harmless idle lba total out
      obtain ⟨failed, result, final, came, ended, code, shown, rfl⟩ := ends.settled moved
      obtain ⟨same, ended⟩ := ended
      cases failed with
      | some index =>
        rw [ended.1] at code
        cases code
      | none =>
        obtain ⟨rfl, phase⟩ := ended
        obtain ⟨none | within, -⟩ := ending_complete.mp came
        · omega
        rw [Nat.zero_add] at within
        rw [told_of_le some (le_told.mp within), facing, readTrouble, if_neg (Nat.lt_irrefl total)]
          at phase
        simp only [le_refl, if_true] at phase
        refine ⟨_, ?_, phase ▸ trivial, same⟩
        have data_shown : data = firsts (slice (drive machine).bytes (512 * (lba % 2 ^ 28)))
            (512 * total) := by
          rw [← shown]
          refine firsts_congr fun index inside => ?_
          exact overwrite_inside _ _ _ _ _ ⟨Nat.zero_le _, by rwa [Nat.zero_add]⟩
        rw [data_shown]
        exact .read _ _
    | write lba total input after some moved =>
      have ends := ataPioWrite_ends conforms harmless idle lba some input
      obtain ⟨failed, code, final, came, ⟨idle, ended⟩, rfl, rfl⟩ := ends.settled moved
      cases failed with
      | some index => cases ended.1
      | none =>
        refine ⟨_, .write _ _ _ _ fun address kept => ?_, idle, rfl⟩
        exact ended.2 address fun lost => kept ⟨lost.2.1, lost.2.2⟩
    | failedRead lba total out after some stopped =>
      have ends := ataPioRead_ends conforms harmless idle lba total out
      obtain ⟨failed, result, final, came, ⟨same, ended⟩, code, rfl⟩ := ends.settled stopped
      cases failed with
      | none =>
        rw [ended.1] at code
        exact absurd code (Int.lt_irrefl 0)
      | some index => exact ⟨_, .failedRead _ _, ended.2 ▸ trivial, same⟩
    | failedWrite lba total input after some stopped =>
      have ends := ataPioWrite_ends conforms harmless idle lba some input
      obtain ⟨failed, code, final, came, ⟨idle, ended⟩, negative, rfl⟩ := ends.settled stopped
      cases failed with
      | none =>
        rw [ended.1] at negative
        exact absurd negative (Int.lt_irrefl 0)
      | some index =>
        have within := ending_failed_lt came
        refine ⟨_, .failedWrite _ _ _ fun address apart => ?_, idle, rfl⟩
        rw [ended.2 address fun lost => by have place := lost.2.1; have some := lost.1; omega]
        exact overwrite_outside _ _ _ _ _ (by omega)

end Refinement

/-! ## A drive -/

/-- The first drive at the first ports, as `scanForDisk` names them. -/
def masterDrive : AtaPioPrivate := ⟨0x1F0, 0xA, 0x206⟩

/-- A drive, and for how long it is busy yet. -/
structure Simulated where
  drive : Drive
  busy : Nat

def Simulated.status (machine : Simulated) : UInt8 :=
  if machine.busy ≠ 0 then ATAPIO_STATUS_BSY
  else match machine.drive.phase with
    | .ready => 0
    | .failed asks => if asks then ATAPIO_STATUS_ERR ||| ATAPIO_STATUS_DRQ else ATAPIO_STATUS_ERR
    | .data .. => ATAPIO_STATUS_DRQ

/-- A command keeps the drive busy for two looks at its status, and a flush for none. -/
def Simulated.command (defects : Defects) (command : UInt8) (machine : Simulated) : Simulated :=
  let drive := machine.drive
  let count := sectorsTold (drive.task ATAPIO_REG_SECTOR)
  if command = ATAPIO_COMMAND_READ_SECTORS then
    ⟨{ drive with phase := offered defects.read false drive.address count }, 2⟩
  else if command = ATAPIO_COMMAND_WRITE_SECTORS then
    ⟨{ drive with phase := offered defects.take true drive.address count }, 2⟩
  else ⟨{ drive with phase := .ready }, 0⟩

def simulatedBus (defects : Defects) : Bus Simulated where
  inb port machine :=
    if port = 0x1F7 then (machine.status, { machine with busy := machine.busy - 1 })
    else (0, machine)
  inw _ machine :=
    match machine.drive.phase with
    | .data false sector left word =>
      (BitVec.ofNat 16 (readWord machine.drive.bytes (512 * sector + 2 * word)),
        ⟨{ machine.drive with
          phase := if word = 255 then offered defects.read false (sector + 1) (left - 1)
            else .data false sector left (word + 1) }, if word = 255 then 2 else 0⟩)
    | _ => (0, machine)
  outb port value machine :=
    if port = 0x3F6 then machine
    else if port = 0x1F7 then machine.command defects value
    else { machine with
      drive.task := Function.update machine.drive.task (port - 0x1F0) value }
  outw _ value machine :=
    match machine.drive.phase with
    | .data true sector left word =>
      ⟨⟨overwrite machine.drive.bytes (512 * sector + 2 * word) 2 (wordBytes value.toNat),
        machine.drive.task,
        if word = 255 then afterStore defects sector left else .data true sector left (word + 1)⟩,
        if word = 255 then 2 else 0⟩
    | _ => machine

/-- What the status shows of a drive that is not busy. -/
theorem status_idle {machine : Simulated} (still : machine.busy = 0) :
    (machine.status &&& ATAPIO_STATUS_BSY = 0) ∧
      (machine.status &&& ATAPIO_STATUS_DRQ ≠ 0 ↔ machine.drive.phase.Asks) ∧
      (machine.status &&& ATAPIO_STATUS_ERR ≠ 0 ↔ machine.drive.phase.HasFailed) := by
  rw [Simulated.status, if_neg (not_not.mpr still)]
  cases machine.drive.phase with
  | ready => exact ⟨rfl, iff_of_false (by decide) id, iff_of_false (by decide) id⟩
  | failed asks =>
    cases asks with
    | true => exact ⟨rfl, iff_of_true (by decide) rfl, iff_of_true (by decide) trivial⟩
    | false =>
      exact ⟨rfl, iff_of_false (by decide) Bool.false_ne_true, iff_of_true (by decide) trivial⟩
  | data write sector left word =>
    show ATAPIO_STATUS_DRQ &&& ATAPIO_STATUS_BSY = 0 ∧
      (ATAPIO_STATUS_DRQ &&& ATAPIO_STATUS_DRQ ≠ 0 ↔ True) ∧
      (ATAPIO_STATUS_DRQ &&& ATAPIO_STATUS_ERR ≠ 0 ↔ False)
    decide

theorem status_busy {machine : Simulated} (busy : machine.busy ≠ 0) :
    machine.status = ATAPIO_STATUS_BSY := if_pos busy

theorem simulated_conforms (defects : Defects) :
    Conforms (simulatedBus defects) masterDrive defects Simulated.drive Simulated.busy where
  status_keeps machine := rfl
  status_time machine := rfl
  status_busy machine := by
    show machine.status &&& ATAPIO_STATUS_BSY = 0 ↔ machine.busy = 0
    by_cases still : machine.busy = 0
    · exact iff_of_true (status_idle still).1 still
    · rw [status_busy still]
      exact iff_of_false (by decide) still
  status_data machine := by
    show machine.status &&& ATAPIO_STATUS_DRQ ≠ 0 ↔ machine.busy = 0 ∧ machine.drive.phase.Asks
    by_cases still : machine.busy = 0
    · rw [(status_idle still).2.1, and_iff_right still]
    · rw [status_busy still]
      exact iff_of_false (by decide) fun both => still both.1
  status_error machine still := (status_idle still).2.2
  error_keeps machine := rfl
  control_keeps machine value _ := rfl
  register machine index value first last still _ := by
    have within : index < 7 := last
    have control : ¬ masterDrive.port + index = 0x3F6 := by
      simp only [masterDrive]
      bv_omega
    have command : ¬ masterDrive.port + index = 0x1F7 := by
      simp only [masterDrive]
      bv_omega
    have place : masterDrive.port + index - 0x1F0 = index := by
      simp only [masterDrive]
      bv_omega
    rw [simulatedBus]
    simp only [if_neg control, if_neg command, place, still, and_self]
  read_command machine _ _ _ := rfl
  write_command machine _ _ _ := rfl
  flush_command machine _ := .inl rfl
  word_out machine sector left word still phase := by
    rw [simulatedBus]
    simp only [phase, true_and]
    exact fun inner => if_neg inner
  word_in machine sector left word value still phase _ := by
    rw [simulatedBus]
    simp only [phase, true_and]
    exact fun inner => if_neg inner
  word_lost machine sector left value still phase lost := by
    rw [simulatedBus]
    simp only [phase, if_true]
    exact ⟨fun address apart => overwrite_outside _ _ _ _ _ (by omega), trivial⟩

/-- A drive that does nothing, with a number in all bytes of each sector. Its sector 5 cannot be
read. -/
def numberedDrive : Simulated :=
  ⟨⟨fun address => UInt8.ofNat (address / 512), fun _ => 0, .ready⟩, 1⟩

def oneBad : Defects where
  read sector := if sector = 5 then some true else none
  take _ := none
  store _ := none

end BobaOS.AtaPio
