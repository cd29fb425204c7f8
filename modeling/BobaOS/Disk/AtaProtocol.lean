import Mathlib.Data.Nat.Bitwise
import BobaOS.Disk.AtaPio

/-!
# Drives that keep to the ATA protocol

A drive is busy for some time, then does nothing, has failed, or hands out or takes the words
of a sector, one after the other. `Conforms` says what such a drive answers at the ports; how
long it is busy, and which sectors it cannot transfer, is left open. The steps of the driver
each have one law about such a drive: the waits, the registers, the words of a sector.
-/

namespace BobaOS.AtaPio

open ByteStore Programs

/-! ## A drive that keeps to the protocol -/

/-- What a drive is at, once it is not busy. In a transfer: whether it is a write, the sector, how
many sectors are left with it, and the word. -/
inductive Phase where
  | ready
  | failed (asks : Bool)
  | data (write : Bool) (sector left word : Nat)
deriving DecidableEq

/-- The drive asks for data to be moved. -/
def Phase.Asks : Phase → Prop
  | .ready => False
  | .failed asks => asks = true
  | .data .. => True

def Phase.HasFailed : Phase → Prop
  | .failed _ => True
  | _ => False

/-- The drive takes a command. -/
def Phase.Idle : Phase → Prop
  | .data .. => False
  | _ => True

/-- The sectors that a drive cannot read, does not ask for in a write, or cannot store once it has
their words; and whether it still asks for data when it fails. -/
structure Defects where
  read : Nat → Option Bool
  take : Nat → Option Bool
  store : Nat → Option Bool

structure Drive where
  bytes : Nat → UInt8
  task : BitVec 16 → UInt8
  phase : Phase

/-- The sector that the registers name. -/
def Drive.address (drive : Drive) : Nat :=
  (drive.task ATAPIO_REG_LBA0).toNat + (drive.task ATAPIO_REG_LBA1).toNat * 2 ^ 8 +
    (drive.task ATAPIO_REG_LBA2).toNat * 2 ^ 16 +
    (drive.task ATAPIO_REG_DRIVESELECT).toNat % 2 ^ 4 * 2 ^ 24

/-- The number of sectors that a register means. -/
def sectorsTold (register : UInt8) : Nat := if register = 0 then 256 else register.toNat

/-- The registers speak of the first drive at its ports, by the number of a sector. -/
def Drive.Named (drive : Drive) : Prop := drive.task ATAPIO_REG_DRIVESELECT &&& 0x50 = 0x40

/-- What the drive is at before it moves a sector of a transfer. -/
def offered (defect : Nat → Option Bool) (write : Bool) (sector left : Nat) : Phase :=
  if left = 0 then .ready
  else match defect sector with
    | some asks => .failed asks
    | none => .data write sector left 0

/-- And after it has taken the words of one. -/
def afterStore (defects : Defects) (sector left : Nat) : Phase :=
  match defects.store sector with
  | some asks => .failed asks
  | none => offered defects.take true (sector + 1) (left - 1)

/-- The drive at the ports of a machine answers as the ATA protocol has it: `busy` is how often
the status will still say that it is busy. A failed store may leave anything in its sector. A
busy drive may miss a command, and the driver does not wait before it has the cache flushed. -/
structure Conforms {σ : Type} (bus : Bus σ) (pr : AtaPioPrivate) (defects : Defects)
    (drive : σ → Drive) (busy : σ → Nat) : Prop where
  status_keeps : ∀ machine, drive (bus.inb (pr.port + ATAPIO_REG_STATUS) machine).2 = drive machine
  status_time : ∀ machine,
    busy (bus.inb (pr.port + ATAPIO_REG_STATUS) machine).2 = busy machine - 1
  status_busy : ∀ machine,
    (bus.inb (pr.port + ATAPIO_REG_STATUS) machine).1 &&& ATAPIO_STATUS_BSY = 0 ↔ busy machine = 0
  status_data : ∀ machine,
    (bus.inb (pr.port + ATAPIO_REG_STATUS) machine).1 &&& ATAPIO_STATUS_DRQ ≠ 0 ↔
      busy machine = 0 ∧ (drive machine).phase.Asks
  status_error : ∀ machine, busy machine = 0 →
    ((bus.inb (pr.port + ATAPIO_REG_STATUS) machine).1 &&& ATAPIO_STATUS_ERR ≠ 0 ↔
      (drive machine).phase.HasFailed)
  error_keeps : ∀ machine, drive (bus.inb (pr.port + ATAPIO_REG_ERROR) machine).2 = drive machine
  control_keeps : ∀ machine value, value &&& ATAPIO_DEVICECON_SRST = 0 →
    drive (bus.outb (pr.port + pr.deviceCon) value machine) = drive machine
  register : ∀ machine index value, 0 < index → index < ATAPIO_REG_COMMAND → busy machine = 0 →
    (drive machine).phase.Idle →
    drive (bus.outb (pr.port + index) value machine) =
        { drive machine with task := Function.update (drive machine).task index value } ∧
      busy (bus.outb (pr.port + index) value machine) = 0
  read_command : ∀ machine, busy machine = 0 → (drive machine).phase.Idle →
    (drive machine).Named →
    drive (bus.outb (pr.port + ATAPIO_REG_COMMAND) ATAPIO_COMMAND_READ_SECTORS machine) =
      { drive machine with
        phase := offered defects.read false (drive machine).address
          (sectorsTold ((drive machine).task ATAPIO_REG_SECTOR)) }
  write_command : ∀ machine, busy machine = 0 → (drive machine).phase.Idle →
    (drive machine).Named →
    drive (bus.outb (pr.port + ATAPIO_REG_COMMAND) ATAPIO_COMMAND_WRITE_SECTORS machine) =
      { drive machine with
        phase := offered defects.take true (drive machine).address
          (sectorsTold ((drive machine).task ATAPIO_REG_SECTOR)) }
  flush_command : ∀ machine, (drive machine).phase.Idle →
    drive (bus.outb (pr.port + ATAPIO_REG_COMMAND) CACHE_FLUSH machine) =
        { drive machine with phase := .ready } ∨
      busy machine ≠ 0 ∧
        drive (bus.outb (pr.port + ATAPIO_REG_COMMAND) CACHE_FLUSH machine) = drive machine
  word_out : ∀ machine sector left word, busy machine = 0 →
    (drive machine).phase = .data false sector left word →
    (bus.inw pr.port machine).1 =
        BitVec.ofNat 16 (readWord (drive machine).bytes (512 * sector + 2 * word)) ∧
      drive (bus.inw pr.port machine).2 = { drive machine with
        phase := if word = 255 then offered defects.read false (sector + 1) (left - 1)
          else .data false sector left (word + 1) } ∧
      (word ≠ 255 → busy (bus.inw pr.port machine).2 = 0)
  word_in : ∀ machine sector left word value, busy machine = 0 →
    (drive machine).phase = .data true sector left word →
    ¬ (word = 255 ∧ (defects.store sector).isSome) →
    drive (bus.outw pr.port value machine) =
        ⟨overwrite (drive machine).bytes (512 * sector + 2 * word) 2 (wordBytes value.toNat),
          (drive machine).task,
          if word = 255 then afterStore defects sector left else .data true sector left (word + 1)⟩ ∧
      (word ≠ 255 → busy (bus.outw pr.port value machine) = 0)
  word_lost : ∀ machine sector left value, busy machine = 0 →
    (drive machine).phase = .data true sector left 255 → (defects.store sector).isSome →
    (∀ address, address / 512 ≠ sector → (drive (bus.outw pr.port value machine)).bytes address =
        (drive machine).bytes address) ∧
      (drive (bus.outw pr.port value machine)).phase = afterStore defects sector left

/-! ## Waiting -/

section Waits

variable {σ : Type} {bus : Bus σ} {pr : AtaPioPrivate} {defects : Defects} {drive : σ → Drive}
  {busy : σ → Nat} {machine : σ}

theorem inb_meets {port : BitVec 16} {fault : Fault → Prop} {post : UInt8 → σ → Prop}
    (holds : post (bus.inb port machine).1 (bus.inb port machine).2) :
    Meets (inb bus port) machine fault post := meets_of_run rfl holds

theorem inw_meets {port : BitVec 16} {fault : Fault → Prop} {post : BitVec 16 → σ → Prop}
    (holds : post (bus.inw port machine).1 (bus.inw port machine).2) :
    Meets (inw bus port) machine fault post := meets_of_run rfl holds

theorem outb_meets {port : BitVec 16} {value : UInt8} {fault : Fault → Prop}
    {post : Unit → σ → Prop} (holds : post () (bus.outb port value machine)) :
    Meets (outb bus port value) machine fault post := meets_of_run rfl holds

theorem outw_meets {port value : BitVec 16} {fault : Fault → Prop} {post : Unit → σ → Prop}
    (holds : post () (bus.outw port value machine)) :
    Meets (outw bus port value) machine fault post := meets_of_run rfl holds

variable (conforms : Conforms bus pr defects drive busy)
include conforms

/-- The status of a busy drive says so, and at the next look it is less so. -/
theorem ataPioWaitBsy_settles (state : Drive) (at_it : drive machine = state) :
    Settles .endless (ataPioWaitBsy bus pr.port) machine fun _ after =>
      drive after = state ∧ busy after = 0 := by
  apply Settles.poll (fun machine => drive machine = state) busy _ at_it
  intro machine at_it
  apply inb_meets
  have keeps := (conforms.status_keeps machine).trans at_it
  have time := conforms.status_time machine
  by_cases done : busy machine = 0
  · exact .inl ⟨(conforms.status_busy machine).mpr done, keeps, by omega⟩
  · exact .inr ⟨fun clear => done ((conforms.status_busy machine).mp clear), keeps, by omega⟩

/-- The wait for data ends with a drive that asks for it, -/
theorem ataPioWaitDrq_settles (state : Drive) (at_it : drive machine = state)
    (asks : state.phase.Asks) :
    Settles .endless (ataPioWaitDrq bus pr.port) machine fun _ after =>
      drive after = state ∧ busy after = 0 := by
  apply Settles.poll (fun machine => drive machine = state) busy _ at_it
  intro machine at_it
  apply inb_meets
  have keeps := (conforms.status_keeps machine).trans at_it
  have time := conforms.status_time machine
  have data := conforms.status_data machine
  by_cases done : busy machine = 0
  · exact .inl ⟨data.mpr ⟨done, at_it ▸ asks⟩, keeps, by omega⟩
  · exact .inr ⟨fun set => done (data.mp set).1, keeps, by omega⟩

/-- and never with one that does not. -/
theorem ataPioWaitDrq_endless (quiet : ¬ (drive machine).phase.Asks) :
    Endless .endless (ataPioWaitDrq bus pr.port) machine := by
  apply Endless.poll (fun machine => ¬ (drive machine).phase.Asks) _ quiet
  intro machine quiet
  apply inb_meets
  refine ⟨fun set => quiet ((conforms.status_data machine).mp set).2, ?_⟩
  rwa [conforms.status_keeps]

theorem checkStatusError_meets (state : Drive) (at_it : drive machine = state)
    (idle : busy machine = 0) :
    Meets (checkStatusError bus pr.port) machine (fun _ => False) fun found after =>
      (found = true ↔ state.phase.HasFailed) ∧ drive after = state ∧ busy after = 0 := by
  have time := conforms.status_time machine
  have looked : Meets (inb bus (pr.port + ATAPIO_REG_STATUS)) machine (fun _ => False)
      fun status after => (status &&& ATAPIO_STATUS_ERR ≠ 0 ↔ state.phase.HasFailed) ∧
        drive after = state ∧ busy after = 0 :=
    inb_meets ⟨at_it ▸ conforms.status_error machine idle,
      (conforms.status_keeps machine).trans at_it, by omega⟩
  exact looked.bind fun status after holds =>
    Meets.pure ⟨decide_eq_true_iff.trans holds.1, holds.2⟩

end Waits

/-! ## What the drive is told -/

/-- The number of sectors that the drive is told of. -/
def told (total : Nat) : Nat := sectorsTold (UInt8.ofNat total)

theorem told_eq (total : Nat) : told total = if total % 256 = 0 then 256 else total % 256 := by
  have zero : UInt8.ofNat total = 0 ↔ total % 256 = 0 := by
    rw [← UInt8.toNat_inj, UInt8.toNat_ofNat']
    rfl
  rw [told, sectorsTold, if_congr zero rfl UInt8.toNat_ofNat']

/-- The drive is told of as many sectors as are moved exactly if they are 1 to 256. -/
theorem le_told {total : Nat} : total ≤ told total ↔ total ≤ 256 := by
  rw [told_eq]
  split <;> omega

theorem told_of_le {total : Nat} (some : 0 < total) (few : total ≤ 256) : told total = total := by
  rw [told_eq]
  split <;> omega

/-- The bits of the drive select register. -/
theorem drive_select : ∀ high < 2 ^ 4, (0xE0 ||| UInt8.ofNat high).toNat % 2 ^ 4 = high ∧
    (0xE0 ||| UInt8.ofNat high) &&& 0x50 = 0x40 := by decide

section Registers

variable {σ : Type} {bus : Bus σ} {pr : AtaPioPrivate} {defects : Defects} {drive : σ → Drive}
  {busy : σ → Nat} (conforms : Conforms bus pr defects drive busy) {machine : σ}
include conforms

theorem outb_register {index : BitVec 16} (value : UInt8) {state : Drive}
    (first : 0 < index) (last : index < ATAPIO_REG_COMMAND)
    (before : drive machine = state ∧ busy machine = 0) (idle : state.phase.Idle) :
    Meets (outb bus (pr.port + index) value) machine (fun _ => False) fun _ after =>
      drive after = { state with task := Function.update state.task index value } ∧
        busy after = 0 := by
  obtain ⟨rfl, still⟩ := before
  exact outb_meets (conforms.register machine index value first last still idle)

/-- The registers name 28 bits of the sector, and 8 bits of the number of sectors. -/
theorem writeRegisters_meets (lba total : Nat) {state : Drive}
    (before : drive machine = state ∧ busy machine = 0) (idle : state.phase.Idle) :
    Meets (writeRegisters bus pr lba total) machine (fun _ => False) fun _ after =>
      (∃ task, drive after = { state with task }) ∧ busy after = 0 ∧
        (drive after).address = lba % 2 ^ 28 ∧ (drive after).Named ∧
        sectorsTold ((drive after).task ATAPIO_REG_SECTOR) = told total := by
  refine (outb_register conforms 0x00 (by decide) (by decide) before idle).bind
    fun _ _ before => ?_
  refine (outb_register conforms _ (by decide) (by decide) before idle).bind fun _ _ before => ?_
  refine (outb_register conforms _ (by decide) (by decide) before idle).bind fun _ _ before => ?_
  refine (outb_register conforms _ (by decide) (by decide) before idle).bind fun _ _ before => ?_
  refine (outb_register conforms _ (by decide) (by decide) before idle).bind fun _ _ before => ?_
  refine (outb_register conforms _ (by decide) (by decide) before idle).mono fun _ _ before => ?_
  obtain ⟨at_it, still⟩ := before
  obtain ⟨low, chosen⟩ := drive_select (lba / 2 ^ 24 % 2 ^ 4) (Nat.mod_lt _ (by decide))
  refine ⟨⟨_, at_it⟩, still, ?_, ?_, ?_⟩
  · rw [at_it]
    simp (disch := decide) only [Drive.address, Function.update_self, Function.update_of_ne, low,
      UInt8.toNat_ofNat']
    omega
  · rw [at_it, Drive.Named]
    simp only [Function.update_self, chosen]
  · rw [at_it]
    simp (disch := decide) only [Function.update_self, Function.update_of_ne, told]

/-- A transfer begins with the sector that the registers name. -/
theorem beginTransfer_settles (command : UInt8) {defect : Nat → Option Bool} {write : Bool}
    (taken : ∀ machine, busy machine = 0 → (drive machine).phase.Idle → (drive machine).Named →
      drive (bus.outb (pr.port + ATAPIO_REG_COMMAND) command machine) = { drive machine with
        phase := offered defect write (drive machine).address
          (sectorsTold ((drive machine).task ATAPIO_REG_SECTOR)) })
    (harmless : UInt8.ofNat pr.select.toNat &&& ATAPIO_DEVICECON_SRST = 0) (lba total : Nat)
    (idle : (drive machine).phase.Idle) :
    Settles .endless (beginTransfer bus pr command lba total) machine fun _ after =>
      (drive after).bytes = (drive machine).bytes ∧
        (drive after).phase = offered defect write (lba % 2 ^ 28) (told total) := by
  have selected : Meets (selectDrive bus pr.port pr.select pr.deviceCon) machine (fun _ => False)
      fun _ after => drive after = drive machine :=
    outb_meets (conforms.control_keeps machine _ harmless)
  refine Settles.bind (.of_meets selected) fun _ _ at_it => ?_
  refine Settles.bind (ataPioWaitBsy_settles conforms _ at_it) fun _ _ before => ?_
  refine Settles.bind (.of_meets (writeRegisters_meets conforms lba total before idle))
    fun _ after registers => .of_meets (outb_meets ?_)
  obtain ⟨⟨task, at_it⟩, still, address, named, count⟩ := registers
  rw [taken after still (by rwa [at_it]) named, address, count, at_it]
  exact ⟨rfl, rfl⟩

end Registers

/-! ## The words of a sector -/

/-- A word of a store goes through the data port and back as its two bytes. -/
theorem overwrite_wordBytes (store from_store : Nat → UInt8) (place address : Nat) :
    overwrite store place 2 (wordBytes (BitVec.ofNat 16 (readWord from_store address)).toNat) =
      overwrite store place 2 (slice from_store address) := by
  apply overwrite_congr
  intro offset within
  have zeroth := (from_store address).toNat_lt
  have first := (from_store (address + 1)).toNat_lt
  apply UInt8.toNat_inj.mp
  rw [wordBytes, UInt8.toNat_ofNat', BitVec.toNat_ofNat, readWord, slice_apply]
  obtain rfl | rfl : offset = 0 ∨ offset = 1 := by omega
  · simp only [Nat.add_zero, pow_zero, Nat.div_one]
    omega
  · simp only [pow_one]
    omega

/-- The words behind a word. -/
theorem overwrite_next (store values : Nat → UInt8) (place address rest : Nat) :
    overwrite (overwrite store place 2 (slice values address)) (place + 2) (2 * rest)
      (slice values (address + 2)) = overwrite store place (2 * (rest + 1)) (slice values address) := by
  rw [← slice_slice, overwrite_append, Nat.mul_add_one, Nat.add_comm 2]

section Words

variable {σ : Type} {bus : Bus σ} {pr : AtaPioPrivate} {defects : Defects} {drive : σ → Drive}
  {busy : σ → Nat} (conforms : Conforms bus pr defects drive busy) {machine : σ}
  {bytes : Nat → UInt8} {sector left : Nat}
include conforms

theorem readWords_meets (rest : Nat) {word : Nat} (last : word + rest = 255) (place : Nat)
    (out : Nat → UInt8) (still : busy machine = 0) (held : (drive machine).bytes = bytes)
    (phase : (drive machine).phase = .data false sector left word) :
    Meets (readWords bus pr (rest + 1) place out) machine (fun _ => False) fun filled after =>
      filled = overwrite out place (2 * (rest + 1)) (slice bytes (512 * sector + 2 * word)) ∧
        (drive after).bytes = bytes ∧
        (drive after).phase = offered defects.read false (sector + 1) (left - 1) := by
  induction rest generalizing word place out machine with
  | zero =>
    obtain rfl : word = 255 := last
    obtain ⟨shown, at_it, -⟩ := conforms.word_out machine sector left 255 still phase
    rw [readWords, meets_bind]
    refine inw_meets (Meets.pure ⟨?_, ?_, ?_⟩)
    · rw [shown, held, overwrite_wordBytes]
    · rw [at_it, held]
    · rw [at_it, if_pos rfl]
  | succ rest ih =>
    obtain ⟨shown, at_it, idle⟩ := conforms.word_out machine sector left word still phase
    have inner : word ≠ 255 := by omega
    rw [readWords, meets_bind]
    have next : word + 1 + rest = 255 := by omega
    refine inw_meets ((ih next (place + 2) _ (idle inner) ?_ ?_).mono fun _ _ ends => ?_)
    · rw [at_it, held]
    · rw [at_it, if_neg inner]
    · refine ⟨?_, ends.2⟩
      rw [ends.1, shown, held, overwrite_wordBytes]
      exact overwrite_next out bytes place (512 * sector + 2 * word) (rest + 1)

/-- The words go to the drive in their order, and are in the sector if it could be stored. -/
theorem writeWords_meets (input : Nat → UInt8) (rest : Nat) {word : Nat}
    (last : word + rest = 255) (place : Nat) (still : busy machine = 0)
    (held : (drive machine).bytes = bytes)
    (phase : (drive machine).phase = .data true sector left word) :
    Meets (writeWords bus pr input (rest + 1) place) machine (fun _ => False) fun _ after =>
      (∀ address, address / 512 ≠ sector → (drive after).bytes address = bytes address) ∧
        (defects.store sector = none → (drive after).bytes =
          overwrite bytes (512 * sector + 2 * word) (2 * (rest + 1)) (slice input place)) ∧
        (drive after).phase = afterStore defects sector left := by
  have elsewhere (values : Nat → UInt8) (address : Nat) (apart : address / 512 ≠ sector) :
      overwrite bytes (512 * sector + 2 * word) 2 values address = bytes address :=
    overwrite_outside _ _ _ _ _ (by omega)
  induction rest generalizing word place machine bytes with
  | zero =>
    obtain rfl : word = 255 := last
    rw [writeWords, meets_bind]
    refine outw_meets (Meets.pure ?_)
    by_cases lost : (defects.store sector).isSome
    · obtain ⟨apart, ends⟩ := conforms.word_lost machine sector left
        (BitVec.ofNat 16 (readWord input place)) still phase lost
      refine ⟨fun address other => held ▸ apart address other, fun none => ?_, ends⟩
      rw [none] at lost
      cases lost
    · obtain ⟨at_it, -⟩ := conforms.word_in machine sector left 255
        (BitVec.ofNat 16 (readWord input place)) still phase fun both => lost both.2
      rw [at_it, held, overwrite_wordBytes, if_pos rfl]
      exact ⟨elsewhere _, fun _ => rfl, rfl⟩
  | succ rest ih =>
    have inner : word ≠ 255 := by omega
    have next : word + 1 + rest = 255 := by omega
    obtain ⟨at_it, idle⟩ := conforms.word_in machine sector left word
      (BitVec.ofNat 16 (readWord input place)) still phase fun both => inner both.1
    rw [writeWords, meets_bind]
    refine outw_meets ((ih next (place + 2) (idle inner) rfl ?_ ?_).mono fun _ _ ends => ?_)
    · rw [at_it, if_neg inner]
    · intro values address apart
      exact overwrite_outside _ _ _ _ _ (by omega)
    · obtain ⟨apart, stored, phase⟩ := ends
      rw [at_it, held, overwrite_wordBytes] at apart stored
      refine ⟨fun address other => (apart address other).trans (elsewhere _ address other),
        fun good => ?_, phase⟩
      rw [stored good]
      exact overwrite_next bytes input (512 * sector + 2 * word) place (rest + 1)

end Words

end BobaOS.AtaPio
