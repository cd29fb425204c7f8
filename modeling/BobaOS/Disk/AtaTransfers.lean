import BobaOS.Disk.AtaProtocol

/-!
# Transfers of an ATA drive

A drive that cannot go on either asks for data all the same or does not, and the driver, which
waits for data before it looks for an error, is told of the first kind only. It also waits for
ever for sectors that it did not tell the drive of, and is not told that the last sector of a
write could not be stored.
-/

namespace BobaOS.AtaPio

open ByteStore Programs

/-! ## How a transfer ends -/

/-- A transfer moves all its sectors, is told of a failure before one of them, or waits for
ever. -/
inductive Ending where
  | complete
  | failed (index : Nat)
  | waits
deriving DecidableEq

/-- The first trouble decides, and a drive that was told of too few sectors asks for no more. -/
def ending (trouble : Nat → Option Bool) (count : Nat) : Nat → Nat → Ending
  | 0, _ => .complete
  | left + 1, index =>
    match trouble index with
    | some true => .failed index
    | some false => .waits
    | none => if count ≤ index then .waits else ending trouble count left (index + 1)

/-- What the drive is at before the sector with an index. -/
def facing (trouble : Nat → Option Bool) (count : Nat) (write : Bool) (first index : Nat) : Phase :=
  match trouble index with
  | some asks => .failed asks
  | none => if count ≤ index then .ready else .data write (first + index) (count - index) 0

/-- What keeps a drive from handing out a sector. -/
def readTrouble (defects : Defects) (first count index : Nat) : Option Bool :=
  if index < count then defects.read (first + index) else none

/-- What keeps it from taking one: it could not store the sector before, or cannot begin. -/
def writeTrouble (defects : Defects) (first count : Nat) : Nat → Option Bool
  | 0 => if 0 < count then defects.take first else none
  | index + 1 =>
    match defects.store (first + index) with
    | some asks => some asks
    | none => if index + 1 < count then defects.take (first + (index + 1)) else none

theorem offered_read (defects : Defects) (first count index : Nat) :
    offered defects.read false (first + index) (count - index) =
      facing (readTrouble defects first count) count false first index := by
  by_cases more : index < count
  · have some : ¬ count - index = 0 := by omega
    have within : ¬ count ≤ index := by omega
    cases found : defects.read (first + index) <;>
      simp only [offered, facing, readTrouble, if_neg some, if_pos more, if_neg within, found]
  · have none : count - index = 0 := by omega
    have ended : count ≤ index := by omega
    simp only [offered, facing, readTrouble, if_pos none, if_neg more, if_pos ended]

theorem offered_write (defects : Defects) (first count : Nat) :
    offered defects.take true first count =
      facing (writeTrouble defects first count) count true first 0 := by
  by_cases more : 0 < count
  · have some : ¬ count = 0 := by omega
    have within : ¬ count ≤ 0 := by omega
    cases found : defects.take first <;>
      simp only [offered, facing, writeTrouble, if_neg some, if_pos more, if_neg within, found,
        Nat.add_zero, Nat.sub_zero]
  · have none : count = 0 := by omega
    have ended : count ≤ 0 := by omega
    simp only [offered, facing, writeTrouble, if_pos none, if_neg more, if_pos ended]

theorem afterStore_write (defects : Defects) (first count index : Nat) :
    afterStore defects (first + index) (count - index) =
      facing (writeTrouble defects first count) count true first (index + 1) := by
  cases stored : defects.store (first + index) with
  | some asks => simp only [afterStore, facing, writeTrouble, stored]
  | none =>
    by_cases more : index + 1 < count
    · have some : ¬ count - (index + 1) = 0 := by omega
      have within : ¬ count ≤ index + 1 := by omega
      cases found : defects.take (first + (index + 1)) <;>
        simp only [afterStore, offered, facing, writeTrouble, stored, Nat.sub_sub, Nat.add_assoc,
          if_neg some, if_pos more, if_neg within, found]
    · have none : count - (index + 1) = 0 := by omega
      have ended : count ≤ index + 1 := by omega
      simp only [afterStore, offered, facing, writeTrouble, stored, Nat.sub_sub, if_pos none,
        if_neg more, if_pos ended]

/-- The transfer is complete exactly if the drive was told of its sectors and none makes
trouble. -/
theorem ending_complete {trouble : Nat → Option Bool} {count left index : Nat} :
    ending trouble count left index = .complete ↔
      (left = 0 ∨ index + left ≤ count) ∧ ∀ nth < left, trouble (index + nth) = none := by
  induction left generalizing index with
  | zero => exact iff_of_true rfl ⟨.inl rfl, fun nth none => absurd none (Nat.not_lt_zero nth)⟩
  | succ left ih =>
    rw [ending]
    constructor
    · intro complete
      cases at_it : trouble index with
      | some asks => cases asks <;> simp [at_it] at complete
      | none =>
        rw [at_it] at complete
        simp only at complete
        split at complete
        · cases complete
        · obtain ⟨within, clear⟩ := ih.mp complete
          refine ⟨.inr (by omega), fun nth before => ?_⟩
          cases nth with
          | zero => exact at_it
          | succ nth =>
            rw [show index + (nth + 1) = index + 1 + nth by omega]
            exact clear nth (by omega)
    · rintro ⟨within, clear⟩
      rw [show trouble index = none from clear 0 (Nat.succ_pos left)]
      simp only
      rw [if_neg (by omega)]
      refine ih.mpr ⟨by omega, fun nth before => ?_⟩
      rw [show index + 1 + nth = index + (nth + 1) by omega]
      exact clear (nth + 1) (by omega)

/-- It fails at one of its sectors. -/
theorem ending_failed_lt {trouble : Nat → Option Bool} {count left index failed : Nat}
    (came : ending trouble count left index = .failed failed) : failed < index + left := by
  induction left generalizing index with
  | zero => cases came
  | succ left ih =>
    rw [ending] at came
    split at came
    · injection came with place
      omega
    · cases came
    · split at came
      · cases came
      · have within := ih came
        omega

/-- The end of a transfer that fails nowhere, or at a sector. -/
def Ending.at : Option Nat → Ending
  | none => .complete
  | some index => .failed index

/-- A program ends as a transfer does. -/
def EndsAs {σ α : Type} (program : Nat → Program σ Fault α) (machine : σ)
    (post : Option Nat → α → σ → Prop) : Ending → Prop
  | .complete => Settles .endless program machine (post none)
  | .failed index => Settles .endless program machine (post (some index))
  | .waits => Endless .endless program machine

section EndsAs

variable {σ α β : Type} {program : Nat → Program σ Fault α} {machine : σ} {post : α → σ → Prop}

/-- What comes behind a program that settles ends the whole. -/
theorem EndsAs.behind {next : Nat → α → Program σ Fault β} {ends : Option Nat → β → σ → Prop}
    {came : Ending} (settles : Settles .endless program machine post)
    (onward : ∀ value after, post value after →
      EndsAs (fun patience => next patience value) after ends came) :
    EndsAs (fun patience => program patience >>= next patience) machine ends came := by
  cases came with
  | complete => exact settles.bind onward
  | failed index => exact settles.bind onward
  | waits => exact settles.endless onward

/-- What comes behind a program that ends as a transfer does, where it ends. -/
theorem EndsAs.onward {next : Nat → α → Program σ Fault β} {before : Option Nat → α → σ → Prop}
    {ends : Option Nat → β → σ → Prop} {came : Ending} (ended : EndsAs program machine before came)
    (completes : came = .complete → ∀ value after, before none value after →
      Settles .endless (fun patience => next patience value) after (ends none))
    (fails : ∀ index, came = .failed index → ∀ value after, before (some index) value after →
      Settles .endless (fun patience => next patience value) after (ends (some index))) :
    EndsAs (fun patience => program patience >>= next patience) machine ends came := by
  cases came with
  | complete => exact Settles.bind ended (completes rfl)
  | failed index => exact Settles.bind ended (fails index rfl)
  | waits => exact Endless.bind ended

/-- What it settles at is what it ends with. -/
theorem EndsAs.settled {ends : Option Nat → α → σ → Prop} {came : Ending}
    (ended : EndsAs program machine ends came) (settles : Settles .endless program machine post) :
    ∃ failed value after, came = .at failed ∧ ends failed value after ∧ post value after := by
  cases came with
  | complete =>
    obtain ⟨value, after, holds, also⟩ := (Settles.and ended settles).exists
    exact ⟨none, value, after, rfl, holds, also⟩
  | failed index =>
    obtain ⟨value, after, holds, also⟩ := (Settles.and ended settles).exists
    exact ⟨some index, value, after, rfl, holds, also⟩
  | waits => exact absurd settles (Endless.not_settles ended)

end EndsAs

section Sectors

variable {σ α : Type} {bus : Bus σ} {pr : AtaPioPrivate} {defects : Defects} {drive : σ → Drive}
  {busy : σ → Nat} (conforms : Conforms bus pr defects drive busy) {machine : σ}
  {bytes : Nat → UInt8} {first count : Nat}
include conforms

/-- The driver before a sector: it waits for data, looks for an error, and moves the words. -/
theorem EndsAs.sector {trouble : Nat → Option Bool} {write : Bool} {index left : Nat}
    {fail : Program σ Fault α} {move : Nat → Program σ Fault α}
    {ends : Option Nat → α → σ → Prop}
    (phase : (drive machine).phase = facing trouble count write first index)
    (fails : ∀ after, drive after = drive machine → (drive after).phase = .failed true →
      Meets fail after (fun _ => False) (ends (some index)))
    (moves : ∀ after, drive after = drive machine → busy after = 0 → trouble index = none →
      (drive after).phase = .data write (first + index) (count - index) 0 →
      EndsAs move after ends (ending trouble count left (index + 1))) :
    EndsAs (fun patience => ataPioWaitDrq bus pr.port patience >>= fun _ =>
      checkStatusError bus pr.port >>= fun found => if found then fail else move patience)
      machine ends (ending trouble count (left + 1) index) := by
  rw [ending]
  rw [facing] at phase
  have waits (quiet : ¬ (drive machine).phase.Asks) : EndsAs (fun patience =>
      ataPioWaitDrq bus pr.port patience >>= fun _ => checkStatusError bus pr.port >>= fun found =>
        if found then fail else move patience) machine ends .waits :=
    (ataPioWaitDrq_endless conforms quiet).bind
  cases at_it : trouble index with
  | some asks =>
    rw [at_it] at phase
    cases asks with
    | false => exact waits (phase ▸ Bool.false_ne_true)
    | true =>
      refine EndsAs.behind (ataPioWaitDrq_settles conforms _ rfl (phase ▸ rfl))
        fun _ asked before => ?_
      refine EndsAs.behind (.of_meets (checkStatusError_meets conforms _ before.1 before.2))
        fun found after looked => ?_
      obtain rfl : found = true := looked.1.mpr (phase ▸ trivial)
      exact Settles.of_meets (fails after looked.2.1 (looked.2.1 ▸ phase))
  | none =>
    rw [at_it] at phase
    by_cases none : count ≤ index
    · simp only [if_pos none] at phase ⊢
      exact waits (phase ▸ id)
    · simp only [if_neg none] at phase ⊢
      refine EndsAs.behind (ataPioWaitDrq_settles conforms _ rfl (phase ▸ trivial))
        fun _ asked before => ?_
      refine EndsAs.behind (.of_meets (checkStatusError_meets conforms _ before.1 before.2))
        fun found after looked => ?_
      obtain rfl : found = false := Bool.eq_false_iff.mpr fun set => by
        have failed := looked.1.mp set
        rw [phase] at failed
        exact failed
      exact moves after looked.2.1 looked.2.2 at_it (looked.2.1 ▸ phase)

theorem getErrorCode_meets : Meets (getErrorCode bus pr.port) machine (fun _ => False)
    fun _ after => drive after = drive machine := inb_meets (conforms.error_keeps machine)

/-- The sectors before the end are behind `out`, and the disk is as it was. -/
def ReadEnds (drive : σ → Drive) (defects : Defects) (bytes : Nat → UInt8)
    (first count total : Nat) (out : Nat → UInt8) (failed : Option Nat)
    (result : Code × (Nat → UInt8)) (after : σ) : Prop :=
  (drive after).bytes = bytes ∧
    match failed with
    | none => result = (SUCCESS, overwrite out 0 (512 * total) (slice bytes (512 * first))) ∧
        (drive after).phase = facing (readTrouble defects first count) count false first total
    | some index =>
      result = (-EHARDWARE, overwrite out 0 (512 * index) (slice bytes (512 * first))) ∧
        (drive after).phase = .failed true

/-- By induction on the sectors that are left. -/
theorem readSectors_ends (out : Nat → UInt8) (left : Nat) {index : Nat}
    (held : (drive machine).bytes = bytes) (phase : (drive machine).phase =
      facing (readTrouble defects first count) count false first index) :
    EndsAs (fun patience => readSectors bus pr patience left (512 * index)
        (overwrite out 0 (512 * index) (slice bytes (512 * first)))) machine
      (ReadEnds drive defects bytes first count (index + left) out)
      (ending (readTrouble defects first count) count left index) := by
  induction left generalizing index machine with
  | zero => exact Settles.pure ⟨held, rfl, phase⟩
  | succ left ih =>
    simp only [readSectors]
    refine EndsAs.sector conforms phase (fun after same failed => ?_)
      fun after same still clear phase => ?_
    · exact (getErrorCode_meets conforms).bind fun _ final kept =>
        Meets.pure ⟨by rw [kept, same, held], rfl, by rw [kept, failed]⟩
    · have last : 0 + 255 = 255 := rfl
      refine EndsAs.behind (.of_meets (readWords_meets conforms 255 last (512 * index)
        (overwrite out 0 (512 * index) (slice bytes (512 * first))) still (same ▸ held) phase))
        fun filled final ends => ?_
      have next : filled = overwrite out 0 (512 * (index + 1)) (slice bytes (512 * first)) := by
        have joined := overwrite_append out 0 (512 * index) 512 (slice bytes (512 * first))
        rw [slice_slice, ← Nat.mul_add, Nat.zero_add, ← Nat.mul_add_one] at joined
        rw [ends.1, ← joined]
        rfl
      rw [next, ← Nat.mul_add_one, show index + (left + 1) = index + 1 + left by omega]
      apply ih ends.2.1
      rw [ends.2.2, Nat.sub_sub]
      exact offered_read defects first count (index + 1)

/-- The sector is the last one that the drive took, and it could not store it. -/
def Lost (defects : Defects) (first index sector : Nat) : Prop :=
  0 < index ∧ sector + 1 = first + index ∧ (defects.store sector).isSome

/-- Apart from a lost sector, the first ones are the bytes of `input` and the others as before. -/
def Stored (defects : Defects) (bytes : Nat → UInt8) (first index : Nat) (input : Nat → UInt8)
    (now : Nat → UInt8) : Prop :=
  ∀ address, ¬ Lost defects first index (address / 512) →
    now address = overwrite bytes (512 * first) (512 * index) input address

def SectorsStored (drive : σ → Drive) (defects : Defects) (bytes : Nat → UInt8)
    (first count total : Nat) (input : Nat → UInt8) (failed : Option Nat) (code : Code)
    (after : σ) : Prop :=
  match failed with
  | none => code = SUCCESS ∧ Stored defects bytes first total input (drive after).bytes ∧
      (drive after).phase = facing (writeTrouble defects first count) count true first total
  | some index => code = -EHARDWARE ∧ Stored defects bytes first index input (drive after).bytes ∧
      (drive after).phase = .failed true

omit conforms in
/-- One sector more. Where the next one makes no trouble, none was lost. -/
theorem Stored.next {now after input : Nat → UInt8} {index : Nat}
    (stored : Stored defects bytes first index input now)
    (clear : writeTrouble defects first count index = none)
    (apart : ∀ address, address / 512 ≠ first + index → after address = now address)
    (taken : defects.store (first + index) = none →
      after = overwrite now (512 * (first + index)) 512 (slice input (512 * index))) :
    Stored defects bytes first (index + 1) input after := by
  have whole : now = overwrite bytes (512 * first) (512 * index) input := by
    funext address
    apply stored
    rintro ⟨some, place, lost⟩
    obtain ⟨before, rfl⟩ := Nat.exists_eq_add_of_lt some
    rw [Nat.zero_add] at place clear
    rw [show address / 512 = first + before by omega] at lost
    rw [writeTrouble] at clear
    cases found : defects.store (first + before) with
    | none =>
      rw [found] at lost
      cases lost
    | some asks =>
      rw [found] at clear
      cases clear
  have joined := overwrite_append bytes (512 * first) (512 * index) 512 input
  rw [← Nat.mul_add, ← whole, ← Nat.mul_add_one] at joined
  intro address kept
  by_cases inside : address / 512 = first + index
  · have good : defects.store (first + index) = none := by
      apply Option.not_isSome_iff_eq_none.mp
      intro lost
      exact kept ⟨Nat.succ_pos index, by omega, inside ▸ lost⟩
    rw [taken good, joined]
  · rw [apart address inside, ← joined]
    exact (overwrite_outside _ _ _ _ _ (by omega)).symm

theorem writeSectors_ends (input : Nat → UInt8) (left : Nat) {index : Nat}
    (stored : Stored defects bytes first index input (drive machine).bytes)
    (phase : (drive machine).phase =
      facing (writeTrouble defects first count) count true first index) :
    EndsAs (fun patience => writeSectors bus pr patience input left (512 * index)) machine
      (SectorsStored drive defects bytes first count (index + left) input)
      (ending (writeTrouble defects first count) count left index) := by
  induction left generalizing index machine with
  | zero => exact Settles.pure ⟨rfl, stored, phase⟩
  | succ left ih =>
    simp only [writeSectors]
    refine EndsAs.sector conforms phase (fun after same failed => ?_)
      fun after same still clear phase => ?_
    · exact (getErrorCode_meets conforms).bind fun _ final kept =>
        Meets.pure ⟨rfl, by rwa [kept, same], by rw [kept, failed]⟩
    · have last : 0 + 255 = 255 := rfl
      refine EndsAs.behind (.of_meets (writeWords_meets conforms input 255 last (512 * index) still
        (congrArg Drive.bytes same) phase)) fun _ final ends => ?_
      obtain ⟨apart, taken, phase⟩ := ends
      rw [← Nat.mul_add_one, show index + (left + 1) = index + 1 + left by omega]
      exact ih (stored.next clear apart taken)
        (phase.trans (afterStore_write defects first count index))

end Sectors

section Transfers

variable {σ : Type} {bus : Bus σ} {pr : AtaPioPrivate} {defects : Defects} {drive : σ → Drive}
  {busy : σ → Nat} (conforms : Conforms bus pr defects drive busy)
  (harmless : UInt8.ofNat pr.select.toNat &&& ATAPIO_DEVICECON_SRST = 0) {machine : σ}
include conforms harmless

/-- A read from a drive that takes commands ends as the first trouble decides. -/
theorem ataPioRead_ends (idle : (drive machine).phase.Idle) (lba total : Nat)
    (out : Nat → UInt8) :
    EndsAs (ataPioRead bus pr lba total out) machine
      (ReadEnds drive defects (drive machine).bytes (lba % 2 ^ 28) (told total) total out)
      (ending (readTrouble defects (lba % 2 ^ 28) (told total)) (told total) total 0) := by
  refine EndsAs.behind (beginTransfer_settles conforms ATAPIO_COMMAND_READ_SECTORS
    conforms.read_command harmless lba total idle) fun _ after begun => ?_
  have phase := begun.2.trans (offered_read defects (lba % 2 ^ 28) (told total) 0)
  have ends := readSectors_ends conforms out total begun.1 phase
  rwa [Nat.mul_zero, overwrite_empty, Nat.zero_add] at ends

/-- What a write leaves: the drive takes the next command. -/
def WriteEnds (drive : σ → Drive) (defects : Defects) (bytes : Nat → UInt8) (first total : Nat)
    (input : Nat → UInt8) (failed : Option Nat) (code : Code) (after : σ) : Prop :=
  (drive after).phase.Idle ∧
    match failed with
    | none => code = SUCCESS ∧ Stored defects bytes first total input (drive after).bytes
    | some index => code = -EHARDWARE ∧ Stored defects bytes first index input (drive after).bytes

omit harmless in
/-- A drive that takes commands has its cache flushed, or was still busy and missed it. -/
theorem cacheFlush_settles (idle : (drive machine).phase.Idle) :
    Settles .endless (cacheFlush bus pr.port) machine fun _ after =>
      (drive after).phase.Idle ∧ (drive after).bytes = (drive machine).bytes := by
  have flushed : Meets (outb bus (pr.port + ATAPIO_REG_COMMAND) CACHE_FLUSH) machine
      (fun _ => False) fun _ after =>
        (drive after).phase.Idle ∧ (drive after).bytes = (drive machine).bytes := by
    apply outb_meets
    obtain at_it | ⟨-, at_it⟩ := conforms.flush_command machine idle
    · rw [at_it]
      exact ⟨trivial, rfl⟩
    · rw [at_it]
      exact ⟨idle, rfl⟩
  refine Settles.bind (.of_meets flushed) fun _ after holds => ?_
  refine Settles.bind (ataPioWaitBsy_settles conforms _ rfl) fun _ final kept =>
    Settles.pure ?_
  rwa [kept.1]

/-- A write ends as the first trouble decides. Whether the last sector could be stored, it does
not ask. -/
theorem ataPioWrite_ends (idle : (drive machine).phase.Idle) (lba : Nat) {total : Nat}
    (some : 0 < total) (input : Nat → UInt8) :
    EndsAs (ataPioWrite bus pr lba total input) machine
      (WriteEnds drive defects (drive machine).bytes (lba % 2 ^ 28) total input)
      (ending (writeTrouble defects (lba % 2 ^ 28) (told total)) (told total) total 0) := by
  refine EndsAs.behind (beginTransfer_settles conforms ATAPIO_COMMAND_WRITE_SECTORS
    conforms.write_command harmless lba total idle) fun _ after begun => ?_
  have phase := begun.2.trans (offered_write defects (lba % 2 ^ 28) (told total))
  have stored : Stored defects (drive machine).bytes (lba % 2 ^ 28) 0 input (drive after).bytes := by
    intro address _
    rw [Nat.mul_zero, overwrite_empty, begun.1]
  refine (writeSectors_ends conforms input total stored phase).onward ?_ ?_
  · rintro complete _ final ⟨rfl, stored, phase⟩
    obtain ⟨none | within, -⟩ := ending_complete.mp complete
    · omega
    · rw [Nat.zero_add] at stored phase within
      rw [told_of_le some (le_told.mp within)] at phase
      have idle : (drive final).phase.Idle := by
        rw [phase, facing]
        split
        · trivial
        · rw [if_pos (Nat.le_refl total)]
          trivial
      refine Settles.bind (cacheFlush_settles conforms idle) fun _ last flushed =>
        Settles.pure ⟨flushed.1, rfl, ?_⟩
      rwa [flushed.2]
  · rintro index - _ final ⟨rfl, stored, phase⟩
    exact Settles.pure ⟨phase ▸ trivial, rfl, stored⟩

end Transfers

end BobaOS.AtaPio
