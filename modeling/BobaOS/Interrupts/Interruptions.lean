import BobaOS.Interrupts.Stubs
import BobaOS.Library.Runs

/-!
# Interruptions

What a machine is like when the routine of a vector has returned: it goes on with what the
frame holds then. A handler that leaves the frame is not noticed by a program that does not
look below its stack pointer, however often the program is interrupted and wherever, unless the
processor pushes an error code: the routines for these vectors lose `rsi`.
-/

namespace BobaOS.Interrupts

open PackedRecords RecordStacks Runs

/-- The machine that a frame describes. -/
def TrapFrame.resume (frame : TrapFrame) (memory : BitVec 64 → UInt8) : Machine where
  registers := frame.register
  rip := frame.rip
  cs := frame.cs
  flags := frame.flags
  ss := frame.ds
  memory

variable {image : Image code} {machine : Machine} {stack : BitVec 64} {body : Machine → Machine}

/-! ## The way back -/

theorem code_last (vector : Fin 256) :
    (code (.int vector)).drop 7 = [.jump .loadRegisters] := by
  rw [code]
  split <;> rfl

/-- The registers are taken from the frame. -/
theorem performAll_restoring {frame : TrapFrame}
    (held : machine.registers .rsp = pushed word64 stack 21)
    (words : Stacked word64 machine.memory (pushed word64 stack 20)
      (savedRegisters.reverse.map frame.register)) :
    (image.performAll machine restoring).memory = machine.memory ∧
      (image.performAll machine restoring).registers .rsp = pushed word64 stack 5 ∧
      ∀ register ≠ .rsp, (image.performAll machine restoring).registers register =
        frame.register register := by
  obtain ⟨raised, is_raised⟩ : ∃ raised, raised = image.perform machine (.add .rsp 8) := ⟨_, rfl⟩
  have pointer : raised.registers .rsp = pushed word64 stack 20 := by
    rw [is_raised, Image.perform, ← stack_up stack 20, ← held]
    exact Function.update_self Register.rsp _ machine.registers
  have memory : raised.memory = machine.memory := by rw [is_raised]; rfl
  have popped := image.performAll_pop savedRegisters.reverse (by decide) frame.register raised
    (by rw [memory, pointer]; exact words) (by decide)
  have whole : image.performAll machine restoring =
      image.performAll raised (savedRegisters.reverse.map .pop) := by
    simp only [is_raised, restoring, Image.performAll, List.foldl_cons]
  have count : savedRegisters.reverse.length = 15 := rfl
  have all : ∀ register ≠ .rsp, register ∈ savedRegisters.reverse := by
    intro register
    cases register <;> decide
  rw [whole, popped]
  dsimp only
  refine ⟨memory, ?_, fun register other => ?_⟩
  · rw [if_pos rfl, count, pointer, ← pushed_over stack 5 15]
    rfl
  · rw [if_neg other, if_pos (all register other)]

/-- What the processor goes back to lies behind the registers. -/
theorem stacked_back {memory : BitVec 64 → UInt8} {frame : TrapFrame}
    (words : Stacked word64 memory (pushed word64 stack 20) frame.words) :
    Stacked word64 memory (pushed word64 stack 20) (savedRegisters.reverse.map frame.register) ∧
      Stacked word64 memory (pushed word64 stack 5)
        [frame.rip, frame.cs, frame.flags, frame.rsp, frame.ds] := by
  rw [TrapFrame.words_eq, stacked_append] at words
  have count : (savedRegisters.reverse.map frame.register).length = 15 := rfl
  have place : pushed word64 stack 20 + BitVec.ofNat 64 (word64.size * 15) =
      pushed word64 stack 5 := pushed_over stack 5 15
  rw [count, place] at words
  exact words

/-- The words that `iretq` takes. -/
theorem load_back {memory : BitVec 64 → UInt8} {address first second third fourth fifth : BitVec 64}
    (stacked : Stacked word64 memory address [first, second, third, fourth, fifth]) :
    word64.load memory (address + BitVec.ofNat 64 (8 * 0)) = first ∧
      word64.load memory (address + BitVec.ofNat 64 (8 * 1)) = second ∧
      word64.load memory (address + BitVec.ofNat 64 (8 * 2)) = third ∧
      word64.load memory (address + BitVec.ofNat 64 (8 * 3)) = fourth ∧
      word64.load memory (address + BitVec.ofNat 64 (8 * 4)) = fifth := by
  have size : BitVec.ofNat 64 word64.size = 8#64 := rfl
  simpa [Stacked, size, BitVec.add_assoc] using stacked

/-- From the return of `trapHandler` on, with a frame in its place. -/
theorem Steps.resumes {vector : Fin 256} {frame : TrapFrame}
    (here : machine.rip = image.address .trapHandler 1)
    (held : machine.registers .rsp = pushed word64 stack STUB_WORDS)
    (top : machine.top = image.address (.int vector) 7)
    (words : Stacked word64 machine.memory (pushed word64 stack 20) frame.words) :
    image.Steps body machine (frame.resume machine.memory) := by
  obtain ⟨registers, behind⟩ := stacked_back words
  have back : image.Steps body machine
      { machine.drop with rip := image.address (.int vector) 7 } := by
    rw [← top]
    exact .next here rfl
  have jump : image.Steps body { machine.drop with rip := image.address (.int vector) 7 }
      { machine.drop with rip := image.address .loadRegisters 0 } := .next rfl (code_last vector)
  obtain ⟨loading, is_loading⟩ : ∃ loading : Machine,
      loading = { machine.drop with rip := image.address .loadRegisters 0 } := ⟨_, rfl⟩
  have dropped : loading.registers .rsp = pushed word64 stack 21 := by
    have above : pushed word64 stack 21 = machine.registers .rsp + 8 := by
      rw [← stack_up stack 21, held]
      rfl
    rw [is_loading, above]
    exact Function.update_self Register.rsp _ machine.registers
  have same : loading.memory = machine.memory := by rw [is_loading]; rfl
  have load : image.Steps body loading { image.performAll loading restoring with
      rip := image.address .loadRegisters (0 + restoring.length) } :=
    .straight restoring [.iretq] (by rw [is_loading]) rfl
  rw [← same] at registers behind ⊢
  obtain ⟨memory, pointer, others⟩ := @performAll_restoring image loading stack frame dropped registers
  rw [← is_loading] at jump
  generalize image.performAll loading restoring = loaded at *
  have leave : image.Steps body { loaded with
      rip := image.address .loadRegisters (0 + restoring.length) } _ := .next rfl rfl
  have found : image.execute body (image.address .loadRegisters (0 + restoring.length + 1))
      { loaded with rip := image.address .loadRegisters (0 + restoring.length) } .iretq =
      frame.resume loading.memory := by
    obtain ⟨rip, cs, flags, rsp, ss⟩ := load_back behind
    rw [Image.execute, TrapFrame.resume]
    simp only [Machine.set, memory, pointer, rip, cs, flags, rsp, ss]
    congr 1
    funext register
    by_cases is_rsp : register = .rsp
    · rw [is_rsp, Function.update_self]
      rfl
    · rw [Function.update_of_ne is_rsp, others register is_rsp]
  rw [found] at leave
  exact ((back.trans jump).trans load).trans leave

/-! ## From the vector to the handler -/

/-- The processor pushes an error code for a vector of the table. -/
def Pushes (vector : Fin 256) (errorCode : Option (BitVec 64)) : Prop :=
  errorCode.isSome = true ↔ vector.val ∈ errorCodeVectors

/-- The frame that the handler sees: `rsi` has been lost to an error code. -/
def Machine.frameWith (machine : Machine) (errorCode : Option (BitVec 64)) : TrapFrame :=
  { machine.frame with rsi := errorCode.getD (machine.registers .rsi) }

theorem Machine.frameWith_register (errorCode : Option (BitVec 64)) :
    (machine.frameWith errorCode).register = Function.update machine.registers .rsi
      (errorCode.getD (machine.registers .rsi)) := by
  funext register
  by_cases is_rsi : register = .rsi
  · rw [is_rsi, Function.update_self]
    rfl
  · rw [Function.update_of_ne is_rsi, ← machine.frame_register]
    cases register <;> first | rfl | exact absurd rfl is_rsi

/-- The words of a frame are the registers that are saved. -/
theorem words_saved {frame : TrapFrame} {registers : Register → BitVec 64}
    (same : ∀ register ≠ .rsp, registers register = frame.register register) :
    frame.words = savedRegisters.reverse.map registers ++
      [frame.rip, frame.cs, frame.flags, frame.rsp, frame.ds] := by
  rw [frame.words_eq, List.map_congr_left fun register member => (same register ?_).symm]
  rintro rfl
  exact absurd member (by decide)

theorem pushed_short (errorCode : Option (BitVec 64)) :
    (machine.resumption ++ errorCode.toList).length ≤ 6 := by
  cases errorCode <;> simp [Machine.resumption]

/-- What the processor pushes lies at the stack pointer. -/
theorem stacked_deliver (vector : Fin 256) (errorCode : Option (BitVec 64)) :
    Stacked word64 (deliver image stack vector errorCode machine).memory
      ((deliver image stack vector errorCode machine).registers .rsp)
      (errorCode.toList ++
        [machine.rip, machine.cs, machine.flags, machine.registers .rsp, machine.ss]) := by
  have all := @Stacked.pushAll _ _ word64 (machine.resumption ++ errorCode.toList) machine.memory
    stack [] trivial (Nat.le_trans (Nat.mul_le_mul_left _ (pushed_short errorCode)) (by decide))
  have order : (machine.resumption ++ errorCode.toList).reverse ++ [] = errorCode.toList ++
      [machine.rip, machine.cs, machine.flags, machine.registers .rsp, machine.ss] := by
    cases errorCode <;> rfl
  rw [order] at all
  have place : (deliver image stack vector errorCode machine).registers .rsp =
      pushed word64 stack (machine.resumption ++ errorCode.toList).length :=
    Function.update_self Register.rsp _ machine.registers
  rw [place]
  exact all

/-- The processor writes to the stack only. -/
theorem deliver_outside {vector : Fin 256} {errorCode : Option (BitVec 64)} {tested : BitVec 64}
    (below : tested ∉ span (pushed word64 stack STUB_WORDS) (8 * STUB_WORDS)) :
    (deliver image stack vector errorCode machine).memory tested = machine.memory tested := by
  have short : (machine.resumption ++ errorCode.toList).length ≤ STUB_WORDS :=
    Nat.le_trans (pushed_short errorCode) (by decide)
  exact pushAll_outside _ (Nat.le_trans (Nat.mul_le_mul_left _ short) (by decide)) fun member =>
    below (words_inside (Nat.le_refl _) short member)

/-- The routine of a vector calls `trapHandler` with the vector, the error code if there is one
and the frame of the machine that was interrupted. -/
theorem calls_trapHandler {vector : Fin 256} {errorCode : Option (BitVec 64)}
    (pushes : Pushes vector errorCode) (clear : Clear image stack) :
    ∃ called, image.Steps body (deliver image stack vector errorCode machine) called ∧
      Called image stack vector (errorCode.getD 0) (machine.frameWith errorCode) machine called := by
  have stacked := @stacked_deliver image machine stack vector errorCode
  obtain ⟨entered, is_entered⟩ : ∃ entered,
      entered = deliver image stack vector errorCode machine := ⟨_, rfl⟩
  rw [← is_entered] at stacked ⊢
  have outside : ∀ tested ∉ span (pushed word64 stack STUB_WORDS) (8 * STUB_WORDS),
      entered.memory tested = machine.memory tested := by
    rw [is_entered]
    exact fun _ => deliver_outside
  have here : entered.rip = image.address (.int vector) 0 := by rw [is_entered]; rfl
  have registers : entered.registers = Function.update machine.registers .rsp
      (pushed word64 stack (machine.resumption ++ errorCode.toList).length) := by
    rw [is_entered]
    rfl
  clear is_entered
  cases errorCode with
  | none =>
    have plain : vector.val ∉ errorCodeVectors := fun member =>
      Bool.false_ne_true (pushes.mpr member)
    have held : entered.registers .rsp = pushed word64 stack 5 := by
      rw [registers, Function.update_self]
      rfl
    rw [held] at stacked
    obtain ⟨called, steps, calls⟩ := @calls image entered stack body vector 0 (passing vector) _
      (machine.frameWith none) here (by rw [code, if_neg plain]; rfl) rfl
      (passing_passes stack vector) held clear (words_saved fun register other => by
        rw [registers, Function.update_of_ne other, Machine.frameWith_register,
          Option.getD_none, Function.update_eq_self]) stacked
    exact ⟨called, steps, { calls with
      outside := fun tested below beside =>
        (calls.outside tested below beside).trans (outside tested below) }⟩
  | some word =>
    have special : vector.val ∈ errorCodeVectors := pushes.mp rfl
    have is_code : code (.int vector) = interruptErrorCode vector := by rw [code, if_pos special]
    have held : entered.registers .rsp = pushed word64 stack 6 := by
      rw [registers, Function.update_self]
      rfl
    rw [held] at stacked
    obtain ⟨top, stacked⟩ := stacked
    obtain ⟨taken, is_taken⟩ : ∃ taken : Machine, taken = { entered.drop.set .rsi word with
      rip := image.address (.int vector) 1 } := ⟨_, rfl⟩
    have take : image.Steps body entered taken := by
      rw [is_taken, ← top, ← held]
      exact .next here (by rw [is_code]; rfl)
    have place : pushed word64 stack 6 + BitVec.ofNat 64 word64.size = pushed word64 stack 5 :=
      pushed_back stack 5
    rw [place] at stacked
    have taken_registers : taken.registers = Function.update (Function.update machine.registers .rsp
        (pushed word64 stack 5)) .rsi word := by
      have raised : entered.registers .rsp + 8 = pushed word64 stack 5 := by
        rw [held]
        exact place
      rw [is_taken]
      show Function.update (Function.update entered.registers .rsp (entered.registers .rsp + 8))
        .rsi word = _
      rw [raised, registers, Function.update_idem]
    have memory : taken.memory = entered.memory := by rw [is_taken]; rfl
    have rip : taken.rip = image.address (.int vector) 1 := by rw [is_taken]
    have rsi : taken.registers .rsi = word := by rw [taken_registers, Function.update_self]
    obtain ⟨called, steps, calls⟩ := @calls image taken stack body vector 1
      (passingErrorCode vector) _ (machine.frameWith (some word)) rip (by rw [is_code]; rfl) rfl
      (passingErrorCode_passes stack vector)
      (by rw [taken_registers, Function.update_of_ne (by decide), Function.update_self]) clear
      (words_saved fun register other => by
        rw [taken_registers, Machine.frameWith_register, Option.getD_some,
          Function.update_comm (by decide), Function.update_of_ne other])
      (by rw [memory]; exact stacked)
    exact ⟨called, take.trans steps, { calls with
      rsi := calls.rsi.trans rsi
      outside := fun tested below beside => by
        rw [calls.outside tested below beside, memory, outside tested below] }⟩

/-- The routine of a vector hands the machine that was interrupted to `trapHandler`, and goes on
with whatever the frame holds when that returns. -/
theorem interrupt_resumes_frame {vector : Fin 256} {errorCode : Option (BitVec 64)}
    (pushes : Pushes vector errorCode) (clear : Clear image stack) :
    ∃ called, image.Steps body (deliver image stack vector errorCode machine) called ∧
      Called image stack vector (errorCode.getD 0) (machine.frameWith errorCode) machine called ∧
      ∀ frame : TrapFrame, (body called).registers .rsp = called.registers .rsp →
        (body called).top = called.top →
        Stacked word64 (body called).memory (called.registers .rdx) frame.words →
        image.Steps body called (frame.resume (body called).memory) := by
  obtain ⟨called, steps, calls⟩ := @calls_trapHandler image machine stack body vector errorCode
    pushes clear
  refine ⟨called, steps, calls, fun frame rsp top words => ?_⟩
  have enter : image.Steps body called { body called with rip := image.address .trapHandler 1 } :=
    .next calls.rip rfl
  refine enter.trans ?_
  rw [calls.rdx] at words
  exact @Steps.resumes image { body called with rip := image.address .trapHandler 1 } stack body
    vector frame rfl (rsp.trans calls.rsp) (top.trans calls.top) words

/-- The timer interrupts a machine that halts. -/
theorem interrupt_resumes_frame_idle :
    ∃ called, placed.Steps id (deliver placed 0x10000 32 none idle) called ∧
      Called placed 0x10000 32 0 (idle.frameWith none) idle called ∧
      ∀ frame : TrapFrame, called.registers .rsp = called.registers .rsp →
        called.top = called.top →
        Stacked word64 called.memory (called.registers .rdx) frame.words →
        placed.Steps id called (frame.resume called.memory) :=
  interrupt_resumes_frame (by rw [Pushes]; decide) placed_clear

/-! ## Handlers that leave the frame -/

/-- A compiled handler that writes to `own` and to at most `depth` bytes of the stack below its
return address only. -/
structure Quiet (body : Machine → Machine) (own : Set (BitVec 64)) (depth : Nat) : Prop where
  rsp : ∀ called, (body called).registers .rsp = called.registers .rsp
  memory : ∀ called, ∀ tested ∉ own,
    tested ∉ span (called.registers .rsp - BitVec.ofNat 64 depth) depth →
    (body called).memory tested = called.memory tested

/-- What a handler writes to lies apart from what the routine has put on the stack. -/
structure Room (image : Image code) (own : Set (BitVec 64)) (depth : Nat) (stack : BitVec 64) :
    Prop where
  clear : Clear image stack
  own_apart : Disjoint own (span (pushed word64 stack STUB_WORDS) (8 * STUB_WORDS))
  bounded : depth + 8 * STUB_WORDS ≤ 2 ^ 64

/-- The bytes that an interruption may leave different. -/
def scratch (image : Image code) (own : Set (BitVec 64)) (depth : Nat) (stack : BitVec 64) :
    Set (BitVec 64) := fun tested =>
  tested ∈ own ∨ (∃ cell, tested ∈ span (image.cell cell) 8) ∨
    tested ∈ span (pushed word64 stack STUB_WORDS - BitVec.ofNat 64 depth) (depth + 8 * STUB_WORDS)

variable {own : Set (BitVec 64)} {depth : Nat}

/-- The routine's part of the stack lies above the handler's. -/
theorem scratch_stack (bounded : depth + 8 * STUB_WORDS ≤ 2 ^ 64) :
    Disjoint (span (pushed word64 stack STUB_WORDS - BitVec.ofNat 64 depth) depth)
        (span (pushed word64 stack STUB_WORDS) (8 * STUB_WORDS)) ∧
      span (pushed word64 stack STUB_WORDS - BitVec.ofNat 64 depth) depth ∪
          span (pushed word64 stack STUB_WORDS) (8 * STUB_WORDS) =
        span (pushed word64 stack STUB_WORDS - BitVec.ofNat 64 depth) (depth + 8 * STUB_WORDS) := by
  have both := span_append (pushed word64 stack STUB_WORDS - BitVec.ofNat 64 depth) bounded
  rw [BitVec.sub_add_cancel] at both
  exact both

/-- A quiet handler leaves what the routine has put on the stack. -/
theorem Quiet.kept (quiet : Quiet body own depth) (room : Room image own depth stack)
    {called : Machine} (held : called.registers .rsp = pushed word64 stack STUB_WORDS) :
    ∀ tested ∈ span (pushed word64 stack STUB_WORDS) (8 * STUB_WORDS),
      (body called).memory tested = called.memory tested := by
  intro tested member
  refine quiet.memory called tested (fun written =>
    Set.disjoint_left.mp room.own_apart written member) fun written => ?_
  rw [held] at written
  exact Set.disjoint_left.mp (scratch_stack room.bounded).1 written member

/-- Under a quiet handler the machine goes on where it was interrupted, but `rsi` is the error
code if there was one. -/
theorem interrupt_returns {vector : Fin 256} {errorCode : Option (BitVec 64)}
    (pushes : Pushes vector errorCode) (quiet : Quiet body own depth)
    (room : Room image own depth stack) :
    ∃ memory, image.Steps body (deliver image stack vector errorCode machine)
        { machine with
          registers := Function.update machine.registers .rsi
            (errorCode.getD (machine.registers .rsi))
          memory } ∧
      ∀ tested ∉ scratch image own depth stack, memory tested = machine.memory tested := by
  obtain ⟨called, steps, calls, resumes⟩ := @interrupt_resumes_frame image machine stack body vector
    errorCode pushes room.clear
  have kept := quiet.kept room calls.rsp
  have top : (body called).top = called.top := by
    rw [Machine.top, Machine.top, quiet.rsp called, calls.rsp]
    apply word64.parse_congr
    intro offset inside
    exact kept _ (@words_inside stack 1 _ (by decide) (Nat.le_refl _) _
      (offset_mem inside (by decide)))
  have words : Stacked word64 (body called).memory (called.registers .rdx)
      (machine.frameWith errorCode).words := by
    rw [calls.rdx]
    have length : (machine.frameWith errorCode).words.length = 20 := rfl
    refine calls.words.congr (by rw [length]; decide) fun tested member => ?_
    rw [length] at member
    exact kept tested (@words_inside stack 20 20 (by decide) (by decide) _ member)
  have back := resumes (machine.frameWith errorCode) (quiet.rsp called) top words
  refine ⟨(body called).memory, steps.trans ?_, fun tested outside => ?_⟩
  · rw [TrapFrame.resume, Machine.frameWith_register] at back
    exact back
  · obtain ⟨not_own, rest⟩ := not_or.mp outside
    obtain ⟨not_cell, not_stack⟩ := not_or.mp rest
    rw [← (scratch_stack room.bounded).2, Set.mem_union, not_or] at not_stack
    rw [quiet.memory called tested not_own (by rw [calls.rsp]; exact not_stack.1)]
    exact calls.outside tested not_stack.2 fun cell member => not_cell ⟨cell, member⟩

/-- Exactly a vector whose error code is what `rsi` held gives the registers back: others that
come with an error code change `rsi` under the program. -/
theorem interrupt_restores_iff {vector : Fin 256} {errorCode : Option (BitVec 64)}
    (pushes : Pushes vector errorCode) (quiet : Quiet body own depth)
    (room : Room image own depth stack) :
    ∃ after, image.Steps body (deliver image stack vector errorCode machine) after ∧
      after.rip = machine.rip ∧
      (after.registers = machine.registers ↔
        vector.val ∈ errorCodeVectors → errorCode = some (machine.registers .rsi)) := by
  obtain ⟨memory, steps, -⟩ := @interrupt_returns image machine stack body own depth vector errorCode
    pushes quiet room
  refine ⟨_, steps, rfl, ?_⟩
  show Function.update machine.registers .rsi _ = machine.registers ↔ _
  have with_code : vector.val ∈ errorCodeVectors ↔ errorCode.isSome = true := pushes.symm
  rw [Function.update_eq_self_iff, with_code]
  cases errorCode with
  | none => exact ⟨fun _ some => absurd some (by decide), fun _ => rfl⟩
  | some word => simp

theorem quiet_id : Quiet id ∅ 0 := ⟨fun _ => rfl, fun _ _ _ _ => rfl⟩

theorem placed_room : Room placed ∅ 0 0x10000 :=
  ⟨placed_clear, Set.empty_disjoint _, by decide⟩

/-- A page fault of a machine that halts. -/
theorem interrupt_restores_iff_idle :
    ∃ after, placed.Steps id (deliver placed 0x10000 14 (some 2) idle) after ∧
      after.rip = idle.rip ∧ (after.registers = idle.registers ↔
        (14 : Fin 256).val ∈ errorCodeVectors → some 2 = some (idle.registers .rsi)) :=
  interrupt_restores_iff (by rw [Pushes]; decide) quiet_id placed_room

/-! ## Programs that are interrupted -/

/-- The stack on which the processor enters a routine when the privilege does not change. -/
def aligned (address : BitVec 64) : BitVec 64 := address &&& ~~~15#64

inductive Event where
  | work
  | interrupt (vector : Fin 256)

/-- An interruption: the program is outside of the routines and has room on its stack, and the
routine has run until the machine is outside again. -/
def Interruption (image : Image code) (body : Machine → Machine) (own : Set (BitVec 64))
    (depth : Nat) (vector : Fin 256) (machine after : Machine) : Prop :=
  vector.val ∉ errorCodeVectors ∧ image.point machine.rip = none ∧
    Room image own depth (aligned (machine.registers .rsp)) ∧
    image.Steps body (deliver image (aligned (machine.registers .rsp)) vector none machine) after ∧
    image.point after.rip = none

variable (image body own depth) in
/-- A program with interruptions anywhere. -/
def interrupted (program : Machine → Machine → Prop) (first : Machine) : System Machine Event where
  start machine := machine = first
  step machine event after :=
    match event with
    | .work => program machine after
    | .interrupt vector => Interruption image body own depth vector machine after

/-- The program by itself. -/
def undisturbed (program : Machine → Machine → Prop) (first : Machine) : System Machine Event where
  start machine := machine = first
  step machine event after :=
    match event with
    | .work => program machine after
    | .interrupt _ => after = machine

variable (image own depth) in
/-- A program cannot tell two machines apart: this holds of machines that differ in what an
interruption leaves different, and steps preserve it. -/
structure Blind (program alike : Machine → Machine → Prop) : Prop where
  refl : ∀ machine, alike machine machine
  trans : ∀ first second third, alike first second → alike second third → alike first third
  scratch : ∀ machine memory,
    (∀ tested ∉ scratch image own depth (aligned (machine.registers .rsp)),
      memory tested = machine.memory tested) → alike { machine with memory } machine
  steps : ∀ machine after other, alike machine other → program machine after →
    ∃ next, program other next ∧ alike after next

/-- Where the routines end, there is one way to go. -/
theorem Steps.unique {first last : Machine} {other : Machine} (left : image.Steps body first last)
    (right : image.Steps body first other) (stops : image.point last.rip = none)
    (other_stops : image.point other.rip = none) : last = other := by
  have halted {machine after : Machine} (outside : image.point machine.rip = none) :
      image.step body machine ≠ some after := by
    rw [Image.step, outside]
    exact Option.some_ne_none _ |>.symm
  have single : Relator.RightUnique fun machine after : Machine =>
      image.step body machine = some after := fun _ _ _ first second =>
    Option.some.inj (first.symm.trans second)
  rcases Relation.ReflTransGen.total_of_right_unique single left right with more | more
  · rcases more.cases_head with same | ⟨_, step, _⟩
    · exact same
    · exact absurd step (halted stops)
  · rcases more.cases_head with same | ⟨_, step, _⟩
    · exact same.symm
    · exact absurd step (halted other_stops)

/-- An interruption leaves only what the program cannot see. -/
theorem Interruption.alike {program alike : Machine → Machine → Prop} {vector : Fin 256}
    {after : Machine} (blind : Blind image own depth program alike) (quiet : Quiet body own depth)
    (interruption : Interruption image body own depth vector machine after) :
    alike after machine := by
  obtain ⟨plain, outside, room, steps, stops⟩ := interruption
  have pushes : Pushes vector none :=
    ⟨fun some => absurd some (by decide), fun member => absurd member plain⟩
  obtain ⟨memory, returns, kept⟩ := @interrupt_returns image machine _ body own depth vector none
    pushes quiet room
  rw [Option.getD_none, Function.update_eq_self] at returns
  rw [Steps.unique steps returns stops outside]
  exact blind.scratch machine memory kept

/-- However often a program is interrupted and wherever, it comes to a machine that it cannot tell
from one that it comes to by itself. -/
theorem interruptions_transparent {program alike : Machine → Machine → Prop} {first last : Machine}
    {events : List Event} (blind : Blind image own depth program alike)
    (quiet : Quiet body own depth)
    (reached : (interrupted image body own depth program first).Reaches events last) :
    ∃ other, (undisturbed program first).Reaches events other ∧ alike last other := by
  have simulation : System.Simulation (interrupted image body own depth program first)
      (undisturbed program first) alike := by
    constructor
    · rintro state started
      exact ⟨first, rfl, started ▸ blind.refl state⟩
    · intro state after label view related stepped
      cases label with
      | work => exact blind.steps state after view related stepped
      | interrupt vector =>
        exact ⟨view, rfl, blind.trans _ _ _ (Interruption.alike blind quiet stepped) related⟩
  exact simulation.reached reached

/-- A machine without its memory. -/
def Machine.blank (machine : Machine) : Machine := { machine with memory := fun _ => 0 }

/-- A machine that halts does not look at its memory. -/
theorem blind_idle : Blind placed ∅ 0 (fun machine after => after = machine)
    (fun machine other => machine.blank = other.blank) where
  refl _ := rfl
  trans _ _ _ := Eq.trans
  scratch _ _ _ := rfl
  steps _ _ other alike same := ⟨other, rfl, same ▸ alike⟩

theorem interruptions_transparent_idle : ∃ last other,
    (interrupted placed id ∅ 0 (fun machine after => after = machine) idle).Reaches
        [.interrupt 32] last ∧
      (undisturbed (fun machine after => after = machine) idle).Reaches [.interrupt 32] other ∧
      last.blank = other.blank := by
  have plain : (32 : Fin 256).val ∉ errorCodeVectors := by decide
  have pushes : Pushes 32 none := by rw [Pushes]; decide
  have stack : aligned (idle.registers .rsp) = 0x10000 := rfl
  have outside : placed.point idle.rip = none := rfl
  obtain ⟨memory, steps, -⟩ := @interrupt_returns placed idle 0x10000 id ∅ 0 32 none pushes quiet_id
    placed_room
  rw [Option.getD_none, Function.update_eq_self] at steps
  have interruption : Interruption placed id ∅ 0 32 idle { idle with memory } :=
    ⟨plain, outside, by rw [stack]; exact placed_room, by rw [stack]; exact steps, outside⟩
  have reached : (interrupted placed id ∅ 0 (fun machine after => after = machine) idle).Reaches
      ([] ++ [Event.interrupt 32]) { idle with memory } :=
    .step [] idle _ (Event.interrupt 32) (.start idle rfl) interruption
  obtain ⟨other, alone, alike⟩ := interruptions_transparent blind_idle quiet_id reached
  exact ⟨_, other, reached, alone, alike⟩

end BobaOS.Interrupts
