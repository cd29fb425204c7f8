import BobaOS.Interrupts.Machine

/-!
# The routines for the vectors

`idt.asm`: the routine of a vector saves the registers on the stack, calls `trapHandler` with
the vector and a pointer to what has been saved, and restores the registers from there. The
processor has pushed what it goes back to before; where it has pushed an error code too, the
routine takes it off first.
-/

namespace BobaOS.Interrupts

open PackedRecords RecordStacks

/-! ## Code -/

/-- The registers in the order in which `saveRegisters` pushes them. -/
def savedRegisters : List Register :=
  [.rax, .rbx, .rcx, .rdx, .rsi, .rdi, .rbp, .r8, .r9, .r10, .r11, .r12, .r13, .r14, .r15]

/-- The vectors whose routine is made by `interruptErrorCode`. -/
def errorCodeVectors : List Nat := [8, 10, 11, 12, 13, 14, 17, 21, 29, 30]

/-- `saveRegisters` up to its jump. The return address waits in a word of its own, and `rax`
in another one. -/
def saving : List Operation :=
  [.store .tempSave .rax, .pop .rax, .store .saveRetAddress .rax, .load .rax .tempSave] ++
    savedRegisters.map .push ++ [.load .rax .saveRetAddress]

def saveRegisters : List Instruction := saving.map .operation ++ [.jumpTo .rax]

/-- `loadRegisters` up to its return. -/
def restoring : List Operation := .add .rsp 8 :: savedRegisters.reverse.map .pop

def loadRegisters : List Instruction := restoring.map .operation ++ [.iretq]

/-- The arguments of `trapHandler`: `rsi` is the second one. -/
def passing (vector : Fin 256) : List Operation :=
  [.sub .rsp 8, .move .rdi (BitVec.ofNat 64 vector), .xor .rsi .rsi, .copy .rdx .rsp, .add .rdx 8]

/-- The same where `rsi` has been loaded before. -/
def passingErrorCode (vector : Fin 256) : List Operation :=
  [.sub .rsp 8, .move .rdi (BitVec.ofNat 64 vector), .copy .rdx .rsp, .add .rdx 8]

/-- The macro `interrupt`. -/
def interrupt (vector : Fin 256) : List Instruction :=
  [.call .saveRegisters] ++ (passing vector).map .operation ++
    [.call .trapHandler, .jump .loadRegisters]

/-- The macro `interruptErrorCode`. -/
def interruptErrorCode (vector : Fin 256) : List Instruction :=
  [.operation (.pop .rsi), .call .saveRegisters] ++ (passingErrorCode vector).map .operation ++
    [.call .trapHandler, .jump .loadRegisters]

def code : Routine → List Instruction
  | .int vector => if vector.val ∈ errorCodeVectors then interruptErrorCode vector else interrupt vector
  | .saveRegisters => saveRegisters
  | .loadRegisters => loadRegisters
  | .trapHandler => [.body, .ret]

/-! ## The frame -/

structure TrapFrame where
  r15 : BitVec 64
  r14 : BitVec 64
  r13 : BitVec 64
  r12 : BitVec 64
  r11 : BitVec 64
  r10 : BitVec 64
  r9 : BitVec 64
  r8 : BitVec 64
  rbp : BitVec 64
  rdi : BitVec 64
  rsi : BitVec 64
  rdx : BitVec 64
  rcx : BitVec 64
  rbx : BitVec 64
  rax : BitVec 64
  rip : BitVec 64
  cs : BitVec 64
  flags : BitVec 64
  rsp : BitVec 64
  ds : BitVec 64
deriving DecidableEq

/-- The words of the packed record. -/
def TrapFrame.words (frame : TrapFrame) : List (BitVec 64) :=
  [frame.r15, frame.r14, frame.r13, frame.r12, frame.r11, frame.r10, frame.r9, frame.r8, frame.rbp,
    frame.rdi, frame.rsi, frame.rdx, frame.rcx, frame.rbx, frame.rax, frame.rip, frame.cs,
    frame.flags, frame.rsp, frame.ds]

/-- What the frame says of a register. -/
def TrapFrame.register (frame : TrapFrame) : Register → BitVec 64
  | .rax => frame.rax
  | .rbx => frame.rbx
  | .rcx => frame.rcx
  | .rdx => frame.rdx
  | .rsi => frame.rsi
  | .rdi => frame.rdi
  | .rbp => frame.rbp
  | .rsp => frame.rsp
  | .r8 => frame.r8
  | .r9 => frame.r9
  | .r10 => frame.r10
  | .r11 => frame.r11
  | .r12 => frame.r12
  | .r13 => frame.r13
  | .r14 => frame.r14
  | .r15 => frame.r15

/-- The frame of a machine. -/
def Machine.frame (machine : Machine) : TrapFrame where
  r15 := machine.registers .r15
  r14 := machine.registers .r14
  r13 := machine.registers .r13
  r12 := machine.registers .r12
  r11 := machine.registers .r11
  r10 := machine.registers .r10
  r9 := machine.registers .r9
  r8 := machine.registers .r8
  rbp := machine.registers .rbp
  rdi := machine.registers .rdi
  rsi := machine.registers .rsi
  rdx := machine.registers .rdx
  rcx := machine.registers .rcx
  rbx := machine.registers .rbx
  rax := machine.registers .rax
  rip := machine.rip
  cs := machine.cs
  flags := machine.flags
  rsp := machine.registers .rsp
  ds := machine.ss

/-- The registers are declared in the order in which they are pushed, the last one first. -/
theorem TrapFrame.words_eq (frame : TrapFrame) : frame.words =
    savedRegisters.reverse.map frame.register ++
      [frame.rip, frame.cs, frame.flags, frame.rsp, frame.ds] := rfl

theorem Machine.frame_register (machine : Machine) (register : Register) :
    machine.frame.register register = machine.registers register := by
  cases register <;> rfl

/-! ## The processor -/

def BOBAOS_KERNEL_SELECTOR_CODE : BitVec 64 := 0x8

/-- The flags that an interrupt gate clears. -/
def gateFlags : BitVec 64 := 0x34300

/-- What the processor pushes, the first word first. -/
def Machine.resumption (machine : Machine) : List (BitVec 64) :=
  [machine.ss, machine.registers .rsp, machine.flags, machine.cs, machine.rip]

variable (image : Image code)

/-- The processor enters the routine of a vector, on a stack that ends at `stack`. -/
def deliver (stack : BitVec 64) (vector : Fin 256) (errorCode : Option (BitVec 64))
    (machine : Machine) : Machine where
  registers := Function.update machine.registers .rsp
    (pushed word64 stack (machine.resumption ++ errorCode.toList).length)
  rip := image.address (.int vector) 0
  cs := BOBAOS_KERNEL_SELECTOR_CODE
  flags := machine.flags &&& ~~~gateFlags
  ss := machine.ss
  memory := pushAll word64 machine.memory stack (machine.resumption ++ errorCode.toList)

/-! ## What is on the stack -/

/-- A routine takes this much of the stack: the words that the processor pushes, the registers,
a word for the alignment and the return address of `trapHandler`. -/
def STUB_WORDS : Nat := 22

/-- The words of the data section are apart from the stack. -/
def Clear (stack : BitVec 64) : Prop :=
  ∀ cell, Disjoint (span (pushed word64 stack STUB_WORDS) (8 * STUB_WORDS)) (span (image.cell cell) 8)

section Laws

variable {image} {machine : Machine} {stack : BitVec 64}

/-- The words that a routine has put on the stack lie in what it takes. -/
theorem words_inside {few several : Nat} (first : few ≤ several) (second : several ≤ STUB_WORDS) :
    span (pushed word64 stack several) (8 * few) ⊆
      span (pushed word64 stack STUB_WORDS) (8 * STUB_WORDS) := span_pushed first second (by decide)

theorem Clear.part (clear : Clear image stack) (few several : Nat) (first : few ≤ several)
    (second : several ≤ STUB_WORDS) (cell : Cell) :
    Disjoint (span (pushed word64 stack several) (8 * few)) (span (image.cell cell) 8) :=
  (clear cell).mono_left (words_inside first second)

/-- A word that is saved and one that is loaded elsewhere. -/
theorem load_save_apart {memory : BitVec 64 → UInt8} {written address : BitVec 64}
    (apart : Disjoint (span written 8) (span address 8)) (word : BitVec 64) :
    word64.load (word64.save memory written word) address = word64.load memory address :=
  word64.load_write _ _ (by decide) apart

theorem load_save {memory : BitVec 64 → UInt8} (address word : BitVec 64) :
    word64.load (word64.save memory address word) address = word :=
  word64.load_save _ _ (by decide) word

/-- The memory when the return address and `rax` wait in their words. -/
def waiting (image : Image code) (machine : Machine) (address : BitVec 64) : BitVec 64 → UInt8 :=
  word64.save (word64.save (machine.push address).memory (image.cell .tempSave)
    (machine.registers .rax)) (image.cell .saveRetAddress) address

/-- `saveRegisters` pushes the registers as they were before the call of it. -/
theorem performAll_saving (address : BitVec 64) (held : machine.registers .rsp = pushed word64 stack 5)
    (clear : Clear image stack) : image.performAll (machine.push address) saving = { machine with
      registers := Function.update (Function.update machine.registers .rsp (pushed word64 stack 20))
        .rax address
      memory := pushAll word64 (waiting image machine address) (pushed word64 stack 5)
        (savedRegisters.map machine.registers) } := by
  have taken : image.performAll (machine.push address)
      [.store .tempSave .rax, .pop .rax, .store .saveRetAddress .rax, .load .rax .tempSave] =
      { machine with memory := waiting image machine address } := by
    have top : word64.load (word64.save (machine.push address).memory (image.cell .tempSave)
        (machine.registers .rax)) (pushed word64 (machine.registers .rsp) 1) = address := by
      rw [held, pushed_add, load_save_apart (clear.part 1 _ (by decide) (by decide) _).symm,
        Machine.push, held, pushed_add]
      exact load_save _ _
    have kept : word64.load (waiting image machine address) (image.cell .tempSave) =
        machine.registers .rax := by
      rw [waiting, load_save_apart image.cells_apart, load_save]
    have back : pushed word64 (machine.registers .rsp) 1 + 8 = machine.registers .rsp := by
      rw [pushed]
      exact BitVec.sub_add_cancel _ _
    have stack_pointer : (machine.push address).registers .rsp =
        pushed word64 (machine.registers .rsp) 1 := by
      rw [Machine.push_registers, Function.update_self]
    have accumulator : (machine.push address).registers .rax = machine.registers .rax := by
      rw [Machine.push_registers, Function.update_of_ne (by decide)]
    have memory : word64.save (word64.save (machine.push address).memory (image.cell .tempSave)
        (machine.registers .rax)) (image.cell .saveRetAddress) address =
        waiting image machine address := rfl
    simp only [Image.performAll, List.foldl_cons, List.foldl_nil, Image.perform, Machine.set,
      Machine.drop, Machine.top, stack_pointer, accumulator, top, back, Function.update_self, memory,
      kept]
    congr 1
    funext register
    by_cases is_rax : register = .rax
    · rw [is_rax, Function.update_self]
    · simp [is_rax]
  have pushing := image.performAll_push savedRegisters (by decide)
    { machine with memory := waiting image machine address }
  have found : word64.load (pushAll word64 (waiting image machine address) (pushed word64 stack 5)
      (savedRegisters.map machine.registers)) (image.cell .saveRetAddress) = address := by
    have apart := clear.part 15 20 (by decide) (by decide) .saveRetAddress
    have count : (savedRegisters.map machine.registers).length = 15 := rfl
    rw [load_pushAll _ (by rw [count]; decide) (by decide)
      (by rw [count, pushed_add]; exact apart), waiting, load_save]
  rw [saving, Image.performAll_append, Image.performAll_append, taken, pushing]
  simp only [held, pushed_add]
  rw [Image.performAll, List.foldl_cons, List.foldl_nil, Image.perform, Machine.set]
  simp only
  rw [show savedRegisters.length = 15 from rfl]
  rw [found]

variable (image) in
/-- The machine when `saveRegisters` has gone back to its caller. -/
def saved (stack address : BitVec 64) (machine : Machine) : Machine :=
  { machine with
    registers := Function.update (Function.update machine.registers .rsp (pushed word64 stack 20))
      .rax address
    rip := address
    memory := pushAll word64 (waiting image machine address) (pushed word64 stack 5)
      (savedRegisters.map machine.registers) }

@[simp] theorem saved_rax {address : BitVec 64} :
    (saved image stack address machine).registers .rax = address := by
  simp only [saved, Function.update_self]

@[simp] theorem saved_rsp {address : BitVec 64} :
    (saved image stack address machine).registers .rsp = pushed word64 stack 20 := by
  simp [saved]

@[simp] theorem saved_rsi {address : BitVec 64} :
    (saved image stack address machine).registers .rsi = machine.registers .rsi := by
  simp [saved]

theorem Steps.saves {body : Machine → Machine} (address : BitVec 64)
    (held : machine.registers .rsp = pushed word64 stack 5) (clear : Clear image stack) :
    image.Steps body { machine.push address with rip := image.address .saveRegisters 0 }
      (saved image stack address machine) := by
  have save : image.Steps body { machine.push address with
      rip := image.address .saveRegisters 0 } _ := .straight saving [.jumpTo .rax] rfl rfl
  rw [Image.performAll_at, performAll_saving address held clear] at save
  refine save.trans ?_
  have back : image.Steps body { saved image stack address machine with
      rip := image.address .saveRegisters saving.length } _ := .next rfl rfl
  rw [Image.execute, saved_rax] at back
  exact back

/-- What the processor has pushed is below the registers. -/
theorem stacked_saved {address : BitVec 64} {below : List (BitVec 64)} (five : below.length = 5)
    (stacked : Stacked word64 machine.memory (pushed word64 stack 5) below)
    (held : machine.registers .rsp = pushed word64 stack 5) (clear : Clear image stack) :
    Stacked word64 (pushAll word64 (waiting image machine address) (pushed word64 stack 5)
      (savedRegisters.map machine.registers)) (pushed word64 stack 20)
      (savedRegisters.reverse.map machine.registers ++ below) := by
  have bounded : word64.size * below.length ≤ 2 ^ 64 := by
    rw [five]
    decide
  have apart (cell : Cell) : Disjoint (span (image.cell cell) word64.size)
      (span (pushed word64 stack 5) (word64.size * below.length)) := by
    rw [five]
    exact (clear.part 5 5 (by decide) (by decide) cell).symm
  have called : Stacked word64 (machine.push address).memory (pushed word64 stack 5) below := by
    rw [Machine.push_memory, held]
    have behind := (stacked.push address (by rw [five]; decide)).2
    rwa [pushed_back, pushed_zero] at behind
  have waits : Stacked word64 (waiting image machine address) (pushed word64 stack 5) below :=
    (called.save bounded (apart .tempSave)).save bounded (apart .saveRetAddress)
  have all := waits.pushAll (savedRegisters.map machine.registers)
    (by rw [List.length_map, five]; decide)
  rw [List.length_map, pushed_add, ← List.map_reverse] at all
  exact all

/-- The stack and the words of the data section are all that is written. -/
theorem saved_outside {address tested : BitVec 64}
    (held : machine.registers .rsp = pushed word64 stack 5)
    (below : tested ∉ span (pushed word64 stack STUB_WORDS) (8 * STUB_WORDS))
    (beside : ∀ cell, tested ∉ span (image.cell cell) 8) :
    pushAll word64 (waiting image machine address) (pushed word64 stack 5)
      (savedRegisters.map machine.registers) tested = machine.memory tested := by
  have inside (few several : Nat) (first : few ≤ several) (second : several ≤ STUB_WORDS) :
      tested ∉ span (pushed word64 stack several) (8 * few) := fun member =>
    below (words_inside first second member)
  have count : (savedRegisters.map machine.registers).length = 15 := rfl
  rw [pushAll_outside _ (by rw [count]; decide)
    (by rw [count, pushed_add]; exact inside 15 20 (by decide) (by decide))]
  refine (write_outside (beside .saveRetAddress)).trans ((write_outside (beside .tempSave)).trans ?_)
  rw [Machine.push_memory, held, pushed_add]
  exact write_outside (inside 1 6 (by decide) (by decide))

/-! ## The call of the handler -/

variable (image) in
/-- `trapHandler` has been called for a vector, with the frame of a machine that was
interrupted: nothing but the stack and the data section has been written. -/
structure Called (stack : BitVec 64) (vector : Fin 256) (errorCode : BitVec 64) (frame : TrapFrame)
    (before called : Machine) : Prop where
  rip : called.rip = image.address .trapHandler 0
  rdi : called.registers .rdi = BitVec.ofNat 64 vector
  rsi : called.registers .rsi = errorCode
  rdx : called.registers .rdx = pushed word64 stack 20
  rsp : called.registers .rsp = pushed word64 stack STUB_WORDS
  top : called.top = image.address (.int vector) 7
  words : Stacked word64 called.memory (pushed word64 stack 20) frame.words
  outside : ∀ tested ∉ span (pushed word64 stack STUB_WORDS) (8 * STUB_WORDS),
    (∀ cell, tested ∉ span (image.cell cell) 8) → called.memory tested = before.memory tested

variable (image) in
/-- The operations put the arguments into their registers. -/
def Passes (stack : BitVec 64) (vector : Fin 256) (errorCode : BitVec 64 → BitVec 64)
    (operations : List Operation) : Prop :=
  ∀ machine : Machine, machine.registers .rsp = pushed word64 stack 20 →
    (image.performAll machine operations).memory = machine.memory ∧
      (image.performAll machine operations).registers .rsp = pushed word64 stack 21 ∧
      (image.performAll machine operations).registers .rdi = BitVec.ofNat 64 vector ∧
      (image.performAll machine operations).registers .rsi = errorCode (machine.registers .rsi) ∧
      (image.performAll machine operations).registers .rdx = pushed word64 stack 20

theorem stack_down (stack : BitVec 64) (count : Nat) :
    pushed word64 stack count - 8#64 = pushed word64 stack (count + 1) := by
  rw [← pushed_add stack count 1]
  rfl

theorem stack_up (stack : BitVec 64) (count : Nat) :
    pushed word64 stack (count + 1) + 8#64 = pushed word64 stack count := pushed_back stack count

theorem passing_passes (stack : BitVec 64) (vector : Fin 256) :
    Passes image stack vector (fun _ => 0) (passing vector) := by
  intro machine held
  simp [passing, Image.performAll, Image.perform, Image.compute, held, stack_down, stack_up]

theorem passingErrorCode_passes (stack : BitVec 64) (vector : Fin 256) :
    Passes image stack vector id (passingErrorCode vector) := by
  intro machine held
  simp [passingErrorCode, Image.performAll, Image.perform, Image.compute, held, stack_down, stack_up]

/-- From the call of `saveRegisters` on, with what the processor has pushed on the stack. -/
theorem calls {body : Machine → Machine} {vector : Fin 256} {index : Nat} {operations : List Operation}
    {errorCode : BitVec 64 → BitVec 64} {frame : TrapFrame}
    (here : machine.rip = image.address (.int vector) index)
    (is_code : (code (.int vector)).drop index = .call .saveRegisters ::
      (operations.map .operation ++ [.call .trapHandler, .jump .loadRegisters]))
    (last : index + 1 + operations.length = 6)
    (passes : Passes image stack vector errorCode operations)
    (held : machine.registers .rsp = pushed word64 stack 5) (clear : Clear image stack)
    (words : frame.words = savedRegisters.reverse.map machine.registers ++
      [frame.rip, frame.cs, frame.flags, frame.rsp, frame.ds])
    (stacked : Stacked word64 machine.memory (pushed word64 stack 5)
      [frame.rip, frame.cs, frame.flags, frame.rsp, frame.ds]) :
    ∃ called, image.Steps body machine called ∧
      Called image stack vector (errorCode (machine.registers .rsi)) frame machine called := by
  obtain ⟨next, is_next⟩ : ∃ next, next = image.address (.int vector) (index + 1) := ⟨_, rfl⟩
  have behind : (code (.int vector)).drop (index + 1) =
      operations.map .operation ++ [.call .trapHandler, .jump .loadRegisters] := by
    rw [← List.drop_drop, is_code]
    rfl
  have last_call : (code (.int vector)).drop 6 = [.call .trapHandler, .jump .loadRegisters] := by
    rw [← last, ← List.drop_drop, behind, List.drop_left' (by simp)]
  have enter : image.Steps body machine
      { machine.push next with rip := image.address .saveRegisters 0 } := by
    rw [is_next]
    exact .next here is_code
  have save := enter.trans (Steps.saves next held clear)
  have pass : image.Steps body (saved image stack next machine) _ :=
    .straight operations _ is_next behind
  rw [last] at pass
  obtain ⟨memory, rsp, rdi, rsi, rdx⟩ := passes (saved image stack next machine) saved_rsp
  rw [saved_rsi] at rsi
  generalize image.performAll (saved image stack next machine) operations = passed at *
  have call : image.Steps body { passed with rip := image.address (.int vector) 6 }
      { passed.push (image.address (.int vector) 7) with rip := image.address .trapHandler 0 } :=
    .next rfl last_call
  have other {register : Register} (apart : register ≠ .rsp) :
      (passed.push (image.address (.int vector) 7)).registers register =
        passed.registers register := Function.update_of_ne apart _ _
  have stack_pointer : (passed.push (image.address (.int vector) 7)).registers .rsp =
      pushed word64 stack STUB_WORDS := by
    rw [Machine.push_registers, Function.update_self, rsp, pushed_add]
    rfl
  have written : (passed.push (image.address (.int vector) 7)).memory =
      word64.save (pushAll word64 (waiting image machine next) (pushed word64 stack 5)
        (savedRegisters.map machine.registers)) (pushed word64 stack STUB_WORDS)
        (image.address (.int vector) 7) := by
    rw [Machine.push_memory, rsp, memory, pushed_add]
    rfl
  refine ⟨_, (save.trans pass).trans call, rfl, ?_, ?_, ?_, stack_pointer, ?_, ?_, ?_⟩
  · exact (other (by decide)).trans rdi
  · exact (other (by decide)).trans rsi
  · exact (other (by decide)).trans rdx
  · show word64.load (passed.push (image.address (.int vector) 7)).memory
      ((passed.push (image.address (.int vector) 7)).registers .rsp) = _
    rw [stack_pointer, written, load_save]
  · show Stacked word64 (passed.push (image.address (.int vector) 7)).memory _ _
    have below := @stacked_saved _ _ stack next _ rfl stacked held clear
    have length : (savedRegisters.reverse.map machine.registers ++
        [frame.rip, frame.cs, frame.flags, frame.rsp, frame.ds]).length = 20 := rfl
    rw [written, words]
    refine below.save (by rw [length]; decide) ?_
    rw [length]
    exact @pushed_apart _ _ word64 stack 1 2 20 (by decide) (by decide)
  · intro tested below beside
    show (passed.push (image.address (.int vector) 7)).memory tested = _
    rw [written]
    refine (write_outside fun member => below ?_).trans (saved_outside held below beside)
    exact @words_inside stack 1 STUB_WORDS (by decide) (by decide) _ member

end Laws

/-! ## A placement -/

/-- The routines in slots of 64 instructions. -/
def slot : Routine → Nat
  | .int vector => vector
  | .saveRegisters => 256
  | .loadRegisters => 257
  | .trapHandler => 258

def routineAt (slot : Nat) : Option Routine :=
  if inside : slot < 256 then some (.int ⟨slot, inside⟩)
  else if slot = 256 then some .saveRegisters
  else if slot = 257 then some .loadRegisters
  else if slot = 258 then some .trapHandler
  else none

theorem routineAt_slot (routine : Routine) : routineAt (slot routine) = some routine := by
  cases routine with
  | int vector => exact dif_pos vector.isLt
  | saveRegisters => rfl
  | loadRegisters => rfl
  | trapHandler => rfl

theorem slot_lt (routine : Routine) : slot routine < 259 := by
  cases routine with
  | int vector => exact Nat.lt_of_lt_of_le vector.isLt (by decide)
  | saveRegisters => decide
  | loadRegisters => decide
  | trapHandler => decide

theorem code_length (routine : Routine) : (code routine).length < 64 := by
  cases routine with
  | int vector =>
    rw [code]
    split <;> simp [interrupt, interruptErrorCode, passing, passingErrorCode]
  | saveRegisters => decide
  | loadRegisters => decide
  | trapHandler => decide

/-- The routines from 1 MiB on, and the data section behind them. -/
def placed : Image code where
  address routine index := .ofNat 64 (0x100000 + (64 * slot routine + index))
  point address :=
    if address.toNat < 0x100000 then none
    else (routineAt ((address.toNat - 0x100000) / 64)).map
      fun routine => (routine, (address.toNat - 0x100000) % 64)
  point_address routine index inside := by
    have few := slot_lt routine
    have short := code_length routine
    have place : (BitVec.ofNat 64 (0x100000 + (64 * slot routine + index))).toNat =
        0x100000 + (64 * slot routine + index) := by
      rw [BitVec.toNat_ofNat]
      exact Nat.mod_eq_of_lt (by omega)
    rw [place, if_neg (by omega), Nat.add_sub_cancel_left,
      Nat.mul_add_div (by decide), Nat.div_eq_of_lt (Nat.lt_of_le_of_lt inside short), Nat.add_zero,
      routineAt_slot, Option.map_some, Nat.mul_add_mod, Nat.mod_eq_of_lt (by omega)]
  cell
    | .saveRetAddress => 0x200000
    | .tempSave => 0x200008
  cells_apart := @span_apart 64 0x200000 8 8 0 8 (by decide) (by decide)
  arithmetic _ flags := flags

/-- The routines and their data lie apart from a stack that ends at 64 KiB. -/
theorem placed_clear : Clear placed 0x10000 := by
  intro cell
  cases cell with
  | saveRetAddress => exact @span_apart 64 0 _ _ 0xff50 0x200000 (by decide) (by decide)
  | tempSave => exact @span_apart 64 0 _ _ 0xff50 0x200008 (by decide) (by decide)

/-- A machine that halts below 1 MiB, with its stack there. -/
def idle : Machine where
  registers register := if register = .rsp then 0x10000 else 0
  rip := 0x8000
  cs := BOBAOS_KERNEL_SELECTOR_CODE
  flags := 0x202
  ss := 0x10
  memory _ := 0

end BobaOS.Interrupts
