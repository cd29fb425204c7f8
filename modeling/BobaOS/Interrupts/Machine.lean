import Mathlib.Data.List.Nodup
import Mathlib.Logic.Relation
import BobaOS.Library.RecordStacks

/-!
# The machine under the interrupt routines

The registers, the memory and the instructions that `idt.asm` is made of. The routines lie
in the memory at addresses that the linker gives them, so that a return address is a number
and a jump to it finds the routine again. What a compiled function does is one step.

An instruction has the effect that the processor gives it. Arithmetic leaves some flags or
other; no routine looks at them.
-/

namespace BobaOS.Interrupts

open PackedRecords RecordStacks

inductive Register where
  | rax | rbx | rcx | rdx | rsi | rdi | rbp | rsp
  | r8 | r9 | r10 | r11 | r12 | r13 | r14 | r15
deriving DecidableEq

structure Machine where
  registers : Register → BitVec 64
  rip : BitVec 64
  cs : BitVec 64
  flags : BitVec 64
  ss : BitVec 64
  memory : BitVec 64 → UInt8

/-- The words in the data section of `idt.asm`. -/
inductive Cell where
  | saveRetAddress
  | tempSave
deriving DecidableEq

/-- The routines, those for the vectors among them. -/
inductive Routine where
  | int (vector : Fin 256)
  | saveRegisters
  | loadRegisters
  | trapHandler
deriving DecidableEq

/-- Instructions that go on with the next one. -/
inductive Operation where
  | store (cell : Cell) (source : Register)
  | load (dest : Register) (cell : Cell)
  | move (dest : Register) (value : BitVec 64)
  | copy (dest source : Register)
  | push (source : Register)
  | pop (dest : Register)
  | add (dest : Register) (value : BitVec 64)
  | sub (dest : Register) (value : BitVec 64)
  | xor (dest source : Register)

inductive Instruction where
  | operation (operation : Operation)
  | call (routine : Routine)
  | jump (routine : Routine)
  | jumpTo (register : Register)
  /-- The compiled function, up to its return. -/
  | body
  | ret
  | iretq

/-! ## Effects -/

def Machine.set (machine : Machine) (register : Register) (value : BitVec 64) : Machine :=
  { machine with registers := Function.update machine.registers register value }

/-- The word at the top of the stack. -/
def Machine.top (machine : Machine) : BitVec 64 :=
  word64.load machine.memory (machine.registers .rsp)

def Machine.push (machine : Machine) (word : BitVec 64) : Machine :=
  { machine with
    registers := Function.update machine.registers .rsp (pushed word64 (machine.registers .rsp) 1)
    memory := word64.save machine.memory (pushed word64 (machine.registers .rsp) 1) word }

/-- The top of the stack is left behind. -/
def Machine.drop (machine : Machine) : Machine := machine.set .rsp (machine.registers .rsp + 8)

/-- Where the linker has put the routines and the data, and what arithmetic makes of the
flags. -/
structure Image (code : Routine → List Instruction) where
  address : Routine → Nat → BitVec 64
  point : BitVec 64 → Option (Routine × Nat)
  point_address : ∀ routine index, index ≤ (code routine).length →
    point (address routine index) = some (routine, index)
  cell : Cell → BitVec 64
  cells_apart : Disjoint (span (cell .saveRetAddress) 8) (span (cell .tempSave) 8)
  arithmetic : BitVec 64 → BitVec 64 → BitVec 64

section Execution

variable {code : Routine → List Instruction} (image : Image code) (body : Machine → Machine)

/-- The result of an arithmetic instruction. -/
def Image.compute (machine : Machine) (dest : Register) (value : BitVec 64) : Machine :=
  { machine.set dest value with flags := image.arithmetic value machine.flags }

def Image.perform (machine : Machine) : Operation → Machine
  | .store cell source =>
    { machine with
      memory := word64.save machine.memory (image.cell cell) (machine.registers source) }
  | .load dest cell => machine.set dest (word64.load machine.memory (image.cell cell))
  | .move dest value => machine.set dest value
  | .copy dest source => machine.set dest (machine.registers source)
  | .push source => machine.push (machine.registers source)
  | .pop dest => machine.drop.set dest machine.top
  | .add dest value => image.compute machine dest (machine.registers dest + value)
  | .sub dest value => image.compute machine dest (machine.registers dest - value)
  | .xor dest source =>
    image.compute machine dest (machine.registers dest ^^^ machine.registers source)

def Image.performAll (machine : Machine) (operations : List Operation) : Machine :=
  operations.foldl image.perform machine

/-- The effect of an instruction that has `next` behind it. -/
def Image.execute (next : BitVec 64) (machine : Machine) : Instruction → Machine
  | .operation operation => { image.perform machine operation with rip := next }
  | .call routine => { machine.push next with rip := image.address routine 0 }
  | .jump routine => { machine with rip := image.address routine 0 }
  | .jumpTo register => { machine with rip := machine.registers register }
  | .body => { body machine with rip := next }
  | .ret => { machine.drop with rip := machine.top }
  | .iretq =>
    let word (index : Nat) : BitVec 64 :=
      word64.load machine.memory (machine.registers .rsp + BitVec.ofNat 64 (8 * index))
    { machine.set .rsp (word 3) with
      rip := word 0
      cs := word 1
      flags := word 2
      ss := word 4 }

/-- One instruction, if there is one. -/
def Image.step (machine : Machine) : Option Machine :=
  match image.point machine.rip with
  | none => none
  | some (routine, index) =>
    (code routine)[index]?.map (image.execute body (image.address routine (index + 1)) machine)

/-- Any number of instructions. -/
abbrev Image.Steps : Machine → Machine → Prop :=
  Relation.ReflTransGen fun machine after => image.step body machine = some after

end Execution

/-! ## Laws -/

section Laws

variable {code : Routine → List Instruction} {image : Image code} {body : Machine → Machine}
  {machine : Machine} {routine : Routine}

@[simp] theorem Machine.set_memory (register : Register) (value : BitVec 64) :
    (machine.set register value).memory = machine.memory := rfl

@[simp] theorem Machine.set_registers (register : Register) (value : BitVec 64) :
    (machine.set register value).registers = Function.update machine.registers register value := rfl

@[simp] theorem Machine.push_registers (word : BitVec 64) : (machine.push word).registers =
    Function.update machine.registers .rsp (pushed word64 (machine.registers .rsp) 1) := rfl

@[simp] theorem Machine.push_memory (word : BitVec 64) : (machine.push word).memory =
    word64.save machine.memory (pushed word64 (machine.registers .rsp) 1) word := rfl

/-- The instruction at an address is carried out. -/
theorem Image.step_at {index : Nat} {instruction : Instruction}
    (here : machine.rip = image.address routine index)
    (is_code : (code routine)[index]? = some instruction) :
    image.step body machine =
      some (image.execute body (image.address routine (index + 1)) machine instruction) := by
  have inside := (List.getElem?_eq_some_iff.mp is_code).1
  have found := image.point_address routine index (Nat.le_of_lt inside)
  simp only [step, here, found, is_code, Option.map_some]

@[simp] theorem Image.perform_rip (operation : Operation) :
    (image.perform machine operation).rip = machine.rip := by
  cases operation <;> rfl

theorem Image.performAll_append (first second : List Operation) :
    image.performAll machine (first ++ second) =
      image.performAll (image.performAll machine first) second := List.foldl_append

/-- The address of the next instruction matters to no operation. -/
theorem Image.perform_at (rip : BitVec 64) (operation : Operation) :
    image.perform { machine with rip } operation =
      { image.perform machine operation with rip } := by
  cases operation <;>
    simp only [perform, compute, Machine.push, Machine.set, Machine.drop, Machine.top]

theorem Image.performAll_at (rip : BitVec 64) (operations : List Operation) :
    ∀ machine : Machine, image.performAll { machine with rip } operations =
      { image.performAll machine operations with rip } := by
  induction operations with
  | nil => exact fun _ => rfl
  | cons operation rest ih =>
    intro machine
    rw [performAll, List.foldl_cons, perform_at]
    exact ih _

/-- The instruction that the code has next. -/
theorem Image.Steps.next {index : Nat} {instruction : Instruction} {rest : List Instruction}
    (here : machine.rip = image.address routine index)
    (is_code : (code routine).drop index = instruction :: rest) :
    image.Steps body machine
      (image.execute body (image.address routine (index + 1)) machine instruction) := by
  refine .single (step_at here ?_)
  rw [← Nat.add_zero index, ← List.getElem?_drop, is_code, List.getElem?_cons_zero]

/-- Operations that lie one behind the other are performed one after the other. -/
theorem Image.Steps.straight (operations : List Operation) (rest : List Instruction) :
    ∀ {machine : Machine} {index : Nat}, machine.rip = image.address routine index →
      (code routine).drop index = operations.map .operation ++ rest →
      image.Steps body machine { image.performAll machine operations with
        rip := image.address routine (index + operations.length) } := by
  induction operations with
  | nil =>
    intro machine index here _
    rw [List.length_nil, Nat.add_zero, ← here]
    exact .refl
  | cons operation others ih =>
    intro machine index here is_code
    have first : image.Steps body machine _ := next here is_code
    have behind : (code routine).drop (index + 1) = others.map .operation ++ rest := by
      rw [← List.drop_drop, is_code]
      rfl
    have onward := @ih (image.execute body (image.address routine (index + 1)) machine
      (.operation operation)) (index + 1) rfl behind
    refine first.trans ?_
    rw [List.length_cons, Nat.add_comm others.length, ← Nat.add_assoc]
    rw [execute, performAll_at] at onward
    exact onward

/-- Registers are pushed one after the other. -/
theorem Image.performAll_push (saved : List Register) (other : .rsp ∉ saved) :
    ∀ machine : Machine, image.performAll machine (saved.map .push) = { machine with
      registers := Function.update machine.registers .rsp
        (pushed word64 (machine.registers .rsp) saved.length)
      memory := pushAll word64 machine.memory (machine.registers .rsp)
        (saved.map machine.registers) } := by
  induction saved with
  | nil =>
    intro machine
    simp [performAll, pushAll]
  | cons register rest ih =>
    intro machine
    obtain ⟨first, others⟩ := List.ne_and_not_mem_of_not_mem_cons other
    rw [List.map_cons, performAll, List.foldl_cons]
    refine (ih others _).trans ?_
    have same : rest.map (Function.update machine.registers .rsp
        (pushed word64 (machine.registers .rsp) 1)) = rest.map machine.registers :=
      List.map_congr_left fun later member => Function.update_of_ne (by
        rintro rfl
        exact others member) _ _
    simp only [perform, Machine.push, Function.update_self, Function.update_idem, same,
      pushed_add, List.length_cons, Nat.add_comm 1, List.map_cons, pushAll]

/-- Words of a stack are popped into registers. -/
theorem Image.performAll_pop (restored : List Register) (other : .rsp ∉ restored)
    (values : Register → BitVec 64) :
    ∀ machine : Machine,
      Stacked word64 machine.memory (machine.registers .rsp) (restored.map values) →
      restored.Nodup →
      image.performAll machine (restored.map .pop) = { machine with
        registers := fun register =>
          if register = .rsp then
            machine.registers .rsp + BitVec.ofNat 64 (8 * restored.length)
          else if register ∈ restored then values register else machine.registers register } := by
  induction restored with
  | nil =>
    intro machine _ _
    have same : (fun register => if register = .rsp then
        machine.registers .rsp + BitVec.ofNat 64 (8 * ([] : List Register).length)
        else if register ∈ ([] : List Register) then values register
        else machine.registers register) = machine.registers := by
      funext register
      by_cases stack : register = .rsp
      · simp [stack]
      · simp [stack]
    rw [same]
    rfl
  | cons register rest ih =>
    intro machine stacked nodup
    obtain ⟨first, others⟩ := List.ne_and_not_mem_of_not_mem_cons other
    obtain ⟨fresh, nodup⟩ := List.nodup_cons.mp nodup
    obtain ⟨here, behind⟩ := stacked
    have popped : image.perform machine (.pop register) =
        (machine.set .rsp (machine.registers .rsp + 8)).set register (values register) := by
      rw [perform, Machine.top, here]
      rfl
    have moved : (image.perform machine (.pop register)).registers .rsp =
        machine.registers .rsp + 8 := by
      rw [popped]
      simp [Function.update_of_ne first]
    rw [List.map_cons, performAll, List.foldl_cons]
    refine (ih others _ ?_ nodup).trans ?_
    · rw [moved]
      rw [popped]
      exact behind
    · rw [moved, popped]
      congr 1
      funext tested
      by_cases stack : tested = .rsp
      · rw [if_pos stack, if_pos stack, List.length_cons, Nat.mul_succ, Nat.add_comm,
          BitVec.ofNat_add, BitVec.add_assoc]
        rfl
      · by_cases same : tested = register
        · simp [same, Ne.symm first, fresh]
        · simp [stack, same]

end Laws

end BobaOS.Interrupts
