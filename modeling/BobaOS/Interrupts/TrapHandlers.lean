import BobaOS.Interrupts.Gates
import BobaOS.Interrupts.Stubs

/-!
# Handlers

`registerHandler` and `idtInit`: every vector gets a gate to its routine, and the interrupts of
the controllers and the exceptions get handlers. The functions are known by their addresses,
which are not zero.
-/

namespace BobaOS.Interrupts

open ByteStore Programs LastWrites

/-- The handlers of `irqHandler.c` and `exceptionHandler.c`. -/
inductive Handler where
  | noInterruptHandler
  | timerInterrupt
  | freePeripherals
  | divError
  | debugError
  | NoMaskIntError
  | breakError
  | overflowError
  | boundRangeError
  | invalidOpcodeError
  | deviceNotAvailableError
  | doubleFaultError
  | tssError
  | segmentPresentError
  | stackSegmentError
  | protectionError
  | pageError
  | machineError
  | floatingPointError
  | alignmentError
  | smidFloatingPointError
  | virtualizationError
  | controlError
  | hypervisorError
  | vmmError
  | securityError
deriving DecidableEq

/-! ## Code -/

def registerHandler (vector : BitVec 16) (handler : BitVec 64) : IdtM Code := do
  if vector.toNat ≥ BOBAOS_TOTAL_INTERRUPTS then return -EIARG
  modify fun state => { state with
    handlerList := Function.update state.handlerList vector.toNat handler }
  return 0

def registerAll (place : Handler → BitVec 64) : List (Nat × Handler) → IdtM Unit
  | [] => return
  | registered :: rest => do
    let _ ← registerHandler (.ofNat 16 registered.1) (place registered.2)
    registerAll place rest

/-- The calls of `initIrqHandler`, those of its loop among them. -/
def irqHandlers : List (Nat × Handler) :=
  [(32, .timerInterrupt)] ++ (List.range' 33 15).map (fun i => (i, .noInterruptHandler)) ++
    [(43, .freePeripherals)]

def initIrqHandler (place : Handler → BitVec 64) : IdtM Unit := registerAll place irqHandlers

/-- The calls of `initExceptionHandler`. -/
def exceptionHandlers : List (Nat × Handler) :=
  [(0, .divError), (1, .debugError), (2, .NoMaskIntError), (3, .breakError), (4, .overflowError),
    (5, .boundRangeError), (6, .invalidOpcodeError), (7, .deviceNotAvailableError),
    (8, .doubleFaultError), (10, .tssError), (11, .segmentPresentError), (12, .stackSegmentError),
    (13, .protectionError), (14, .pageError), (16, .floatingPointError), (17, .alignmentError),
    (18, .machineError), (19, .smidFloatingPointError), (20, .virtualizationError),
    (21, .controlError), (28, .hypervisorError), (29, .vmmError), (30, .securityError)]

def initExceptionHandler (place : Handler → BitVec 64) : IdtM Unit :=
  registerAll place exceptionHandlers

/-- The addresses that the linker gives: of the handlers, of the routines and of the table. -/
structure Linked where
  place : Handler → BitVec 64
  idtAddressList : Nat → BitVec 64
  idt : BitVec 64

/-- The entries that are made on the stack have anything in their last field. -/
def idtInit (linked : Linked) (reserved : Nat → BitVec 32) : IdtM Unit := do
  modify fun state => { state with idt := overwrite state.idt 0 IDT_BYTES fun _ => 0 }
  modify fun state => { state with
    handlerList := overwrite state.handlerList 0 BOBAOS_TOTAL_INTERRUPTS fun _ => 0 }
  fillIdt linked.idtAddressList reserved
  initIrqHandler linked.place
  initExceptionHandler linked.place
  modify fun state => { state with idtPtr := ⟨.ofNat 16 (IDT_BYTES - 1), linked.idt⟩ }
  modify fun state => { state with loaded := some state.idtPtr }

/-! ## What is registered -/

/-- The handlers when some have been registered. -/
def registered (place : Handler → BitVec 64) (calls : List (Nat × Handler))
    (handlers : Nat → BitVec 64) : Nat → BitVec 64 :=
  calls.foldl (fun handlers call => Function.update handlers call.1 (place call.2)) handlers

/-- The handlers that `idtInit` leaves. -/
def initialHandlers (place : Handler → BitVec 64) (vector : Nat) : BitVec 64 :=
  ((last Prod.fst (irqHandlers ++ exceptionHandlers) vector).map fun call => place call.2).getD 0

theorem registerHandler_meets (vector : BitVec 16) (handler : BitVec 64) (state : IdtState)
    {fault : IdtFault → Prop} : Meets (registerHandler vector handler) state fault fun ret after =>
      if vector.toNat < BOBAOS_TOTAL_INTERRUPTS then
        ret = 0 ∧ after = { state with
          handlerList := Function.update state.handlerList vector.toNat handler }
      else ret = -EIARG ∧ after = state := by
  rw [registerHandler, meets_ite]
  constructor
  · intro beyond
    rw [meets_pure, if_neg (Nat.not_lt.mpr beyond)]
    exact ⟨rfl, rfl⟩
  · intro inside
    rw [meets_bind, meets_modify, meets_pure, if_pos (Nat.not_le.mp inside)]
    exact ⟨rfl, rfl⟩

theorem registerAll_meets (place : Handler → BitVec 64) {fault : IdtFault → Prop}
    (calls : List (Nat × Handler)) : ∀ state : IdtState,
      (∀ call ∈ calls, call.1 < BOBAOS_TOTAL_INTERRUPTS) →
      Meets (registerAll place calls) state fault fun _ after =>
        after = { state with handlerList := registered place calls state.handlerList } := by
  induction calls with
  | nil => exact fun _ _ => .pure rfl
  | cons call rest ih =>
    intro state low
    have inside := low call List.mem_cons_self
    have total : BOBAOS_TOTAL_INTERRUPTS = 256 := rfl
    have vector : (BitVec.ofNat 16 call.1).toNat = call.1 :=
      (BitVec.toNat_ofNat ..).trans (Nat.mod_eq_of_lt (by omega))
    rw [registerAll]
    apply (registerHandler_meets _ (place call.2) state).bind
    rintro _ after registers
    rw [vector, if_pos inside] at registers
    rw [registers.2]
    exact ih _ fun other member => low other (List.mem_cons_of_mem _ member)

/-- A handler that has been registered twice is the second one, and the table is cleared before. -/
theorem registered_initial (place : Handler → BitVec 64) (handlers : Nat → BitVec 64) {vector : Nat}
    (inside : vector < BOBAOS_TOTAL_INTERRUPTS) :
    registered place exceptionHandlers (registered place irqHandlers
      (overwrite handlers 0 BOBAOS_TOTAL_INTERRUPTS fun _ => 0)) vector =
        initialHandlers place vector := by
  rw [initialHandlers, registered, registered, ← List.foldl_append, foldl_update,
    overwrite_inside _ _ _ _ _ ⟨Nat.zero_le _, by omega⟩]

/-- The vectors that `idtInit` leaves without a handler. -/
def unhandled (vector : Nat) : Bool :=
  vector ∈ [9, 15, 22, 23, 24, 25, 26, 27, 31] ∨ 48 ≤ vector

theorem last_eq_none_iff_unhandled (vector : Nat) :
    last Prod.fst (irqHandlers ++ exceptionHandlers) vector = none ↔ unhandled vector := by
  rcases Nat.lt_or_ge vector 48 with low | high
  · have all : ∀ vector < 48, last Prod.fst (irqHandlers ++ exceptionHandlers) vector = none ↔
        unhandled vector := by decide +kernel
    exact all vector low
  · have below : ∀ call ∈ irqHandlers ++ exceptionHandlers, call.1 < 48 := by decide
    rw [last_eq_none_iff, unhandled, decide_eq_true (.inr high)]
    exact iff_of_true (fun call member => by have := below call member; omega) rfl

theorem initialHandlers_eq_zero_iff {place : Handler → BitVec 64}
    (linked : ∀ handler, place handler ≠ 0) (vector : Nat) :
    initialHandlers place vector = 0 ↔ unhandled vector := by
  rw [initialHandlers, ← last_eq_none_iff_unhandled]
  cases last Prod.fst (irqHandlers ++ exceptionHandlers) vector with
  | none => exact iff_of_true rfl rfl
  | some call => exact iff_of_false (linked call.2) (Option.some_ne_none _)

/-! ## The tables at the start -/

/-- The gate of a vector that the processor finds with what `lidt` has loaded. -/
def IdtState.gate (state : IdtState) (vector : Nat) : Option Gate :=
  state.loaded.bind fun table =>
    if vector * 16 + 15 ≤ table.size.toNat then some (gateAt state.idt vector) else none

/-- The processor enters a routine through a gate. A gate for traps leaves interrupts enabled. -/
def Gate.enter (image : Image code) (gate : Gate) (stack : BitVec 64) (vector : Fin 256)
    (errorCode : Option (BitVec 64)) (machine : Machine) : Machine :=
  { deliver image stack vector errorCode machine with
    rip := gate.offset
    cs := gate.selector.setWidth 64
    flags :=
      if gate.gateType = 0xE then machine.flags &&& ~~~gateFlags
      else machine.flags &&& ~~~(gateFlags ^^^ 0x200#64) }

/-- The gate of `fillIdt` for a routine. -/
def routineGate (address : BitVec 64) : Gate := ⟨address, 0x8, 0, 0xE, 0, true⟩

theorem idtInit_meets (linked : Linked) (reserved : Nat → BitVec 32) (state : IdtState) :
    Meets (idtInit linked reserved) state (fun _ => False) fun _ after =>
      (∀ vector < BOBAOS_TOTAL_INTERRUPTS,
        after.gate vector = some (routineGate (linked.idtAddressList vector))) ∧
      ∀ vector < BOBAOS_TOTAL_INTERRUPTS,
        after.handlerList vector = initialHandlers linked.place vector := by
  rw [idtInit, meets_bind, meets_modify, meets_bind, meets_modify, fillIdt]
  apply (fillIdtFrom_meets linked.idtAddressList reserved _ 0 _ (Nat.zero_add _)).bind
  rintro _ filled ⟨idt, rfl, gates⟩
  rw [initIrqHandler, initExceptionHandler]
  apply (registerAll_meets linked.place irqHandlers _ (by decide)).bind
  rintro _ irq rfl
  apply (registerAll_meets linked.place exceptionHandlers _ (by decide)).bind
  rintro _ exceptions rfl
  rw [meets_bind, meets_modify, meets_modify]
  refine ⟨fun vector inside => ?_, fun vector inside => registered_initial linked.place _ inside⟩
  have total : BOBAOS_TOTAL_INTERRUPTS = 256 := rfl
  have size : (BitVec.ofNat 16 (IDT_BYTES - 1)).toNat = 4095 := rfl
  rw [IdtState.gate, Option.bind_some, if_pos (by rw [size]; omega), gates,
    if_pos ⟨Nat.zero_le _, inside⟩]
  rfl

/-- After `idtInit`, whatever the table held before, the processor enters the routine of each
vector on the stack as the routine expects it: in the kernel's segment and with interrupts off.
The vectors without a handler are those that are neither exceptions with a handler nor lines of
the two controllers. -/
theorem idtInit_enters {image : Image code} {linked : Linked}
    (routines : ∀ vector : Fin 256, linked.idtAddressList vector = image.address (.int vector) 0)
    (nonzero : ∀ handler, linked.place handler ≠ 0) (reserved : Nat → BitVec 32)
    (state : IdtState) : ∃ after, (idtInit linked reserved).run state = .ok (⟨⟩, after) ∧
      ∀ vector : Fin 256,
        (∃ gate, after.gate vector = some gate ∧ gate.present = true ∧ gate.privilege = 0 ∧
          ∀ stack errorCode machine, gate.enter image stack vector errorCode machine =
            deliver image stack vector errorCode machine) ∧
        (after.handlerList vector = 0 ↔ unhandled vector) := by
  obtain ⟨_, after, ran, gates, handlers⟩ := (idtInit_meets linked reserved state).returns
  refine ⟨after, ran, fun vector => ⟨⟨_, gates vector vector.isLt, rfl, rfl, ?_⟩, ?_⟩⟩
  · intro stack errorCode machine
    rw [Gate.enter, routineGate, routines vector]
    rfl
  · rw [handlers vector vector.isLt, initialHandlers_eq_zero_iff nonzero]

/-- The routines and the handlers where they have been placed. -/
def placedLinked : Linked where
  place _ := 0x300000
  idtAddressList vector := if inside : vector < 256 then placed.address (.int ⟨vector, inside⟩) 0 else 0
  idt := 0x400000

theorem placedLinked_nonzero : (0x300000 : BitVec 64) ≠ 0 := by decide

theorem idtInit_enters_placed :
    ∃ after, (idtInit placedLinked fun _ => 0).run ⟨fun _ => 0, fun _ => 0, ⟨0, 0⟩, none⟩ =
        .ok (⟨⟩, after) ∧
      ∀ vector : Fin 256,
        (∃ gate, after.gate vector = some gate ∧ gate.present = true ∧ gate.privilege = 0 ∧
          ∀ stack errorCode machine, gate.enter placed stack vector errorCode machine =
            deliver placed stack vector errorCode machine) ∧
        (after.handlerList vector = 0 ↔ unhandled vector) :=
  idtInit_enters (fun vector => dif_pos vector.isLt) (fun _ => placedLinked_nonzero) _ _

end BobaOS.Interrupts
