import BobaOS.Interrupts.TrapHandlers
import BobaOS.Output.Kprintf

/-!
# Traps

`trapHandler`: the handler of a vector is called with the frame, and an interrupt of the
controllers is acknowledged. Handlers are registered between the interrupts.

A handler is any function at an address; what is said here is said of handlers that neither
change the tables nor write to ports. One that does not come back ends the run. Calling the
address zero is a fault: a vector without a handler is reported, and then its handler is called
all the same.
-/

namespace BobaOS.Interrupts

open Output.Console Programs

inductive KernelFault where
  | idt (problem : IdtFault)
  | output (problem : Output.Console.Fault Output.Terminal.Fault)

/-- What a trap can change, with the bytes that have been written to ports and the handlers that
have been called, with their frames. -/
structure Kernel where
  idt : IdtState
  screen : Screen
  ports : List (BitVec 16 × BitVec 8)
  called : List (BitVec 64 × BitVec 64)

abbrev KernelM := Program Kernel KernelFault

def onIdt {α : Type} (program : IdtM α) : KernelM α :=
  Lens.embed ⟨(·.idt), fun state idt => { state with idt }⟩ .idt program

def onScreen {α : Type} (program : Output.Console.M Output.Terminal.State Output.Terminal.Fault α) :
    KernelM α :=
  Lens.embed ⟨(·.screen), fun state screen => { state with screen }⟩ .output program

/-! ## Code -/

def outb (port : BitVec 16) (out : BitVec 8) : KernelM Unit :=
  modify fun state => { state with ports := state.ports ++ [(port, out)] }

/-- The functions at the addresses. There is no code if a function does not come back. -/
abbrev Functions := BitVec 64 → BitVec 64 → KernelM (Option Code)

/-- The call of a pointer. -/
def callHandler (functions : Functions) (handler frame : BitVec 64) : KernelM (Option Code) := do
  if handler = 0 then throw (.idt .nullPointer)
  modify fun state => { state with called := state.called ++ [(handler, frame)] }
  functions handler frame

def illegalMessage : List (BitVec 8) :=
  text "[ERROR] Trap handler got called with the illegal vector %u\n"

def missingMessage : List (BitVec 8) := text "[ERROR] No trap handler available for vector %u\n"

def failedMessage : List (BitVec 8) := text "[ERROR] Trap handler %u returned an error\n"

/-- A message with the vector. What lies on the stack of `kprintf` is of no matter. -/
def report (message : List (BitVec 8)) (vector : BitVec 16) : KernelM Unit :=
  onScreen (kprintf (fun _ => []) (fun _ => 0) message [vector.setWidth 64])

/-- The end of `trapHandler`, when the handler has come back. -/
def reportFailure (vector : BitVec 16) (ret : Code) : KernelM Unit :=
  if ret < 0 then report failedMessage vector else pure ⟨⟩

def acknowledge (vector : BitVec 16) : KernelM Unit :=
  if vector.toNat > 31 ∧ vector.toNat < 48 then outb 0x20 0x20 else pure ⟨⟩

/-- The result says whether the handler came back. -/
def trapHandler (functions : Functions) (vector : BitVec 16) (frame : BitVec 64) :
    KernelM Bool := do
  if vector.toNat ≥ BOBAOS_TOTAL_INTERRUPTS then
    report illegalMessage vector
    return true
  let handler := (← get).idt.handlerList vector.toNat
  if handler = 0 then report missingMessage vector
  match ← callHandler functions handler frame with
  | none => return false
  | some ret =>
    reportFailure vector ret
    acknowledge vector
    return true

/-! ## Runs -/

inductive TrapEvent where
  | register (vector : BitVec 16) (handler : BitVec 64)
  | trap (vector : BitVec 16) (frame : BitVec 64)

/-- The result says whether the kernel goes on. -/
def TrapEvent.run (functions : Functions) : TrapEvent → KernelM Bool
  | .register vector handler => do
    let _ ← onIdt (registerHandler vector handler)
    return true
  | .trap vector frame => trapHandler functions vector frame

def runTraps (functions : Functions) : List TrapEvent → KernelM Unit
  | [] => return
  | event :: rest => do
    let goesOn ← event.run functions
    if goesOn then runTraps functions rest

/-- What the traps are for: the handlers of the vectors, the calls of them, how many interrupts
have been acknowledged, what has been printed, and whether a handler has not come back. -/
structure Traps where
  handlers : Nat → BitVec 64
  called : List (BitVec 64 × BitVec 64)
  acknowledged : Nat
  printed : List (BitVec 8)
  halted : Bool

/-- What a handler returns and prints, if it comes back. -/
abbrev Behaviour := BitVec 64 → Option (Code × List (BitVec 8))

/-- The lines of the two controllers. -/
def isIrq (vector : BitVec 16) : Bool := 32 ≤ vector.toNat ∧ vector.toNat < 48

/-- A message with its number. -/
def illegalText (vector : BitVec 16) : List (BitVec 8) :=
  text "[ERROR] Trap handler got called with the illegal vector " ++
    (decimalText (vector.setWidth 64) ++ text "\n")

def failedText (vector : BitVec 16) : List (BitVec 8) :=
  text "[ERROR] Trap handler " ++
    (decimalText (vector.setWidth 64) ++ text " returned an error\n")

/-- A handler has been called, and has come back with a code and a text or not at all. -/
def Traps.handled (traps : Traps) (vector : BitVec 16) (called : BitVec 64 × BitVec 64) :
    Option (Code × List (BitVec 8)) → Traps
  | none => { traps with called := traps.called ++ [called], halted := true }
  | some done => { traps with
      called := traps.called ++ [called]
      acknowledged := traps.acknowledged + if isIrq vector then 1 else 0
      printed := traps.printed ++ done.2 ++ if done.1 < 0 then failedText vector else [] }

/-- A trap calls the handler that was registered last, and acknowledges an interrupt once. -/
def Traps.trap (traps : Traps) (behaviour : Behaviour) (vector : BitVec 16) (frame : BitVec 64) :
    Option Traps :=
  if vector.toNat < BOBAOS_TOTAL_INTERRUPTS then
    let handler := traps.handlers vector.toNat
    if handler = 0 then none
    else some (traps.handled vector (handler, frame) (behaviour handler))
  else some { traps with printed := traps.printed ++ illegalText vector }

def Traps.register (traps : Traps) (vector : BitVec 16) (handler : BitVec 64) : Traps :=
  if vector.toNat < BOBAOS_TOTAL_INTERRUPTS then
    { traps with handlers := Function.update traps.handlers vector.toNat handler }
  else traps

def Traps.apply (traps : Traps) (behaviour : Behaviour) : TrapEvent → Option Traps
  | .register vector handler => some (traps.register vector handler)
  | .trap vector frame => traps.trap behaviour vector frame

def Traps.applyAll (behaviour : Behaviour) : List TrapEvent → Traps → Option Traps
  | [], traps => some traps
  | event :: rest, traps => (traps.apply behaviour event).bind fun next =>
      if next.halted then some next else applyAll behaviour rest next

/-- The state of the kernel is that of the traps. -/
structure Holds (kernel : Kernel) (traps : Traps) : Prop where
  handlers : ∀ vector < BOBAOS_TOTAL_INTERRUPTS,
    kernel.idt.handlerList vector = traps.handlers vector
  called : kernel.called = traps.called
  ports : kernel.ports = List.replicate traps.acknowledged (0x20, 0x20)
  printed : traps.halted = false → Showing traps.printed kernel.screen

/-- The functions behave in a known way, and change nothing but the screen. -/
def Behaves (functions : Functions) (behaviour : Behaviour) : Prop :=
  ∀ handler ≠ 0, ∀ frame past kernel, Showing past kernel.screen →
    Meets (functions handler frame) kernel (fun _ => False) fun ret after =>
      ret = (behaviour handler).map Prod.fst ∧
        (∀ done ∈ behaviour handler, Showing (past ++ done.2) after.screen) ∧
        after = { kernel with screen := after.screen }

variable {functions : Functions} {behaviour : Behaviour} {kernel : Kernel} {traps : Traps}
  {fault : KernelFault → Prop}

/-! ## Laws -/

theorem meets_onScreen {α : Type}
    {program : Output.Console.M Output.Terminal.State Output.Terminal.Fault α}
    {post : α → Kernel → Prop} : Meets (onScreen program) kernel fault post ↔
      Meets program kernel.screen (fun problem => fault (.output problem))
        fun value screen => post value { kernel with screen } := meets_embed _ _ program

theorem meets_onIdt {α : Type} {program : IdtM α} {post : α → Kernel → Prop} :
    Meets (onIdt program) kernel fault post ↔
      Meets program kernel.idt (fun problem => fault (.idt problem))
        fun value idt => post value { kernel with idt } := meets_embed _ _ program

/-- A message with the vector is printed behind what has been printed. -/
theorem report_meets {past before behind : List (BitVec 8)} (vector : BitVec 16)
    (plain : ∀ char ∈ before ++ behind, char ≠ 37 ∧ char.toNat < 128)
    (showing : Showing past kernel.screen) :
    Meets (report (before ++ 37 :: 117 :: behind) vector) kernel fault fun _ after =>
      Showing (past ++ (before ++ (decimalText (vector.setWidth 64) ++ behind))) after.screen ∧
        after = { kernel with screen := after.screen } := by
  obtain ⟨first, second⟩ := List.forall_mem_append.mp plain
  have expands := @expand_number (fun _ => []) before behind (vector.setWidth 64)
    (fun char member => (first char member).1) fun char member => (second char member).1
  have seven : ∀ char ∈ before ++ (decimalText (vector.setWidth 64) ++ behind),
      char.toNat < 128 :=
    List.forall_mem_append.mpr ⟨fun char member => (first char member).2,
      List.forall_mem_append.mpr ⟨decimalText_seven _, fun char member => (second char member).2⟩⟩
  rw [report, meets_onScreen]
  have prints := prints_terminal.kprintfFrom (fun _ => 0) _ expands showing seven
  apply (prints.mono_fault fun _ none => none.elim).mono
  exact fun _ screen showing => ⟨showing, rfl⟩

theorem illegalMessage_parts : illegalMessage =
    text "[ERROR] Trap handler got called with the illegal vector " ++ 37 :: 117 :: text "\n" := by
  simp [illegalMessage, text]

theorem missingMessage_parts : missingMessage =
    text "[ERROR] No trap handler available for vector " ++ 37 :: 117 :: text "\n" := by
  simp [missingMessage, text]

theorem failedMessage_parts : failedMessage =
    text "[ERROR] Trap handler " ++ 37 :: 117 :: text " returned an error\n" := by
  simp [failedMessage, text]

theorem callHandler_meets {past : List (BitVec 8)} {handler : BitVec 64}
    (behaves : Behaves functions behaviour) (present : handler ≠ 0) (frame : BitVec 64)
    (showing : Showing past kernel.screen) :
    Meets (callHandler functions handler frame) kernel (fun _ => False) fun ret after =>
      ret = (behaviour handler).map Prod.fst ∧
        (∀ done ∈ behaviour handler, Showing (past ++ done.2) after.screen) ∧
        after = { kernel with
          called := kernel.called ++ [(handler, frame)]
          screen := after.screen } := by
  rw [callHandler, if_neg present, meets_bind, meets_modify]
  exact behaves handler present frame past _ showing

theorem reportFailure_meets {past : List (BitVec 8)} (vector : BitVec 16) (ret : Code)
    (showing : Showing past kernel.screen) :
    Meets (reportFailure vector ret) kernel fault fun _ after =>
      Showing (past ++ if ret < 0 then failedText vector else []) after.screen ∧
        after = { kernel with screen := after.screen } := by
  rw [reportFailure, meets_ite]
  constructor
  · intro failed
    rw [if_pos failed, failedMessage_parts]
    exact report_meets vector (by simp [text]) showing
  · intro fine
    rw [if_neg fine, List.append_nil]
    exact .pure ⟨showing, rfl⟩

theorem acknowledge_meets (vector : BitVec 16) : Meets (acknowledge vector) kernel fault
    fun _ after => after = { kernel with
      ports := kernel.ports ++ List.replicate (if isIrq vector then 1 else 0) (0x20, 0x20) } := by
  rw [acknowledge, meets_ite, isIrq, outb, meets_modify]
  constructor
  · intro irq
    rw [if_pos (by simp; omega)]
    rfl
  · intro other
    rw [if_neg (by simp; omega), List.replicate_zero, List.append_nil]
    exact .pure rfl

/-- A trap goes wrong exactly where the vector has no handler. -/
theorem trapHandler_meets (holds : Holds kernel traps) (runs : traps.halted = false)
    (behaves : Behaves functions behaviour) (vector : BitVec 16) (frame : BitVec 64) :
    Meets (trapHandler functions vector frame) kernel
      (fun _ => traps.trap behaviour vector frame = none) fun goesOn after =>
        ∃ next, traps.trap behaviour vector frame = some next ∧ Holds after next ∧
          goesOn = !next.halted := by
  have printed := holds.printed runs
  rw [trapHandler, meets_ite]
  constructor
  · intro beyond
    rw [Traps.trap, if_neg (Nat.not_lt.mpr beyond), illegalMessage_parts]
    apply (report_meets vector (by simp [text]) printed).bind
    rintro _ after ⟨showing, kept⟩
    rw [kept]
    exact .pure ⟨_, rfl, ⟨holds.handlers, holds.called, holds.ports, fun _ => showing⟩, by rw [runs]; rfl⟩
  · intro inside
    have low := Nat.not_le.mp inside
    have registered := holds.handlers vector.toNat low
    rw [Traps.trap, if_pos low, meets_bind, meets_get, registered]
    generalize traps.handlers vector.toNat = handler
    by_cases missing : handler = 0
    · -- The report comes before the call that goes wrong.
      rw [if_pos missing, if_pos missing, missingMessage_parts]
      apply (report_meets vector (by simp [text]) printed).bind
      intro _ after _
      rw [callHandler, if_pos missing]
      exact .throw rfl
    · rw [if_neg missing, if_neg missing]
      have calls := callHandler_meets behaves missing frame printed
      apply (calls.mono_fault fun _ none => none.elim).bind
      rintro _ called ⟨rfl, showing, kept⟩
      cases comes : behaviour handler with
      | none =>
        rw [kept]
        refine .pure ⟨_, rfl, ⟨holds.handlers, ?_, holds.ports, fun runs => by cases runs⟩, rfl⟩
        show kernel.called ++ _ = traps.called ++ _
        rw [holds.called]
      | some done =>
        apply (reportFailure_meets vector done.1 (showing done comes)).bind
        rintro _ reported ⟨showing, same⟩
        apply (acknowledge_meets vector).bind
        rintro _ after rfl
        rw [same, kept]
        refine .pure ⟨_, rfl, ⟨holds.handlers, ?_, ?_, fun _ => showing⟩, by rw [Traps.handled, runs]; rfl⟩
        · show kernel.called ++ _ = traps.called ++ _
          rw [holds.called]
        · show kernel.ports ++ _ = List.replicate (traps.acknowledged + _) _
          rw [holds.ports, List.replicate_append_replicate]

theorem registerHandler_holds (holds : Holds kernel traps) (vector : BitVec 16)
    (handler : BitVec 64) : Meets (onIdt (registerHandler vector handler)) kernel fault
      fun _ after => Holds after (traps.register vector handler) := by
  rw [meets_onIdt]
  apply (registerHandler_meets vector handler kernel.idt).mono
  intro _ idt registers
  rw [Traps.register]
  split at registers
  · rw [if_pos ‹_›, registers.2]
    refine ⟨fun tested low => ?_, holds.called, holds.ports, holds.printed⟩
    show Function.update kernel.idt.handlerList _ _ _ = Function.update traps.handlers _ _ _
    rw [Function.update_apply, Function.update_apply, holds.handlers tested low]
  · rw [if_neg ‹_›, registers.2]
    exact holds

/-- Each event is that of the traps. -/
theorem TrapEvent.run_meets (holds : Holds kernel traps) (runs : traps.halted = false)
    (behaves : Behaves functions behaviour) (event : TrapEvent) :
    Meets (event.run functions) kernel (fun _ => traps.apply behaviour event = none)
      fun goesOn after => ∃ next, traps.apply behaviour event = some next ∧ Holds after next ∧
        goesOn = !next.halted := by
  cases event with
  | register vector handler =>
    apply (registerHandler_holds holds vector handler).bind
    intro _ after holds
    refine .pure ⟨_, rfl, holds, ?_⟩
    rw [Traps.register]
    split <;> simp [runs]
  | trap vector frame => exact trapHandler_meets holds runs behaves vector frame

theorem runTraps_meets (behaves : Behaves functions behaviour) (events : List TrapEvent) :
    ∀ {kernel : Kernel} {traps : Traps}, Holds kernel traps → traps.halted = false →
      Meets (runTraps functions events) kernel
        (fun _ => Traps.applyAll behaviour events traps = none) fun _ after =>
          ∃ last, Traps.applyAll behaviour events traps = some last ∧ Holds after last := by
  induction events with
  | nil => exact fun holds _ => .pure ⟨_, rfl, holds⟩
  | cons event rest ih =>
    intro kernel traps holds runs
    rw [runTraps, Traps.applyAll]
    apply ((event.run_meets holds runs behaves).mono_fault fun _ stuck => ?_).bind
    · rintro _ between ⟨next, applied, holds, rfl⟩
      rw [applied, Option.bind_some]
      cases stopped : next.halted with
      | true => exact .pure ⟨next, rfl, holds⟩
      | false => exact ih holds stopped
    · rw [stuck, Option.bind_none]

/-! ## From the start -/

/-- The handlers that `idtInit` leaves, and nothing else yet. -/
def Traps.initial (place : Handler → BitVec 64) : Traps :=
  ⟨initialHandlers place, [], 0, [], false⟩

/-- An interrupt of the two controllers. -/
def TrapEvent.isIrq : TrapEvent → Bool
  | .register _ _ => false
  | .trap vector _ => Interrupts.isIrq vector

theorem Traps.apply_acknowledged {event : TrapEvent} {next : Traps}
    (applied : traps.apply behaviour event = some next) (runs : next.halted = false) :
    next.acknowledged = traps.acknowledged + if event.isIrq then 1 else 0 := by
  cases event with
  | register vector handler =>
    cases applied
    rw [Traps.register]
    split <;> rfl
  | trap vector frame =>
    rw [Traps.apply, Traps.trap] at applied
    split at applied
    · rw [Option.ite_none_left_eq_some] at applied
      rw [← Option.some.inj applied.2] at runs ⊢
      cases done : behaviour (traps.handlers vector.toNat) with
      | none =>
        rw [done] at runs
        cases runs
      | some done => rfl
    · cases applied
      have total : BOBAOS_TOTAL_INTERRUPTS = 256 := rfl
      rw [TrapEvent.isIrq, Interrupts.isIrq, if_neg (by simp; omega)]
      rfl

/-- Each interrupt of the controllers counts once. -/
theorem Traps.applyAll_acknowledged (events : List TrapEvent) :
    ∀ {traps last : Traps}, Traps.applyAll behaviour events traps = some last →
      last.halted = false →
      last.acknowledged = traps.acknowledged + events.countP TrapEvent.isIrq := by
  induction events with
  | nil =>
    rintro traps _ ⟨⟩ _
    rfl
  | cons event rest ih =>
    intro traps last applied runs
    obtain ⟨next, first, others⟩ := Option.bind_eq_some_iff.mp applied
    cases stopped : next.halted with
    | true =>
      rw [if_pos stopped] at others
      rw [← Option.some.inj others, stopped] at runs
      cases runs
    | false =>
      rw [if_neg (by rw [stopped]; exact Bool.false_ne_true)] at others
      rw [ih others runs, apply_acknowledged first stopped, List.countP_cons, Nat.add_assoc,
        Nat.add_comm (ite ..)]

end BobaOS.Interrupts
