import BobaOS.Interrupts.Interruptions
import BobaOS.Interrupts.Traps
import BobaOS.Output.Colours

/-!
# Panics

`panic`: the screen is cleared in another colour, and what has happened is printed, with the
registers of the machine that an exception has interrupted. Nothing comes after it.

The screen is not a part of the memory here: a frame does not lie in the video memory.
-/

namespace BobaOS.Interrupts

open LastWrites Output Output.Console PackedRecords Programs RecordStacks

abbrev ScreenM := Output.Console.M Terminal.State Terminal.Fault

/-! ## Code -/

def print (str : List (BitVec 8)) : ScreenM Unit := do
  let _ ← koalPrint str

/-- A call of `kprintf` without strings. What lies on its stack is of no matter. -/
def printNumbers (format : String) (args : List (BitVec 64)) : ScreenM Unit :=
  kprintf (fun _ => []) (fun _ => 0) (text format) args

def printTrapFrame (address : BitVec 64) (frame : TrapFrame) : ScreenM Unit := do
  printNumbers "Trap frame: %x\n\n" [address]
  printNumbers "RAX: %x  RBX: %x  RCX: %x  RDX: %x\n" [frame.rax, frame.rbx, frame.rcx, frame.rdx]
  printNumbers "RSI: %x  RDI: %x  RBP: %x\n\n" [frame.rsi, frame.rdi, frame.rbp]
  printNumbers "R15: %x  R14: %x  R13: %x  R12: %x\n" [frame.r15, frame.r14, frame.r13, frame.r12]
  printNumbers "R11: %x  R10: %x  R09: %x  R08: %x\n\n" [frame.r11, frame.r10, frame.r9, frame.r8]
  printNumbers "RIP: %x  CS: %x  FLAGS: %x  RSP: %x  DS: %x\n\n"
    [frame.rip, frame.cs, frame.flags, frame.rsp, frame.ds]

def PANIC_TYPE_KERNEL : Nat := 0
def PANIC_TYPE_EXCEPTION : Nat := 1

/-- The word at an index of a packed record. -/
def wordAt (memory : BitVec 64 → UInt8) (address : BitVec 64) (index : Nat) : BitVec 64 :=
  word64.load memory (address + BitVec.ofNat 64 (8 * index))

/-- The record that a pointer points to. -/
def loadFrame (memory : BitVec 64 → UInt8) (address : BitVec 64) : TrapFrame where
  r15 := wordAt memory address 0
  r14 := wordAt memory address 1
  r13 := wordAt memory address 2
  r12 := wordAt memory address 3
  r11 := wordAt memory address 4
  r10 := wordAt memory address 5
  r9 := wordAt memory address 6
  r8 := wordAt memory address 7
  rbp := wordAt memory address 8
  rdi := wordAt memory address 9
  rsi := wordAt memory address 10
  rdx := wordAt memory address 11
  rcx := wordAt memory address 12
  rbx := wordAt memory address 13
  rax := wordAt memory address 14
  rip := wordAt memory address 15
  cs := wordAt memory address 16
  flags := wordAt memory address 17
  rsp := wordAt memory address 18
  ds := wordAt memory address 19

/-- What `panic` prints for a type. -/
def printReason (memory : BitVec 64 → UInt8) (type : Nat) (frame : BitVec 64) : ScreenM Unit := do
  if type = PANIC_TYPE_KERNEL then print (text "Panic Type: KERNEL\n")
  else if type = PANIC_TYPE_EXCEPTION then
    print (text "Panic Type: EXCEPTION\n")
    if frame ≠ 0 then printTrapFrame frame (loadFrame memory frame)
  else print (text "Panic Type: UNKNOWN\n")

/-- `panic` up to its last loop. -/
def panic (memory : BitVec 64 → UInt8) (strings : BitVec 64 → List (BitVec 8)) (type : Nat)
    (frame message : BitVec 64) : ScreenM Unit := do
  onDevices (Terminal.terminalClear 0x1)
  print (text "KERNEL PANIC\n\n")
  printReason memory type frame
  kprintf strings (fun _ => 0) (text "Panic message: %s") [message]

/-! ## What is printed -/

/-- A line with a number behind each label, and its end. -/
structure Line where
  labels : List String
  tail : String
  numbers : List (BitVec 64)

/-- The lines of a frame. -/
def frameLines (address : BitVec 64) (frame : TrapFrame) : List Line :=
  [⟨["Trap frame: "], "\n\n", [address]⟩,
    ⟨["RAX: ", "  RBX: ", "  RCX: ", "  RDX: "], "\n",
      [frame.rax, frame.rbx, frame.rcx, frame.rdx]⟩,
    ⟨["RSI: ", "  RDI: ", "  RBP: "], "\n\n", [frame.rsi, frame.rdi, frame.rbp]⟩,
    ⟨["R15: ", "  R14: ", "  R13: ", "  R12: "], "\n",
      [frame.r15, frame.r14, frame.r13, frame.r12]⟩,
    ⟨["R11: ", "  R10: ", "  R09: ", "  R08: "], "\n\n",
      [frame.r11, frame.r10, frame.r9, frame.r8]⟩,
    ⟨["RIP: ", "  CS: ", "  FLAGS: ", "  RSP: ", "  DS: "], "\n\n",
      [frame.rip, frame.cs, frame.flags, frame.rsp, frame.ds]⟩]

def Line.shown (line : Line) : List (BitVec 8) :=
  hexLine ((line.labels.map text).zip line.numbers) (text line.tail)

def frameText (address : BitVec 64) (frame : TrapFrame) : List (BitVec 8) :=
  (frameLines address frame).flatMap Line.shown

/-- What a panic of a type prints between its first line and its message. -/
def panicReason (memory : BitVec 64 → UInt8) (type : Nat) (frame : BitVec 64) : List (BitVec 8) :=
  if type = PANIC_TYPE_KERNEL then text "Panic Type: KERNEL\n"
  else if type = PANIC_TYPE_EXCEPTION then
    text "Panic Type: EXCEPTION\n" ++
      if frame ≠ 0 then frameText frame (loadFrame memory frame) else []
  else text "Panic Type: UNKNOWN\n"

def panicText (memory : BitVec 64 → UInt8) (strings : BitVec 64 → List (BitVec 8)) (type : Nat)
    (frame message : BitVec 64) : List (BitVec 8) :=
  text "KERNEL PANIC\n\n" ++ (panicReason memory type frame ++
    (text "Panic message: " ++ strings message))

/-- The terminal is selected, and displays a text in other colours. -/
abbrev ShowingIn (colour : BitVec 8) : List (BitVec 8) → Screen → Prop :=
  ShowingWith (Terminal.DisplaysIn colour)

variable {colour : BitVec 8} {past : List (BitVec 8)} {state : Screen}

theorem prints_tinted : Prints (ShowingIn colour) fun char => char.toNat < 128 :=
  prints_with fun _ _ _ displays seven => Terminal.terminalPutchar_tinted displays seven

theorem print_meets {str : List (BitVec 8)} (showing : ShowingIn colour past state)
    (seven : ∀ char ∈ str, char.toNat < 128) :
    Meets (print str) state (fun _ => False) fun _ after => ShowingIn colour (past ++ str) after := by
  rw [print]
  apply (prints_tinted.koalPrint str 0 showing seven).bind
  exact fun _ _ showing => .pure showing

/-- A format without a conversion but those behind its labels prints its line. -/
theorem printNumbers_meets {format : String} (labels : List String) (tail : String)
    {numbers : List (BitVec 64)} (showing : ShowingIn colour past state)
    (is_format : text format = hexFormat (labels.map text) (text tail))
    (plain : ∀ char ∈ labels.flatMap text ++ text tail, char ≠ 37 ∧ char.toNat < 128)
    (count : labels.length = numbers.length) :
    Meets (printNumbers format numbers) state (fun _ => False) fun _ after =>
      ShowingIn colour (past ++ Line.shown ⟨labels, tail, numbers⟩) after := by
  obtain ⟨first, second⟩ := List.forall_mem_append.mp plain
  have fields : ∀ field ∈ (labels.map text).zip numbers, ∀ char ∈ field.1,
      char ≠ 37 ∧ char.toNat < 128 := by
    intro field member char inside
    obtain ⟨label, labelled, is_label⟩ := List.mem_map.mp (List.of_mem_zip member).1
    exact first char (List.mem_flatMap.mpr ⟨label, labelled, is_label ▸ inside⟩)
  have expands := @expand_hexFormat (fun _ => []) (text tail)
    (fun char member => (second char member).1) ((labels.map text).zip numbers)
    fun field member char inside => (fields field member char inside).1
  rw [List.map_fst_zip (by rw [List.length_map, count]),
    List.map_snd_zip (by rw [List.length_map, count])] at expands
  rw [printNumbers, is_format]
  exact prints_tinted.kprintfFrom (fun _ => 0) _ expands showing
    (hexLine_seven (fun char member => (second char member).2) _
      fun field member char inside => (fields field member char inside).2)

theorem printTrapFrame_meets (address : BitVec 64) (frame : TrapFrame)
    (showing : ShowingIn colour past state) :
    Meets (printTrapFrame address frame) state (fun _ => False) fun _ after =>
      ShowingIn colour (past ++ frameText address frame) after := by
  have whole : past ++ frameText address frame =
      (frameLines address frame).foldl (fun text line => text ++ line.shown) past := by
    rw [frameText]
    simp only [frameLines, List.flatMap_cons, List.flatMap_nil, List.foldl_cons, List.foldl_nil,
      List.append_nil, List.append_assoc]
  rw [whole, printTrapFrame]
  apply (printNumbers_meets ["Trap frame: "] "\n\n" showing
    (by simp [hexFormat, text]) (by simp [text]) rfl).bind
  intro _ _ showing
  apply (printNumbers_meets ["RAX: ", "  RBX: ", "  RCX: ", "  RDX: "] "\n" showing
    (by simp [hexFormat, text]) (by simp [text]) rfl).bind
  intro _ _ showing
  apply (printNumbers_meets ["RSI: ", "  RDI: ", "  RBP: "] "\n\n" showing
    (by simp [hexFormat, text]) (by simp [text]) rfl).bind
  intro _ _ showing
  apply (printNumbers_meets ["R15: ", "  R14: ", "  R13: ", "  R12: "] "\n" showing
    (by simp [hexFormat, text]) (by simp [text]) rfl).bind
  intro _ _ showing
  apply (printNumbers_meets ["R11: ", "  R10: ", "  R09: ", "  R08: "] "\n\n" showing
    (by simp [hexFormat, text]) (by simp [text]) rfl).bind
  intro _ _ showing
  exact printNumbers_meets ["RIP: ", "  CS: ", "  FLAGS: ", "  RSP: ", "  DS: "] "\n\n" showing
    (by simp [hexFormat, text]) (by simp [text]) rfl

theorem printReason_meets (memory : BitVec 64 → UInt8) (type : Nat) (frame : BitVec 64)
    (showing : ShowingIn colour past state) :
    Meets (printReason memory type frame) state (fun _ => False) fun _ after =>
      ShowingIn colour (past ++ panicReason memory type frame) after := by
  rw [printReason, panicReason]
  by_cases kernel : type = PANIC_TYPE_KERNEL
  · rw [if_pos kernel, if_pos kernel]
    exact print_meets showing (by simp [text])
  rw [if_neg kernel, if_neg kernel]
  by_cases exception : type = PANIC_TYPE_EXCEPTION
  · rw [if_pos exception, if_pos exception, ← List.append_assoc]
    apply (print_meets showing (by simp [text])).bind
    intro _ titled showing
    by_cases present : frame ≠ 0
    · rw [if_pos present, if_pos present]
      exact printTrapFrame_meets frame _ showing
    · rw [if_neg present, if_neg present, List.append_nil]
      exact .pure showing
  · rw [if_neg exception, if_neg exception]
    exact print_meets showing (by simp [text])

/-- Whatever the screen showed, a panic clears it and prints its text. -/
theorem panic_meets {memory : BitVec 64 → UInt8} {strings : BitVec 64 → List (BitVec 8)}
    (type : Nat) (frame : BitVec 64) {message : BitVec 64}
    (registry : Represents state ⟨[koal], some 0⟩)
    (seven : ∀ char ∈ strings message, char.toNat < 128) :
    Meets (panic memory strings type frame message) state (fun _ => False) fun _ after =>
      ShowingIn (Terminal.tintOf 0x1) (panicText memory strings type frame message) after := by
  have label : ∀ char ∈ text "Panic message: ", char ≠ 37 ∧ char.toNat < 128 := by simp [text]
  have parts : text "Panic message: %s" = text "Panic message: " ++ [37, 115] := by simp [text]
  have expands : expand strings (text "Panic message: %s") false [message] =
      some (text "Panic message: " ++ strings message) := by
    have converts : convert strings 115 [message] = some (strings message, []) := rfl
    rw [parts, expand_plain fun char member => (label char member).1, expand, if_pos rfl, expand,
      converts]
    simp [expand]
  rw [panic, panicText, meets_bind, meets_onDevices, ← List.append_assoc]
  apply (Terminal.terminalClear_meets 0x1 state.devices).mono
  intro _ devices displays
  have showing : ShowingIn (Terminal.tintOf 0x1) [] { state with devices } :=
    ⟨{ registry with }, displays⟩
  apply (print_meets showing (by simp [text])).bind
  intro _ titled showing
  apply (printReason_meets memory type frame showing).bind
  intro _ reasoned showing
  rw [List.nil_append] at showing
  exact prints_tinted.kprintfFrom (fun _ => 0) _ expands showing (List.forall_mem_append.mpr
    ⟨fun char member => (label char member).2, seven⟩)

/-! ## Handlers -/

/-- A handler gets the address of a frame in a memory. -/
abbrev HandlerFunction := (BitVec 64 → UInt8) → BitVec 64 → KernelM (Option Code)

def noInterruptHandler : HandlerFunction := fun _ _ => do
  onScreen (print (text "[ERROR] No IRQ handler available\n"))
  return some 0

def timerInterrupt : HandlerFunction := fun _ _ => return some 0

def freePeripherals : HandlerFunction := fun _ _ => do
  onScreen (print (text "TESTING TESTING\n"))
  return some 0

/-- The handler of an exception does not come back. -/
def raise (message : String) : HandlerFunction := fun memory frame => do
  onScreen (panic memory (fun _ => text message) PANIC_TYPE_EXCEPTION frame 0)
  return none

def divError := raise "Divide by zero"
def debugError := raise "Debug"
def NoMaskIntError := raise "Non-maskable Interrupt"
def breakError := raise "Breakpoint hit"
def overflowError := raise "Overflow"
def boundRangeError := raise "Bound Range Exceeded"
def invalidOpcodeError := raise "Invalid Opcode"
def deviceNotAvailableError := raise "Device Not Available"
def doubleFaultError := raise "Double Fault"
def tssError := raise "Invalid Tss"
def segmentPresentError := raise "Segment Not Present"
def stackSegmentError := raise "Stack Segment Fault"
def protectionError := raise "General Protection Fault"
def pageError := raise "Page Fault"
def machineError := raise "Machine Check"
def floatingPointError := raise "Floating Point Exception"
def alignmentError := raise "Alignment Check"
def smidFloatingPointError := raise "SMID Floating Point Exception"
def virtualizationError := raise "Virtualization Exception"
def controlError := raise "Control Protection Exception"
def hypervisorError := raise "Hypervisoir Injection Exception"
def vmmError := raise "VMM Communication Exception"
def securityError := raise "Security Exception"

def Handler.run : Handler → HandlerFunction
  | .noInterruptHandler => Interrupts.noInterruptHandler
  | .timerInterrupt => Interrupts.timerInterrupt
  | .freePeripherals => Interrupts.freePeripherals
  | .divError => Interrupts.divError
  | .debugError => Interrupts.debugError
  | .NoMaskIntError => Interrupts.NoMaskIntError
  | .breakError => Interrupts.breakError
  | .overflowError => Interrupts.overflowError
  | .boundRangeError => Interrupts.boundRangeError
  | .invalidOpcodeError => Interrupts.invalidOpcodeError
  | .deviceNotAvailableError => Interrupts.deviceNotAvailableError
  | .doubleFaultError => Interrupts.doubleFaultError
  | .tssError => Interrupts.tssError
  | .segmentPresentError => Interrupts.segmentPresentError
  | .stackSegmentError => Interrupts.stackSegmentError
  | .protectionError => Interrupts.protectionError
  | .pageError => Interrupts.pageError
  | .machineError => Interrupts.machineError
  | .floatingPointError => Interrupts.floatingPointError
  | .alignmentError => Interrupts.alignmentError
  | .smidFloatingPointError => Interrupts.smidFloatingPointError
  | .virtualizationError => Interrupts.virtualizationError
  | .controlError => Interrupts.controlError
  | .hypervisorError => Interrupts.hypervisorError
  | .vmmError => Interrupts.vmmError
  | .securityError => Interrupts.securityError

/-! ## Exceptions -/

/-- What the screen shows of an exception. -/
def exceptionText (address : BitVec 64) (frame : TrapFrame) (message : String) : List (BitVec 8) :=
  text "KERNEL PANIC\n\n" ++ (text "Panic Type: EXCEPTION\n" ++ frameText address frame ++
    (text "Panic message: " ++ text message))

theorem loadFrame_stacked {memory : BitVec 64 → UInt8} {address : BitVec 64} {frame : TrapFrame}
    (stacked : Stacked word64 memory address frame.words) : loadFrame memory address = frame := by
  have word (index : Nat) (inside : index < 20) :
      wordAt memory address index = frame.words.get ⟨index, inside⟩ := stacked.get index inside
  rw [loadFrame, word 0 (by decide), word 1 (by decide), word 2 (by decide), word 3 (by decide),
    word 4 (by decide), word 5 (by decide), word 6 (by decide), word 7 (by decide),
    word 8 (by decide), word 9 (by decide), word 10 (by decide), word 11 (by decide),
    word 12 (by decide), word 13 (by decide), word 14 (by decide), word 15 (by decide),
    word 16 (by decide), word 17 (by decide), word 18 (by decide), word 19 (by decide)]
  rfl

/-- The handler of an exception is the one that `initExceptionHandler` has registered. -/
theorem initialHandlers_exception (place : Handler → BitVec 64) {call : Nat × Handler}
    (member : call ∈ exceptionHandlers) : initialHandlers place call.1 = place call.2 := by
  have all : ∀ call ∈ exceptionHandlers,
      last Prod.fst (irqHandlers ++ exceptionHandlers) call.1 = some call := by decide +kernel
  rw [initialHandlers, all call member]
  rfl

/-- The handler of an exception halts with its text on the screen. -/
theorem raise_meets {kernel : Kernel} {memory : BitVec 64 → UInt8} {message : String}
    {address : BitVec 64} {frame : TrapFrame} (present : address ≠ 0)
    (stacked : Stacked word64 memory address frame.words)
    (seven : ∀ char ∈ text message, char.toNat < 128)
    (registry : Represents kernel.screen ⟨[koal], some 0⟩) {fault : KernelFault → Prop} :
    Meets (raise message memory address) kernel fault fun ret after =>
      ret = none ∧ after.ports = kernel.ports ∧
        ShowingIn (Terminal.tintOf 0x1) (exceptionText address frame message) after.screen := by
  have whole : panicText memory (fun _ => text message) PANIC_TYPE_EXCEPTION address 0 =
      exceptionText address frame message := by
    rw [panicText, panicReason, if_neg (by decide), if_pos rfl, if_pos present,
      loadFrame_stacked stacked, exceptionText]
  rw [raise, meets_bind, meets_onScreen]
  apply ((panic_meets PANIC_TYPE_EXCEPTION address registry seven).mono_fault
    fun _ none => none.elim).mono
  intro _ screen showing
  rw [whole] at showing
  exact .pure ⟨rfl, rfl, showing⟩

/-- A trap of an exception halts the kernel. -/
theorem trapHandler_raises {kernel : Kernel} {functions : Functions} {memory : BitVec 64 → UInt8}
    {message : String} {vector : BitVec 16} {address handler : BitVec 64} {frame : TrapFrame}
    (low : vector.toNat < BOBAOS_TOTAL_INTERRUPTS)
    (registered : kernel.idt.handlerList vector.toNat = handler) (nonzero : handler ≠ 0)
    (known : functions handler address = raise message memory address) (present : address ≠ 0)
    (stacked : Stacked word64 memory address frame.words)
    (seven : ∀ char ∈ text message, char.toNat < 128)
    (registry : Represents kernel.screen ⟨[koal], some 0⟩) :
    Meets (trapHandler functions vector address) kernel (fun _ => False) fun goesOn after =>
      goesOn = false ∧ after.ports = kernel.ports ∧
        ShowingIn (Terminal.tintOf 0x1) (exceptionText address frame message) after.screen := by
  have calls : Meets (callHandler functions handler address) kernel (fun _ => False)
      fun ret after => ret = none ∧ after.ports = kernel.ports ∧
        ShowingIn (Terminal.tintOf 0x1) (exceptionText address frame message) after.screen := by
    rw [callHandler, if_neg nonzero, meets_bind, meets_modify, known]
    exact @raise_meets { kernel with called := kernel.called ++ [(handler, address)] } _ _ _ _
      present stacked seven registry _
  rw [trapHandler, if_neg (Nat.not_le.mpr low), meets_bind, meets_get, registered, if_neg nonzero]
  apply calls.bind
  rintro _ after ⟨rfl, ports, showing⟩
  exact .pure ⟨rfl, ports, showing⟩

end BobaOS.Interrupts
