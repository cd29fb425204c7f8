import BobaOS.Interrupts.Panics

/-!
# Runs of traps

The kernel from its start, with its own handlers: the interrupts of the controllers come back
and print what they print, and the exceptions do not come back.
-/

namespace BobaOS.Interrupts

open Output.Console Programs

variable {functions : Functions} {behaviour : Behaviour}

/-- What the handlers of the kernel return and print. -/
def Handler.outcome : Handler → Option (Code × List (BitVec 8))
  | .noInterruptHandler => some (0, text "[ERROR] No IRQ handler available\n")
  | .timerInterrupt => some (0, [])
  | .freePeripherals => some (0, text "TESTING TESTING\n")
  | _ => none

/-- The functions of the kernel at their addresses; any other function returns at once. -/
def kernelFunctions (handlerAt : BitVec 64 → Option Handler) (memory : BitVec 64 → UInt8) :
    Functions := fun address frame =>
  match handlerAt address with
  | some handler => handler.run memory frame
  | none => return some 0

def kernelBehaviour (handlerAt : BitVec 64 → Option Handler) : Behaviour := fun address =>
  match handlerAt address with
  | some handler => handler.outcome
  | none => some (0, [])

/-- What a handler may do to the kernel. -/
abbrev Leaves (program : KernelM (Option Code)) (outcome : Option (Code × List (BitVec 8)))
    (past : List (BitVec 8)) (kernel : Kernel) : Prop :=
  Meets program kernel (fun _ => False) fun ret after => ret = outcome.map Prod.fst ∧
    (∀ done ∈ outcome, Showing (past ++ done.2) after.screen) ∧
    after = { kernel with screen := after.screen }

variable {past : List (BitVec 8)} {kernel : Kernel} {memory : BitVec 64 → UInt8} {frame : BitVec 64}

theorem leaves_return (showing : Showing past kernel.screen) :
    Leaves (return some 0) (some (0, [])) past kernel := by
  refine .pure ⟨rfl, ?_, rfl⟩
  rintro _ ⟨⟩
  rwa [List.append_nil]

theorem leaves_print {str : List (BitVec 8)} (showing : Showing past kernel.screen)
    (seven : ∀ char ∈ str, char.toNat < 128) :
    Leaves (do onScreen (print str); return some 0) (some (0, str)) past kernel := by
  rw [Leaves, meets_bind, meets_onScreen, print, meets_bind]
  apply ((prints_terminal.koalPrint str 0 showing seven).mono_fault fun _ none => none.elim).mono
  intro _ screen showing
  rw [meets_pure, meets_pure]
  refine ⟨rfl, ?_, rfl⟩
  rintro _ ⟨⟩
  exact showing

theorem leaves_raise {message : String} (showing : Showing past kernel.screen)
    (seven : ∀ char ∈ text message, char.toNat < 128) :
    Leaves (raise message memory frame) none past kernel := by
  rw [Leaves, raise, meets_bind, meets_onScreen]
  apply ((panic_meets PANIC_TYPE_EXCEPTION frame showing.registry seven).mono_fault
    fun _ none => none.elim).mono
  exact fun _ _ _ => .pure ⟨rfl, by rintro _ ⟨⟩, rfl⟩

theorem kernelFunctions_behave (handlerAt : BitVec 64 → Option Handler)
    (memory : BitVec 64 → UInt8) :
    Behaves (kernelFunctions handlerAt memory) (kernelBehaviour handlerAt) := by
  intro address _ frame past kernel showing
  rw [kernelFunctions, kernelBehaviour]
  cases handlerAt address with
  | none => exact leaves_return showing
  | some handler =>
    cases handler with
    | noInterruptHandler => exact leaves_print showing (by simp [text])
    | timerInterrupt => exact leaves_return showing
    | freePeripherals => exact leaves_print showing (by simp [text])
    | _ => exact leaves_raise showing (by simp [text])

/-! ## From the start -/

/-- The kernel's handlers, with the timer's at one address and that of a page fault at another. -/
def sampleHandlers (address : BitVec 64) : Option Handler :=
  if address = 0x300000 then some .timerInterrupt
  else if address = 0x300001 then some .pageError
  else none

/-- The timer, a function for a vector that has none, and a page fault at last. -/
def sampleEvents : List TrapEvent :=
  [.trap 32 0x1000, .register 48 0x500000, .trap 48 0x1000, .trap 0x200 0x1000,
    .register 14 0x300001, .trap 14 0x1000, .trap 32 0x1000]

end BobaOS.Interrupts
