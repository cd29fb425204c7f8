import BobaOS.Output.Console
import BobaOS.Output.PrintNumerals
import BobaOS.Output.TerminalText

/-!
# Formatted output

`kprintf`: a text with conversions is printed character by character. A number is converted in
a buffer on the stack, and a string is read where its argument points to.

What is printed is stated as one text first; a device that takes every character then has it
behind what it had before, and so the screen shows all that has been printed.
-/

namespace BobaOS.Output.Console

open Numerals Programs

variable {δ ε : Type}

/-! ## Code -/

/-- The bytes of a buffer up to its NUL; a text without one is read on behind the buffer. -/
def cString (buffer : Nat → UInt8) : M δ ε (List (BitVec 8)) :=
  let bytes := (List.range BUFFER_SIZE).map buffer
  if 0 ∈ bytes then return (bytes.takeWhile (· ≠ 0)).map UInt8.toBitVec else throw .outOfBounds

/-- A numeral in a buffer on the stack, which holds anything before. -/
def inBuffer (numeral : Output.M Unit) (stack : Nat → UInt8) : M δ ε (List (BitVec 8)) :=
  match numeral.run stack with
  | .ok (_, buffer) => cString buffer
  | .error _ => throw .outOfBounds

/-- The next argument. -/
def vaArg : List (BitVec 64) → M δ ε (BitVec 64 × List (BitVec 64))
  | [] => throw .noArgument
  | arg :: args => return (arg, args)

/-- The character behind `%`, with the arguments that are left before and after it. The strings
are those that the pointers among the arguments point to. -/
def printSpecial (strings : BitVec 64 → List (BitVec 8)) (stack : Nat → UInt8) (c : BitVec 8)
    (args : List (BitVec 64)) : M δ ε (List (BitVec 64)) := do
  if c = 120 then
    let taken ← vaArg args
    let _ ← koalPrint (← inBuffer (strToHex taken.1) stack)
    return taken.2
  else if c = 117 then
    let taken ← vaArg args
    let _ ← koalPrint (← inBuffer (strToUInt taken.1) stack)
    return taken.2
  else if c = 115 then
    let taken ← vaArg args
    let _ ← koalPrint (strings taken.1)
    return taken.2
  else return args

/-- The loop of `kprintf`. -/
def kprintfFrom (strings : BitVec 64 → List (BitVec 8)) (stack : Nat → UInt8) :
    List (BitVec 8) → Bool → List (BitVec 64) → M δ ε Unit
  | [], _, _ => return
  | c :: str, true, args => do
    let args ← printSpecial strings stack c args
    kprintfFrom strings stack str false args
  | c :: str, false, args => do
    if c = 37 then kprintfFrom strings stack str true args
    else
      let _ ← koalPrintChar c
      kprintfFrom strings stack str false args

def kprintf (strings : BitVec 64 → List (BitVec 8)) (stack : Nat → UInt8)
    (str : List (BitVec 8)) (args : List (BitVec 64)) : M δ ε Unit :=
  kprintfFrom strings stack str false args

/-! ## What is printed -/

/-- The text of a number. -/
def decimalText (num : BitVec 64) : List (BitVec 8) :=
  (symbols decimalMap (numeral 10 num.toNat)).map UInt8.toBitVec

def hexText (num : BitVec 64) : List (BitVec 8) :=
  (48 :: 120 :: symbols hexMap (numeral 16 num.toNat)).map UInt8.toBitVec

/-- What a conversion makes of its argument, if it has one. -/
def conversion (strings : BitVec 64 → List (BitVec 8)) (c : BitVec 8) :
    Option (BitVec 64 → List (BitVec 8)) :=
  if c = 120 then some hexText
  else if c = 117 then some decimalText
  else if c = 115 then some strings
  else none

/-- The text of a character behind `%`, with the arguments that are left: nothing where it has no
meaning, and no result where the arguments do not suffice. -/
def convert (strings : BitVec 64 → List (BitVec 8)) (c : BitVec 8) (args : List (BitVec 64)) :
    Option (List (BitVec 8) × List (BitVec 64)) :=
  match conversion strings c with
  | none => some ([], args)
  | some text => args.head?.map fun arg => (text arg, args.tail)

/-- A text with its conversions replaced. -/
def expand (strings : BitVec 64 → List (BitVec 8)) :
    List (BitVec 8) → Bool → List (BitVec 64) → Option (List (BitVec 8))
  | [], _, _ => some []
  | c :: str, true, args =>
    (convert strings c args).bind fun converted =>
      (expand strings str false converted.2).map (converted.1 ++ ·)
  | c :: str, false, args =>
    if c = 37 then expand strings str true args
    else (expand strings str false args).map (c :: ·)

/-- The characters of a text in the source. -/
def text (string : String) : List (BitVec 8) := string.toList.map fun char => .ofNat 8 char.toNat

/-- A text before the first conversion is printed as it is. -/
theorem expand_plain {strings : BitVec 64 → List (BitVec 8)} {plain rest : List (BitVec 8)}
    {args : List (BitVec 64)} (literal : ∀ c ∈ plain, c ≠ 37) :
    expand strings (plain ++ rest) false args =
      (expand strings rest false args).map (plain ++ ·) := by
  induction plain with
  | nil => simp
  | cons c plain ih =>
    rw [List.cons_append, expand, if_neg (literal c List.mem_cons_self),
      ih fun other member => literal other (List.mem_cons_of_mem _ member), Option.map_map]
    rfl

/-- A number between two texts. -/
theorem expand_number {strings : BitVec 64 → List (BitVec 8)} {before behind : List (BitVec 8)}
    (num : BitVec 64) (first : ∀ c ∈ before, c ≠ 37) (second : ∀ c ∈ behind, c ≠ 37) :
    expand strings (before ++ 37 :: 117 :: behind) false [num] =
      some (before ++ (decimalText num ++ behind)) := by
  have ends := @expand_plain strings behind [] [] second
  rw [List.append_nil] at ends
  have converts : convert strings 117 [num] = some (decimalText num, []) := rfl
  rw [expand_plain first, expand, if_pos rfl, expand, converts, Option.bind_some, ends]
  simp [expand]

/-- A format with a hexadecimal number behind each label. -/
def hexFormat : List (List (BitVec 8)) → List (BitVec 8) → List (BitVec 8)
  | [], tail => tail
  | label :: labels, tail => label ++ 37 :: 120 :: hexFormat labels tail

/-- The line that it makes of some numbers. -/
def hexLine : List (List (BitVec 8) × BitVec 64) → List (BitVec 8) → List (BitVec 8)
  | [], tail => tail
  | field :: fields, tail => field.1 ++ (hexText field.2 ++ hexLine fields tail)

theorem expand_hexFormat {strings : BitVec 64 → List (BitVec 8)} {tail : List (BitVec 8)}
    (last : ∀ c ∈ tail, c ≠ 37) (fields : List (List (BitVec 8) × BitVec 64)) :
    (∀ field ∈ fields, ∀ c ∈ field.1, c ≠ 37) →
      expand strings (hexFormat (fields.map Prod.fst) tail) false (fields.map Prod.snd) =
        some (hexLine fields tail) := by
  induction fields with
  | nil =>
    intro _
    have ends := @expand_plain strings tail [] [] last
    rw [List.append_nil] at ends
    rw [List.map_nil, hexFormat, List.map_nil, ends]
    simp [expand, hexLine]
  | cons field fields ih =>
    intro plain
    have others := ih fun other member => plain other (List.mem_cons_of_mem _ member)
    have converts : convert strings 120 (field.2 :: fields.map Prod.snd) =
        some (hexText field.2, fields.map Prod.snd) := rfl
    rw [List.map_cons, List.map_cons, hexFormat, expand_plain (plain field List.mem_cons_self),
      expand, if_pos rfl, expand, converts, Option.bind_some, others]
    rfl

/-! ## Numerals -/

/-- The digits are characters of seven bits, and no NUL. -/
theorem symbols_seven {numberMap : List UInt8} (seven : ∀ char ∈ numberMap, 0 < char ∧ char < 128)
    {base : Nat} (large : 1 < base) (length : numberMap.length = base) (number : Nat) :
    ∀ char ∈ symbols numberMap (numeral base number), 0 < char ∧ char < 128 := by
  intro char member
  obtain ⟨digit, digits, rfl⟩ := List.mem_map.mp member
  have below := (numeral_canonical large number).below digit digits
  rw [List.getD_eq_getElem _ _ (by omega)]
  exact seven _ (List.getElem_mem _)

theorem decimalMap_seven : ∀ char ∈ decimalMap, 0 < char ∧ char < 128 := by decide +kernel

theorem hexMap_seven : ∀ char ∈ hexMap, 0 < char ∧ char < 128 := by decide +kernel

/-- A buffer that shows a text is read as this text. -/
theorem cString_ran {buffer : Nat → UInt8} {text : List UInt8} (shows : Shows buffer text)
    (nonzero : ∀ char ∈ text, 0 < char) (state : State δ ε) :
    (cString buffer).run state = .ok (text.map UInt8.toBitVec, state) := by
  obtain ⟨short, begins⟩ := shows
  have whole : (List.range BUFFER_SIZE).map buffer = text ++ 0 ::
      (List.range' (text.length + 1) (BUFFER_SIZE - (text.length + 1))).map buffer := by
    have parts := @List.range'_append 0 (text.length + 1) (BUFFER_SIZE - (text.length + 1)) 1
    rw [Nat.add_sub_cancel' short, ← List.range_eq_range', ← List.range_eq_range', Nat.one_mul,
      Nat.zero_add] at parts
    rw [← parts, List.map_append, begins, List.append_assoc]
    rfl
  have taken : ((List.range BUFFER_SIZE).map buffer).takeWhile (· ≠ 0) = text := by
    rw [whole, List.takeWhile_append_of_pos]
    · simp
    · intro char member
      simpa using (UInt8.pos_iff_ne_zero.mp (nonzero char member))
  have member : 0 ∈ (List.range BUFFER_SIZE).map buffer := by
    rw [whole]
    simp
  rw [cString, if_pos member, taken]
  rfl

theorem inBuffer_hex (num : BitVec 64) (stack : Nat → UInt8) (state : State δ ε) :
    (inBuffer (strToHex num) stack).run state = .ok (hexText num, state) := by
  obtain ⟨_, after, ran, shows⟩ := (strToHex_meets num stack).returns
  have seven := @symbols_seven hexMap hexMap_seven 16 (by decide) rfl num.toNat
  rw [inBuffer, ran]
  refine cString_ran shows (fun char member => ?_) state
  rcases List.mem_cons.mp member with rfl | member
  · decide
  · rcases List.mem_cons.mp member with rfl | member
    · decide
    · exact (seven char member).1

theorem inBuffer_decimal (num : BitVec 64) (stack : Nat → UInt8) (state : State δ ε) :
    (inBuffer (strToUInt num) stack).run state = .ok (decimalText num, state) := by
  obtain ⟨_, after, ran, shows⟩ := (strToUInt_meets num stack).returns
  have seven := @symbols_seven decimalMap decimalMap_seven 10 (by decide) rfl num.toNat
  rw [inBuffer, ran]
  exact cString_ran shows (fun char member => (seven char member).1) state

theorem decimalText_seven (num : BitVec 64) : ∀ char ∈ decimalText num, char.toNat < 128 := by
  intro char member
  obtain ⟨symbol, symbols, rfl⟩ := List.mem_map.mp member
  exact (@symbols_seven decimalMap decimalMap_seven 10 (by decide) rfl num.toNat symbol symbols).2

theorem hexText_seven (num : BitVec 64) : ∀ char ∈ hexText num, char.toNat < 128 := by
  intro char member
  obtain ⟨symbol, symbols, rfl⟩ := List.mem_map.mp member
  rcases List.mem_cons.mp symbols with rfl | symbols
  · decide
  · rcases List.mem_cons.mp symbols with rfl | symbols
    · decide
    · exact (@symbols_seven hexMap hexMap_seven 16 (by decide) rfl num.toNat symbol symbols).2

theorem hexLine_seven {tail : List (BitVec 8)} (last : ∀ char ∈ tail, char.toNat < 128)
    (fields : List (List (BitVec 8) × BitVec 64)) :
    (∀ field ∈ fields, ∀ char ∈ field.1, char.toNat < 128) →
      ∀ char ∈ hexLine fields tail, char.toNat < 128 := by
  induction fields with
  | nil => exact fun _ => last
  | cons field fields ih =>
    intro plain
    have others := ih fun other member => plain other (List.mem_cons_of_mem _ member)
    exact List.forall_mem_append.mpr ⟨plain field List.mem_cons_self,
      List.forall_mem_append.mpr ⟨hexText_seven _, others⟩⟩

/-! ## Devices that take every character -/

/-- A state that has printed a text prints the next character behind it. -/
def Prints (holds : List (BitVec 8) → State δ ε → Prop) (takes : BitVec 8 → Prop) : Prop :=
  ∀ past state c, holds past state → takes c →
    Meets (koalPrintChar c) state (fun _ => False) fun ret after =>
      0 ≤ ret ∧ holds (past ++ [c]) after

variable {holds : List (BitVec 8) → State δ ε → Prop} {takes : BitVec 8 → Prop}

/-- A text is printed. -/
theorem Prints.koalPrint (prints : Prints holds takes) (str : List (BitVec 8)) :
    ∀ {past : List (BitVec 8)} {state : State δ ε} (ret : Code), holds past state →
      (∀ c ∈ str, takes c) → Meets (koalPrintFrom ret str) state (fun _ => False) fun _ after =>
        holds (past ++ str) after := by
  induction str with
  | nil =>
    intro past state ret printed _
    rw [List.append_nil]
    exact .pure printed
  | cons c str ih =>
    intro past state ret printed all
    rw [koalPrintFrom, List.append_cons]
    apply (prints past state c printed (all c List.mem_cons_self)).bind
    rintro next after ⟨positive, printed⟩
    rw [if_neg (Int.not_lt.mpr positive)]
    exact ih next printed fun other member => all other (List.mem_cons_of_mem _ member)

/-- A conversion with an argument prints the text that is fetched for it. -/
theorem Prints.fetched (prints : Prints holds takes) {fetch : BitVec 64 → M δ ε (List (BitVec 8))}
    {text : BitVec 64 → List (BitVec 8)}
    (fetches : ∀ arg state, (fetch arg).run state = .ok (text arg, state))
    {args : List (BitVec 64)} {converted : List (BitVec 8) × List (BitVec 64)}
    (converts : (args.head?.map fun arg => (text arg, args.tail)) = some converted)
    {past : List (BitVec 8)} {state : State δ ε} (printed : holds past state)
    (all : ∀ c ∈ converted.1, takes c) :
    Meets (do
      let taken ← vaArg args
      let _ ← Console.koalPrint (← fetch taken.1)
      return taken.2) state (fun _ => False) fun left after =>
        left = converted.2 ∧ holds (past ++ converted.1) after := by
  cases args with
  | nil => cases converts
  | cons arg args =>
    cases converts
    have first : (vaArg (arg :: args) : M δ ε _).run state = .ok ((arg, args), state) := rfl
    apply Meets.bind_run first
    apply Meets.bind_run (fetches arg state)
    apply (prints.koalPrint (text arg) 0 printed all).bind
    intro _ after printed
    exact .pure ⟨rfl, printed⟩

/-- A conversion prints its text. -/
theorem Prints.printSpecial (prints : Prints holds takes) {strings : BitVec 64 → List (BitVec 8)}
    (stack : Nat → UInt8) {c : BitVec 8} {args : List (BitVec 64)}
    {converted : List (BitVec 8) × List (BitVec 64)} {past : List (BitVec 8)} {state : State δ ε}
    (converts : convert strings c args = some converted) (printed : holds past state)
    (all : ∀ c ∈ converted.1, takes c) :
    Meets (printSpecial strings stack c args) state (fun _ => False) fun left after =>
      left = converted.2 ∧ holds (past ++ converted.1) after := by
  rw [convert, conversion] at converts
  rw [Console.printSpecial]
  by_cases hex : c = 120
  · rw [if_pos hex] at converts ⊢
    exact prints.fetched (fun arg => inBuffer_hex arg stack) converts printed all
  rw [if_neg hex] at converts ⊢
  by_cases decimal : c = 117
  · rw [if_pos decimal] at converts ⊢
    exact prints.fetched (fun arg => inBuffer_decimal arg stack) converts printed all
  rw [if_neg decimal] at converts ⊢
  by_cases string : c = 115
  · rw [if_pos string] at converts ⊢
    exact @Prints.fetched _ _ _ _ prints (fun arg => pure (strings arg)) strings (fun _ _ => rfl)
      args converted converts past state printed all
  · rw [if_neg string] at converts ⊢
    cases converts
    exact .pure ⟨rfl, by rw [List.append_nil]; exact printed⟩

/-- Whatever text the conversions make is printed. -/
theorem Prints.kprintfFrom (prints : Prints holds takes) {strings : BitVec 64 → List (BitVec 8)}
    (stack : Nat → UInt8) (str : List (BitVec 8)) :
    ∀ {specialChar : Bool} {args : List (BitVec 64)} {text past : List (BitVec 8)}
      {state : State δ ε}, expand strings str specialChar args = some text → holds past state →
      (∀ c ∈ text, takes c) →
      Meets (kprintfFrom strings stack str specialChar args) state (fun _ => False)
        fun _ after => holds (past ++ text) after := by
  induction str with
  | nil =>
    rintro specialChar args _ past state ⟨⟩ printed _
    rw [Console.kprintfFrom, List.append_nil]
    exact .pure printed
  | cons c str ih =>
    intro specialChar args text past state expands printed all
    cases specialChar with
    | false =>
      rw [expand] at expands
      rw [Console.kprintfFrom]
      by_cases percent : c = 37
      · rw [if_pos percent] at expands ⊢
        exact ih expands printed all
      · rw [if_neg percent] at expands ⊢
        obtain ⟨rest, others, rfl⟩ := Option.map_eq_some_iff.mp expands
        apply (prints past state c printed (all c List.mem_cons_self)).bind
        rintro _ after ⟨-, printed⟩
        rw [List.append_cons]
        exact ih others printed fun other member => all other (List.mem_cons_of_mem _ member)
    | true =>
      rw [expand] at expands
      rw [Console.kprintfFrom]
      obtain ⟨converted, converts, expands⟩ := Option.bind_eq_some_iff.mp expands
      obtain ⟨rest, others, rfl⟩ := Option.map_eq_some_iff.mp expands
      apply (prints.printSpecial stack converts printed fun other member =>
        all other (List.mem_append_left _ member)).bind
      rintro _ after ⟨rfl, printed⟩
      rw [← List.append_assoc]
      exact ih others printed fun other member => all other (List.mem_append_right _ member)

/-! ## The terminal -/

/-- `TEXT_TERMINAL`. -/
def terminalName : List (BitVec 8) := [84, 69, 88, 84, 95, 84, 69, 82, 77, 73, 78, 65, 76]

abbrev Screen := State Terminal.State Terminal.Fault

/-- The variable `koal` of `terminal.c`. -/
def koal : Koal Terminal.State Terminal.Fault where
  name := terminalName
  outChar c := do
    Terminal.terminalPutchar c
    return 0

def terminalInit : M Terminal.State Terminal.Fault Unit := do
  let _ ← koalAttach koal
  onDevices Terminal.terminalInit

/-- The lines of `kmain` up to the first output. -/
def startConsole : M Terminal.State Terminal.Fault Unit := do
  koalInit
  terminalInit
  let _ ← koalSelectCurrentOutputByName terminalName

/-- A call of `kprintf`, with what its pointers point to and what lies on its stack. -/
structure Call where
  str : List (BitVec 8)
  args : List (BitVec 64)
  strings : BitVec 64 → List (BitVec 8)
  stack : Nat → UInt8

def Call.text (call : Call) : Option (List (BitVec 8)) := expand call.strings call.str false call.args

def kprintfAll : List Call → M Terminal.State Terminal.Fault Unit
  | [] => return
  | call :: rest => do
    kprintf call.strings call.stack call.str call.args
    kprintfAll rest

/-- The terminal is selected and displays a text, in one way or another. -/
structure ShowingWith (displays : List (BitVec 8) → Terminal.State → Prop) (past : List (BitVec 8))
    (state : Screen) : Prop where
  registry : Represents state ⟨[koal], some 0⟩
  displays : displays past state.devices

abbrev Showing : List (BitVec 8) → Screen → Prop := ShowingWith fun past =>
  Terminal.Displays (Terminal.rowsAbove past)
    (TextPages.layout Terminal.VGA_WIDTH Terminal.NEWLINE past)

/-- What the terminal goes on displaying, the console prints. -/
theorem prints_with {displays : List (BitVec 8) → Terminal.State → Prop}
    (next : ∀ past state c, displays past state → c.toNat < 128 →
      Meets (Terminal.terminalPutchar c) state (fun _ => False) fun _ after =>
        displays (past ++ [c]) after) :
    Prints (ShowingWith displays) fun char => char.toNat < 128 := by
  intro past state c showing seven
  have same : (koalPrintChar c).run state = (onDevices (koal.outChar c)).run state :=
    koalPrintChar_run showing.registry c
  refine Meets.of_same ?_ same
  rw [meets_onDevices, koal]
  apply (next past state.devices c showing.displays seven).bind
  intro _ after displays
  exact .pure ⟨Int.le_refl 0, { showing.registry with }, displays⟩

theorem prints_terminal : Prints Showing fun char => char.toNat < 128 :=
  prints_with fun _ _ _ displays seven => Terminal.terminalPutchar_meets displays seven

theorem startConsole_meets (table : Nat → Option (Koal Terminal.State Terminal.Fault))
    (memory : Nat → BitVec 8) :
    Meets startConsole (boot table (Terminal.boot memory)) (fun _ => False) fun _ after =>
      Showing [] after := by
  rw [startConsole, terminalInit]
  apply (koalInit_represents table (Terminal.boot memory)).bind
  rintro _ cleared ⟨represents, devices⟩
  have attaches := (Command.attach koal).run_meets represents
  rw [meets_bind, meets_bind]
  apply attaches.mono
  rintro _ attached ⟨-, represents, same⟩
  rw [meets_onDevices, same, devices]
  apply (Terminal.terminalInit_meets memory).mono
  intro _ screen displays
  rw [meets_bind]
  have selects := @Command.run_meets _ _ { attached with devices := screen } _
    { represents with } (.select terminalName)
  apply selects.mono
  rintro _ after ⟨-, represents, same⟩
  exact .pure ⟨represents, by rw [same]; exact displays⟩

theorem kprintfAll_meets (calls : List Call) :
    ∀ {texts : List (List (BitVec 8))} {past : List (BitVec 8)} {state : Screen},
      List.Forall₂ (fun call text => Call.text call = some text) calls texts →
      (∀ text ∈ texts, ∀ char ∈ text, char.toNat < 128) → Showing past state →
      Meets (kprintfAll calls) state (fun _ => False) fun _ after =>
        Showing (past ++ texts.flatten) after := by
  induction calls with
  | nil =>
    rintro _ past state ⟨⟩ _ showing
    exact .pure (by rwa [List.flatten_nil, List.append_nil])
  | cons call rest ih =>
    rintro _ past state (_ | @⟨_, text, _, texts, expands, others⟩) seven showing
    rw [kprintfAll]
    apply (prints_terminal.kprintfFrom call.stack call.str expands showing
      (seven text List.mem_cons_self)).bind
    intro _ after showing
    rw [List.flatten_cons, ← List.append_assoc]
    exact ih others (fun other member => seven other (List.mem_cons_of_mem _ member)) showing

/-- `%u %s` with a newline. -/
def numberedCall : Call := ⟨[37, 117, 32, 37, 115, 10], [7, 0x1000], fun _ => [111, 107], fun _ => 0⟩

/-- `7 ok` with a newline. -/
def numberedText : List (BitVec 8) := [55, 32, 111, 107, 10]

end BobaOS.Output.Console
