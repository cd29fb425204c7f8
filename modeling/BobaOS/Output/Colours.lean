import BobaOS.Library.BitFields
import BobaOS.Library.RelatedPrograms
import BobaOS.Output.TerminalText

/-!
# Other colours

`terminalClear` sets other colours than `terminalInit`. The terminal adds characters to cells
and never looks at colours, so it does in other colours what it does in its own: a screen that
differs from another one by the same amount in every high byte keeps doing so.
-/

namespace BobaOS.Output.Terminal

open BitFields BoundedBuffers Programs RelatedPrograms TextPages

/-! ## Code -/

/-- The loop of `terminalClear` over the cells. -/
def clearCellsTo (color : BitVec 8) : Nat → Nat → M Unit
  | 0, _ => return
  | left + 1, i => do
    storeCell i ((color.setWidth 16 <<< 12) + (TERMINAL_FORECOLOR <<< 8))
    clearCellsTo color left (i + 1)

def terminalClear (color : BitVec 8) : M Unit := do
  clearCellsTo color (VGA_WIDTH * VGA_HEIGHT) 0
  modify fun state => { state with curRow := 0, curCol := 0 }

/-! ## Tints -/

/-- A byte of the video memory in another colour. -/
def tint (colour : BitVec 8) (place : Nat) (byte : BitVec 8) : BitVec 8 :=
  if place % 2 = 1 then byte + colour else byte

/-- What the tint of its high byte adds to a cell. -/
def shift (colour : BitVec 8) : BitVec 16 := colour ++ 0#8

/-- One video memory is the other one in another colour. -/
def TintedBytes (colour : BitVec 8) (plain tinted : Nat → BitVec 8) : Prop :=
  ∀ place < VIDEO_BYTES, tinted place = tint colour place (plain place)

structure Tinted (colour : BitVec 8) (plain tinted : State) : Prop where
  bytes : TintedBytes colour plain.videoMemory tinted.videoMemory
  row : tinted.curRow = plain.curRow
  column : tinted.curCol = plain.curCol

variable {colour : BitVec 8}

theorem toNat_shift : (shift colour).toNat = colour.toNat * 2 ^ 8 := by
  rw [shift, toNat_append_add, BitVec.toNat_ofNat, Nat.zero_mod, Nat.add_zero]

theorem shift_append (high low : BitVec 8) :
    (high + colour) ++ low = (high ++ low) + shift colour := by
  apply BitVec.eq_of_toNat_eq
  rw [toNat_append_add, BitVec.toNat_add, BitVec.toNat_add, toNat_append_add, toNat_shift]
  have small := low.isLt
  omega

theorem low_shift (cell : BitVec 16) :
    (cell + shift colour).extractLsb' 0 8 = cell.extractLsb' 0 8 := by
  apply BitVec.eq_of_toNat_eq
  simp only [BitVec.extractLsb'_toNat, BitVec.toNat_add, toNat_shift, Nat.shiftRight_zero]
  omega

theorem high_shift (cell : BitVec 16) :
    (cell + shift colour).extractLsb' 8 8 = cell.extractLsb' 8 8 + colour := by
  apply BitVec.eq_of_toNat_eq
  simp only [BitVec.extractLsb'_toNat, BitVec.toNat_add, toNat_shift, Nat.shiftRight_eq_div_pow]
  omega

/-- The colours of a cell without its letter. -/
theorem mask_high (cell : BitVec 16) : cell &&& 0xFF00 = cell.extractLsb' 8 8 ++ 0#8 := by
  have mask : (0xFF00 : BitVec 16) = BitVec.allOnes 8 ++ 0#8 := by decide
  have parts := append_bytes cell
  generalize cell.extractLsb' 8 8 = high at parts ⊢
  rw [← parts, mask, BitVec.and_append, BitVec.and_allOnes, BitVec.and_zero]

theorem load_related (index : Nat) :
    Related (TintedBytes colour) (fun byte other => other = tint colour index byte)
      (load VIDEO_BYTES Fault.outOfBounds index) (load VIDEO_BYTES Fault.outOfBounds index) :=
  .ite (fun inside => .bind .get fun _ _ alike => .pure (alike index inside)) fun _ => .throw _

theorem store_related {index : Nat} {byte other : BitVec 8} (same : other = tint colour index byte) :
    Related (TintedBytes colour) (fun _ _ => True)
      (store VIDEO_BYTES Fault.outOfBounds index byte)
      (store VIDEO_BYTES Fault.outOfBounds index other) := by
  refine .ite (fun _ => .modify fun plain tinted alike place inside => ?_) fun _ => .throw _
  by_cases here : place = index
  · rw [here, Function.update_self, Function.update_self, same]
  · rw [Function.update_of_ne here, Function.update_of_ne here, alike place inside]

/-- A program on the video memory. -/
theorem video_related {α β : Type} {values : α → β → Prop}
    {left : Program (Nat → BitVec 8) Fault α} {right : Program (Nat → BitVec 8) Fault β}
    (related : Related (TintedBytes colour) values left right) :
    Related (Tinted colour) values (video.run left) (video.run right) :=
  .lens (fun _ _ alike => alike.bytes) (fun _ _ _ _ alike bytes => { alike with bytes }) related

theorem loadCell_related (index : Nat) :
    Related (Tinted colour) (fun cell other => other = cell + shift colour) (loadCell index)
      (loadCell index) := by
  refine video_related (.bind (load_related _) ?_)
  rintro low _ rfl
  refine .bind (load_related _) ?_
  rintro high _ rfl
  refine .pure ?_
  rw [tint, if_pos (by omega), tint, if_neg (by omega), shift_append]

/-- A cell is stored in both memories, whatever else the states have in common. -/
theorem storeCell_alike {states : State → State → Prop}
    (view : ∀ plain tinted, states plain tinted →
      TintedBytes colour plain.videoMemory tinted.videoMemory)
    (keeps : ∀ plain tinted bytes others, states plain tinted → TintedBytes colour bytes others →
      states (video.set plain bytes) (video.set tinted others)) (index : Nat) (cell : BitVec 16) :
    Related states (fun _ _ => True) (storeCell index cell)
      (storeCell index (cell + shift colour)) := by
  refine .lens view keeps (.bind (store_related ?_) fun _ _ _ => store_related ?_)
  · rw [low_shift, tint, if_neg (by omega)]
  · rw [high_shift, tint, if_pos (by omega)]

theorem storeCell_related (index : Nat) (cell : BitVec 16) :
    Related (Tinted colour) (fun _ _ => True) (storeCell index cell)
      (storeCell index (cell + shift colour)) :=
  storeCell_alike (fun _ _ alike => alike.bytes) (fun _ _ _ _ alike bytes => { alike with bytes })
    index cell

theorem copyUp_related {dest source : Nat} (even : (source - dest) % 2 = 0) (down : dest ≤ source)
    (left : Nat) : ∀ i, Related (TintedBytes colour) (fun _ _ => True)
      (copyUp VIDEO_BYTES Fault.outOfBounds dest source left i)
      (copyUp VIDEO_BYTES Fault.outOfBounds dest source left i) := by
  induction left with
  | zero => exact fun _ => .pure trivial
  | succ left ih =>
    intro i
    refine .bind (load_related _) ?_
    rintro byte _ rfl
    refine .bind (store_related ?_) fun _ _ _ => ih (i + 1)
    have parity : (source + i) % 2 = (dest + i) % 2 := by omega
    rw [tint, tint, parity]

theorem clearLetters_related (left : Nat) : ∀ i,
    Related (Tinted colour) (fun _ _ => True) (clearLetters left i) (clearLetters left i) := by
  induction left with
  | zero => exact fun _ => .pure trivial
  | succ left ih =>
    intro i
    refine .bind (loadCell_related _) ?_
    rintro cell _ rfl
    have masked : (cell + shift colour) &&& 0xFF00 = (cell &&& 0xFF00) + shift colour := by
      rw [mask_high, mask_high, high_shift, shift_append]
    rw [masked]
    exact .bind (storeCell_related _ _) fun _ _ _ => ih (i + 1)

theorem terminalMoveUp_related :
    Related (Tinted colour) (fun _ _ => True) terminalMoveUp terminalMoveUp := by
  have even : (VGA_WIDTH * 2 - 0) % 2 = 0 := rfl
  rw [terminalMoveUp]
  generalize VGA_WIDTH * VGA_HEIGHT * 2 - VGA_WIDTH * 2 = moveBytes
  generalize VGA_WIDTH = width at even ⊢
  refine .bind (video_related (copyUp_related even (Nat.zero_le _) moveBytes 0)) fun _ _ _ => ?_
  refine .bind (clearLetters_related width 0) fun _ _ _ => ?_
  exact .modify fun plain tinted alike => ⟨alike.bytes, congrArg (· - 1) alike.row, alike.column⟩

theorem newline_related : Related (Tinted colour) (fun _ _ => True)
    (modify fun state => { state with curRow := state.curRow + 1, curCol := 0 } : M PUnit)
    (modify fun state => { state with curRow := state.curRow + 1, curCol := 0 } : M PUnit) :=
  .modify fun _ _ alike => ⟨alike.bytes, congrArg (· + 1) alike.row, rfl⟩

theorem leaveFullRow_related :
    Related (Tinted colour) (fun _ _ => True) leaveFullRow leaveFullRow := by
  rw [leaveFullRow]
  refine .bind .get fun plain tinted alike => ?_
  rw [alike.column]
  exact .ite (fun _ => newline_related) fun _ => .pure trivial

theorem scroll_related : Related (Tinted colour) (fun _ _ => True) scroll scroll := by
  rw [scroll]
  refine .bind .get fun plain tinted alike => ?_
  rw [alike.row]
  exact .ite (fun _ => terminalMoveUp_related) fun _ => .pure trivial

/-- The terminal prints in any colour as in its own. -/
theorem terminalPutchar_related (c : BitVec 8) :
    Related (Tinted colour) (fun _ _ => True) (terminalPutchar c) (terminalPutchar c) := by
  rw [terminalPutchar]
  refine .bind leaveFullRow_related fun _ _ _ => ?_
  refine .bind scroll_related fun _ _ _ => ?_
  refine .ite (fun _ => newline_related) fun _ => ?_
  refine .bind .get fun plain tinted alike => ?_
  rw [alike.row, alike.column]
  generalize plain.curCol.toNat + plain.curRow.toNat * VGA_WIDTH = index
  refine .bind (loadCell_related index) ?_
  rintro cell _ rfl
  rw [BitVec.add_assoc, BitVec.add_comm (shift colour), ← BitVec.add_assoc]
  refine .bind (storeCell_related index _) fun _ _ _ => ?_
  exact .modify fun _ _ alike => ⟨alike.bytes, alike.row, congrArg (· + 1) alike.column⟩

/-! ## A screen in other colours -/

/-- The screen displays a page in other colours. -/
def DisplaysIn (colour : BitVec 8) (past : List (BitVec 8)) (state : State) : Prop :=
  ∃ plain, Displays (rowsAbove past) (layout VGA_WIDTH NEWLINE past) plain ∧
    Tinted colour plain state

theorem terminalPutchar_tinted {past : List (BitVec 8)} {char : BitVec 8} {state : State}
    (displays : DisplaysIn colour past state) (seven : char.toNat < 128) :
    Meets (terminalPutchar char) state (fun _ => False) fun _ after =>
      DisplaysIn colour (past ++ [char]) after := by
  obtain ⟨plain, displays, tinted⟩ := displays
  apply ((terminalPutchar_related char).meets tinted (terminalPutchar_meets displays seven)).mono
  rintro _ after ⟨_, next, -, tinted, displays⟩
  exact ⟨next, displays, tinted⟩

/-- The cells of a screen in other colours. -/
theorem DisplaysIn.cells {past : List (BitVec 8)} {state : State}
    (displays : DisplaysIn colour past state) : ∀ row < VGA_HEIGHT, ∀ column < VGA_WIDTH,
      cellAt state.videoMemory (column + row * VGA_WIDTH) =
        shown (screen VGA_WIDTH VGA_HEIGHT NEWLINE past row column) + shift colour := by
  obtain ⟨plain, displays, tinted⟩ := displays
  intro row low column narrow
  have inside : column + row * VGA_WIDTH < 2000 := by
    rw [VGA_WIDTH] at narrow ⊢
    rw [VGA_HEIGHT] at low
    omega
  have bytes : VIDEO_BYTES = 4000 := rfl
  rw [screen, ← displays.cells row low column narrow, cellAt, cellAt,
    tinted.bytes _ (by omega), tinted.bytes _ (by omega), tint, tint, if_pos (by omega),
    if_neg (by omega), shift_append]

/-! ## Clearing -/

/-- What the colour of `terminalClear` adds to the high byte of a cell. -/
def tintOf (color : BitVec 8) : BitVec 8 := (color <<< 4) - 0x50

theorem cleared_cell (color : BitVec 8) :
    (color.setWidth 16 <<< 12) + (TERMINAL_FORECOLOR <<< 8) = BLANK + shift (tintOf color) := by
  revert color
  decide +kernel

/-- The cells are cleared as `terminalInit` does it, in another colour. -/
theorem clearCellsTo_related (color : BitVec 8) (left : Nat) : ∀ i,
    Related (fun plain tinted =>
        TintedBytes (tintOf color) plain.videoMemory tinted.videoMemory) (fun _ _ => True)
      (clearCells left i) (clearCellsTo color left i) := by
  induction left with
  | zero => exact fun _ => .pure trivial
  | succ left ih =>
    intro i
    rw [clearCells, clearCellsTo, cleared_cell]
    exact .bind (storeCell_alike (fun _ _ alike => alike) (fun _ _ _ _ _ bytes => bytes) i BLANK)
      fun _ _ _ => ih (i + 1)

theorem tint_back (byte : BitVec 8) (place : Nat) : tint colour place (tint (-colour) place byte) = byte := by
  rw [tint, tint]
  split
  · rw [BitVec.add_assoc, BitVec.add_left_neg, BitVec.add_zero]
  · rfl

/-- Whatever was on the screen, it displays the empty page in the new colours. -/
theorem terminalClear_meets (color : BitVec 8) (state : State) :
    Meets (terminalClear color) state (fun _ => False) fun _ after =>
      DisplaysIn (tintOf color) [] after := by
  obtain ⟨memory, is_memory⟩ : ∃ memory : Nat → BitVec 8,
      memory = fun place => tint (-tintOf color) place (state.videoMemory place) := ⟨_, rfl⟩
  have alike : TintedBytes (tintOf color) memory state.videoMemory := by
    intro place _
    rw [is_memory, tint_back]
  have init : Meets (clearCells (VGA_WIDTH * VGA_HEIGHT) 0) (boot memory) _ _ :=
    @terminalInit_meets memory fun _ => False
  rw [terminalClear]
  apply ((clearCellsTo_related color _ 0).meets alike init).bind
  rintro _ cleared ⟨_, plain, -, bytes, displays⟩
  have row : plain.curRow = 0 :=
    BitVec.eq_of_toNat_eq (Nat.eq_zero_of_add_eq_zero displays.row).2
  have column : plain.curCol = 0 := BitVec.eq_of_toNat_eq displays.column
  rw [meets_modify]
  exact ⟨plain, displays, bytes, row.symm, column.symm⟩

end BobaOS.Output.Terminal
