import Mathlib.Tactic.Ring
import BobaOS.Library.BoundedBuffers

/-!
# The text terminal

`terminal.c`: characters are added to the cells of the video memory. The end of a row and
the end of the screen are looked at when the next character comes; the screen then moves up
by a row, by a copy of the video memory onto itself.

The video memory is the bytes of the 80 times 25 cells; an access to any other place is a
fault.
-/

namespace BobaOS.Output.Terminal

open BoundedBuffers ByteStore Programs

/-- What ends a call without a return: an access outside the cells. -/
inductive Fault where
  | outOfBounds
deriving DecidableEq

def VGA_WIDTH : Nat := 80
def VGA_HEIGHT : Nat := 25
def TERMINAL_BACKCOLOR : BitVec 16 := 0x5
def TERMINAL_FORECOLOR : BitVec 16 := 0xF
def NEWLINE : BitVec 8 := 0xA

/-- The bytes of the video memory. -/
def VIDEO_BYTES : Nat := VGA_WIDTH * VGA_HEIGHT * 2

/-- The variables of `terminal.c`. -/
structure State where
  videoMemory : Nat → BitVec 8
  curRow : BitVec 8
  curCol : BitVec 8

abbrev M := Program State Fault

def video : Lens State (Nat → BitVec 8) where
  get := State.videoMemory
  set state videoMemory := { state with videoMemory }

/-! ## Cells -/

/-- The cell at an index, its low byte first. -/
def cellAt (videoMemory : Nat → BitVec 8) (index : Nat) : BitVec 16 :=
  videoMemory (2 * index + 1) ++ videoMemory (2 * index)

/-- The bytes with one cell replaced. -/
def setCell (videoMemory : Nat → BitVec 8) (index : Nat) (cell : BitVec 16) : Nat → BitVec 8 :=
  Function.update (Function.update videoMemory (2 * index) (cell.extractLsb' 0 8)) (2 * index + 1)
    (cell.extractLsb' 8 8)

def loadCell (index : Nat) : M (BitVec 16) := video.run do
  let low ← load VIDEO_BYTES .outOfBounds (2 * index)
  let high ← load VIDEO_BYTES .outOfBounds (2 * index + 1)
  return high ++ low

def storeCell (index : Nat) (cell : BitVec 16) : M Unit := video.run do
  store VIDEO_BYTES .outOfBounds (2 * index) (cell.extractLsb' 0 8)
  store VIDEO_BYTES .outOfBounds (2 * index + 1) (cell.extractLsb' 8 8)

/-! ## Code -/

/-- The loop of `terminalInit` over the cells. -/
def clearCells : Nat → Nat → M Unit
  | 0, _ => return
  | left + 1, i => do
    storeCell i ((TERMINAL_BACKCOLOR <<< 12) + (TERMINAL_FORECOLOR <<< 8))
    clearCells left (i + 1)

def terminalInit : M Unit := clearCells (VGA_WIDTH * VGA_HEIGHT) 0

/-- The loop of `terminalMoveUp` over the last row. -/
def clearLetters : Nat → Nat → M Unit
  | 0, _ => return
  | left + 1, i => do
    let test := VGA_WIDTH * (VGA_HEIGHT - 1) + i
    storeCell test ((← loadCell test) &&& 0xFF00)
    clearLetters left (i + 1)

def terminalMoveUp : M Unit := do
  let moveBytes := VGA_WIDTH * VGA_HEIGHT * 2 - VGA_WIDTH * 2
  video.run (copyUp VIDEO_BYTES .outOfBounds 0 (VGA_WIDTH * 2) moveBytes 0)
  clearLetters VGA_WIDTH 0
  modify fun state => { state with curRow := state.curRow - 1 }

/-- The tests of `terminalPutchar` before it looks at the character. -/
def leaveFullRow : M Unit := do
  if (← get).curCol.toNat = VGA_WIDTH then
    modify fun state => { state with curRow := state.curRow + 1, curCol := 0 }

def scroll : M Unit := do
  if (← get).curRow.toNat = VGA_HEIGHT then terminalMoveUp

/-- A `char` is signed. -/
def terminalPutchar (c : BitVec 8) : M Unit := do
  leaveFullRow
  scroll
  if c = NEWLINE then modify fun state => { state with curRow := state.curRow + 1, curCol := 0 }
  else
    let state ← get
    let index := state.curCol.toNat + state.curRow.toNat * VGA_WIDTH
    storeCell index ((← loadCell index) + c.signExtend 16)
    modify fun state => { state with curCol := state.curCol + 1 }

/-- The loop of `terminalPrint`. -/
def terminalPrint : List (BitVec 8) → M Unit
  | [] => return
  | c :: str => do
    terminalPutchar c
    terminalPrint str

/-! ## Laws of the cells -/

variable {state : State} {fault : Fault → Prop} {memory : Nat → BitVec 8}

/-- A cell is its two bytes. -/
theorem append_bytes (cell : BitVec 16) : cell.extractLsb' 8 8 ++ cell.extractLsb' 0 8 = cell := by
  ext i inside
  simp only [BitVec.getElem_append, BitVec.getElem_extractLsb']
  split
  · rw [Nat.zero_add, BitVec.getLsbD_eq_getElem inside]
  · rw [show 8 + (i - 8) = i by omega, BitVec.getLsbD_eq_getElem inside]

theorem cellAt_setCell (memory : Nat → BitVec 8) (index tested : Nat) (cell : BitVec 16) :
    cellAt (setCell memory index cell) tested =
      if tested = index then cell else cellAt memory tested := by
  by_cases same : tested = index
  · simp [same, cellAt, setCell, append_bytes]
  · have low : 2 * tested ≠ 2 * index + 1 := by omega
    have high : 2 * tested + 1 ≠ 2 * index := by omega
    have apart : 2 * tested ≠ 2 * index := by omega
    simp [same, cellAt, setCell, low, high, apart]

/-- A cell is inside the video memory if one of its bytes is. -/
theorem both_bytes {index : Nat} {met refused : Prop} :
    (2 * index < VGA_WIDTH * VGA_HEIGHT * 2 →
        (2 * index + 1 < VGA_WIDTH * VGA_HEIGHT * 2 → met) ∧
          (VGA_WIDTH * VGA_HEIGHT * 2 ≤ 2 * index + 1 → refused)) ∧
      (VGA_WIDTH * VGA_HEIGHT * 2 ≤ 2 * index → refused) ↔
    (index < VGA_WIDTH * VGA_HEIGHT → met) ∧ (VGA_WIDTH * VGA_HEIGHT ≤ index → refused) := by
  constructor
  · rintro ⟨inside, beyond⟩
    exact ⟨fun low => (inside (by omega)).1 (by omega), fun high => beyond (by omega)⟩
  · rintro ⟨inside, beyond⟩
    exact ⟨fun low => ⟨fun _ => inside (by omega), fun high => beyond (by omega)⟩,
      fun high => beyond (by omega)⟩

/-- Cells are loaded and stored inside the video memory, or there is a fault. -/
@[simp] theorem meets_loadCell {index : Nat} {post : BitVec 16 → State → Prop} :
    Meets (loadCell index) state fault post ↔
      (index < VGA_WIDTH * VGA_HEIGHT → post (cellAt state.videoMemory index) state) ∧
        (VGA_WIDTH * VGA_HEIGHT ≤ index → fault .outOfBounds) := by
  simp only [loadCell, meets_lens, meets_bind, meets_load, meets_pure, VIDEO_BYTES, video]
  exact both_bytes

@[simp] theorem meets_storeCell {index : Nat} {cell : BitVec 16} {post : Unit → State → Prop} :
    Meets (storeCell index cell) state fault post ↔
      (index < VGA_WIDTH * VGA_HEIGHT →
        post ⟨⟩ { state with videoMemory := setCell state.videoMemory index cell }) ∧
        (VGA_WIDTH * VGA_HEIGHT ≤ index → fault .outOfBounds) := by
  simp only [storeCell, meets_lens, meets_bind, meets_store, VIDEO_BYTES, video]
  exact both_bytes

/-- A blank cell. -/
def BLANK : BitVec 16 := 0x5F00

/-- A cell is changed, and then the cells behind it. -/
theorem change_succ {cells next after : Nat → BitVec 16} (change : BitVec 16 → BitVec 16)
    {first left : Nat}
    (here : ∀ cell, next cell = if cell = first then change (cells first) else cells cell)
    (rest : ∀ cell, after cell =
      if first + 1 ≤ cell ∧ cell < first + 1 + left then change (next cell) else next cell) (cell : Nat) :
    after cell =
      if first ≤ cell ∧ cell < first + (left + 1) then change (cells cell) else cells cell := by
  rw [rest, here]
  by_cases same : cell = first
  · rw [if_neg (by omega), if_pos same, if_pos (by omega), same]
  · simp only [if_neg same]
    congr 1
    exact propext ⟨fun later => by omega, fun later => by omega⟩

/-- The loop stores blanks from a cell on. -/
theorem clearCells_meets (left : Nat) :
    ∀ (i : Nat) (state : State), i + left ≤ VGA_WIDTH * VGA_HEIGHT →
      Meets (clearCells left i) state fault fun _ after =>
        after.curRow = state.curRow ∧ after.curCol = state.curCol ∧
          ∀ cell, cellAt after.videoMemory cell =
            if i ≤ cell ∧ cell < i + left then BLANK else cellAt state.videoMemory cell := by
  induction left with
  | zero =>
    intro i state _
    rw [clearCells]
    refine .pure ⟨rfl, rfl, fun cell => ?_⟩
    rw [if_neg (by omega)]
  | succ left ih =>
    intro i state inside
    rw [clearCells, meets_bind, meets_storeCell]
    refine ⟨fun _ => ?_, fun beyond => absurd beyond (by omega)⟩
    apply (ih (i + 1) _ (by omega)).mono
    rintro _ after ⟨row, column, cells⟩
    exact ⟨row, column, change_succ (fun _ => BLANK) (fun cell => cellAt_setCell _ i cell _) cells⟩

/-- The loop of `terminalMoveUp` takes the letters of the last row away. -/
theorem clearLetters_meets (left : Nat) :
    ∀ (i : Nat) (state : State), i + left ≤ VGA_WIDTH →
      Meets (clearLetters left i) state fault fun _ after =>
        after.curRow = state.curRow ∧ after.curCol = state.curCol ∧
          ∀ cell, cellAt after.videoMemory cell =
            if VGA_WIDTH * (VGA_HEIGHT - 1) + i ≤ cell ∧
                cell < VGA_WIDTH * (VGA_HEIGHT - 1) + i + left then
              cellAt state.videoMemory cell &&& 0xFF00
            else cellAt state.videoMemory cell := by
  induction left with
  | zero =>
    intro i state _
    rw [clearLetters]
    refine .pure ⟨rfl, rfl, fun cell => ?_⟩
    rw [if_neg (by omega)]
  | succ left ih =>
    intro i state inside
    have low : VGA_WIDTH * (VGA_HEIGHT - 1) + i < VGA_WIDTH * VGA_HEIGHT := by
      simp only [VGA_WIDTH, VGA_HEIGHT] at inside ⊢
      omega
    rw [clearLetters, meets_bind, meets_loadCell]
    refine ⟨fun _ => ?_, fun beyond => absurd beyond (by omega)⟩
    rw [meets_bind, meets_storeCell]
    refine ⟨fun _ => ?_, fun beyond => absurd beyond (by omega)⟩
    apply (ih (i + 1) _ (by omega)).mono
    rintro _ after ⟨row, column, cells⟩
    exact ⟨row, column, change_succ (· &&& 0xFF00) (fun cell => cellAt_setCell _ _ cell _) cells⟩

/-- The cells after a copy of all rows but the first one onto the rows before them. -/
theorem cellAt_moved (memory : Nat → BitVec 8) (index : Nat) :
    cellAt (overwrite memory 0 (VGA_WIDTH * VGA_HEIGHT * 2 - VGA_WIDTH * 2)
      (slice memory (VGA_WIDTH * 2))) index =
      if index < VGA_WIDTH * (VGA_HEIGHT - 1) then cellAt memory (index + VGA_WIDTH)
      else cellAt memory index := by
  by_cases first : index < VGA_WIDTH * (VGA_HEIGHT - 1)
  · rw [if_pos first]
    simp only [VGA_WIDTH, VGA_HEIGHT, cellAt] at first ⊢
    rw [overwrite_inside _ _ _ _ _ (by omega), overwrite_inside _ _ _ _ _ (by omega),
      slice_apply, slice_apply]
    congr 2 <;> omega
  · rw [if_neg first]
    simp only [VGA_WIDTH, VGA_HEIGHT, cellAt] at first ⊢
    rw [overwrite_outside _ _ _ _ _ (by omega), overwrite_outside _ _ _ _ _ (by omega)]

/-- The screen moves up by a row, and the last row keeps its colours only. -/
theorem terminalMoveUp_meets (state : State) :
    Meets terminalMoveUp state fault fun _ after =>
      after.curRow = state.curRow - 1 ∧ after.curCol = state.curCol ∧
        ∀ row < VGA_HEIGHT, ∀ column < VGA_WIDTH,
          cellAt after.videoMemory (column + row * VGA_WIDTH) =
            if row + 1 < VGA_HEIGHT then
              cellAt state.videoMemory (column + (row + 1) * VGA_WIDTH)
            else cellAt state.videoMemory (column + row * VGA_WIDTH) &&& 0xFF00 := by
  rw [terminalMoveUp, meets_bind, meets_lens]
  apply (copyUp_meets (by decide) _ 0 _ (by decide)).mono
  rintro _ moved rfl
  rw [meets_bind]
  apply (clearLetters_meets VGA_WIDTH 0 _ (by decide)).mono
  rintro _ cleared ⟨row, column, cells⟩
  rw [meets_modify]
  refine ⟨by rw [row]; rfl, column, fun row low column narrow => ?_⟩
  simp only [Nat.add_zero, video, cellAt_moved] at cells ⊢
  rw [cells]
  by_cases last : row + 1 < VGA_HEIGHT
  · have above : column + row * VGA_WIDTH < VGA_WIDTH * (VGA_HEIGHT - 1) := by
      simp only [VGA_WIDTH, VGA_HEIGHT] at *
      omega
    rw [if_neg (by omega), if_pos above, if_pos last]
    congr 1
    ring
  · have below : VGA_WIDTH * (VGA_HEIGHT - 1) ≤ column + row * VGA_WIDTH ∧
        column + row * VGA_WIDTH < VGA_WIDTH * (VGA_HEIGHT - 1) + VGA_WIDTH := by
      simp only [VGA_WIDTH, VGA_HEIGHT] at *
      omega
    rw [if_pos below, if_neg last, if_neg (by omega)]

end BobaOS.Output.Terminal
