import BobaOS.Library.TextPages
import BobaOS.Output.Terminal

/-!
# The text on the screen

The terminal shows the last rows of a page of text. Its cursor is the next place of the
page, and the cells from there on are blank, so that adding a character to a cell shows it.
-/

namespace BobaOS.Output.Terminal

open Programs TextPages

/-- The cell of a character in the colours of the terminal, or a blank one. -/
def shown : Option (BitVec 8) → BitVec 16
  | none => BLANK
  | some char => 0x5F#8 ++ char

/-- Taking the letter of a cell away leaves a blank. -/
theorem shown_colours (char : Option (BitVec 8)) : shown char &&& 0xFF00 = BLANK := by
  cases char with
  | none => rfl
  | some char =>
    revert char
    decide +kernel

/-- A character of seven bits that is added to a blank is shown. -/
theorem blank_add {char : BitVec 8} (seven : char.toNat < 128) :
    BLANK + char.signExtend 16 = shown (some char) := by
  revert char
  decide +kernel

/-- The terminal shows the page from the row `top` on. Only a screen that is full has rows
above it, and the row below the screen has no characters yet. -/
structure Displays (top : Nat) (page : Page (BitVec 8)) (state : State) : Prop where
  column : state.curCol.toNat = page.current.length
  row : top + state.curRow.toNat = page.done.length
  narrow : page.current.length ≤ VGA_WIDTH
  low : state.curRow.toNat ≤ VGA_HEIGHT
  bottom : state.curRow.toNat = VGA_HEIGHT → page.current = []
  full : 0 < top → VGA_HEIGHT ≤ state.curRow.toNat + 1
  cells : ∀ row < VGA_HEIGHT, ∀ column < VGA_WIDTH,
    cellAt state.videoMemory (column + row * VGA_WIDTH) = shown (page.charAt (top + row) column)

variable {top : Nat} {page : Page (BitVec 8)} {state after : State}

/-- A step down to the start of the next row. -/
theorem Displays.newline (displays : Displays top page state)
    (above : state.curRow.toNat < VGA_HEIGHT) :
    Displays top page.newline { state with curRow := state.curRow + 1, curCol := 0 } := by
  have next : (state.curRow + 1).toNat = state.curRow.toNat + 1 := by
    simp only [VGA_HEIGHT] at above
    rw [BitVec.toNat_add, Nat.mod_eq_of_lt]
    · rfl
    · simp
      omega
  have row := displays.row
  constructor
  · rfl
  · simp only [Page.newline, next, List.length_append, List.length_singleton]
    omega
  · simp [Page.newline]
  · simp only [next]
    omega
  · exact fun _ => rfl
  · intro _
    simp only [next]
    have full := displays.full
    omega
  · simpa using displays.cells

/-- The screen moves up when its cursor is below it. -/
theorem Displays.moveUp (displays : Displays top page state)
    (below : state.curRow.toNat = VGA_HEIGHT) {fault : Fault → Prop} :
    Meets terminalMoveUp state fault fun _ after =>
      Displays (top + 1) page after ∧ after.curRow.toNat + 1 = VGA_HEIGHT := by
  apply (terminalMoveUp_meets state).mono
  rintro _ after ⟨row, column, cells⟩
  have before : after.curRow.toNat + 1 = state.curRow.toNat := by
    rw [row, below, BitVec.toNat_sub, below]
    rfl
  have begun := displays.bottom below
  have counted := displays.row
  refine ⟨?_, by omega⟩
  constructor
  · rw [column, displays.column]
  · omega
  · exact displays.narrow
  · omega
  · exact fun _ => begun
  · intro _
    omega
  · intro row low column narrow
    rw [cells row low column narrow]
    split
    · rw [displays.cells _ ‹_› _ narrow, Nat.add_right_comm, Nat.add_assoc]
    · have last : top + 1 + row = page.done.length := by omega
      rw [displays.cells _ low _ narrow, shown_colours, last, Page.charAt_current_empty begun]
      rfl

/-- A full row is left. -/
theorem Displays.leaveFullRow (displays : Displays top page state) {fault : Fault → Prop} :
    Meets leaveFullRow state fault fun _ after => Displays top (page.wrap VGA_WIDTH) after ∧
      (page.wrap VGA_WIDTH).current.length < VGA_WIDTH := by
  simp only [Terminal.leaveFullRow, meets_bind, meets_get, meets_ite, meets_modify, meets_pure]
  rw [Page.wrap, ← displays.column]
  refine ⟨fun full => ?_, fun room => ?_⟩
  · have above : state.curRow.toNat ≠ VGA_HEIGHT := by
      intro below
      have column := displays.column
      rw [displays.bottom below, full] at column
      cases column
    rw [if_pos full]
    exact ⟨displays.newline (Nat.lt_of_le_of_ne displays.low above), Nat.zero_lt_succ _⟩
  · have narrow := displays.narrow
    rw [← displays.column] at narrow
    rw [if_neg room]
    exact ⟨displays, by rw [← displays.column]; omega⟩

/-- The screen shows the row of the cursor. -/
theorem Displays.scroll (displays : Displays top page state) {fault : Fault → Prop} :
    Meets scroll state fault fun _ after =>
      Displays (page.done.length + 1 - VGA_HEIGHT) page after ∧ after.curRow.toNat < VGA_HEIGHT := by
  have row := displays.row
  simp only [Terminal.scroll, meets_bind, meets_get, meets_ite, meets_pure]
  refine ⟨fun below => ?_, fun above => ?_⟩
  · apply (displays.moveUp below).mono
    rintro _ after ⟨moved, last⟩
    have same : page.done.length + 1 - VGA_HEIGHT = top + 1 := by omega
    rw [same]
    exact ⟨moved, by omega⟩
  · have low := displays.low
    have full := displays.full
    have same : page.done.length + 1 - VGA_HEIGHT = top := by omega
    rw [same]
    exact ⟨displays, by omega⟩

/-- A character is put into the cell of the cursor. -/
theorem Displays.put (displays : Displays top page state) (low : state.curRow.toNat < VGA_HEIGHT)
    (narrow : page.current.length < VGA_WIDTH) {char : BitVec 8} (seven : char.toNat < 128) :
    Displays top (page.put char) { state with
      videoMemory := setCell state.videoMemory
        (state.curCol.toNat + state.curRow.toNat * VGA_WIDTH)
        (cellAt state.videoMemory (state.curCol.toNat + state.curRow.toNat * VGA_WIDTH) +
          char.signExtend 16)
      curCol := state.curCol + 1 } := by
  have next : (state.curCol + 1).toNat = state.curCol.toNat + 1 := by
    simp only [VGA_WIDTH, ← displays.column] at narrow
    rw [BitVec.toNat_add, Nat.mod_eq_of_lt]
    · rfl
    · simp
      omega
  have column := displays.column
  have row := displays.row
  have blank : cellAt state.videoMemory (state.curCol.toNat + state.curRow.toNat * VGA_WIDTH) =
      BLANK := by
    rw [displays.cells _ low _ (by omega), row, column, Page.charAt_next]
    rfl
  constructor
  · rw [next, column, Page.put, List.length_append, List.length_singleton]
  · exact row
  · simp only [Page.put, List.length_append, List.length_singleton]
    omega
  · exact displays.low
  · intro below
    simp only at below
    omega
  · exact displays.full
  · intro tested inside place within
    rw [blank, blank_add seven, cellAt_setCell, Page.charAt_put, ← row, ← column,
      displays.cells _ inside _ within]
    have apart : place + tested * VGA_WIDTH = state.curCol.toNat + state.curRow.toNat * VGA_WIDTH ↔
        top + tested = top + state.curRow.toNat ∧ place = state.curCol.toNat := by
      simp only [VGA_WIDTH] at *
      omega
    by_cases here : place + tested * VGA_WIDTH =
      state.curCol.toNat + state.curRow.toNat * VGA_WIDTH
    · rw [if_pos here, if_pos (apart.mp here)]
    · rw [if_neg here, if_neg (mt apart.mpr here)]

/-- The number of rows above the screen when a text has been printed. -/
abbrev rowsAbove (text : List (BitVec 8)) : Nat := scrolled VGA_WIDTH VGA_HEIGHT NEWLINE text

/-- One character more is printed. -/
theorem terminalPutchar_meets {past : List (BitVec 8)} {char : BitVec 8}
    (displays : Displays (rowsAbove past) (layout VGA_WIDTH NEWLINE past) state)
    (seven : char.toNat < 128) :
    Meets (terminalPutchar char) state (fun _ => False) fun _ after =>
      Displays (rowsAbove (past ++ [char])) (layout VGA_WIDTH NEWLINE (past ++ [char])) after := by
  rw [terminalPutchar]
  apply displays.leaveFullRow.bind
  rintro _ left ⟨displays, narrow⟩
  apply displays.scroll.bind
  rintro _ ready ⟨displays, low⟩
  rw [rowsAbove, scrolled, shownRows_concat, layout_concat, feed]
  simp only [meets_ite, meets_modify, meets_bind, meets_get, meets_loadCell, meets_storeCell]
  refine ⟨fun line => ?_, fun other => ?_⟩
  · rw [if_pos line]
    exact displays.newline low
  · rw [if_neg other]
    have inside : ready.curCol.toNat + ready.curRow.toNat * VGA_WIDTH < VGA_WIDTH * VGA_HEIGHT := by
      have column := displays.column
      simp only [VGA_WIDTH, VGA_HEIGHT] at *
      omega
    exact ⟨fun _ => ⟨fun _ => displays.put low narrow seven, fun beyond => by omega⟩,
      fun beyond => by omega⟩

/-- A whole text is printed behind another one. -/
theorem terminalPrint_meets (text : List (BitVec 8)) :
    ∀ (past : List (BitVec 8)) (state : State),
      Displays (rowsAbove past) (layout VGA_WIDTH NEWLINE past) state →
      (∀ char ∈ text, char.toNat < 128) →
      Meets (terminalPrint text) state (fun _ => False) fun _ after =>
        Displays (rowsAbove (past ++ text)) (layout VGA_WIDTH NEWLINE (past ++ text)) after := by
  induction text with
  | nil =>
    intro past state displays _
    rw [terminalPrint, List.append_nil]
    exact .pure displays
  | cons char text ih =>
    intro past state displays seven
    rw [terminalPrint, List.append_cons]
    apply (terminalPutchar_meets displays (seven char List.mem_cons_self)).bind
    intro _ after displays
    exact ih _ _ displays fun other member => seven other (List.mem_cons_of_mem _ member)

/-- The variables before `terminalInit`, with whatever the video memory holds. -/
def boot (videoMemory : Nat → BitVec 8) : State := ⟨videoMemory, 0, 0⟩

/-- The cleared screen shows the empty page. -/
theorem terminalInit_meets (memory : Nat → BitVec 8) {fault : Fault → Prop} :
    Meets terminalInit (boot memory) fault fun _ after =>
      Displays (rowsAbove []) (layout VGA_WIDTH NEWLINE []) after := by
  apply (clearCells_meets _ 0 _ (by decide)).mono
  rintro _ after ⟨row, column, cells⟩
  have top : rowsAbove [] = 0 := rfl
  have empty : layout VGA_WIDTH NEWLINE [] = .empty := rfl
  rw [top, empty]
  have atZero : after.curRow.toNat = 0 := by rw [row]; rfl
  constructor
  · rw [column]
    rfl
  · rw [atZero]
    rfl
  · decide
  · omega
  · exact fun _ => rfl
  · exact fun above => absurd above (by decide)
  · intro row low column narrow
    have inside : 0 ≤ column + row * VGA_WIDTH ∧
        column + row * VGA_WIDTH < 0 + VGA_WIDTH * VGA_HEIGHT := by
      simp only [VGA_WIDTH, VGA_HEIGHT] at *
      omega
    rw [cells, if_pos inside, Page.charAt_empty]
    rfl

/-- After `terminalInit`, any text of characters of seven bits is shown as a page of text
is: its last 25 rows, in the colours of the terminal, and blanks around them. No access
leaves the cells. -/
theorem terminal_shows_text (memory : Nat → BitVec 8) (text : List (BitVec 8))
    (seven : ∀ char ∈ text, char ≠ 0 ∧ char.toNat < 128) :
    ∃ after, (do terminalInit; terminalPrint text : M Unit).run (boot memory) = .ok (⟨⟩, after) ∧
      ∀ row < VGA_HEIGHT, ∀ column < VGA_WIDTH,
        cellAt after.videoMemory (column + row * VGA_WIDTH) =
          shown (screen VGA_WIDTH VGA_HEIGHT NEWLINE text row column) := by
  have prints : Meets (do terminalInit; terminalPrint text : M Unit) (boot memory) (fun _ => False)
      fun _ after => Displays (rowsAbove text) (layout VGA_WIDTH NEWLINE text) after := by
    apply (terminalInit_meets memory).bind
    intro _ cleared displays
    exact terminalPrint_meets text [] cleared displays fun char member => (seven char member).2
  obtain ⟨_, after, ran, displays⟩ := prints.returns
  exact ⟨after, ran, displays.cells⟩

/-- The text `Hi` with a newline. -/
theorem greeting_shown : ∃ after,
    (do terminalInit; terminalPrint [72, 105, 10] : M Unit).run (boot fun _ => 0) =
      .ok (⟨⟩, after) ∧
    cellAt after.videoMemory 0 = 0x5F48 ∧ cellAt after.videoMemory 1 = 0x5F69 ∧
      cellAt after.videoMemory 2 = 0x5F00 := by
  obtain ⟨after, ran, cells⟩ := terminal_shows_text (fun _ => 0) [72, 105, 10] (by decide)
  exact ⟨after, ran, cells 0 (by decide) 0 (by decide), cells 0 (by decide) 1 (by decide),
    cells 0 (by decide) 2 (by decide)⟩

end BobaOS.Output.Terminal
