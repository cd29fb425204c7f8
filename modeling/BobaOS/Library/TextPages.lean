import Mathlib.Data.List.GetD
import Mathlib.Data.List.Basic

/-!
# Pages of text

Characters laid out in rows of a fixed width. A row that is full is left when the next
character comes, whichever it is; a newline leaves its row at once. A screen of a fixed
height shows the last rows. The row that a newline begins counts for this from the next
character on.
-/

namespace TextPages

universe u
variable {α : Type u}

/-- The rows that have been left, and the row of the next character. -/
structure Page (α : Type u) where
  done : List (List α)
  current : List α

namespace Page

def empty : Page α := ⟨[], []⟩

def newline (page : Page α) : Page α := ⟨page.done ++ [page.current], []⟩

def put (page : Page α) (char : α) : Page α := ⟨page.done, page.current ++ [char]⟩

/-- A full row is left. -/
def wrap (width : Nat) (page : Page α) : Page α :=
  if page.current.length = width then page.newline else page

/-- The character at a place. -/
def charAt (page : Page α) (row column : Nat) : Option α :=
  ((page.done ++ [page.current]).getD row [])[column]?

@[simp] theorem charAt_empty (row column : Nat) : (empty : Page α).charAt row column = none := by
  cases row <;> simp [charAt, empty]

/-- A new row has no characters. -/
@[simp] theorem charAt_newline (page : Page α) (row column : Nat) :
    page.newline.charAt row column = page.charAt row column := by
  rcases Nat.lt_or_ge row (page.done ++ [page.current]).length with before | behind
  · rw [charAt, charAt, newline, List.getD_append _ _ _ _ before]
  · rw [charAt, charAt, newline, List.getD_append_right _ _ _ _ behind,
      List.getD_eq_default _ _ behind]
    generalize row - (page.done ++ [page.current]).length = further
    cases further <;> simp

@[simp] theorem charAt_wrap (width : Nat) (page : Page α) (row column : Nat) :
    (page.wrap width).charAt row column = page.charAt row column := by
  rw [wrap]
  split
  · exact charAt_newline page row column
  · rfl

/-- The places from the next one on are free. -/
theorem charAt_next (page : Page α) : page.charAt page.done.length page.current.length = none := by
  rw [charAt, List.getD_append_right _ _ _ _ (Nat.le_refl _)]
  simp

theorem charAt_current_empty {page : Page α} (begun : page.current = []) (column : Nat) :
    page.charAt page.done.length column = none := by
  rw [charAt, List.getD_append_right _ _ _ _ (Nat.le_refl _)]
  simp [begun]

/-- A character goes to the next place. -/
theorem charAt_put (page : Page α) (char : α) (row column : Nat) :
    (page.put char).charAt row column =
      if row = page.done.length ∧ column = page.current.length then some char
      else page.charAt row column := by
  rcases Nat.lt_trichotomy row page.done.length with before | here | behind
  · rw [if_neg (by omega), charAt, charAt, put, List.getD_append _ _ _ _ before,
      List.getD_append _ _ _ _ before]
  · subst here
    rw [charAt, charAt, put, List.getD_append_right _ _ _ _ (Nat.le_refl _),
      List.getD_append_right _ _ _ _ (Nat.le_refl _)]
    simp only [Nat.sub_self, List.getD_cons_zero, true_and]
    rcases Nat.lt_trichotomy column page.current.length with left | there | right
    · rw [if_neg (by omega), List.getElem?_append_left left]
    · simp [there]
    · rw [if_neg (by omega), List.getElem?_eq_none (by simp; omega),
        List.getElem?_eq_none (by omega)]
  · rw [if_neg (by omega), charAt, charAt, put, List.getD_eq_default _ _ (by simp; omega),
      List.getD_eq_default _ _ (by simp; omega)]

end Page

variable [DecidableEq α] (width height : Nat) (newline : α)

/-- One character more. -/
def feed (page : Page α) (char : α) : Page α :=
  if char = newline then (page.wrap width).newline else (page.wrap width).put char

/-- The page of a text. -/
def layout (text : List α) : Page α := text.foldl (feed width newline) .empty

/-- The number of rows that count for the screen. -/
def shownRows (text : List α) : Nat :=
  if text.getLast? = some newline then (layout width newline text).done.length
  else (layout width newline text).done.length + 1

/-- The number of rows above the screen. -/
def scrolled (text : List α) : Nat := shownRows width newline text - height

/-- What the screen shows at a place. -/
def screen (text : List α) (row column : Nat) : Option α :=
  (layout width newline text).charAt (scrolled width height newline text + row) column

@[simp] theorem layout_concat (text : List α) (char : α) :
    layout width newline (text ++ [char]) = feed width newline (layout width newline text) char := by
  simp [layout]

/-- The rows that count are those up to the one in which the last character was taken. -/
theorem shownRows_concat (text : List α) (char : α) : shownRows width newline (text ++ [char]) =
    ((layout width newline text).wrap width).done.length + 1 := by
  by_cases ends : char = newline
  · simp [shownRows, feed, ends, Page.newline]
  · simp [shownRows, feed, ends, Page.put]

end TextPages
