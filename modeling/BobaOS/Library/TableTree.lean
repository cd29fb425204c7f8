import Mathlib.Data.List.Induction
import Mathlib.Data.Option.Basic

/-!
# Trees of tables

A table has slots; a slot of an inner table may name another table. Following a
list of slots from a root leads to at most one table. When no table is reached
along two different paths, writing one slot has a local effect: linking a fresh,
empty table at an empty slot adds exactly one path, and writing a slot of a table
at the last level adds none. Tables, slots and slot contents are arbitrary.
-/

namespace TableTree

universe u v w
variable {α : Type u} {ι : Type v} {ω : Type w}
variable (child : ω → Option α) (cells cells' : α → ι → ω) (root : α)

/-- The table at the end of a path of slots. -/
def tableAt (path : List ι) : Option α :=
  path.foldlM (fun table slot => child (cells table slot)) root

@[simp] theorem tableAt_nil : tableAt child cells root [] = some root := rfl

/-- A longer path follows one more slot. -/
theorem tableAt_append (path : List ι) (slot : ι) :
    tableAt child cells root (path ++ [slot]) =
      (tableAt child cells root path).bind fun table => child (cells table slot) := by
  simp [tableAt, List.foldlM_append]

/-- No table down to the depth is reached along two different paths. -/
def Separate (depth : Nat) : Prop :=
  ∀ left right table, left.length ≤ depth → right.length ≤ depth →
    tableAt child cells root left = some table → tableAt child cells root right = some table →
    left = right

variable {child cells cells' root}

/-- Paths depend only on the children named by the tables above their end. -/
theorem tableAt_congr {depth : Nat}
    (same : ∀ path table slot, path.length < depth → tableAt child cells root path = some table →
      child (cells' table slot) = child (cells table slot))
    (path : List ι) (bounded : path.length ≤ depth) :
    tableAt child cells' root path = tableAt child cells root path := by
  induction path using List.reverseRecOn with
  | nil => rfl
  | append_singleton path slot ih =>
    rw [List.length_append, List.length_singleton] at bounded
    rw [tableAt_append, tableAt_append, ih (by omega)]
    cases reached : tableAt child cells root path with
    | none => rfl
    | some table => exact same path table slot (by omega) reached

/-- Separation depends only on the paths. -/
theorem Separate.congr {depth : Nat} (separate : Separate child cells root depth)
    (same : ∀ path : List ι, path.length ≤ depth →
      tableAt child cells' root path = tableAt child cells root path) :
    Separate child cells' root depth := by
  intro left right table leftBounded rightBounded leftReached rightReached
  rw [same left leftBounded] at leftReached
  rw [same right rightBounded] at rightReached
  exact separate left right table leftBounded rightBounded leftReached rightReached

section Link

variable {depth : Nat} {path : List ι} {slot : ι} {table fresh : α} [DecidableEq ι]

/-- What linking a fresh table does to the slots: the chosen slot, empty before,
names the fresh table, the fresh table's slots are empty, and the slots of all
other tables of the tree name what they named. -/
structure Links (child : ω → Option α) (cells cells' : α → ι → ω) (root : α) (depth : Nat)
    (path : List ι) (slot : ι) (table fresh : α) : Prop where
  inner : path.length < depth
  reached : tableAt child cells root path = some table
  vacant : child (cells table slot) = none
  linked : child (cells' table slot) = some fresh
  clear : ∀ other, child (cells' fresh other) = none
  unused : ∀ other, other.length ≤ depth → tableAt child cells root other ≠ some fresh
  kept : ∀ other otherTable otherSlot, other.length < depth →
    tableAt child cells root other = some otherTable → ¬ (otherTable = table ∧ otherSlot = slot) →
    child (cells' otherTable otherSlot) = child (cells otherTable otherSlot)

/-- Linking a fresh table adds its path and changes no other. -/
theorem Links.tableAt (links : Links child cells cells' root depth path slot table fresh)
    (separate : Separate child cells root depth) (tested : List ι)
    (bounded : tested.length ≤ depth) :
    tableAt child cells' root tested =
      if tested = path ++ [slot] then some fresh else tableAt child cells root tested := by
  induction tested using List.reverseRecOn with
  | nil => simp
  | append_singleton above last ih =>
    rw [List.length_append, List.length_singleton] at bounded
    rw [tableAt_append, tableAt_append, ih (by omega)]
    by_cases below : above = path ++ [slot]
    · -- Below the fresh table there is nothing, before and after.
      have deeper : above ++ [last] ≠ path ++ [slot] := by
        intro same
        have lengths := congrArg List.length same
        simp only [below, List.length_append, List.length_singleton] at lengths
        omega
      have before : TableTree.tableAt child cells root above = none := by
        rw [below, tableAt_append, links.reached]
        exact links.vacant
      rw [if_pos below, if_neg deeper, before]
      exact links.clear last
    · rw [if_neg below]
      cases reached : TableTree.tableAt child cells root above with
      | none =>
        have different : above ++ [last] ≠ path ++ [slot] := by
          intro same
          have equal := (List.append_inj' same rfl).1
          rw [equal, links.reached] at reached
          cases reached
        rw [if_neg different]
        rfl
      | some aboveTable =>
        by_cases here : aboveTable = table ∧ last = slot
        · obtain ⟨rfl, rfl⟩ := here
          have samePath : above = path :=
            separate above path aboveTable (by omega) (Nat.le_of_lt links.inner) reached links.reached
          rw [if_pos (by rw [samePath])]
          exact links.linked
        · have different : above ++ [last] ≠ path ++ [slot] := by
            intro same
            obtain ⟨equal, lastEqual⟩ := List.append_inj' same rfl
            rw [equal, links.reached] at reached
            exact here ⟨(Option.some.inj reached).symm, by simpa using lastEqual⟩
          rw [if_neg different]
          exact links.kept above aboveTable last (by omega) reached here

/-- Linking a fresh table keeps the tree separate. -/
theorem Links.separate (links : Links child cells cells' root depth path slot table fresh)
    (separate : Separate child cells root depth) : Separate child cells' root depth := by
  intro left right found leftBounded rightBounded leftReached rightReached
  rw [links.tableAt separate _ leftBounded] at leftReached
  rw [links.tableAt separate _ rightBounded] at rightReached
  split at leftReached <;> split at rightReached
  · rename_i leftHere rightHere
    exact leftHere.trans rightHere.symm
  · exact absurd (rightReached.trans leftReached.symm) (links.unused right rightBounded)
  · exact absurd (leftReached.trans rightReached.symm) (links.unused left leftBounded)
  · exact separate left right found leftBounded rightBounded leftReached rightReached

end Link

end TableTree
