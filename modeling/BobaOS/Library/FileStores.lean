import Mathlib.Data.List.Basic
import BobaOS.Library.ByteStore
import BobaOS.Library.Runs

/-!
# Stores of files

Files are lists of values under names. A file is created empty; a write from a position on
leaves what is before the position and puts the new values in place of all that is behind it;
a read shows values from a position on. What the names are, and where the values are kept, is
left open.
-/

namespace FileStores

open ByteStore Runs

universe u v
variable {ι : Type u} {β : Type v}

/-! ## The first values of a store -/

/-- So many values of a flat store, from its beginning. -/
def firsts (store : Nat → β) (count : Nat) : List β := (List.range count).map store

section Firsts

variable {store other : Nat → β} {count : Nat}

@[simp] theorem length_firsts (store : Nat → β) (count : Nat) :
    (firsts store count).length = count := by simp [firsts]

@[simp] theorem firsts_zero (store : Nat → β) : firsts store 0 = [] := rfl

theorem firsts_congr (same : ∀ index < count, store index = other index) :
    firsts store count = firsts other count :=
  List.map_congr_left fun index member => same index (List.mem_range.mp member)

theorem take_firsts {few : Nat} (within : few ≤ count) :
    (firsts store count).take few = firsts store few := by
  rw [firsts, ← List.map_take, List.take_range, Nat.min_eq_left within]
  rfl

theorem firsts_append (store : Nat → β) (first second : Nat) :
    firsts store first ++ firsts (slice store first) second = firsts store (first + second) := by
  rw [firsts, firsts, firsts, List.range_add, List.map_append, List.map_map]
  rfl

/-- A part of the first values is the first values from its position on. -/
theorem firsts_part {position some : Nat} (within : position + some ≤ count) :
    ((firsts store count).drop position).take some = firsts (slice store position) some := by
  obtain ⟨rest, rfl⟩ := Nat.exists_eq_add_of_le within
  have front : (firsts store position).length = position := length_firsts _ _
  rw [Nat.add_assoc, ← firsts_append, List.drop_left' front,
    take_firsts (Nat.le_add_right some rest)]

end Firsts

/-! ## Files -/

/-- The files that there are, and what they hold. -/
abbrev Files (ι : Type u) (β : Type v) := ι → Option (List β)

/-- What is done with a file; a read with the values that it shows. -/
inductive Access (ι : Type u) (β : Type v) where
  | create (name : ι)
  | write (name : ι) (position : Nat) (data : List β)
  | read (name : ι) (position : Nat) (data : List β)

/-- What it does. -/
inductive Step [DecidableEq ι] (files : Files ι β) : Access ι β → Files ι β → Prop where
  | create (name : ι) (fresh : files name = none) :
      Step files (.create name) (Function.update files name (some []))
  | write (name : ι) (file : List β) (position : Nat) (data : List β)
      (known : files name = some file) (inside : position ≤ file.length) :
      Step files (.write name position data)
        (Function.update files name (some (file.take position ++ data)))
  | read (name : ι) (file : List β) (position : Nat) (data : List β)
      (known : files name = some file) (shown : (file.drop position).take data.length = data) :
      Step files (.read name position data) files

/-- The runs of a store, from any files on. -/
def system [DecidableEq ι] : System (Files ι β) (Access ι β) where
  start _ := True
  step := Step

end FileStores
