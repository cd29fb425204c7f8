import Mathlib.Data.List.Pairwise
import Mathlib.Data.List.Perm.Basic

/-!
# Arrangements of disjoint extents

An extent is a nonempty interval of positions. An arrangement is a list of
pairwise disjoint extents below a limit: the purpose of an allocator of
contiguous positions, without any of its bookkeeping. Its invariant is part of
the structure, so an overlapping or overrunning arrangement cannot be built.
-/

namespace Extents

/-- A nonempty interval of positions, by its first position and its length. -/
structure Extent where
  first : Nat
  length : Nat
  nonempty : 0 < length
deriving DecidableEq

namespace Extent

/-- The position lies in the extent. -/
def Holds (extent : Extent) (position : Nat) : Prop :=
  extent.first ≤ position ∧ position < extent.first + extent.length

instance (extent : Extent) (position : Nat) : Decidable (extent.Holds position) :=
  inferInstanceAs (Decidable (_ ∧ _))

/-- No position lies in both extents. -/
def Apart (left right : Extent) : Prop :=
  left.first + left.length ≤ right.first ∨ right.first + right.length ≤ left.first

instance : Std.Symm Apart := ⟨fun _ _ apart => Or.symm apart⟩

/-- Extents are apart exactly when they share no position: a shared position is
found at the larger of the two first positions. -/
theorem apart_iff (left right : Extent) :
    left.Apart right ↔ ∀ position, left.Holds position → ¬ right.Holds position := by
  constructor
  · intro apart position inLeft inRight
    simp only [Apart, Holds] at apart inLeft inRight
    omega
  · intro separate
    by_contra close
    have leftNonempty := left.nonempty
    have rightNonempty := right.nonempty
    simp only [Apart] at close
    apply separate (max left.first right.first) <;> simp only [Holds] <;> omega

/-- An extent holds its own first position. -/
theorem holds_first (extent : Extent) : extent.Holds extent.first := by
  have nonempty := extent.nonempty
  simp only [Holds]
  omega

end Extent

/-- Pairwise disjoint extents below the limit. -/
structure Arrangement (limit : Nat) where
  extents : List Extent
  inside : ∀ extent ∈ extents, extent.first + extent.length ≤ limit
  apart : extents.Pairwise Extent.Apart

namespace Arrangement

variable {limit : Nat}

/-- No extent at all. -/
def empty (limit : Nat) : Arrangement limit := ⟨[], by simp, .nil⟩

/-- Add an extent that is apart from all the others. -/
def insert (arrangement : Arrangement limit) (extent : Extent)
    (fits : extent.first + extent.length ≤ limit)
    (fresh : ∀ other ∈ arrangement.extents, extent.Apart other) : Arrangement limit where
  extents := extent :: arrangement.extents
  inside := by simpa using ⟨fits, arrangement.inside⟩
  apart := List.pairwise_cons.mpr ⟨fresh, arrangement.apart⟩

/-- Remove the extent that begins at the position. -/
def release (arrangement : Arrangement limit) (first : Nat) : Arrangement limit where
  extents := arrangement.extents.filter fun extent => extent.first ≠ first
  inside extent member := arrangement.inside extent (List.mem_of_mem_filter member)
  apart := arrangement.apart.filter _

/-- Two extents of an arrangement that hold a common position are the same one.
In particular a first position names its extent. -/
theorem holder_unique (arrangement : Arrangement limit) {left right : Extent}
    (leftMember : left ∈ arrangement.extents) (rightMember : right ∈ arrangement.extents)
    {position : Nat} (inLeft : left.Holds position) (inRight : right.Holds position) :
    left = right := by
  by_contra different
  have apart : left.Apart right := arrangement.apart.forall leftMember rightMember different
  exact (Extent.apart_iff left right).mp apart position inLeft inRight

/-- Different extents of an arrangement share no position. -/
theorem holders_apart (arrangement : Arrangement limit) {left right : Extent}
    (leftMember : left ∈ arrangement.extents) (rightMember : right ∈ arrangement.extents)
    (different : left ≠ right) : left.Apart right :=
  arrangement.apart.forall leftMember rightMember different

end Arrangement

end Extents
