import Mathlib.Algebra.Group.Nat.Defs
import Mathlib.Data.Nat.Basic

/-!
# Bit fields of a word

Fields are taken out of a word by a mask of its low bits and put together by a disjunction
with what lies above them. As numbers these are a remainder and a sum.
-/

namespace BitFields

variable {w k : Nat}

/-- A mask of low bits takes the remainder. -/
theorem toNat_and_mask (word : BitVec w) {mask : BitVec w} (low : mask.toNat = 2 ^ k - 1) :
    (word &&& mask).toNat = word.toNat % 2 ^ k := by
  rw [BitVec.toNat_and, low, Nat.and_two_pow_sub_one_eq_mod]

/-- What lies above a field is added to it. -/
theorem toNat_or_above {low high : BitVec w} {n : Nat} (small : low.toNat < 2 ^ k)
    (above : high.toNat = 2 ^ k * n) : (low ||| high).toNat = low.toNat + 2 ^ k * n := by
  rw [BitVec.toNat_or, above, Nat.or_comm, ← Nat.two_pow_add_eq_or_of_lt small, Nat.add_comm]

/-- Two words one behind the other. -/
theorem toNat_append_add {m n : Nat} (high : BitVec m) (low : BitVec n) :
    (high ++ low).toNat = high.toNat * 2 ^ n + low.toNat := by
  rw [BitVec.toNat_append, ← Nat.shiftLeft_add_eq_or_of_lt low.isLt, Nat.shiftLeft_eq]

end BitFields
