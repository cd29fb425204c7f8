import Mathlib.Data.Nat.Digits.Lemmas

/-!
# Canonical numerals

The numeral of a number in a base, its most significant digit first. It has no leading
zero, and reading it from the left gives the number. Whoever divides a number down obtains
the digits from the last one on.
-/

namespace Numerals

variable {base number : Nat}

/-- The digits of a number. Zero has one. -/
def numeral (base number : Nat) : List Nat :=
  if number = 0 then [0] else (Nat.digits base number).reverse

/-- Reading from the left. -/
def value (base : Nat) (digits : List Nat) : Nat :=
  digits.foldl (fun read digit => read * base + digit) 0

/-- The digits are below the base, the first of several is not zero, and their value is
the number. -/
structure Canonical (base number : Nat) (digits : List Nat) : Prop where
  nonempty : digits ≠ []
  below : ∀ digit ∈ digits, digit < base
  leading : 1 < digits.length → digits.head? ≠ some 0
  reads : value base digits = number

@[simp] theorem value_concat (digits : List Nat) (digit : Nat) :
    value base (digits ++ [digit]) = value base digits * base + digit := by
  simp [value]

/-- The last digit is the remainder, the others are those of the quotient. -/
theorem numeral_step (large : 1 < base) (number : Nat) : numeral base number =
    (if number / base = 0 then [] else numeral base (number / base)) ++ [number % base] := by
  by_cases zero : number = 0
  · simp [numeral, zero]
  · rw [numeral, if_neg zero, Nat.digits_def' large (Nat.pos_of_ne_zero zero)]
    by_cases single : number / base = 0
    · simp [single]
    · simp [single, numeral]

/-- The numeral of a number by its digits. -/
theorem value_reverse (digits : List Nat) :
    value base digits.reverse = Nat.ofDigits base digits := by
  induction digits with
  | nil => rfl
  | cons digit digits ih =>
    rw [List.reverse_cons, value_concat, ih, Nat.ofDigits_cons, Nat.mul_comm, Nat.add_comm]

theorem numeral_canonical (large : 1 < base) (number : Nat) :
    Canonical base number (numeral base number) := by
  by_cases zero : number = 0
  · subst zero
    constructor <;> simp [numeral, value]
    omega
  · have some : Nat.digits base number ≠ [] := Nat.digits_ne_nil_iff_ne_zero.mpr zero
    simp only [numeral, zero, ↓reduceIte]
    constructor
    · simpa using some
    · intro digit member
      exact Nat.digits_lt_base large (List.mem_reverse.mp member)
    · intro _
      rw [List.head?_reverse, List.getLast?_eq_some_getLast some]
      intro same
      exact Nat.getLast_digit_ne_zero base zero (Option.some.inj same)
    · rw [value_reverse, Nat.ofDigits_digits]

/-- A number below a power of the base has no more digits than the exponent says. -/
theorem numeral_length {count : Nat} (large : 1 < base) (small : number < base ^ (count + 1)) :
    (numeral base number).length ≤ count + 1 := by
  by_cases zero : number = 0
  · simp [numeral, zero]
  · simp only [numeral, zero, ↓reduceIte, List.length_reverse]
    exact (Nat.digits_length_le_iff large number).mpr small

end Numerals
