import Mathlib.Data.List.GetD
import BobaOS.Library.BoundedBuffers
import BobaOS.Library.Numerals

/-!
# Printed numbers

`strToUInt` and `strToHex` of `print.c`: the digits of a number are stored from the right
end of a field of the buffer, and are then copied to its left end. The copy for hexadecimal
digits takes two characters more than there are digits, and the NUL goes over the first of
them.

The buffer is the one that `kprintf` has on its stack. An access outside of it is a fault.
-/

namespace BobaOS.Output

open BoundedBuffers ByteStore Numerals Programs

/-- What ends a call without a return: an access outside the buffer. -/
inductive Fault where
  | outOfBounds
deriving DecidableEq

/-- The buffers `hexChar` and `uIntChar`. -/
def BUFFER_SIZE : Nat := 32

abbrev M := Program (Nat → UInt8) Fault

/-- The strings `numberMap`: the characters from `0` to `9`, and to `F`. -/
def decimalMap : List UInt8 := [48, 49, 50, 51, 52, 53, 54, 55, 56, 57]
def hexMap : List UInt8 := decimalMap ++ [65, 66, 67, 68, 69, 70]

/-! ## Code -/

/-- The loop over the digits, at the round `i`; the digit goes to the place `last - i`. It
returns the round in which it was left, or the one after its last. -/
def storeDigits (numberMap : List UInt8) (base : BitVec 64) (last : Nat) :
    Nat → Nat → BitVec 64 → M Nat
  | 0, i, _ => return i
  | left + 1, i, num => do
    store BUFFER_SIZE .outOfBounds (last - i) (numberMap.getD (num % base).toNat 0)
    if num / base = 0 then return i else storeDigits numberMap base last left (i + 1) (num / base)

/-- The digits are copied from the place `last - i`, which may lie before the buffer. -/
def moveDigits (dest last i size : Nat) : M Unit := do
  if last < i then throw .outOfBounds
  copyUp BUFFER_SIZE .outOfBounds dest (last - i) size 0

def strToUInt (num : BitVec 64) : M Unit := do
  let i ← storeDigits decimalMap 10 19 20 0 num
  moveDigits 0 19 i (i + 1)
  store BUFFER_SIZE .outOfBounds (i + 1) 0

def strToHex (num : BitVec 64) : M Unit := do
  store BUFFER_SIZE .outOfBounds 0 48
  store BUFFER_SIZE .outOfBounds 1 120
  let i ← storeDigits hexMap 16 22 20 2 num
  moveDigits 2 22 i (i + 1)
  store BUFFER_SIZE .outOfBounds (i + 1) 0

/-! ## Texts -/

/-- The characters of a numeral. -/
def symbols (numberMap : List UInt8) (digits : List Nat) : List UInt8 :=
  digits.map fun digit => numberMap.getD digit 0

/-- Reading a numeral back. -/
def parse (numberMap : List UInt8) (text : List UInt8) : Nat :=
  value numberMap.length (text.map numberMap.idxOf)

/-- The buffer begins with a text and its NUL, inside the buffer. -/
def Shows (buffer : Nat → UInt8) (text : List UInt8) : Prop :=
  text.length < BUFFER_SIZE ∧ (List.range (text.length + 1)).map buffer = text ++ [0]

variable {buffer : Nat → UInt8}

/-- The characters of a text, by their place. -/
def characters (text : List UInt8) : Nat → UInt8 := fun place => text.getD place 0

/-- A buffer with the characters of a text and a NUL behind them. -/
theorem shows_text {text : List UInt8} (short : text.length < BUFFER_SIZE)
    (written : ∀ place < text.length, buffer place = characters text place)
    (ended : buffer text.length = 0) : Shows buffer text := by
  refine ⟨short, ?_⟩
  rw [List.range_succ, List.map_append, List.map_singleton, ended]
  congr 1
  apply List.ext_getElem
  · simp
  · intro place _ inside
    simpa [characters, inside] using written place inside

/-- One more character behind a text that was written. -/
theorem overwrite_concat (buffer : Nat → UInt8) (start : Nat) (text : List UInt8) (char : UInt8) :
    overwrite (Function.update buffer (start + text.length) char) start text.length
      (characters text) =
      overwrite buffer start (text ++ [char]).length (characters (text ++ [char])) := by
  funext tested
  simp only [overwrite, List.length_append, List.length_singleton, characters]
  by_cases inside : start ≤ tested ∧ tested < start + text.length
  · rw [if_pos inside, if_pos (by omega), List.getD_append _ _ _ _ (by omega)]
  · rw [if_neg inside]
    by_cases here : tested = start + text.length
    · subst here
      simp
    · rw [if_neg (by omega), Function.update_of_ne here]

/-- The loop stores the numeral so that it ends at the first place written. -/
theorem storeDigits_meets (numberMap : List UInt8) (base : BitVec 64) (last : Nat)
    (large : 1 < base.toNat) (inside : last < BUFFER_SIZE) (left : Nat) :
    ∀ (i : Nat) (num : BitVec 64) (buffer : Nat → UInt8),
      num.toNat < base.toNat ^ (left + 1) → i + left ≤ last →
      Meets (storeDigits numberMap base last (left + 1) i num) buffer (fun _ => False)
        fun j after => j + 1 = i + (numeral base.toNat num.toNat).length ∧
          after = overwrite buffer (last - j) (numeral base.toNat num.toNat).length
            (characters (symbols numberMap (numeral base.toNat num.toNat))) := by
  have quotient (num : BitVec 64) : num / base = 0 ↔ num.toNat / base.toNat = 0 := by
    rw [← BitVec.toNat_inj, BitVec.toNat_udiv]
    rfl
  -- A number with one digit is stored in one round.
  have last_round (left i : Nat) (num : BitVec 64) (buffer : Nat → UInt8) (room : i ≤ last)
      (single : num.toNat / base.toNat = 0) :
      Meets (storeDigits numberMap base last (left + 1) i num) buffer (fun _ => False)
        fun j after => j + 1 = i + (numeral base.toNat num.toNat).length ∧
          after = overwrite buffer (last - j) (numeral base.toNat num.toNat).length
            (characters (symbols numberMap (numeral base.toNat num.toNat))) := by
    rw [storeDigits, meets_bind, meets_store, numeral_step large, if_pos single,
      if_pos ((quotient num).mpr single)]
    refine ⟨fun _ => .pure ⟨rfl, ?_⟩, fun beyond => absurd beyond (by omega)⟩
    have stored := overwrite_concat buffer (last - i) [] (numberMap.getD (num % base).toNat 0)
    simpa [symbols, BitVec.toNat_umod] using stored
  induction left with
  | zero =>
    intro i num buffer small room
    exact last_round 0 i num buffer room (Nat.div_eq_of_lt (by simpa using small))
  | succ left ih =>
    intro i num buffer small room
    by_cases single : num.toNat / base.toNat = 0
    · exact last_round _ i num buffer (by omega) single
    · rw [storeDigits, meets_bind, meets_store, numeral_step large, if_neg single,
        if_neg (mt (quotient num).mp single)]
      refine ⟨fun _ => ?_, fun beyond => absurd beyond (by omega)⟩
      have smaller : (num / base).toNat < base.toNat ^ (left + 1) := by
        rw [BitVec.toNat_udiv]
        exact Nat.div_lt_of_lt_mul (by rwa [← Nat.pow_succ'])
      have short := numeral_length large smaller
      apply (ih (i + 1) (num / base) _ smaller (by omega)).mono
      rintro j after ⟨rounds, rfl⟩
      rw [BitVec.toNat_udiv] at rounds short ⊢
      generalize numeral base.toNat (num.toNat / base.toNat) = digits at rounds short ⊢
      refine ⟨by simp; omega, ?_⟩
      have stored := overwrite_concat buffer (last - j) (symbols numberMap digits)
        (numberMap.getD (num % base).toNat 0)
      have place : last - j + (symbols numberMap digits).length = last - i := by
        simp [symbols]
        omega
      rw [place] at stored
      simpa [symbols, BitVec.toNat_umod] using stored

/-- What is read back from the characters of digits are the digits. -/
theorem parse_symbols {numberMap : List UInt8} {digits : List Nat} (distinct : numberMap.Nodup)
    (below : ∀ digit ∈ digits, digit < numberMap.length) :
    parse numberMap (symbols numberMap digits) = value numberMap.length digits := by
  have back : (symbols numberMap digits).map numberMap.idxOf = digits := by
    rw [symbols, List.map_map]
    refine (List.map_congr_left fun digit member => ?_).trans (List.map_id digits)
    simp only [Function.comp_apply, List.getD_eq_getElem _ _ (below digit member), id_eq]
    exact distinct.idxOf_getElem digit (below digit member)
  rw [parse, back]

/-- From a buffer with the numeral in its right part, the moves of both functions leave the
numeral at `dest`. -/
theorem moveDigits_meets {last i dest size : Nat} (below : i ≤ last) (down : dest + i ≤ last)
    (inside : last - i + size ≤ BUFFER_SIZE) :
    Meets (moveDigits dest last i size) buffer (fun _ => False) fun _ after =>
      after = overwrite buffer dest size (slice buffer (last - i)) := by
  rw [moveDigits, if_neg (by omega)]
  exact copyUp_meets (by omega) size 0 buffer (by simpa using inside)

theorem length_symbols (numberMap : List UInt8) (digits : List Nat) :
    (symbols numberMap digits).length = digits.length := List.length_map _

/-- `strToUInt` leaves the decimal numeral. -/
theorem strToUInt_meets (num : BitVec 64) (buffer : Nat → UInt8) :
    Meets (strToUInt num) buffer (fun _ => False) fun _ after =>
      Shows after (symbols decimalMap (numeral 10 num.toNat)) := by
  have small : num.toNat < 10 ^ (19 + 1) := Nat.lt_trans num.isLt (by decide)
  have short := numeral_length (by decide) small
  rw [strToUInt]
  have loop := storeDigits_meets decimalMap 10 19 (by decide) (by decide) 19 0 num buffer small (by decide)
  rw [show (10 : BitVec 64).toNat = 10 from rfl] at loop
  apply loop.bind
  rintro i stored ⟨rounds, rfl⟩
  have count := length_symbols decimalMap (numeral 10 num.toNat)
  generalize symbols decimalMap (numeral 10 num.toNat) = text at count ⊢
  apply (moveDigits_meets (by omega) (by omega) (by simp [BUFFER_SIZE]; omega)).bind
  rintro _ moved rfl
  rw [meets_store]
  refine ⟨fun _ => shows_text (by simp [BUFFER_SIZE]; omega) ?_ ?_, fun beyond => ?_⟩
  · intro place inside
    rw [Function.update_of_ne (by omega), overwrite_inside _ _ _ _ _ (by omega), slice_apply,
      overwrite_inside _ _ _ _ _ (by omega)]
    simp
  · rw [show text.length = i + 1 by omega, Function.update_self]
  · simp [BUFFER_SIZE] at beyond
    omega

/-- `strToHex` leaves the hexadecimal numeral behind `0x`. -/
theorem strToHex_meets (num : BitVec 64) (buffer : Nat → UInt8) :
    Meets (strToHex num) buffer (fun _ => False) fun _ after =>
      Shows after (48 :: 120 :: symbols hexMap (numeral 16 num.toNat)) := by
  have small : num.toNat < 16 ^ (15 + 1) := Nat.lt_of_lt_of_le num.isLt (by decide)
  have short := numeral_length (by decide) small
  rw [strToHex, meets_bind, meets_store]
  refine ⟨fun _ => ?_, fun beyond => absurd beyond (by decide)⟩
  rw [meets_bind, meets_store]
  refine ⟨fun _ => ?_, fun beyond => absurd beyond (by decide)⟩
  generalize headed : Function.update (Function.update buffer 0 48) 1 120 = header
  have loop := storeDigits_meets hexMap 16 22 (by decide) (by decide) 19 2 num header
    (Nat.lt_of_lt_of_le num.isLt (by decide)) (by decide)
  rw [show (16 : BitVec 64).toNat = 16 from rfl] at loop
  apply loop.bind
  rintro i stored ⟨rounds, rfl⟩
  have count := length_symbols hexMap (numeral 16 num.toNat)
  generalize symbols hexMap (numeral 16 num.toNat) = text at count ⊢
  -- Two characters behind the digits are copied along.
  apply (moveDigits_meets (by omega) (by omega) (by simp [BUFFER_SIZE]; omega)).bind
  rintro _ moved rfl
  rw [meets_store]
  refine ⟨fun _ => shows_text (by simp [BUFFER_SIZE]; omega) ?_ ?_, fun beyond => ?_⟩
  · intro place inside
    simp only [List.length_cons] at inside
    rw [Function.update_of_ne (by omega)]
    match place with
    | 0 =>
      rw [overwrite_outside _ _ _ _ _ (by omega), overwrite_outside _ _ _ _ _ (by omega), ← headed]
      rfl
    | 1 =>
      rw [overwrite_outside _ _ _ _ _ (by omega), overwrite_outside _ _ _ _ _ (by omega), ← headed]
      rfl
    | place + 2 =>
      rw [overwrite_inside _ _ _ _ _ (by omega), slice_apply,
        overwrite_inside _ _ _ _ _ (by omega)]
      simp [characters]
  · rw [show (48 :: 120 :: text).length = i + 1 by simp; omega, Function.update_self]
  · simp [BUFFER_SIZE] at beyond
    omega

/-- Every number is printed in a buffer as its canonical numeral, decimal or hexadecimal
with `0x` before it, and is read back from it. No access leaves the buffer. -/
theorem numerals_printed (num : BitVec 64) (buffer : Nat → UInt8) :
    (∃ after digits, (strToUInt num).run buffer = .ok (⟨⟩, after) ∧
      Canonical 10 num.toNat digits ∧ Shows after (symbols decimalMap digits) ∧
      parse decimalMap (symbols decimalMap digits) = num.toNat) ∧
    ∃ after digits, (strToHex num).run buffer = .ok (⟨⟩, after) ∧
      Canonical 16 num.toNat digits ∧ Shows after (48 :: 120 :: symbols hexMap digits) ∧
      parse hexMap (symbols hexMap digits) = num.toNat := by
  have decimal : Canonical 10 num.toNat _ := numeral_canonical (by decide) num.toNat
  have hex : Canonical 16 num.toNat _ := numeral_canonical (by decide) num.toNat
  constructor
  · obtain ⟨_, after, ran, shows⟩ := (strToUInt_meets num buffer).returns
    refine ⟨after, _, ran, decimal, shows, ?_⟩
    rw [parse_symbols (by decide) decimal.below]
    exact decimal.reads
  · obtain ⟨_, after, ran, shows⟩ := (strToHex_meets num buffer).returns
    refine ⟨after, _, ran, hex, shows, ?_⟩
    rw [parse_symbols (by decide) hex.below]
    exact hex.reads

end BobaOS.Output
