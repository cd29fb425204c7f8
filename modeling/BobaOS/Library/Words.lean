import BobaOS.Library.ByteStore

/-!
# Words in a byte store

A 32-bit word is kept as four bytes, the lowest first. Reading a word back gives
the value written, and writes elsewhere do not change it.
-/

namespace ByteStore

/-- The word at an address. -/
def readWord (store : Nat → UInt8) (address : Nat) : Nat :=
  (store address).toNat + (store (address + 1)).toNat * 256 +
    (store (address + 2)).toNat * 65536 + (store (address + 3)).toNat * 16777216

/-- The bytes of a word. -/
def wordBytes (value : Nat) : Nat → UInt8 := fun offset => UInt8.ofNat (value / 256 ^ offset)

/-- The store with a word written at an address. -/
def writeWord (store : Nat → UInt8) (address value : Nat) : Nat → UInt8 :=
  overwrite store address 4 (wordBytes value)

/-- A word depends on its four bytes only. -/
theorem readWord_congr {store other : Nat → UInt8} {address : Nat}
    (same : ∀ offset < 4, other (address + offset) = store (address + offset)) :
    readWord other address = readWord store address := by
  have zeroth : other address = store address := same 0 (by decide)
  rw [readWord, readWord, zeroth, same 1 (by decide), same 2 (by decide), same 3 (by decide)]

theorem readWord_lt (store : Nat → UInt8) (address : Nat) : readWord store address < 2 ^ 32 := by
  have zeroth := (store address).toNat_lt
  have first := (store (address + 1)).toNat_lt
  have second := (store (address + 2)).toNat_lt
  have third := (store (address + 3)).toNat_lt
  rw [readWord]
  omega

/-- The word of a value's bytes is the value. -/
theorem readWord_wordBytes (value : Nat) (small : value < 2 ^ 32) :
    readWord (wordBytes value) 0 = value := by
  simp only [readWord, wordBytes, UInt8.toNat_ofNat']
  omega

/-- Reading the word just written gives its value. -/
theorem readWord_writeWord (store : Nat → UInt8) (address value : Nat) (small : value < 2 ^ 32) :
    readWord (writeWord store address value) address = value := by
  have bytes : ∀ offset < 4, writeWord store address value (address + offset) =
      wordBytes value (0 + offset) := by
    intro offset inside
    rw [Nat.zero_add]
    exact slice_overwrite store address 4 (wordBytes value) offset inside
  have same : readWord (writeWord store address value) address = readWord (wordBytes value) 0 := by
    have zeroth := bytes 0 (by decide)
    rw [Nat.add_zero] at zeroth
    rw [readWord, readWord, zeroth, bytes 1 (by decide), bytes 2 (by decide), bytes 3 (by decide)]
  rw [same, readWord_wordBytes value small]

/-- A write that does not meet a word leaves it. -/
theorem readWord_overwrite (store : Nat → UInt8) (start length : Nat) (values : Nat → UInt8)
    (address : Nat) (apart : address + 4 ≤ start ∨ start + length ≤ address) :
    readWord (overwrite store start length values) address = readWord store address := by
  apply readWord_congr
  intro offset inside
  exact overwrite_outside _ _ _ _ _ (by omega)

/-- Of the words at multiples of four, a write changes the one that it meets. -/
theorem readWord_writeWord_aligned (store : Nat → UInt8) {written address : Nat} {value : Nat}
    (small : value < 2 ^ 32) (aligned : 4 ∣ written) (also : 4 ∣ address) :
    readWord (writeWord store written value) address =
      if address = written then value else readWord store address := by
  obtain ⟨first, rfl⟩ := aligned
  obtain ⟨second, rfl⟩ := also
  split
  · rw [‹4 * second = 4 * first›, readWord_writeWord _ _ _ small]
  · exact readWord_overwrite _ _ _ _ _ (by omega)

end ByteStore
