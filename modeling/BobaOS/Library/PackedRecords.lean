import Mathlib.Data.Nat.Digits.Defs
import Mathlib.Data.Set.Disjoint
import Mathlib.Order.CompletePartialOrder
import BobaOS.Library.Words

/-!
# Packed records in a memory

A memory assigns a byte to every machine address; addresses wrap. A layout says how the
records of a type are kept in a fixed number of bytes. A record is read back from where it
was written, and a write to other addresses does not change it.
-/

namespace PackedRecords

open ByteStore

universe u

/-! ## Memory -/

section Memory

variable {w : Nat} {memory : BitVec w → UInt8} {address other : BitVec w} {length size : Nat}
  {values : Nat → UInt8}

/-- The addresses of a block. -/
def span (address : BitVec w) (length : Nat) : Set (BitVec w) :=
  {tested | (tested - address).toNat < length}

/-- The bytes from an address on, by their offset. -/
def window (memory : BitVec w → UInt8) (address : BitVec w) : Nat → UInt8 :=
  fun offset => memory (address + BitVec.ofNat w offset)

/-- Replace the bytes of a block. -/
def write (memory : BitVec w → UInt8) (address : BitVec w) (length : Nat) (values : Nat → UInt8) :
    BitVec w → UInt8 :=
  fun tested => if (tested - address).toNat < length then values (tested - address).toNat
    else memory tested

theorem write_outside {tested : BitVec w} (outside : tested ∉ span address length) :
    write memory address length values tested = memory tested := if_neg outside

/-- An offset is its distance from the start. -/
theorem offset_distance (address : BitVec w) {offset : Nat} (bounded : offset < 2 ^ w) :
    (address + BitVec.ofNat w offset - address).toNat = offset := by
  rw [BitVec.add_comm, BitVec.add_sub_cancel, BitVec.toNat_ofNat, Nat.mod_eq_of_lt bounded]

theorem offset_mem {offset : Nat} (inside : offset < length) (bounded : length ≤ 2 ^ w) :
    address + BitVec.ofNat w offset ∈ span address length := by
  show (address + BitVec.ofNat w offset - address).toNat < length
  rw [offset_distance address (by omega)]
  exact inside

/-- The bytes of a block are those written to it. -/
theorem window_write {offset : Nat} (inside : offset < length) (bounded : length ≤ 2 ^ w) :
    window (write memory address length values) address offset = values offset := by
  have distance := offset_distance address (show offset < 2 ^ w by omega)
  rw [window, write, distance, if_pos inside]

/-- A write to other addresses leaves a block. -/
theorem window_write_apart {offset : Nat} (inside : offset < size) (bounded : size ≤ 2 ^ w)
    (apart : Disjoint (span address length) (span other size)) :
    window (write memory address length values) other offset = window memory other offset :=
  write_outside fun written => Set.disjoint_left.mp apart written (offset_mem inside bounded)

/-- The block at an offset, by the distance from the start. -/
theorem mem_span_offset {tested : BitVec w} {offset : Nat} (bounded : offset + length ≤ 2 ^ w) :
    tested ∈ span (address + BitVec.ofNat w offset) length ↔
      offset ≤ (tested - address).toNat ∧ (tested - address).toNat < offset + length := by
  show (tested - (address + BitVec.ofNat w offset)).toNat < length ↔ _
  rw [← BitVec.sub_sub]
  have distance_lt := (tested - address).isLt
  generalize tested - address = distance at distance_lt ⊢
  by_cases empty : length = 0
  · omega
  have here : (BitVec.ofNat w offset).toNat = offset :=
    (BitVec.toNat_ofNat ..).trans (Nat.mod_eq_of_lt (by omega))
  by_cases behind : offset ≤ distance.toNat
  · rw [BitVec.toNat_sub_of_le (by rw [BitVec.le_def, here]; exact behind), here]
    omega
  · rw [BitVec.toNat_sub_of_lt (by rw [BitVec.lt_def, here]; omega), here]
    omega

/-- Blocks at distant offsets do not meet. -/
theorem span_apart {first second : Nat} (before : first + length ≤ second)
    (bounded : second + size ≤ 2 ^ w) :
    Disjoint (span (address + BitVec.ofNat w first) length)
      (span (address + BitVec.ofNat w second) size) := by
  rw [Set.disjoint_left]
  intro tested left right
  have below := ((mem_span_offset (by omega)).mp left).2
  have above := ((mem_span_offset bounded).mp right).1
  omega

/-- A block is its first part and what is behind it, which have no address in common. -/
theorem span_append (address : BitVec w) {first second : Nat} (bounded : first + second ≤ 2 ^ w) :
    Disjoint (span address first) (span (address + BitVec.ofNat w first) second) ∧
      span address first ∪ span (address + BitVec.ofNat w first) second =
        span address (first + second) := by
  constructor
  · rw [Set.disjoint_left]
    intro tested left right
    exact absurd left (Nat.not_lt.mpr ((mem_span_offset bounded).mp right).1)
  · ext tested
    rw [Set.mem_union, mem_span_offset bounded]
    show (tested - address).toNat < first ∨ _ ↔ (tested - address).toNat < first + second
    omega

end Memory

/-! ## Layouts -/

/-- How a record is kept in bytes. Reading depends on its bytes only, and reads a record
back from its own bytes. -/
structure Layout (α : Type u) where
  size : Nat
  bytes : α → Nat → UInt8
  parse : (Nat → UInt8) → α
  parse_congr : ∀ left right, (∀ offset < size, left offset = right offset) →
    parse left = parse right
  parse_bytes : ∀ record, parse (bytes record) = record

section Records

variable {α : Type u} {w : Nat} (layout : Layout α) (memory : BitVec w → UInt8)
  (address : BitVec w)

/-- The record at an address. -/
def Layout.load : α := layout.parse (window memory address)

/-- The memory with a record written at an address. -/
def Layout.save (record : α) : BitVec w → UInt8 :=
  write memory address layout.size (layout.bytes record)

/-- A record is read back from where it was written. -/
theorem Layout.load_save (bounded : layout.size ≤ 2 ^ w) (record : α) :
    layout.load (layout.save memory address record) address = record := by
  rw [load, save, layout.parse_congr _ (layout.bytes record), layout.parse_bytes]
  intro offset inside
  exact window_write inside bounded

/-- A write to other addresses does not change a record. -/
theorem Layout.load_write (bounded : layout.size ≤ 2 ^ w) {written : BitVec w} {length : Nat}
    {values : Nat → UInt8} (apart : Disjoint (span written length) (span address layout.size)) :
    layout.load (write memory written length values) address = layout.load memory address := by
  rw [load, load]
  apply layout.parse_congr
  intro offset inside
  exact window_write_apart inside bounded apart

end Records

/-! ## Fields -/

/-- A word of four bytes is the word whose bytes they are. -/
theorem readWord_of {bytes : Nat → UInt8} {address value : Nat} (small : value < 2 ^ 32)
    (same : ∀ offset < 4, bytes (address + offset) = wordBytes value offset) :
    readWord bytes address = value := by
  have zeroth : bytes address = wordBytes value 0 := same 0 (by decide)
  rw [← readWord_wordBytes value small, readWord, readWord, zeroth, same 1 (by decide),
    same 2 (by decide), same 3 (by decide)]

/-- A word of a record is read from its bytes. -/
theorem word_of_bytes {bytes : Nat → UInt8} {address : Nat} {word : BitVec 32}
    (zeroth : bytes address = wordBytes word.toNat 0)
    (first : bytes (address + 1) = wordBytes word.toNat 1)
    (second : bytes (address + 2) = wordBytes word.toNat 2)
    (third : bytes (address + 3) = wordBytes word.toNat 3) :
    BitVec.ofNat 32 (readWord bytes address) = word := by
  have same : ∀ offset < 4, bytes (address + offset) = wordBytes word.toNat offset := by
    intro offset below
    match offset with
    | 0 => exact zeroth
    | 1 => exact first
    | 2 => exact second
    | 3 => exact third
  rw [readWord_of word.isLt same, BitVec.ofNat_toNat, BitVec.setWidth_eq]

/-- The words of two records with the same bytes. -/
theorem readWord_same {left right : Nat → UInt8} {size : Nat}
    (same : ∀ offset < size, left offset = right offset) (address : Nat)
    (inside : address + 4 ≤ size) : readWord left address = readWord right address :=
  readWord_congr fun _ below => same _ (by omega)

/-- The number of some bytes, the lowest first. -/
def littleEndian (bytes : List UInt8) : Nat := Nat.ofDigits 256 (bytes.map UInt8.toNat)

theorem byte_digits (bytes : List UInt8) : ∀ digit ∈ bytes.map UInt8.toNat, digit < 256 := by
  intro digit member
  obtain ⟨byte, -, rfl⟩ := List.mem_map.mp member
  exact byte.toNat_lt

theorem littleEndian_lt (bytes : List UInt8) : littleEndian bytes < 256 ^ bytes.length := by
  have small := Nat.ofDigits_lt_base_pow_length (by decide : 1 < 256) (byte_digits bytes)
  rwa [List.length_map] at small

/-- As many bytes with the same number are the same. -/
theorem littleEndian_injective {left right : List UInt8} (length : left.length = right.length)
    (same : littleEndian left = littleEndian right) : left = right := by
  have digits : left.map UInt8.toNat = right.map UInt8.toNat :=
    Nat.ofDigits_inj_of_len_eq (by decide) (by simp [length]) (byte_digits left) (byte_digits right)
      same
  exact (List.map_inj_right fun _ _ => UInt8.toNat_inj.mp).mp digits

/-- A field of a few bits, by its number. -/
theorem ofNat_of_mod {n number : Nat} {field : BitVec n} (same : number % 2 ^ n = field.toNat) :
    BitVec.ofNat n number = field :=
  BitVec.eq_of_toNat_eq ((BitVec.toNat_ofNat ..).trans same)

end PackedRecords
