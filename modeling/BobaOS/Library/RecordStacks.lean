import Mathlib.Data.List.Basic
import BobaOS.Library.PackedRecords

/-!
# Stacks of records

Records of one layout lie in a memory one behind the other, and more are put before the first
one: the stack grows towards lower addresses. A stack is kept by writes that do not meet it,
and the records are read back from their places.
-/

namespace RecordStacks

open ByteStore PackedRecords

universe u
variable {α : Type u} {w : Nat} (layout : Layout α)

/-- The records from an address on. -/
def Stacked (memory : BitVec w → UInt8) (address : BitVec w) : List α → Prop
  | [] => True
  | record :: rest => layout.load memory address = record ∧
      Stacked memory (address + BitVec.ofNat w layout.size) rest

/-- The address when records have been put before one. -/
def pushed (address : BitVec w) (count : Nat) : BitVec w :=
  address - BitVec.ofNat w (layout.size * count)

/-- The memory with records put before an address, the first of the list first. -/
def pushAll (memory : BitVec w → UInt8) (address : BitVec w) : List α → BitVec w → UInt8
  | [] => memory
  | record :: rest => pushAll (layout.save memory (pushed layout address 1) record)
      (pushed layout address 1) rest

section Laws

variable {layout} {memory after : BitVec w → UInt8} {address : BitVec w} {records : List α}

@[simp] theorem pushed_zero (address : BitVec w) : pushed layout address 0 = address := by
  simp [pushed]

theorem pushed_add (address : BitVec w) (first second : Nat) :
    pushed layout (pushed layout address first) second = pushed layout address (first + second) := by
  rw [pushed, pushed, pushed, BitVec.sub_sub, ← BitVec.ofNat_add, Nat.mul_add]

/-- What has been put before an address leads back to it. -/
theorem pushed_over (address : BitVec w) (count more : Nat) :
    pushed layout address (count + more) + BitVec.ofNat w (layout.size * more) =
      pushed layout address count := by
  rw [← pushed_add]
  exact BitVec.sub_add_cancel _ _

theorem pushed_back (address : BitVec w) (count : Nat) :
    pushed layout address (count + 1) + BitVec.ofNat w layout.size = pushed layout address count := by
  rw [← pushed_over address count 1, Nat.mul_one]

/-- What is put before an address lies in all that is put there. -/
theorem span_pushed {few some all : Nat} (first : few ≤ some) (second : some ≤ all)
    (bounded : layout.size * all ≤ 2 ^ w) :
    span (pushed layout address some) (layout.size * few) ⊆
      span (pushed layout address all) (layout.size * all) := by
  have place : pushed layout address some =
      pushed layout address all + BitVec.ofNat w (layout.size * (all - some)) := by
    rw [← pushed_over address some (all - some), Nat.add_sub_cancel' second]
  have whole : layout.size * (all - some) + layout.size * some = layout.size * all := by
    rw [← Nat.mul_add, Nat.sub_add_cancel second]
  have fits := Nat.mul_le_mul_left layout.size first
  intro tested member
  rw [place, mem_span_offset (by omega)] at member
  show (tested - pushed layout address all).toNat < layout.size * all
  omega

/-- What is put before records lies apart from them. -/
theorem pushed_apart {few more count : Nat} (within : few ≤ more)
    (bounded : layout.size * (more + count) ≤ 2 ^ w) :
    Disjoint (span (pushed layout address (count + more)) (layout.size * few))
      (span (pushed layout address count) (layout.size * count)) := by
  have place : pushed layout address count =
      pushed layout address (count + more) + BitVec.ofNat w (layout.size * more) :=
    (pushed_over address count more).symm
  have fits := Nat.mul_le_mul_left layout.size within
  rw [Set.disjoint_left]
  intro tested left right
  rw [place, mem_span_offset (by rwa [← Nat.mul_add])] at right
  exact absurd left (Nat.not_lt.mpr (Nat.le_trans fits right.1))

/-- A stack is the records of its first part and those behind them. -/
theorem stacked_append {others : List α} :
    Stacked layout memory address (records ++ others) ↔ Stacked layout memory address records ∧
      Stacked layout memory (address + BitVec.ofNat w (layout.size * records.length)) others := by
  induction records generalizing address with
  | nil => simp [Stacked]
  | cons record rest ih =>
    rw [List.cons_append, Stacked, Stacked, ih, List.length_cons, Nat.mul_succ, Nat.add_comm,
      BitVec.ofNat_add, BitVec.add_assoc, and_assoc]

/-- A record is found at its place. -/
theorem Stacked.get (stacked : Stacked layout memory address records) :
    ∀ index, ∀ inside : index < records.length,
      layout.load memory (address + BitVec.ofNat w (layout.size * index)) = records[index] := by
  induction records generalizing address with
  | nil => exact fun _ inside => absurd inside (Nat.not_lt_zero _)
  | cons record rest ih =>
    obtain ⟨here, behind⟩ := stacked
    intro index inside
    cases index with
    | zero => rw [Nat.mul_zero, BitVec.add_zero, here, List.getElem_cons_zero]
    | succ index =>
      rw [List.getElem_cons_succ, ← ih behind index (Nat.lt_of_succ_lt_succ inside), Nat.mul_succ,
        Nat.add_comm, BitVec.ofNat_add, BitVec.add_assoc]

/-- A stack depends on its bytes only. -/
theorem Stacked.congr (stacked : Stacked layout memory address records)
    (bounded : layout.size * records.length ≤ 2 ^ w)
    (same : ∀ tested ∈ span address (layout.size * records.length), after tested = memory tested) :
    Stacked layout after address records := by
  induction records generalizing address with
  | nil => trivial
  | cons record rest ih =>
    obtain ⟨here, behind⟩ := stacked
    rw [List.length_cons, Nat.mul_succ] at bounded same
    refine ⟨?_, ih behind (by omega) fun tested member => same tested ?_⟩
    · rw [← here]
      apply layout.parse_congr
      intro offset inside
      exact same _ (offset_mem (by omega) (by omega))
    · have whole : span address layout.size ∪
          span (address + BitVec.ofNat w layout.size) (layout.size * rest.length) =
          span address (layout.size + layout.size * rest.length) := (span_append _ (by omega)).2
      rw [Nat.add_comm, ← whole]
      exact .inr member

/-- A record that is written elsewhere leaves a stack. -/
theorem Stacked.save (stacked : Stacked layout memory address records)
    (bounded : layout.size * records.length ≤ 2 ^ w) {other : BitVec w} {record : α}
    (apart : Disjoint (span other layout.size) (span address (layout.size * records.length))) :
    Stacked layout (layout.save memory other record) address records :=
  stacked.congr bounded fun _ member =>
    write_outside fun written => Set.disjoint_left.mp apart written member

/-- A record put before a stack. -/
theorem Stacked.push (stacked : Stacked layout memory address records) (record : α)
    (bounded : layout.size * (records.length + 1) ≤ 2 ^ w) :
    Stacked layout (layout.save memory (pushed layout address 1) record) (pushed layout address 1)
      (record :: records) := by
  rw [Nat.mul_succ] at bounded
  have back : pushed layout address 1 + BitVec.ofNat w layout.size = address := by
    rw [pushed_back, pushed_zero]
  refine ⟨layout.load_save _ _ (by omega) record, ?_⟩
  have apart : Disjoint (span (pushed layout address 1) layout.size)
      (span (pushed layout address 1 + BitVec.ofNat w layout.size) (layout.size * records.length)) :=
    (span_append _ (by omega)).1
  rw [back] at apart ⊢
  exact stacked.save (by omega) apart

/-- Records put before a stack lie there in the opposite order. -/
theorem Stacked.pushAll (news : List α) :
    ∀ {memory : BitVec w → UInt8} {address : BitVec w} {records : List α},
      Stacked layout memory address records →
      layout.size * (news.length + records.length) ≤ 2 ^ w →
      Stacked layout (pushAll layout memory address news) (pushed layout address news.length)
        (news.reverse ++ records) := by
  induction news with
  | nil =>
    intro memory address records stacked _
    rw [List.length_nil, pushed_zero]
    exact stacked
  | cons record rest ih =>
    intro memory address records stacked bounded
    rw [List.length_cons] at bounded
    have one := Nat.mul_le_mul_left layout.size (show records.length + 1 ≤
      rest.length + 1 + records.length by omega)
    have all := ih (stacked.push record (by omega)) (by
      rw [List.length_cons]
      exact (by rwa [show rest.length + (records.length + 1) =
        rest.length + 1 + records.length by omega]))
    rw [pushed_add, Nat.add_comm 1] at all
    rw [List.reverse_cons, List.append_assoc]
    exact all

/-- Records that are put before an address change what is before it only. -/
theorem pushAll_outside (news : List α) :
    ∀ {memory : BitVec w → UInt8} {address tested : BitVec w},
      layout.size * news.length ≤ 2 ^ w →
      tested ∉ span (pushed layout address news.length) (layout.size * news.length) →
      pushAll layout memory address news tested = memory tested := by
  induction news with
  | nil =>
    intro memory address tested _ _
    rfl
  | cons record rest ih =>
    intro memory address tested bounded outside
    rw [List.length_cons] at bounded outside
    have whole : span (pushed layout address (rest.length + 1)) (layout.size * rest.length) ∪
        span (pushed layout address (rest.length + 1) + BitVec.ofNat w (layout.size * rest.length))
          layout.size = span (pushed layout address (rest.length + 1))
            (layout.size * rest.length + layout.size) :=
      (span_append _ (by rwa [← Nat.mul_succ])).2
    have behind : pushed layout address (rest.length + 1) +
        BitVec.ofNat w (layout.size * rest.length) = pushed layout address 1 := by
      rw [Nat.add_comm, pushed_over]
    rw [behind, ← Nat.mul_succ] at whole
    rw [← whole, Set.mem_union, not_or] at outside
    have step := @ih (layout.save memory (pushed layout address 1) record)
      (pushed layout address 1) tested
      (Nat.le_trans (Nat.mul_le_mul_left _ (Nat.le_succ _)) bounded)
      (by rw [pushed_add, Nat.add_comm 1]; exact outside.1)
    exact step.trans (write_outside outside.2)

/-- Nor do they change a record that lies elsewhere. -/
theorem load_pushAll (news : List α) {other : BitVec w} (bounded : layout.size * news.length ≤ 2 ^ w)
    (small : layout.size ≤ 2 ^ w)
    (apart : Disjoint (span (pushed layout address news.length) (layout.size * news.length))
      (span other layout.size)) :
    layout.load (pushAll layout memory address news) other = layout.load memory other := by
  apply layout.parse_congr
  intro offset inside
  exact pushAll_outside news bounded fun written =>
    Set.disjoint_left.mp apart written (offset_mem inside small)

end Laws

/-! ## Words of eight bytes -/

/-- The word of 64 bits that bytes hold, the lowest first. -/
def readWord64 (bytes : Nat → UInt8) : BitVec 64 :=
  .ofNat 64 (readWord bytes 0 + readWord bytes 4 * 2 ^ 32)

theorem readWord64_congr (left right : Nat → UInt8)
    (same : ∀ offset, offset < 8 → left offset = right offset) :
    readWord64 left = readWord64 right := by
  rw [readWord64, readWord64, readWord_same same 0 (by decide), readWord_same same 4 (by decide)]

theorem readWord64_wordBytes (word : BitVec 64) : readWord64 (wordBytes word.toNat) = word := by
  have small := word.isLt
  have whole : readWord (wordBytes word.toNat) 0 + readWord (wordBytes word.toNat) 4 * 2 ^ 32 =
      word.toNat := by
    simp only [readWord, wordBytes, UInt8.toNat_ofNat']
    omega
  rw [readWord64, whole, BitVec.ofNat_toNat, BitVec.setWidth_eq]

/-- A word of 64 bits, its lowest byte first. -/
def word64 : Layout (BitVec 64) where
  size := 8
  bytes word := wordBytes word.toNat
  parse := readWord64
  parse_congr := readWord64_congr
  parse_bytes := readWord64_wordBytes

end RecordStacks
