import BobaOS.Library.BitFields
import BobaOS.Library.BoundedBuffers
import BobaOS.Library.LastWrites
import BobaOS.Library.PackedRecords
import BobaOS.Status

/-!
# The table of gates

`idt.c`: a gate is put into the table for a vector, as the processor reads it. The table has
256 places, and nothing compares a vector with that; a write outside of it is a fault.

What a gate says is stated from the layout that the processor reads, apart from the code that
writes it.
-/

namespace BobaOS.Interrupts

open ByteStore Programs BoundedBuffers PackedRecords BitFields LastWrites

def BOBAOS_TOTAL_INTERRUPTS : Nat := 256

inductive IdtGateType where
  | interrupt
  | trap
deriving DecidableEq

def IdtGateType.value : IdtGateType → BitVec 8
  | .interrupt => 0xE
  | .trap => 0xB

structure IdtEntry where
  offset1 : BitVec 16
  selector : BitVec 16
  reserved_ist : BitVec 8
  attributes : BitVec 8
  offset2 : BitVec 16
  offset3 : BitVec 32
  reserved : BitVec 32
deriving DecidableEq

/-! ## Layout -/

/-- Two bytes, the lower one first. -/
def readHalf (bytes : Nat → UInt8) (address : Nat) : Nat :=
  (bytes address).toNat + (bytes (address + 1)).toNat * 2 ^ 8

def halfByte (half : BitVec 16) (offset : Nat) : UInt8 := .ofNat (half.toNat / 2 ^ (8 * offset))

theorem half_of_bytes {bytes : Nat → UInt8} {address : Nat} {half : BitVec 16}
    (low : bytes address = halfByte half 0) (high : bytes (address + 1) = halfByte half 1) :
    BitVec.ofNat 16 (readHalf bytes address) = half := by
  have small := half.isLt
  apply ofNat_of_mod
  rw [readHalf, low, high, halfByte, halfByte, UInt8.toNat_ofNat', UInt8.toNat_ofNat']
  omega

def IdtEntry.bytes (entry : IdtEntry) (offset : Nat) : UInt8 :=
  match offset with
  | 0 => halfByte entry.offset1 0
  | 1 => halfByte entry.offset1 1
  | 2 => halfByte entry.selector 0
  | 3 => halfByte entry.selector 1
  | 4 => .ofNat entry.reserved_ist.toNat
  | 5 => .ofNat entry.attributes.toNat
  | 6 => halfByte entry.offset2 0
  | 7 => halfByte entry.offset2 1
  | offset =>
    if offset < 12 then wordBytes entry.offset3.toNat (offset - 8)
    else wordBytes entry.reserved.toNat (offset - 12)

def IdtEntry.parse (bytes : Nat → UInt8) : IdtEntry where
  offset1 := .ofNat 16 (readHalf bytes 0)
  selector := .ofNat 16 (readHalf bytes 2)
  reserved_ist := .ofNat 8 (bytes 4).toNat
  attributes := .ofNat 8 (bytes 5).toNat
  offset2 := .ofNat 16 (readHalf bytes 6)
  offset3 := .ofNat 32 (readWord bytes 8)
  reserved := .ofNat 32 (readWord bytes 12)

def idtEntryLayout : Layout IdtEntry where
  size := 16
  bytes := IdtEntry.bytes
  parse := IdtEntry.parse
  parse_congr left right same := by
    rw [IdtEntry.parse, IdtEntry.parse, readWord_same same 8 (by decide),
      readWord_same same 12 (by decide), readHalf, readHalf, readHalf, same 0 (by decide),
      same 1 (by decide), same 2 (by decide), same 3 (by decide), same 4 (by decide),
      same 5 (by decide), same 6 (by decide), same 7 (by decide), readHalf, readHalf, readHalf]
  parse_bytes entry := by
    have byte (field : BitVec 8) : BitVec.ofNat 8 (UInt8.ofNat field.toNat).toNat = field :=
      ofNat_of_mod (by rw [UInt8.toNat_ofNat', Nat.mod_mod, Nat.mod_eq_of_lt field.isLt])
    have offset1 := @half_of_bytes entry.bytes 0 entry.offset1 rfl rfl
    have selector := @half_of_bytes entry.bytes 2 entry.selector rfl rfl
    have offset2 := @half_of_bytes entry.bytes 6 entry.offset2 rfl rfl
    have offset3 := @word_of_bytes entry.bytes 8 entry.offset3 rfl rfl rfl rfl
    have reserved := @word_of_bytes entry.bytes 12 entry.reserved rfl rfl rfl rfl
    rw [IdtEntry.parse, offset1, selector, offset2, offset3, reserved, IdtEntry.bytes,
      IdtEntry.bytes, byte, byte]

/-! ## Gates -/

/-- What the processor takes from an entry. -/
structure Gate where
  offset : BitVec 64
  selector : BitVec 16
  stackTable : BitVec 3
  gateType : BitVec 4
  privilege : BitVec 2
  present : Bool
deriving DecidableEq

def IdtEntry.gate (entry : IdtEntry) : Gate where
  offset := entry.offset3 ++ entry.offset2 ++ entry.offset1
  selector := entry.selector
  stackTable := entry.reserved_ist.extractLsb' 0 3
  gateType := entry.attributes.extractLsb' 0 4
  privilege := entry.attributes.extractLsb' 5 2
  present := entry.attributes.getLsbD 7

/-- The entry of `idtSet`; its last field is not set, and has what was on the stack. -/
def entryOf (address : BitVec 64) (gateType : IdtGateType) (dpl : BitVec 8) (selector : BitVec 16)
    (reserved : BitVec 32) : IdtEntry where
  offset1 := (address &&& 0x000000000000FFFF#64).setWidth 16
  selector := selector
  reserved_ist := 0
  attributes := 0x80 ||| (dpl <<< 5) ||| gateType.value
  offset2 := ((address >>> 16) &&& 0x000000000000FFFF#64).setWidth 16
  offset3 := ((address >>> 32) &&& 0x00000000FFFFFFFF#64).setWidth 32
  reserved

/-- The fields of `attributes` do not meet. -/
theorem attributes_fields (gateType : IdtGateType) (dpl : BitVec 8) :
    (0x80 ||| (dpl <<< 5) ||| gateType.value).extractLsb' 0 4 = gateType.value.setWidth 4 ∧
      (0x80 ||| (dpl <<< 5) ||| gateType.value).extractLsb' 5 2 = dpl.setWidth 2 ∧
      (0x80 ||| (dpl <<< 5) ||| gateType.value).getLsbD 7 = true := by
  revert dpl
  cases gateType <;> decide +kernel

/-- The parts of an address are put together again. -/
theorem offset_parts (address : BitVec 64) :
    ((address >>> 32) &&& 0x00000000FFFFFFFF#64).setWidth 32 ++
      ((address >>> 16) &&& 0x000000000000FFFF#64).setWidth 16 ++
      (address &&& 0x000000000000FFFF#64).setWidth 16 = address := by
  apply BitVec.eq_of_toNat_eq
  have small := address.isLt
  have low : (address &&& 0x000000000000FFFF#64).toNat = address.toNat % 2 ^ 16 :=
    toNat_and_mask (k := 16) _ rfl
  have middle : ((address >>> 16) &&& 0x000000000000FFFF#64).toNat =
      address.toNat / 2 ^ 16 % 2 ^ 16 := by
    rw [toNat_and_mask (k := 16) _ rfl, BitVec.toNat_ushiftRight, Nat.shiftRight_eq_div_pow]
  have high : ((address >>> 32) &&& 0x00000000FFFFFFFF#64).toNat =
      address.toNat / 2 ^ 32 % 2 ^ 32 := by
    rw [toNat_and_mask (k := 32) _ rfl, BitVec.toNat_ushiftRight, Nat.shiftRight_eq_div_pow]
  rw [toNat_append_add, toNat_append_add, BitVec.toNat_setWidth, BitVec.toNat_setWidth,
    BitVec.toNat_setWidth, low, middle, high]
  omega

/-- The processor reads from an entry what it was made of; of the privilege it has two bits. -/
theorem entryOf_gate (address : BitVec 64) (gateType : IdtGateType) (dpl : BitVec 8)
    (selector : BitVec 16) (reserved : BitVec 32) :
    (entryOf address gateType dpl selector reserved).gate =
      ⟨address, selector, 0, gateType.value.setWidth 4, dpl.setWidth 2, true⟩ := by
  obtain ⟨type, privilege, present⟩ := attributes_fields gateType dpl
  rw [IdtEntry.gate, entryOf]
  dsimp only
  rw [offset_parts, type, privilege, present]
  rfl

/-! ## The table is written -/

/-- What ends a call without a return. -/
inductive IdtFault where
  | outOfBounds
  | nullPointer
deriving DecidableEq

structure IdtPtr where
  size : BitVec 16
  offset : BitVec 64
deriving DecidableEq

/-- The variables of `idt.c`, and what `lidt` has given to the processor. A handler is an
address, and zero is none. -/
structure IdtState where
  idt : Nat → UInt8
  handlerList : Nat → BitVec 64
  idtPtr : IdtPtr
  loaded : Option IdtPtr

abbrev IdtM := Program IdtState IdtFault

/-- The bytes of the table. -/
def IDT_BYTES : Nat := BOBAOS_TOTAL_INTERRUPTS * idtEntryLayout.size

/-- The arguments of `idtSet`, and what its entry has in the field that it does not set. -/
structure GateRequest where
  vector : BitVec 16
  address : BitVec 64
  gateType : IdtGateType
  dpl : BitVec 8
  selector : BitVec 16
  reserved : BitVec 32

def GateRequest.entry (request : GateRequest) : IdtEntry :=
  entryOf request.address request.gateType request.dpl request.selector request.reserved

def idtSet (request : GateRequest) : IdtM Unit :=
  Lens.run ⟨(·.idt), fun state idt => { state with idt }⟩
    (put IDT_BYTES .outOfBounds (request.vector.toNat * idtEntryLayout.size)
      (idtEntryLayout.bytes request.entry) idtEntryLayout.size 0)

def idtSetAll : List GateRequest → IdtM Unit
  | [] => return
  | request :: rest => do
    idtSet request
    idtSetAll rest

/-- The request of `fillIdt` for a vector. -/
def fillRequest (idtAddressList : Nat → BitVec 64) (reserved : Nat → BitVec 32) (i : Nat) :
    GateRequest where
  vector := .ofNat 16 i
  address := idtAddressList i
  gateType := .interrupt
  dpl := 0
  selector := 0x8
  reserved := reserved i

/-- The loop of `fillIdt`, at a vector. -/
def fillIdtFrom (idtAddressList : Nat → BitVec 64) (reserved : Nat → BitVec 32) :
    Nat → Nat → IdtM Unit
  | 0, _ => return
  | left + 1, i => do
    idtSet (fillRequest idtAddressList reserved i)
    fillIdtFrom idtAddressList reserved left (i + 1)

def fillIdt (idtAddressList : Nat → BitVec 64) (reserved : Nat → BitVec 32) : IdtM Unit :=
  fillIdtFrom idtAddressList reserved BOBAOS_TOTAL_INTERRUPTS 0

/-- The gate of a vector in the bytes of a table. -/
def gateAt (idt : Nat → UInt8) (vector : Nat) : Gate :=
  (IdtEntry.parse (slice idt (vector * idtEntryLayout.size))).gate

def GateRequest.gate (request : GateRequest) : Gate where
  offset := request.address
  selector := request.selector
  stackTable := 0
  gateType := request.gateType.value.setWidth 4
  privilege := request.dpl.setWidth 2
  present := true

/-- A gate is read back where it has been put, and the other gates are kept. -/
theorem idtSet_meets (request : GateRequest) (state : IdtState) :
    Meets (idtSet request) state (fun _ => BOBAOS_TOTAL_INTERRUPTS ≤ request.vector.toNat)
      fun _ after => request.vector.toNat < BOBAOS_TOTAL_INTERRUPTS ∧
        ∃ idt, after = { state with idt } ∧ ∀ vector, gateAt idt vector =
          if vector = request.vector.toNat then request.gate else gateAt state.idt vector := by
  have size : idtEntryLayout.size = 16 := rfl
  rw [idtSet, meets_lens]
  apply ((put_meets _ (idtEntryLayout.bytes request.entry) 16 0 state.idt).mono_fault ?_).mono ?_
  · rintro problem ⟨-, beyond⟩
    rw [IDT_BYTES, size] at beyond
    omega
  · rintro _ after ⟨fits, rfl⟩
    rw [IDT_BYTES, size] at fits
    refine ⟨by omega, _, rfl, fun vector => ?_⟩
    rw [slice_zero, Nat.add_zero, size]
    have parsed (bytes : Nat → UInt8) :
        IdtEntry.parse bytes = idtEntryLayout.parse bytes := rfl
    by_cases here : vector = request.vector.toNat
    · rw [if_pos here, gateAt, here, size, parsed,
        idtEntryLayout.parse_congr _ (idtEntryLayout.bytes request.entry), idtEntryLayout.parse_bytes]
      · exact entryOf_gate _ _ _ _ _
      · intro offset inside
        exact slice_overwrite _ _ _ _ _ inside
    · rw [if_neg here, gateAt, gateAt, parsed, parsed]
      congr 1
      apply idtEntryLayout.parse_congr
      intro offset inside
      rw [size] at inside ⊢
      rw [slice_apply, slice_apply, overwrite_outside _ _ _ _ _ (by omega)]

/-- What has been requested for a vector last. -/
def lastGate (requests : List GateRequest) (vector : Nat) : Option Gate :=
  (last (fun request => request.vector.toNat) requests vector).map GateRequest.gate

/-- Over any calls, each vector has the gate that was requested for it last, and the calls go wrong
exactly where a vector has no place. -/
theorem idtSetAll_meets (requests : List GateRequest) : ∀ state : IdtState,
    Meets (idtSetAll requests) state
      (fun _ => ∃ request ∈ requests, BOBAOS_TOTAL_INTERRUPTS ≤ request.vector.toNat)
      fun _ after => (∀ request ∈ requests, request.vector.toNat < BOBAOS_TOTAL_INTERRUPTS) ∧
        ∀ vector, gateAt after.idt vector =
          (lastGate requests vector).getD (gateAt state.idt vector) := by
  induction requests with
  | nil =>
    intro state
    exact .pure ⟨fun _ member => absurd member List.not_mem_nil, fun _ => rfl⟩
  | cons request rest ih =>
    intro state
    rw [idtSetAll]
    apply ((idtSet_meets request state).mono_fault fun _ beyond =>
      ⟨request, List.mem_cons_self, beyond⟩).bind
    rintro _ written ⟨low, idt, rfl, gates⟩
    apply ((ih _).mono_fault ?_).mono ?_
    · rintro _ ⟨other, member, beyond⟩
      exact ⟨other, List.mem_cons_of_mem _ member, beyond⟩
    · rintro _ after ⟨others, read⟩
      refine ⟨List.forall_mem_cons.mpr ⟨low, others⟩, fun vector => ?_⟩
      rw [read, lastGate, lastGate, last_cons, gates]

/-- Every vector has its own gate when the table has been filled. -/
theorem fillIdtFrom_meets (idtAddressList : Nat → BitVec 64) (reserved : Nat → BitVec 32)
    (left : Nat) : ∀ (i : Nat) (state : IdtState), i + left = BOBAOS_TOTAL_INTERRUPTS →
      Meets (fillIdtFrom idtAddressList reserved left i) state (fun _ => False) fun _ after =>
        ∃ idt, after = { state with idt } ∧ ∀ vector, gateAt idt vector =
          if i ≤ vector ∧ vector < BOBAOS_TOTAL_INTERRUPTS then
            (fillRequest idtAddressList reserved vector).gate
          else gateAt state.idt vector := by
  induction left with
  | zero =>
    intro i state all
    refine .pure ⟨state.idt, rfl, fun vector => (if_neg ?_).symm⟩
    omega
  | succ left ih =>
    intro i state all
    have total : BOBAOS_TOTAL_INTERRUPTS = 256 := rfl
    have place : (fillRequest idtAddressList reserved i).vector.toNat = i :=
      (BitVec.toNat_ofNat ..).trans (Nat.mod_eq_of_lt (by omega))
    rw [fillIdtFrom]
    apply ((idtSet_meets _ state).mono_fault ?_).bind
    · rintro _ written ⟨-, idt, rfl, gates⟩
      apply (ih (i + 1) _ (by omega)).mono
      rintro _ after ⟨final, rfl, filled⟩
      refine ⟨final, rfl, fun vector => ?_⟩
      rw [filled, gates, place]
      by_cases here : vector = i
      · rw [if_neg (by omega), if_pos here, if_pos (by omega), here]
      · rw [if_neg here]
        by_cases later : i ≤ vector ∧ vector < BOBAOS_TOTAL_INTERRUPTS
        · rw [if_pos (by omega), if_pos later]
        · rw [if_neg (by omega), if_neg later]
    · intro _ beyond
      rw [place] at beyond
      omega

end BobaOS.Interrupts
