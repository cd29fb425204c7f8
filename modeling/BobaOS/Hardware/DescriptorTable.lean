import BobaOS.Library.BitFields
import BobaOS.Library.BoundedBuffers
import BobaOS.Library.PackedRecords

/-!
# The table of segment descriptors

`gdt.c`: the entries of a table are put into the form that the processor reads. A system
descriptor takes two slots of the real table and shifts all that follow, but the real table
has as many slots as there are entries.

The processor's reading is stated from the layout of the descriptors, apart from the code
that writes them.
-/

namespace BobaOS.Hardware

open ByteStore Programs BoundedBuffers PackedRecords BitFields

def BOBAOS_GDT_ENTRIES : Nat := 6
def GDT_ACCESS_SYSTEM : BitVec 8 := 0x10

structure Gdt where
  limit : BitVec 64
  base : BitVec 64
  access : BitVec 8
  flags : BitVec 8
deriving DecidableEq

structure RealGdt where
  limit1 : BitVec 16
  base1_access : BitVec 32
  limit2_flags : BitVec 8
  base2 : BitVec 8

structure RealGdtSystemPart where
  base : BitVec 32
  reserved : BitVec 32

/-! ## Layouts -/

def RealGdt.bytes (real : RealGdt) (offset : Nat) : UInt8 :=
  match offset with
  | 0 => .ofNat real.limit1.toNat
  | 1 => .ofNat (real.limit1.toNat / 2 ^ 8)
  | 6 => .ofNat real.limit2_flags.toNat
  | 7 => .ofNat real.base2.toNat
  | offset => wordBytes real.base1_access.toNat (offset - 2)

def RealGdt.parse (bytes : Nat → UInt8) : RealGdt where
  limit1 := .ofNat 16 ((bytes 0).toNat + (bytes 1).toNat * 2 ^ 8)
  base1_access := .ofNat 32 (readWord bytes 2)
  limit2_flags := .ofNat 8 (bytes 6).toNat
  base2 := .ofNat 8 (bytes 7).toNat

def RealGdtSystemPart.bytes (part : RealGdtSystemPart) (offset : Nat) : UInt8 :=
  if offset < 4 then wordBytes part.base.toNat offset
  else wordBytes part.reserved.toNat (offset - 4)

def RealGdtSystemPart.parse (bytes : Nat → UInt8) : RealGdtSystemPart where
  base := .ofNat 32 (readWord bytes 0)
  reserved := .ofNat 32 (readWord bytes 4)

/-- A byte of a record is the number of it. -/
theorem ofNat_byte (byte : BitVec 8) : BitVec.ofNat 8 (UInt8.ofNat byte.toNat).toNat = byte := by
  rw [UInt8.toNat_ofNat_of_lt' byte.isLt, BitVec.ofNat_toNat, BitVec.setWidth_eq]

def realGdtLayout : Layout RealGdt where
  size := 8
  bytes := RealGdt.bytes
  parse := RealGdt.parse
  parse_congr left right same := by
    rw [RealGdt.parse, RealGdt.parse, same 0 (by decide), same 1 (by decide), same 6 (by decide),
      same 7 (by decide), readWord_same same 2 (by decide)]
  parse_bytes real := by
    have limit1 : (real.bytes 0).toNat + (real.bytes 1).toNat * 2 ^ 8 = real.limit1.toNat := by
      have small := real.limit1.isLt
      rw [RealGdt.bytes, RealGdt.bytes, UInt8.toNat_ofNat', UInt8.toNat_ofNat']
      omega
    have base1_access := @word_of_bytes real.bytes 2 real.base1_access rfl rfl rfl rfl
    rw [RealGdt.parse, limit1, base1_access, RealGdt.bytes, RealGdt.bytes, ofNat_byte, ofNat_byte,
      BitVec.ofNat_toNat, BitVec.setWidth_eq]

def systemPartLayout : Layout RealGdtSystemPart where
  size := 8
  bytes := RealGdtSystemPart.bytes
  parse := RealGdtSystemPart.parse
  parse_congr left right same := by
    rw [RealGdtSystemPart.parse, RealGdtSystemPart.parse, readWord_same same 0 (by decide),
      readWord_same same 4 (by decide)]
  parse_bytes part := by
    have base := @word_of_bytes part.bytes 0 part.base rfl rfl rfl rfl
    have reserved := @word_of_bytes part.bytes 4 part.reserved rfl rfl rfl rfl
    rw [RealGdtSystemPart.parse, base, reserved]

/-! ## The table is written -/

/-- A write outside the real table. -/
inductive GdtFault where
  | outOfBounds
deriving DecidableEq

/-- The variables of `gdt.c`. -/
structure GdtState where
  realGdt : Nat → UInt8
  totalSystemDescriptors : BitVec 8

abbrev GdtM := Program GdtState GdtFault

section Code

def Gdt.toReal (gdt : Gdt) : RealGdt where
  limit1 := (gdt.limit &&& 0xFFFF#64).setWidth 16
  base1_access :=
    ((gdt.base &&& 0xFFFFFF#64) ||| (gdt.access.setWidth 32 <<< 24).setWidth 64).setWidth 32
  limit2_flags := (((gdt.limit >>> 16) &&& 0xF#64) ||| (gdt.flags.setWidth 64 <<< 4)).setWidth 8
  base2 := ((gdt.base >>> 24) &&& 0xFF#64).setWidth 8

def Gdt.toSystemPart (gdt : Gdt) : RealGdtSystemPart where
  base := ((gdt.base >>> 32) &&& 0xFFFF#64).setWidth 32
  reserved := 0

/-- The first entry is none, whatever its access byte says. -/
def isSystem (i : Nat) (access : BitVec 8) : Bool := i ≠ 0 ∧ access &&& GDT_ACCESS_SYSTEM = 0

/-- `memcpy` of a record to a slot. -/
def putSlot {α : Type} (layout : Layout α) (realGdtCounter : Nat) (record : α) : GdtM Unit :=
  Lens.run ⟨(·.realGdt), fun state realGdt => { state with realGdt }⟩
    (put (realGdtLayout.size * BOBAOS_GDT_ENTRIES) .outOfBounds (realGdtLayout.size * realGdtCounter)
      (layout.bytes record) layout.size 0)

/-- The loop of `toRealGdt`, at an entry and a slot. -/
def toRealGdtFrom (gdt : Nat → Gdt) : Nat → Nat → Nat → GdtM Unit
  | 0, _, _ => return
  | left + 1, i, realGdtCounter => do
    putSlot realGdtLayout realGdtCounter (gdt i).toReal
    if isSystem i (gdt i).access then
      modify fun state => { state with totalSystemDescriptors := state.totalSystemDescriptors + 1 }
      putSlot systemPartLayout (realGdtCounter + 1) (gdt i).toSystemPart
      toRealGdtFrom gdt left (i + 1) (realGdtCounter + 2)
    else toRealGdtFrom gdt left (i + 1) (realGdtCounter + 1)

def toRealGdt (gdt : Nat → Gdt) : GdtM Unit := toRealGdtFrom gdt BOBAOS_GDT_ENTRIES 0 0

end Code

/-! ## The table is read -/

/-- What a slot says by the layout of descriptors. -/
def RealGdt.entry (real : RealGdt) : Gdt where
  limit := real.limit1.setWidth 64 ||| ((real.limit2_flags &&& 0xF#8).setWidth 64 <<< 16)
  base := (real.base1_access &&& 0xFFFFFF#32).setWidth 64 ||| (real.base2.setWidth 64 <<< 24)
  access := (real.base1_access >>> 24).setWidth 8
  flags := real.limit2_flags >>> 4

/-- The second slot of a system descriptor has the upper half of the base. -/
def Gdt.withUpper (entry : Gdt) (part : RealGdtSystemPart) : Gdt :=
  { entry with base := entry.base ||| (part.base.setWidth 64 <<< 32) }

/-- The entries of a table from a slot on. -/
def readEntries (table : Nat → UInt8) : Nat → Nat → Nat → List Gdt
  | 0, _, _ => []
  | left + 1, i, slot =>
    let entry := (RealGdt.parse (slice table (8 * slot))).entry
    if isSystem i entry.access then
      entry.withUpper (RealGdtSystemPart.parse (slice table (8 * (slot + 1)))) ::
        readEntries table left (i + 1) (slot + 2)
    else entry :: readEntries table left (i + 1) (slot + 1)

/-! ## What an entry is read back as -/

section Entries

variable (gdt : Gdt)

theorem toReal_limit1 : gdt.toReal.limit1.toNat = gdt.limit.toNat % 2 ^ 16 := by
  rw [Gdt.toReal, BitVec.toNat_setWidth, toNat_and_mask (k := 16) _ rfl, Nat.mod_mod]

theorem toReal_base1_access : gdt.toReal.base1_access.toNat =
    gdt.base.toNat % 2 ^ 24 + 2 ^ 24 * gdt.access.toNat := by
  have access := gdt.access.isLt
  have low : (gdt.base &&& 0xFFFFFF#64).toNat = gdt.base.toNat % 2 ^ 24 :=
    toNat_and_mask (k := 24) _ rfl
  have above : ((gdt.access.setWidth 32 <<< 24).setWidth 64).toNat = 2 ^ 24 * gdt.access.toNat := by
    simp only [BitVec.toNat_setWidth, BitVec.toNat_shiftLeft, Nat.shiftLeft_eq]
    omega
  rw [Gdt.toReal, BitVec.toNat_setWidth,
    toNat_or_above (k := 24) (by rw [low]; exact Nat.mod_lt _ (by decide)) above, low]
  omega

theorem toReal_limit2_flags : gdt.toReal.limit2_flags.toNat =
    gdt.limit.toNat / 2 ^ 16 % 2 ^ 4 + 2 ^ 4 * (gdt.flags.toNat % 2 ^ 4) := by
  have flags := gdt.flags.isLt
  have low : (gdt.limit >>> 16 &&& 0xF#64).toNat = gdt.limit.toNat / 2 ^ 16 % 2 ^ 4 := by
    rw [toNat_and_mask (k := 4) _ rfl, BitVec.toNat_ushiftRight, Nat.shiftRight_eq_div_pow]
  have above : (gdt.flags.setWidth 64 <<< 4).toNat = 2 ^ 4 * gdt.flags.toNat := by
    simp only [BitVec.toNat_setWidth, BitVec.toNat_shiftLeft, Nat.shiftLeft_eq]
    omega
  rw [Gdt.toReal, BitVec.toNat_setWidth,
    toNat_or_above (k := 4) (by rw [low]; exact Nat.mod_lt _ (by decide)) above, low]
  omega

theorem toReal_base2 : gdt.toReal.base2.toNat = gdt.base.toNat / 2 ^ 24 % 2 ^ 8 := by
  rw [Gdt.toReal, BitVec.toNat_setWidth, toNat_and_mask (k := 8) _ rfl, Nat.mod_mod,
    BitVec.toNat_ushiftRight, Nat.shiftRight_eq_div_pow]

theorem entry_limit : gdt.toReal.entry.limit.toNat = gdt.limit.toNat % 2 ^ 20 := by
  have limit1 := toReal_limit1 gdt
  have low : (gdt.toReal.limit1.setWidth 64).toNat = gdt.limit.toNat % 2 ^ 16 := by
    rw [BitVec.toNat_setWidth, limit1]
    omega
  have above : ((gdt.toReal.limit2_flags &&& 0xF#8).setWidth 64 <<< 16).toNat =
      2 ^ 16 * (gdt.limit.toNat / 2 ^ 16 % 2 ^ 4) := by
    simp only [BitVec.toNat_setWidth, BitVec.toNat_shiftLeft, Nat.shiftLeft_eq]
    rw [toNat_and_mask (k := 4) _ rfl, toReal_limit2_flags]
    omega
  rw [RealGdt.entry, toNat_or_above (k := 16) (by rw [low]; exact Nat.mod_lt _ (by decide)) above, low]
  omega

theorem entry_base : gdt.toReal.entry.base.toNat = gdt.base.toNat % 2 ^ 32 := by
  have low : ((gdt.toReal.base1_access &&& 0xFFFFFF#32).setWidth 64).toNat = gdt.base.toNat % 2 ^ 24 := by
    rw [BitVec.toNat_setWidth, toNat_and_mask (k := 24) _ rfl, toReal_base1_access]
    omega
  have above : (gdt.toReal.base2.setWidth 64 <<< 24).toNat =
      2 ^ 24 * (gdt.base.toNat / 2 ^ 24 % 2 ^ 8) := by
    simp only [BitVec.toNat_setWidth, BitVec.toNat_shiftLeft, Nat.shiftLeft_eq, toReal_base2]
    omega
  rw [RealGdt.entry, toNat_or_above (k := 24) (by rw [low]; exact Nat.mod_lt _ (by decide)) above, low]
  omega

theorem entry_access : gdt.toReal.entry.access = gdt.access := by
  apply BitVec.eq_of_toNat_eq
  have access := gdt.access.isLt
  rw [RealGdt.entry, BitVec.toNat_setWidth, BitVec.toNat_ushiftRight, Nat.shiftRight_eq_div_pow,
    toReal_base1_access]
  omega

theorem entry_flags : gdt.toReal.entry.flags.toNat = gdt.flags.toNat % 2 ^ 4 := by
  rw [RealGdt.entry, BitVec.toNat_ushiftRight, Nat.shiftRight_eq_div_pow, toReal_limit2_flags]
  omega

/-- The second slot has no more than sixteen bits of the upper half. -/
theorem withUpper_base : (gdt.toReal.entry.withUpper gdt.toSystemPart).base.toNat =
    gdt.base.toNat % 2 ^ 48 := by
  have low := entry_base gdt
  have above : (gdt.toSystemPart.base.setWidth 64 <<< 32).toNat =
      2 ^ 32 * (gdt.base.toNat / 2 ^ 32 % 2 ^ 16) := by
    simp only [Gdt.toSystemPart, BitVec.toNat_setWidth, BitVec.toNat_shiftLeft, Nat.shiftLeft_eq]
    rw [toNat_and_mask (k := 16) _ rfl, BitVec.toNat_ushiftRight, Nat.shiftRight_eq_div_pow]
    omega
  rw [Gdt.withUpper, toNat_or_above (k := 32) (by rw [low]; exact Nat.mod_lt _ (by decide)) above, low]
  omega

/-- What is read where an entry was written. -/
def readBack (i : Nat) : Gdt :=
  if isSystem i gdt.access then gdt.toReal.entry.withUpper gdt.toSystemPart else gdt.toReal.entry

/-- The bits of a base that are written. -/
def baseBits (i : Nat) : Nat := if isSystem i gdt.access then 48 else 32

/-- An entry is read back unless its base has more bits. -/
theorem readBack_eq_iff (limit : gdt.limit.toNat < 2 ^ 20) (flags : gdt.flags.toNat < 2 ^ 4)
    (i : Nat) : readBack gdt i = gdt ↔ gdt.base.toNat < 2 ^ baseBits gdt i := by
  have base_value : (readBack gdt i).base.toNat = gdt.base.toNat % 2 ^ baseBits gdt i := by
    rw [readBack, baseBits]
    split
    · exact withUpper_base gdt
    · exact entry_base gdt
  have others : (readBack gdt i).limit = gdt.limit ∧ (readBack gdt i).access = gdt.access ∧
      (readBack gdt i).flags = gdt.flags := by
    have same_limit : gdt.toReal.entry.limit = gdt.limit :=
      BitVec.eq_of_toNat_eq (by rw [entry_limit, Nat.mod_eq_of_lt limit])
    have same_flags : gdt.toReal.entry.flags = gdt.flags :=
      BitVec.eq_of_toNat_eq (by rw [entry_flags, Nat.mod_eq_of_lt flags])
    rw [readBack]
    split
    · exact ⟨same_limit, entry_access gdt, same_flags⟩
    · exact ⟨same_limit, entry_access gdt, same_flags⟩
  constructor
  · intro same
    rw [← congrArg Gdt.base same, base_value]
    exact Nat.mod_lt _ (Nat.two_pow_pos _)
  · intro small
    rw [Nat.mod_eq_of_lt small] at base_value
    obtain ⟨limit, access, flags⟩ := others
    have base := BitVec.eq_of_toNat_eq base_value
    generalize readBack gdt i = read at *
    cases read
    simp_all

end Entries

/-! ## What a table is read back as -/

section Tables

variable {gdt : Nat → Gdt}

/-- The system descriptors among some entries: the slots that they take beside their own. -/
def systemCount (gdt : Nat → Gdt) : Nat → Nat → Nat
  | 0, _ => 0
  | left + 1, i => (if isSystem i (gdt i).access then 1 else 0) + systemCount gdt left (i + 1)

theorem systemCount_zero_iff (left : Nat) : ∀ i, systemCount gdt left i = 0 ↔
    ∀ k, i ≤ k → k < i + left → isSystem k (gdt k).access = false := by
  induction left with
  | zero =>
    intro i
    simp only [systemCount, true_iff]
    intro k least most
    omega
  | succ left ih =>
    intro i
    rw [systemCount, Nat.add_eq_zero_iff, ih]
    constructor
    · rintro ⟨first, others⟩ k least most
      rcases Nat.eq_or_lt_of_le least with rfl | later
      · simpa using first
      · exact others k later (by omega)
    · intro every
      exact ⟨by simp [every i (Nat.le_refl i) (by omega)],
        fun k least most => every k (by omega) (by omega)⟩

/-- A record fits into its slot, or lies outside the real table. -/
theorem putSlot_meets {α : Type} {layout : Layout α} (eight : layout.size = 8) (slot : Nat)
    (record : α) (state : GdtState) :
    Meets (putSlot layout slot record) state (fun _ => BOBAOS_GDT_ENTRIES ≤ slot) fun _ after =>
      slot < BOBAOS_GDT_ENTRIES ∧
        after.realGdt = overwrite state.realGdt (8 * slot) 8 (layout.bytes record) := by
  have size : realGdtLayout.size = 8 := rfl
  rw [putSlot, meets_lens, eight, size]
  apply ((put_meets (8 * slot) (layout.bytes record) 8 0 state.realGdt).mono_fault ?_).mono ?_
  · rintro problem ⟨-, beyond⟩
    omega
  · rintro _ after ⟨fits, rfl⟩
    rw [slice_zero]
    exact ⟨by omega, rfl⟩

/-- A record is read back from its slot as long as the slot is kept. -/
theorem slot_record {α : Type} {layout : Layout α} (eight : layout.size = 8) {slot : Nat}
    {table before : Nat → UInt8} {record : α}
    (kept : ∀ tested < 8 * (slot + 1), table tested =
      overwrite before (8 * slot) 8 (layout.bytes record) tested) :
    layout.parse (slice table (8 * slot)) = record := by
  rw [layout.parse_congr _ (layout.bytes record), layout.parse_bytes]
  intro offset inside
  rw [slice_apply, kept _ (by omega)]
  exact slice_overwrite _ _ _ _ _ (by omega)

/-- What the entries from one on are read back as. -/
def entriesFrom (gdt : Nat → Gdt) (left i : Nat) : List Gdt :=
  (List.range' i left).map fun k => readBack (gdt k) k

/-- The loop runs out of the real table exactly where the entries need more slots than are
left, and otherwise the entries are read back. -/
theorem toRealGdtFrom_meets (left : Nat) : ∀ (i slot : Nat) (state : GdtState),
    Meets (toRealGdtFrom gdt left i slot) state
      (fun _ => BOBAOS_GDT_ENTRIES < slot + left + systemCount gdt left i) fun _ after =>
        (left = 0 ∨ slot + left + systemCount gdt left i ≤ BOBAOS_GDT_ENTRIES) ∧
          readEntries after.realGdt left i slot = entriesFrom gdt left i ∧
            ∀ tested < 8 * slot, after.realGdt tested = state.realGdt tested := by
  induction left with
  | zero =>
    intro i slot state
    rw [toRealGdtFrom]
    exact .pure ⟨.inl rfl, rfl, fun _ _ => rfl⟩
  | succ left ih =>
    intro i slot state
    have cons : entriesFrom gdt (left + 1) i = readBack (gdt i) i :: entriesFrom gdt left (i + 1) := rfl
    rw [toRealGdtFrom, cons]
    apply ((putSlot_meets rfl slot _ state).mono_fault ?_).bind ?_
    · intro _ beyond
      omega
    rintro _ written ⟨inside, written_table⟩
    rw [meets_ite]
    constructor
    · -- The second slot of a system descriptor comes before the others.
      intro system
      rw [systemCount, if_pos system, meets_bind, meets_modify]
      apply ((putSlot_meets rfl (slot + 1) _ _).mono_fault ?_).bind ?_
      · intro _ beyond
        omega
      rintro _ whole ⟨upper_inside, whole_table⟩
      apply ((ih (i + 1) (slot + 2) whole).mono_fault ?_).mono ?_
      · intro _ beyond
        omega
      rintro _ after ⟨fits, read, kept⟩
      have upper : RealGdtSystemPart.parse (slice after.realGdt (8 * (slot + 1))) =
          (gdt i).toSystemPart := by
        refine @slot_record _ systemPartLayout rfl _ _ written.realGdt _ fun tested below => ?_
        rw [kept tested (by omega), whole_table]
      have low : RealGdt.parse (slice after.realGdt (8 * slot)) = (gdt i).toReal := by
        refine @slot_record _ realGdtLayout rfl _ _ state.realGdt _ fun tested below => ?_
        rw [kept tested (by omega), whole_table, overwrite_outside _ _ _ _ _ (by omega),
          written_table]
      refine ⟨.inr ?_, ?_, fun tested below => ?_⟩
      · rcases fits with rfl | fits
        · simp only [systemCount]
          omega
        · omega
      · simp only [readEntries, low, upper, entry_access, system, if_true, read, readBack]
      · rw [kept tested (by omega), whole_table, overwrite_outside _ _ _ _ _ (by omega),
          written_table, overwrite_outside _ _ _ _ _ (by omega)]
    · intro segment
      rw [systemCount, if_neg segment]
      apply ((ih (i + 1) (slot + 1) written).mono_fault ?_).mono ?_
      · intro _ beyond
        omega
      rintro _ after ⟨fits, read, kept⟩
      have low : RealGdt.parse (slice after.realGdt (8 * slot)) = (gdt i).toReal := by
        refine @slot_record _ realGdtLayout rfl _ _ state.realGdt _ fun tested below => ?_
        rw [kept tested (by omega), written_table]
      refine ⟨.inr ?_, ?_, fun tested below => ?_⟩
      · rcases fits with rfl | fits
        · simp only [systemCount]
          omega
        · omega
      · rw [Bool.not_eq_true] at segment
        simp [readEntries, low, entry_access, segment, read, readBack]
      · rw [kept tested (by omega), written_table, overwrite_outside _ _ _ _ _ (by omega)]

/-- All writes lie inside the real table and every entry is read back, if and only if no entry
but the first is a system descriptor and every base has 32 bits. -/
theorem toRealGdt_read_back_iff (limits : ∀ i < BOBAOS_GDT_ENTRIES, (gdt i).limit.toNat < 2 ^ 20)
    (flags : ∀ i < BOBAOS_GDT_ENTRIES, (gdt i).flags.toNat < 2 ^ 4) (state : GdtState) :
    Meets (toRealGdt gdt) state (fun _ => False) (fun _ after =>
      readEntries after.realGdt BOBAOS_GDT_ENTRIES 0 0 =
        (List.range BOBAOS_GDT_ENTRIES).map gdt) ↔
    ∀ i < BOBAOS_GDT_ENTRIES, isSystem i (gdt i).access = false ∧ (gdt i).base.toNat < 2 ^ 32 := by
  have law := @toRealGdtFrom_meets gdt BOBAOS_GDT_ENTRIES 0 0 state
  have back : entriesFrom gdt BOBAOS_GDT_ENTRIES 0 = (List.range BOBAOS_GDT_ENTRIES).map gdt ↔
      ∀ i < BOBAOS_GDT_ENTRIES, (gdt i).base.toNat < 2 ^ baseBits (gdt i) i := by
    rw [entriesFrom, ← List.range_eq_range', List.map_inj_left]
    refine forall_congr' fun i => ?_
    rw [List.mem_range]
    exact imp_congr_right fun inside => readBack_eq_iff _ (limits i inside) (flags i inside) i
  constructor
  · intro meets
    obtain ⟨_, after, ran, read⟩ := meets.returns
    obtain ⟨fits, written, -⟩ := law.returned ran
    have none : systemCount gdt BOBAOS_GDT_ENTRIES 0 = 0 := by
      rcases fits with impossible | fits
      · cases impossible
      · omega
    rw [written, back] at read
    intro i inside
    have segment := (systemCount_zero_iff _ _).mp none i (Nat.zero_le i) (by omega)
    have small := read i inside
    rw [baseBits, segment] at small
    exact ⟨segment, small⟩
  · intro every
    have none : systemCount gdt BOBAOS_GDT_ENTRIES 0 = 0 :=
      (systemCount_zero_iff _ _).mpr fun k _ inside => (every k (by omega)).1
    apply (law.mono_fault fun _ beyond => by omega).mono
    rintro _ after ⟨-, written, -⟩
    rw [written, back]
    intro i inside
    rw [baseBits, (every i inside).1]
    exact (every i inside).2

end Tables

/-- A flat table with segments only. -/
def flatTable : Nat → Gdt
  | 0 => ⟨0, 0, 0, 0⟩
  | i => ⟨0xFFFFF, BitVec.ofNat 64 (i * 0x1000), 0x9A, 0x2⟩

theorem flatTable_read_back : Meets (toRealGdt flatTable) ⟨fun _ => 0, 0⟩ (fun _ => False)
    fun _ after => readEntries after.realGdt BOBAOS_GDT_ENTRIES 0 0 =
      (List.range BOBAOS_GDT_ENTRIES).map flatTable :=
  (toRealGdt_read_back_iff (by decide) (by decide) _).mpr (by decide)

/-- The table of the kernel: its last entry is the task state segment. -/
def kernelTable (tss : BitVec 64) : Nat → Gdt
  | 0 => ⟨0, 0, 0, 0⟩
  | 1 => ⟨0, 0, 0x9A, 0x2⟩
  | 2 => ⟨0, 0, 0x92, 0x2⟩
  | 3 => ⟨0, 0, 0xFA, 0x2⟩
  | 4 => ⟨0, 0, 0xF2, 0x2⟩
  | _ => ⟨0x67, tss, 0x89, 0x0⟩

/-- Its second slot lies behind the real table. -/
theorem kernelTable_outside : ¬ Meets (toRealGdt (kernelTable 0x100000)) ⟨fun _ => 0, 0⟩
    (fun _ => False) fun _ after => readEntries after.realGdt BOBAOS_GDT_ENTRIES 0 0 =
      (List.range BOBAOS_GDT_ENTRIES).map (kernelTable 0x100000) := by
  intro meets
  obtain ⟨_, _, ran, -⟩ := meets.returns
  have law := (toRealGdtFrom_meets BOBAOS_GDT_ENTRIES 0 0 _).returned ran
  have one : systemCount (kernelTable 0x100000) BOBAOS_GDT_ENTRIES 0 = 1 := by decide
  rcases law.1 with impossible | fits
  · cases impossible
  · rw [one] at fits
    exact absurd fits (by decide)

end BobaOS.Hardware
