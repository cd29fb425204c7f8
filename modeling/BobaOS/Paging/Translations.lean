import BobaOS.Paging.PageRanges

/-!
# Translations

`virtualToPhysical` follows the three tables above a page and tests each of them, but
not the leaf. Where the page table is there for another page, an address that is not
mapped translates to its offset. The start of a page translates right in any case.
-/

namespace BobaOS.Paging

open Runs TableTree

variable {answers : Nat → BitVec 64} {root : BitVec 64}

/-! ## One translation -/

/-- A missing table on the way to the page table is reported. -/
theorem getPTTable_absent {memory : Memory} (virtual : BitVec 64)
    (absent : reach memory root (slotsAbove (pageOf virtual)) = none) :
    getPTTable virtual root memory = 0 := by
  have follow (above : BitVec 64) (slot : BitVec 9) : childTable (slots memory above slot) =
      if returnTableEntryNoFlags above (slot.setWidth 16) memory = 0 then none
      else some (returnTableEntryNoFlags above (slot.setWidth 16) memory) := rfl
  rw [getPTTable, getPml4Index_page, getPdpIndex_page, getPdIndex_page]
  simp only [reach, tableAt, slotsAbove, List.foldlM_cons, List.foldlM_nil, follow] at absent
  dsimp only
  split_ifs with first second
  · rfl
  · rfl
  · by_contra third
    simp only [if_neg first, if_neg second, if_neg third, Option.bind_eq_bind, Option.bind_some] at absent
    cases absent

/-- An address translates if it has a page table: to the frame of its page, be it mapped or
not, and its offset. -/
theorem WellShaped.virtualToPhysical_eq {state : State} (shaped : WellShaped answers root state)
    (virtual : BitVec 64) : virtualToPhysical virtual root state.memory =
      if reach state.memory root (slotsAbove (pageOf virtual)) = none then 0
      else frame state.memory root (pageOf virtual) + (virtual &&& FULL_4KB) := by
  cases reached : reach state.memory root (slotsAbove (pageOf virtual)) with
  | none => simp [virtualToPhysical, getPTTable_absent virtual reached]
  | some table =>
    have nonzero := (shaped.owned _ table (slotsAbove_length _).le reached).1
    rw [virtualToPhysical, shaped.getPTTable virtual reached, frame, leafEntry_reached reached]
    simp only [if_neg nonzero, reduceCtorEq, if_false, returnTableEntryNoFlags, getPtIndex_page, slots]

/-- An address at the start of a page translates to the frame of the page. -/
theorem WellShaped.virtualToPhysical_start {state : State} (shaped : WellShaped answers root state)
    (virtual : BitVec 64) (start : virtual &&& FULL_4KB = 0) :
    virtualToPhysical virtual root state.memory = frame state.memory root (pageOf virtual) := by
  rw [shaped.virtualToPhysical_eq, start]
  split_ifs with absent
  · rw [frame, leafEntry_absent absent]
    rfl
  · exact BitVec.add_zero _

/-! ## Tables that mappings build -/

/-- A call of `mapOrCreateRange` and the code it returned. -/
structure Mapping where
  physStart : BitVec 64
  virtStart : BitVec 64
  size : BitVec 64
  code : Code

/-- An empty table, and the mappings that have returned. -/
def tables (answers : Nat → BitVec 64) (root : BitVec 64) : System State Mapping where
  start state := root ≠ 0 ∧ ∃ before, createEmptyPageTable answers before = (root, state)
  step state call after :=
    mapOrCreateRange answers root call.physStart call.virtStart call.size state = some (call.code, after)

/-- The tables are a tree, and its leaves are empty or the words of mappings. -/
structure Built (answers : Nat → BitVec 64) (root : BitVec 64) (state : State) : Prop where
  shaped : WellShaped answers root state
  leaves : ∀ page, leafEntry state.memory root page = 0 ∨
    ∃ physical, leafEntry state.memory root page = pageWord physical

theorem built_invariant (fresh : FreshPages answers) :
    (tables answers root).Invariant fun _ state => Built answers root state where
  initially := by
    rintro state ⟨nonzero, before, created⟩
    refine ⟨createEmptyPageTable_shaped fresh created nonzero, fun page => .inl ?_⟩
    refine leafEntry_absent (Option.eq_none_iff_forall_ne_some.mpr fun table reached => ?_)
    cases (createEmptyPageTable_reach fresh created nonzero reached).1
  preserved _ state after call built stepped := by
    have ran : mapOrCreateRange answers root call.physStart call.virtStart call.size state =
      some (call.code, after) := stepped
    rcases mapOrCreateRange_law fresh call.physStart call.virtStart call.size built.shaped with
      ⟨endless, -⟩ | ⟨code, other, last, result, mapped, -⟩
    · rw [endless] at ran
      cases ran
    · rw [result] at ran
      obtain ⟨-, rfl⟩ := Prod.mk.inj (Option.some.inj ran)
      refine ⟨mapped.shaped, fun page => ?_⟩
      by_cases met : ∃ c < last, page = pageOf (call.virtStart + counterOffset c)
      · obtain ⟨c, below, rfl⟩ := met
        exact .inr ⟨_, mapped.written c (Nat.zero_le c) below⟩
      · rw [mapped.others page fun c _ below same => met ⟨c, below, same⟩]
        exact built.leaves page

/-- The page is present. -/
def Present (memory : Memory) (root : BitVec 64) (page : BitVec 36) : Prop :=
  leafEntry memory root page &&& PAGING_FLAG_P.setWidth 64 ≠ 0

theorem pageWord_present (physical : BitVec 64) :
    pageWord physical &&& PAGING_FLAG_P.setWidth 64 ≠ 0 := by
  intro zero
  have bit : (pageWord physical &&& PAGING_FLAG_P.setWidth 64).getLsbD 0 = true := by
    rw [BitVec.getLsbD_and, pageWord_bit]
    rfl
  rw [zero] at bit
  cases bit

/-- An address of a page that is present translates to the frame and the offset, another one
to NULL. -/
def Translates (root : BitVec 64) (memory : Memory) (virtual : BitVec 64) : Prop :=
  (Present memory root (pageOf virtual) →
    virtualToPhysical virtual root memory = frame memory root (pageOf virtual) + (virtual &&& FULL_4KB)) ∧
  (¬ Present memory root (pageOf virtual) → virtualToPhysical virtual root memory = 0)

/-- In a table that mappings have built, an address is translated right if its page is
present or has no page table, or if it is the start of its page. -/
theorem translates_iff (fresh : FreshPages answers) (past : List Mapping) (state : State)
    (reached : (tables answers root).Reaches past state) (virtual : BitVec 64) :
    Translates root state.memory virtual ↔ Present state.memory root (pageOf virtual) ∨
      reach state.memory root (slotsAbove (pageOf virtual)) = none ∨ virtual &&& FULL_4KB = 0 := by
  have built := (built_invariant fresh).reached reached
  rw [Translates, built.shaped.virtualToPhysical_eq]
  by_cases absent : reach state.memory root (slotsAbove (pageOf virtual)) = none
  · have missing : ¬ Present state.memory root (pageOf virtual) := by
      rw [Present, leafEntry_absent absent]
      decide
    simp [absent, missing]
  · by_cases present : Present state.memory root (pageOf virtual)
    · simp [absent, present]
    · have empty : frame state.memory root (pageOf virtual) = 0 := by
        rcases built.leaves (pageOf virtual) with empty | ⟨physical, word⟩
        · rw [frame, empty]
          rfl
        · rw [Present, word] at present
          exact absurd (pageWord_present physical) present
      have offset : (0 : BitVec 64) + (virtual &&& FULL_4KB) = virtual &&& FULL_4KB := BitVec.zero_add _
      simp only [absent, present, empty, offset, if_false, false_or, false_implies, true_and,
        not_false_eq_true, true_implies]

/-- The table of the heap of sixteen pages in which one page has been mapped. -/
def pageTable : State := (mapPage sixteenPages 0x600000 0x7000 0x5000 firstTable).2

theorem pageTable_built : (tables sixteenPages 0x600000).Reaches
    [⟨0x7000, 0x5000, SIZE_4KB, SUCCESS⟩] pageTable := by
  have succeeded : (mapPage sixteenPages 0x600000 0x7000 0x5000 firstTable).1 = SUCCESS := by
    decide +kernel
  have begun : (tables sixteenPages 0x600000).Reaches [] firstTable :=
    .start _ ⟨by decide, ⟨fun _ => 0, 0⟩, rfl⟩
  refine System.Reaches.step [] _ _ ⟨0x7000, 0x5000, SIZE_4KB, SUCCESS⟩ begun ?_
  show mapOrCreateRange sixteenPages 0x600000 0x7000 0x5000 SIZE_4KB firstTable = _
  rw [mapOrCreateRange_page, ← succeeded]
  rfl

/-- An address of the page translates right. -/
theorem mapped_address_translates : Translates 0x600000 pageTable.memory 0x5123 :=
  (translates_iff sixteenPages_fresh _ pageTable pageTable_built 0x5123).mpr (.inl (by
    rw [Present]
    decide +kernel))

/-- One of the page behind it, which is not present, translates to its offset. -/
theorem unmapped_address_translates :
    (tables sixteenPages 0x600000).Reaches [⟨0x7000, 0x5000, SIZE_4KB, SUCCESS⟩] pageTable ∧
    ¬ Present pageTable.memory 0x600000 (pageOf 0x6123) ∧
    virtualToPhysical 0x6123 0x600000 pageTable.memory = 0x123 ∧
    ¬ Translates 0x600000 pageTable.memory 0x6123 := by
  have absent : ¬ Present pageTable.memory 0x600000 (pageOf 0x6123) := by
    rw [Present]
    decide +kernel
  have offset : virtualToPhysical 0x6123 0x600000 pageTable.memory = 0x123 := by
    decide +kernel
  refine ⟨pageTable_built, absent, offset, fun translates => ?_⟩
  have null := translates.2 absent
  rw [offset] at null
  exact absurd null (by decide)

end BobaOS.Paging
