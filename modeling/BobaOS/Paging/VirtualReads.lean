import BobaOS.Library.PackedRecords
import BobaOS.Library.Programs
import BobaOS.Paging.RangeRemaps

/-!
# Reading through page tables

An access to a virtual address is one to the physical address that it translates to, or a
page fault where its page is not present. What a mapped range does for an address is told
by its passes alone: an address on a page that they come to is one of the physical range,
and any other is what it was before.
-/

namespace BobaOS.Paging

open Programs PackedRecords

/-! ## Bytes -/

instance (memory : Memory) (root : BitVec 64) (page : BitVec 36) :
    Decidable (Present memory root page) := inferInstanceAs (Decidable (_ ≠ _))

section Reading

variable {σ ε : Type} (bytes : BitVec 64 → UInt8) (root : BitVec 64) (memory : Memory) (pageFault : ε)

/-- The bytes of the physical memory where the tables show them. -/
def seen (virtual : BitVec 64) : UInt8 := bytes (virtualToPhysical virtual root memory)

def readByte (virtual : BitVec 64) : Program σ ε UInt8 :=
  if Present memory root (pageOf virtual) then return seen bytes root memory virtual
  else throw pageFault

def readBytes : Nat → BitVec 64 → Program σ ε (List UInt8)
  | 0, _ => return []
  | left + 1, virtual => do
    let byte ← readByte bytes root memory pageFault virtual
    let rest ← readBytes left (virtual + 1)
    return byte :: rest

/-- The pages of all bytes of a block are present. -/
def AllPresent (virtual : BitVec 64) (size : Nat) : Prop :=
  ∀ i < size, Present memory root (pageOf (virtual + BitVec.ofNat 64 i))

end Reading

section Laws

variable {σ ε : Type} {bytes : BitVec 64 → UInt8} {root : BitVec 64} {memory : Memory} {pageFault : ε}
  {state : σ} {fault : ε → Prop}

@[simp] theorem meets_readByte {virtual : BitVec 64} {post : UInt8 → σ → Prop} :
    Meets (readByte bytes root memory pageFault virtual) state fault post ↔
      (Present memory root (pageOf virtual) → post (seen bytes root memory virtual) state) ∧
        (¬ Present memory root (pageOf virtual) → fault pageFault) := by
  simp only [readByte, meets_ite, meets_pure, meets_throw]

theorem add_ofNat (start : BitVec 64) (first second : Nat) :
    start + BitVec.ofNat 64 first + BitVec.ofNat 64 second = start + BitVec.ofNat 64 (first + second) := by
  rw [BitVec.add_assoc, ← BitVec.ofNat_add]

theorem add_succ (virtual : BitVec 64) (i : Nat) :
    virtual + 1 + BitVec.ofNat 64 i = virtual + BitVec.ofNat 64 (i + 1) := by
  rw [Nat.add_comm, ← add_ofNat]
  rfl

theorem allPresent_succ {virtual : BitVec 64} {size : Nat} :
    AllPresent root memory virtual (size + 1) ↔
      Present memory root (pageOf virtual) ∧ AllPresent root memory (virtual + 1) size := by
  have here : virtual + BitVec.ofNat 64 0 = virtual := BitVec.add_zero virtual
  constructor
  · intro present
    refine ⟨here ▸ present 0 (Nat.succ_pos size), fun i below => ?_⟩
    rw [add_succ]
    exact present (i + 1) (Nat.succ_lt_succ below)
  · rintro ⟨first, rest⟩ (_ | i) below
    · rwa [here]
    · rw [← add_succ]
      exact rest i (Nat.lt_of_succ_lt_succ below)

theorem window_succ (store : BitVec 64 → UInt8) (address : BitVec 64) (size : Nat) :
    (List.range (size + 1)).map (window store address) =
      store address :: (List.range size).map (window store (address + 1)) := by
  have first : window store address 0 = store address :=
    congrArg store (BitVec.add_zero address)
  have rest : window store (address + 1) = window store address ∘ Nat.succ :=
    funext fun i => congrArg store (add_succ address i)
  rw [List.range_succ_eq_map, List.map_cons, List.map_map, first, rest]

/-- A block is read as it is seen, or one of its pages is not present. -/
theorem readBytes_meets (size : Nat) : ∀ virtual : BitVec 64,
    Meets (readBytes bytes root memory pageFault size virtual) state
      (fun problem => problem = pageFault ∧ ¬ AllPresent root memory virtual size)
      fun read after => after = state ∧ AllPresent root memory virtual size ∧
        read = (List.range size).map (window (seen bytes root memory) virtual) := by
  induction size with
  | zero => exact fun virtual => .pure ⟨rfl, fun i none => absurd none (Nat.not_lt_zero i), rfl⟩
  | succ size ih =>
    intro virtual
    rw [readBytes, meets_bind, meets_readByte]
    constructor
    · intro present
      refine Meets.bind ((ih (virtual + 1)).mono_fault ?_) ?_
      · rintro problem ⟨same, absent⟩
        exact ⟨same, fun all => absent (allPresent_succ.mp all).2⟩
      · rintro rest after ⟨rfl, all, rfl⟩
        exact .pure ⟨rfl, allPresent_succ.mpr ⟨present, all⟩, (window_succ _ _ _).symm⟩
    · exact fun absent => ⟨rfl, fun all => absent (allPresent_succ.mp all).1⟩

end Laws

/-! ## Translations -/

/-- The page of a virtual address is present, and the address translates to the physical
one. -/
structure Translated (root : BitVec 64) (memory : Memory) (virtual physical : BitVec 64) : Prop where
  present : Present memory root (pageOf virtual)
  physical : virtualToPhysical virtual root memory = physical

variable {answers : Nat → BitVec 64} {root : BitVec 64}

theorem Translated.seen {bytes : BitVec 64 → UInt8} {root : BitVec 64} {memory : Memory}
    {virtual physical : BitVec 64} (translated : Translated root memory virtual physical) :
    seen bytes root memory virtual = bytes physical := congrArg bytes translated.physical

/-- That is a matter of the word of the page. -/
theorem WellShaped.translated_iff {state : State} (shaped : WellShaped answers root state)
    (virtual physical : BitVec 64) : Translated root state.memory virtual physical ↔
      Present state.memory root (pageOf virtual) ∧
        frame state.memory root (pageOf virtual) + (virtual &&& FULL_4KB) = physical := by
  have onward (present : Present state.memory root (pageOf virtual)) :
      virtualToPhysical virtual root state.memory =
        frame state.memory root (pageOf virtual) + (virtual &&& FULL_4KB) := by
    rw [shaped.virtualToPhysical_eq, if_neg]
    intro absent
    rw [Present, leafEntry_absent absent] at present
    exact present rfl
  constructor
  · rintro ⟨present, physical⟩
    exact ⟨present, onward present ▸ physical⟩
  · rintro ⟨present, physical⟩
    exact ⟨present, (onward present).trans physical⟩

/-- An address of a page that is present keeps its offset. -/
theorem WellShaped.offset_kept {state : State} (shaped : WellShaped answers root state)
    {virtual : BitVec 64} (present : Present state.memory root (pageOf virtual)) :
    (virtualToPhysical virtual root state.memory).toNat % 4096 = virtual.toNat % 4096 := by
  have translated := ((shaped.translated_iff virtual _).mp ⟨present, rfl⟩).2
  have start := frame_start state.memory root (pageOf virtual)
  rw [← translated, BitVec.toNat_add, pageOffset_toNat]
  omega

/-- Tables with the same word for a page translate its addresses alike. -/
theorem WellShaped.translated_congr {state after : State} (shaped : WellShaped answers root state)
    (also : WellShaped answers root after) {virtual : BitVec 64} (physical : BitVec 64)
    (same : leafEntry after.memory root (pageOf virtual) =
      leafEntry state.memory root (pageOf virtual)) :
    Translated root after.memory virtual physical ↔
      Translated root state.memory virtual physical := by
  rw [also.translated_iff, shaped.translated_iff, Present, Present, frame, frame, same]

/-- An address on a page that is mapped to the page of a physical address at the same offset
translates to it if and only if it is below 2^48. -/
theorem WellShaped.translated_word {state : State} (shaped : WellShaped answers root state)
    {virtual physical : BitVec 64} (aligned : virtual.toNat % 4096 = physical.toNat % 4096)
    (word : leafEntry state.memory root (pageOf virtual) = pageWord physical) :
    Translated root state.memory virtual physical ↔ physical.toNat < 2 ^ 48 := by
  constructor
  · intro translated
    have bound := pageWord_lt physical
    have kept := ((shaped.translated_iff _ _).mp translated).2
    have start := frame_start state.memory root (pageOf virtual)
    rw [frame, word] at kept start
    have below : (pageWord physical &&& ENTRY_ADDRESS).toNat ≤ (pageWord physical).toNat := by
      rw [BitVec.toNat_and]
      exact Nat.and_le_left
    rw [← kept, BitVec.toNat_add, pageOffset_toNat]
    omega
  · intro small
    refine ⟨?_, ?_⟩
    · rw [Present, word]
      exact pageWord_present physical
    · apply BitVec.eq_of_toNat_eq
      rw [virtualToPhysical_mapped shaped virtual small word]
      omega

/-! ## Ranges -/

theorem downToPage_toNat (address : BitVec 64) :
    (downToPage address).toNat = address.toNat / 4096 * 4096 := by
  have rest : (address % SIZE_4KB).toNat = address.toNat % 4096 := by
    rw [BitVec.toNat_umod]
    rfl
  rw [downToPage]
  split_ifs with whole
  · rw [BitVec.toNat_eq, rest] at whole
    have zero : (0 : BitVec 64).toNat = 0 := rfl
    omega
  · rw [BitVec.toNat_sub, rest]
    have small := address.isLt
    omega

theorem downToPage_whole (address : BitVec 64) : (downToPage address).toNat % 4096 = 0 := by
  rw [downToPage_toNat]
  omega

section Window

variable (physStart virtStart size : BitVec 64)

/-- The passes come to the page at an offset. -/
def ComesTo (offset : BitVec 64) : Prop :=
  ∃ c < passes size, pageOf (virtStart + offset) = pageOf (virtStart + counterOffset c)

/-- The address at an offset of a range translates as asked when the range has been mapped:
by its pass, or as before if there is none. -/
structure Shown (root : BitVec 64) (memory : Memory) (offset : BitVec 64) : Prop where
  mapped : ComesTo virtStart size offset → (physStart + offset).toNat < 2 ^ 48
  missed : ¬ ComesTo virtStart size offset →
    Translated root memory (virtStart + offset) (physStart + offset)

end Window

section Window

variable {physStart virtStart size : BitVec 64} {state after : State}

theorem pageOf_start_add {start : BitVec 64} (whole : start.toNat % 4096 = 0) (offset : BitVec 64) :
    pageOf (start + offset) = pageOf start + pageOf offset := by
  rw [BitVec.add_comm, pageOf_add_whole _ _ whole, BitVec.add_comm]

/-- The word of a page that the passes come to is the one of the page at its offset. -/
theorem RangeMapped.word (mapped : RangeMapped answers root physStart virtStart 0 (passes size) state after)
    (phys_whole : physStart.toNat % 4096 = 0) (virt_whole : virtStart.toNat % 4096 = 0)
    {offset : BitVec 64} (comes : ComesTo virtStart size offset) :
    leafEntry after.memory root (pageOf (virtStart + offset)) = pageWord (physStart + offset) := by
  obtain ⟨c, below, same⟩ := comes
  rw [same, mapped.written c (Nat.zero_le c) below]
  rw [pageOf_start_add virt_whole, pageOf_start_add virt_whole, BitVec.add_right_inj] at same
  rw [pageWord, pageWord, pageOf_start_add phys_whole, pageOf_start_add phys_whole, same]

theorem RangeMapped.translated_iff (shaped : WellShaped answers root state)
    (mapped : RangeMapped answers root physStart virtStart 0 (passes size) state after)
    (phys_whole : physStart.toNat % 4096 = 0) (virt_whole : virtStart.toNat % 4096 = 0)
    (offset : BitVec 64) :
    Translated root after.memory (virtStart + offset) (physStart + offset) ↔
      Shown physStart virtStart size root state.memory offset := by
  have aligned : (virtStart + offset).toNat % 4096 = (physStart + offset).toNat % 4096 := by
    rw [BitVec.toNat_add, BitVec.toNat_add]
    omega
  by_cases comes : ComesTo virtStart size offset
  · rw [mapped.shaped.translated_word aligned (mapped.word phys_whole virt_whole comes)]
    exact ⟨fun small => ⟨fun _ => small, absurd comes⟩, fun shown => shown.mapped comes⟩
  · rw [shaped.translated_congr mapped.shaped _ (mapped.others _ fun c _ below same =>
      comes ⟨c, below, same⟩)]
    exact ⟨fun before => ⟨fun met => absurd met comes, fun _ => before⟩, fun shown => shown.missed comes⟩

/-- Of a range of up to 2 GiB, the passes come to the pages of its size, and to one page at
least. -/
theorem comesTo_iff (virt_whole : virtStart.toNat % 4096 = 0) (whole : size.toNat % 4096 = 0)
    (small : size.toNat ≤ 2 ^ 31) {offset : BitVec 64} (near : offset.toNat < 2 ^ 48) :
    ComesTo virtStart size offset ↔ offset.toNat < max 4096 size.toNat := by
  have count : passes size = max 1 (size.toNat / 4096) := by
    rw [passes, pages]
    omega
  have page {c : Nat} (below : c < passes size) : pageOf (virtStart + offset) =
      pageOf (virtStart + counterOffset c) ↔ offset.toNat / 4096 = c := by
    rw [pageOf_start_add virt_whole, pageOf_start_add virt_whole, BitVec.add_right_inj,
      counterOffset_small c (by omega), BitVec.toNat_eq, pageOf_toNat, pageOf_toNat,
      BitVec.toNat_ofNat]
    omega
  constructor
  · rintro ⟨c, below, same⟩
    have here := (page below).mp same
    omega
  · intro inside
    have below : offset.toNat / 4096 < passes size := by omega
    exact ⟨_, below, (page below).mpr rfl⟩

end Window

end BobaOS.Paging
