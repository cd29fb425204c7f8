import BobaOS.Library.BitFields
import BobaOS.Paging.PageMap
import BobaOS.Paging.TableRequests

/-!
# Ranges of pages

`mapOrCreateRange` counts the pages of a range with an `int` and multiplies it with
the size of a page in 32 bits. Below 2 GiB that is the offset of the page. From there
on it is negative, so that pages in front of the range are mapped instead.
-/

namespace BobaOS.Paging

open Runs TableTree

variable {answers : Nat → BitVec 64} {root : BitVec 64}

/-! ## Offsets -/

/-- The page that many pages behind an address. -/
theorem pageOf_add (virtual : BitVec 64) (count : Nat) :
    pageOf (virtual + BitVec.ofNat 64 (4096 * count)) = pageOf virtual + BitVec.ofNat 36 count := by
  apply BitVec.eq_of_toNat_eq
  simp only [pageOf, BitVec.toNat_setWidth, BitVec.toNat_ushiftRight, BitVec.toNat_add,
    BitVec.toNat_ofNat, Nat.shiftRight_eq_div_pow]
  omega

theorem pageOf_toNat (virtual : BitVec 64) : (pageOf virtual).toNat = virtual.toNat / 4096 % 2 ^ 36 := by
  simp [pageOf, Nat.shiftRight_eq_div_pow]

theorem pageOffset_toNat (virtual : BitVec 64) : (virtual &&& FULL_4KB).toNat = virtual.toNat % 4096 :=
  BitFields.toNat_and_mask (k := 12) virtual rfl

/-- A whole number of pages adds its pages. -/
theorem pageOf_add_whole (virtual offset : BitVec 64) (whole : offset.toNat % 4096 = 0) :
    pageOf (virtual + offset) = pageOf virtual + pageOf offset := by
  apply BitVec.eq_of_toNat_eq
  rw [BitVec.toNat_add, pageOf_toNat, pageOf_toNat, pageOf_toNat, BitVec.toNat_add]
  omega

theorem pageWord_congr {left right : BitVec 64} (same : left.toNat / 4096 = right.toNat / 4096) :
    pageWord left = pageWord right := by
  have pages : pageOf left = pageOf right := by
    apply BitVec.eq_of_toNat_eq
    rw [pageOf_toNat, pageOf_toNat, same]
  rw [pageWord, pageWord, pages]

/-- The offset that the `int` gives for a page. -/
def counterOffset (count : Nat) : BitVec 64 := (BitVec.ofNat 32 count * 0x1000).signExtend 64

theorem counterOffset_toNat (count : Nat) : (counterOffset count).toNat =
    if count % 2 ^ 20 < 2 ^ 19 then 4096 * (count % 2 ^ 20)
    else 2 ^ 64 - 2 ^ 32 + 4096 * (count % 2 ^ 20) := by
  have product : (BitVec.ofNat 32 count * 0x1000).toNat = 4096 * (count % 2 ^ 20) := by
    simp only [BitVec.toNat_mul, BitVec.toNat_ofNat, show (0x1000 : BitVec 32).toNat = 4096 from rfl]
    omega
  have negative : (BitVec.ofNat 32 count * 0x1000).msb = decide (2 ^ 19 ≤ count % 2 ^ 20) := by
    rw [BitVec.msb_eq_decide, product]
    congr 1
    rw [eq_iff_iff]
    omega
  rw [counterOffset, BitVec.toNat_signExtend, BitVec.toNat_setWidth, product, negative]
  by_cases below : count % 2 ^ 20 < 2 ^ 19
  · rw [if_pos below, decide_eq_false (by omega), if_neg Bool.false_ne_true]
    omega
  · rw [if_neg below, decide_eq_true (by omega), if_pos rfl]
    omega

theorem counterOffset_whole (count : Nat) : (counterOffset count).toNat % 4096 = 0 := by
  rw [counterOffset_toNat]
  split_ifs <;> omega

/-- It is the offset of the page below 2 GiB. -/
theorem counterOffset_small (count : Nat) (small : 4096 * count < 2 ^ 31) :
    counterOffset count = BitVec.ofNat 64 (4096 * count) := by
  apply BitVec.eq_of_toNat_eq
  rw [counterOffset_toNat, BitVec.toNat_ofNat, if_pos (by omega)]
  omega

/-- No page has the offset 2 GiB. -/
theorem counterOffset_ne (virtual : BitVec 64) (count : Nat) :
    pageOf (virtual + counterOffset count) ≠ pageOf (virtual + BitVec.ofNat 64 (4096 * 2 ^ 19)) := by
  rw [pageOf_add_whole _ _ (counterOffset_whole count), pageOf_add, ne_eq, BitVec.toNat_eq,
    BitVec.toNat_add, BitVec.toNat_add, pageOf_toNat (counterOffset count), counterOffset_toNat,
    BitVec.toNat_ofNat]
  have bound := (pageOf virtual).isLt
  split_ifs <;> omega

/-! ## The loop -/

/-- The pages with these numbers have been mapped, and no others. -/
structure RangeMapped (answers : Nat → BitVec 64) (root physStart virtStart : BitVec 64)
    (first last : Nat) (before after : State) : Prop where
  shaped : WellShaped answers root after
  written : ∀ c, first ≤ c → c < last →
    leafEntry after.memory root (pageOf (virtStart + counterOffset c)) =
      pageWord (physStart + counterOffset c)
  others : ∀ page, (∀ c, first ≤ c → c < last → page ≠ pageOf (virtStart + counterOffset c)) →
    leafEntry after.memory root page = leafEntry before.memory root page

section Loop

variable (physStart virtStart : BitVec 64)

/-- Offsets that come to one page are those of one word. -/
theorem same_word {left right : BitVec 64} (whole : left.toNat % 4096 = 0)
    (whole' : right.toNat % 4096 = 0) (same : pageOf (virtStart + left) = pageOf (virtStart + right)) :
    pageWord (physStart + left) = pageWord (physStart + right) := by
  rw [pageOf_add_whole _ _ whole, pageOf_add_whole _ _ whole'] at same
  have offsets : pageOf left = pageOf right := by
    rw [BitVec.toNat_eq, BitVec.toNat_add, BitVec.toNat_add] at same
    have bound := (pageOf left).isLt
    have bound' := (pageOf right).isLt
    apply BitVec.eq_of_toNat_eq
    omega
  rw [pageWord, pageWord, pageOf_add_whole _ _ whole, pageOf_add_whole _ _ whole', offsets]

variable {physStart virtStart} {first last : Nat} {state next after : State}

/-- A pass and the passes after it. -/
theorem RangeMapped.cons (some : first < last)
    (maps : Maps answers root state next (pageOf (virtStart + counterOffset first))
      (pageWord (physStart + counterOffset first)))
    (rest : RangeMapped answers root physStart virtStart (first + 1) last next after) :
    RangeMapped answers root physStart virtStart first last state after where
  shaped := rest.shaped
  written c above below := by
    by_cases later : ∃ d, first + 1 ≤ d ∧ d < last ∧
        pageOf (virtStart + counterOffset c) = pageOf (virtStart + counterOffset d)
    · obtain ⟨d, above', below', same⟩ := later
      rw [same, rest.written d above' below',
        same_word physStart virtStart (counterOffset_whole c) (counterOffset_whole d) same]
    · have here : c = first := by
        by_contra other
        exact later ⟨c, by omega, below, rfl⟩
      rw [rest.others _ fun d above' below' same => later ⟨d, above', below', same⟩, maps.leaves,
        here, if_pos rfl]
  others page unmet := by
    rw [rest.others page fun d above below => unmet d (by omega) below, maps.leaves,
      if_neg (unmet first (Nat.le_refl _) some)]

/-- Where no leaf changes, no page has been mapped. -/
theorem Extends.rangeMapped (extended : Extends answers root state after) (first : Nat) :
    RangeMapped answers root physStart virtStart first first state after where
  shaped := extended.shaped
  written _ above below := absurd below (Nat.not_lt.mpr above)
  others page _ := extended.leaves page

/-- Where one page has been mapped, it is the only one. -/
theorem Maps.rangeMapped
    (maps : Maps answers root state after (pageOf (virtStart + counterOffset first))
      (pageWord (physStart + counterOffset first))) :
    RangeMapped answers root physStart virtStart first (first + 1) state after where
  shaped := maps.shaped
  written c above below := by
    obtain rfl : c = first := by omega
    rw [maps.leaves, if_pos rfl]
  others page unmet := by
    rw [maps.leaves, if_neg (unmet first (Nat.le_refl _) (Nat.lt_succ_self _))]

theorem counter_succ (count : Nat) : BitVec.ofNat 32 count + 1 = BitVec.ofNat 32 (count + 1) := by
  apply BitVec.eq_of_toNat_eq
  simp only [BitVec.toNat_add, BitVec.toNat_ofNat, show (1 : BitVec 32).toNat = 1 from rfl]
  omega

theorem sizeMapped_succ (count : Nat) :
    BitVec.ofNat 64 (4096 * count) + SIZE_4KB = BitVec.ofNat 64 (4096 * (count + 1)) := by
  apply BitVec.eq_of_toNat_eq
  simp only [BitVec.toNat_add, BitVec.toNat_ofNat, show SIZE_4KB.toNat = 4096 from rfl]
  omega

/-- How the loop comes to its end: it has mapped a page and covers the size with the last
one only, or has found the heap full. -/
def Ended (size : BitVec 64) (first last : Nat) (code : Code) : Prop :=
  code = -ENMEM ∨ code = SUCCESS ∧ first < last ∧ size.toNat ≤ 4096 * last ∧
    (last = first + 1 ∨ 4096 * (last - 1) < size.toNat)

/-- The loop maps page by page, by the offsets that its counter gives. It has no end only
where the byte counter overflows. -/
theorem mapOrCreateRangeLoop_law (fresh : FreshPages answers) (physStart virtStart size : BitVec 64)
    (left : Nat) : ∀ (first : Nat) (state : State), WellShaped answers root state →
      first + left ≤ 2 ^ 52 → 0 < left →
      (mapOrCreateRangeLoop answers root physStart virtStart size left (BitVec.ofNat 32 first)
          (BitVec.ofNat 64 (4096 * first)) state = none ∧
        4096 * (first + left) % 2 ^ 64 < size.toNat) ∨
      ∃ code after last,
        mapOrCreateRangeLoop answers root physStart virtStart size left (BitVec.ofNat 32 first)
          (BitVec.ofNat 64 (4096 * first)) state = some (code, after) ∧ first ≤ last ∧
        RangeMapped answers root physStart virtStart first last state after ∧
        Ended size first last code := by
  induction left with
  | zero => exact fun _ _ _ _ none_left => absurd none_left (Nat.lt_irrefl 0)
  | succ left ih =>
    intro first state shaped bounded _
    rw [mapOrCreateRangeLoop, ← counterOffset]
    simp only
    rcases shaped.mapPage fresh (physStart + counterOffset first) (virtStart + counterOffset first)
      with ⟨mapped, maps⟩ | ⟨full, extended⟩
    · rw [pageWord_stored] at maps
      rw [mapped, if_neg (by decide), sizeMapped_succ, counter_succ]
      generalize (mapPage answers root (physStart + counterOffset first)
        (virtStart + counterOffset first) state).2 = next at maps ⊢
      have more : BitVec.ofNat 64 (4096 * (first + 1)) < size ↔
          4096 * (first + 1) % 2 ^ 64 < size.toNat := by
        rw [BitVec.lt_def, BitVec.toNat_ofNat]
      by_cases onward : 4096 * (first + 1) % 2 ^ 64 < size.toNat
      · rw [if_pos (more.mpr onward)]
        by_cases none_left : left = 0
        · subst none_left
          exact .inl ⟨rfl, onward⟩
        · have steps : first + 1 + left = first + (left + 1) := by omega
          have outcome := ih (first + 1) next maps.shaped (by omega) (Nat.pos_of_ne_zero none_left)
          rw [steps] at outcome
          refine outcome.imp_right ?_
          rintro ⟨code, after, last, ran, above, rest, ended⟩
          refine ⟨code, after, last, ran, by omega, rest.cons (by omega) maps, ended.imp_right ?_⟩
          rintro ⟨succeeded, some, covered, exact_end⟩
          exact ⟨succeeded, by omega, covered, .inr (by omega)⟩
      · rw [if_neg fun less => onward (more.mp less)]
        exact .inr ⟨_, next, first + 1, rfl, by omega, maps.rangeMapped, .inr ⟨rfl, by omega,
          by omega, .inl rfl⟩⟩
    · rw [full, if_pos (by decide)]
      exact .inr ⟨_, _, first, rfl, Nat.le_refl _, extended.rangeMapped first, .inl rfl⟩

end Loop

theorem mapOrCreateRange_law (fresh : FreshPages answers) (physStart virtStart size : BitVec 64)
    {state : State} (shaped : WellShaped answers root state) :
    (mapOrCreateRange answers root physStart virtStart size state = none ∧
      2 ^ 64 - 4096 ≤ size.toNat) ∨
    ∃ code after last, mapOrCreateRange answers root physStart virtStart size state = some (code, after) ∧
      RangeMapped answers root physStart virtStart 0 last state after ∧ Ended size 0 last code := by
  have bound := size.isLt
  rcases mapOrCreateRangeLoop_law fresh physStart virtStart size (size.toNat / 4096 + 1) 0 state shaped
    (by omega) (Nat.succ_pos _) with ⟨endless, large⟩ | ⟨code, after, last, ran, -, mapped, ended⟩
  · exact .inl ⟨endless, by omega⟩
  · exact .inr ⟨code, after, last, ran, mapped, ended⟩

/-- The number of the pages of a size. -/
def pages (size : BitVec 64) : Nat := (size.toNat + 4095) / 4096

/-- A size is rounded up to its pages unless that overflows. -/
theorem upToPage_toNat (size : BitVec 64) (small : size.toNat ≤ 2 ^ 64 - 4096) :
    (upToPage size).toNat = 4096 * ((size.toNat + 4095) / 4096) := by
  have part : (size % SIZE_4KB).toNat = size.toNat % 4096 := by
    rw [BitVec.toNat_umod, show SIZE_4KB.toNat = 4096 from rfl]
  have whole : size % SIZE_4KB = 0 ↔ size.toNat % 4096 = 0 := by
    rw [BitVec.toNat_eq, part, show (0 : BitVec 64).toNat = 0 from rfl]
  rw [upToPage]
  split_ifs with aligned
  · have aligned := whole.mp aligned
    omega
  · have unaligned : size.toNat % 4096 ≠ 0 := fun rest => aligned (whole.mpr rest)
    rw [BitVec.toNat_sub, BitVec.toNat_add, part, show SIZE_4KB.toNat = 4096 from rfl]
    omega

/-- The passes for a size: there is one for a size of zero as well. -/
def passes (size : BitVec 64) : Nat := max 1 (pages size)

/-- A range that has been mapped has all its passes behind it. -/
theorem mapOrCreateRange_passes (fresh : FreshPages answers) {physStart virtStart size : BitVec 64}
    {state after : State} (shaped : WellShaped answers root state)
    (ran : mapOrCreateRange answers root physStart virtStart size state = some (SUCCESS, after)) :
    RangeMapped answers root physStart virtStart 0 (passes size) state after := by
  rcases mapOrCreateRange_law fresh physStart virtStart size shaped with
    ⟨endless, -⟩ | ⟨code, other, last, result, mapped, ended⟩
  · rw [endless] at ran
    cases ran
  · rw [result] at ran
    obtain ⟨rfl, rfl⟩ := Prod.mk.inj (Option.some.inj ran)
    have failed : SUCCESS ≠ -ENMEM := by decide
    obtain ⟨-, above, covered, exact_end⟩ := ended.resolve_left failed
    have count : passes size = last := by
      rw [passes, pages]
      omega
    rwa [count]

/-- A size that is not zero has as many passes as pages. -/
theorem mapOrCreateRange_mapped (fresh : FreshPages answers) {physStart virtStart size : BitVec 64}
    {state after : State} (shaped : WellShaped answers root state) (some : 1 ≤ size.toNat)
    (ran : mapOrCreateRange answers root physStart virtStart size state = .some (SUCCESS, after)) :
    RangeMapped answers root physStart virtStart 0 (pages size) state after := by
  have count : passes size = pages size := by
    rw [passes, pages]
    omega
  rw [← count]
  exact mapOrCreateRange_passes fresh shaped ran

/-! ## Translation -/

/-- The page of a mapped address is found again. -/
theorem pageWord_address (physical : BitVec 64) (small : physical.toNat < 2 ^ 48) :
    (pageWord physical &&& ENTRY_ADDRESS).toNat = physical.toNat / 2 ^ 12 * 2 ^ 12 := by
  have bits : pageWord physical &&& ENTRY_ADDRESS =
      BitVec.ofNat 64 (physical.toNat / 2 ^ 12 * 2 ^ 12) := by
    apply BitVec.eq_of_getLsbD_eq
    intro i wide
    rw [BitVec.getLsbD_and, entryAddress_bit i wide, pageWord, BitVec.getLsbD_setWidth,
      BitVec.getLsbD_append, pageOf, BitVec.getLsbD_setWidth, BitVec.getLsbD_ushiftRight,
      BitVec.getLsbD_ofNat, Nat.testBit_mul_two_pow, Nat.testBit_div_two_pow]
    by_cases low : i < 12
    · simp [low, show ¬ 12 ≤ i by omega]
    · have back : 12 + (i - 12) = i := by omega
      have forth : i - 12 + 12 = i := by omega
      by_cases inside : i < 48
      · simp [low, wide, back, forth, show 12 ≤ i by omega, show i - 12 < 36 by omega,
          BitVec.getLsbD]
      · have clear : physical.toNat.testBit i = false :=
          Nat.testBit_lt_two_pow (Nat.lt_of_lt_of_le small
            (Nat.pow_le_pow_right (by decide) (by omega)))
        simp [low, show ¬ i - 12 < 36 by omega, forth, clear]
  rw [bits, BitVec.toNat_ofNat]
  omega

/-- A word is flagged as present. -/
theorem pageWord_bit (physical : BitVec 64) : (pageWord physical).getLsbD 0 = true := by
  rw [pageWord, BitVec.getLsbD_setWidth, BitVec.getLsbD_append]
  rfl

/-- An address on a mapped page translates to the page, at the same offset. -/
theorem virtualToPhysical_mapped {state : State} (shaped : WellShaped answers root state)
    (virtual : BitVec 64) {physical : BitVec 64} (small : physical.toNat < 2 ^ 48)
    (leaf : leafEntry state.memory root (pageOf virtual) = pageWord physical) :
    (virtualToPhysical virtual root state.memory).toNat =
      physical.toNat / 4096 * 4096 + virtual.toNat % 4096 := by
  have flagged : pageWord physical ≠ 0 := by
    intro zero
    have flag := pageWord_bit physical
    rw [zero] at flag
    cases flag
  cases reached : reach state.memory root (slotsAbove (pageOf virtual)) with
  | none =>
    rw [leafEntry_absent reached] at leaf
    exact absurd leaf.symm flagged
  | some table =>
    have nonzero := (shaped.owned _ table (slotsAbove_length _).le reached).1
    rw [leafEntry_reached reached, slots] at leaf
    rw [virtualToPhysical, shaped.getPTTable virtual reached]
    simp only [if_neg nonzero, returnTableEntryNoFlags, getPtIndex_page, leaf]
    rw [BitVec.toNat_add, pageWord_address physical small, pageOffset_toNat]
    omega

/-! ## The range that is asked for -/

/-- The physical page that a page translates to. -/
def frame (memory : Memory) (root : BitVec 64) (page : BitVec 36) : BitVec 64 :=
  leafEntry memory root page &&& ENTRY_ADDRESS

theorem pageWord_lt (physical : BitVec 64) : (pageWord physical).toNat < 2 ^ 48 := by
  have bound := (pageOf physical ++ (0b11 : BitVec 12)).isLt
  rw [pageWord, BitVec.toNat_setWidth]
  omega

/-- A word keeps the address of a physical page below 2^48, and of no other. -/
theorem pageWord_frame_iff (physical : BitVec 64) (whole : physical.toNat % 4096 = 0) :
    pageWord physical &&& ENTRY_ADDRESS = physical ↔ physical.toNat < 2 ^ 48 := by
  constructor
  · intro kept
    rw [← kept, BitVec.toNat_and]
    exact Nat.lt_of_le_of_lt Nat.and_le_left (pageWord_lt physical)
  · intro small
    apply BitVec.eq_of_toNat_eq
    rw [pageWord_address physical small]
    omega

/-- Each page of the range translates as asked, and no other page is changed. -/
structure MapsAsAsked (root physStart virtStart size : BitVec 64) (before after : Memory) : Prop where
  inside : ∀ c < pages size,
    frame after root (pageOf (virtStart + BitVec.ofNat 64 (4096 * c))) =
      physStart + BitVec.ofNat 64 (4096 * c)
  outside : ∀ page,
    (∀ c < pages size, page ≠ pageOf (virtStart + BitVec.ofNat 64 (4096 * c))) →
      leafEntry after root page = leafEntry before root page

/-- The counter comes to a page. -/
def Met (virtStart size : BitVec 64) (page : BitVec 36) : Prop :=
  ∃ c < pages size, page = pageOf (virtStart + counterOffset c)

/-- The pages that the counter comes to can be kept, those that it misses have been mapped
before, and so have those outside the range that it comes to. -/
structure AlreadyAsked (root physStart virtStart size : BitVec 64) (memory : Memory) : Prop where
  met : ∀ c < pages size, Met virtStart size (pageOf (virtStart + BitVec.ofNat 64 (4096 * c))) →
    (physStart + BitVec.ofNat 64 (4096 * c)).toNat < 2 ^ 48
  missed : ∀ c < pages size, ¬ Met virtStart size (pageOf (virtStart + BitVec.ofNat 64 (4096 * c))) →
    frame memory root (pageOf (virtStart + BitVec.ofNat 64 (4096 * c))) =
      physStart + BitVec.ofNat 64 (4096 * c)
  strayed : ∀ c < pages size,
    (∀ d < pages size, pageOf (virtStart + counterOffset c) ≠
      pageOf (virtStart + BitVec.ofNat 64 (4096 * d))) →
    leafEntry memory root (pageOf (virtStart + counterOffset c)) = pageWord (physStart + counterOffset c)

section Asked

variable {physStart virtStart size : BitVec 64} {state after : State}

theorem offset_whole (c : Nat) : (BitVec.ofNat 64 (4096 * c)).toNat % 4096 = 0 := by
  rw [BitVec.toNat_ofNat]
  omega

/-- What the passes write in the range is what is asked for. -/
theorem RangeMapped.met_word
    (mapped : RangeMapped answers root physStart virtStart 0 (pages size) state after) (c : Nat)
    (met : Met virtStart size (pageOf (virtStart + BitVec.ofNat 64 (4096 * c)))) :
    leafEntry after.memory root (pageOf (virtStart + BitVec.ofNat 64 (4096 * c))) =
      pageWord (physStart + BitVec.ofNat 64 (4096 * c)) := by
  obtain ⟨d, below, same⟩ := met
  rw [same, mapped.written d (Nat.zero_le d) below,
    same_word physStart virtStart (offset_whole c) (counterOffset_whole d) same]

/-- And they leave the pages that the counter misses. -/
theorem RangeMapped.missed_kept
    (mapped : RangeMapped answers root physStart virtStart 0 (pages size) state after)
    {page : BitVec 36} (missed : ¬ Met virtStart size page) :
    leafEntry after.memory root page = leafEntry state.memory root page :=
  mapped.others page fun c _ below same => missed ⟨c, below, same⟩

theorem RangeMapped.asked_iff
    (mapped : RangeMapped answers root physStart virtStart 0 (pages size) state after)
    (whole : physStart.toNat % 4096 = 0) :
    MapsAsAsked root physStart virtStart size state.memory after.memory ↔
      AlreadyAsked root physStart virtStart size state.memory := by
  have kept (c : Nat) := pageWord_frame_iff (physStart + BitVec.ofNat 64 (4096 * c)) (by
    rw [BitVec.toNat_add, BitVec.toNat_ofNat]
    omega)
  constructor
  · intro asked
    refine ⟨fun c below met => ?_, fun c below missed => ?_, fun c below strayed => ?_⟩
    · rw [← kept, ← mapped.met_word c met]
      exact asked.inside c below
    · rw [frame, ← mapped.missed_kept missed]
      exact asked.inside c below
    · rw [← asked.outside _ strayed, mapped.written c (Nat.zero_le c) below]
  · intro already
    refine ⟨fun c below => ?_, fun page outside => ?_⟩
    · by_cases met : Met virtStart size (pageOf (virtStart + BitVec.ofNat 64 (4096 * c)))
      · rw [frame, mapped.met_word c met, kept]
        exact already.met c below met
      · rw [frame, mapped.missed_kept met]
        exact already.missed c below met
    · by_cases met : Met virtStart size page
      · obtain ⟨c, below, rfl⟩ := met
        rw [mapped.written c (Nat.zero_le c) below, already.strayed c below outside]
      · exact mapped.missed_kept met

/-- Up to 2 GiB the counter comes to all pages of the range and to no others. -/
theorem alreadyAsked_small (memory : Memory) (whole : physStart.toNat % 4096 = 0)
    (some : 1 ≤ size.toNat) (small : size.toNat ≤ 2 ^ 31) :
    AlreadyAsked root physStart virtStart size memory ↔
      physStart.toNat + 4096 * pages size ≤ 2 ^ 48 := by
  have count : pages size ≤ 2 ^ 19 := by
    rw [pages]
    omega
  have some : 0 < pages size := by
    rw [pages]
    omega
  have offset (c : Nat) (below : c < pages size) :
      counterOffset c = BitVec.ofNat 64 (4096 * c) := counterOffset_small c (by omega)
  have met (c : Nat) (below : c < pages size) :
      Met virtStart size (pageOf (virtStart + BitVec.ofNat 64 (4096 * c))) :=
    ⟨c, below, by rw [offset c below]⟩
  constructor
  · intro already
    have first := already.met 0 some (met 0 some)
    have last := already.met (pages size - 1) (by omega) (met _ (by omega))
    rw [BitVec.toNat_add, BitVec.toNat_ofNat] at first last
    have bound := physStart.isLt
    omega
  · intro fits
    refine ⟨fun c below _ => ?_, fun c below missed => absurd (met c below) missed,
      fun c below strayed => absurd (by rw [offset c below]) (strayed c below)⟩
    rw [BitVec.toNat_add, BitVec.toNat_ofNat]
    omega

/-- From 2 GiB on a page is missed. -/
theorem AlreadyAsked.second_half {memory : Memory}
    (already : AlreadyAsked root physStart virtStart size memory) (large : 2 ^ 31 < size.toNat) :
    frame memory root (pageOf (virtStart + BitVec.ofNat 64 (4096 * 2 ^ 19))) =
      physStart + BitVec.ofNat 64 (4096 * 2 ^ 19) := by
  refine already.missed (2 ^ 19) (by rw [pages]; omega) ?_
  rintro ⟨c, -, same⟩
  exact counterOffset_ne virtStart c same.symm

end Asked

/-- A range that has been mapped is mapped as asked if it is not longer than 2 GiB and
its physical pages are below 2^48. A longer one is only where it has been mapped before. -/
theorem range_asked_iff (fresh : FreshPages answers) (physStart virtStart size : BitVec 64)
    (state after : State) (shaped : WellShaped answers root state)
    (whole : physStart.toNat % 4096 = 0) (some : 1 ≤ size.toNat)
    (ran : mapOrCreateRange answers root physStart virtStart size state = .some (SUCCESS, after)) :
    MapsAsAsked root physStart virtStart size state.memory after.memory ↔
      (size.toNat ≤ 2 ^ 31 ∧ physStart.toNat + 4096 * pages size ≤ 2 ^ 48) ∨
        (2 ^ 31 < size.toNat ∧ AlreadyAsked root physStart virtStart size state.memory) := by
  rw [(mapOrCreateRange_mapped fresh shaped some ran).asked_iff whole]
  by_cases small : size.toNat ≤ 2 ^ 31
  · rw [alreadyAsked_small state.memory whole some small, and_iff_right small,
      or_iff_left fun both => absurd small (Nat.not_le.mpr both.1)]
  · rw [or_iff_right fun both => small both.1, and_iff_right (Nat.not_le.mp small)]

/-- A page that is mapped on the heap of sixteen pages. -/
theorem page_asked : ∃ after,
    mapOrCreateRange sixteenPages 0x600000 0x7000 0x5000 SIZE_4KB firstTable = some (SUCCESS, after) ∧
    MapsAsAsked 0x600000 0x7000 0x5000 SIZE_4KB firstTable.memory after.memory := by
  have created : createEmptyPageTable sixteenPages ⟨fun _ => 0, 0⟩ = (0x600000, firstTable) := rfl
  have shaped := createEmptyPageTable_shaped sixteenPages_fresh created (by decide)
  have succeeded : (mapPage sixteenPages 0x600000 0x7000 0x5000 firstTable).1 = SUCCESS := by
    decide +kernel
  have ran : mapOrCreateRange sixteenPages 0x600000 0x7000 0x5000 SIZE_4KB firstTable =
      some (SUCCESS, (mapPage sixteenPages 0x600000 0x7000 0x5000 firstTable).2) := by
    rw [mapOrCreateRange_page, ← succeeded]
  exact ⟨_, ran, (range_asked_iff sixteenPages_fresh 0x7000 0x5000 SIZE_4KB _ _ shaped (by decide)
    (by decide) ran).mpr (.inl ⟨by decide, by decide⟩)⟩

/-! ## A range of more than 2 GiB -/

/-- Where the heap grants three requests for each page, a range is mapped. -/
theorem mapOrCreateRangeLoop_granted (fresh : FreshPages answers)
    (physStart virtStart size : BitVec 64) (left : Nat) :
    ∀ (first : Nat) (state : State), WellShaped answers root state → 0 < left →
      first + left < 2 ^ 52 → size.toNat ≤ 4096 * (first + left) → Granted answers state (3 * left) →
      ∃ after, mapOrCreateRangeLoop answers root physStart virtStart size left (BitVec.ofNat 32 first)
        (BitVec.ofNat 64 (4096 * first)) state = some (SUCCESS, after) := by
  induction left with
  | zero => exact fun _ _ _ none_left => absurd none_left (Nat.lt_irrefl 0)
  | succ left ih =>
    intro first state shaped _ bounded enough granted
    rw [mapOrCreateRangeLoop, ← counterOffset]
    simp only
    have three := missing_le state.memory root
      (slotsAbove (pageOf (virtStart + counterOffset first))) []
    rw [slotsAbove_length] at three
    have mapped := (shaped.mapPage_served fresh (physStart + counterOffset first)
      (virtStart + counterOffset first)).mpr fun j below => granted j (by omega)
    have failed : SUCCESS ≠ -ENMEM := by decide
    have maps := (shaped.mapPage fresh (physStart + counterOffset first)
      (virtStart + counterOffset first)).resolve_right fun full => failed (mapped.symm.trans full.1)
    have requests := @mapPage_requests answers root (physStart + counterOffset first)
      (virtStart + counterOffset first) state
    rw [mapped, if_neg (by decide), sizeMapped_succ, counter_succ]
    generalize (mapPage answers root (physStart + counterOffset first)
      (virtStart + counterOffset first) state).2 = next at maps requests ⊢
    split_ifs with onward
    · rw [BitVec.lt_def, BitVec.toNat_ofNat] at onward
      refine ih (first + 1) next maps.2.shaped (by omega) (by omega) (by omega) fun j below => ?_
      have later := granted (next.requests - state.requests + j) (by omega)
      rwa [show state.requests + (next.requests - state.requests + j) = next.requests + j by omega]
        at later
    · exact ⟨next, rfl⟩

/-- A heap with all pages below 2^47. -/
def manyPages (request : Nat) : BitVec 64 :=
  if request < 2 ^ 35 - 1 then BitVec.ofNat 64 (4096 * (request + 1)) else 0

theorem manyPages_fresh : FreshPages manyPages where
  valid request := by
    rw [manyPages]
    split_ifs
    · constructor
      · rw [BitVec.toNat_ofNat]
        omega
      · rw [BitVec.toNat_ofNat]
        omega
    · exact ⟨rfl, by decide⟩
  distinct earlier later before nonzero same := by
    have numbers := congrArg BitVec.toNat same
    rw [manyPages] at nonzero
    split_ifs at nonzero
    · rw [manyPages, manyPages, if_pos (by omega), if_pos (by omega), BitVec.toNat_ofNat,
        BitVec.toNat_ofNat] at numbers
      omega
    · exact nonzero rfl

theorem manyPages_granted (state : State) (count : Nat) (bounded : state.requests + count < 2 ^ 35) :
    Granted manyPages state count := by
  intro j below none
  rw [manyPages, if_pos (by omega), BitVec.toNat_eq, BitVec.toNat_ofNat] at none
  have zero : (0 : BitVec 64).toNat = 0 := rfl
  omega

/-- Of 2 GiB and a page, the last page is not mapped in a new table. -/
theorem last_page_missed : ∃ root state after, WellShaped manyPages root state ∧
    mapOrCreateRange manyPages root 0 0 0x80001000 state = some (SUCCESS, after) ∧
    leafEntry after.memory root (pageOf 0x80000000) = 0 ∧
    ¬ MapsAsAsked root 0 0 0x80001000 state.memory after.memory := by
  obtain ⟨root, state, created, nonzero, first⟩ : ∃ root state,
      createEmptyPageTable manyPages ⟨fun _ => 0, 0⟩ = (root, state) ∧ root ≠ 0 ∧ state.requests = 1 :=
    ⟨_, _, rfl, by decide, rfl⟩
  have shaped := createEmptyPageTable_shaped manyPages_fresh created nonzero
  obtain ⟨after, ran⟩ := mapOrCreateRangeLoop_granted manyPages_fresh 0 0 0x80001000 0x80002 0 state
    shaped (by decide) (by decide) (by decide) (manyPages_granted state _ (by omega))
  have ran : mapOrCreateRange manyPages root 0 0 0x80001000 state = some (SUCCESS, after) := ran
  have mapped := mapOrCreateRange_mapped manyPages_fresh shaped (by decide) ran
  have unmapped : leafEntry state.memory root (pageOf 0x80000000) = 0 := by
    refine leafEntry_absent (Option.eq_none_iff_forall_ne_some.mpr fun table reached => ?_)
    cases (createEmptyPageTable_reach manyPages_fresh created nonzero reached).1
  have missed : leafEntry after.memory root (pageOf 0x80000000) = 0 := by
    rw [← unmapped]
    refine mapped.others _ fun c _ _ same => counterOffset_ne 0 c ?_
    rw [← same]
    rfl
  refine ⟨root, state, after, shaped, ran, missed, fun asked => ?_⟩
  have last := asked.inside (2 ^ 19) (by decide)
  have page : pageOf (0 + BitVec.ofNat 64 (4096 * 2 ^ 19)) = pageOf 0x80000000 := rfl
  rw [page, frame, missed] at last
  exact absurd last (by decide)

end BobaOS.Paging
