import BobaOS.Paging.Translations

/-!
# Remapping a range

`remapVirtualToVirtualRange` maps what the pages of one range translate to at another
range, page by page. It takes a positive code for an error, and no error is one: it always
reports a success. A page for whose tables the heap has no room is left as it was.
-/

namespace BobaOS.Paging

open Runs TableTree

variable {answers : Nat → BitVec 64} {root target source size : BitVec 64} {state : State}

/-! ## The pages of a range -/

/-- A page of a range. -/
def pageAt (start : BitVec 64) (i : Nat) : BitVec 36 := pageOf (start + BitVec.ofNat 64 (4096 * i))

theorem pageAt_injective {start : BitVec 64} {i j : Nat} (small : i < 2 ^ 36) (small' : j < 2 ^ 36)
    (same : pageAt start i = pageAt start j) : i = j := by
  rw [pageAt, pageAt, pageOf_add, pageOf_add, BitVec.toNat_eq, BitVec.toNat_add, BitVec.toNat_add,
    BitVec.toNat_ofNat, BitVec.toNat_ofNat] at same
  have bound := (pageOf start).isLt
  omega

/-- Two ranges of a size share no page. -/
def SharesNone (target source size : BitVec 64) : Prop :=
  ∀ i < pages size, ∀ j < pages size, pageAt source i ≠ pageAt target j

/-- Then there are not so many pages that they repeat. -/
theorem SharesNone.small (apart : SharesNone target source size) : pages size < 2 ^ 36 := by
  by_contra many
  have bound := (pageOf target - pageOf source).isLt
  refine apart (pageOf target - pageOf source).toNat (by omega) 0 (by omega) ?_
  rw [pageAt, pageAt, pageOf_add, pageOf_add, BitVec.ofNat_toNat, BitVec.setWidth_eq]
  apply BitVec.eq_of_toNat_eq
  have first := (pageOf target).isLt
  have second := (pageOf source).isLt
  simp only [BitVec.toNat_add, BitVec.toNat_sub, BitVec.toNat_ofNat]
  omega

theorem blocks_eq (small : pages size < 2 ^ 36) : (upToPage size / SIZE_4KB).toNat = pages size := by
  have bounded : size.toNat ≤ 2 ^ 64 - 4096 := by
    rw [pages] at small
    omega
  rw [BitVec.toNat_udiv, upToPage_toNat size bounded, show SIZE_4KB.toNat = 4096 from rfl,
    Nat.mul_div_cancel_left _ (by decide), pages]

/-- An address at the start of a page. -/
theorem downToPage_start {address : BitVec 64} (start : address.toNat % 4096 = 0) :
    downToPage address = address := by
  rw [downToPage, if_pos]
  apply BitVec.eq_of_toNat_eq
  rw [BitVec.toNat_umod, show SIZE_4KB.toNat = 4096 from rfl, start]
  rfl

theorem offset_start {address : BitVec 64} (start : address.toNat % 4096 = 0) :
    address &&& FULL_4KB = 0 := by
  apply BitVec.eq_of_toNat_eq
  rw [pageOffset_toNat]
  exact start

theorem start_add {start : BitVec 64} (aligned : start.toNat % 4096 = 0) (i : Nat) :
    (start + BitVec.ofNat 64 (4096 * i)).toNat % 4096 = 0 := by
  rw [BitVec.toNat_add, BitVec.toNat_ofNat]
  omega

/-- A frame is the start of a physical page. -/
theorem frame_start (memory : Memory) (root : BitVec 64) (page : BitVec 36) :
    (frame memory root page).toNat % 4096 = 0 := by
  have low : ∀ i < 12, (frame memory root page).getLsbD i = false := by
    intro i below
    rw [frame, BitVec.getLsbD_and, entryAddress_bit i (by omega), decide_eq_false (by omega),
      Bool.and_false]
  apply Nat.eq_of_testBit_eq
  intro i
  rw [show 4096 = 2 ^ 12 from rfl, Nat.testBit_mod_two_pow, Nat.zero_testBit]
  by_cases below : i < 12
  · rw [decide_eq_true below, Bool.true_and]
    exact low i below
  · rw [decide_eq_false below, Bool.false_and]

/-! ## The loop -/

/-- What is done for one page. -/
def remapPage (answers : Nat → BitVec 64) (root target source : BitVec 64) (state : State) :
    Code × State :=
  mapPage answers root (downToPage (virtualToPhysical source root state.memory)) (downToPage target)
    state

/-- The state after the first pages. -/
def remapped (answers : Nat → BitVec 64) (root target source : BitVec 64) (state : State) : Nat → State
  | 0 => state
  | i + 1 => (remapPage answers root (target + BitVec.ofNat 64 (4096 * i))
      (source + BitVec.ofNat 64 (4096 * i)) (remapped answers root target source state i)).2

/-- The loop goes through all pages, whatever the codes are. -/
theorem remapVirtualToVirtualLoop_eq (left : Nat) : ∀ first,
    remapVirtualToVirtualLoop answers target source root left (BitVec.ofNat 64 first)
      (remapped answers root target source state first) =
        some (SUCCESS, remapped answers root target source state (first + left)) := by
  induction left with
  | zero => exact fun _ => rfl
  | succ left ih =>
    intro first
    have offset : BitVec.ofNat 64 first * SIZE_4KB = BitVec.ofNat 64 (4096 * first) := by
      apply BitVec.eq_of_toNat_eq
      rw [BitVec.toNat_mul, BitVec.toNat_ofNat, BitVec.toNat_ofNat, show SIZE_4KB.toNat = 4096 from rfl]
      omega
    have counter : BitVec.ofNat 64 first + 1 = BitVec.ofNat 64 (first + 1) := by
      apply BitVec.eq_of_toNat_eq
      rw [BitVec.toNat_add, BitVec.toNat_ofNat, BitVec.toNat_ofNat, show (1 : BitVec 64).toNat = 1 from rfl]
      omega
    have no_error : ¬ 0 < (remapPage answers root (target + BitVec.ofNat 64 (4096 * first))
        (source + BitVec.ofNat 64 (4096 * first))
        (remapped answers root target source state first)).1 := by
      rw [remapPage]
      rcases mapPage_code answers root _ _ (remapped answers root target source state first) with
        code | code
      · rw [code]
        decide
      · rw [code]
        decide
    rw [remapVirtualToVirtualLoop, offset, remapVirtualToVirtual, mapOrCreateRange_page, ← remapPage]
    simp only [if_neg no_error, counter]
    rw [← Nat.add_assoc, Nat.add_right_comm]
    exact ih (first + 1)

theorem remapVirtualToVirtualRange_eq (apart : SharesNone target source size) :
    remapVirtualToVirtualRange answers target source size root state =
      some (SUCCESS, remapped answers root target source state (pages size)) := by
  have law := @remapVirtualToVirtualLoop_eq answers root target source state (pages size) 0
  rw [Nat.zero_add] at law
  rw [remapVirtualToVirtualRange, blocks_eq apart.small]
  exact law

/-! ## Pages one by one -/

/-- The tables are a tree whose leaves have addresses below 2^48 and no other bits. -/
structure PageTable (answers : Nat → BitVec 64) (root : BitVec 64) (state : State) : Prop where
  shaped : WellShaped answers root state
  addresses : ∀ page, (leafEntry state.memory root page).toNat < 2 ^ 48

/-- So are those that mappings build. -/
theorem Built.pageTable (built : Built answers root state) : PageTable answers root state where
  shaped := built.shaped
  addresses page := by
    rcases built.leaves page with empty | ⟨physical, word⟩
    · rw [empty]
      decide
    · rw [word]
      exact pageWord_lt physical

/-- The heap has room for the tables of a page when its turn comes. -/
def Provided (answers : Nat → BitVec 64) (root target source : BitVec 64) (state : State) (i : Nat) :
    Prop :=
  Granted answers (remapped answers root target source state i)
    (missing (remapped answers root target source state i).memory root []
      (slotsAbove (pageAt target i)))

/-- What has become of the pages after the first ones. -/
structure RemappedPages (answers : Nat → BitVec 64) (root target source : BitVec 64) (state : State)
    (i : Nat) : Prop where
  shaped : WellShaped answers root (remapped answers root target source state i)
  provided : ∀ j < i, Provided answers root target source state j →
    frame (remapped answers root target source state i).memory root (pageAt target j) =
      frame state.memory root (pageAt source j)
  refused : ∀ j < i, ¬ Provided answers root target source state j →
    frame (remapped answers root target source state i).memory root (pageAt target j) =
      frame state.memory root (pageAt target j)
  others : ∀ page, (∀ j < i, page ≠ pageAt target j) →
    leafEntry (remapped answers root target source state i).memory root page =
      leafEntry state.memory root page

/-- What is done for one page, seen from the pages after it and those before it. -/
structure RemappedPage (answers : Nat → BitVec 64) (root target source : BitVec 64) (state : State)
    (i : Nat) : Prop where
  shaped : WellShaped answers root (remapped answers root target source state (i + 1))
  provided : Provided answers root target source state i →
    frame (remapped answers root target source state (i + 1)).memory root (pageAt target i) =
      frame state.memory root (pageAt source i)
  refused : ¬ Provided answers root target source state i →
    leafEntry (remapped answers root target source state (i + 1)).memory root (pageAt target i) =
      leafEntry (remapped answers root target source state i).memory root (pageAt target i)
  others : ∀ page, page ≠ pageAt target i →
    leafEntry (remapped answers root target source state (i + 1)).memory root page =
      leafEntry (remapped answers root target source state i).memory root page

section Pages

variable (fresh : FreshPages answers) (table : PageTable answers root state)
  (target_start : target.toNat % 4096 = 0) (source_start : source.toNat % 4096 = 0)
  (apart : SharesNone target source size) {i : Nat}

include fresh table target_start source_start apart

/-- A source page still translates as it did at first when its turn comes. -/
theorem RemappedPages.step (below : i < pages size)
    (pages_so_far : RemappedPages answers root target source state i) :
    RemappedPage answers root target source state i := by
  have untouched : ∀ j < i, pageAt source i ≠ pageAt target j := fun j earlier =>
    apart i below j (by omega)
  have physical : downToPage (virtualToPhysical (source + BitVec.ofNat 64 (4096 * i)) root
      (remapped answers root target source state i).memory) =
        frame state.memory root (pageAt source i) := by
    rw [pages_so_far.shaped.virtualToPhysical_start _ (offset_start (start_add source_start i)),
      downToPage_start (frame_start _ _ _), frame, frame, pageAt]
    exact congrArg (· &&& ENTRY_ADDRESS) (pages_so_far.others _ untouched)
  have virtual := downToPage_start (start_add target_start i)
  have served := pages_so_far.shaped.mapPage_served fresh (frame state.memory root (pageAt source i))
    (target + BitVec.ofNat 64 (4096 * i))
  have outcome := pages_so_far.shaped.mapPage fresh (frame state.memory root (pageAt source i))
    (target + BitVec.ofNat 64 (4096 * i))
  have step : remapped answers root target source state (i + 1) =
      (mapPage answers root (frame state.memory root (pageAt source i))
        (target + BitVec.ofNat 64 (4096 * i)) (remapped answers root target source state i)).2 := by
    rw [remapped, remapPage, physical, virtual]
  have kept : pageWord (frame state.memory root (pageAt source i)) &&& ENTRY_ADDRESS =
      frame state.memory root (pageAt source i) := by
    refine (pageWord_frame_iff _ (frame_start _ _ _)).mpr ?_
    rw [frame, BitVec.toNat_and]
    exact Nat.lt_of_le_of_lt Nat.and_le_left (table.addresses _)
  rw [pageWord_stored] at outcome
  rw [← step] at outcome
  have failed : -ENMEM ≠ SUCCESS := by decide
  rcases outcome with ⟨mapped, maps⟩ | ⟨full, extended⟩
  · refine ⟨maps.shaped, fun _ => ?_, fun refused => absurd (served.mp mapped) refused,
      fun page different => ?_⟩
    · rw [frame, maps.leaves, ← pageAt, if_pos rfl]
      exact kept
    · rw [maps.leaves]
      exact if_neg different
  · exact ⟨extended.shaped, fun provided => absurd (full.symm.trans (served.mpr provided)) failed,
      fun _ => extended.leaves _, fun page _ => extended.leaves page⟩

/-- The pages before one are not those of the next one. -/
theorem RemappedPages.next (below : i < pages size)
    (pages_so_far : RemappedPages answers root target source state i) :
    RemappedPages answers root target source state (i + 1) := by
  have step := pages_so_far.step fresh table target_start source_start apart below
  have small := apart.small
  have new : ∀ j < i, pageAt target j ≠ pageAt target i := fun j earlier same => by
    have number := pageAt_injective (by omega) (by omega) same
    omega
  have earlier_kept : ∀ j < i,
      frame (remapped answers root target source state (i + 1)).memory root (pageAt target j) =
        frame (remapped answers root target source state i).memory root (pageAt target j) :=
    fun j earlier => congrArg (· &&& ENTRY_ADDRESS) (step.others _ (new j earlier))
  refine ⟨step.shaped, fun j _ provided => ?_, fun j _ refused => ?_, fun page unmet => ?_⟩
  · by_cases last : j = i
    · exact last ▸ step.provided (last ▸ provided)
    · rw [earlier_kept j (by omega)]
      exact pages_so_far.provided j (by omega) provided
  · by_cases last : j = i
    · rw [last] at refused ⊢
      rw [frame, step.refused refused, pages_so_far.others _ fun k earlier => (new k earlier).symm]
      rfl
    · rw [earlier_kept j (by omega)]
      exact pages_so_far.refused j (by omega) refused
  · rw [step.others page (unmet i (Nat.lt_succ_self i))]
    exact pages_so_far.others page fun j earlier => unmet j (by omega)

theorem remappedPages (i : Nat) (bounded : i ≤ pages size) :
    RemappedPages answers root target source state i := by
  induction i with
  | zero =>
    exact ⟨table.shaped, fun j none => absurd none (Nat.not_lt_zero j),
      fun j none => absurd none (Nat.not_lt_zero j), fun _ _ => rfl⟩
  | succ i ih => exact (ih (by omega)).next fresh table target_start source_start apart bounded

end Pages

/-- A success says that all pages of the target translate as those of the source did, and
anything else is a negative error. -/
def KeepsPromise (root target source size : BitVec 64) (state : State)
    (result : Option (Code × State)) : Prop :=
  ∃ code after, result = some (code, after) ∧
    (code = SUCCESS → ∀ i < pages size, frame after.memory root (pageAt target i) =
      frame state.memory root (pageAt source i)) ∧
    (code ≠ SUCCESS → code < 0)

/-- The promise is kept if the heap has room for the tables of each page that does not
translate so already. -/
theorem remap_promise_iff (fresh : FreshPages answers) (target source size : BitVec 64) (state : State)
    (table : PageTable answers root state) (target_start : target.toNat % 4096 = 0)
    (source_start : source.toNat % 4096 = 0) (apart : SharesNone target source size) :
    KeepsPromise root target source size state
        (remapVirtualToVirtualRange answers target source size root state) ↔
      ∀ i < pages size, Provided answers root target source state i ∨
        frame state.memory root (pageAt target i) = frame state.memory root (pageAt source i) := by
  have law := remappedPages fresh table target_start source_start apart (pages size) (Nat.le_refl _)
  rw [remapVirtualToVirtualRange_eq apart]
  constructor
  · rintro ⟨code, after, result, promise, -⟩ i below
    obtain ⟨rfl, rfl⟩ := Prod.mk.inj (Option.some.inj result)
    by_cases provided : Provided answers root target source state i
    · exact .inl provided
    · exact .inr ((law.refused i below provided).symm.trans (promise rfl i below))
  · intro ready
    refine ⟨_, _, rfl, fun _ i below => ?_, fun failed => absurd rfl failed⟩
    by_cases provided : Provided answers root target source state i
    · exact law.provided i below provided
    · exact (law.refused i below provided).trans ((ready i below).resolve_left provided)

theorem pageTable_shape : PageTable sixteenPages 0x600000 pageTable :=
  ((built_invariant sixteenPages_fresh).reached pageTable_built).pageTable

/-- A page that shares its page table with the source is remapped. -/
theorem next_page_remapped : KeepsPromise 0x600000 0x6000 0x5000 SIZE_4KB pageTable
    (remapVirtualToVirtualRange sixteenPages 0x6000 0x5000 SIZE_4KB 0x600000 pageTable) := by
  have one : pages SIZE_4KB = 1 := rfl
  have there : missing pageTable.memory 0x600000 [] (slotsAbove (pageAt 0x6000 0)) = 0 := by
    decide +kernel
  refine (remap_promise_iff sixteenPages_fresh 0x6000 0x5000 SIZE_4KB pageTable pageTable_shape
    (by decide) (by decide) ?_).mpr ?_
  · intro i below j below'
    obtain rfl : i = 0 := by omega
    obtain rfl : j = 0 := by omega
    decide
  · intro i below
    obtain rfl : i = 0 := by omega
    refine .inl fun j none => ?_
    rw [remapped, there] at none
    exact absurd none (Nat.not_lt_zero j)

/-- That table when the heap has no more pages. -/
def fullHeap : State := { pageTable with requests := 16 }

/-- A page without a page table is reported as remapped, and is not. -/
theorem full_heap_reports_success : PageTable sixteenPages 0x600000 fullHeap ∧
    frame fullHeap.memory 0x600000 (pageAt 0x5000 0) = 0x7000 ∧
    (∃ after, remapVirtualToVirtualRange sixteenPages 0x40000000 0x5000 SIZE_4KB 0x600000 fullHeap =
      some (SUCCESS, after) ∧ frame after.memory 0x600000 (pageAt 0x40000000 0) = 0) ∧
    ¬ KeepsPromise 0x600000 0x40000000 0x5000 SIZE_4KB fullHeap
      (remapVirtualToVirtualRange sixteenPages 0x40000000 0x5000 SIZE_4KB 0x600000 fullHeap) := by
  have source : frame fullHeap.memory 0x600000 (pageAt 0x5000 0) = 0x7000 := by
    decide +kernel
  have outcome : (remapVirtualToVirtualRange sixteenPages 0x40000000 0x5000 SIZE_4KB 0x600000
      fullHeap).map (fun result => (result.1, frame result.2.memory 0x600000 (pageAt 0x40000000 0))) =
        some (SUCCESS, 0) := by
    decide +kernel
  obtain ⟨⟨code, after⟩, result, codes⟩ := Option.map_eq_some_iff.mp outcome
  obtain ⟨rfl, unmapped⟩ := Prod.mk.inj codes
  have few : pageTable.requests ≤ 16 := by
    decide +kernel
  refine ⟨⟨pageTable_shape.shaped.later 16 few, pageTable_shape.addresses⟩, source,
    ⟨after, result, unmapped⟩, ?_⟩
  rintro ⟨code, other, same, promise, -⟩
  rw [result] at same
  obtain ⟨rfl, rfl⟩ := Prod.mk.inj (Option.some.inj same)
  have remapped := promise rfl 0 (by decide)
  have unmapped : frame after.memory 0x600000 (pageAt 0x40000000 0) = 0 := unmapped
  rw [unmapped, source] at remapped
  exact absurd remapped (by decide)

end BobaOS.Paging
