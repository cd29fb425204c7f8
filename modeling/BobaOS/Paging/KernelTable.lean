import BobaOS.Paging.MemoryMap
import BobaOS.Paging.MmioWindows
import BobaOS.Paging.TableCounts

/-!
# The kernel's page table

`createKernelTable` maps the free ranges of the memory map one behind the other, in the order of
the map, from one virtual address on. What it lays out is the list of the free pages. Where a
range is shorter than a page, one page is mapped all the same, and the next range takes its
place. The kernel goes on at the addresses that it had before, which is right for the pages
that are mapped to themselves only.
-/

namespace BobaOS.Paging

open TableTree MemoryMap

/-! ## Code -/

section Code

variable (answers : Nat → BitVec 64)

/-- The loop of `createKernelTable` over the entries. -/
def mapFreeEntries (pml4Table virtualStart : BitVec 64) :
    List Entry → BitVec 64 → State → Option (Code × State)
  | [], _, state => some (SUCCESS, state)
  | entry :: rest, sizeMapped, state =>
    if entry.type = MEMORY_TYPE_FREE then
      let physicalStart := downToPage entry.address
      let rangeSize := downToPage entry.length
      match mapOrCreateRange answers pml4Table physicalStart (virtualStart + sizeMapped) rangeSize
          state with
      | none => none
      | some (ret, state) =>
        if ret < 0 then some (ret, state)
        else mapFreeEntries pml4Table virtualStart rest (sizeMapped + rangeSize) state
    else mapFreeEntries pml4Table virtualStart rest sizeMapped state

/-- The entries of the memory map. -/
def mapEntries (map : MemoryMap.State) : List Entry :=
  (List.range map.memoryMapLength.toNat).map map.memoryMap

/-- The table, which is NULL where the heap is full. What the heap has back of it then is left
out. -/
def createKernelTable (virtualStart : BitVec 64) (map : MemoryMap.State) (state : State) :
    Option (BitVec 64 × State) :=
  let (pml4Table, state) := kzalloc answers state
  if pml4Table = 0 then some (0, state)
  else match mapFreeEntries answers pml4Table virtualStart (mapEntries map) 0 state with
    | none => none
    | some (ret, state) => if ret < 0 then some (0, state) else some (pml4Table, state)

end Code

/-! ## Ranges of pages in a row -/

/-- The pages of ranges, each given by its first page and the number of its pages. -/
def rangePages (ranges : List (Nat × Nat)) : List Nat :=
  ranges.flatMap fun range => List.range' range.1 range.2

/-- Each range that has pages begins where the ones before it end. -/
def Contiguous : Nat → List (Nat × Nat) → Prop
  | _, [] => True
  | start, (first, count) :: rest => (0 < count → first = start) ∧ Contiguous (start + count) rest

/-- The pages of ranges are in a row exactly if the ranges are. -/
theorem rangePages_contiguous (ranges : List (Nat × Nat)) (start : Nat) :
    rangePages ranges = List.range' start (rangePages ranges).length ↔ Contiguous start ranges := by
  induction ranges generalizing start with
  | nil => exact iff_of_true rfl trivial
  | cons range rest ih =>
    obtain ⟨first, count⟩ := range
    have joined : rangePages ((first, count) :: rest) = List.range' first count ++ rangePages rest :=
      rfl
    have split : List.range' start (count + (rangePages rest).length) =
        List.range' start count ++ List.range' (start + count) (rangePages rest).length := by
      rw [List.range'_append_1]
    rw [joined, List.length_append, List.length_range', split, Contiguous, ← ih]
    constructor
    · intro same
      obtain ⟨front, behind⟩ := List.append_inj same (by rw [List.length_range', List.length_range'])
      refine ⟨fun some => ?_, behind⟩
      obtain ⟨fewer, rfl⟩ := Nat.exists_eq_add_of_lt some
      rw [Nat.zero_add, List.range'_succ, List.range'_succ] at front
      exact (List.cons.inj front).1
    · rintro ⟨begins, behind⟩
      rcases Nat.eq_zero_or_pos count with rfl | some
      · exact behind
      · rw [begins some, ← behind]

/-- The range of an entry that is free. -/
def freeRange (entry : Entry) : Option (Nat × Nat) :=
  if entry.type = MEMORY_TYPE_FREE then
    some (entry.address.toNat / 4096, entry.length.toNat / 4096)
  else none

/-- The pages of the free entries, in the order of the map. -/
def freePages (entries : List Entry) : List Nat := rangePages (entries.filterMap freeRange)

/-- A range without pages at the end leaves a page mapped behind all others. -/
def strayPage : List (Nat × Nat) → List Nat → List Nat
  | [], stray => stray
  | (first, count) :: rest, _ => strayPage rest (if count = 0 then [first] else [])

/-! ## What the table shows -/

/-- The word of a page among pages in a row, which is empty behind them. -/
def laidWord (frames : List Nat) (index : Nat) : BitVec 64 :=
  match frames[index]? with
  | some frame => pageWord (BitVec.ofNat 64 (4096 * frame))
  | none => 0

/-- The pages from an address on are mapped to `frames`, with a stray one behind them, and no
other page is. -/
structure Laid (answers : Nat → BitVec 64) (root virtualStart : BitVec 64) (frames stray : List Nat)
    (state : State) : Prop where
  shaped : WellShaped answers root state
  leaves : ∀ page, leafEntry state.memory root page =
    laidWord (frames ++ stray) (pagesBehind (pageOf virtualStart) page)
  single : stray.length ≤ 1

theorem laidWord_front {frames : List Nat} {index : Nat} (before : index < frames.length)
    (more : List Nat) : laidWord (frames ++ more) index = laidWord frames index := by
  rw [laidWord, laidWord, List.getElem?_append_left before]

theorem laidWord_range (frames : List Nat) {first count index : Nat}
    (inside : frames.length ≤ index ∧ index < frames.length + count) :
    laidWord (frames ++ List.range' first count) index =
      pageWord (BitVec.ofNat 64 (4096 * (first + (index - frames.length)))) := by
  rw [laidWord, List.getElem?_append_right inside.1, List.getElem?_range' (by omega), Nat.one_mul]

theorem laidWord_behind {frames : List Nat} {index : Nat} (behind : frames.length ≤ index) :
    laidWord frames index = 0 := by
  rw [laidWord, List.getElem?_eq_none behind]

section Laws

variable {answers : Nat → BitVec 64} {root virtualStart : BitVec 64} {frames stray : List Nat}
  {state : State}

theorem downToPage_eq (address : BitVec 64) :
    downToPage address = BitVec.ofNat 64 (4096 * (address.toNat / 4096)) := by
  have part : (address % SIZE_4KB).toNat = address.toNat % 4096 := by
    rw [BitVec.toNat_umod, show SIZE_4KB.toNat = 4096 from rfl]
  have bound := address.isLt
  apply BitVec.eq_of_toNat_eq
  rw [downToPage, BitVec.toNat_ofNat]
  split_ifs with aligned
  · have start : address.toNat % 4096 = 0 := by
      rw [← part, aligned]
      rfl
    omega
  · rw [BitVec.toNat_sub, part]
    omega

/-- A page that lies behind some pages of a row. -/
theorem pagesBehind_add (first page : BitVec 36) {count : Nat} (small : count < 2 ^ 36) :
    pagesBehind (first + BitVec.ofNat 36 count) page =
      (pagesBehind first page + (2 ^ 36 - count)) % 2 ^ 36 := by
  have first_bound := first.isLt
  have page_bound := page.isLt
  rw [pagesBehind, pagesBehind, BitVec.toNat_sub, BitVec.toNat_sub, BitVec.toNat_add,
    BitVec.toNat_ofNat]
  omega

/-- For a size of zero one page is mapped all the same. -/
theorem mapOrCreateRange_empty (physStart virtStart : BitVec 64) :
    mapOrCreateRange answers root physStart virtStart 0 state =
      mapOrCreateRange answers root physStart virtStart SIZE_4KB state := by
  have fuel : (0 : BitVec 64).toNat / 4096 + 1 = 1 := rfl
  have once : ¬ (0 + SIZE_4KB < (0 : BitVec 64)) := by decide
  have offset : ((0 : BitVec 32) * 0x1000).signExtend 64 = 0 := rfl
  have unmoved (address : BitVec 64) : address + 0 = address := BitVec.add_zero address
  rw [mapOrCreateRange_page, mapOrCreateRange, fuel, mapOrCreateRangeLoop]
  simp only [offset, unmoved, once, ↓reduceIte]
  rcases mapPage_code answers root physStart virtStart state with succeeded | failed
  · rw [succeeded, if_neg (by decide), ← succeeded]
  · rw [failed, if_pos (by decide), ← failed]

/-- The tables of the pages that have been mapped are in the heap's first answers, while it has
them. -/
def KeepsCount (answers : Nat → BitVec 64) (base : Nat) (needed : Finset (List (BitVec 9)))
    (root : BitVec 64) (state : State) : Prop :=
  Enough answers base needed → Counted needed root base state

section Ranges

variable {base total : Nat}

/-- One range more, unless the heap is full. -/
theorem Laid.range (fresh : FreshPages answers)
    (laid : Laid answers root virtualStart frames stray state)
    (counted : KeepsCount answers base (rowPaths (pageOf virtualStart) total) root state)
    (first : Nat) {count : Nat} (small : 4096 * count ≤ 2 ^ 31)
    (inside : frames.length + count < total) (room : total < 2 ^ 36) :
    ∃ ret after, mapOrCreateRange answers root (BitVec.ofNat 64 (4096 * first))
        (virtualStart + BitVec.ofNat 64 (4096 * frames.length)) (BitVec.ofNat 64 (4096 * count)) state =
          some (ret, after) ∧
      (ret = SUCCESS ∧ Laid answers root virtualStart (frames ++ List.range' first count)
        (if count = 0 then [first] else []) after ∧
        KeepsCount answers base (rowPaths (pageOf virtualStart) total) root after ∨
          ret = -ENMEM ∧ ¬ Enough answers base (rowPaths (pageOf virtualStart) total)) := by
  have size_toNat : (BitVec.ofNat 64 (4096 * count)).toNat = 4096 * count := by
    rw [BitVec.toNat_ofNat]
    omega
  have served (enough : Enough answers base (rowPaths (pageOf virtualStart) total)) :=
    (counted enough).mapOrCreateRange laid.shaped fresh enough rowPaths_length
      (BitVec.ofNat 64 (4096 * first)) (virtualStart + BitVec.ofNat 64 (4096 * frames.length))
      (BitVec.ofNat 64 (4096 * count)) (by omega) (by
        intro c here
        rw [size_toNat] at here
        rw [counterOffset_small c (by omega), BitVec.add_assoc, ← BitVec.ofNat_add, ← Nat.mul_add,
          pageOf_add]
        exact mem_rowPaths _ (by omega))
  obtain ⟨pages, passes, size, whole⟩ : ∃ pages, pages = max 1 count ∧ ∃ size : BitVec 64,
      size.toNat = 4096 * pages ∧
        mapOrCreateRange answers root (BitVec.ofNat 64 (4096 * first))
          (virtualStart + BitVec.ofNat 64 (4096 * frames.length)) (BitVec.ofNat 64 (4096 * count)) state =
        mapOrCreateRange answers root (BitVec.ofNat 64 (4096 * first))
          (virtualStart + BitVec.ofNat 64 (4096 * frames.length)) size state := by
    rcases Nat.eq_zero_or_pos count with rfl | some
    · exact ⟨1, rfl, SIZE_4KB, rfl, mapOrCreateRange_empty _ _⟩
    · exact ⟨count, (Nat.max_eq_right some).symm, _, size_toNat, rfl⟩
  obtain ⟨whole, same⟩ := whole
  obtain ⟨ret, after, ran, outcome⟩ := mapOrCreateRange_maps fresh laid.shaped
    (BitVec.ofNat 64 (4096 * first)) (virtualStart + BitVec.ofNat 64 (4096 * frames.length)) whole
    (by omega) (by omega)
  have kept (enough : Enough answers base (rowPaths (pageOf virtualStart) total)) :
      ret = SUCCESS ∧ Counted (rowPaths (pageOf virtualStart) total) root base after := by
    obtain ⟨final, mapped, final_counted⟩ := served enough
    cases mapped.symm.trans (same.trans ran)
    exact ⟨rfl, final_counted⟩
  have failed : SUCCESS ≠ -ENMEM := by decide
  refine ⟨ret, after, same.trans ran, outcome.imp ?_ fun full =>
    ⟨full, fun enough => failed ((kept enough).1.symm.trans full)⟩⟩
  rintro ⟨succeeded, maps⟩
  have single := laid.single
  refine ⟨succeeded, ⟨maps.shaped, fun page => ?_, by split_ifs <;> simp⟩, fun enough => (kept enough).2⟩
  have bound : pagesBehind (pageOf virtualStart) page < 2 ^ 36 := (page - pageOf virtualStart).isLt
  rw [maps.leaves, laid.leaves, pageOf_add, pagesBehind_add _ _ (by omega)]
  generalize pagesBehind (pageOf virtualStart) page = index at bound ⊢
  have joined : frames ++ List.range' first count ++ (if count = 0 then [first] else []) =
      frames ++ List.range' first pages := by
    rw [List.append_assoc, passes]
    rcases Nat.eq_zero_or_pos count with rfl | some
    · rfl
    · rw [if_neg (Nat.ne_of_gt some), List.append_nil, Nat.max_eq_right some]
  rw [joined]
  by_cases before : index < frames.length
  · rw [if_neg (by omega), laidWord_front before, laidWord_front before]
  by_cases within : index < frames.length + pages
  · have place : (index + (2 ^ 36 - frames.length)) % 2 ^ 36 = index - frames.length := by omega
    rw [place, if_pos (by omega), laidWord_range frames ⟨by omega, within⟩, ← BitVec.ofNat_add,
      ← Nat.mul_add]
  · rw [if_neg (by omega), laidWord_behind, laidWord_behind]
    · rw [List.length_append, List.length_range']
      omega
    · rw [List.length_append]
      omega

/-- The free ranges are not longer than the counter of `mapOrCreateRange` can count. -/
def ShortRanges (entries : List Entry) : Prop :=
  ∀ range ∈ entries.filterMap freeRange, 4096 * range.2 ≤ 2 ^ 31

/-- All the entries. -/
theorem Laid.entries (fresh : FreshPages answers) (entries : List Entry) {frames stray : List Nat}
    {state : State} (laid : Laid answers root virtualStart frames stray state)
    (counted : KeepsCount answers base (rowPaths (pageOf virtualStart) total) root state)
    (short : ShortRanges entries) (inside : frames.length + (freePages entries).length < total)
    (room : total < 2 ^ 36) :
    ∃ ret after, mapFreeEntries answers root virtualStart entries
        (BitVec.ofNat 64 (4096 * frames.length)) state = some (ret, after) ∧
      (ret = SUCCESS ∧ Laid answers root virtualStart (frames ++ freePages entries)
        (strayPage (entries.filterMap freeRange) stray) after ∨
          ret = -ENMEM ∧ ¬ Enough answers base (rowPaths (pageOf virtualStart) total)) := by
  induction entries generalizing frames stray state with
  | nil =>
    refine ⟨SUCCESS, state, rfl, .inl ⟨rfl, ?_⟩⟩
    rwa [freePages, rangePages, List.filterMap_nil, List.flatMap_nil, List.append_nil, strayPage]
  | cons entry rest ih =>
    rw [mapFreeEntries]
    by_cases free : entry.type = MEMORY_TYPE_FREE
    · have range : freeRange entry = some (entry.address.toNat / 4096, entry.length.toNat / 4096) :=
        if_pos free
      have pages : freePages (entry :: rest) =
          List.range' (entry.address.toNat / 4096) (entry.length.toNat / 4096) ++ freePages rest := by
        rw [freePages, List.filterMap_cons_some range]
        rfl
      rw [ShortRanges, List.filterMap_cons_some range] at short
      rw [pages, List.length_append, List.length_range'] at inside
      obtain ⟨ret, after, ran, outcome⟩ := laid.range fresh counted (entry.address.toNat / 4096)
        (short _ List.mem_cons_self) (by omega) room
      rw [if_pos free, downToPage_eq, downToPage_eq]
      dsimp only
      rw [ran, List.filterMap_cons_some range, strayPage]
      dsimp only
      rcases outcome with ⟨rfl, next, next_counted⟩ | ⟨rfl, full⟩
      · rw [if_neg (by decide), ← BitVec.ofNat_add, ← Nat.mul_add]
        have onward := ih next next_counted (fun range member => short range (List.mem_cons_of_mem _ member))
          (by rw [List.length_append, List.length_range']; omega)
        rwa [List.length_append, List.length_range', List.append_assoc, ← pages] at onward
      · rw [if_pos (by decide)]
        exact ⟨_, after, rfl, .inr ⟨rfl, full⟩⟩
    · have range : freeRange entry = none := if_neg free
      have pages : freePages (entry :: rest) = freePages rest := by
        rw [freePages, List.filterMap_cons_none range, freePages]
      rw [if_neg free, pages, List.filterMap_cons_none range]
      rw [ShortRanges, List.filterMap_cons_none range] at short
      exact ih laid counted short (by rwa [← pages])

end Ranges

/-- A new table is empty. -/
theorem kzalloc_laid (fresh : FreshPages answers) (virtualStart : BitVec 64)
    (nonzero : (kzalloc answers state).1 ≠ 0) :
    Laid answers (kzalloc answers state).1 virtualStart [] [] (kzalloc answers state).2 := by
  have created : createEmptyPageTable answers state =
    ((kzalloc answers state).1, (kzalloc answers state).2) := rfl
  refine ⟨createEmptyPageTable_shaped fresh created nonzero, fun page => ?_, Nat.zero_le 1⟩
  refine leafEntry_absent (Option.eq_none_iff_forall_ne_some.mpr fun table reached => ?_)
  cases (createEmptyPageTable_reach fresh created nonzero reached).1

/-- The kernel's table shows the free pages in a row. There is none only where the heap does not
have as many pages as there are tables. -/
theorem createKernelTable_laid (fresh : FreshPages answers) (virtualStart : BitVec 64)
    (map : MemoryMap.State) (state : State) (short : ShortRanges (mapEntries map))
    (room : (freePages (mapEntries map)).length + 1 < 2 ^ 36) :
    ∃ root after, createKernelTable answers virtualStart map state = some (root, after) ∧
      (root ≠ 0 ∧ Laid answers root virtualStart (freePages (mapEntries map))
        (strayPage ((mapEntries map).filterMap freeRange) []) after ∨
          root = 0 ∧ ¬ Granted answers state
            ((rowPaths (pageOf virtualStart) ((freePages (mapEntries map)).length + 1)).card + 1)) := by
  rw [createKernelTable]
  dsimp only
  by_cases zero : (kzalloc answers state).1 = 0
  · rw [if_pos zero]
    exact ⟨0, _, rfl, .inr ⟨rfl, fun granted => granted 0 (Nat.succ_pos _) zero⟩⟩
  · rw [if_neg zero]
    have counted : KeepsCount answers (kzalloc answers state).2.requests
        (rowPaths (pageOf virtualStart) ((freePages (mapEntries map)).length + 1))
        (kzalloc answers state).1 (kzalloc answers state).2 :=
      fun _ => ⟨Nat.le_refl _, Nat.le_add_right _ _⟩
    obtain ⟨ret, after, ran, outcome⟩ := (kzalloc_laid fresh virtualStart zero).entries fresh
      (mapEntries map) counted short (by rw [List.length_nil]; omega) room
    have start : BitVec.ofNat 64 (4096 * ([] : List Nat).length) = 0 := rfl
    rw [start] at ran
    rw [ran]
    dsimp only
    rcases outcome with ⟨rfl, laid⟩ | ⟨rfl, full⟩
    · rw [if_neg (by decide)]
      exact ⟨_, after, rfl, .inl ⟨zero, laid⟩⟩
    · rw [if_pos (by decide)]
      refine ⟨0, after, rfl, .inr ⟨rfl, fun granted => full fun j below => ?_⟩⟩
      have next := granted (j + 1) (Nat.succ_lt_succ below)
      rwa [Nat.add_comm j, ← Nat.add_assoc] at next

/-- An address translates to its page among the free ones. -/
theorem Laid.translates (laid : Laid answers root virtualStart frames stray state)
    (virtual : BitVec 64) {frame : Nat} (small : frame < 2 ^ 36)
    (here : frames[pagesBehind (pageOf virtualStart) (pageOf virtual)]? = some frame) :
    (virtualToPhysical virtual root state.memory).toNat = 4096 * frame + virtual.toNat % 4096 := by
  have before : pagesBehind (pageOf virtualStart) (pageOf virtual) < frames.length :=
    (List.getElem?_eq_some_iff.mp here).1
  have leaf := laid.leaves (pageOf virtual)
  rw [laidWord_front before, laidWord, here] at leaf
  have physical : (BitVec.ofNat 64 (4096 * frame)).toNat = 4096 * frame := by
    rw [BitVec.toNat_ofNat]
    omega
  rw [virtualToPhysical_mapped laid.shaped virtual (by omega) leaf, physical]
  omega

/-- From address zero on, all pages are mapped to themselves exactly if the ranges are in a row
from the first page on. -/
theorem Laid.identity_iff (laid : Laid answers root 0 frames stray state)
    (small : ∀ frame ∈ frames, frame < 2 ^ 36) (room : frames.length ≤ 2 ^ 36) :
    (∀ virtual : BitVec 64, virtual.toNat < 4096 * frames.length →
      virtualToPhysical virtual root state.memory = virtual) ↔
        frames = List.range' 0 frames.length := by
  have place (virtual : BitVec 64) (inside : virtual.toNat < 4096 * frames.length) :
      pagesBehind (pageOf 0) (pageOf virtual) = virtual.toNat / 4096 := by
    have first : (pageOf 0).toNat = 0 := rfl
    rw [pagesBehind, BitVec.toNat_sub, first, pageOf_toNat]
    omega
  constructor
  · intro same
    refine List.ext_getElem? fun index => ?_
    by_cases inside : index < frames.length
    · have page : (BitVec.ofNat 64 (4096 * index)).toNat = 4096 * index := by
        rw [BitVec.toNat_ofNat]
        omega
      have below : (BitVec.ofNat 64 (4096 * index)).toNat < 4096 * frames.length := by omega
      obtain ⟨frame, here⟩ : ∃ frame, frames[index]? = some frame :=
        ⟨_, List.getElem?_eq_getElem inside⟩
      have at_index : pagesBehind (pageOf 0) (pageOf (BitVec.ofNat 64 (4096 * index))) = index := by
        rw [place _ below, page]
        omega
      have translated := laid.translates (BitVec.ofNat 64 (4096 * index))
        (small frame (List.mem_of_getElem? here)) (by rwa [at_index])
      rw [same _ below, page] at translated
      rw [here, List.getElem?_range' inside]
      congr 1
      omega
    · rw [List.getElem?_eq_none (by omega), List.getElem?_eq_none (by rw [List.length_range']; omega)]
  · intro row virtual inside
    apply BitVec.eq_of_toNat_eq
    have index : virtual.toNat / 4096 < frames.length := by omega
    have here : frames[pagesBehind (pageOf 0) (pageOf virtual)]? = some (virtual.toNat / 4096) := by
      rw [place virtual inside, row, List.getElem?_range' index]
      congr 1
      omega
    have narrow : virtual.toNat / 4096 < 2 ^ 36 := by omega
    rw [laid.translates virtual narrow here]
    omega

end Laws

end BobaOS.Paging
