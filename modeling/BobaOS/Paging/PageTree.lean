import Mathlib.Data.BitVec
import Mathlib.Tactic.Ring
import BobaOS.Library.TableTree
import BobaOS.Paging.PageTables

/-!
# The tree of page tables

A virtual address names a page by its bits 12 to 47, and the tables associate a
leaf word with a page. The independence of two pages comes from the shape of the
table tree: tables are reached along one path only, since each is a page the heap
never handed out before, and the masks give every table's address back exactly.
Each function of the source is given one law over that shape.
-/

namespace BobaOS.Paging

open TableTree

/-! ## Addresses and masks -/

/-- A page number: bits 12 to 47 of a virtual address. -/
def pageOf (virtual : BitVec 64) : BitVec 36 := (virtual >>> 12).setWidth 36

/-- The slots followed from the root to the page table of a page. -/
def slotsAbove (page : BitVec 36) : List (BitVec 9) :=
  [(page >>> 27).setWidth 9, (page >>> 18).setWidth 9, (page >>> 9).setWidth 9]

/-- The slot of a page in its page table. -/
def lastSlot (page : BitVec 36) : BitVec 9 := page.setWidth 9

theorem slotsAbove_length (page : BitVec 36) : (slotsAbove page).length = 3 := rfl

/-- The four slots of a page determine it. -/
theorem page_unique (left right : BitVec 36) (above : slotsAbove left = slotsAbove right)
    (last : lastSlot left = lastSlot right) : left = right := by
  simp only [slotsAbove, List.cons.injEq, and_true, BitVec.toNat_eq, BitVec.toNat_setWidth,
    BitVec.toNat_ushiftRight, Nat.shiftRight_eq_div_pow, lastSlot] at above last
  apply BitVec.eq_of_toNat_eq
  have leftBound := left.isLt
  have rightBound := right.isLt
  omega

/-- The index the source computes from an address at a level is the 9-bit slot
at that shift. -/
theorem index_slot (virtual : BitVec 64) (shift : Nat) :
    (virtual >>> shift &&& FULL_512).setWidth 16 =
      ((virtual >>> shift).setWidth 9).setWidth 16 := by
  apply BitVec.eq_of_toNat_eq
  simp only [FULL_512, BitVec.toNat_setWidth, BitVec.toNat_and]
  rw [show (0x1FF : BitVec 64).toNat = 2 ^ 9 - 1 from rfl, Nat.and_two_pow_sub_one_eq_mod]

theorem getPml4Index_page (virtual : BitVec 64) : getPml4IndexFromVirtual virtual =
    ((pageOf virtual >>> 27).setWidth 9).setWidth 16 := by
  rw [getPml4IndexFromVirtual, index_slot]
  congr 1
  apply BitVec.eq_of_toNat_eq
  simp only [pageOf, SHIFT_PML4, BitVec.toNat_setWidth, BitVec.toNat_ushiftRight,
    Nat.shiftRight_eq_div_pow]
  omega

theorem getPdpIndex_page (virtual : BitVec 64) : getPdpIndexFromVirtual virtual =
    ((pageOf virtual >>> 18).setWidth 9).setWidth 16 := by
  rw [getPdpIndexFromVirtual, index_slot]
  congr 1
  apply BitVec.eq_of_toNat_eq
  simp only [pageOf, SHIFT_PDP, BitVec.toNat_setWidth, BitVec.toNat_ushiftRight,
    Nat.shiftRight_eq_div_pow]
  omega

theorem getPdIndex_page (virtual : BitVec 64) : getPdIndexFromVirtual virtual =
    ((pageOf virtual >>> 9).setWidth 9).setWidth 16 := by
  rw [getPdIndexFromVirtual, index_slot]
  congr 1
  apply BitVec.eq_of_toNat_eq
  simp only [pageOf, SHIFT_PD, BitVec.toNat_setWidth, BitVec.toNat_ushiftRight,
    Nat.shiftRight_eq_div_pow]
  omega

theorem getPtIndex_page (virtual : BitVec 64) :
    getPtIndexFromVirtual virtual = (lastSlot (pageOf virtual)).setWidth 16 := by
  rw [getPtIndexFromVirtual, index_slot]
  congr 1
  apply BitVec.eq_of_toNat_eq
  simp only [pageOf, lastSlot, SHIFT_PT, BitVec.toNat_setWidth, BitVec.toNat_ushiftRight,
    Nat.shiftRight_eq_div_pow]
  omega

/-- A page-aligned address below 2^48. -/
structure PageAligned (address : BitVec 64) : Prop where
  aligned : address.toNat % 4096 = 0
  small : address.toNat < 2 ^ 48

/-- Words of a page-aligned table lie behind its address, eight bytes apart. -/
theorem entryAddress_toNat (table : BitVec 64) (valid : PageAligned table) (slot : BitVec 9) :
    (entryAddress table (slot.setWidth 16)).toNat = table.toNat + slot.toNat * 8 := by
  have tableBound := valid.small
  have slotBound := slot.isLt
  have eight : (8 : BitVec 64).toNat = 8 := rfl
  simp only [entryAddress, BitVec.toNat_add, BitVec.toNat_mul, BitVec.toNat_setWidth, eight]
  omega

/-- Two slots of page-aligned tables are the same word only as the same slot of
the same table. -/
theorem entryAddress_injective (left right : BitVec 64) (leftValid : PageAligned left)
    (rightValid : PageAligned right) (leftSlot rightSlot : BitVec 9) :
    entryAddress left (leftSlot.setWidth 16) = entryAddress right (rightSlot.setWidth 16) ↔
      left = right ∧ leftSlot = rightSlot := by
  have leftAligned := leftValid.aligned
  have rightAligned := rightValid.aligned
  have leftBound := leftSlot.isLt
  have rightBound := rightSlot.isLt
  rw [BitVec.toNat_eq, entryAddress_toNat left leftValid, entryAddress_toNat right rightValid,
    BitVec.toNat_eq, BitVec.toNat_eq]
  omega

/-- The words of a table are those in its page. -/
theorem entryAddress_inPage (table page : BitVec 64) (tableValid : PageAligned table)
    (pageValid : PageAligned page) (slot : BitVec 9) :
    InPage page (entryAddress table (slot.setWidth 16)) ↔ table = page := by
  have tableAligned := tableValid.aligned
  have pageAligned := pageValid.aligned
  have slotBound := slot.isLt
  rw [InPage, entryAddress_toNat table tableValid, BitVec.toNat_eq]
  omega

theorem storedAddress_bit (i : Nat) :
    STORED_ADDRESS.getLsbD i = decide (12 ≤ i ∧ i < 48) := by
  by_cases wide : i < 64
  · have all : ∀ i : Fin 64, STORED_ADDRESS.getLsbD i = decide (12 ≤ i.val ∧ i.val < 48) := by decide
    exact all ⟨i, wide⟩
  · rw [BitVec.getLsbD_of_ge _ _ (by omega)]
    simp
    omega

theorem entryAddress_bit (i : Nat) (wide : i < 64) :
    ENTRY_ADDRESS.getLsbD i = decide (12 ≤ i) := by
  have all : ∀ i : Fin 64, ENTRY_ADDRESS.getLsbD i = decide (12 ≤ i.val) := by decide
  exact all ⟨i, wide⟩

/-- A page-aligned address has no other bits than the stored ones. -/
theorem PageAligned.bit {address : BitVec 64} (valid : PageAligned address) (i : Nat)
    (outside : ¬ (12 ≤ i ∧ i < 48)) : address.getLsbD i = false := by
  have multiple : address.toNat = address.toNat / 4096 * 2 ^ 12 := by
    have aligned := valid.aligned
    omega
  by_cases low : i < 12
  · rw [BitVec.getLsbD, multiple, Nat.testBit_mul_two_pow, decide_eq_false (by omega),
      Bool.false_and]
  · exact Nat.testBit_lt_two_pow (Nat.lt_of_lt_of_le valid.small
      (Nat.pow_le_pow_right (by decide) (by omega)))

/-- Storing a page-aligned address loses no bit of it. -/
theorem PageAligned.stored {address : BitVec 64} (valid : PageAligned address) :
    address &&& STORED_ADDRESS = address := by
  apply BitVec.eq_of_getLsbD_eq
  intro i _
  rw [BitVec.getLsbD_and, storedAddress_bit]
  by_cases inside : 12 ≤ i ∧ i < 48
  · simp [inside]
  · simp [inside, valid.bit i inside]

/-- Masking a stored table entry gives the table's address back. -/
theorem PageAligned.recovered {address : BitVec 64} (valid : PageAligned address) :
    (address &&& STORED_ADDRESS ||| (PAGING_FLAG_P ||| PAGING_FLAG_RW).setWidth 64) &&&
      ENTRY_ADDRESS = address := by
  have flags : ∀ i : Fin 64, ((PAGING_FLAG_P ||| PAGING_FLAG_RW).setWidth 64 : BitVec 64).getLsbD i =
      decide (i.val < 2) := by decide
  rw [valid.stored]
  apply BitVec.eq_of_getLsbD_eq
  intro i wide
  have flag := flags ⟨i, wide⟩
  simp only at flag
  rw [BitVec.getLsbD_and, BitVec.getLsbD_or, entryAddress_bit i wide, flag]
  by_cases low : 12 ≤ i
  · simp [low, show ¬ i < 2 by omega]
  · simp [low, valid.bit i (by omega)]

/-- Masking the bare address of a table changes nothing either. -/
theorem PageAligned.masked {address : BitVec 64} (valid : PageAligned address) :
    address &&& ENTRY_ADDRESS = address := by
  apply BitVec.eq_of_getLsbD_eq
  intro i wide
  rw [BitVec.getLsbD_and, entryAddress_bit i wide]
  by_cases low : 12 ≤ i
  · simp [low]
  · simp [low, valid.bit i (by omega)]

/-! ## The tree of tables -/

/-- The kernel heap's answers: page-aligned addresses below 2^48, zero when there
is no room, and no page handed out twice. -/
structure FreshPages (answers : Nat → BitVec 64) : Prop where
  valid : ∀ request, PageAligned (answers request)
  distinct : ∀ earlier later, earlier < later → answers later ≠ 0 →
    answers earlier ≠ answers later

/-- The table an inner entry names. -/
def childTable (word : BitVec 64) : Option (BitVec 64) :=
  if word &&& ENTRY_ADDRESS = 0 then none else some (word &&& ENTRY_ADDRESS)

/-- The slots of a table in memory. -/
def slots (memory : Memory) (table : BitVec 64) (slot : BitVec 9) : BitVec 64 :=
  memory (entryAddress table (slot.setWidth 16))

/-- The table at the end of a path from the root. -/
abbrev reach (memory : Memory) (root : BitVec 64) (path : List (BitVec 9)) : Option (BitVec 64) :=
  tableAt childTable (slots memory) root path

/-- The leaf word of a page, zero where there is no page table. -/
def leafEntry (memory : Memory) (root : BitVec 64) (page : BitVec 36) : BitVec 64 :=
  match reach memory root (slotsAbove page) with
  | none => 0
  | some table => slots memory table (lastSlot page)

theorem leafEntry_reached {memory : Memory} {root table : BitVec 64} {page : BitVec 36}
    (reached : reach memory root (slotsAbove page) = some table) :
    leafEntry memory root page = slots memory table (lastSlot page) := by
  simp only [leafEntry, reached]

theorem leafEntry_absent {memory : Memory} {root : BitVec 64} {page : BitVec 36}
    (absent : reach memory root (slotsAbove page) = none) : leafEntry memory root page = 0 := by
  simp only [leafEntry, absent]

/-- A stored entry for a nonzero table names that table. -/
theorem childTable_stored {table : BitVec 64} (valid : PageAligned table) (nonzero : table ≠ 0) :
    childTable (table &&& STORED_ADDRESS ||| (PAGING_FLAG_P ||| PAGING_FLAG_RW).setWidth 64) =
      some table := by
  rw [childTable, valid.recovered, if_neg nonzero]

theorem childTable_zero : childTable 0 = none := rfl

section Shape

variable (answers : Nat → BitVec 64) (root : BitVec 64)

/-- The shape of the tree: every table is a page the heap handed out, it is
reached along one path only, and an inner slot that names no table is zero. -/
structure WellShaped (state : State) : Prop where
  separate : Separate childTable (slots state.memory) root 3
  owned : ∀ path table, path.length ≤ 3 → reach state.memory root path = some table →
    table ≠ 0 ∧ ∃ request < state.requests, answers request = table
  vacant : ∀ path table slot, path.length < 3 → reach state.memory root path = some table →
    childTable (slots state.memory table slot) = none → slots state.memory table slot = 0

/-- What creating tables may do: the tree keeps its shape and its tables, and no
leaf changes. -/
structure Extends (before after : State) : Prop where
  shaped : WellShaped answers root after
  kept : ∀ path table, path.length ≤ 3 → reach before.memory root path = some table →
    reach after.memory root path = some table
  leaves : ∀ page, leafEntry after.memory root page = leafEntry before.memory root page

end Shape

variable {answers : Nat → BitVec 64} {root : BitVec 64}

theorem Extends.trans {first second third : State} (early : Extends answers root first second)
    (late : Extends answers root second third) : Extends answers root first third where
  shaped := late.shaped
  kept path table bounded reached := late.kept path table bounded (early.kept path table bounded reached)
  leaves page := (late.leaves page).trans (early.leaves page)

/-- Every table of the tree is page aligned. -/
theorem WellShaped.valid {state : State} (shaped : WellShaped answers root state)
    (fresh : FreshPages answers) {path : List (BitVec 9)} {table : BitVec 64}
    (bounded : path.length ≤ 3) (reached : reach state.memory root path = some table) :
    PageAligned table := by
  obtain ⟨_, request, _, answer⟩ := shaped.owned path table bounded reached
  exact answer ▸ fresh.valid request

/-- The shape depends on the memory only; further requests do no harm. -/
theorem WellShaped.later {state : State} (shaped : WellShaped answers root state)
    (requests : Nat) (later : state.requests ≤ requests) :
    WellShaped answers root { state with requests } where
  separate := shaped.separate
  owned path table bounded reached := by
    obtain ⟨nonzero, request, earlier, answer⟩ := shaped.owned path table bounded reached
    exact ⟨nonzero, request, Nat.lt_of_lt_of_le earlier later, answer⟩
  vacant := shaped.vacant

/-- The next page the heap hands out is none of the tables of the tree. -/
theorem WellShaped.unused {state : State} (shaped : WellShaped answers root state)
    (fresh : FreshPages answers) (nonzero : answers state.requests ≠ 0) (path : List (BitVec 9))
    (bounded : path.length ≤ 3) : reach state.memory root path ≠ some (answers state.requests) := by
  intro reached
  obtain ⟨_, request, earlier, answer⟩ := shaped.owned path _ bounded reached
  exact fresh.distinct request state.requests earlier nonzero answer

/-- Memory after the page just handed out has been cleared and linked. -/
def linkedMemory (answers : Nat → BitVec 64) (state : State) (table : BitVec 64)
    (slot : BitVec 9) : Memory :=
  Function.update
    (fun address => if InPage (answers state.requests) address then 0 else state.memory address)
    (entryAddress table (slot.setWidth 16))
    (answers state.requests &&& STORED_ADDRESS ||| (PAGING_FLAG_P ||| PAGING_FLAG_RW).setWidth 64)

section Linking

variable {state : State} (shaped : WellShaped answers root state) (fresh : FreshPages answers)
  {path : List (BitVec 9)} {table : BitVec 64} {slot : BitVec 9} (inner : path.length < 3)
  (reached : reach state.memory root path = some table)
  (empty : slots state.memory table slot = 0) (nonzero : answers state.requests ≠ 0)

include shaped fresh inner reached in
/-- The linked memory, slot by slot. -/
theorem slots_linked (other : BitVec 64) (tested : BitVec 9) (valid : PageAligned other) :
    slots (linkedMemory answers state table slot) other tested =
      if other = table ∧ tested = slot then
        answers state.requests &&& STORED_ADDRESS |||
          (PAGING_FLAG_P ||| PAGING_FLAG_RW).setWidth 64
      else if other = answers state.requests then 0 else slots state.memory other tested := by
  have tableValid : PageAligned table := shaped.valid fresh (Nat.le_of_lt inner) reached
  simp only [slots, linkedMemory, Function.update_apply,
    entryAddress_injective other table valid tableValid,
    entryAddress_inPage other (answers state.requests) valid (fresh.valid _)]

include shaped fresh inner reached nonzero in
/-- The slots of the new table are zero. -/
theorem slots_linked_new (tested : BitVec 9) :
    slots (linkedMemory answers state table slot) (answers state.requests) tested = 0 := by
  have elsewhere : ¬ (answers state.requests = table ∧ tested = slot) := fun same =>
    shaped.unused fresh nonzero path (Nat.le_of_lt inner) (same.1 ▸ reached)
  rw [slots_linked shaped fresh inner reached _ _ (fresh.valid _), if_neg elsewhere, if_pos rfl]

include shaped fresh inner reached nonzero in
/-- The other slots of the tree hold what they held. -/
theorem slots_linked_old {other : List (BitVec 9)} {found : BitVec 64} (tested : BitVec 9)
    (bounded : other.length ≤ 3) (foundReached : reach state.memory root other = some found)
    (elsewhere : ¬ (found = table ∧ tested = slot)) :
    slots (linkedMemory answers state table slot) found tested =
      slots state.memory found tested := by
  have old : found ≠ answers state.requests := fun same =>
    shaped.unused fresh nonzero other bounded (same ▸ foundReached)
  rw [slots_linked shaped fresh inner reached _ _ (shaped.valid fresh bounded foundReached),
    if_neg elsewhere, if_neg old]

include shaped fresh inner reached empty nonzero

/-- Linking the page just handed out at a vacant slot is a link of the tree. -/
theorem WellShaped.links :
    Links childTable (slots state.memory) (slots (linkedMemory answers state table slot))
      root 3 path slot table (answers state.requests) := by
  have tableValid : PageAligned table := shaped.valid fresh (Nat.le_of_lt inner) reached
  refine ⟨inner, reached, ?_, ?_, ?_, shaped.unused fresh nonzero, ?_⟩
  · rw [empty]
    exact childTable_zero
  · rw [slots_linked shaped fresh inner reached _ _ tableValid, if_pos ⟨rfl, rfl⟩]
    exact childTable_stored (fresh.valid _) nonzero
  · intro other
    rw [slots_linked_new shaped fresh inner reached nonzero]
    exact childTable_zero
  · intro other otherTable otherSlot above otherReached elsewhere
    rw [slots_linked_old shaped fresh inner reached nonzero otherSlot (Nat.le_of_lt above)
      otherReached elsewhere]

/-- Paths after linking: one more, and the others as before. -/
theorem WellShaped.link_reach (tested : List (BitVec 9)) (bounded : tested.length ≤ 3) :
    reach (linkedMemory answers state table slot) root tested =
      if tested = path ++ [slot] then some (answers state.requests)
      else reach state.memory root tested :=
  (shaped.links fresh inner reached empty nonzero).tableAt shaped.separate tested bounded

/-- Before linking nothing was reached below the vacant slot. -/
theorem WellShaped.link_vacant : reach state.memory root (path ++ [slot]) = none := by
  have links := shaped.links fresh inner reached empty nonzero
  rw [reach, tableAt_append, links.reached]
  exact links.vacant

/-- Linking keeps the shape of the tree. -/
theorem WellShaped.link_shaped :
    WellShaped answers root ⟨linkedMemory answers state table slot, state.requests + 1⟩ := by
  have reaches := shaped.link_reach fresh inner reached empty nonzero
  refine ⟨(shaped.links fresh inner reached empty nonzero).separate shaped.separate, ?_, ?_⟩
  · intro tested found bounded foundReached
    rw [reaches tested bounded] at foundReached
    split at foundReached
    · obtain rfl := Option.some.inj foundReached
      exact ⟨nonzero, state.requests, Nat.lt_succ_self _, rfl⟩
    · obtain ⟨foundNonzero, request, earlier, answer⟩ :=
        shaped.owned tested found bounded foundReached
      exact ⟨foundNonzero, request, Nat.lt_succ_of_lt earlier, answer⟩
  · intro tested found testedSlot bounded foundReached absent
    rw [reaches tested (Nat.le_of_lt bounded)] at foundReached
    split at foundReached
    · obtain rfl := Option.some.inj foundReached
      exact slots_linked_new shaped fresh inner reached nonzero testedSlot
    · by_cases here : found = table ∧ testedSlot = slot
      · obtain ⟨rfl, rfl⟩ := here
        have linked := (shaped.links fresh inner reached empty nonzero).linked
        rw [linked] at absent
        cases absent
      · have same := slots_linked_old shaped fresh inner reached nonzero testedSlot
          (Nat.le_of_lt bounded) foundReached here
        rw [same] at absent ⊢
        exact shaped.vacant tested found testedSlot bounded foundReached absent

/-- Linking changes no leaf: a new page table is empty, and before it there was
none. -/
theorem WellShaped.link_leaves (page : BitVec 36) :
    leafEntry (linkedMemory answers state table slot) root page =
      leafEntry state.memory root page := by
  have length : (slotsAbove page).length ≤ 3 := (slotsAbove_length page).le
  have after := shaped.link_reach fresh inner reached empty nonzero (slotsAbove page) length
  by_cases new : slotsAbove page = path ++ [slot]
  · rw [if_pos new] at after
    have before := shaped.link_vacant fresh inner reached empty nonzero
    rw [leafEntry_reached after, leafEntry_absent (new ▸ before)]
    exact slots_linked_new shaped fresh inner reached nonzero _
  · rw [if_neg new] at after
    cases old : reach state.memory root (slotsAbove page) with
    | none => rw [leafEntry_absent (after.trans old), leafEntry_absent old]
    | some found =>
      have elsewhere : ¬ (found = table ∧ lastSlot page = slot) := by
        rintro ⟨rfl, _⟩
        have same : slotsAbove page = path :=
          shaped.separate _ _ _ length (Nat.le_of_lt inner) old reached
        rw [← same, slotsAbove_length] at inner
        exact absurd inner (Nat.lt_irrefl 3)
      rw [leafEntry_reached (after.trans old), leafEntry_reached old]
      exact slots_linked_old shaped fresh inner reached nonzero _ length old elsewhere

/-- Linking a cleared page extends the tree. -/
theorem WellShaped.link_extends :
    Extends answers root state ⟨linkedMemory answers state table slot, state.requests + 1⟩ where
  shaped := shaped.link_shaped fresh inner reached empty nonzero
  kept tested found bounded foundReached := by
    have different : tested ≠ path ++ [slot] := by
      rintro rfl
      rw [shaped.link_vacant fresh inner reached empty nonzero] at foundReached
      cases foundReached
    have after := shaped.link_reach fresh inner reached empty nonzero tested bounded
    rw [if_neg different] at after
    exact after.trans foundReached
  leaves := shaped.link_leaves fresh inner reached empty nonzero

end Linking

/-! ## The functions of the source -/

/-- Finding or creating a table extends the tree; unless it reports a full heap,
the returned word names the table at the end of the longer path. -/
theorem WellShaped.getOrCreateEntry {state : State} (shaped : WellShaped answers root state)
    (fresh : FreshPages answers) {path : List (BitVec 9)} {table : BitVec 64} (slot : BitVec 9)
    (inner : path.length < 3) (reached : reach state.memory root path = some table) :
    Extends answers root state (getOrCreateEntry answers table (slot.setWidth 16) state).2 ∧
      ((getOrCreateEntry answers table (slot.setWidth 16) state).1 &&& ENTRY_ADDRESS ≠ 0 →
        reach (getOrCreateEntry answers table (slot.setWidth 16) state).2.memory root
          (path ++ [slot]) =
        some ((getOrCreateEntry answers table (slot.setWidth 16) state).1 &&& ENTRY_ADDRESS)) := by
  by_cases empty : slots state.memory table slot = 0
  · have vacant : state.memory (entryAddress table (slot.setWidth 16)) = 0 := empty
    by_cases full : answers state.requests = 0
    · have result : Paging.getOrCreateEntry answers table (slot.setWidth 16) state =
          (0, { state with requests := state.requests + 1 }) := by
        simp only [Paging.getOrCreateEntry, kzalloc, if_pos vacant, if_pos full]
      rw [result]
      refine ⟨⟨shaped.later _ (Nat.le_succ _), fun _ _ _ same => same, fun _ => rfl⟩, ?_⟩
      intro nonzero
      have masked : (0 : BitVec 64) &&& ENTRY_ADDRESS = 0 := rfl
      exact absurd masked nonzero
    · have result : Paging.getOrCreateEntry answers table (slot.setWidth 16) state =
          (answers state.requests,
            ⟨linkedMemory answers state table slot, state.requests + 1⟩) := by
        simp only [Paging.getOrCreateEntry, kzalloc, if_pos vacant, if_neg full, linkedMemory,
          writePointerTableEntry]
      have length : (path ++ [slot]).length ≤ 3 := by
        rw [List.length_append, List.length_singleton]
        exact inner
      rw [result]
      refine ⟨shaped.link_extends fresh inner reached empty full, fun _ => ?_⟩
      have after := shaped.link_reach fresh inner reached empty full (path ++ [slot]) length
      rw [if_pos rfl] at after
      rw [(fresh.valid state.requests).masked]
      exact after
  · have occupied : ¬ state.memory (entryAddress table (slot.setWidth 16)) = 0 := empty
    have result : Paging.getOrCreateEntry answers table (slot.setWidth 16) state =
        (state.memory (entryAddress table (slot.setWidth 16)), state) := by
      rw [Paging.getOrCreateEntry, if_neg occupied]
    rw [result]
    refine ⟨⟨shaped, fun _ _ _ same => same, fun _ => rfl⟩, fun nonzero => ?_⟩
    rw [reach, tableAt_append, show tableAt childTable (slots state.memory) root path = _ from reached]
    exact if_neg nonzero

/-- Writing a word into the last slot of a page's table changes the leaf of that
page and of no other, and keeps the tree. -/
theorem WellShaped.write_leaf {state : State} (shaped : WellShaped answers root state)
    (fresh : FreshPages answers) (page : BitVec 36) {table : BitVec 64}
    (reached : reach state.memory root (slotsAbove page) = some table) (word : BitVec 64)
    (memory : Memory)
    (written : memory =
      Function.update state.memory (entryAddress table ((lastSlot page).setWidth 16)) word) :
    WellShaped answers root { state with memory } ∧
      (∀ path, path.length ≤ 3 → reach memory root path = reach state.memory root path) ∧
      ∀ tested, leafEntry memory root tested =
        if tested = page then word else leafEntry state.memory root tested := by
  subst written
  have length : (slotsAbove page).length ≤ 3 := (slotsAbove_length page).le
  have tableValid : PageAligned table := shaped.valid fresh length reached
  have slot_exact (other : BitVec 64) (tested : BitVec 9) (valid : PageAligned other) :
      slots (Function.update state.memory (entryAddress table ((lastSlot page).setWidth 16)) word)
        other tested =
      if other = table ∧ tested = lastSlot page then word else slots state.memory other tested := by
    simp only [slots, Function.update_apply, entryAddress_injective other table valid tableValid]
  -- A table above the last level is not the page table, so its slots stay.
  have above (path : List (BitVec 9)) (found : BitVec 64) (slot : BitVec 9)
      (bounded : path.length < 3) (foundReached : reach state.memory root path = some found) :
      slots (Function.update state.memory (entryAddress table ((lastSlot page).setWidth 16)) word)
        found slot = slots state.memory found slot := by
    rw [slot_exact _ _ (shaped.valid fresh (Nat.le_of_lt bounded) foundReached), if_neg]
    rintro ⟨rfl, _⟩
    have same : path = slotsAbove page :=
      shaped.separate _ _ _ (Nat.le_of_lt bounded) length foundReached reached
    rw [same, slotsAbove_length] at bounded
    exact absurd bounded (Nat.lt_irrefl 3)
  have paths (path : List (BitVec 9)) (bounded : path.length ≤ 3) :
      reach (Function.update state.memory (entryAddress table ((lastSlot page).setWidth 16)) word)
        root path = reach state.memory root path :=
    tableAt_congr (fun other found slot inner foundReached => by
      rw [above other found slot inner foundReached]) path bounded
  refine ⟨⟨shaped.separate.congr paths, ?_, ?_⟩, paths, ?_⟩
  · intro path found bounded foundReached
    exact shaped.owned path found bounded ((paths path bounded).symm.trans foundReached)
  · intro path found slot bounded foundReached absent
    have before := (paths path (Nat.le_of_lt bounded)).symm.trans foundReached
    simp only [above path found slot bounded before] at absent ⊢
    exact shaped.vacant path found slot bounded before absent
  · intro tested
    have same := paths (slotsAbove tested) (slotsAbove_length tested).le
    by_cases here : tested = page
    · subst here
      rw [leafEntry_reached (same.trans reached), slot_exact _ _ tableValid, if_pos ⟨rfl, rfl⟩,
        if_pos rfl]
    · rw [if_neg here]
      cases old : reach state.memory root (slotsAbove tested) with
      | none => rw [leafEntry_absent (same.trans old), leafEntry_absent old]
      | some found =>
        have elsewhere : ¬ (found = table ∧ lastSlot tested = lastSlot page) := by
          rintro ⟨rfl, last⟩
          exact here (page_unique _ _
            (shaped.separate _ _ _ (slotsAbove_length tested).le length old reached) last)
        rw [leafEntry_reached (same.trans old), leafEntry_reached old,
          slot_exact _ _ (shaped.valid fresh (slotsAbove_length tested).le old), if_neg elsewhere]

/-- The indices of an address lead to the page table of its page; NULL reports a
missing table on the way. -/
theorem WellShaped.getPTTable {state : State} (shaped : WellShaped answers root state)
    (virtual : BitVec 64) {table : BitVec 64}
    (reached : reach state.memory root (slotsAbove (pageOf virtual)) = some table) :
    getPTTable virtual root state.memory = table := by
  have follow (above next : BitVec 64) (slot : BitVec 9)
      (named : childTable (slots state.memory above slot) = some next) :
      returnTableEntryNoFlags above (slot.setWidth 16) state.memory = next := by
    rw [childTable] at named
    split at named
    · cases named
    · exact Option.some.inj named
  simp only [reach, tableAt, slotsAbove, List.foldlM_cons, List.foldlM_nil, Option.bind_eq_bind,
    Option.bind_eq_some_iff, Option.pure_def, Option.some.injEq] at reached
  obtain ⟨pdpTable, pdpNamed, pdTable, pdNamed, ptTable, ptNamed, rfl⟩ := reached
  have pdpReached : reach state.memory root [(pageOf virtual >>> 27).setWidth 9] = some pdpTable := by
    simp only [reach, tableAt, List.foldlM_cons, List.foldlM_nil, Option.bind_eq_bind, pdpNamed,
      Option.bind_some, Option.pure_def]
  have pdReached : reach state.memory root [(pageOf virtual >>> 27).setWidth 9,
      (pageOf virtual >>> 18).setWidth 9] = some pdTable := by
    simp only [reach, tableAt, List.foldlM_cons, List.foldlM_nil, Option.bind_eq_bind, pdpNamed,
      pdNamed, Option.bind_some, Option.pure_def]
  have pdpNonzero : pdpTable ≠ 0 := (shaped.owned _ _ (by simp) pdpReached).1
  have pdNonzero : pdTable ≠ 0 := (shaped.owned _ _ (by simp) pdReached).1
  simp only [Paging.getPTTable, getPml4Index_page, getPdpIndex_page, getPdIndex_page,
    follow _ _ _ pdpNamed, follow _ _ _ pdNamed, follow _ _ _ ptNamed, if_neg pdpNonzero,
    if_neg pdNonzero]

section Mapping

variable (answers root)

/-- What mapping a page does: the page's leaf becomes the word, no other leaf
changes, and no table is lost. -/
structure Maps (before after : State) (page : BitVec 36) (word : BitVec 64) : Prop where
  shaped : WellShaped answers root after
  kept : ∀ path table, path.length ≤ 3 → reach before.memory root path = some table →
    reach after.memory root path = some table
  mapped : (reach after.memory root (slotsAbove page)).isSome
  leaves : ∀ tested, leafEntry after.memory root tested =
    if tested = page then word else leafEntry before.memory root tested

end Mapping

/-- Mapping a page either writes exactly its leaf or, at whichever table the heap
is full, changes no leaf. -/
theorem WellShaped.mapPage {state : State} (shaped : WellShaped answers root state)
    (fresh : FreshPages answers) (physical virtual : BitVec 64) :
    ((mapPage answers root physical virtual state).1 = SUCCESS ∧
      Maps answers root state (mapPage answers root physical virtual state).2 (pageOf virtual)
        (physical &&& STORED_ADDRESS ||| (PAGING_FLAG_P ||| PAGING_FLAG_RW).setWidth 64)) ∨
    ((mapPage answers root physical virtual state).1 = -ENMEM ∧
      Extends answers root state (mapPage answers root physical virtual state).2) := by
  have rootReached : reach state.memory root [] = some root := rfl
  rw [Paging.mapPage, getPml4Index_page, getPdpIndex_page, getPdIndex_page, getPtIndex_page]
  generalize pageOf virtual = page
  -- The three tables, each found or created below the one before.
  obtain ⟨first, firstReached⟩ := shaped.getOrCreateEntry fresh ((page >>> 27).setWidth 9)
    (by simp) rootReached
  generalize Paging.getOrCreateEntry answers root (((page >>> 27).setWidth 9).setWidth 16) state = pdp
    at first firstReached ⊢
  by_cases pdpNull : pdp.1 &&& ENTRY_ADDRESS = 0
  · simp only [if_pos pdpNull]
    exact .inr ⟨trivial, first⟩
  simp only [if_neg pdpNull]
  obtain ⟨second, secondReached⟩ := first.shaped.getOrCreateEntry fresh ((page >>> 18).setWidth 9)
    (by simp) (firstReached pdpNull)
  generalize Paging.getOrCreateEntry answers (pdp.1 &&& ENTRY_ADDRESS)
    (((page >>> 18).setWidth 9).setWidth 16) pdp.2 = pd at second secondReached ⊢
  by_cases pdNull : pd.1 &&& ENTRY_ADDRESS = 0
  · simp only [if_pos pdNull]
    exact .inr ⟨trivial, first.trans second⟩
  simp only [if_neg pdNull]
  obtain ⟨third, thirdReached⟩ := second.shaped.getOrCreateEntry fresh ((page >>> 9).setWidth 9)
    (by simp) (secondReached pdNull)
  generalize Paging.getOrCreateEntry answers (pd.1 &&& ENTRY_ADDRESS)
    (((page >>> 9).setWidth 9).setWidth 16) pd.2 = pt at third thirdReached ⊢
  by_cases ptNull : pt.1 &&& ENTRY_ADDRESS = 0
  · simp only [if_pos ptNull]
    exact .inr ⟨trivial, (first.trans second).trans third⟩
  simp only [if_neg ptNull]
  -- The leaf is written into the third one.
  have extended := (first.trans second).trans third
  have tableReached : reach pt.2.memory root (slotsAbove page) = some (pt.1 &&& ENTRY_ADDRESS) :=
    thirdReached ptNull
  obtain ⟨written, paths, leaves⟩ := extended.shaped.write_leaf fresh page tableReached _ _ rfl
  refine .inl ⟨trivial, written, ?_, ?_, ?_⟩
  · intro path table bounded reached
    exact (paths path bounded).trans (extended.kept path table bounded reached)
  · rw [writePointerTableEntry, paths _ (slotsAbove_length page).le, tableReached]
    rfl
  · intro tested
    rw [← extended.leaves tested]
    exact leaves tested

/-- Removing flags from a page that has a page table clears them in its leaf and
changes no other leaf. -/
theorem WellShaped.removePageFlag {state : State} (shaped : WellShaped answers root state)
    (fresh : FreshPages answers) (virtual : BitVec 64) (flag : BitVec 16)
    (mapped : (reach state.memory root (slotsAbove (pageOf virtual))).isSome) :
    Maps answers root state (removePageFlag virtual flag root state) (pageOf virtual)
      (leafEntry state.memory root (pageOf virtual) &&& ~~~(flag.setWidth 64)) := by
  obtain ⟨table, reached⟩ := Option.isSome_iff_exists.mp mapped
  have found : Paging.getPTTable virtual root state.memory = table :=
    shaped.getPTTable virtual reached
  have leaf : leafEntry state.memory root (pageOf virtual) =
      state.memory (entryAddress table ((lastSlot (pageOf virtual)).setWidth 16)) :=
    leafEntry_reached reached
  obtain ⟨written, paths, leaves⟩ := shaped.write_leaf fresh (pageOf virtual) reached
    (leafEntry state.memory root (pageOf virtual) &&& ~~~(flag.setWidth 64)) _ rfl
  rw [Paging.removePageFlag, found, getPtIndex_page, ← leaf]
  refine ⟨written, ?_, ?_, leaves⟩
  · intro path other bounded otherReached
    exact (paths path bounded).trans otherReached
  · rw [paths _ (slotsAbove_length _).le]
    exact mapped

end BobaOS.Paging
