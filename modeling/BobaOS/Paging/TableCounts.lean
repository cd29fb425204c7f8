import Mathlib.Data.Finset.Union
import BobaOS.Paging.PageRanges

/-!
# How many tables are made

Each request that the heap grants becomes a table of the tree. So a set of paths that are gone
down to bounds the requests that are made for them, however often they are gone down: while the
heap grants as many requests as the set has paths, every page whose tables are in the set is
mapped.
-/

namespace BobaOS.Paging

open TableTree

/-- The paths to the tables along the slots, below a path. -/
def tablePaths : List (BitVec 9) → List (BitVec 9) → List (List (BitVec 9))
  | _, [] => []
  | path, slot :: rest => (path ++ [slot]) :: tablePaths (path ++ [slot]) rest

/-- The paths to the tables of a page. -/
def pathsTo (page : BitVec 36) : List (List (BitVec 9)) := tablePaths [] (slotsAbove page)

theorem tablePaths_length {path rest found : List (BitVec 9)} (member : found ∈ tablePaths path rest) :
    path.length < found.length ∧ found.length ≤ path.length + rest.length := by
  induction rest generalizing path with
  | nil => cases member
  | cons slot rest ih =>
    rw [List.length_cons]
    rcases List.mem_cons.mp member with rfl | below
    · rw [List.length_append, List.length_singleton]
      omega
    · have bounds := ih below
      rw [List.length_append, List.length_singleton] at bounds
      omega

theorem tablePaths_nodup (path rest : List (BitVec 9)) : (tablePaths path rest).Nodup := by
  induction rest generalizing path with
  | nil => exact List.nodup_nil
  | cons slot rest ih =>
    refine List.nodup_cons.mpr ⟨fun member => ?_, ih _⟩
    exact absurd (tablePaths_length member).1 (Nat.lt_irrefl _)

section Missing

variable {answers : Nat → BitVec 64} {root : BitVec 64} {memory : Memory}

/-- The tables that are missing along the slots are the ones of the paths that are not reached. -/
theorem missing_eq (path rest : List (BitVec 9)) : missing memory root path rest =
    ((tablePaths path rest).filter fun found => (reach memory root found).isNone).length := by
  induction rest generalizing path with
  | nil => rfl
  | cons slot rest ih =>
    rw [missing, tablePaths, ih]
    cases reached : reach memory root (path ++ [slot]) with
    | none =>
      rw [List.filter_cons_of_pos (by rw [reached]; rfl), List.length_cons, if_pos rfl, Nat.add_comm]
    | some table =>
      rw [List.filter_cons_of_neg (by rw [reached]; exact Bool.false_ne_true), if_neg (by simp),
        Nat.zero_add]

/-- A table is reached through the tables above it. -/
theorem tablePaths_reached {path rest found : List (BitVec 9)}
    (reached : (reach memory root (path ++ rest)).isSome) (member : found ∈ tablePaths path rest) :
    (reach memory root found).isSome := by
  induction rest generalizing path with
  | nil => cases member
  | cons slot rest ih =>
    have joined : path ++ slot :: rest = path ++ [slot] ++ rest := by simp
    rw [joined] at reached
    rcases List.mem_cons.mp member with rfl | below
    · rw [reach, tableAt, List.foldlM_append] at reached
      rw [reach, tableAt]
      cases above : List.foldlM (fun table slot => childTable (slots memory table slot)) root
          (path ++ [slot]) with
      | none =>
        rw [above] at reached
        cases reached
      | some table => rfl
    · exact ih reached below

/-- The way down asks for the tables that are missing, and for no others. -/
theorem WellShaped.descend_requests (fresh : FreshPages answers) (rest : List (BitVec 9)) :
    ∀ (path : List (BitVec 9)) (table : BitVec 64) (state : State), WellShaped answers root state →
      path.length + rest.length = 3 → reach state.memory root path = some table →
      state.requests ≤ (descend answers table rest state).2.requests ∧
        (descend answers table rest state).2.requests ≤
          state.requests + missing state.memory root path rest := by
  induction rest with
  | nil => exact fun _ _ _ _ _ _ => ⟨Nat.le_refl _, Nat.le_refl _⟩
  | cons slot rest ih =>
    intro path table state shaped bounded reached
    rw [List.length_cons] at bounded
    have length : (path ++ [slot]).length + rest.length = 3 := by
      rw [List.length_append, List.length_singleton]
      omega
    rw [descend, missing]
    cases found : reach state.memory root (path ++ [slot]) with
    | some next =>
      obtain ⟨masked, same⟩ := shaped.entry_found (by omega) reached found
      have nonzero := (shaped.owned _ next (by omega) found).1
      simp only [masked, same, if_neg nonzero, reduceCtorEq, if_false, Nat.zero_add]
      exact ih _ next state shaped length found
    | none =>
      obtain ⟨empty, asked⟩ := shaped.entry_missing (by omega) reached found
      rw [if_pos rfl, asked]
      by_cases full : answers state.requests = 0
      · have masked : (0 : BitVec 64) &&& ENTRY_ADDRESS = 0 := rfl
        simp only [if_pos full, masked, if_true]
        omega
      · have masked := (fresh.valid state.requests).masked
        simp only [if_neg full, masked]
        have reaches := shaped.link_reach fresh (by omega) reached empty full
        have linked := reaches (path ++ [slot]) (by omega)
        rw [if_pos rfl] at linked
        have below := ih _ _ _ (shaped.link_shaped fresh (by omega) reached empty full) length linked
        have same : missing (linkedMemory answers state table slot) root (path ++ [slot]) rest =
            missing state.memory root (path ++ [slot]) rest := by
          refine missing_congr rest (path ++ [slot]) fun tested longer bounded' => ?_
          rw [reaches tested (by omega), if_neg]
          rintro rfl
          exact absurd longer (Nat.lt_irrefl _)
        dsimp only at below
        omega

/-- A mapping asks for no more than what is missing. -/
theorem WellShaped.mapPage_missing {state : State} (shaped : WellShaped answers root state)
    (fresh : FreshPages answers) (physical virtual : BitVec 64) :
    state.requests ≤ (Paging.mapPage answers root physical virtual state).2.requests ∧
      (Paging.mapPage answers root physical virtual state).2.requests ≤
        state.requests + missing state.memory root [] (slotsAbove (pageOf virtual)) := by
  have same : (Paging.mapPage answers root physical virtual state).2.requests =
      (descend answers root (slotsAbove (pageOf virtual)) state).2.requests := by
    rw [Paging.mapPage, getPml4Index_page, getPdpIndex_page, getPdIndex_page]
    simp only [descend, slotsAbove]
    split_ifs <;> rfl
  rw [same]
  exact shaped.descend_requests fresh _ [] root state rfl rfl

end Missing

/-! ## Mapping pages of a set -/

/-- The paths of the set that have tables. -/
def made (needed : Finset (List (BitVec 9))) (memory : Memory) (root : BitVec 64) :
    Finset (List (BitVec 9)) := needed.filter fun path => (reach memory root path).isSome

/-- From a request on, no more have been made than tables of the set. -/
structure Counted (needed : Finset (List (BitVec 9))) (root : BitVec 64) (base : Nat) (state : State) :
    Prop where
  later : base ≤ state.requests
  few : state.requests ≤ base + (made needed state.memory root).card

/-- From a request on, the heap grants as many as the set has paths. -/
def Enough (answers : Nat → BitVec 64) (base : Nat) (needed : Finset (List (BitVec 9))) : Prop :=
  ∀ j < needed.card, answers (base + j) ≠ 0

section Counts

variable {answers : Nat → BitVec 64} {root : BitVec 64} {needed : Finset (List (BitVec 9))}
  {base : Nat} {state after : State} {page : BitVec 36}

/-- A set with the tables that there are and those that are missing for a page has as many
paths. -/
theorem made_add_missing_le {target : Finset (List (BitVec 9))}
    (here : made needed state.memory root ⊆ target)
    (missed : ∀ path ∈ pathsTo page, path ∈ target) :
    (made needed state.memory root).card + missing state.memory root [] (slotsAbove page) ≤
      target.card := by
  have nodup := (tablePaths_nodup [] (slotsAbove page)).filter
    fun path => (reach state.memory root path).isNone
  rw [missing_eq, ← List.toFinset_card_of_nodup nodup, ← Finset.card_union_of_disjoint]
  · refine Finset.card_le_card (Finset.union_subset here fun path member => ?_)
    rw [List.mem_toFinset, List.mem_filter] at member
    exact missed path member.1
  · rw [Finset.disjoint_left]
    intro path known absent
    rw [made, Finset.mem_filter] at known
    rw [List.mem_toFinset, List.mem_filter] at absent
    rw [Option.isNone_iff_eq_none.mp absent.2] at known
    cases known.2

/-- As long as the heap grants what the set needs, its pages are mapped. -/
theorem Counted.mapPage (counted : Counted needed root base state)
    (shaped : WellShaped answers root state) (fresh : FreshPages answers)
    (enough : Enough answers base needed) (short : ∀ path ∈ needed, path.length ≤ 3)
    (physical virtual : BitVec 64) (inside : ∀ path ∈ pathsTo (pageOf virtual), path ∈ needed) :
    (Paging.mapPage answers root physical virtual state).1 = SUCCESS ∧
      Counted needed root base (Paging.mapPage answers root physical virtual state).2 := by
  have here : made needed state.memory root ⊆ needed := Finset.filter_subset _ _
  have all := made_add_missing_le here inside
  have later := counted.later
  have few := counted.few
  have granted : Granted answers state
      (missing state.memory root [] (slotsAbove (pageOf virtual))) := by
    intro j below
    have next := enough (state.requests - base + j) (by omega)
    rwa [show base + (state.requests - base + j) = state.requests + j by omega] at next
  have served := (shaped.mapPage_served fresh physical virtual).mpr granted
  have failed : SUCCESS ≠ -ENMEM := by decide
  have maps := ((shaped.mapPage fresh physical virtual).resolve_right fun full =>
    failed (served.symm.trans full.1)).2
  have requests := shaped.mapPage_missing fresh physical virtual
  have grown : (made needed state.memory root).card +
      missing state.memory root [] (slotsAbove (pageOf virtual)) ≤
        (made needed (Paging.mapPage answers root physical virtual state).2.memory root).card := by
    refine made_add_missing_le (fun path known => ?_) fun path above => ?_
    · rw [made, Finset.mem_filter] at known ⊢
      obtain ⟨table, reached⟩ := Option.isSome_iff_exists.mp known.2
      have still := maps.kept path table (short path known.1) reached
      exact ⟨known.1, Option.isSome_iff_exists.mpr ⟨table, still⟩⟩
    · rw [made, Finset.mem_filter]
      exact ⟨inside path above, tablePaths_reached (by rw [List.nil_append]; exact maps.mapped) above⟩
  exact ⟨served, by omega, by omega⟩

/-- So are the pages of a range, if the set has the tables of those that the loop comes to. -/
theorem Counted.mapOrCreateRangeLoop (fresh : FreshPages answers)
    (enough : Enough answers base needed) (short : ∀ path ∈ needed, path.length ≤ 3)
    (physStart virtStart size : BitVec 64) (left : Nat) :
    ∀ (first : Nat) (state : State), Counted needed root base state → WellShaped answers root state →
      0 < left → first + left < 2 ^ 52 → size.toNat ≤ 4096 * (first + left) →
      (∀ c, first ≤ c → (c = first ∨ 4096 * c < size.toNat) →
        ∀ path ∈ pathsTo (pageOf (virtStart + counterOffset c)), path ∈ needed) →
      ∃ after, Paging.mapOrCreateRangeLoop answers root physStart virtStart size left
          (BitVec.ofNat 32 first) (BitVec.ofNat 64 (4096 * first)) state = some (SUCCESS, after) ∧
        Counted needed root base after := by
  induction left with
  | zero => exact fun _ _ _ _ none => absurd none (Nat.lt_irrefl 0)
  | succ left ih =>
    intro first state counted shaped _ bounded covers inside
    rw [Paging.mapOrCreateRangeLoop, ← counterOffset]
    dsimp only
    have failed : SUCCESS ≠ -ENMEM := by decide
    obtain ⟨mapped, next_counted⟩ := counted.mapPage shaped fresh enough short
      (physStart + counterOffset first) (virtStart + counterOffset first)
      (inside first (Nat.le_refl _) (.inl rfl))
    have maps := ((shaped.mapPage fresh (physStart + counterOffset first)
      (virtStart + counterOffset first)).resolve_right fun full => failed (mapped.symm.trans full.1)).2
    rw [mapped, if_neg (by decide), sizeMapped_succ, counter_succ]
    generalize (Paging.mapPage answers root (physStart + counterOffset first)
      (virtStart + counterOffset first) state).2 = next at maps next_counted ⊢
    split_ifs with onward
    · rw [BitVec.lt_def, BitVec.toNat_ofNat] at onward
      exact ih (first + 1) next next_counted maps.shaped (by omega) (by omega) (by omega)
        fun c above here => inside c (by omega) (.inr (by omega))
    · exact ⟨next, rfl, next_counted⟩

theorem Counted.mapOrCreateRange (counted : Counted needed root base state)
    (shaped : WellShaped answers root state) (fresh : FreshPages answers)
    (enough : Enough answers base needed) (short : ∀ path ∈ needed, path.length ≤ 3)
    (physStart virtStart size : BitVec 64) (small : size.toNat ≤ 2 ^ 31)
    (inside : ∀ c, (c = 0 ∨ 4096 * c < size.toNat) →
      ∀ path ∈ pathsTo (pageOf (virtStart + counterOffset c)), path ∈ needed) :
    ∃ after, Paging.mapOrCreateRange answers root physStart virtStart size state =
      some (SUCCESS, after) ∧ Counted needed root base after := by
  refine Counted.mapOrCreateRangeLoop fresh enough short physStart virtStart size
    (size.toNat / 4096 + 1) 0 state counted shaped (Nat.succ_pos _) (by omega) (by omega) ?_
  exact fun c _ here => inside c here

end Counts

/-! ## The tables of pages in a row -/

/-- The paths to the tables of the pages from a page on. -/
def rowPaths (start : BitVec 36) (count : Nat) : Finset (List (BitVec 9)) :=
  (Finset.range count).biUnion fun index => (pathsTo (start + BitVec.ofNat 36 index)).toFinset

theorem rowPaths_length {start : BitVec 36} {count : Nat} :
    ∀ path ∈ rowPaths start count, path.length ≤ 3 := by
  intro path member
  rw [rowPaths, Finset.mem_biUnion] at member
  obtain ⟨index, -, member⟩ := member
  exact (tablePaths_length (List.mem_toFinset.mp member)).2

theorem mem_rowPaths (start : BitVec 36) {count index : Nat} (below : index < count) :
    ∀ path ∈ pathsTo (start + BitVec.ofNat 36 index), path ∈ rowPaths start count := by
  intro path member
  rw [rowPaths, Finset.mem_biUnion]
  exact ⟨index, Finset.mem_range.mpr below, List.mem_toFinset.mpr member⟩

/-- A slot does not depend on what lies below its level. -/
theorem slot_eq (index low more : Nat) (small : index < 2 ^ 36) :
    (BitVec.ofNat 36 index >>> (low + more)).setWidth 9 =
      (BitVec.ofNat 36 (index / 2 ^ low * 2 ^ low) >>> (low + more)).setWidth 9 := by
  apply BitVec.eq_of_toNat_eq
  have rounded : index / 2 ^ low * 2 ^ low ≤ index := Nat.div_mul_le_self index (2 ^ low)
  rw [BitVec.toNat_setWidth, BitVec.toNat_setWidth, BitVec.toNat_ushiftRight,
    BitVec.toNat_ushiftRight, BitVec.toNat_ofNat, BitVec.toNat_ofNat, Nat.mod_eq_of_lt small,
    Nat.mod_eq_of_lt (Nat.lt_of_le_of_lt rounded small), Nat.shiftRight_eq_div_pow,
    Nat.shiftRight_eq_div_pow, Nat.pow_add, ← Nat.div_div_eq_div_mul, ← Nat.div_div_eq_div_mul,
    Nat.mul_div_cancel _ (Nat.two_pow_pos low)]

/-- The paths of a level to the tables of the first pages. -/
def levelPaths (count level low : Nat) : Finset (List (BitVec 9)) :=
  (Finset.range (count / 2 ^ low + 1)).image fun table =>
    (slotsAbove (BitVec.ofNat 36 (table * 2 ^ low))).take level

theorem levelPaths_card (count level low : Nat) :
    (levelPaths count level low).card ≤ count / 2 ^ low + 1 :=
  Finset.card_image_le.trans_eq (Finset.card_range _)

/-- Of the first pages there are so many tables at each level at most. -/
theorem rowPaths_card (count : Nat) (small : count ≤ 2 ^ 36) :
    (rowPaths 0 count).card ≤
      (count / 2 ^ 27 + 1) + (count / 2 ^ 18 + 1) + (count / 2 ^ 9 + 1) := by
  have covered : rowPaths 0 count ⊆
      levelPaths count 1 27 ∪ levelPaths count 2 18 ∪ levelPaths count 3 9 := by
    intro path member
    rw [rowPaths, Finset.mem_biUnion] at member
    obtain ⟨index, below, member⟩ := member
    have unmoved : (0 : BitVec 36) + BitVec.ofNat 36 index = BitVec.ofNat 36 index := BitVec.zero_add _
    rw [Finset.mem_range] at below
    rw [unmoved] at member
    have narrow : index < 2 ^ 36 := Nat.lt_of_lt_of_le below small
    have table (low : Nat) : index / 2 ^ low ∈ Finset.range (count / 2 ^ low + 1) :=
      Finset.mem_range.mpr (Nat.lt_succ_of_le (Nat.div_le_div_right (Nat.le_of_lt below)))
    have listed : path ∈ [(slotsAbove (BitVec.ofNat 36 index)).take 1,
      (slotsAbove (BitVec.ofNat 36 index)).take 2, (slotsAbove (BitVec.ofNat 36 index)).take 3] :=
        List.mem_toFinset.mp member
    simp only [List.mem_cons, List.not_mem_nil, or_false] at listed
    rw [Finset.mem_union, Finset.mem_union]
    rcases listed with rfl | rfl | rfl
    · refine .inl (.inl (Finset.mem_image.mpr ⟨_, table 27, ?_⟩))
      simp only [slotsAbove, List.take_succ_cons, List.take_zero]
      rw [slot_eq index 27 0 narrow]
    · refine .inl (.inr (Finset.mem_image.mpr ⟨_, table 18, ?_⟩))
      simp only [slotsAbove, List.take_succ_cons, List.take_zero]
      rw [slot_eq index 18 9 narrow, slot_eq index 18 0 narrow]
    · refine .inr (Finset.mem_image.mpr ⟨_, table 9, ?_⟩)
      simp only [slotsAbove, List.take_succ_cons, List.take_zero]
      rw [slot_eq index 9 18 narrow, slot_eq index 9 9 narrow, slot_eq index 9 0 narrow]
  calc (rowPaths 0 count).card
      ≤ (levelPaths count 1 27 ∪ levelPaths count 2 18 ∪ levelPaths count 3 9).card :=
        Finset.card_le_card covered
    _ ≤ (levelPaths count 1 27).card + (levelPaths count 2 18).card + (levelPaths count 3 9).card :=
        (Finset.card_union_le _ _).trans (Nat.add_le_add_right (Finset.card_union_le _ _) _)
    _ ≤ (count / 2 ^ 27 + 1) + (count / 2 ^ 18 + 1) + (count / 2 ^ 9 + 1) :=
        Nat.add_le_add (Nat.add_le_add (levelPaths_card _ _ _) (levelPaths_card _ _ _))
          (levelPaths_card _ _ _)

end BobaOS.Paging
