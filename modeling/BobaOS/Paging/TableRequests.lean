import BobaOS.Paging.PageTree

/-!
# The heap requests of a mapping

A mapping asks the heap for one page for each of the three tables above its virtual
page that is missing, and for no other. It succeeds if and only if these requests are
granted, whatever the tables hold elsewhere.
-/

namespace BobaOS.Paging

open TableTree

variable {answers : Nat → BitVec 64} {root : BitVec 64}

/-- How many of the tables along the slots are missing, below a path. -/
def missing (memory : Memory) (root : BitVec 64) : List (BitVec 9) → List (BitVec 9) → Nat
  | _, [] => 0
  | path, slot :: rest =>
    (if reach memory root (path ++ [slot]) = none then 1 else 0) + missing memory root (path ++ [slot]) rest

/-- The heap grants the next requests. -/
def Granted (answers : Nat → BitVec 64) (state : State) (count : Nat) : Prop :=
  ∀ j < count, answers (state.requests + j) ≠ 0

/-- The tables along the slots, each found or made below the one before. Zero reports a
full heap. -/
def descend (answers : Nat → BitVec 64) (table : BitVec 64) : List (BitVec 9) → State →
    BitVec 64 × State
  | [], state => (table, state)
  | slot :: rest, state =>
    let (entry, state) := getOrCreateEntry answers table (slot.setWidth 16) state
    if entry &&& ENTRY_ADDRESS = 0 then (0, state)
    else descend answers (entry &&& ENTRY_ADDRESS) rest state

theorem granted_succ (state : State) (memory : Memory) (count : Nat) :
    Granted answers state (count + 1) ↔ answers state.requests ≠ 0 ∧
      Granted answers ⟨memory, state.requests + 1⟩ count := by
  constructor
  · intro granted
    refine ⟨granted 0 (Nat.succ_pos count), fun j bound => ?_⟩
    have next := granted (j + 1) (Nat.succ_lt_succ bound)
    rwa [Nat.add_comm j, ← Nat.add_assoc] at next
  · rintro ⟨first, rest⟩ j bound
    cases j with
    | zero => exact first
    | succ j =>
      rw [Nat.add_comm j, ← Nat.add_assoc]
      exact rest j (Nat.lt_of_succ_lt_succ bound)

/-- What is missing depends on the longer paths only. -/
theorem missing_congr {memory memory' : Memory} (rest : List (BitVec 9)) : ∀ path : List (BitVec 9),
    (∀ tested : List (BitVec 9), path.length < tested.length →
      tested.length ≤ path.length + rest.length →
      reach memory' root tested = reach memory root tested) →
    missing memory' root path rest = missing memory root path rest := by
  induction rest with
  | nil => exact fun _ _ => rfl
  | cons slot rest ih =>
    intro path same
    have here := same (path ++ [slot]) (by simp) (by simp)
    rw [missing, missing, here, ih (path ++ [slot])]
    intro tested longer bounded
    simp only [List.length_append, List.length_cons, List.length_nil] at longer bounded
    refine same tested (by omega) ?_
    rw [List.length_cons]
    omega

section Entry

variable {state : State} (shaped : WellShaped answers root state) {path : List (BitVec 9)}
  {table : BitVec 64} {slot : BitVec 9} (inner : path.length < 3)
  (reached : reach state.memory root path = some table)

include shaped inner reached

/-- A table that is there is found. -/
theorem WellShaped.entry_found {next : BitVec 64}
    (found : reach state.memory root (path ++ [slot]) = some next) :
    (Paging.getOrCreateEntry answers table (slot.setWidth 16) state).1 &&& ENTRY_ADDRESS = next ∧
      (Paging.getOrCreateEntry answers table (slot.setWidth 16) state).2 = state := by
  have nonzero := (shaped.owned _ next (by rw [List.length_append]; exact inner) found).1
  have named := tableAt_append childTable (slots state.memory) root path slot
  rw [show tableAt childTable (slots state.memory) root path = some table from reached, Option.bind_some,
    show tableAt childTable (slots state.memory) root (path ++ [slot]) = some next from found,
    childTable] at named
  have masked : slots state.memory table slot &&& ENTRY_ADDRESS = next := by
    split at named
    · cases named
    · exact (Option.some.inj named).symm
  have occupied : state.memory (entryAddress table (slot.setWidth 16)) ≠ 0 := by
    intro zero
    rw [slots, zero] at masked
    exact nonzero masked.symm
  rw [Paging.getOrCreateEntry, if_neg occupied]
  exact ⟨masked, rfl⟩

/-- A table that is missing is asked for. -/
theorem WellShaped.entry_missing (absent : reach state.memory root (path ++ [slot]) = none) :
    slots state.memory table slot = 0 ∧
    Paging.getOrCreateEntry answers table (slot.setWidth 16) state =
      if answers state.requests = 0 then (0, { state with requests := state.requests + 1 })
      else (answers state.requests, ⟨linkedMemory answers state table slot, state.requests + 1⟩) := by
  have named := tableAt_append childTable (slots state.memory) root path slot
  rw [show tableAt childTable (slots state.memory) root path = some table from reached, Option.bind_some,
    show tableAt childTable (slots state.memory) root (path ++ [slot]) = none from absent] at named
  have empty := shaped.vacant path table slot inner reached named.symm
  have vacant : state.memory (entryAddress table (slot.setWidth 16)) = 0 := empty
  refine ⟨empty, ?_⟩
  by_cases full : answers state.requests = 0
  · simp only [Paging.getOrCreateEntry, kzalloc, if_pos vacant, if_pos full]
  · simp only [Paging.getOrCreateEntry, kzalloc, if_pos vacant, if_neg full, linkedMemory,
      writePointerTableEntry]

end Entry

/-- The way down ends in a table if the heap grants what is missing. -/
theorem WellShaped.descend_served (fresh : FreshPages answers) (rest : List (BitVec 9)) :
    ∀ (path : List (BitVec 9)) (table : BitVec 64) (state : State), WellShaped answers root state →
      path.length + rest.length = 3 → reach state.memory root path = some table →
      ((descend answers table rest state).1 ≠ 0 ↔
        Granted answers state (missing state.memory root path rest)) := by
  induction rest with
  | nil =>
    intro path table state shaped bounded reached
    have nonzero := (shaped.owned path table (by simpa using bounded.le) reached).1
    exact iff_of_true nonzero fun j none => absurd none (Nat.not_lt_zero j)
  | cons slot rest ih =>
    intro path table state shaped bounded reached
    rw [List.length_cons] at bounded
    have length : (path ++ [slot]).length + rest.length = 3 := by
      rw [List.length_append, List.length_singleton]
      omega
    rw [descend, missing]
    cases found : reach state.memory root (path ++ [slot]) with
    | some next =>
      obtain ⟨masked, same⟩ := shaped.entry_found (by omega) reached found
      have nonzero := (shaped.owned _ next (by omega) found).1
      simp only [masked, same, if_neg nonzero, reduceCtorEq, if_false, Nat.zero_add]
      exact ih _ next state shaped length found
    | none =>
      obtain ⟨empty, asked⟩ := shaped.entry_missing (by omega) reached found
      rw [if_pos rfl, Nat.add_comm,
        granted_succ state (linkedMemory answers state table slot) (missing _ _ _ _), asked]
      by_cases full : answers state.requests = 0
      · rw [if_pos full]
        exact iff_of_false (fun made => made rfl) fun granted => granted.1 full
      · have masked := (fresh.valid state.requests).masked
        rw [if_neg full, and_iff_right full]
        simp only [masked, if_neg full]
        have reaches := shaped.link_reach fresh (by omega) reached empty full
        have linked := reaches (path ++ [slot]) (by omega)
        rw [if_pos rfl] at linked
        refine (ih _ _ _ (shaped.link_shaped fresh (by omega) reached empty full) length linked).trans ?_
        rw [missing_congr rest (path ++ [slot]) fun tested longer bounded' => ?_]
        rw [reaches tested (by omega), if_neg]
        rintro rfl
        exact absurd longer (Nat.lt_irrefl _)

/-- A mapping goes down to the page table and writes there. -/
theorem mapPage_descend (root physical virtual : BitVec 64) (state : State) :
    (mapPage answers root physical virtual state).1 = SUCCESS ↔
      (descend answers root (slotsAbove (pageOf virtual)) state).1 ≠ 0 := by
  have failed : -ENMEM ≠ SUCCESS := by decide
  rw [mapPage, getPml4Index_page, getPdpIndex_page, getPdIndex_page]
  simp only [descend, slotsAbove]
  split_ifs <;> simp_all

/-- A mapping succeeds if the heap grants the tables that are missing. -/
theorem WellShaped.mapPage_served {state : State} (shaped : WellShaped answers root state)
    (fresh : FreshPages answers) (physical virtual : BitVec 64) :
    (Paging.mapPage answers root physical virtual state).1 = SUCCESS ↔
      Granted answers state (missing state.memory root [] (slotsAbove (pageOf virtual))) := by
  rw [mapPage_descend root physical virtual state]
  exact WellShaped.descend_served fresh _ [] root state shaped rfl rfl

/-- No more than three tables are missing. -/
theorem missing_le (memory : Memory) (root : BitVec 64) (rest : List (BitVec 9)) :
    ∀ path, missing memory root path rest ≤ rest.length := by
  induction rest with
  | nil => exact fun _ => Nat.le_refl 0
  | cons slot rest ih =>
    intro path
    have below := ih (path ++ [slot])
    rw [missing, List.length_cons]
    split_ifs <;> omega

/-- An entry takes one request at most. -/
theorem getOrCreateEntry_requests (table : BitVec 64) (entryIndex : BitVec 16) (state : State) :
    state.requests ≤ (getOrCreateEntry answers table entryIndex state).2.requests ∧
      (getOrCreateEntry answers table entryIndex state).2.requests ≤ state.requests + 1 := by
  simp only [getOrCreateEntry, kzalloc]
  split_ifs <;> simp

/-- And a mapping takes three. -/
theorem mapPage_requests (root physical virtual : BitVec 64) (state : State) :
    state.requests ≤ (mapPage answers root physical virtual state).2.requests ∧
      (mapPage answers root physical virtual state).2.requests ≤ state.requests + 3 := by
  simp only [mapPage]
  have one := @getOrCreateEntry_requests answers root (getPml4IndexFromVirtual virtual) state
  generalize getOrCreateEntry answers root (getPml4IndexFromVirtual virtual) state = pdp at one ⊢
  have two := @getOrCreateEntry_requests answers (pdp.1 &&& ENTRY_ADDRESS)
    (getPdpIndexFromVirtual virtual) pdp.2
  generalize getOrCreateEntry answers (pdp.1 &&& ENTRY_ADDRESS)
    (getPdpIndexFromVirtual virtual) pdp.2 = pd at two ⊢
  have three := @getOrCreateEntry_requests answers (pd.1 &&& ENTRY_ADDRESS)
    (getPdIndexFromVirtual virtual) pd.2
  generalize getOrCreateEntry answers (pd.1 &&& ENTRY_ADDRESS)
    (getPdIndexFromVirtual virtual) pd.2 = pt at three ⊢
  split_ifs <;> dsimp only <;> omega

end BobaOS.Paging
