import BobaOS.Heap.PageFrees

/-!
# Pages in a row

Whoever asks the heap for single pages and gives none back, as the paging code does, is given the
pages of the heap in a row, and the null pointer once there are none left. What is written to the
pages in the meantime does not matter.
-/

namespace BobaOS.PageHeap

open Runs Extents

/-- The pointers that requests returned, oldest first. -/
def answered (past : List Action) : List Nat :=
  past.filterMap fun
    | .alloc _ pointer => some pointer
    | _ => none

/-- Single pages are asked for, and none is given back. -/
def Action.Keeps : Action → Prop
  | .alloc size _ => size = KHEAP_BLOCK_SIZE
  | .free _ => False
  | .store _ _ => True

/-- The answer to the request with a number. -/
def pageAnswer (request : Nat) : Nat := if request < heapPages then pageAddress request else 0

/-- The blocks of an arrangement cover its first pages. -/
def Filled (live : Arrangement heapPages) (count : Nat) : Prop :=
  ∀ page < heapPages, (∀ extent ∈ live.extents, ¬ extent.Holds page) ↔ count ≤ page

theorem one_page : pagesFor KHEAP_BLOCK_SIZE = 1 := rfl

/-- A request for a page is answered with the first page that is not covered. -/
theorem Describes.page_answer {state : State} {live : Arrangement heapPages} {count : Nat}
    (described : Describes state live) (filled : Filled live count) :
    (kzallocPage KHEAP_BLOCK_SIZE state).1 = pageAnswer count := by
  have positive : 1 ≤ KHEAP_BLOCK_SIZE := by decide
  have bounded : KHEAP_BLOCK_SIZE ≤ 2 ^ 64 - 4096 := by decide
  have run_iff (page : Nat) : UnlockedRun state.memory page (pagesFor KHEAP_BLOCK_SIZE) ↔
      page < heapPages ∧ count ≤ page := by
    rw [one_page, UnlockedRun]
    constructor
    · rintro ⟨inside, unlocked⟩
      have free := (described.unlocked_iff page inside).mp (unlocked page (Nat.le_refl _) (by omega))
      exact ⟨inside, (filled page inside).mp free⟩
    · rintro ⟨inside, behind⟩
      refine ⟨inside, fun other lower upper => ?_⟩
      obtain rfl : other = page := by omega
      exact (described.unlocked_iff other inside).mpr ((filled other inside).mpr behind)
  rcases described.first_fit KHEAP_BLOCK_SIZE positive bounded with
    ⟨refused, crowded⟩ | ⟨first, heap, granted, run, lowest⟩
  · rw [refused, pageAnswer, if_neg fun inside =>
      crowded count ((run_iff count).mpr ⟨inside, Nat.le_refl count⟩)]
  · obtain ⟨inside, behind⟩ := (run_iff first).mp run
    have least : ¬ count < first := fun before =>
      lowest count before ((run_iff count).mpr ⟨by omega, Nat.le_refl count⟩)
    obtain rfl : first = count := by omega
    rw [granted, pageAnswer, if_pos inside]

/-- The page is covered then. -/
theorem Arranged.filled {live next : Arrangement heapPages} {pointer count : Nat}
    (arranged : Arranged live (.alloc KHEAP_BLOCK_SIZE pointer) next)
    (answer : pointer = pageAnswer count) (filled : Filled live count) : Filled next (count + 1) := by
  intro page inside
  cases arranged with
  | refused =>
    have full : ¬ count < heapPages := fun room => by
      rw [pageAnswer, if_pos room] at answer
      exact pageAddress_ne_zero count answer.symm
    rw [filled page inside]
    omega
  | granted _ extent length fits fresh =>
    have here : extent.first = count := by
      rw [pageAnswer] at answer
      split_ifs at answer with room
      · exact (pageAddress_injective _ _).mp answer
      · exact absurd answer (pageAddress_ne_zero _)
    rw [one_page] at length
    constructor
    · intro clear
      have other := clear extent List.mem_cons_self
      have behind := (filled page inside).mp fun old member =>
        clear old (List.mem_cons_of_mem _ member)
      rw [Extent.Holds] at other
      omega
    · intro behind old member
      rcases List.mem_cons.mp member with rfl | before
      · rw [Extent.Holds]
        omega
      · exact (filled page inside).mpr (by omega) old before

/-- A client that keeps its pages: the arrangement behind the session is filled from the front, in
the order of the answers. -/
structure InOrder (past : List Action) (session : Session) : Prop where
  behind : ∃ live, Holding session live ∧ Filled live (answered past).length
  answers : answered past = (List.range (answered past).length).map pageAnswer

theorem answered_alloc (past : List Action) (size pointer : Nat) :
    answered (past ++ [.alloc size pointer]) = answered past ++ [pointer] := by
  rw [answered, answered, List.filterMap_append]
  rfl

theorem answered_store (past : List Action) (address : Nat) (value : UInt8) :
    answered (past ++ [.store address value]) = answered past := by
  rw [answered, answered, List.filterMap_append]
  exact List.append_nil _

/-- Every step but a free keeps the order. -/
theorem InOrder.step {past : List Action} {session after : Session} {action : Action}
    (order : InOrder past session) (keeps : action.Keeps) (stepped : Step session action after) :
    InOrder (past ++ [action]) after := by
  obtain ⟨live, holding, filled⟩ := order.behind
  have next_answer : ∀ pointer, pointer = pageAnswer (answered past).length →
      answered past ++ [pointer] =
        (List.range (answered past ++ [pointer]).length).map pageAnswer := by
    rintro _ rfl
    rw [List.length_append, List.length_singleton, List.range_succ, List.map_append, ← order.answers]
    rfl
  cases stepped with
  | refused size heap positive bounded result =>
    obtain rfl : size = KHEAP_BLOCK_SIZE := keeps
    have answer : 0 = pageAnswer (answered past).length := by
      rw [← holding.described.page_answer filled, result]
    refine ⟨⟨live, holding.refused KHEAP_BLOCK_SIZE heap positive bounded result, ?_⟩, ?_⟩
    · rw [answered_alloc, List.length_append, List.length_singleton]
      exact (Arranged.refused live KHEAP_BLOCK_SIZE).filled answer filled
    · rw [answered_alloc]
      exact next_answer 0 answer
  | granted size pointer heap positive bounded nonzero result =>
    obtain rfl : size = KHEAP_BLOCK_SIZE := keeps
    have answer : pointer = pageAnswer (answered past).length := by
      rw [← holding.described.page_answer filled, result]
    obtain ⟨next, arranged, holds⟩ :=
      holding.granted KHEAP_BLOCK_SIZE pointer heap positive bounded nonzero result
    refine ⟨⟨next, holds, ?_⟩, ?_⟩
    · rw [answered_alloc, List.length_append, List.length_singleton]
      exact arranged.filled answer filled
    · rw [answered_alloc]
      exact next_answer pointer answer
  | free block member code heap result => exact keeps.elim
  | store block member address inside value =>
    refine ⟨⟨live, holding.store block member address inside value, ?_⟩, ?_⟩
    · rwa [answered_store]
    · rw [answered_store]
      exact order.answers

theorem InOrder.start {session : Session} (started : clients.start session) : InOrder [] session := by
  obtain ⟨live, begun, holding⟩ := clients_simulate.initially session started
  refine ⟨⟨live, holding, fun page inside => ?_⟩, rfl⟩
  rw [begun]
  exact iff_of_true (fun extent member => absurd member (List.not_mem_nil)) (Nat.zero_le page)

/-- Whoever gives no page back is given the pages in a row. -/
theorem pages_in_order {past : List Action} {session : Session}
    (reached : clients.Reaches past session) (keeps : ∀ action ∈ past, action.Keeps) :
    InOrder past session := by
  have invariant : System.Invariant clients fun past session =>
      (∀ action ∈ past, action.Keeps) → InOrder past session :=
    { initially := fun session started _ => .start started
      preserved := by
        intro past session after action order stepped keeps
        have earlier := order fun other member => keeps other (List.mem_append_left _ member)
        exact earlier.step (keeps action (List.mem_append_right _ List.mem_cons_self)) stepped }
  exact invariant.reached reached keeps

/-! ## Requests only -/

/-- The heap after a number of requests for a page. -/
def afterRequests (heap : State) : Nat → State
  | 0 => heap
  | request + 1 => (kzalloc KHEAP_BLOCK_SIZE (afterRequests heap request)).2

/-- What the heap answers to the request with a number. -/
def heapAnswers (heap : State) (request : Nat) : BitVec 64 :=
  BitVec.ofNat 64 (kzalloc KHEAP_BLOCK_SIZE (afterRequests heap request)).1

section Requests

variable {session : Session} (started : clients.start session)
include started

theorem afterRequests_reached (count : Nat) : ∃ past live,
    clients.Reaches past ⟨afterRequests session.heap count, live⟩ ∧ (∀ action ∈ past, action.Keeps) ∧
      (answered past).length = count := by
  induction count with
  | zero => exact ⟨[], session.live, .start _ started, by simp, rfl⟩
  | succ count ih =>
    obtain ⟨past, live, reached, keeps, length⟩ := ih
    have kept (pointer : Nat) :
        ∀ action ∈ past ++ [.alloc KHEAP_BLOCK_SIZE pointer], action.Keeps := by
      intro action member
      rcases List.mem_append.mp member with earlier | last
      · exact keeps action earlier
      · rw [List.mem_singleton.mp last]
        exact rfl
    have longer (pointer : Nat) :
        (answered (past ++ [.alloc KHEAP_BLOCK_SIZE pointer])).length = count + 1 := by
      rw [answered_alloc, List.length_append, List.length_singleton, length]
    by_cases refused : (kzalloc KHEAP_BLOCK_SIZE (afterRequests session.heap count)).1 = 0
    · exact ⟨_, live, .step past _ _ _ reached (.refused _ KHEAP_BLOCK_SIZE _ (by decide) (by decide)
        (Prod.ext refused rfl)), kept 0, longer 0⟩
    · exact ⟨_, _, .step past _ _ _ reached (.granted _ KHEAP_BLOCK_SIZE _ _ (by decide) (by decide)
        refused rfl), kept _, longer _⟩

/-- The pages in a row. -/
theorem heapAnswers_eq (request : Nat) :
    heapAnswers session.heap request = BitVec.ofNat 64 (pageAnswer request) := by
  obtain ⟨past, live, reached, keeps, length⟩ := afterRequests_reached started request
  obtain ⟨live', holding, filled⟩ := (pages_in_order reached keeps).behind
  rw [length] at filled
  rw [heapAnswers, kzalloc, holding.described.page_answer filled]

end Requests

theorem pageAnswer_bound (request : Nat) : pageAnswer request < 2 ^ 48 := by
  have pages : heapPages = 25600 := rfl
  rw [pageAnswer]
  split_ifs
  · rw [pageAddress, BOBAOS_KERNEL_HEAP_ADDRESS, KHEAP_BLOCK_SIZE]
    omega
  · decide

end BobaOS.PageHeap
