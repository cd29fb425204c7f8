import BobaOS.Heap.PageBlocks

/-!
# The page heap is first fit

The search of `findFreePages` counts the unlocked pages in front of it and starts
again behind every locked one. What it has passed is described by the starts it
has ruled out: a start is blocked when a locked page lies within the pages
counted from it. Every start before the current count is blocked, so that the
search can give up only when no run is left, and returns the lowest one.
-/

namespace BobaOS.PageHeap

open Extents Runs

/-- Consecutive unlocked pages of the heap. -/
def UnlockedRun (memory : Memory) (start pages : Nat) : Prop :=
  start + pages ≤ heapPages ∧
    ∀ page, start ≤ page → page < start + pages → Unlocked memory page

/-- A locked page lies within the pages counted from the start. -/
def Blocked (memory : Memory) (pages start : Nat) : Prop :=
  ∃ page, start ≤ page ∧ page < start + pages ∧ ¬ Unlocked memory page

/-- No run begins at a blocked start. -/
theorem Blocked.no_run {memory : Memory} {pages start : Nat} (blocked : Blocked memory pages start) :
    ¬ UnlockedRun memory start pages := by
  obtain ⟨page, lower, upper, locked⟩ := blocked
  exact fun run => locked (run.2 page lower upper)

/-- What the search leaves behind it: the starts before the last `foundCount`
pages are blocked, and too few pages are counted for a run. -/
structure Passed (memory : Memory) (pagesCount i foundCount : Nat) : Prop where
  blocked : ∀ start, start + foundCount < i → Blocked memory pagesCount start
  short : foundCount < pagesCount
  counted : foundCount ≤ i

/-- One more unlocked page lengthens the count, and no start is passed. -/
theorem Passed.unlocked {memory : Memory} {pagesCount i foundCount : Nat}
    (passed : Passed memory pagesCount i foundCount) (incomplete : foundCount + 1 ≠ pagesCount) :
    Passed memory pagesCount (i + 1) (foundCount + 1) where
  blocked start before := passed.blocked start (by omega)
  short := Nat.lt_of_le_of_ne passed.short incomplete
  counted := Nat.succ_le_succ passed.counted

/-- A locked page blocks every start whose pages were being counted, and its own. -/
theorem Passed.locked {memory : Memory} {pagesCount i foundCount : Nat}
    (passed : Passed memory pagesCount i foundCount) (taken : ¬ Unlocked memory i) :
    Passed memory pagesCount (i + 1) 0 where
  blocked start before := by
    by_cases earlier : start + foundCount < i
    · exact passed.blocked start earlier
    · have short := passed.short
      exact ⟨i, by omega, by omega, taken⟩
  short := Nat.lt_of_le_of_lt (Nat.zero_le _) passed.short
  counted := Nat.zero_le _

/-- Meaning of what the search returns: giving up means that every start whose
pages lie in the table is blocked, an index that every lower one is. -/
def Report (memory : Memory) (pagesCount limit : Nat) : Option Nat → Prop
  | none => ∀ start, start + pagesCount ≤ limit → Blocked memory pagesCount start
  | some first => ∀ start < first, Blocked memory pagesCount start

/-- The search reports truly, by induction on the bytes left to look at. -/
theorem findFreePagesLoop_reports (memory : Memory) (pagesCount remaining i foundCount : Nat)
    (passed : Passed memory pagesCount i foundCount) :
    Report memory pagesCount (i + remaining)
      (findFreePagesLoop memory pagesCount remaining i foundCount) := by
  induction remaining generalizing i foundCount with
  | zero =>
    intro start inside
    have short := passed.short
    exact passed.blocked start (by omega)
  | succ remaining ih =>
    have behind : i + (remaining + 1) = i + 1 + remaining := by omega
    rw [findFreePagesLoop, behind]
    by_cases unlocked : memory (getTableEntry i) &&& KHEAP_FLAG_LOCKED = 0
    · rw [if_pos unlocked]
      by_cases complete : foundCount + 1 = pagesCount
      · rw [if_pos complete]
        intro start before
        exact passed.blocked start (by omega)
      · rw [if_neg complete]
        exact ih (i + 1) (foundCount + 1) (passed.unlocked complete)
    · have restarted : Passed memory pagesCount (i + 1) 0 := passed.locked unlocked
      have positive : (0 : Nat) ≠ pagesCount := Nat.ne_of_lt restarted.short
      rw [if_neg unlocked, if_neg positive]
      exact ih (i + 1) 0 restarted

/-- A request of a described heap is refused when no run of its length is left,
and is otherwise given the lowest one. -/
theorem Describes.first_fit {state : State} {live : Arrangement heapPages}
    (described : Describes state live) (size : Nat) (positive : 1 ≤ size)
    (bounded : size ≤ 2 ^ 64 - 4096) :
    (kzallocPage size state = (0, state) ∧
      ∀ start, ¬ UnlockedRun state.memory start (pagesFor size)) ∨
    ∃ first heap, kzallocPage size state = (pageAddress first, heap) ∧
      UnlockedRun state.memory first (pagesFor size) ∧
      ∀ start < first, ¬ UnlockedRun state.memory start (pagesFor size) := by
  have begun : Passed state.memory (pagesFor size) 0 0 :=
    ⟨fun start before => by omega, pagesFor_positive size positive, Nat.zero_le _⟩
  have reported := findFreePagesLoop_reports state.memory (pagesFor size) state.tableSize 0 0 begun
  have limit : heapPages = 25600 := rfl
  have tableSize := described.tableSize
  rw [Nat.zero_add] at reported
  simp only [kzallocPage, pageCount_sizeUpToPage size bounded, findFreePages]
  cases found : findFreePagesLoop state.memory (pagesFor size) state.tableSize 0 0 with
  | none =>
    rw [found] at reported
    left
    refine ⟨rfl, fun start run => ?_⟩
    have inside : start + pagesFor size ≤ state.tableSize := tableSize ▸ run.1
    exact (reported start inside).no_run run
  | some first =>
    rw [found] at reported
    right
    obtain ⟨inside, unlocked⟩ := findFreePagesLoop_sound state.memory (pagesFor size)
      state.tableSize 0 0 first (Nat.le_refl 0) (fun page _ upper => by omega) found
    have address : (BOBAOS_KERNEL_HEAP_ADDRESS + first * KHEAP_BLOCK_SIZE) % 2 ^ 64 =
        pageAddress first := by
      simp only [pageAddress, BOBAOS_KERNEL_HEAP_ADDRESS, KHEAP_BLOCK_SIZE]
      omega
    refine ⟨first, _, Prod.ext address rfl, ⟨by omega, unlocked⟩, fun start before => ?_⟩
    exact (reported start before).no_run

/-- In every state a run comes to, a request returns the null pointer exactly
when the heap has no run of unlocked pages of the length it is rounded up to,
and then changes nothing; otherwise it returns the address of the lowest run. -/
theorem lowest_run_returned (past : List Action) (session : Session)
    (reached : clients.Reaches past session) (size : Nat) (positive : 1 ≤ size)
    (bounded : size ≤ 2 ^ 64 - 4096) :
    ((kzallocPage size session.heap).1 = 0 ↔
      ∀ start, ¬ UnlockedRun session.heap.memory start (pagesFor size)) ∧
    ((kzallocPage size session.heap).1 = 0 → (kzallocPage size session.heap).2 = session.heap) ∧
    ∀ first, (kzallocPage size session.heap).1 = pageAddress first ↔
      UnlockedRun session.heap.memory first (pagesFor size) ∧
        ∀ start < first, ¬ UnlockedRun session.heap.memory start (pagesFor size) := by
  obtain ⟨live, holding⟩ := reached_holding reached
  rcases holding.described.first_fit size positive bounded with
    ⟨refused, crowded⟩ | ⟨lowest, heap, granted, run, below⟩
  · rw [refused]
    refine ⟨⟨fun _ => crowded, fun _ => rfl⟩, fun _ => rfl, fun first => ?_⟩
    exact ⟨fun same => absurd same.symm (pageAddress_ne_zero first),
      fun room => absurd room.1 (crowded first)⟩
  · rw [granted]
    refine ⟨⟨fun null => absurd null (pageAddress_ne_zero lowest),
      fun crowded => absurd run (crowded lowest)⟩,
      fun null => absurd null (pageAddress_ne_zero lowest), fun first => ?_⟩
    dsimp only
    rw [pageAddress_injective]
    constructor
    · rintro rfl
      exact ⟨run, below⟩
    · rintro ⟨other, least⟩
      rcases Nat.lt_trichotomy lowest first with before | same | behind
      · exact absurd run (least lowest before)
      · exact same
      · exact absurd other (below first behind)

/-- A fresh heap is one run: a request for all of it is given its first page,
and one byte more is refused. -/
theorem whole_heap_returned : ∃ session, clients.Reaches [] session ∧
    (kzallocPage BOBAOS_KERNEL_HEAP_SIZE session.heap).1 = pageAddress 0 ∧
    (kzallocPage (BOBAOS_KERNEL_HEAP_SIZE + 1) session.heap).1 = 0 := by
  have started := freshHeap_reached
  obtain ⟨_, _, lowest⟩ :=
    lowest_run_returned [] _ started BOBAOS_KERNEL_HEAP_SIZE (by decide) (by decide)
  obtain ⟨refused, _, _⟩ :=
    lowest_run_returned [] _ started (BOBAOS_KERNEL_HEAP_SIZE + 1) (by decide) (by decide)
  have whole : pagesFor BOBAOS_KERNEL_HEAP_SIZE = heapPages := by decide
  have more : pagesFor (BOBAOS_KERNEL_HEAP_SIZE + 1) = heapPages + 1 := by decide
  refine ⟨_, started, (lowest 0).mpr ⟨⟨by omega, fun page _ inside => ?_⟩, by omega⟩,
    refused.mpr fun start run => ?_⟩
  · have limit : heapPages = 25600 := rfl
    have zero : freshHeap.memory page = 0 :=
      ByteStore.overwrite_inside (fun _ => 0xFF) 0 heapPages (fun _ => 0) page ⟨by omega, by omega⟩
    rw [Unlocked, getTableEntry_small page (by omega), zero]
    decide
  · have inside := run.1
    omega

end BobaOS.PageHeap
