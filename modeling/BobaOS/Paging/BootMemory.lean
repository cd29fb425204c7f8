import BobaOS.Heap.PageRequests
import BobaOS.Paging.BootTable
import BobaOS.Paging.MemorySizes

/-!
# How the kernel comes up

`kmain` reads the memory map, sets up the page heap below 1 MiB and has its own page table made of
pages of that heap. The firmware's map decides what comes of it: the kernel gives up with a message
where the reported memory is less than 512 MiB, or where there is no room for the table of the heap
below 1 MiB. Otherwise it comes up, since the heap has more pages than the tables can take.
-/

namespace BobaOS.Paging

open TableTree MemoryMap Programs

/-! ## The heap's pages -/

/-- What the page heap answers to the paging code: its pages in a row. -/
def pageAnswers (request : Nat) : BitVec 64 := BitVec.ofNat 64 (PageHeap.pageAnswer request)

theorem pageAnswers_toNat (request : Nat) :
    (pageAnswers request).toNat = PageHeap.pageAnswer request := by
  have bound := PageHeap.pageAnswer_bound request
  rw [pageAnswers, BitVec.toNat_ofNat]
  omega

theorem pageAnswer_cases (request : Nat) :
    request < 25600 ∧ PageHeap.pageAnswer request = 0x500000 + request * 4096 ∨
      25600 ≤ request ∧ PageHeap.pageAnswer request = 0 := by
  have pages : PageHeap.heapPages = 25600 := rfl
  rw [PageHeap.pageAnswer, pages]
  split_ifs with inside
  · exact .inl ⟨inside, rfl⟩
  · exact .inr ⟨Nat.le_of_not_lt inside, rfl⟩

theorem pageAnswers_fresh : FreshPages pageAnswers where
  valid request := by
    have cases := pageAnswer_cases request
    have bound := PageHeap.pageAnswer_bound request
    refine ⟨?_, ?_⟩ <;> rw [pageAnswers_toNat] <;> omega
  distinct earlier later before nonzero same := by
    have first := pageAnswer_cases earlier
    have second := pageAnswer_cases later
    have equal := congrArg BitVec.toNat same
    have other : (pageAnswers later).toNat ≠ 0 := fun zero => nonzero (BitVec.eq_of_toNat_eq zero)
    rw [pageAnswers_toNat] at other equal
    rw [pageAnswers_toNat] at equal
    omega

theorem pageAnswers_granted (memory : Memory) {count : Nat} (few : count ≤ 25600) :
    Granted pageAnswers ⟨memory, 0⟩ count := by
  intro j below zero
  have answer := pageAnswer_cases j
  have null : (pageAnswers (0 + j)).toNat = 0 := congrArg BitVec.toNat zero
  rw [Nat.zero_add, pageAnswers_toNat] at null
  omega

/-! ## Code -/

def BOBAOS_MIN_MEMORY : BitVec 64 := 0x100000 * 512

/-- Why there is no kernel table: the second stage has not gone on, `readMemoryMap` has left its
array, the kernel has shown a message, or a range is mapped for ever. -/
inductive Stopped where
  | halted (why : Halted)
  | fault (problem : MemoryMap.Fault)
  | panic (message : String)
  | endless
deriving DecidableEq

/-- The part of `kmain` from the memory map to the kernel's table. The heap is given byte by byte,
the tables word by word: only the heap writes to its own table, and the tables are in pages that it
hands out. -/
def kmainMemory (map : MemoryMap.State) (heap : PageHeap.State) (memory : Memory) :
    Except Stopped (BitVec 64 × State) :=
  if map.totalMemorySize < BOBAOS_MIN_MEMORY then
    .error (.panic "At least 512MB of memory is required to run BobaOS")
  else
    match PageHeap.kheapInitTable map.totalMemorySize.toNat map.upperMemorySize.toNat heap with
    | (ret, heap) =>
      if ret < 0 then .error (.panic "Not enough memory to initialize Kernel page Heap")
      else
        match createKernelTable (PageHeap.heapAnswers heap) 0x0 map ⟨memory, 0⟩ with
        | none => .error .endless
        | some (kernelPageTable, state) =>
          if kernelPageTable = 0 then .error (.panic "Not enough kernel heap to init paging")
          else .ok (kernelPageTable, state)

/-- From the second stage on. -/
def bootMemory (int15 : BitVec 32 → Answer) (patience : Nat) (buffer : Nat → Entry)
    (heap : PageHeap.State) (memory : Memory) : Except Stopped (BitVec 64 × State) :=
  match getMemoryMap int15 patience buffer with
  | .error why => .error (.halted why)
  | .ok firmware =>
    match (readMemoryMap firmware).run boot with
    | .error problem => .error (.fault problem)
    | .ok ((), map) => kmainMemory map heap memory

/-! ## What the firmware's map decides -/

/-- What the first entries cover. -/
def sizeOf (entries : Nat → Entry) (count : Nat) : BitVec 64 :=
  totalLength ((List.range count).map entries)

theorem rangePages_length (ranges : List (Nat × Nat)) {most : Nat}
    (bounded : ∀ range ∈ ranges, range.2 ≤ most) :
    (rangePages ranges).length ≤ ranges.length * most := by
  induction ranges with
  | nil => exact Nat.zero_le _
  | cons range rest ih =>
    have here := bounded range List.mem_cons_self
    have behind := ih fun other member => bounded other (List.mem_cons_of_mem _ member)
    rw [rangePages, List.flatMap_cons, ← rangePages, List.length_append, List.length_range',
      List.length_cons, Nat.succ_mul]
    omega

theorem table_room (total upper : BitVec 64) :
    total - upper < 25600 ↔ 25600 > (total.toNat + 2 ^ 64 - upper.toNat) % 2 ^ 64 := by
  have narrow := upper.isLt
  rw [BitVec.lt_def, BitVec.toNat_sub, show (25600 : BitVec 64).toNat = 25600 from rfl]
  omega

theorem table_size : PageHeap.BOBAOS_KERNEL_HEAP_SIZE / PageHeap.KHEAP_BLOCK_SIZE +
    PageHeap.BOBAOS_KERNEL_HEAP_TABLE_ADDRESS = 25600 := rfl

/-- The heap is set up if there is room for its table below 1 MiB. -/
theorem kheapInitTable_refused {total upper : BitVec 64} (crowded : total - upper < 25600)
    (heap : PageHeap.State) : ∃ after,
      PageHeap.kheapInitTable total.toNat upper.toNat heap = (-ENMEM, after) := by
  rw [PageHeap.kheapInitTable, table_size, if_pos ((table_room total upper).mp crowded)]
  exact ⟨_, rfl⟩

theorem kheapInitTable_done {total upper : BitVec 64} (room : ¬ total - upper < 25600)
    (heap : PageHeap.State) : ∃ after,
      PageHeap.kheapInitTable total.toNat upper.toNat heap = (SUCCESS, after) ∧
        PageHeap.clients.start ⟨after, []⟩ := by
  have set_up : ∃ after,
      PageHeap.kheapInitTable total.toNat upper.toNat heap = (SUCCESS, after) := by
    rw [PageHeap.kheapInitTable, table_size, if_neg fun full => room ((table_room total upper).mpr full)]
    exact ⟨_, rfl⟩
  obtain ⟨after, set_up⟩ := set_up
  exact ⟨after, set_up, rfl, heap, total.toNat, upper.toNat, set_up⟩

section Boot

variable {int15 : BitVec 32 → Answer} {entries : Nat → Entry} {n c : Nat}

/-- There are not many pages in ranges that are short. -/
theorem kernelFrames_length (fits : n ≤ 15) (some : 1 ≤ c)
    (short : ShortRanges (upperEntries entries n c)) :
    (kernelFrames entries n c).length ≤ 256 + 14 * 2 ^ 19 := by
  have pages := rangePages_length ((upperEntries entries n c).filterMap freeRange)
    fun range member => show range.2 ≤ 2 ^ 19 by
      have bound := short range member
      omega
  have few : ((upperEntries entries n c).filterMap freeRange).length ≤ 14 := by
    refine (List.length_filterMap_le _ _).trans ?_
    rw [upperEntries, List.length_map, List.length_range]
    omega
  rw [kernelFrames, List.length_append, List.length_range', freePages]
  omega

variable (firmware : Firmware int15 entries n c)
include firmware

/-- The sums that `readMemoryMap` leaves. -/
theorem Firmware.sizes (fits : n ≤ 15) {buffer : Nat → Entry} {map : MemoryMap.State}
    (ran : (readMemoryMap (scanned entries buffer n)).run boot = .ok ((), map)) :
    map.totalMemorySize = sizeOf entries n ∧
      map.totalMemorySize - map.upperMemorySize = sizeOf entries c := by
  have bounded := firmware.bounded
  have few : n < 200 := by omega
  have read := firmware.map few buffer
  have summed := read.summed fits ran
  have first (count : Nat) (inside : count ≤ n) :
      firmwareEntries (scanned entries buffer n) count = (List.range count).map entries :=
    List.map_congr_left fun k member =>
      scanned_entry entries buffer (Nat.lt_of_lt_of_le (List.mem_range.mp member) inside)
  rw [summed.total, summed.upper, read.lower, first n (Nat.le_refl n), first c bounded]
  exact ⟨rfl, rfl⟩

/-- The kernel comes up exactly if the firmware reports 512 MiB, and 25 KiB of them below 1 MiB. Its
table shows the free memory then. -/
theorem boot_memory (fits : n < 15 ∨ n = 15 ∧ c = 1) (short : ShortRanges (upperEntries entries n c))
    (small : ∀ frame ∈ freePages (upperEntries entries n c), frame < 2 ^ 36) (buffer : Nat → Entry)
    {patience : Nat} (enough : n ≤ patience) (heap : PageHeap.State) (memory : Memory) :
    if sizeOf entries n < BOBAOS_MIN_MEMORY then
      bootMemory int15 patience buffer heap memory =
        .error (.panic "At least 512MB of memory is required to run BobaOS")
    else if sizeOf entries c < 25600 then
      bootMemory int15 patience buffer heap memory =
        .error (.panic "Not enough memory to initialize Kernel page Heap")
    else ∃ kernelPageTable after, bootMemory int15 patience buffer heap memory =
        .ok (kernelPageTable, after) ∧ ShowsFreeMemory kernelPageTable entries n c after := by
  have few : n < 200 := by omega
  have some := firmware.some
  obtain ⟨map, read, reworked⟩ := (memory_map_iff _ n c (firmware.map few buffer)).mpr fits
  obtain ⟨total, lower⟩ := firmware.sizes (by omega) read
  have list := firmware.mapEntries_eq reworked
  have ranges : (mapEntries map).filterMap freeRange =
      (0, 256) :: (upperEntries entries n c).filterMap freeRange := by
    rw [list]
    rfl
  have pages : freePages (mapEntries map) = kernelFrames entries n c := by
    rw [freePages, ranges, rangePages, List.flatMap_cons, kernelFrames, freePages, rangePages]
  have counted : ShortRanges (mapEntries map) := by
    rw [ShortRanges, ranges]
    rintro range (_ | ⟨_, member⟩)
    · decide
    · exact short range member
  have length := kernelFrames_length (by omega) some short
  have began : bootMemory int15 patience buffer heap memory = kmainMemory map heap memory := by
    rw [bootMemory, firmware.getMemoryMap_eq few enough buffer]
    dsimp only
    rw [read]
  rw [began, kmainMemory, total]
  rw [total] at lower
  by_cases little : sizeOf entries n < BOBAOS_MIN_MEMORY
  · rw [if_pos little, if_pos little]
  rw [if_neg little, if_neg little, ← total]
  rw [← total] at lower
  by_cases crowded : sizeOf entries c < 25600
  · rw [if_pos crowded]
    rw [← lower] at crowded
    obtain ⟨after, refused⟩ := kheapInitTable_refused crowded heap
    rw [refused]
    rfl
  rw [if_neg crowded]
  rw [← lower] at crowded
  obtain ⟨heap, set_up, started⟩ := kheapInitTable_done crowded heap
  have answers : PageHeap.heapAnswers heap = pageAnswers :=
    funext fun request => PageHeap.heapAnswers_eq started request
  obtain ⟨root, after, ran, outcome⟩ := createKernelTable_laid pageAnswers_fresh 0 map ⟨memory, 0⟩
    counted (by rw [pages]; omega)
  have first : pageOf 0 = 0 := rfl
  rw [pages, ranges, first] at outcome
  have tables := rowPaths_card ((kernelFrames entries n c).length + 1) (by omega)
  obtain ⟨nonzero, laid⟩ := outcome.resolve_right fun full =>
    full.2 (pageAnswers_granted memory (by omega))
  rw [set_up]
  dsimp only
  rw [if_neg (by decide), answers, ran]
  dsimp only
  rw [if_neg nonzero]
  exact ⟨root, after, rfl, laid.showsFreeMemory small (by omega)⟩

end Boot

/-! ## A machine with 1 GiB -/

/-- Its map: the first entries below 1 MiB, then free memory up to two reserved ranges. -/
def machineMap : List Entry :=
  [⟨0x0, 0x9FC00, 1⟩, ⟨0x9FC00, 0x400, 2⟩, ⟨0xF0000, 0x10000, 2⟩, ⟨0x100000, 0x3FEE0000, 1⟩,
    ⟨0x3FFE0000, 0x20000, 2⟩, ⟨0xFFFC0000, 0x40000, 2⟩]

/-- The entry with a number, and no entry. -/
def machineEntry (k : Nat) : Entry := machineMap.getD k ⟨0, 0, 0⟩

/-- A firmware whose continuations are the numbers of the entries. -/
def machineFirmware (ebx : BitVec 32) : Answer :=
  ⟨false, if ebx.toNat + 1 = 6 then 0 else ebx + 1, machineEntry ebx.toNat⟩

theorem machineFirmware_answers : Firmware machineFirmware machineEntry 6 3 where
  begun := ⟨fun k => BitVec.ofNat 32 k, rfl, by decide⟩
  typed := by decide
  low := by decide
  high k above below := by
    have upper : ∀ k < 6, 3 ≤ k → SIZE_1MB ≤ (machineEntry k).address := by decide
    exact upper k below above
  some := by decide
  bounded := by decide

theorem machine_ranges :
    (upperEntries machineEntry 6 3).filterMap freeRange = [(256, 0x3FEE0)] := rfl

theorem machine_pages : freePages (upperEntries machineEntry 6 3) = List.range' 256 0x3FEE0 := by
  rw [freePages, machine_ranges, rangePages, List.flatMap_cons, List.flatMap_nil, List.append_nil]

/-- It comes up, and goes on at the addresses that it had. -/
theorem machine_comes_up : ∃ kernelPageTable after,
    bootMemory machineFirmware 6 (fun _ => ⟨0, 0, 0⟩) ⟨fun _ => 0xFF, 0, 0⟩ (fun _ => 0xCCCC) =
      .ok (kernelPageTable, after) ∧
    ∀ virtual : BitVec 64, virtual.toNat < 0x3FFE0000 →
      virtualToPhysical virtual kernelPageTable after.memory = virtual := by
  have short : ShortRanges (upperEntries machineEntry 6 3) := by
    rw [ShortRanges, machine_ranges]
    decide
  have small : ∀ frame ∈ freePages (upperEntries machineEntry 6 3), frame < 2 ^ 36 := by
    rw [machine_pages]
    intro frame member
    rw [List.mem_range'_1] at member
    omega
  have length : (kernelFrames machineEntry 6 3).length = 0x3FFE0 := by
    rw [kernelFrames, machine_pages, List.length_append, List.length_range', List.length_range']
  have outcome := boot_memory machineFirmware_answers (.inl (by decide)) short small
    (fun _ => ⟨0, 0, 0⟩) (Nat.le_refl 6) ⟨fun _ => 0xFF, 0, 0⟩ (fun _ => 0xCCCC)
  rw [if_neg (by decide), if_neg (by decide)] at outcome
  obtain ⟨root, after, ran, shows⟩ := outcome
  refine ⟨root, after, ran, fun virtual inside => shows.identity.mpr ?_ virtual (by omega)⟩
  rw [machine_ranges]
  exact ⟨fun _ => rfl, trivial⟩

end BobaOS.Paging
