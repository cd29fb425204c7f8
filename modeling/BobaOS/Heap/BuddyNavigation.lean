import Mathlib.Tactic.Ring
import BobaOS.Heap.BuddyTables
import BobaOS.Library.PackedRecords

/-!
# Navigation in any configuration

`readMetaData` lays the tables out for a heap of any number of biggest pages, which are
halved down to a smallest page. Whatever these are and wherever the tables and the heap
begin, an entry that is not of the last level has two children, which are buddies, and whose
blocks are the halves of its own.
-/

namespace BobaOS.BuddyHeap

open Programs BuddyTree PackedRecords

/-! ## The loop of `readMetaData` -/

section MetaData

variable (heapSize : Nat)

/-- The levels before the first one of the loop are left. -/
theorem metaDataFrom_before (left : Nat) : ∀ (i size address : Nat) (data : Nat → TableMetaData)
    (l : Nat), l < i → metaDataFrom heapSize left i size address data l = data l := by
  induction left with
  | zero => exact fun _ _ _ _ _ _ => rfl
  | succ left ih =>
    intro i size address data l before
    rw [metaDataFrom, ih _ _ _ _ _ (Nat.lt_succ_of_lt before), Function.update_of_ne (by omega)]

/-- The first level of the loop. -/
theorem metaDataFrom_first (left i size address : Nat) (data : Nat → TableMetaData) :
    metaDataFrom heapSize (left + 1) i size address data i =
      ⟨heapSize / size, heapSize / size * ENTRY_SIZE, address, size⟩ := by
  rw [metaDataFrom, metaDataFrom_before heapSize _ _ _ _ _ _ (Nat.lt_succ_self i), Function.update_self]

/-- Each of the others has blocks of half the size, and its table behind the last one. -/
theorem metaDataFrom_next (left : Nat) : ∀ (i size address : Nat) (data : Nat → TableMetaData)
    (l : Nat), i ≤ l → l + 1 < i + left →
    let tables := metaDataFrom heapSize left i size address data
    let count := heapSize / ((tables l).blockSize / 2)
    tables (l + 1) = ⟨count, count * ENTRY_SIZE, (tables l).tableStartAddress + (tables l).tableSize,
      (tables l).blockSize / 2⟩ := by
  induction left with
  | zero =>
    intro i size address data l from_i below
    omega
  | succ left ih =>
    intro i size address data l from_i below
    rcases Nat.lt_or_eq_of_le from_i with later | rfl
    · rw [metaDataFrom]
      exact ih _ _ _ _ _ later (by omega)
    · obtain ⟨left, rfl⟩ := Nat.exists_eq_succ_of_ne_zero (show left ≠ 0 by omega)
      dsimp only
      rw [metaDataFrom_first, metaDataFrom, metaDataFrom_first]

end MetaData

/-! ## Configurations -/

/-- The variables of a configuration whose tables `readMetaData` has laid out: the heap has
a power of two of biggest pages, the levels go down to the smallest page at most, and the
call has returned 0. The tables do not begin at NULL, which the initialization skips. -/
structure Configured (v : Variables) (smallest a b : Nat) : Prop where
  heapSize : v.heapSize = v.maxPage * 2 ^ a
  maxPage : v.maxPage = smallest * 2 ^ b
  maxLvl : v.maxLvl ≤ b + 1
  levels : v.maxLvl ≤ KHEAP_MAX_ALLOWED_LEVEL
  nonzero : v.tableStartAddress ≠ 0
  laid : ∃ before, readMetaData { v with tableMetaData := before } = (0, v.tableMetaData)
  lvlTable : ∀ l < v.maxLvl, v.lvlTable l = (v.tableMetaData l).tableStartAddress
  heap_narrow : v.heapSize < 2 ^ 64
  memory_narrow : v.lowerMemorySize < 2 ^ 64

section Configurations

variable {v : Variables} {smallest a b : Nat} (configured : Configured v smallest a b)

include configured

/-- `readMetaData` has succeeded, and left what its loop makes. -/
theorem Configured.metaData : v.tablesEnd ≤ v.lowerMemorySize ∧ ∃ before, v.tableMetaData =
    metaDataFrom v.heapSize v.maxLvl 0 v.maxPage v.tableStartAddress before := by
  obtain ⟨before, laid⟩ := configured.laid
  rw [readMetaData] at laid
  dsimp only at laid
  split_ifs at laid with beyond
  · have failed : -ENMEM = 0 := congrArg Prod.fst laid
    exact absurd failed (by decide)
  · have same := (congrArg Prod.snd laid).symm
    dsimp only at same
    rw [← same] at beyond
    exact ⟨Nat.le_of_not_lt beyond, before, same⟩

/-- The first level. -/
theorem Configured.first (some : 0 < v.maxLvl) :
    (v.tableMetaData 0).tableStartAddress = v.tableStartAddress ∧
      (v.tableMetaData 0).blockSize = v.maxPage ∧
      (v.tableMetaData 0).maxEntries = v.heapSize / v.maxPage ∧
      (v.tableMetaData 0).tableSize = (v.tableMetaData 0).maxEntries * ENTRY_SIZE := by
  obtain ⟨-, before, same⟩ := configured.metaData
  obtain ⟨left, levels⟩ := Nat.exists_eq_succ_of_ne_zero some.ne'
  rw [same, levels, Nat.succ_eq_add_one, metaDataFrom_first]
  exact ⟨rfl, rfl, rfl, rfl⟩

/-- The next level. -/
theorem Configured.next {l : Nat} (deeper : l + 1 < v.maxLvl) :
    (v.tableMetaData (l + 1)).tableStartAddress =
        (v.tableMetaData l).tableStartAddress + (v.tableMetaData l).tableSize ∧
      (v.tableMetaData (l + 1)).blockSize = (v.tableMetaData l).blockSize / 2 ∧
      (v.tableMetaData (l + 1)).maxEntries = v.heapSize / (v.tableMetaData (l + 1)).blockSize ∧
      (v.tableMetaData (l + 1)).tableSize = (v.tableMetaData (l + 1)).maxEntries * ENTRY_SIZE := by
  obtain ⟨-, before, same⟩ := configured.metaData
  have law := metaDataFrom_next v.heapSize v.maxLvl 0 v.maxPage v.tableStartAddress before l
    (Nat.zero_le l) (by omega)
  rw [← same] at law
  dsimp only at law
  rw [law]
  exact ⟨rfl, rfl, rfl, rfl⟩

/-- The blocks of a level are halves of those before. -/
theorem Configured.blockSize {l : Nat} : l < v.maxLvl →
    (v.tableMetaData l).blockSize = smallest * 2 ^ (b - l) := by
  have levels := configured.maxLvl
  induction l with
  | zero =>
    intro some
    rw [(configured.first some).2.1, configured.maxPage, Nat.sub_zero]
  | succ l ih =>
    intro deeper
    have power : 2 ^ (b - l) = 2 ^ (b - (l + 1)) * 2 := by
      rw [← Nat.pow_succ]
      congr 1
      omega
    rw [(configured.next deeper).2.1, ih (by omega), power, ← Nat.mul_assoc,
      Nat.mul_div_cancel _ (by decide)]

/-- There are as many entries as blocks in the heap. -/
theorem Configured.maxEntries {l : Nat} (level : l < v.maxLvl) :
    (v.tableMetaData l).maxEntries = v.heapSize / (v.tableMetaData l).blockSize ∧
      (v.tableMetaData l).tableSize = (v.tableMetaData l).maxEntries * ENTRY_SIZE := by
  cases l with
  | zero =>
    obtain ⟨-, size, count, bytes⟩ := configured.first level
    exact ⟨by rw [count, size], bytes⟩
  | succ l => exact (configured.next level).2.2

/-- A heap is made of the blocks of a level. -/
theorem Configured.blocks {l : Nat} (level : l < v.maxLvl) :
    (v.tableMetaData l).blockSize * 2 ^ (a + l) = v.heapSize := by
  have levels := configured.maxLvl
  have powers : 2 ^ (b - l) * 2 ^ (a + l) = 2 ^ b * 2 ^ a := by
    rw [← Nat.pow_add, ← Nat.pow_add]
    congr 1
    omega
  rw [configured.blockSize level, Nat.mul_assoc, powers, ← Nat.mul_assoc, ← configured.maxPage,
    configured.heapSize]

/-- Twice as many blocks of half the size. -/
theorem Configured.doubled {l : Nat} (deeper : l + 1 < v.maxLvl) :
    (v.tableMetaData (l + 1)).blockSize * 2 = (v.tableMetaData l).blockSize ∧
      (v.tableMetaData (l + 1)).maxEntries = 2 * (v.tableMetaData l).maxEntries := by
  have levels := configured.maxLvl
  have level : l < v.maxLvl := by omega
  have half : (v.tableMetaData (l + 1)).blockSize * 2 = (v.tableMetaData l).blockSize := by
    rw [configured.blockSize deeper, configured.blockSize level, Nat.mul_assoc, ← Nat.pow_succ]
    congr 2
    omega
  refine ⟨half, ?_⟩
  have all := configured.blocks level
  rw [(configured.maxEntries deeper).1, (configured.maxEntries level).1, ← half, ← all, ← half]
  generalize (v.tableMetaData (l + 1)).blockSize = size
  rcases Nat.eq_zero_or_pos size with rfl | positive
  · simp
  · rw [Nat.mul_div_cancel_left _ (Nat.mul_pos positive (by decide)), Nat.mul_assoc,
      Nat.mul_div_cancel_left _ positive]

/-- A table ends where a later one begins, or before. -/
theorem Configured.behind {l : Nat} (k : Nat) : l + k + 1 < v.maxLvl →
    (v.tableMetaData l).tableStartAddress + (v.tableMetaData l).tableSize ≤
      (v.tableMetaData (l + k + 1)).tableStartAddress := by
  induction k with
  | zero =>
    intro deeper
    rw [Nat.add_zero, (configured.next deeper).1]
  | succ k ih =>
    intro deeper
    rw [← Nat.add_assoc] at deeper ⊢
    have before := ih (by omega)
    rw [(configured.next deeper).1]
    omega

/-- All of them are made of entries. -/
theorem Configured.aligned {l : Nat} : l < v.maxLvl →
    ∃ k, (v.tableMetaData l).tableStartAddress = v.tableStartAddress + ENTRY_SIZE * k := by
  induction l with
  | zero => exact fun some => ⟨0, (configured.first some).1⟩
  | succ l ih =>
    intro deeper
    obtain ⟨k, start⟩ := ih (by omega)
    have size := (configured.maxEntries (show l < v.maxLvl by omega)).2
    refine ⟨k + (v.tableMetaData l).maxEntries, ?_⟩
    rw [(configured.next deeper).1, start, size, Nat.mul_add, Nat.mul_comm _ ENTRY_SIZE, Nat.add_assoc]

/-- Each ends where the last one does, or before. -/
theorem Configured.inside {l : Nat} (level : l < v.maxLvl) :
    (v.tableMetaData l).tableStartAddress + (v.tableMetaData l).tableSize ≤ v.tablesEnd := by
  rw [Variables.tablesEnd]
  rcases Nat.lt_or_eq_of_le (show l ≤ v.maxLvl - 1 by omega) with before | last
  · obtain ⟨k, last⟩ := Nat.exists_eq_add_of_lt before
    have law := configured.behind (l := l) k (by omega)
    rw [last]
    omega
  · rw [last]

theorem Configured.tables : Tables v where
  levels := configured.levels
  nonzero := configured.nonzero
  narrow := configured.metaData.1.trans configured.memory_narrow.le
  aligned l level := by
    rw [configured.lvlTable l level]
    exact configured.aligned level
  inside l level := by
    have law := configured.inside level
    rwa [(configured.maxEntries level).2, Nat.mul_comm, ← configured.lvlTable l level] at law
  doubled l deeper := (configured.doubled deeper).2

end Configurations

/-! ## Children -/

/-- The addresses of the bytes of a table. -/
def tableBytes (v : Variables) (l : Nat) : Set Nat :=
  {address | (v.tableMetaData l).tableStartAddress ≤ address ∧
    address < (v.tableMetaData l).tableStartAddress + (v.tableMetaData l).tableSize}

/-- The addresses of a block that begins at an address. -/
def blockAt (address size : Nat) : Set (BitVec 64) := span (BitVec.ofNat 64 address) size

/-- The two entries from `first` on are the children of an entry of this level, as the
functions see them: entries of the next table, each other's buddies, with the entry as their
parent, and with the halves of its block as their own. -/
structure HasChildren (v : Variables) (heapAddress : Nat) (s : State) (l entry first : Nat) :
    Prop where
  inside : ∀ c < 2, ∃ i < (v.tableMetaData (l + 1)).maxEntries,
    first + ENTRY_SIZE * c = entryAt v (l + 1) i
  buddy_first : (getBuddy v first).run s = .ok (first + ENTRY_SIZE, s)
  buddy_second : (getBuddy v (first + ENTRY_SIZE)).run s = .ok (first, s)
  parent : ∀ c < 2,
    (getLowerTableEntryAddressFromBlock v (first + ENTRY_SIZE * c)).run s = .ok (entry, s)
  blocks : ∃ address second,
    (entryToHeapAddressFrom v heapAddress entry).run s = .ok (address, s) ∧
    (entryToHeapAddressFrom v heapAddress first).run s = .ok (address, s) ∧
    (entryToHeapAddressFrom v heapAddress (first + ENTRY_SIZE)).run s = .ok (second, s) ∧
    second = (address + (v.tableMetaData (l + 1)).blockSize) % 2 ^ 64 ∧
    Disjoint (blockAt address (v.tableMetaData (l + 1)).blockSize)
      (blockAt second (v.tableMetaData (l + 1)).blockSize) ∧
    blockAt address (v.tableMetaData (l + 1)).blockSize ∪
        blockAt second (v.tableMetaData (l + 1)).blockSize =
      blockAt address (v.tableMetaData l).blockSize

/-- The block of an entry is cut into halves. -/
theorem blockAt_halves (heapAddress index : Nat) {half : Nat} (bounded : half + half ≤ 2 ^ 64) :
    let first := (heapAddress + 2 * index * half) % 2 ^ 64
    let second := (heapAddress + (2 * index + 1) * half) % 2 ^ 64
    second = (first + half) % 2 ^ 64 ∧ Disjoint (blockAt first half) (blockAt second half) ∧
      blockAt first half ∪ blockAt second half = blockAt first (half * 2) := by
  dsimp only
  have adjacent : (heapAddress + (2 * index + 1) * half) % 2 ^ 64 =
      ((heapAddress + 2 * index * half) % 2 ^ 64 + half) % 2 ^ 64 := by
    rw [Nat.succ_mul, ← Nat.add_assoc, Nat.mod_add_mod]
  generalize (heapAddress + 2 * index * half) % 2 ^ 64 = first at adjacent ⊢
  have word : BitVec.ofNat 64 ((first + half) % 2 ^ 64) =
      BitVec.ofNat 64 first + BitVec.ofNat 64 half := by
    rw [← BitVec.ofNat_add]
    exact BitVec.eq_of_toNat_eq (by simp)
  obtain ⟨apart, whole⟩ := span_append (BitVec.ofNat 64 first) bounded
  rw [adjacent, Nat.mul_two]
  refine ⟨rfl, ?_, ?_⟩
  · rwa [blockAt, blockAt, word]
  · rwa [blockAt, blockAt, blockAt, word]

/-- Every entry holds the level of its table. -/
def KnowsLevels (v : Variables) (s : State) : Prop :=
  ∀ l < v.maxLvl, ∀ i < (v.tableMetaData l).maxEntries, s.lvl (entryAt v l i) = l

section Children

variable {v : Variables} {smallest a b : Nat} (configured : Configured v smallest a b) {s : State}
  (known : KnowsLevels v s)

include configured known

/-- The two entries at twice the index are the children. -/
theorem Configured.children (heapAddress : Nat) {l i : Nat} (deeper : l + 1 < v.maxLvl)
    (inside : i < (v.tableMetaData l).maxEntries) :
    HasChildren v heapAddress s l (entryAt v l i) (entryAt v (l + 1) (2 * i)) := by
  have tables := configured.tables
  have level : l < v.maxLvl := by omega
  obtain ⟨half, doubled⟩ := configured.doubled deeper
  have even : 2 * i < (v.tableMetaData (l + 1)).maxEntries := by omega
  have odd : 2 * i + 1 < (v.tableMetaData (l + 1)).maxEntries := by omega
  have second : entryAt v (l + 1) (2 * i) + ENTRY_SIZE = entryAt v (l + 1) (2 * i + 1) := by
    rw [entryAt, entryAt, Nat.mul_succ, Nat.add_assoc]
  have child (c : Nat) : entryAt v (l + 1) (2 * i) + ENTRY_SIZE * c = entryAt v (l + 1) (2 * i + c) := by
    rw [entryAt, entryAt, Nat.mul_add, Nat.add_assoc]
  have lvl := known l level i inside
  have lvl_even := known (l + 1) deeper (2 * i) even
  have lvl_odd := known (l + 1) deeper (2 * i + 1) odd
  constructor
  case inside =>
    intro c below
    exact ⟨2 * i + c, by omega, child c⟩
  case buddy_first =>
    rw [second]
    apply Meets.ran
    rw [tables.getBuddy_meets deeper even lvl_even (by rwa [buddy_even]), buddy_even]
    exact ⟨rfl, rfl⟩
  case buddy_second =>
    rw [second]
    apply Meets.ran
    rw [tables.getBuddy_meets deeper odd lvl_odd (by rwa [buddy_odd]), buddy_odd]
    exact ⟨rfl, rfl⟩
  case parent =>
    intro c below
    have there : 2 * i + c < (v.tableMetaData (l + 1)).maxEntries := by omega
    have index : (2 * i + c) / 2 = i := by omega
    rw [child]
    apply Meets.ran
    rw [tables.getLower_meets deeper there (known (l + 1) deeper _ there), index]
    exact ⟨rfl, rfl⟩
  case blocks =>
    have heap := configured.blocks level
    have narrow := configured.heap_narrow
    have whole := Nat.le_mul_of_pos_right (v.tableMetaData l).blockSize (Nat.two_pow_pos (a + l))
    obtain ⟨adjacent, apart, both⟩ := blockAt_halves heapAddress i
      (show (v.tableMetaData (l + 1)).blockSize + (v.tableMetaData (l + 1)).blockSize ≤ 2 ^ 64 by omega)
    refine ⟨_, _, ?_, ?_, ?_, adjacent, apart, half ▸ both⟩
    · apply Meets.ran
      rw [tables.entryToHeapAddress_meets level inside lvl, ← half]
      refine ⟨?_, rfl⟩
      congr 2
      ring
    · apply Meets.ran
      rw [tables.entryToHeapAddress_meets deeper even lvl_even]
      exact ⟨rfl, rfl⟩
    · rw [second]
      apply Meets.ran
      rw [tables.entryToHeapAddress_meets deeper odd lvl_odd]
      exact ⟨rfl, rfl⟩

/-- In every configuration an entry that is not of the last level has two children, which
are buddies, have it as their parent and the halves of its block as their blocks; and no two
tables have an address in common. -/
theorem children_are_halves (heapAddress : Nat) :
    (∀ l i, l + 1 < v.maxLvl → i < (v.tableMetaData l).maxEntries → ∃ first,
      (getHigherTableEntryAddressFromBlock v (entryAt v l i)).run s = .ok (first, s) ∧
        HasChildren v heapAddress s l (entryAt v l i) first) ∧
    ∀ l l', l < l' → l' < v.maxLvl → Disjoint (tableBytes v l) (tableBytes v l') := by
  constructor
  · intro l i deeper inside
    have level : l < v.maxLvl := by omega
    refine ⟨_, ?_, configured.children known heapAddress deeper inside⟩
    apply Meets.ran
    rw [configured.tables.getHigher_meets level inside (known l level i inside) deeper]
    exact ⟨rfl, rfl⟩
  · intro l l' before below
    obtain ⟨k, rfl⟩ := Nat.exists_eq_add_of_lt before
    have behind := configured.behind k below
    rw [Set.disjoint_left]
    rintro address ⟨-, ends⟩ ⟨starts, -⟩
    omega

end Children

/-! ## The kernel's configuration -/

/-- The levels that are counted are those down to the smallest page, or none. -/
theorem detectMaxLvlFrom_le (left : Nat) : ∀ i b,
    detectMaxLvlFrom left i (BOBAOS_KERNEL_HEAP_SMALLEST_PAGE * 2 ^ b) ≤ i + b ∧
      detectMaxLvlFrom left i (BOBAOS_KERNEL_HEAP_SMALLEST_PAGE * 2 ^ b) ≤ i + left := by
  induction left with
  | zero => exact fun i b => ⟨Nat.zero_le _, Nat.zero_le _⟩
  | succ left ih =>
    intro i b
    rw [detectMaxLvlFrom]
    split_ifs with smallest
    · exact ⟨Nat.le_add_right _ _, Nat.le_add_right _ _⟩
    · cases b with
      | zero => exact absurd (Nat.mul_one _) smallest
      | succ b =>
        have half : BOBAOS_KERNEL_HEAP_SMALLEST_PAGE * 2 ^ (b + 1) / 2 =
            BOBAOS_KERNEL_HEAP_SMALLEST_PAGE * 2 ^ b := by
          rw [Nat.pow_succ, ← Nat.mul_assoc, Nat.mul_div_cancel _ (by decide)]
        have law := ih (i + 1) b
        rw [half]
        omega

theorem detectMaxLvl_le (b : Nat) :
    detectMaxLvl (BOBAOS_KERNEL_HEAP_SMALLEST_PAGE * 2 ^ b) ≤ b + 1 ∧
      detectMaxLvl (BOBAOS_KERNEL_HEAP_SMALLEST_PAGE * 2 ^ b) ≤ KHEAP_MAX_ALLOWED_LEVEL := by
  have law := detectMaxLvlFrom_le (KHEAP_MAX_ALLOWED_LEVEL - 1) 1 b
  rw [detectMaxLvl]
  simp only [KHEAP_MAX_ALLOWED_LEVEL] at law ⊢
  omega

theorem initVariables_levels (lowerMemorySize : Nat) : (initVariables lowerMemorySize).maxLvl =
    detectMaxLvl (BOBAOS_KERNEL_HEAP_SMALLEST_PAGE * 2 ^ 7) := by
  rw [(initVariables_laidOut lowerMemorySize).maxLvl]
  decide

/-- Where `kheapInitBuddy` succeeds, its variables are such a configuration. -/
theorem kheapInitBuddy_configured {lowerMemorySize : Nat} {memory : State}
    (narrow : lowerMemorySize < 2 ^ 64) (success : (kheapInitBuddy lowerMemorySize memory).1 = 0) :
    Configured (initVariables lowerMemorySize) BOBAOS_KERNEL_HEAP_SMALLEST_PAGE 10 7 where
  heapSize := by
    rw [(initVariables_laidOut lowerMemorySize).heapSize, (initVariables_laidOut lowerMemorySize).maxPage]
    decide
  maxPage := (initVariables_laidOut lowerMemorySize).maxPage
  maxLvl := (initVariables_levels lowerMemorySize).trans_le (detectMaxLvl_le 7).1
  levels := (initVariables_levels lowerMemorySize).trans_le (detectMaxLvl_le 7).2
  nonzero := by
    rw [(initVariables_laidOut lowerMemorySize).tableStartAddress]
    decide
  laid := by
    refine ⟨fun _ => ⟨0, 0, 0, 0⟩, if_neg fun beyond => ?_⟩
    have minPage : (initVariables lowerMemorySize).minPage = BOBAOS_KERNEL_HEAP_SMALLEST_PAGE := rfl
    have beyond : (initVariables lowerMemorySize).lowerMemorySize <
      (initVariables lowerMemorySize).tablesEnd := beyond
    have failed : (kheapInitBuddy lowerMemorySize memory).1 = -ENMEM := by
      rw [kheapInitBuddy, if_neg (not_not.mpr minPage), if_pos beyond]
    rw [failed] at success
    exact absurd success (by decide)
  lvlTable l level := if_pos level
  heap_narrow := by
    rw [(initVariables_laidOut lowerMemorySize).heapSize]
    decide
  memory_narrow := narrow

/-- A memory in which every entry of the kernel's tables holds its level. -/
def levelledMemory : State where
  next _ := 0
  prev _ := 0
  lvl entry := Nat.log2 ((entry / ENTRY_SIZE - 1) / 1024 + 1)
  flags _ := 0
  nullDereferenced := false

theorem levelledMemory_known (lowerMemorySize : Nat) :
    KnowsLevels (initVariables lowerMemorySize) levelledMemory := by
  have laid := initVariables_laidOut lowerMemorySize
  intro l level i inside
  rw [laid.maxLvl] at level
  rw [laid.maxEntries l level, entries] at inside
  rw [laid.entryAt level]
  show Nat.log2 ((entryOf l i / ENTRY_SIZE - 1) / 1024 + 1) = l
  have positive := Nat.two_pow_pos l
  have index : (entryOf l i / ENTRY_SIZE - 1) / 1024 + 1 = 2 ^ l + i / 1024 := by
    rw [entryOf, Nat.mul_div_cancel_left _ (by decide)]
    omega
  rw [index, Nat.log2_eq_iff (by omega), Nat.pow_succ]
  omega

/-- In the kernel's heap the last entry of the first level has two children. -/
theorem kernel_children_are_halves : ∃ first,
    (getHigherTableEntryAddressFromBlock (initVariables 0x480000)
      (entryAt (initVariables 0x480000) 0 1023)).run levelledMemory = .ok (first, levelledMemory) ∧
    HasChildren (initVariables 0x480000) BOBAOS_KERNEL_HEAP_ADDRESS levelledMemory 0
      (entryAt (initVariables 0x480000) 0 1023) first := by
  have laid := initVariables_laidOut 0x480000
  have configured : Configured (initVariables 0x480000) BOBAOS_KERNEL_HEAP_SMALLEST_PAGE 10 7 :=
    @kheapInitBuddy_configured 0x480000 levelledMemory (by decide) (by decide +kernel)
  refine (children_are_halves configured (levelledMemory_known 0x480000)
    BOBAOS_KERNEL_HEAP_ADDRESS).1 0 1023 ?_ ?_
  · rw [laid.maxLvl]
    decide
  · rw [laid.maxEntries 0 (by decide)]
    decide

end BobaOS.BuddyHeap
