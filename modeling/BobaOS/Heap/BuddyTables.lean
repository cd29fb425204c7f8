import BobaOS.Heap.BuddyLaws

/-!
# The tables of the buddy heap

The tables lie one behind the other, and each has twice as many entries as the one before.
The functions that go from an entry to its children, its parent, its buddy and its block
know the index of the entry from its address, and compute an address from an index. The
laws here need nothing else of the configuration.
-/

namespace BobaOS.BuddyHeap

open Programs BuddyTree

/-- The address of an entry, by level and index. -/
def entryAt (v : Variables) (l i : Nat) : Nat := v.lvlTable l + ENTRY_SIZE * i

/-- `entryToHeapAddress`, for a heap that begins at any address. -/
def entryToHeapAddressFrom (v : Variables) (heapAddress entry : Nat) : M Nat := do
  let index ← tableIndex v entry
  let blockSize := (v.tableMetaData (← getLvl v entry)).blockSize
  return (heapAddress + index * blockSize) % 2 ^ 64

theorem entryToHeapAddress_from (v : Variables) (entry : Nat) :
    entryToHeapAddress v entry = entryToHeapAddressFrom v BOBAOS_KERNEL_HEAP_ADDRESS entry := rfl

/-- The tables are made of entries, end in the address space, and double. -/
structure Tables (v : Variables) : Prop where
  levels : v.maxLvl ≤ KHEAP_MAX_ALLOWED_LEVEL
  nonzero : v.tableStartAddress ≠ 0
  narrow : v.tablesEnd ≤ 2 ^ 64
  aligned : ∀ l < v.maxLvl, ∃ k, v.lvlTable l = v.tableStartAddress + ENTRY_SIZE * k
  inside : ∀ l < v.maxLvl, v.lvlTable l + ENTRY_SIZE * (v.tableMetaData l).maxEntries ≤ v.tablesEnd
  doubled : ∀ l, l + 1 < v.maxLvl →
    (v.tableMetaData (l + 1)).maxEntries = 2 * (v.tableMetaData l).maxEntries

section Navigation

variable {v : Variables} {s : State} {fault : Fault → Prop} (tables : Tables v) {l i : Nat}
  (level : l < v.maxLvl)

include tables level

/-- `lvlTable` is read inside its bounds. -/
theorem Tables.tableAt_meets {post : Nat → State → Prop} :
    Meets (tableAt v l) s fault post ↔ post (v.lvlTable l) s := by
  rw [tableAt, if_pos (level.trans_le tables.levels), meets_pure]

variable (inside : i < (v.tableMetaData l).maxEntries)

include inside

/-- An entry ends where its table does, or before. -/
theorem Tables.entry_end : entryAt v l i + ENTRY_SIZE ≤ v.tablesEnd := by
  have table := tables.inside l level
  have bound := Nat.mul_le_mul_left ENTRY_SIZE (Nat.succ_le_of_lt inside)
  rw [Nat.mul_succ] at bound
  rw [entryAt]
  omega

theorem Tables.entry_narrow : entryAt v l i + ENTRY_SIZE ≤ 2 ^ 64 :=
  (tables.entry_end level inside).trans tables.narrow

theorem Tables.real : Real v (entryAt v l i) := by
  obtain ⟨k, table⟩ := tables.aligned l level
  have there : entryAt v l i = v.tableStartAddress + ENTRY_SIZE * (k + i) := by
    rw [entryAt, table, Nat.mul_add, Nat.add_assoc]
  have before : v.tableStartAddress ≤ entryAt v l i := there ▸ Nat.le_add_right _ _
  have positive := Nat.pos_of_ne_zero tables.nonzero
  have ends := tables.entry_end level inside
  have size : 0 < ENTRY_SIZE := by decide
  have behind : entryAt v l i < v.tablesEnd := by omega
  have aligned : (entryAt v l i - v.tableStartAddress) % ENTRY_SIZE = 0 := by
    rw [there, Nat.add_sub_cancel_left, Nat.mul_mod_right]
  exact ⟨by simp [isEntry, before, behind, aligned], by omega⟩

variable (lvl : s.lvl (entryAt v l i) = l)

include lvl

theorem Tables.getLvl_meets {post : Nat → State → Prop} :
    Meets (getLvl v (entryAt v l i)) s fault post ↔ post l s := by
  rw [meets_getLvl (tables.real level inside), lvl]

theorem Tables.tableIndex_meets {post : Nat → State → Prop} :
    Meets (tableIndex v (entryAt v l i)) s fault post ↔ post i s := by
  have ends := tables.entry_narrow level inside
  have index : (entryAt v l i + 2 ^ 64 - v.lvlTable l) % 2 ^ 64 / ENTRY_SIZE = i := by
    rw [entryAt] at ends ⊢
    simp only [ENTRY_SIZE] at ends ⊢
    omega
  rw [tableIndex, meets_bind, tables.getLvl_meets level inside lvl, meets_bind,
    tables.tableAt_meets level, meets_pure, index]

/-- The first child has twice the index. -/
theorem Tables.getHigher_meets (deeper : l + 1 < v.maxLvl) {post : Nat → State → Prop} :
    Meets (getHigherTableEntryAddressFromBlock v (entryAt v l i)) s fault post ↔
      post (entryAt v (l + 1) (2 * i)) s := by
  have child : 2 * i < (v.tableMetaData (l + 1)).maxEntries := by
    rw [tables.doubled l deeper]
    omega
  have ends := tables.entry_narrow deeper child
  have size : 0 < ENTRY_SIZE := by decide
  have there : (v.lvlTable (l + 1) + ENTRY_SIZE * (i * 2)) % 2 ^ 64 = entryAt v (l + 1) (2 * i) := by
    rw [Nat.mul_comm i, ← entryAt, Nat.mod_eq_of_lt (by omega)]
  rw [getHigherTableEntryAddressFromBlock, meets_bind, tables.getLvl_meets level inside lvl,
    if_neg (by omega), meets_bind, tables.tableIndex_meets level inside lvl, meets_bind,
    tables.tableAt_meets deeper, meets_pure, there]

/-- The buddy is the other child of the same parent. -/
theorem Tables.getBuddy_meets (other : buddy i < (v.tableMetaData l).maxEntries)
    {post : Nat → State → Prop} :
    Meets (getBuddy v (entryAt v l i)) s fault post ↔ post (entryAt v l (buddy i)) s := by
  have ends := tables.entry_narrow level inside
  have other_ends := tables.entry_narrow level other
  rw [getBuddy, meets_bind, tables.tableIndex_meets level inside lvl]
  rw [buddy] at other_ends ⊢
  split_ifs at other_ends ⊢ with even
  · have next : (entryAt v l i + ENTRY_SIZE) % 2 ^ 64 = entryAt v l (i + 1) := by
      simp only [entryAt, ENTRY_SIZE] at other_ends ⊢
      omega
    rw [meets_pure, next]
  · have last : (entryAt v l i + 2 ^ 64 - ENTRY_SIZE) % 2 ^ 64 = entryAt v l (i - 1) := by
      simp only [entryAt, ENTRY_SIZE] at ends ⊢
      omega
    rw [meets_pure, last]

/-- The block of an entry is as far into the heap as the blocks before it. -/
theorem Tables.entryToHeapAddress_meets (heapAddress : Nat) {post : Nat → State → Prop} :
    Meets (entryToHeapAddressFrom v heapAddress (entryAt v l i)) s fault post ↔
      post ((heapAddress + i * (v.tableMetaData l).blockSize) % 2 ^ 64) s := by
  rw [entryToHeapAddressFrom, meets_bind, tables.tableIndex_meets level inside lvl, meets_bind,
    tables.getLvl_meets level inside lvl, meets_pure]

end Navigation

/-- The parent has half the index. -/
theorem Tables.getLower_meets {v : Variables} {s : State} {fault : Fault → Prop} (tables : Tables v)
    {l i : Nat} (deeper : l + 1 < v.maxLvl) (inside : i < (v.tableMetaData (l + 1)).maxEntries)
    (lvl : s.lvl (entryAt v (l + 1) i) = l + 1) {post : Nat → State → Prop} :
    Meets (getLowerTableEntryAddressFromBlock v (entryAt v (l + 1) i)) s fault post ↔
      post (entryAt v l (i / 2)) s := by
  have level : l < v.maxLvl := by omega
  have parent : i / 2 < (v.tableMetaData l).maxEntries := by
    rw [tables.doubled l deeper] at inside
    omega
  have ends := tables.entry_narrow level parent
  have size : 0 < ENTRY_SIZE := by decide
  have there : (v.lvlTable l + ENTRY_SIZE * (i / 2)) % 2 ^ 64 = entryAt v l (i / 2) := by
    rw [← entryAt, Nat.mod_eq_of_lt (by omega)]
  rw [getLowerTableEntryAddressFromBlock, meets_bind, tables.getLvl_meets deeper inside lvl,
    if_neg (Nat.succ_ne_zero l), meets_bind, tables.tableIndex_meets deeper inside lvl, meets_bind,
    Nat.add_sub_cancel, tables.tableAt_meets level, meets_pure, there]

/-! ## The kernel's tables -/

theorem LaidOut.entryAt {v : Variables} (laid : LaidOut v) {l i : Nat} (level : l < 8) :
    entryAt v l i = entryOf l i := by
  rw [BuddyHeap.entryAt, laid.table l level, entryOf_add, Nat.zero_add]

theorem LaidOut.level {v : Variables} (laid : LaidOut v) {l : Nat} (level : l < 8) :
    l < v.maxLvl := laid.maxLvl ▸ level

theorem LaidOut.index {v : Variables} (laid : LaidOut v) {l i : Nat} (level : l < 8)
    (inside : i < entries l) : i < (v.tableMetaData l).maxEntries := by
  rwa [laid.maxEntries l level]

/-- What the kernel's initialization lays out are such tables. -/
theorem LaidOut.tables {v : Variables} (laid : LaidOut v) : Tables v where
  levels := by
    rw [laid.maxLvl]
    decide
  nonzero := by
    rw [laid.tableStartAddress]
    decide
  narrow := by
    rw [laid.tablesEnd]
    decide
  aligned l level := by
    rw [laid.maxLvl] at level
    refine ⟨1024 * (2 ^ l - 1), ?_⟩
    rw [laid.table l level, laid.tableStartAddress, entryOf, Nat.add_zero, Nat.mul_add, Nat.mul_one]
  inside l level := by
    rw [laid.maxLvl] at level
    have behind := entryOf_mono (show l + 1 ≤ 8 by omega)
    rw [laid.table l level, laid.maxEntries l level, entryOf_add, Nat.zero_add, laid.tablesEnd,
      entryOf_end]
    exact behind
  doubled l deeper := by
    rw [laid.maxLvl] at deeper
    rw [laid.maxEntries l (by omega), laid.maxEntries (l + 1) deeper, entries, entries, Nat.pow_succ]
    omega

end BobaOS.BuddyHeap
