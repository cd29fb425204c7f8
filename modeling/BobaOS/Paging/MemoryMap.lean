import Mathlib.Algebra.Group.Nat.Defs
import Mathlib.Logic.Function.Basic
import Mathlib.Tactic.SplitIfs
import BobaOS.Library.Copies
import BobaOS.Library.Programs

/-!
# The memory map

`readMemoryMap` copies the firmware's memory map, entry by entry, into an array of fifteen
slots, without looking at its end. `reworkMemoryMap` then replaces the entries below 1 MiB,
which are the first ones, by a single one and moves the others down behind it. It moves
one entry more than there is.
-/

namespace BobaOS.MemoryMap

open Copies Programs

def BOBAOS_MEMORY_MAP_MAX_ENTRIES : Nat := 0xF
def SIZE_1MB : BitVec 64 := 0x100000
def MEMORY_TYPE_FREE : BitVec 32 := 0x1

/-- `sizeof(struct memoryMap)`. -/
def ENTRY_SIZE : Nat := 20

/-- `struct memoryMap`. -/
structure Entry where
  address : BitVec 64
  length : BitVec 64
  type : BitVec 32
deriving DecidableEq

/-- The variables of `paging.c`. -/
structure State where
  memoryMap : Nat → Entry
  memoryMapLength : BitVec 8
  upperMemorySize : BitVec 64
  totalMemorySize : BitVec 64

/-- What ends a call without a return: an access outside the array. -/
inductive Fault where
  | outside
deriving DecidableEq

abbrev M := Program State Fault

/-! ## Code -/

def readSlot (index : Nat) : M Entry := do
  if index < BOBAOS_MEMORY_MAP_MAX_ENTRIES then return (← get).memoryMap index else throw .outside

def writeSlot (index : Nat) (entry : Entry) : M Unit := do
  if index < BOBAOS_MEMORY_MAP_MAX_ENTRIES then
    modify fun state => { state with memoryMap := Function.update state.memoryMap index entry }
  else throw .outside

/-- The loop of `readMemoryMap`, at an offset into both maps, which is one of an entry as
long as the array is not left. Its fuel is one more than the number of the slots, since the
entry behind them is copied outside the array. -/
def readMemoryMapLoop (firmware : Nat → Entry) : Nat → BitVec 16 → BitVec 8 → M (BitVec 8)
  | 0, _, length => return length
  | fuel + 1, offset, length => do
    let map := firmware offset.toNat
    if map.type = 0 then return length
    else
      writeSlot (offset.toNat / ENTRY_SIZE) map
      modify fun state => { state with
        totalMemorySize := state.totalMemorySize + map.length
        upperMemorySize := if SIZE_1MB ≤ map.address then state.upperMemorySize + map.length
          else state.upperMemorySize }
      readMemoryMapLoop firmware fuel (offset + BitVec.ofNat 16 ENTRY_SIZE) (length + 1)

/-- The loop of `reworkMemoryMap`, with as much fuel. -/
def reworkMemoryMapLoop : Nat → BitVec 8 → M (BitVec 8)
  | 0, counter => return counter
  | fuel + 1, counter => do
    let currMap ← readSlot counter.toNat
    if currMap.type ≠ 0 ∧ currMap.address < SIZE_1MB then reworkMemoryMapLoop fuel (counter + 1)
    else return counter

/-- `memset` of the first slots. -/
def clearSlots (count : Nat) : M Unit := do
  if count ≤ BOBAOS_MEMORY_MAP_MAX_ENTRIES then
    modify fun state => { state with
      memoryMap := fun i => if i < count then ⟨0, 0, 0⟩ else state.memoryMap i }
  else throw .outside

/-- `memcpy` from slots to slots in front of them. It copies forwards, so that a slot is
read before it is written. -/
def copySlots (dest source : Nat) : Nat → Nat → M Unit
  | 0, _ => return
  | left + 1, i => do
    let entry ← readSlot (source + i)
    writeSlot (dest + i) entry
    copySlots dest source left (i + 1)

/-- The number of the bytes to be copied is unsigned. -/
def reworkMemoryMap : M Unit := do
  let counter ← reworkMemoryMapLoop (BOBAOS_MEMORY_MAP_MAX_ENTRIES + 1) 0
  clearSlots counter.toNat
  writeSlot 0 ⟨0x0, 0x100000, MEMORY_TYPE_FREE⟩
  let counter := counter - 1
  if 0 < counter then
    let memoryMapLength := (← get).memoryMapLength
    let size := (ENTRY_SIZE * memoryMapLength.toNat + 2 ^ 64 - ENTRY_SIZE * counter.toNat) % 2 ^ 64
    copySlots 1 (counter.toNat + 1) (size / ENTRY_SIZE) 0
    modify fun state => { state with memoryMapLength := state.memoryMapLength - counter }

/-- The firmware's map is given by the byte offset of its entries. -/
def readMemoryMap (firmware : Nat → Entry) : M Unit := do
  let length ← readMemoryMapLoop firmware (BOBAOS_MEMORY_MAP_MAX_ENTRIES + 1) 0 0
  modify fun state => { state with memoryMapLength := length }
  reworkMemoryMap

/-- The first entry that an address lies in. The end of an entry is computed in 64 bits. -/
def getMemoryMapForAddress (address : BitVec 64) (state : State) : Option Entry :=
  ((List.range state.memoryMapLength.toNat).map state.memoryMap).find? fun entry =>
    entry.address ≤ address ∧ address < entry.address + entry.length

/-! ## Slots -/

variable {state : State} {fault : Fault → Prop}

@[simp] theorem meets_readSlot {index : Nat} {post : Entry → State → Prop} :
    Meets (readSlot index) state fault post ↔
      if index < BOBAOS_MEMORY_MAP_MAX_ENTRIES then post (state.memoryMap index) state
      else fault .outside := by
  rw [readSlot]
  split_ifs <;> simp

@[simp] theorem meets_writeSlot {index : Nat} {entry : Entry} {post : PUnit → State → Prop} :
    Meets (writeSlot index entry) state fault post ↔
      if index < BOBAOS_MEMORY_MAP_MAX_ENTRIES then
        post ⟨⟩ { state with memoryMap := Function.update state.memoryMap index entry }
      else fault .outside := by
  rw [writeSlot]
  split_ifs <;> simp

/-- Inside the array a copy is that of one slot after the other. -/
theorem copySlots_copies {dest source : Nat} (left : Nat) :
    ∀ i (state : State), dest + i + left ≤ BOBAOS_MEMORY_MAP_MAX_ENTRIES →
      source + i + left ≤ BOBAOS_MEMORY_MAP_MAX_ENTRIES →
      Meets (copySlots dest source left i) state fault fun _ after =>
        after = { state with
          memoryMap := copy (dest + ·) (source + ·) left i state.memoryMap } := by
  induction left with
  | zero => exact fun _ _ _ _ => .pure rfl
  | succ left ih =>
    intro i state dest_inside source_inside
    rw [copySlots, meets_bind, meets_readSlot, if_pos (by omega), meets_bind, meets_writeSlot,
      if_pos (by omega)]
    exact ih (i + 1) _ (by omega) (by omega)

/-- Copying moves the slots, as long as all of them are in the array. -/
theorem copySlots_meets {dest source : Nat} (before : dest < source) (left i : Nat) (state : State)
    (inside : source + i + left ≤ BOBAOS_MEMORY_MAP_MAX_ENTRIES) :
    Meets (copySlots dest source left i) state fault fun _ after =>
      after = { state with memoryMap := fun j =>
        if dest + i ≤ j ∧ j < dest + i + left then state.memoryMap (j - dest + source)
        else state.memoryMap j } := by
  have moved : Meets (copySlots dest source left i) state fault _ :=
    copySlots_copies left i state (by omega) inside
  rwa [copy_down (Nat.le_of_lt before)] at moved

/-- Otherwise it leaves the array. -/
theorem copySlots_outside {dest source : Nat} (before : dest < source) (left : Nat) :
    ∀ i (state : State), source + i ≤ BOBAOS_MEMORY_MAP_MAX_ENTRIES →
      BOBAOS_MEMORY_MAP_MAX_ENTRIES < source + i + left →
      Meets (copySlots dest source left i) state (fun _ => True) fun _ _ => False := by
  induction left with
  | zero =>
    intro i state inside outside
    omega
  | succ left ih =>
    intro i state inside outside
    rw [copySlots, meets_bind, meets_readSlot]
    by_cases here : source + i < BOBAOS_MEMORY_MAP_MAX_ENTRIES
    · rw [if_pos here, meets_bind, meets_writeSlot, if_pos (by omega)]
      exact ih (i + 1) _ (by omega) (by omega)
    · rw [if_neg here]
      trivial

/-! ## Reading -/

/-- The array after the first entries have been copied. -/
def filled (firmware : Nat → Entry) (count : Nat) (slot : Nat) : Entry :=
  if slot < count then firmware (ENTRY_SIZE * slot) else ⟨0, 0, 0⟩

theorem filled_entry (firmware : Nat → Entry) {count slot : Nat} (below : slot < count) :
    filled firmware count slot = firmware (ENTRY_SIZE * slot) := if_pos below

theorem filled_succ (firmware : Nat → Entry) (count : Nat) :
    Function.update (filled firmware count) count (firmware (ENTRY_SIZE * count)) =
      filled firmware (count + 1) := by
  funext slot
  by_cases here : slot = count
  · rw [here, Function.update_self, filled, if_pos (Nat.lt_succ_self count)]
  · rw [Function.update_of_ne here, filled, filled]
    by_cases below : slot < count
    · rw [if_pos below, if_pos (by omega)]
    · rw [if_neg below, if_neg (by omega)]

/-- A firmware map with that many entries, the first ones of which start below 1 MiB. -/
structure FirmwareMap (firmware : Nat → Entry) (n c : Nat) : Prop where
  entries : ∀ k < n, (firmware (ENTRY_SIZE * k)).type ≠ 0
  last : (firmware (ENTRY_SIZE * n)).type = 0
  low : ∀ k < c, (firmware (ENTRY_SIZE * k)).address < SIZE_1MB
  high : ∀ k, c ≤ k → k < n → SIZE_1MB ≤ (firmware (ENTRY_SIZE * k)).address
  some : 1 ≤ c
  bounded : c ≤ n

section Reading

variable {firmware : Nat → Entry} {n c : Nat} (map : FirmwareMap firmware n c)

theorem offset_toNat {k : Nat} (inside : k ≤ BOBAOS_MEMORY_MAP_MAX_ENTRIES) :
    (BitVec.ofNat 16 (ENTRY_SIZE * k)).toNat = ENTRY_SIZE * k := by
  rw [BOBAOS_MEMORY_MAP_MAX_ENTRIES] at inside
  rw [BitVec.toNat_ofNat, ENTRY_SIZE]
  omega

theorem offset_succ (k : Nat) : BitVec.ofNat 16 (ENTRY_SIZE * k) + BitVec.ofNat 16 ENTRY_SIZE =
    BitVec.ofNat 16 (ENTRY_SIZE * (k + 1)) := by
  rw [← BitVec.ofNat_add, Nat.mul_succ]

theorem counter_succ (k : Nat) : BitVec.ofNat 8 k + 1 = BitVec.ofNat 8 (k + 1) := by
  rw [BitVec.ofNat_add]
  rfl

/-- The loop that counts the entries below 1 MiB ends at a slot of the array. -/
theorem reworkMemoryMapLoop_inside (left : Nat) : ∀ (counter : BitVec 8),
    counter.toNat + left = BOBAOS_MEMORY_MAP_MAX_ENTRIES + 1 → 0 < left →
    Meets (reworkMemoryMapLoop left counter) state (fun _ => True) fun counted _ =>
      counted.toNat < BOBAOS_MEMORY_MAP_MAX_ENTRIES := by
  induction left with
  | zero => exact fun _ _ none_left => absurd none_left (Nat.lt_irrefl 0)
  | succ left ih =>
    intro counter steps _
    rw [reworkMemoryMapLoop, meets_bind, meets_readSlot]
    by_cases inside : counter.toNat < BOBAOS_MEMORY_MAP_MAX_ENTRIES
    · have narrow : counter.toNat < 15 := inside
      have step : (counter + 1).toNat = counter.toNat + 1 := by
        rw [BitVec.toNat_add, show (1 : BitVec 8).toNat = 1 from rfl]
        omega
      rw [if_pos inside, meets_ite]
      exact ⟨fun _ => ih _ (by omega) (by omega), fun _ => .pure inside⟩
    · rw [if_neg inside]
      trivial

include map

/-- Entries that fit are read. -/
theorem FirmwareMap.read (fits : n ≤ BOBAOS_MEMORY_MAP_MAX_ENTRIES) (left : Nat) :
    ∀ k (state : State), k + left = BOBAOS_MEMORY_MAP_MAX_ENTRIES + 1 → k ≤ n →
      state.memoryMap = filled firmware k →
      Meets (readMemoryMapLoop firmware left (BitVec.ofNat 16 (ENTRY_SIZE * k)) (BitVec.ofNat 8 k))
        state fault fun length after =>
          length = BitVec.ofNat 8 n ∧ after.memoryMap = filled firmware n := by
  induction left with
  | zero =>
    intro k state steps bounded
    omega
  | succ left ih =>
    intro k state steps bounded so_far
    rw [readMemoryMapLoop, offset_toNat (by omega)]
    by_cases done : k = n
    · subst done
      rw [if_pos map.last]
      exact .pure ⟨rfl, so_far⟩
    · rw [if_neg (map.entries k (by omega)), meets_bind, Nat.mul_div_cancel_left _ (by decide),
        meets_writeSlot, if_pos (by omega), meets_bind, meets_modify, offset_succ, counter_succ]
      refine ih (k + 1) _ (by omega) (by omega) ?_
      rw [← filled_succ, ← so_far]

/-- Of more entries, one is copied outside the array. -/
theorem FirmwareMap.read_outside (many : BOBAOS_MEMORY_MAP_MAX_ENTRIES < n) (left : Nat) :
    ∀ k (state : State), k + left = BOBAOS_MEMORY_MAP_MAX_ENTRIES + 1 → 0 < left →
      Meets (readMemoryMapLoop firmware left (BitVec.ofNat 16 (ENTRY_SIZE * k)) (BitVec.ofNat 8 k))
        state (fun _ => True) fun _ _ => False := by
  induction left with
  | zero => exact fun _ _ _ none_left => absurd none_left (Nat.lt_irrefl 0)
  | succ left ih =>
    intro k state steps _
    rw [readMemoryMapLoop, offset_toNat (by omega), if_neg (map.entries k (by omega)), meets_bind,
      Nat.mul_div_cancel_left _ (by decide), meets_writeSlot]
    by_cases inside : k < BOBAOS_MEMORY_MAP_MAX_ENTRIES
    · rw [if_pos inside, meets_bind, meets_modify, offset_succ, counter_succ]
      exact ih (k + 1) _ (by omega) (by omega)
    · rw [if_neg inside]
      trivial

/-- The entries below 1 MiB are counted, if there is a slot behind them. -/
theorem FirmwareMap.count (inside : c < BOBAOS_MEMORY_MAP_MAX_ENTRIES)
    (read : state.memoryMap = filled firmware n) (left : Nat) :
    ∀ k, k + left = BOBAOS_MEMORY_MAP_MAX_ENTRIES + 1 → k ≤ c →
      Meets (reworkMemoryMapLoop left (BitVec.ofNat 8 k)) state fault fun counter after =>
        counter = BitVec.ofNat 8 c ∧ after = state := by
  have bounded := map.bounded
  have slots : BOBAOS_MEMORY_MAP_MAX_ENTRIES = 15 := rfl
  induction left with
  | zero =>
    intro k steps below
    omega
  | succ left ih =>
    intro k steps below
    have index : (BitVec.ofNat 8 k).toNat = k := by
      rw [BitVec.toNat_ofNat]
      omega
    rw [reworkMemoryMapLoop, meets_bind, index, meets_readSlot, if_pos (by omega), read]
    by_cases done : k = c
    · subst done
      rw [if_neg]
      · exact .pure ⟨rfl, rfl⟩
      · rintro ⟨there, low⟩
        rw [filled] at there low
        split_ifs at there low with entry
        · exact absurd (map.high k (Nat.le_refl k) entry) (BitVec.not_le.mpr low)
        · exact there rfl
    · rw [filled_entry firmware (by omega),
        if_pos ⟨map.entries k (by omega), map.low k (by omega)⟩, counter_succ]
      exact ih (k + 1) (by omega) (by omega)

/-- Otherwise the slot behind the array is looked at. -/
theorem FirmwareMap.count_outside (full : c = BOBAOS_MEMORY_MAP_MAX_ENTRIES)
    (read : state.memoryMap = filled firmware n) (left : Nat) :
    ∀ k, k + left = BOBAOS_MEMORY_MAP_MAX_ENTRIES + 1 → 0 < left →
      Meets (reworkMemoryMapLoop left (BitVec.ofNat 8 k)) state (fun _ => True) fun _ _ => False := by
  have bounded := map.bounded
  have slots : BOBAOS_MEMORY_MAP_MAX_ENTRIES = 15 := rfl
  induction left with
  | zero => exact fun _ _ none_left => absurd none_left (Nat.lt_irrefl 0)
  | succ left ih =>
    intro k steps _
    have index : (BitVec.ofNat 8 k).toNat = k := by
      rw [BitVec.toNat_ofNat]
      omega
    rw [reworkMemoryMapLoop, meets_bind, index, meets_readSlot]
    by_cases inside : k < BOBAOS_MEMORY_MAP_MAX_ENTRIES
    · rw [if_pos inside, read, filled_entry firmware (by omega),
        if_pos ⟨map.entries k (by omega), map.low k (by omega)⟩, counter_succ]
      exact ih (k + 1) (by omega) (by omega)
    · rw [if_neg inside]
      trivial

end Reading

/-! ## Reworking -/

/-- The variables before the first call. -/
def boot : State := ⟨fun _ => ⟨0, 0, 0⟩, 0, 0, 0⟩

/-- One entry for what is below 1 MiB, and the other entries behind it. -/
structure Reworked (firmware : Nat → Entry) (n c : Nat) (state : State) : Prop where
  first : state.memoryMap 0 = ⟨0x0, 0x100000, MEMORY_TYPE_FREE⟩
  others : ∀ j < n - c, state.memoryMap (j + 1) = firmware (ENTRY_SIZE * (c + j))
  length : state.memoryMapLength.toNat = n - c + 1

/-- The entries fit, and so does one more if entries are moved. -/
def Fits (n c : Nat) : Prop :=
  n < BOBAOS_MEMORY_MAP_MAX_ENTRIES ∨ n = BOBAOS_MEMORY_MAP_MAX_ENTRIES ∧ c = 1

/-- The first entries replaced by a single one. -/
def merged (state : State) (count : Nat) : State :=
  { state with
    memoryMap := Function.update (fun i => if i < count then ⟨0, 0, 0⟩ else state.memoryMap i) 0
      ⟨0x0, 0x100000, MEMORY_TYPE_FREE⟩ }

theorem merged_first (state : State) (count : Nat) :
    (merged state count).memoryMap 0 = ⟨0x0, 0x100000, MEMORY_TYPE_FREE⟩ := by
  dsimp only [merged]
  rw [Function.update_self]

theorem merged_behind (state : State) {count slot : Nat} (some : 1 ≤ count) (behind : count ≤ slot) :
    (merged state count).memoryMap slot = state.memoryMap slot := by
  rw [merged]
  dsimp only
  rw [Function.update_of_ne (by omega), if_neg (by omega)]

/-- One entry in the array that is left is the one for the memory below 1 MiB. -/
theorem FirmwareMap.merged_reworked {firmware : Nat → Entry} {n : Nat} (map : FirmwareMap firmware n 1)
    (fits : n ≤ BOBAOS_MEMORY_MAP_MAX_ENTRIES) (read : state.memoryMap = filled firmware n)
    (length : state.memoryMapLength = BitVec.ofNat 8 n) : Reworked firmware n 1 (merged state 1) := by
  have bounded := map.bounded
  have slots : BOBAOS_MEMORY_MAP_MAX_ENTRIES = 15 := rfl
  constructor
  · exact merged_first state 1
  · intro j below
    rw [merged_behind state (by decide) (Nat.succ_le_succ (Nat.zero_le j)), read,
      filled_entry firmware (by omega), Nat.add_comm]
  · show state.memoryMapLength.toNat = n - 1 + 1
    rw [length, BitVec.toNat_ofNat]
    omega

section Reworking

variable {firmware : Nat → Entry} {n c : Nat} (map : FirmwareMap firmware n c)

include map

/-- The other entries are moved behind it, together with one slot more. -/
theorem FirmwareMap.moved (more : 1 < c) (room : n < BOBAOS_MEMORY_MAP_MAX_ENTRIES)
    (read : state.memoryMap = filled firmware n) (length : state.memoryMapLength = BitVec.ofNat 8 n) :
    Meets (copySlots 1 c (n - c + 1) 0) (merged state c) fault fun _ after =>
      Reworked firmware n c { after with
        memoryMapLength := after.memoryMapLength - BitVec.ofNat 8 (c - 1) } := by
  have bounded := map.bounded
  have slots : BOBAOS_MEMORY_MAP_MAX_ENTRIES = 15 := rfl
  apply (copySlots_meets more (n - c + 1) 0 (merged state c) (by omega)).mono
  rintro _ _ rfl
  constructor
  · dsimp only
    rw [if_neg (by omega)]
    exact merged_first state c
  · intro j below
    dsimp only
    rw [if_pos (by omega), merged_behind state (by omega) (by omega), read,
      filled_entry firmware (by omega)]
    congr 2
    omega
  · show (state.memoryMapLength - BitVec.ofNat 8 (c - 1)).toNat = n - c + 1
    rw [length, BitVec.toNat_sub, BitVec.toNat_ofNat, BitVec.toNat_ofNat]
    omega

/-- The end of `reworkMemoryMap`, with the entries counted. -/
theorem FirmwareMap.move (fits : n ≤ BOBAOS_MEMORY_MAP_MAX_ENTRIES)
    (read : state.memoryMap = filled firmware n) (length : state.memoryMapLength = BitVec.ofNat 8 n)
    (counted : Meets (reworkMemoryMapLoop (BOBAOS_MEMORY_MAP_MAX_ENTRIES + 1) 0) state
      (fun _ => ¬ Fits n c) fun counter after => counter = BitVec.ofNat 8 c ∧ after = state) :
    Meets reworkMemoryMap state (fun _ => ¬ Fits n c) fun _ after =>
      Fits n c ∧ Reworked firmware n c after := by
  have bounded := map.bounded
  have some := map.some
  have slots : BOBAOS_MEMORY_MAP_MAX_ENTRIES = 15 := rfl
  have counter_toNat {k : Nat} (inside : k ≤ 15) : (BitVec.ofNat 8 k).toNat = k := by
    rw [BitVec.toNat_ofNat]
    omega
  have rest : BitVec.ofNat 8 c - 1 = BitVec.ofNat 8 (c - 1) := by
    apply BitVec.eq_of_toNat_eq
    rw [BitVec.toNat_sub, counter_toNat (by omega), counter_toNat (by omega),
      show (1 : BitVec 8).toNat = 1 from rfl]
    omega
  rw [reworkMemoryMap]
  apply counted.bind
  rintro _ after ⟨rfl, same⟩
  rw [same, counter_toNat (by omega), clearSlots, if_pos (by omega), meets_bind, meets_modify, meets_bind,
    meets_writeSlot, if_pos (by decide), rest, ← merged]
  by_cases only : c = 1
  · subst only
    exact .pure ⟨by rw [Fits]; omega, map.merged_reworked fits read length⟩
  · have more : 0 < BitVec.ofNat 8 (c - 1) := by
      rw [BitVec.lt_def, counter_toNat (by omega)]
      show 0 < c - 1
      omega
    have same_length : (merged state c).memoryMapLength = state.memoryMapLength := rfl
    have count : (ENTRY_SIZE * n + 2 ^ 64 - ENTRY_SIZE * (c - 1)) % 2 ^ 64 / ENTRY_SIZE = n - c + 1 := by
      rw [ENTRY_SIZE]
      omega
    have entries := counter_toNat (show n ≤ 15 by omega)
    have moved_entries := counter_toNat (show c - 1 ≤ 15 by omega)
    simp only [if_pos more, meets_bind, meets_get, same_length, length, entries, moved_entries,
      Nat.sub_add_cancel some, count]
    by_cases room : n < BOBAOS_MEMORY_MAP_MAX_ENTRIES
    · apply (map.moved (by omega) room read length).mono
      intro _ after reworked
      rw [meets_modify]
      exact ⟨.inl room, reworked⟩
    · have unfit : ¬ Fits n c := by
        rw [Fits]
        omega
      apply ((copySlots_outside (by omega) (n - c + 1) 0 (merged state c) (by omega)
        (by omega)).mono_fault fun _ _ => unfit).mono
      exact fun _ _ impossible => impossible.elim

/-- `reworkMemoryMap`, on the entries that have been read. -/
theorem FirmwareMap.rework (fits : n ≤ BOBAOS_MEMORY_MAP_MAX_ENTRIES)
    (read : state.memoryMap = filled firmware n) (length : state.memoryMapLength = BitVec.ofNat 8 n) :
    Meets reworkMemoryMap state (fun _ => ¬ Fits n c) fun _ after =>
      Fits n c ∧ Reworked firmware n c after := by
  have bounded := map.bounded
  refine map.move fits read length ?_
  by_cases inside : c < BOBAOS_MEMORY_MAP_MAX_ENTRIES
  · exact map.count inside read (BOBAOS_MEMORY_MAP_MAX_ENTRIES + 1) 0 (by omega) (by omega)
  · have full : c = BOBAOS_MEMORY_MAP_MAX_ENTRIES := by omega
    have unfit : ¬ Fits n c := by
      have slots : BOBAOS_MEMORY_MAP_MAX_ENTRIES = 15 := rfl
      rw [Fits]
      omega
    have left := map.count_outside full read (BOBAOS_MEMORY_MAP_MAX_ENTRIES + 1) 0 (by omega)
      (Nat.succ_pos _)
    exact (left.mono_fault fun _ _ => unfit).mono fun _ _ impossible => impossible.elim

/-- `readMemoryMap` returns with the reworked map, or leaves the array. -/
theorem FirmwareMap.meets : Meets (readMemoryMap firmware) boot (fun _ => ¬ Fits n c)
    fun _ after => Fits n c ∧ Reworked firmware n c after := by
  have empty : boot.memoryMap = filled firmware 0 := by
    funext slot
    exact (if_neg (Nat.not_lt_zero slot)).symm
  rw [readMemoryMap]
  by_cases fits : n ≤ BOBAOS_MEMORY_MAP_MAX_ENTRIES
  · apply (map.read fits (BOBAOS_MEMORY_MAP_MAX_ENTRIES + 1) 0 boot (by omega) (by omega) empty).bind
    rintro _ after ⟨rfl, read⟩
    rw [meets_bind, meets_modify]
    exact map.rework fits read rfl
  · have unfit : ¬ Fits n c := by
      rw [Fits]
      omega
    apply ((map.read_outside (by omega) (BOBAOS_MEMORY_MAP_MAX_ENTRIES + 1) 0 boot (by omega)
      (Nat.succ_pos _)).mono_fault fun _ _ => unfit).bind
    exact fun _ _ impossible => impossible.elim

end Reworking

/-- The array is not left, and holds the reworked map, if the entries fit and leave a slot
free where there is more than one entry below 1 MiB. -/
theorem memory_map_iff (firmware : Nat → Entry) (n c : Nat) (map : FirmwareMap firmware n c) :
    (∃ after, (readMemoryMap firmware).run boot = .ok ((), after) ∧ Reworked firmware n c after) ↔
      n < 15 ∨ n = 15 ∧ c = 1 := by
  constructor
  · rintro ⟨after, ran, -⟩
    exact (map.meets.returned ran).1
  · intro fits
    obtain ⟨_, after, ran, -, reworked⟩ := (map.meets.mono_fault fun _ unfit => unfit fits).returns
    exact ⟨after, ran, reworked⟩

/-- A firmware map of entries of one page each, the first ones below 1 MiB. -/
def pageEntries (n c : Nat) (offset : Nat) : Entry :=
  if offset < ENTRY_SIZE * n then
    ⟨if offset < ENTRY_SIZE * c then 0 else 0x100000, 0x1000, MEMORY_TYPE_FREE⟩
  else ⟨0, 0, 0⟩

theorem pageEntries_map (n c : Nat) (some : 1 ≤ c) (bounded : c ≤ n) :
    FirmwareMap (pageEntries n c) n c where
  entries k below := by
    rw [pageEntries, if_pos (Nat.mul_lt_mul_of_pos_left below (by decide))]
    exact (by decide : MEMORY_TYPE_FREE ≠ 0)
  last := by
    rw [pageEntries, if_neg (Nat.lt_irrefl _)]
  low k below := by
    rw [pageEntries, if_pos (Nat.mul_lt_mul_of_pos_left (by omega) (by decide)),
      if_pos (Nat.mul_lt_mul_of_pos_left below (by decide))]
    decide
  high k above below := by
    rw [pageEntries, if_pos (Nat.mul_lt_mul_of_pos_left below (by decide)),
      if_neg (Nat.not_lt.mpr (Nat.mul_le_mul_left _ above))]
    decide
  some := some
  bounded := bounded

/-- Six entries fit. -/
theorem six_entries_reworked : ∃ after,
    (readMemoryMap (pageEntries 6 3)).run boot = .ok ((), after) ∧ Reworked (pageEntries 6 3) 6 3 after :=
  (memory_map_iff _ 6 3 (pageEntries_map 6 3 (by decide) (by decide))).mpr (.inl (by decide))

/-- Of fifteen entries with two below 1 MiB, a sixteenth is read. -/
theorem fifteen_entries_left : FirmwareMap (pageEntries 15 2) 15 2 ∧
    (readMemoryMap (pageEntries 15 2)).run boot = .error .outside ∧
    ¬ ∃ after, (readMemoryMap (pageEntries 15 2)).run boot = .ok ((), after) ∧
      Reworked (pageEntries 15 2) 15 2 after := by
  have left : (readMemoryMap (pageEntries 15 2)).run boot = .error .outside := by
    refine error_of_faultOf ?_
    decide +kernel
  refine ⟨pageEntries_map 15 2 (by decide) (by decide), left, ?_⟩
  rintro ⟨after, ran, -⟩
  rw [left] at ran
  cases ran

end BobaOS.MemoryMap
