import BobaOS.Paging.KernelTable

/-!
# From the firmware's map to the kernel's page table

The second stage of the boot loader asks the firmware for its memory map, entry by entry, and
puts the entries one behind the other into a cleared buffer, where `readMemoryMap` finds them.
The kernel's table is made of what `readMemoryMap` leaves: the first megabyte is mapped to
itself, and the free entries above it follow in the order of the firmware, wherever they are.
-/

namespace BobaOS.Paging

open TableTree MemoryMap Programs

/-! ## The second stage -/

/-- What `int 0x15` answers to a continuation in `ebx`: the carry flag, the next continuation,
and the entry that it writes. -/
structure Answer where
  carry : Bool
  ebx : BitVec 32
  entry : Entry

/-- Why the second stage does not go on: it has shown its message, or still asks. -/
inductive Halted where
  | message
  | asking
deriving DecidableEq

/-- The address of the buffer. -/
def MAP_ADDRESS : BitVec 32 := 0xF000

/-- The loop of `getMemoryMap`. The buffer is given by the byte offsets of its entries. -/
def getMemoryMapLoop (int15 : BitVec 32 → Answer) : Nat → BitVec 32 → BitVec 32 →
    (Nat → Entry) → Except Halted (Nat → Entry)
  | 0, _, _, _ => .error .asking
  | patience + 1, ebx, edi, buffer =>
    let answer := int15 ebx
    if answer.carry then .error .message
    else
      let buffer := Function.update buffer (edi - MAP_ADDRESS).toNat answer.entry
      if answer.ebx = 0 then .ok buffer
      else if edi.toNat + 20 < 2 ^ 32 then
        getMemoryMapLoop int15 patience answer.ebx (edi + 20) buffer
      else .error .message

/-- `zeroBytes`: a thousand double words are cleared. -/
def zeroBytes (buffer : Nat → Entry) (offset : Nat) : Entry :=
  if offset + ENTRY_SIZE ≤ 4000 then ⟨0, 0, 0⟩ else buffer offset

def getMemoryMap (int15 : BitVec 32 → Answer) (patience : Nat) (buffer : Nat → Entry) :
    Except Halted (Nat → Entry) :=
  getMemoryMapLoop int15 patience 0 MAP_ADDRESS (zeroBytes buffer)

/-- The firmware answers with these entries, of which the first ones start below 1 MiB, and says
at the last one that it is the last. -/
structure Firmware (int15 : BitVec 32 → Answer) (entries : Nat → Entry) (n c : Nat) : Prop where
  begun : ∃ ebx : Nat → BitVec 32, ebx 0 = 0 ∧ (∀ k < n, (int15 (ebx k)).carry = false ∧
    (int15 (ebx k)).entry = entries k ∧ ((int15 (ebx k)).ebx = 0 ↔ k + 1 = n) ∧
      (k + 1 < n → (int15 (ebx k)).ebx = ebx (k + 1)))
  typed : ∀ k < n, (entries k).type ≠ 0
  low : ∀ k < c, (entries k).address < SIZE_1MB
  high : ∀ k, c ≤ k → k < n → SIZE_1MB ≤ (entries k).address
  some : 1 ≤ c
  bounded : c ≤ n

/-- The buffer with the first entries. -/
def scanned (entries : Nat → Entry) (buffer : Nat → Entry) : Nat → Nat → Entry
  | 0 => zeroBytes buffer
  | count + 1 => Function.update (scanned entries buffer count) (ENTRY_SIZE * count) (entries count)

theorem scanned_entry (entries buffer : Nat → Entry) {k count : Nat} (below : k < count) :
    scanned entries buffer count (ENTRY_SIZE * k) = entries k := by
  induction count with
  | zero => exact absurd below (Nat.not_lt_zero k)
  | succ count ih =>
    rw [scanned]
    by_cases last : k = count
    · rw [last, Function.update_self]
    · have apart : ENTRY_SIZE * k ≠ ENTRY_SIZE * count := by
        rw [ENTRY_SIZE]
        omega
      rw [Function.update_of_ne apart, ih (by omega)]

theorem scanned_behind (entries buffer : Nat → Entry) (count : Nat) {k : Nat} (behind : count ≤ k)
    (inside : k < 200) : scanned entries buffer count (ENTRY_SIZE * k) = ⟨0, 0, 0⟩ := by
  induction count with
  | zero =>
    rw [scanned, zeroBytes, if_pos]
    rw [ENTRY_SIZE]
    omega
  | succ count ih =>
    have apart : ENTRY_SIZE * k ≠ ENTRY_SIZE * count := by
      rw [ENTRY_SIZE]
      omega
    rw [scanned, Function.update_of_ne apart, ih (by omega)]

/-- The entries that begin at 1 MiB or above. -/
def upperEntries (entries : Nat → Entry) (n c : Nat) : List Entry :=
  (List.range (n - c)).map fun j => entries (c + j)

/-- What the kernel's table is to show: the first megabyte, and the free pages above it. -/
def kernelFrames (entries : Nat → Entry) (n c : Nat) : List Nat :=
  List.range' 0 256 ++ freePages (upperEntries entries n c)

/-- The kernel's table: addresses translate to the free pages in their order, and nothing else is
mapped but a page for a last free range of less than one. -/
structure ShowsFreeMemory (root : BitVec 64) (entries : Nat → Entry) (n c : Nat) (state : State) :
    Prop where
  translates : ∀ (virtual : BitVec 64) (frame : Nat),
    (kernelFrames entries n c)[virtual.toNat / 4096]? = some frame →
    (virtualToPhysical virtual root state.memory).toNat = 4096 * frame + virtual.toNat % 4096
  others : ∀ page : BitVec 36, (kernelFrames entries n c).length ≤ page.toNat →
    (strayPage ((upperEntries entries n c).filterMap freeRange) [] = [] ∨
      (kernelFrames entries n c).length < page.toNat) →
    leafEntry state.memory root page = 0
  identity : (∀ virtual : BitVec 64, virtual.toNat < 4096 * (kernelFrames entries n c).length →
      virtualToPhysical virtual root state.memory = virtual) ↔
    Contiguous 256 ((upperEntries entries n c).filterMap freeRange)

section Boot

variable {int15 : BitVec 32 → Answer} {entries : Nat → Entry} {n c : Nat}
  (firmware : Firmware int15 entries n c)
include firmware

/-- The loop puts the entries that are left behind the others. -/
theorem Firmware.getMemoryMap_eq (few : n < 200) {patience : Nat} (enough : n ≤ patience)
    (buffer : Nat → Entry) :
    getMemoryMap int15 patience buffer = .ok (scanned entries buffer n) := by
  obtain ⟨ebx, begins, asked⟩ := firmware.begun
  have loop : ∀ left k patience, k + left = n → 0 < left → left ≤ patience →
      getMemoryMapLoop int15 patience (ebx k) (MAP_ADDRESS + BitVec.ofNat 32 (ENTRY_SIZE * k))
        (scanned entries buffer k) = .ok (scanned entries buffer n) := by
    intro left
    induction left with
    | zero => exact fun _ _ _ none => absurd none (Nat.lt_irrefl 0)
    | succ left ih =>
      intro k patience total _ enough
      obtain ⟨fewer, rfl⟩ := Nat.exists_eq_add_of_le' (Nat.le_of_add_left_le enough)
      obtain ⟨clear, entry, ends, next⟩ := asked k (by omega)
      have offset : (MAP_ADDRESS + BitVec.ofNat 32 (ENTRY_SIZE * k) - MAP_ADDRESS).toNat =
          ENTRY_SIZE * k := by
        rw [BitVec.add_comm, BitVec.add_sub_cancel, BitVec.toNat_ofNat, ENTRY_SIZE]
        omega
      have within : (MAP_ADDRESS + BitVec.ofNat 32 (ENTRY_SIZE * k)).toNat + 20 < 2 ^ 32 := by
        have small : ENTRY_SIZE * k < 4000 := by
          rw [ENTRY_SIZE]
          omega
        rw [BitVec.toNat_add, BitVec.toNat_ofNat, Nat.mod_eq_of_lt (Nat.lt_trans small (by decide)),
          show MAP_ADDRESS.toNat = 0xF000 from rfl]
        omega
      have grown : Function.update (scanned entries buffer k) (ENTRY_SIZE * k) (entries k) =
        scanned entries buffer (k + 1) := rfl
      have onward : MAP_ADDRESS + BitVec.ofNat 32 (ENTRY_SIZE * k) + 20 =
          MAP_ADDRESS + BitVec.ofNat 32 (ENTRY_SIZE * (k + 1)) := by
        rw [Nat.mul_add_one, BitVec.ofNat_add, BitVec.add_assoc]
        rfl
      rw [getMemoryMapLoop]
      dsimp only
      rw [clear, if_neg Bool.false_ne_true, entry, offset, grown]
      by_cases last : k + 1 = n
      · rw [if_pos (ends.mpr last), last]
      · rw [if_neg fun zero => last (ends.mp zero), if_pos within, onward, next (by omega)]
        exact ih (k + 1) fewer (by omega) (by omega) (by omega)
  have some := firmware.some
  have bounded := firmware.bounded
  have ran := loop n 0 patience (by omega) (by omega) enough
  rw [begins] at ran
  exact ran

/-- What it leaves is a map that `readMemoryMap` understands. -/
theorem Firmware.map (few : n < 200) (buffer : Nat → Entry) :
    FirmwareMap (scanned entries buffer n) n c where
  entries k below := by
    rw [scanned_entry entries buffer below]
    exact firmware.typed k below
  last := by rw [scanned_behind entries buffer n (Nat.le_refl n) few]
  low k below := by
    rw [scanned_entry entries buffer (Nat.lt_of_lt_of_le below firmware.bounded)]
    exact firmware.low k below
  high k above below := by
    rw [scanned_entry entries buffer below]
    exact firmware.high k above below
  some := firmware.some
  bounded := firmware.bounded

/-- `readMemoryMap` leaves one entry for the first megabyte, and the upper entries behind it. -/
theorem Firmware.mapEntries_eq {buffer : Nat → Entry} {map : MemoryMap.State}
    (reworked : Reworked (scanned entries buffer n) n c map) :
    mapEntries map = ⟨0x0, 0x100000, MEMORY_TYPE_FREE⟩ :: upperEntries entries n c := by
  have bounded := firmware.bounded
  rw [mapEntries, reworked.length, List.range_succ_eq_map, List.map_cons, reworked.first, upperEntries,
    List.map_map]
  congr 1
  refine List.map_congr_left fun j member => ?_
  have below := List.mem_range.mp member
  show map.memoryMap (j + 1) = _
  rw [reworked.others j below, scanned_entry entries buffer (by omega)]

omit firmware in
theorem kernelFrames_row : kernelFrames entries n c =
      List.range' 0 (kernelFrames entries n c).length ↔
    Contiguous 256 ((upperEntries entries n c).filterMap freeRange) := by
  have row := rangePages_contiguous ((0, 256) :: (upperEntries entries n c).filterMap freeRange) 0
  have first : (0 < 256 → 0 = 0) := fun _ => rfl
  rwa [Contiguous, and_iff_right first] at row

omit firmware in
theorem Laid.showsFreeMemory {answers : Nat → BitVec 64} {root : BitVec 64} {state : State}
    (laid : Laid answers root 0 (kernelFrames entries n c)
      (strayPage ((upperEntries entries n c).filterMap freeRange) []) state)
    (small : ∀ frame ∈ freePages (upperEntries entries n c), frame < 2 ^ 36)
    (room : (kernelFrames entries n c).length < 2 ^ 36) :
    ShowsFreeMemory root entries n c state where
  translates virtual frame here := by
    have narrow : frame < 2 ^ 36 := by
      rcases List.mem_append.mp (List.mem_of_getElem? here) with low | upper
      · rw [List.mem_range'_1] at low
        omega
      · exact small frame upper
    have place : pagesBehind (pageOf 0) (pageOf virtual) = virtual.toNat / 4096 := by
      have inside := (List.getElem?_eq_some_iff.mp here).1
      have first : (pageOf 0).toNat = 0 := rfl
      rw [pagesBehind, BitVec.toNat_sub, first, pageOf_toNat]
      omega
    exact laid.translates virtual narrow (by rwa [place])
  others page behind unmapped := by
    have single := laid.single
    have place : pagesBehind (pageOf 0) page = page.toNat := by
      have first : (pageOf 0).toNat = 0 := rfl
      have bound := page.isLt
      rw [pagesBehind, BitVec.toNat_sub, first]
      omega
    rw [laid.leaves, place, laidWord_behind]
    rw [List.length_append]
    rcases unmapped with none | further
    · rwa [none, List.length_nil, Nat.add_zero]
    · omega
  identity := by
    refine (laid.identity_iff (fun frame member => ?_) (Nat.le_of_lt room)).trans kernelFrames_row
    rcases List.mem_append.mp member with low | upper
    · rw [List.mem_range'_1] at low
      omega
    · exact small frame upper

end Boot

end BobaOS.Paging
