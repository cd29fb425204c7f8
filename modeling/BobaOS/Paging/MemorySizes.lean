import BobaOS.Paging.MemoryMap
import Mathlib.Data.BitVec
import Mathlib.Algebra.BigOperators.Group.List.Basic

/-!
# The sizes of the memory

`readMemoryMap` adds up the lengths of the firmware's entries, of all of them and of those from
1 MiB on, while it copies them. Merging the lower ones changes neither sum, so that their
difference is what the firmware reported below 1 MiB.
-/

namespace BobaOS.MemoryMap

open Programs

/-- What the entries cover, counted in 64 bits. -/
def totalLength (entries : List Entry) : BitVec 64 := (entries.map Entry.length).sum

/-- The entries from 1 MiB on. -/
def fromMegabyte (entries : List Entry) : List Entry :=
  entries.filter fun entry => SIZE_1MB ≤ entry.address

/-- The first entries of a firmware map. -/
def firmwareEntries (firmware : Nat → Entry) (count : Nat) : List Entry :=
  (List.range count).map fun k => firmware (ENTRY_SIZE * k)

theorem totalLength_append (front behind : List Entry) :
    totalLength (front ++ behind) = totalLength front + totalLength behind := by
  rw [totalLength, List.map_append, List.sum_append, totalLength, totalLength]

theorem totalLength_single (entry : Entry) : totalLength [entry] = entry.length :=
  List.sum_singleton

theorem firmwareEntries_succ (firmware : Nat → Entry) (count : Nat) :
    firmwareEntries firmware (count + 1) =
      firmwareEntries firmware count ++ [firmware (ENTRY_SIZE * count)] := by
  rw [firmwareEntries, List.range_succ, List.map_append, List.map_singleton, firmwareEntries]

/-- The sums of the entries. -/
structure Summed (entries : List Entry) (state : State) : Prop where
  total : state.totalMemorySize = totalLength entries
  upper : state.upperMemorySize = totalLength (fromMegabyte entries)

variable {state : State} {fault : Fault → Prop}

/-- One entry more. -/
theorem Summed.add {entries : List Entry} (summed : Summed entries state) (entry : Entry)
    (memoryMap : Nat → Entry) : Summed (entries ++ [entry]) { state with
      memoryMap
      totalMemorySize := state.totalMemorySize + entry.length
      upperMemorySize := if SIZE_1MB ≤ entry.address then state.upperMemorySize + entry.length
        else state.upperMemorySize } := by
  constructor
  · rw [totalLength_append, totalLength_single, ← summed.total]
  · dsimp only
    rw [fromMegabyte, List.filter_append, ← fromMegabyte, summed.upper]
    split_ifs with high
    · have kept : [entry].filter (fun entry => SIZE_1MB ≤ entry.address) = [entry] :=
        List.filter_cons_of_pos (decide_eq_true high)
      rw [kept, totalLength_append, totalLength_single]
    · have dropped : [entry].filter (fun entry => SIZE_1MB ≤ entry.address) = [] :=
        List.filter_cons_of_neg fun there => high (of_decide_eq_true there)
      rw [dropped, List.append_nil]

section Reading

variable {firmware : Nat → Entry} {n c : Nat} (map : FirmwareMap firmware n c)
include map

/-- The loop adds up what it copies. -/
theorem FirmwareMap.read_sums (fits : n ≤ BOBAOS_MEMORY_MAP_MAX_ENTRIES) (left : Nat) :
    ∀ k (state : State), k + left = BOBAOS_MEMORY_MAP_MAX_ENTRIES + 1 → k ≤ n →
      Summed (firmwareEntries firmware k) state →
      Meets (readMemoryMapLoop firmware left (BitVec.ofNat 16 (ENTRY_SIZE * k)) (BitVec.ofNat 8 k))
        state fault fun _ after => Summed (firmwareEntries firmware n) after := by
  induction left with
  | zero =>
    intro k state steps bounded
    omega
  | succ left ih =>
    intro k state steps bounded summed
    rw [readMemoryMapLoop, offset_toNat (by omega)]
    by_cases done : k = n
    · subst done
      rw [if_pos map.last]
      exact .pure summed
    · rw [if_neg (map.entries k (by omega)), meets_bind, Nat.mul_div_cancel_left _ (by decide),
        meets_writeSlot, if_pos (by omega), meets_bind, meets_modify, offset_succ, counter_succ]
      refine ih (k + 1) _ (by omega) (by omega) ?_
      rw [firmwareEntries_succ]
      exact summed.add _ _

end Reading

/-! ## Merging -/

/-- The sums are the same. -/
structure SameSums (before after : State) : Prop where
  total : after.totalMemorySize = before.totalMemorySize
  upper : after.upperMemorySize = before.upperMemorySize

theorem SameSums.refl (state : State) : SameSums state state := ⟨rfl, rfl⟩

theorem SameSums.trans {first second third : State} (early : SameSums first second)
    (late : SameSums second third) : SameSums first third :=
  ⟨late.total.trans early.total, late.upper.trans early.upper⟩

theorem SameSums.summed {after : State} {entries : List Entry} (same : SameSums state after)
    (summed : Summed entries state) : Summed entries after :=
  ⟨same.total.trans summed.total, same.upper.trans summed.upper⟩

theorem reworkMemoryMapLoop_reads (left : Nat) : ∀ counter,
    Meets (reworkMemoryMapLoop left counter) state (fun _ => True) fun _ after => after = state := by
  induction left with
  | zero => exact fun _ => .pure rfl
  | succ left ih =>
    intro counter
    rw [reworkMemoryMapLoop, meets_bind, meets_readSlot]
    split_ifs
    · exact ih (counter + 1)
    · exact .pure rfl

theorem copySlots_sums {dest source : Nat} (left : Nat) : ∀ i (state : State),
    Meets (copySlots dest source left i) state (fun _ => True) fun _ after => SameSums state after := by
  induction left with
  | zero => exact fun _ state => .pure (.refl state)
  | succ left ih =>
    intro i state
    rw [copySlots, meets_bind, meets_readSlot]
    split_ifs
    · rw [meets_bind, meets_writeSlot]
      split_ifs
      exact (ih (i + 1) _).mono fun _ _ same => ⟨same.total, same.upper⟩

/-- `reworkMemoryMap` moves entries only. -/
theorem reworkMemoryMap_sums (state : State) :
    Meets reworkMemoryMap state (fun _ => True) fun _ after => SameSums state after := by
  rw [reworkMemoryMap]
  apply (reworkMemoryMapLoop_reads _ 0).bind
  rintro counter _ rfl
  rw [clearSlots]
  split_ifs
  · rw [meets_bind, meets_modify, meets_bind, meets_writeSlot, if_pos (by decide)]
    dsimp only
    split_ifs
    · rw [meets_bind, meets_get]
      apply (copySlots_sums _ 0 _).bind
      intro _ after same
      rw [meets_modify]
      exact ⟨same.total, same.upper⟩
    · exact .pure ⟨rfl, rfl⟩
  · rw [meets_bind, meets_throw]
    trivial

/-- What `readMemoryMap` leaves has the sums of the firmware's entries. -/
theorem FirmwareMap.summed {firmware : Nat → Entry} {n c : Nat} (map : FirmwareMap firmware n c)
    (fits : n ≤ BOBAOS_MEMORY_MAP_MAX_ENTRIES) {after : State}
    (ran : (readMemoryMap firmware).run boot = .ok ((), after)) :
    Summed (firmwareEntries firmware n) after := by
  have none : Summed (firmwareEntries firmware 0) boot := ⟨rfl, rfl⟩
  have meets : Meets (readMemoryMap firmware) boot (fun _ => True) fun _ after =>
      Summed (firmwareEntries firmware n) after := by
    rw [readMemoryMap]
    apply (map.read_sums fits (BOBAOS_MEMORY_MAP_MAX_ENTRIES + 1) 0 boot (by omega) (by omega) none).bind
    intro length read summed
    rw [meets_bind, meets_modify]
    exact (reworkMemoryMap_sums _).mono fun _ _ same => same.summed ⟨summed.total, summed.upper⟩
  exact meets.returned ran

/-- The difference of the sums is what there is below 1 MiB. -/
theorem FirmwareMap.lower {firmware : Nat → Entry} {n c : Nat} (map : FirmwareMap firmware n c) :
    totalLength (firmwareEntries firmware n) - totalLength (fromMegabyte (firmwareEntries firmware n)) =
      totalLength (firmwareEntries firmware c) := by
  obtain ⟨more, rfl⟩ := Nat.exists_eq_add_of_le map.bounded
  have split : firmwareEntries firmware (c + more) = firmwareEntries firmware c ++
      (List.range more).map fun k => firmware (ENTRY_SIZE * (c + k)) := by
    rw [firmwareEntries, List.range_add, List.map_append, List.map_map, firmwareEntries]
    rfl
  have low : fromMegabyte (firmwareEntries firmware c) = [] := by
    rw [fromMegabyte, List.filter_eq_nil_iff]
    intro entry member
    obtain ⟨k, below, rfl⟩ := List.mem_map.mp member
    rw [decide_eq_true_eq, BitVec.not_le]
    exact map.low k (List.mem_range.mp below)
  have high : fromMegabyte ((List.range more).map fun k => firmware (ENTRY_SIZE * (c + k))) =
      (List.range more).map fun k => firmware (ENTRY_SIZE * (c + k)) := by
    rw [fromMegabyte, List.filter_eq_self]
    intro entry member
    obtain ⟨k, below, rfl⟩ := List.mem_map.mp member
    exact decide_eq_true (map.high (c + k) (Nat.le_add_right c k)
      (Nat.add_lt_add_left (List.mem_range.mp below) c))
  have upper : fromMegabyte (firmwareEntries firmware (c + more)) =
      (List.range more).map fun k => firmware (ENTRY_SIZE * (c + k)) := by
    rw [split, fromMegabyte, List.filter_append, ← fromMegabyte, ← fromMegabyte, low, high,
      List.nil_append]
  rw [upper, split, totalLength_append, BitVec.add_sub_cancel]

end BobaOS.MemoryMap
