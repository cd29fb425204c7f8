import Mathlib.Data.List.GetD
import Mathlib.Data.Nat.Find
import Mathlib.Tactic.FinCases
import Mathlib.Tactic.IntervalCases
import BobaOS.Fat.WellFormed

/-!
# What a written file contains

The content of a file is that of its clusters in the order of its chain. A write
keeps what is before its position and puts its bytes behind it, when the first of
its parts ends where a cluster ends or is the only one. The length of the first
part is taken from the size of the write, not from the position: where it is too
short to fill its cluster, all later parts are put too far behind.
-/

namespace BobaOS.Fat

open ByteStore Programs Chains

/-! ## Storing into clusters that are apart -/

section Store

variable {fat : FatPrivate} {place : Nat → Nat} {next : Nat → Nat → Nat} {input : Nat → UInt8}
  {size : Nat}

/-- The places of the clusters do not overlap. -/
def Apart (place : Nat → Nat) (clusterSize : Nat) (cells : List Nat) : Prop :=
  ∀ left ∈ cells, ∀ right ∈ cells, left ≠ right →
    place left + clusterSize ≤ place right ∨ place right + clusterSize ≤ place left

theorem Apart.tail {clusterSize cluster : Nat} {rest : List Nat}
    (apart : Apart place clusterSize (cluster :: rest)) : Apart place clusterSize rest :=
  fun left leftMember right rightMember =>
    apart left (List.mem_cons_of_mem _ leftMember) right (List.mem_cons_of_mem _ rightMember)

/-- The parts behind the first one fill their clusters, and the last one has what
is left. -/
structure Parts (fat : FatPrivate) (size : Nat) (next : Nat → Nat → Nat) : Prop where
  last : ∀ written, 0 < size - written → size - written ≤ fat.clusterSize →
    next 1 written = size - written
  full : ∀ left written, left ≠ 1 → next left written = fat.clusterSize

/-- The length of a part at the beginning of a cluster. -/
def part (fat : FatPrivate) (size left written : Nat) : Nat :=
  if left = 1 then size - written else fat.clusterSize

theorem Parts.next_eq (parts : Parts fat size next) {left written : Nat}
    (some : 0 < size - written) (enough : size - written ≤ left * fat.clusterSize) :
    next left written = part fat size left written := by
  rw [part]
  split
  · rename_i one
    subst one
    rw [Nat.one_mul] at enough
    exact parts.last written some enough
  · exact parts.full left written ‹_›

/-- Bytes outside the clusters are left. -/
theorem storeClusters_outside : ∀ (cells : List Nat) (pos length written : Nat)
    (bytes : Nat → UInt8) {address : Nat}, Within fat next cells.length pos length written →
    (∀ cluster ∈ cells, address < place cluster ∨ place cluster + fat.clusterSize ≤ address) →
    storeClusters place next input cells pos length written bytes address = bytes address := by
  intro cells
  induction cells with
  | nil => exact fun _ _ _ _ _ _ _ => rfl
  | cons cluster rest ih =>
    intro pos length written bytes address within outside
    have here := outside cluster List.mem_cons_self
    have room := within.1
    rw [storeClusters_cons, ih _ _ _ _ within.2.2
      fun other member => outside other (List.mem_cons_of_mem _ member)]
    exact overwrite_outside _ _ _ _ _ (by omega)

/-- Parts that begin at their clusters stay in them. -/
theorem Parts.within (parts : Parts fat size next) (positive : 0 < fat.clusterSize) :
    ∀ (left written : Nat), (left - 1) * fat.clusterSize < size - written →
      size - written ≤ left * fat.clusterSize →
      Within fat next left 0 (part fat size left written) written := by
  intro left
  induction left with
  | zero => exact fun _ _ _ => trivial
  | succ left ih =>
    intro written some enough
    rw [Nat.add_sub_cancel] at some
    cases left with
    | zero =>
      rw [part, if_pos rfl]
      rw [Nat.one_mul] at enough
      rw [Nat.zero_mul] at some
      refine ⟨?_, some, trivial⟩
      rw [Nat.zero_add]
      exact enough
    | succ left =>
      have not_last : left + 1 + 1 ≠ 1 := by omega
      rw [Nat.succ_mul] at some enough
      have still_enough : size - (written + fat.clusterSize) ≤ (left + 1) * fat.clusterSize := by
        omega
      rw [part, if_neg not_last]
      refine ⟨?_, positive, ?_⟩
      · rw [Nat.zero_add]
      · rw [parts.next_eq (by omega) still_enough]
        refine ih _ ?_ still_enough
        rw [Nat.add_sub_cancel]
        omega

/-- Parts that begin at their clusters put the input one byte behind the other. -/
theorem Parts.stored (parts : Parts fat size next) (positive : 0 < fat.clusterSize) :
    ∀ (cells : List Nat) (written : Nat) (bytes : Nat → UInt8), cells.Nodup →
      Apart place fat.clusterSize cells →
      (cells.length - 1) * fat.clusterSize < size - written →
      size - written ≤ cells.length * fat.clusterSize →
      ∀ offset < cells.length * fat.clusterSize,
        storeClusters place next input cells 0 (part fat size cells.length written) written bytes
            (place (cells.getD (offset / fat.clusterSize) 0) + offset % fat.clusterSize) =
          if offset < size - written then input (written + offset)
          else bytes (place (cells.getD (offset / fat.clusterSize) 0) +
            offset % fat.clusterSize) := by
  intro cells
  induction cells with
  | nil =>
    intro _ _ _ _ _ _ offset small
    rw [List.length_nil, Nat.zero_mul] at small
    exact absurd small (Nat.not_lt_zero _)
  | cons cluster rest ih =>
    intro written bytes distinct apart some enough offset small
    obtain ⟨absent, rest_distinct⟩ := List.nodup_cons.mp distinct
    rw [List.length_cons, Nat.add_sub_cancel] at some
    rw [List.length_cons, Nat.succ_mul] at enough small
    rw [storeClusters_cons, List.length_cons, Nat.add_zero]
    cases rest with
    | nil =>
      rw [List.length_nil, Nat.zero_mul, Nat.zero_add] at enough small
      have one : ([] : List Nat).length + 1 = 1 := rfl
      rw [Nat.div_eq_of_lt small, Nat.mod_eq_of_lt small, part, if_pos one]
      show overwrite bytes (place cluster) (size - written) _ (place cluster + offset) = _
      by_cases inside : offset < size - written
      · rw [if_pos inside, overwrite_inside _ _ _ _ _ (by omega), Nat.add_sub_cancel_left]
      · rw [if_neg inside, overwrite_outside _ _ _ _ _ (by omega)]
        rfl
    | cons second rest =>
      have longer : (second :: rest).length + 1 ≠ 1 := by
        rw [List.length_cons]
        omega
      have some_left : ((second :: rest).length - 1) * fat.clusterSize <
          size - (written + fat.clusterSize) := by
        rw [List.length_cons, Nat.succ_mul] at some
        rw [List.length_cons, Nat.add_sub_cancel]
        omega
      have enough_left : size - (written + fat.clusterSize) ≤
          (second :: rest).length * fat.clusterSize := by omega
      rw [part, if_neg longer, parts.next_eq (Nat.zero_lt_of_lt some_left) enough_left]
      by_cases first : offset < fat.clusterSize
      · -- The byte is in the first cluster, which no later part meets.
        have filled : offset < size - written := by
          rw [List.length_cons, Nat.succ_mul] at some
          omega
        rw [Nat.div_eq_of_lt first, Nat.mod_eq_of_lt first, if_pos filled,
          storeClusters_outside _ _ _ _ _ (parts.within positive _ _ some_left enough_left) ?_]
        · show overwrite bytes (place cluster) _ _ (place cluster + offset) = _
          rw [overwrite_inside _ _ _ _ _ (by omega), Nat.add_sub_cancel_left]
        · intro other member
          have different : cluster ≠ other := fun same => absent (same ▸ member)
          have here : (cluster :: second :: rest).getD 0 0 = cluster := rfl
          rw [here]
          rcases apart cluster List.mem_cons_self other (List.mem_cons_of_mem _ member) different
            with before | behind
          · exact .inl (by omega)
          · exact .inr (by omega)
      · obtain ⟨rest_offset, rfl⟩ := Nat.exists_eq_add_of_le (Nat.not_lt.mp first)
        have quotient : (fat.clusterSize + rest_offset) / fat.clusterSize =
            rest_offset / fat.clusterSize + 1 := Nat.add_div_left _ positive
        have remainder : (fat.clusterSize + rest_offset) % fat.clusterSize =
            rest_offset % fat.clusterSize := Nat.add_mod_left _ _
        have rest_small : rest_offset < (second :: rest).length * fat.clusterSize := by omega
        have inside := Nat.mod_lt rest_offset positive
        rw [quotient, remainder, List.getD_cons_succ,
          ih _ _ rest_distinct apart.tail some_left enough_left _ rest_small]
        by_cases filled : rest_offset < size - (written + fat.clusterSize)
        · rw [if_pos filled, if_pos (by omega), Nat.add_assoc]
        · rw [if_neg filled, if_neg (by omega)]
          have index : rest_offset / fat.clusterSize < (second :: rest).length :=
            Nat.div_lt_of_lt_mul (Nat.mul_comm _ _ ▸ rest_small)
          have member : (second :: rest).getD (rest_offset / fat.clusterSize) 0 ∈ second :: rest := by
            rw [List.getD_eq_getElem _ _ index]
            exact List.getElem_mem index
          generalize (second :: rest).getD (rest_offset / fat.clusterSize) 0 = other at member
          have different : cluster ≠ other := fun same => absent (same ▸ member)
          apply overwrite_outside
          rcases apart cluster List.mem_cons_self other (List.mem_cons_of_mem _ member) different
            with before | behind
          · exact .inr (by omega)
          · exact .inl (by omega)

end Store

/-- A first part that stays in its cluster, and those behind it. -/
theorem Parts.within_first {fat : FatPrivate} {next : Nat → Nat → Nat} {size : Nat}
    (parts : Parts fat size next) (positive : 0 < fat.clusterSize) {pos length count : Nat}
    (room : pos + length ≤ fat.clusterSize) (some : 0 < length)
    (left : count ≠ 0 → (count - 1) * fat.clusterSize < size - length ∧
      size - length ≤ count * fat.clusterSize) : Within fat next (count + 1) pos length 0 := by
  refine ⟨room, some, ?_⟩
  rw [Nat.zero_add]
  cases count with
  | zero => trivial
  | succ count =>
    obtain ⟨some_left, enough_left⟩ := left (Nat.succ_ne_zero _)
    rw [parts.next_eq (Nat.zero_lt_of_lt some_left) enough_left]
    exact parts.within positive _ _ some_left enough_left

/-- The first part may be placed anywhere in its cluster; the others follow at the
beginning of theirs. -/
theorem Parts.stored_first {fat : FatPrivate} {place : Nat → Nat} {next : Nat → Nat → Nat}
    {size : Nat} (parts : Parts fat size next) (input : Nat → UInt8)
    (positive : 0 < fat.clusterSize) {cluster pos length : Nat} {rest : List Nat}
    (bytes : Nat → UInt8) (distinct : (cluster :: rest).Nodup)
    (apart : Apart place fat.clusterSize (cluster :: rest))
    (left : rest.length ≠ 0 → (rest.length - 1) * fat.clusterSize < size - length ∧
      size - length ≤ rest.length * fat.clusterSize) :
    (∀ offset < fat.clusterSize,
      storeClusters place next input (cluster :: rest) pos length 0 bytes (place cluster + offset) =
        if pos ≤ offset ∧ offset < pos + length then input (offset - pos)
        else bytes (place cluster + offset)) ∧
      ∀ offset < rest.length * fat.clusterSize, offset < size - length →
        storeClusters place next input (cluster :: rest) pos length 0 bytes
            (place (rest.getD (offset / fat.clusterSize) 0) + offset % fat.clusterSize) =
          input (length + offset) := by
  obtain ⟨absent, rest_distinct⟩ := List.nodup_cons.mp distinct
  rw [storeClusters_cons, Nat.zero_add]
  have first (offset : Nat) (small : offset < fat.clusterSize) :
      overwrite bytes (place cluster + pos) length (fun i => input (0 + i))
          (place cluster + offset) =
        if pos ≤ offset ∧ offset < pos + length then input (offset - pos)
        else bytes (place cluster + offset) := by
    by_cases inside : pos ≤ offset ∧ offset < pos + length
    · rw [if_pos inside, overwrite_inside _ _ _ _ _ (by omega), Nat.zero_add]
      congr 1
      omega
    · rw [if_neg inside, overwrite_outside _ _ _ _ _ (by omega)]
  cases rest with
  | nil =>
    refine ⟨first, ?_⟩
    intro offset small
    rw [List.length_nil, Nat.zero_mul] at small
    exact absurd small (Nat.not_lt_zero _)
  | cons second rest =>
    obtain ⟨some_left, enough_left⟩ := left (Nat.succ_ne_zero _)
    have within := parts.within positive _ _ some_left enough_left
    have more := Nat.zero_lt_of_lt some_left
    rw [parts.next_eq more enough_left]
    constructor
    · intro offset small
      rw [storeClusters_outside _ _ _ _ _ within ?_]
      · exact first offset small
      · intro other member
        have different : cluster ≠ other := fun same => absent (same ▸ member)
        rcases apart cluster List.mem_cons_self other (List.mem_cons_of_mem _ member) different
          with before | behind
        · exact .inl (by omega)
        · exact .inr (by omega)
    · intro offset small filled
      rw [parts.stored positive _ _ _ rest_distinct apart.tail some_left enough_left _ small,
        if_pos filled]

/-! ## The parts of a write -/

section Numbers

/-- The clusters that so many bytes from a position in a cluster on meet. -/
def clustersMet (fat : FatPrivate) (pos size : Nat) : Nat :=
  (pos + size + fat.clusterSize - 1) / fat.clusterSize

/-- The size of the last part of a write that begins at a cluster. -/
def remainder (fat : FatPrivate) (size : Nat) : Nat :=
  if size % fat.clusterSize = 0 then fat.clusterSize else size % fat.clusterSize

/-- The first part of the write is the only one, or ends where its cluster ends. -/
def FirstPartFits (fat : FatPrivate) (size startPos : Nat) : Prop :=
  startPos % fat.clusterSize + size ≤ fat.clusterSize ∨
    fat.clusterSize ≤ startPos % fat.clusterSize + remainder fat size

variable {fat : FatPrivate} {pos size : Nat}

variable (pos) in
theorem clustersMet_bounds (positive : 0 < fat.clusterSize) (some : 0 < size) :
    0 < clustersMet fat pos size ∧
      (clustersMet fat pos size - 1) * fat.clusterSize < pos + size ∧
      pos + size ≤ clustersMet fat pos size * fat.clusterSize := by
  have below := Nat.div_mul_le_self (pos + size + fat.clusterSize - 1) fat.clusterSize
  have above : pos + size + fat.clusterSize - 1 <
      (pos + size + fat.clusterSize - 1) / fat.clusterSize * fat.clusterSize + fat.clusterSize :=
    Nat.lt_div_mul_add positive
  have least : 0 < clustersMet fat pos size :=
    Nat.div_pos (by omega) positive
  rw [← clustersMet] at below above
  refine ⟨least, ?_, by omega⟩
  obtain ⟨count, counted⟩ := Nat.exists_eq_add_of_lt least
  rw [counted] at below ⊢
  rw [Nat.zero_add, Nat.add_sub_cancel]
  rw [Nat.zero_add, Nat.succ_mul] at below
  omega

/-- Such a number is unique. -/
theorem clusters_unique {clusterSize bytes left right : Nat}
    (leftLow : (left - 1) * clusterSize < bytes) (leftHigh : bytes ≤ left * clusterSize)
    (rightLow : (right - 1) * clusterSize < bytes) (rightHigh : bytes ≤ right * clusterSize) :
    left = right := by
  have first := Nat.lt_of_mul_lt_mul_right (leftLow.trans_le rightHigh)
  have second := Nat.lt_of_mul_lt_mul_right (rightLow.trans_le leftHigh)
  omega

/-- The driver counts the clusters right, as long as the numbers stay small. -/
theorem clustersOfWrite_eq (positive : 0 < fat.clusterSize) (some : 0 < size)
    (few : clustersMet fat pos size < 2 ^ 32 - 1) (small : pos + size < 2 ^ 64) :
    clustersOfWrite fat size pos = clustersMet fat pos size := by
  obtain ⟨least, low, high⟩ := clustersMet_bounds pos positive some
  have whole := Nat.div_add_mod (pos + size) fat.clusterSize
  have inside := Nat.mod_lt (pos + size) positive
  have quotient : (pos + size) / fat.clusterSize < 2 ^ 32 - 1 := by
    refine Nat.lt_of_le_of_lt ?_ few
    refine Nat.div_le_of_le_mul ?_
    rwa [Nat.mul_comm]
  have narrow : (pos + size) / fat.clusterSize % 2 ^ 32 = (pos + size) / fat.clusterSize :=
    Nat.mod_eq_of_lt (by omega)
  have successor : ((pos + size) / fat.clusterSize + 1) % 2 ^ 32 =
      (pos + size) / fat.clusterSize + 1 := Nat.mod_eq_of_lt (by omega)
  rw [Nat.mul_comm] at whole
  rw [clustersOfWrite, Nat.mod_eq_of_lt small, narrow, successor]
  split
  · have below : ((pos + size) / fat.clusterSize + 1 - 1) * fat.clusterSize < pos + size := by
      rw [Nat.add_sub_cancel]
      omega
    have above : pos + size ≤ ((pos + size) / fat.clusterSize + 1) * fat.clusterSize := by
      rw [Nat.succ_mul]
      omega
    exact clusters_unique below above low high
  · have even : (pos + size) / fat.clusterSize * fat.clusterSize = pos + size := by omega
    have one : 0 < (pos + size) / fat.clusterSize := by
      refine Nat.pos_of_ne_zero fun none => ?_
      rw [none, Nat.zero_mul] at even
      omega
    have previous : ((pos + size) / fat.clusterSize - 1) * fat.clusterSize + fat.clusterSize =
        (pos + size) / fat.clusterSize * fat.clusterSize := by
      rw [← Nat.succ_mul, Nat.succ_eq_add_one, Nat.sub_add_cancel one]
    have below : ((pos + size) / fat.clusterSize - 1) * fat.clusterSize < pos + size := by omega
    exact clusters_unique below even.ge low high

/-- The length of the first part: it fills its cluster, or it is the only one, or
it is what the last part should have been. -/
theorem firstWrite_eq (size : Nat) (smallest : 512 ≤ fat.clusterSize) (largest : fat.clusterSize ≤ 32768)
    (inside : pos < fat.clusterSize) :
    firstWrite fat size pos = min (remainder fat size) (fat.clusterSize - pos) := by
  have below := Nat.mod_lt size (Nat.lt_of_lt_of_le (by decide) smallest : 0 < fat.clusterSize)
  have rest : (if size % fat.clusterSize % 2 ^ 16 = 0 then fat.clusterSize % 2 ^ 16
      else size % fat.clusterSize % 2 ^ 16) = remainder fat size := by
    rw [Nat.mod_eq_of_lt (show size % fat.clusterSize < 2 ^ 16 by omega),
      Nat.mod_eq_of_lt (show fat.clusterSize < 2 ^ 16 by omega), remainder]
  have most : remainder fat size ≤ fat.clusterSize := by
    rw [remainder]
    split
    · exact le_refl _
    · exact below.le
  rw [firstWrite, rest]
  split
  · rename_i longer
    have beyond : (remainder fat size + pos) % fat.clusterSize =
        remainder fat size + pos - fat.clusterSize := by
      rw [Nat.mod_eq_sub_mod longer.le, Nat.mod_eq_of_lt (by omega)]
    have narrow : (remainder fat size + pos - fat.clusterSize) % 2 ^ 16 =
        remainder fat size + pos - fat.clusterSize := Nat.mod_eq_of_lt (by omega)
    rw [beyond, narrow, Nat.min_eq_right (by omega)]
    omega
  · rw [Nat.min_eq_left (by omega)]

/-- Behind the first part the write needs all its clusters and no more. -/
theorem firstWrite_left (positive : 0 < fat.clusterSize) (some : 0 < size)
    (inside : pos < fat.clusterSize) (more : 1 < clustersMet fat pos size) :
    (clustersMet fat pos size - 1 - 1) * fat.clusterSize <
        size - min (remainder fat size) (fat.clusterSize - pos) ∧
      size - min (remainder fat size) (fat.clusterSize - pos) ≤
        (clustersMet fat pos size - 1) * fat.clusterSize := by
  obtain ⟨-, low, high⟩ := clustersMet_bounds pos positive some
  obtain ⟨count, counted⟩ := Nat.exists_eq_add_of_lt more
  have last : clustersMet fat pos size = count + 2 := by omega
  rw [last] at low high ⊢
  rw [show count + 2 - 1 = count + 1 from rfl] at low ⊢
  rw [Nat.add_sub_cancel]
  rw [Nat.succ_mul] at low high ⊢
  rw [Nat.succ_mul] at high
  by_cases fills : fat.clusterSize ≤ pos + remainder fat size
  · rw [Nat.min_eq_right (by omega)]
    omega
  · rw [Nat.min_eq_left (by omega)]
    have uneven : size % fat.clusterSize ≠ 0 := by
      intro even
      rw [remainder, if_pos even] at fills
      omega
    have rest : remainder fat size = size % fat.clusterSize := if_neg uneven
    have whole := Nat.div_add_mod size fat.clusterSize
    rw [Nat.mul_comm] at whole
    -- The clusters met are one more than those the size fills.
    have same : size / fat.clusterSize + 1 = count + 2 := by
      have below : (size / fat.clusterSize + 1 - 1) * fat.clusterSize < pos + size := by
        rw [Nat.add_sub_cancel]
        omega
      have above : pos + size ≤ (size / fat.clusterSize + 1) * fat.clusterSize := by
        rw [Nat.succ_mul]
        omega
      refine clusters_unique below above ?_ ?_
      · rw [show count + 2 - 1 = count + 1 from rfl, Nat.succ_mul]
        exact low
      · rw [Nat.succ_mul, Nat.succ_mul]
        exact high
    have quotient : size / fat.clusterSize = count + 1 := Nat.succ.inj same
    rw [quotient, Nat.succ_mul] at whole
    omega

/-- The parts behind the first one, as the driver computes their lengths. -/
theorem nextWrite_parts (smallest : 0 < fat.clusterSize) (largest : fat.clusterSize ≤ 32768)
    (small : size < 2 ^ 64) : Parts fat size (nextWrite fat size) := by
  constructor
  · intro written some enough
    rw [nextWrite, if_pos rfl]
    omega
  · intro left written not_one
    rw [nextWrite, if_neg not_one]
    exact Nat.mod_eq_of_lt (by omega)

end Numbers

/-! ## Files and their content -/

variable {env : Environment} {fat : FatPrivate} {world : World}

/-- Where the bytes of a data cluster are. -/
def clusterStart (fat : FatPrivate) (cluster : Nat) : Nat :=
  fat.dataClusterStartAddress + (cluster - 2) * fat.clusterSize

/-- A data cluster whose bytes are below 4 GiB, where 32-bit addresses reach. -/
structure Near (env : Environment) (fat : FatPrivate) (cluster : Nat) : Prop where
  is_data : DataCluster env fat cluster
  below : fat.dataClusterStartAddress + (cluster - 1) * fat.clusterSize ≤ 2 ^ 32

/-- The bytes of the clusters of a chain, one cluster behind the other. -/
def content (fat : FatPrivate) (bytes : Nat → UInt8) (cells : List Nat) (offset : Nat) : UInt8 :=
  bytes (clusterStart fat (cells.getD (offset / fat.clusterSize) 0) + offset % fat.clusterSize)

/-- A file with a well-formed chain, a position in it and a write of at least one
byte. The FAT begins with its two marks, and enough clusters are free, or become
free when the chain is cut, that the search looks at and 32-bit addresses reach. -/
structure Writing (env : Environment) (fat : FatPrivate) (bytes : Nat → UInt8) (cells : List Nat)
    (fileSize size startPos : Nat) : Prop where
  chain : Chain (links fat bytes) cells
  distinct : cells.Nodup
  near : ∀ cluster ∈ cells, Near env fat cluster
  holds : fileSize ≤ cells.length * fat.clusterSize
  inside : startPos ≤ fileSize
  some : 0 < size
  marks : ∀ entry < 2, entryAt fat bytes entry ≠ FAT_ENTRY_FREE
  enough : ∃ spare : Finset Nat,
    clustersMet fat (startPos % fat.clusterSize) size -
      (if startPos / fat.clusterSize < cells.length then 1 else 0) ≤ spare.card ∧
    ∀ cluster ∈ spare, Near env fat cluster ∧ Findable env fat cluster ∧
      (table fat bytes cluster = FAT_ENTRY_FREE ∨
        cluster ∈ cells.drop (startPos / fat.clusterSize + 1))

/-- The file has a well-formed chain again, and its content begins with the old
content before the position and the bytes written. -/
structure Landed (env : Environment) (fat : FatPrivate) (before after : Nat → UInt8)
    (cells : List Nat) (size startPos : Nat) (input : Nat → UInt8) (new : List Nat) : Prop where
  begins : new.head? = cells.head?
  chain : Chain (links fat after) new
  distinct : new.Nodup
  clusters : Clusters env fat new
  long : startPos + size ≤ new.length * fat.clusterSize
  kept : ∀ offset < startPos, content fat after new offset = content fat before cells offset
  stored : ∀ offset < size, content fat after new (startPos + offset) = input offset

/-- If the write returns 0, it has landed. -/
def Lands (env : Environment) (fat : FatPrivate) (world : World) (head : Nat) (rest : List Nat)
    (fileSize size startPos : Nat) (input : Nat → UInt8) : Prop :=
  ∀ after, (writeFatFile env fat ⟨head, fileSize⟩ size startPos input).run world =
      .ok (SUCCESS, after) →
    ∃ new, Landed env fat world.bytes after.bytes (head :: rest) size startPos input new

/-- So many clusters as the write needs behind those that the chain keeps are free, or become
free when the chain is cut, and are of a kind. -/
def Spare (env : Environment) (fat : FatPrivate) (kind : Nat → Prop) (bytes : Nat → UInt8)
    (cells : List Nat) (size startPos : Nat) : Prop :=
  ∃ spare : Finset Nat,
    clustersMet fat (startPos % fat.clusterSize) size -
      (if startPos / fat.clusterSize < cells.length then 1 else 0) ≤ spare.card ∧
    ∀ cluster ∈ spare, DataCluster env fat cluster ∧ kind cluster ∧
      (table fat bytes cluster = FAT_ENTRY_FREE ∨
        cluster ∈ cells.drop (startPos / fat.clusterSize + 1))

/-- A well-formed chain, a position in it or right behind it, and a write of at least one
byte. The FAT begins with its two marks, and the search finds enough clusters. -/
structure Growable (env : Environment) (fat : FatPrivate) (bytes : Nat → UInt8)
    (cells : List Nat) (size startPos : Nat) : Prop where
  chain : Chain (links fat bytes) cells
  clusters : Clusters env fat cells
  inside : startPos ≤ cells.length * fat.clusterSize
  some : 0 < size
  marks : ∀ entry < 2, entryAt fat bytes entry ≠ FAT_ENTRY_FREE
  enough : Spare env fat (Findable env fat) bytes cells size startPos

/-- A kind of data clusters that the driver finds in the data region of the volume, and that
has all clusters with lower numbers than those it has. -/
structure Reachable (env : Environment) (fat : FatPrivate) (kind : Nat → Prop) : Prop where
  is_data : ∀ cluster, kind cluster → DataCluster env fat cluster
  addressed : ∀ cluster, kind cluster → Addressed fat cluster
  inVolume : ∀ cluster, kind cluster → InVolume env fat cluster
  lower : ∀ cluster other, kind cluster → 2 ≤ other → other ≤ cluster → kind other

section Near

variable {cluster other : Nat}

/-- The driver finds the bytes of such a cluster. -/
theorem Near.place (positive : 0 < fat.clusterSize) (near : Near env fat cluster) :
    dataClusterToAbsoluteAddress fat cluster = clusterStart fat cluster := by
  obtain ⟨count, rfl⟩ := Nat.exists_eq_add_of_le near.is_data.numbered
  have narrow := near.is_data.narrow
  have below := near.below
  have one : 2 + count - 1 = count + 1 := by omega
  have index : (2 + count + 2 ^ 32 - 2) % 2 ^ 32 = count := by omega
  rw [one, Nat.succ_mul] at below
  rw [dataClusterToAbsoluteAddress, index, clusterStart, Nat.add_sub_cancel_left,
    Nat.mod_eq_of_lt (by omega), Nat.add_comm]

theorem Near.addressed (positive : 0 < fat.clusterSize) (near : Near env fat cluster) :
    Addressed fat cluster := by
  rw [Addressed, near.place positive]
  exact Nat.le_add_right _ _

theorem Near.inVolume (positive : 0 < fat.clusterSize) (near : Near env fat cluster) :
    InVolume env fat cluster := by
  obtain ⟨count, rfl⟩ := Nat.exists_eq_add_of_le near.is_data.numbered
  have inside := near.is_data.inside
  have one : 2 + count - 1 = count + 1 := by omega
  rw [one, Nat.succ_mul] at inside
  rw [InVolume, near.place positive, clusterStart, Nat.add_sub_cancel_left]
  omega

/-- Clusters with lower numbers are data clusters too. -/
theorem DataCluster.lower (is_data : DataCluster env fat cluster) (numbered : 2 ≤ other)
    (lower : other ≤ cluster) : DataCluster env fat other := by
  have product : (other - 1) * fat.clusterSize ≤ (cluster - 1) * fat.clusterSize :=
    Nat.mul_le_mul_right _ (Nat.sub_le_sub_right lower 1)
  have inside := is_data.inside
  have entry := is_data.entry
  exact ⟨numbered, Nat.lt_of_le_of_lt lower is_data.narrow, by omega, by omega⟩

/-- They are near if it is. -/
theorem Near.mono (near : Near env fat cluster) (numbered : 2 ≤ other) (lower : other ≤ cluster) :
    Near env fat other := by
  have product : (other - 1) * fat.clusterSize ≤ (cluster - 1) * fat.clusterSize :=
    Nat.mul_le_mul_right _ (Nat.sub_le_sub_right lower 1)
  exact ⟨near.is_data.lower numbered lower, (Nat.add_le_add_left product _).trans near.below⟩

/-- The search finds clusters with lower numbers too. -/
theorem Findable.mono (findable : Findable env fat cluster) (lower : other ≤ cluster) :
    Findable env fat other := by
  have scanned := findable.1
  have earlier : other / 512 ≤ cluster / 512 := Nat.div_le_div_right lower
  have scanned_lower : Scanned fat other := by
    rw [Scanned] at scanned ⊢
    omega
  have windows : 2048 * (other / 512 + 1) ≤ 2048 * (cluster / 512 + 1) :=
    Nat.mul_le_mul_left _ (Nat.succ_le_succ earlier)
  exact ⟨scanned_lower, (Nat.add_le_add_left windows _).trans findable.2⟩

/-- Bytes of different clusters are at different places. -/
theorem clusterStart_apart (fat : FatPrivate) {left right : Nat} (left_data : 2 ≤ left)
    (right_data : 2 ≤ right) (different : left ≠ right) :
    clusterStart fat left + fat.clusterSize ≤ clusterStart fat right ∨
      clusterStart fat right + fat.clusterSize ≤ clusterStart fat left := by
  have before {first second : Nat} (numbered : 2 ≤ first) (lower : first < second) :
      clusterStart fat first + fat.clusterSize ≤ clusterStart fat second := by
    have product : (first - 2 + 1) * fat.clusterSize ≤ (second - 2) * fat.clusterSize :=
      Nat.mul_le_mul_right _ (by omega)
    rw [Nat.succ_mul] at product
    rw [clusterStart, clusterStart]
    omega
  exact (Nat.lt_or_gt_of_ne different).imp (before left_data) (before right_data)

/-- The places of different clusters do not overlap. -/
theorem near_apart (positive : 0 < fat.clusterSize) {cells : List Nat}
    (near : ∀ cluster ∈ cells, Near env fat cluster) :
    Apart (dataClusterToAbsoluteAddress fat) fat.clusterSize cells := by
  intro left leftMember right rightMember different
  rw [(near left leftMember).place positive, (near right rightMember).place positive]
  exact clusterStart_apart fat (near left leftMember).is_data.numbered
    (near right rightMember).is_data.numbered different

end Near

section Domain

variable {bytes : Nat → UInt8} {cells : List Nat} {fileSize size startPos : Nat}
  {kind : Nat → Prop}

theorem Writing.growable (writing : Writing env fat bytes cells fileSize size startPos) :
    Growable env fat bytes cells size startPos where
  chain := writing.chain
  clusters cluster member := (writing.near cluster member).is_data
  inside := writing.inside.trans writing.holds
  some := writing.some
  marks := writing.marks
  enough := by
    obtain ⟨spare, enough, shown⟩ := writing.enough
    refine ⟨spare, enough, fun cluster member => ?_⟩
    obtain ⟨near, findable, available⟩ := shown cluster member
    exact ⟨near.is_data, findable, available⟩

theorem Writing.spare (writing : Writing env fat bytes cells fileSize size startPos) :
    Spare env fat (Near env fat) bytes cells size startPos := by
  obtain ⟨spare, enough, shown⟩ := writing.enough
  refine ⟨spare, enough, fun cluster member => ?_⟩
  obtain ⟨near, -, available⟩ := shown cluster member
  exact ⟨near.is_data, near, available⟩

theorem near_reachable (positive : 0 < fat.clusterSize) : Reachable env fat (Near env fat) where
  is_data _ near := near.is_data
  addressed _ near := near.addressed positive
  inVolume _ near := near.inVolume positive
  lower _ _ near numbered below := near.mono numbered below

/-- The position is not behind the chain. -/
theorem Growable.skipped_eq (growable : Growable env fat bytes cells size startPos) :
    skipped fat startPos = startPos / fat.clusterSize ∧ skipped fat startPos ≤ cells.length := by
  have few := growable.clusters.length_le growable.chain.nodup
  have reached : startPos / fat.clusterSize ≤ cells.length := by
    refine Nat.div_le_of_le_mul ?_
    rw [Nat.mul_comm]
    exact growable.inside
  have same : skipped fat startPos = startPos / fat.clusterSize := Nat.mod_eq_of_lt (by omega)
  exact ⟨same, same ▸ reached⟩

/-- The clusters of the chain before the position of the write. -/
theorem Growable.front (growable : Growable env fat bytes cells size startPos) :
    (cells.take (startPos / fat.clusterSize)).length = startPos / fat.clusterSize := by
  obtain ⟨same, reached⟩ := growable.skipped_eq
  rw [same] at reached
  rw [List.length_take, Nat.min_eq_left reached]

/-- The numbers of the write stay small, because there are enough clusters. -/
theorem Growable.small (positive : 0 < fat.clusterSize) (largest : fat.clusterSize ≤ 32768)
    (growable : Growable env fat bytes cells size startPos) :
    clustersMet fat (startPos % fat.clusterSize) size < 2 ^ 32 - 1 ∧
      startPos % fat.clusterSize + size < 2 ^ 64 := by
  obtain ⟨spare, enough, shown⟩ := growable.enough
  have bounded : spare ⊆ Finset.range (2 ^ 28) := by
    intro cluster member
    rw [Finset.mem_range]
    exact (shown cluster member).1.narrow.trans (by decide)
  have few := Finset.card_le_card bounded
  rw [Finset.card_range] at few
  have count : clustersMet fat (startPos % fat.clusterSize) size ≤ 2 ^ 28 + 1 := by
    split at enough
    · omega
    · omega
  have bytes := (clustersMet_bounds (startPos % fat.clusterSize) positive growable.some).2.2
  have product : clustersMet fat (startPos % fat.clusterSize) size * fat.clusterSize ≤
      (2 ^ 28 + 1) * 32768 := Nat.mul_le_mul count largest
  omega

theorem Growable.narrow (positive : 0 < fat.clusterSize) (largest : fat.clusterSize ≤ 32768)
    (growable : Growable env fat bytes cells size startPos) : size < 2 ^ 64 :=
  Nat.lt_of_le_of_lt (Nat.le_add_left _ _) (growable.small positive largest).2

/-- The driver needs as many clusters as the write does. -/
theorem Growable.needed (positive : 0 < fat.clusterSize) (largest : fat.clusterSize ≤ 32768)
    (growable : Growable env fat bytes cells size startPos) :
    clustersOfWrite fat size (startPos % fat.clusterSize) =
        clustersMet fat (startPos % fat.clusterSize) size ∧
      clustersNeeded fat cells.length size startPos =
        clustersMet fat (startPos % fat.clusterSize) size -
          (if startPos / fat.clusterSize < cells.length then 1 else 0) := by
  obtain ⟨few, small⟩ := growable.small positive largest
  obtain ⟨same, reached⟩ := growable.skipped_eq
  have count := clustersOfWrite_eq positive growable.some few small
  have least := (clustersMet_bounds (startPos % fat.clusterSize) positive growable.some).1
  refine ⟨count, ?_⟩
  rw [same] at reached
  rw [clustersNeeded, count, same]
  split
  · rfl
  · rw [if_pos (by omega), Nat.max_eq_right least, Nat.sub_zero]

/-- However many clusters have been taken, as long as they are fewer than the write needs, a
spare one is still free. -/
theorem Growable.still_free (positive : 0 < fat.clusterSize) (largest : fat.clusterSize ≤ 32768)
    (growable : Growable env fat bytes cells size startPos)
    (spare : Spare env fat kind bytes cells size startPos) {allowed : Nat → Prop}
    {between : Nat → UInt8} {taken : List Nat}
    (regrown : Regrown fat allowed bytes between cells
      (cells.take (skipped fat startPos + 1) ++ taken))
    (few : taken.length < clustersNeeded fat cells.length size startPos) :
    ∃ cluster, DataCluster env fat cluster ∧ kind cluster ∧
      entryAt fat between cluster = FAT_ENTRY_FREE := by
  obtain ⟨spare, enough, shown⟩ := spare
  rw [(growable.needed positive largest).2] at few
  rw [growable.skipped_eq.1] at regrown
  obtain ⟨cluster, member, not_taken⟩ : ∃ cluster ∈ spare, cluster ∉ taken.toFinset := by
    refine Finset.exists_mem_notMem_of_card_lt_card ?_
    exact ((List.toFinset_card_le taken).trans_lt few).trans_le enough
  rw [List.mem_toFinset] at not_taken
  obtain ⟨is_data, of_kind, available⟩ := shown cluster member
  have free := regrown.still_free growable.chain growable.chain.nodup available not_taken
  rw [table_eq _ is_data.entry] at free
  exact ⟨cluster, is_data, of_kind, free⟩

/-- The search finds another cluster, and one of a kind that has enough of them. -/
theorem Growable.found (positive : 0 < fat.clusterSize) (largest : fat.clusterSize ≤ 32768)
    (growable : Growable env fat bytes cells size startPos) (reachable : Reachable env fat kind)
    (spare : Spare env fat kind bytes cells size startPos) {between : Nat → UInt8}
    {taken : List Nat}
    (regrown : Regrown fat (fun cluster => kind cluster ∧ Findable env fat cluster) bytes
      between cells (cells.take (skipped fat startPos + 1) ++ taken))
    (few : taken.length < clustersNeeded fat cells.length size startPos) :
    ¬ Unfound env fat (fun cluster => kind cluster ∧ Findable env fat cluster) between := by
  intro unfound
  obtain ⟨cluster, is_data, findable, free⟩ :=
    growable.still_free positive largest growable.enough regrown few
  obtain ⟨other, -, of_kind, other_free⟩ := growable.still_free positive largest spare regrown few
  -- The first free one is not above either of them.
  have exists_free : ∃ other, entryAt fat between other = FAT_ENTRY_FREE := ⟨cluster, free⟩
  have first : FirstFree fat between (Nat.find exists_free) :=
    ⟨Nat.find_spec exists_free, fun other below => Nat.find_min exists_free below⟩
  have lower : Nat.find exists_free ≤ cluster := Nat.find_min' exists_free free
  have also_lower : Nat.find exists_free ≤ other := Nat.find_min' exists_free other_free
  generalize Nat.find exists_free = least at first lower also_lower
  have numbered : 2 ≤ least := by
    by_contra mark
    have entry : 4 * least + 4 ≤ fat.fatSize := by
      have inside := is_data.entry
      omega
    have not_old : least ∉ cells :=
      fun here => mark (growable.clusters least here).numbered
    have not_new : least ∉ cells.take (skipped fat startPos + 1) ++ taken := by
      intro here
      have granted := (regrown.fresh least here not_old).1.1
      exact mark (reachable.is_data least granted).numbered
    refine growable.marks least (Nat.not_le.mp mark) ?_
    rw [← table_eq _ entry, ← regrown.elsewhere least not_old not_new]
    exact first.table
  have least_findable := findable.mono lower
  have least_kind := reachable.lower other least of_kind numbered also_lower
  exact unfound least ⟨least_kind, least_findable⟩ least_findable first

end Domain

/-! ## What a write comes to -/

/-- The chain after a write and the bytes of its clusters. -/
structure Outcome (env : Environment) (fat : FatPrivate) (before after : Nat → UInt8)
    (cells : List Nat) (size startPos : Nat) (input : Nat → UInt8) (cluster : Nat)
    (grown : List Nat) : Prop where
  here : cells.getD (startPos / fat.clusterSize) cluster = cluster
  regrown : Regrown fat (fun cluster => Near env fat cluster ∧ Findable env fat cluster) before after
    cells (cells.take (startPos / fat.clusterSize) ++ cluster :: grown)
  near : ∀ other ∈ cells.take (startPos / fat.clusterSize) ++ cluster :: grown, Near env fat other
  count : grown.length + 1 = clustersMet fat (startPos % fat.clusterSize) size
  data : ∀ address, fat.dataClusterStartAddress ≤ address → after address =
    storeClusters (dataClusterToAbsoluteAddress fat) (nextWrite fat size) input (cluster :: grown)
      (startPos % fat.clusterSize) (firstWrite fat size (startPos % fat.clusterSize)) 0 before address

/-- The same for clusters of any kind. -/
structure Grown (env : Environment) (fat : FatPrivate) (kind : Nat → Prop)
    (before after : Nat → UInt8) (cells : List Nat) (size startPos : Nat) (input : Nat → UInt8)
    (cluster : Nat) (grown : List Nat) : Prop where
  here : cells.getD (startPos / fat.clusterSize) cluster = cluster
  regrown : Regrown fat (fun cluster => kind cluster ∧ Findable env fat cluster) before after
    cells (cells.take (startPos / fat.clusterSize) ++ cluster :: grown)
  kinds : ∀ other ∈ cluster :: grown, kind other
  count : grown.length + 1 = clustersMet fat (startPos % fat.clusterSize) size
  data : ∀ address, fat.dataClusterStartAddress ≤ address → after address =
    storeClusters (dataClusterToAbsoluteAddress fat) (nextWrite fat size) input (cluster :: grown)
      (startPos % fat.clusterSize) (firstWrite fat size (startPos % fat.clusterSize)) 0 before address

section Outcomes

variable {head : Nat} {rest : List Nat} {fileSize size startPos : Nat} {input : Nat → UInt8}

/-- The first part stays in its cluster, and what is left fills the others. -/
theorem firstWrite_parts (smallest : 512 ≤ fat.clusterSize) (largest : fat.clusterSize ≤ 32768)
    (some : 0 < size) (pos : Nat) (inside : pos < fat.clusterSize) :
    pos + firstWrite fat size pos ≤ fat.clusterSize ∧ 0 < firstWrite fat size pos ∧
      (clustersMet fat pos size - 1 ≠ 0 →
        (clustersMet fat pos size - 1 - 1) * fat.clusterSize < size - firstWrite fat size pos ∧
          size - firstWrite fat size pos ≤ (clustersMet fat pos size - 1) * fat.clusterSize) := by
  have positive : 0 < fat.clusterSize := Nat.lt_of_lt_of_le (by decide) smallest
  rw [firstWrite_eq size smallest largest inside]
  have least : 0 < remainder fat size := by
    rw [remainder]
    split
    · exact positive
    · exact Nat.pos_of_ne_zero ‹_›
  refine ⟨by omega, by omega, fun more => firstWrite_left positive some inside (by omega)⟩

/-- A write whose first cluster is of the kind, and that has enough others of it, succeeds,
unless the heap has no room. -/
theorem Growable.grown {kind : Nat → Prop} (input : Nat → UInt8) (layout : Layout env fat)
    (quiet : env.Quiet) (fitting : env.Fitting) (smallest : 512 ≤ fat.clusterSize)
    (largest : fat.clusterSize ≤ 32768)
    (growable : Growable env fat world.bytes (head :: rest) size startPos)
    (reachable : Reachable env fat kind)
    (here : ∀ cluster ∈ (head :: rest)[startPos / fat.clusterSize]?, kind cluster)
    (spare : Spare env fat kind world.bytes (head :: rest) size startPos) :
    Meets (writeFatFile env fat ⟨head, fileSize⟩ size startPos input) world env.HeapFault
      fun ret after => ret = SUCCESS ∧ ∃ cluster grown,
        Grown env fat kind world.bytes after.bytes (head :: rest) size startPos input cluster
          grown := by
  have positive := layout.cluster
  obtain ⟨same, reached⟩ := growable.skipped_eq
  obtain ⟨counted, needed⟩ := growable.needed positive largest
  have inside := Nat.mod_lt startPos positive
  obtain ⟨room, some, left⟩ := firstWrite_parts smallest largest growable.some _ inside
  have usable (cluster : Nat) (may : kind cluster ∧ Findable env fat cluster) :
      DataCluster env fat cluster := reachable.is_data cluster may.1
  have begins (_ : clustersOfWrite fat size (startPos % fat.clusterSize) ≠ 0) :
      ∀ cluster ∈ (head :: rest)[skipped fat startPos]?, Addressed fat cluster := by
    rw [same]
    exact fun cluster member => reachable.addressed cluster (here cluster member)
  have law : Meets (writeFatFile env fat ⟨head, fileSize⟩ size startPos input) world
      (fun fault => env.HeapFault fault ∨ WriteStuck env fat
        (fun cluster => kind cluster ∧ Findable env fat cluster) size startPos world.bytes
          (head :: rest))
      fun ret after => world.searches ⊆ after.searches ∧ Wrote env fat
        (fun cluster => kind cluster ∧ Findable env fat cluster) size startPos input
          world.bytes (head :: rest) ret after.bytes after.searches :=
    writeFatFile_meets layout quiet fitting usable
      (fun _ cluster may => reachable.addressed cluster may.1) growable.chain
      growable.chain.nodup growable.clusters begins
  refine (law.mono_fault ?_).mono ?_
  · rintro fault (heap | ⟨between, taken, regrown, few, unfound⟩)
    · exact heap
    · exact absurd unfound (growable.found positive largest reachable spare regrown few)
  · rintro ret after ⟨-, wrote⟩
    generalize after.bytes = final at wrote
    cases wrote with
    | beyond _ short => exact absurd short (Nat.not_lt.mpr reached)
    | missed ret between after searches taken regrown few missed =>
      exact absurd missed.unfound (growable.found positive largest reachable spare regrown few)
    | written ret between after searches cluster grown _ member regrown data stored =>
      rw [counted] at stored
      rw [same] at member regrown
      have least := (clustersMet_bounds (startPos % fat.clusterSize) positive growable.some).1
      -- The first cluster is the one at the position or a new one; the others are new.
      have first_kind : kind cluster := by
        by_cases held : startPos / fat.clusterSize < (head :: rest).length
        · rw [List.getD_eq_getElem _ _ held] at member
          refine here cluster ?_
          rw [List.getElem?_eq_getElem held, member]
          rfl
        · refine (regrown.fresh cluster (List.mem_append_right _ List.mem_cons_self) ?_).1.1
          have distinct := regrown.distinct
          rw [List.take_of_length_le (Nat.not_lt.mp held)] at distinct
          exact fun old => (List.nodup_append.mp distinct).2.2 _ old _ List.mem_cons_self rfl
      have kinds : ∀ other ∈ cluster :: grown, kind other := by
        intro other other_member
        by_cases first : other ∈ [cluster]
        · rwa [List.mem_singleton.mp first]
        · exact (stored.regrown.fresh other other_member first).1.1
      have one_more : clustersMet fat (startPos % fat.clusterSize) size - 1 + 1 =
          clustersMet fat (startPos % fat.clusterSize) size := Nat.sub_add_cancel least
      have within := (nextWrite_parts positive largest
        (growable.narrow positive largest)).within_first positive room some left
      rw [one_more] at within
      have success := stored.succeeds within (reachable.inVolume cluster first_kind)
        fun other may => reachable.inVolume other may.1
      obtain ⟨count, shown⟩ := stored.content (success ▸ le_refl SUCCESS)
        (Nat.pos_iff_ne_zero.mp least)
      refine ⟨success, cluster, grown, member, regrown, kinds, count, ?_⟩
      intro address behind
      rw [shown address behind]
      exact storeClusters_congr _ _ _ _ _ _ _ (data address behind)

/-- A write in the domain succeeds, unless the heap has no room. -/
theorem Writing.outcome (input : Nat → UInt8) (layout : Layout env fat) (quiet : env.Quiet)
    (fitting : env.Fitting) (smallest : 512 ≤ fat.clusterSize)
    (largest : fat.clusterSize ≤ 32768)
    (writing : Writing env fat world.bytes (head :: rest) fileSize size startPos) :
    Meets (writeFatFile env fat ⟨head, fileSize⟩ size startPos input) world env.HeapFault
      fun ret after => ret = SUCCESS ∧ ∃ cluster grown,
        Outcome env fat world.bytes after.bytes (head :: rest) size startPos input cluster grown := by
  refine (writing.growable.grown input layout quiet fitting smallest largest
    (near_reachable layout.cluster) (fun cluster member => ?_) writing.spare).mono ?_
  · exact writing.near cluster (List.mem_of_getElem? member)
  rintro ret after ⟨success, cluster, grown, ended⟩
  refine ⟨success, cluster, grown, ended.here, ended.regrown, ?_, ended.count, ended.data⟩
  intro other member
  by_cases old : other ∈ head :: rest
  · exact writing.near other old
  · exact (ended.regrown.fresh other member old).1.1

/-- A write that meets one cluster is one part. -/
theorem firstWrite_single {size pos : Nat} (smallest : 512 ≤ fat.clusterSize)
    (largest : fat.clusterSize ≤ 32768) (some : 0 < size) (inside : pos < fat.clusterSize)
    (single : pos + size ≤ fat.clusterSize) : firstWrite fat size pos = size := by
  have whole : remainder fat size = size := by
    rw [remainder]
    rcases Nat.lt_or_eq_of_le ((Nat.le_add_left _ _).trans single) with shorter | same
    · rw [Nat.mod_eq_of_lt shorter, if_neg (Nat.ne_of_gt some)]
    · rw [same, Nat.mod_self, if_pos rfl]
  rw [firstWrite_eq size smallest largest inside, whole]
  omega

/-- The first part of a write that fits is the whole of it, or fills its cluster. -/
theorem firstWrite_fits (smallest : 512 ≤ fat.clusterSize) (largest : fat.clusterSize ≤ 32768)
    (some : 0 < size) (fits : FirstPartFits fat size startPos) :
    startPos % fat.clusterSize + size ≤ fat.clusterSize ∧
        firstWrite fat size (startPos % fat.clusterSize) = size ∨
      startPos % fat.clusterSize + firstWrite fat size (startPos % fat.clusterSize) =
        fat.clusterSize := by
  have positive : 0 < fat.clusterSize := Nat.lt_of_lt_of_le (by decide) smallest
  have inside := Nat.mod_lt startPos positive
  rcases fits with one | fills
  · exact .inl ⟨one, firstWrite_single smallest largest some inside one⟩
  · refine .inr ?_
    rw [firstWrite_eq size smallest largest inside]
    omega

section Content

variable {bytes : Nat → UInt8} {cluster : Nat}

theorem content_first {rest : List Nat} {offset : Nat} (small : offset < fat.clusterSize) :
    content fat bytes (cluster :: rest) offset = bytes (clusterStart fat cluster + offset) := by
  rw [content, Nat.div_eq_of_lt small, Nat.mod_eq_of_lt small]
  rfl

theorem content_rest (positive : 0 < fat.clusterSize) (rest : List Nat) (offset : Nat) :
    content fat bytes (cluster :: rest) (fat.clusterSize + offset) =
      content fat bytes rest offset := by
  rw [content, content, Nat.add_div_left _ positive, Nat.add_mod_left, List.getD_cons_succ]

/-- The content behind the first clusters of a chain. -/
theorem content_behind (bytes : Nat → UInt8) (positive : 0 < fat.clusterSize) (front rest : List Nat) (offset : Nat) :
    content fat bytes (front ++ rest) (front.length * fat.clusterSize + offset) =
      content fat bytes rest offset := by
  induction front with
  | nil => rw [List.length_nil, Nat.zero_mul, Nat.zero_add, List.nil_append]
  | cons first front ih =>
    rw [List.length_cons, Nat.succ_mul, Nat.add_comm _ fat.clusterSize, Nat.add_assoc,
      List.cons_append, content_rest positive, ih]

end Content

section Landing

variable {before after : Nat → UInt8} {cells grown : List Nat} {cluster : Nat}

theorem Outcome.data_at
    (outcome : Outcome env fat before after cells size startPos input cluster grown)
    (other offset : Nat) : after (clusterStart fat other + offset) =
      storeClusters (dataClusterToAbsoluteAddress fat) (nextWrite fat size) input (cluster :: grown)
        (startPos % fat.clusterSize) (firstWrite fat size (startPos % fat.clusterSize)) 0 before
        (clusterStart fat other + offset) :=
  outcome.data _ ((Nat.le_add_right _ _).trans (Nat.le_add_right _ _))

/-- The chain after the write, from the cluster of the position on. -/
theorem Outcome.behind (positive : 0 < fat.clusterSize)
    (writing : Writing env fat before cells fileSize size startPos) (offset : Nat) :
    content fat after (cells.take (startPos / fat.clusterSize) ++ cluster :: grown)
        (startPos + offset) =
      content fat after (cluster :: grown) (startPos % fat.clusterSize + offset) := by
  have whole := Nat.div_add_mod startPos fat.clusterSize
  have law := content_behind after positive
    (cells.take (startPos / fat.clusterSize)) (cluster :: grown)
    (startPos % fat.clusterSize + offset)
  rw [writing.growable.front, ← Nat.add_assoc, Nat.mul_comm, whole] at law
  exact law

/-- The content before the cluster of the position is kept. -/
theorem Outcome.front (positive : 0 < fat.clusterSize)
    (writing : Writing env fat before cells fileSize size startPos)
    (outcome : Outcome env fat before after cells size startPos input cluster grown)
    (within : Within fat (nextWrite fat size) (grown.length + 1) (startPos % fat.clusterSize)
      (firstWrite fat size (startPos % fat.clusterSize)) 0)
    {offset : Nat} (small : offset / fat.clusterSize < startPos / fat.clusterSize) :
    content fat after (cells.take (startPos / fat.clusterSize) ++ cluster :: grown) offset =
      content fat before cells offset := by
  have index : offset / fat.clusterSize <
      (cells.take (startPos / fat.clusterSize)).length := by rwa [writing.growable.front]
  have inside := Nat.mod_lt offset positive
  have same : (cells.take (startPos / fat.clusterSize) ++ cluster :: grown).getD
      (offset / fat.clusterSize) 0 = cells.getD (offset / fat.clusterSize) 0 := by
    rw [List.getD_append _ _ _ _ index, List.getD_eq_getElem?_getD, List.getD_eq_getElem?_getD,
      List.getElem?_take_of_lt small]
  have member : cells.getD (offset / fat.clusterSize) 0 ∈
      cells.take (startPos / fat.clusterSize) := by
    rw [← same, List.getD_append _ _ _ _ index, List.getD_eq_getElem _ _ index]
    exact List.getElem_mem index
  have distinct := outcome.regrown.distinct
  have apart := near_apart positive outcome.near
  rw [content, content, same]
  generalize cells.getD (offset / fat.clusterSize) 0 = here at member
  have here_new := List.mem_append_left (cluster :: grown) member
  have place := (outcome.near here here_new).place positive
  rw [outcome.data_at]
  refine storeClusters_outside _ _ _ _ _ within ?_
  intro other other_member
  have different : here ≠ other := (List.nodup_append.mp distinct).2.2 here member other other_member
  rw [← place]
  rcases apart here here_new other (List.mem_append_right _ other_member) different with
    earlier | later
  · exact .inl (by omega)
  · exact .inr (by omega)

/-- The content from the cluster of the position on, as the parts put it there. -/
theorem Outcome.parts (smallest : 512 ≤ fat.clusterSize) (largest : fat.clusterSize ≤ 32768)
    (writing : Writing env fat before cells fileSize size startPos)
    (outcome : Outcome env fat before after cells size startPos input cluster grown) :
    (∀ offset < fat.clusterSize, content fat after (cluster :: grown) offset =
      if startPos % fat.clusterSize ≤ offset ∧ offset < startPos % fat.clusterSize +
          firstWrite fat size (startPos % fat.clusterSize)
      then input (offset - startPos % fat.clusterSize)
      else before (clusterStart fat cluster + offset)) ∧
    ∀ offset < grown.length * fat.clusterSize,
      offset < size - firstWrite fat size (startPos % fat.clusterSize) →
        content fat after (cluster :: grown) (fat.clusterSize + offset) =
          input (firstWrite fat size (startPos % fat.clusterSize) + offset) := by
  have positive : 0 < fat.clusterSize := Nat.lt_of_lt_of_le (by decide) smallest
  have counted : clustersMet fat (startPos % fat.clusterSize) size - 1 = grown.length := by
    rw [← outcome.count, Nat.add_sub_cancel]
  have left := (firstWrite_parts smallest largest writing.some _
    (Nat.mod_lt startPos positive)).2.2
  rw [counted] at left
  have near (other : Nat) (member : other ∈ cluster :: grown) : Near env fat other :=
    outcome.near other (List.mem_append_right _ member)
  obtain ⟨first, later⟩ := (nextWrite_parts positive largest
    (writing.growable.narrow positive largest)).stored_first input positive before
      (List.nodup_append.mp outcome.regrown.distinct).2.1 (near_apart positive near) left
  constructor
  · intro offset small
    rw [content_first small, outcome.data_at,
      ← (near cluster List.mem_cons_self).place positive]
    exact first offset small
  · intro offset small filled
    have index : offset / fat.clusterSize < grown.length :=
      Nat.div_lt_of_lt_mul (Nat.mul_comm _ _ ▸ small)
    have member : grown.getD (offset / fat.clusterSize) 0 ∈ cluster :: grown := by
      rw [List.getD_eq_getElem _ _ index]
      exact List.mem_cons_of_mem _ (List.getElem_mem index)
    rw [content_rest positive, content,
      outcome.data_at,
      ← (near _ member).place positive]
    exact later offset small filled

/-- A cluster of the old chain at the position is the one written first. -/
theorem Outcome.first_old (positive : 0 < fat.clusterSize)
    (outcome : Outcome env fat before after cells size startPos input cluster grown) {offset : Nat}
    (held : startPos / fat.clusterSize < cells.length) (here : offset < fat.clusterSize) :
    content fat before cells (startPos / fat.clusterSize * fat.clusterSize + offset) =
      before (clusterStart fat cluster + offset) := by
  have index := outcome.here
  rw [List.getD_eq_getElem _ _ held] at index
  rw [content, Nat.mul_comm, Nat.mul_add_div positive, Nat.mul_add_mod, Nat.div_eq_of_lt here,
    Nat.mod_eq_of_lt here, Nat.add_zero, List.getD_eq_getElem _ _ held, index]

/-- A write whose first part fits has landed. -/
theorem Outcome.landed (smallest : 512 ≤ fat.clusterSize) (largest : fat.clusterSize ≤ 32768)
    (writing : Writing env fat before (head :: rest) fileSize size startPos)
    (outcome : Outcome env fat before after (head :: rest) size startPos input cluster grown)
    (fits : FirstPartFits fat size startPos) :
    Landed env fat before after (head :: rest) size startPos input
      ((head :: rest).take (startPos / fat.clusterSize) ++ cluster :: grown) := by
  have positive : 0 < fat.clusterSize := Nat.lt_of_lt_of_le (by decide) smallest
  obtain ⟨first, later⟩ := outcome.parts smallest largest writing
  have first_fits := firstWrite_fits smallest largest writing.some fits
  have whole := Nat.div_add_mod startPos fat.clusterSize
  rw [Nat.mul_comm] at whole
  obtain ⟨-, -, most⟩ := clustersMet_bounds (startPos % fat.clusterSize) positive writing.some
  rw [← outcome.count] at most
  constructor
  · -- The chain begins as before.
    have here := outcome.here
    cases position : startPos / fat.clusterSize with
    | zero =>
      rw [position] at here
      exact congrArg some here.symm
    | succ skip => rfl
  · exact outcome.regrown.chained
  · exact outcome.regrown.distinct
  · exact fun other member => (outcome.near other member).is_data
  · rw [List.length_append, writing.growable.front, List.length_cons, Nat.add_mul]
    omega
  · -- The bytes before the position.
    intro offset earlier
    rcases Nat.lt_or_ge (offset / fat.clusterSize) (startPos / fat.clusterSize) with before | same
    · have within := (nextWrite_parts positive largest
        (writing.growable.narrow positive largest)).within_first positive
          (firstWrite_parts smallest largest writing.some _ (Nat.mod_lt startPos positive)).1
          (firstWrite_parts smallest largest writing.some _ (Nat.mod_lt startPos positive)).2.1
          (firstWrite_parts smallest largest writing.some _ (Nat.mod_lt startPos positive)).2.2
      rw [← outcome.count, Nat.add_sub_cancel] at within
      exact outcome.front positive writing within before
    · have above : startPos / fat.clusterSize * fat.clusterSize ≤ offset :=
        (Nat.le_div_iff_mul_le positive).mp same
      obtain ⟨here, rfl⟩ := Nat.exists_eq_add_of_le above
      have small : here < startPos % fat.clusterSize := by omega
      have inside := Nat.mod_lt startPos positive
      have held : startPos / fat.clusterSize < (head :: rest).length := by
        refine Nat.lt_of_mul_lt_mul_right (a := fat.clusterSize) ?_
        have fileInside := writing.inside
        have holds := writing.holds
        omega
      have law := content_behind after positive
        ((head :: rest).take (startPos / fat.clusterSize)) (cluster :: grown) here
      rw [writing.growable.front] at law
      rw [law, first here (small.trans inside), if_neg fun both => absurd both.1 (by omega),
        outcome.first_old positive held (small.trans inside)]
  · -- The bytes written.
    intro offset small
    rw [Outcome.behind positive writing]
    rcases Nat.lt_or_ge (startPos % fat.clusterSize + offset) fat.clusterSize with here | behind
    · rw [first _ here, if_pos (by omega), Nat.add_sub_cancel_left]
    · obtain ⟨further, far⟩ := Nat.exists_eq_add_of_le behind
      rw [Nat.succ_mul] at most
      rw [far, later further (by omega) (by omega)]
      congr 1
      omega

/-- A write whose first part does not fit puts the bytes of its later parts too
far behind: the second cluster does not begin with the byte that belongs there. -/
theorem Outcome.misplaced (smallest : 512 ≤ fat.clusterSize) (largest : fat.clusterSize ≤ 32768)
    (writing : Writing env fat before (head :: rest) fileSize size startPos)
    (outcome : Outcome env fat before after (head :: rest) size startPos
      (fun i => if i = fat.clusterSize - startPos % fat.clusterSize then 1 else 0) cluster grown)
    (unfit : ¬ FirstPartFits fat size startPos) (new : List Nat) :
    ¬ Landed env fat before after (head :: rest) size startPos
      (fun i => if i = fat.clusterSize - startPos % fat.clusterSize then 1 else 0) new := by
  intro landed
  have positive : 0 < fat.clusterSize := Nat.lt_of_lt_of_le (by decide) smallest
  have inside := Nat.mod_lt startPos positive
  obtain ⟨longer, short⟩ := not_or.mp unfit
  obtain ⟨-, later⟩ := outcome.parts smallest largest writing
  obtain ⟨-, -, most⟩ := clustersMet_bounds (startPos % fat.clusterSize) positive writing.some
  have first := firstWrite_eq size smallest largest inside
  rw [Nat.min_eq_left (by omega)] at first
  rw [← outcome.count, Nat.succ_mul] at most
  rw [first] at later
  -- Both chains begin at the first cluster of the file.
  have begins : ((head :: rest).take (startPos / fat.clusterSize) ++ cluster :: grown).head? =
      some head := by
    have here := outcome.here
    cases position : startPos / fat.clusterSize with
    | zero =>
      rw [position] at here
      exact congrArg some here.symm
    | succ skip => rfl
  have same : new = (head :: rest).take (startPos / fat.clusterSize) ++ cluster :: grown := by
    obtain ⟨left, rfl⟩ := List.head?_eq_some_iff.mp landed.begins
    obtain ⟨right, shape⟩ := List.head?_eq_some_iff.mp begins
    have linked := outcome.regrown.chained
    rw [shape] at linked ⊢
    rw [landed.chain.unique linked]
  have stored := landed.stored (fat.clusterSize - startPos % fat.clusterSize) (by omega)
  have edge : startPos % fat.clusterSize + (fat.clusterSize - startPos % fat.clusterSize) =
      fat.clusterSize + 0 := by omega
  rw [same, Outcome.behind positive writing, edge, later 0 (by omega) (by omega), if_pos rfl,
    if_neg (by omega)] at stored
  exact absurd stored (by decide)

end Landing

end Outcomes

/-! ## When a write lands -/

section Main

variable {bootRecord : MasterBootRecord} {head : Nat} {rest : List Nat}
  {fileSize size startPos : Nat}

/-- A write in the domain returns 0 on a heap with room, and ends as `Outcome` says. -/
theorem Writing.returns (layout : Layout env fat) (quiet : env.Quiet) (fitting : env.Fitting)
    (roomy : env.Roomy) (smallest : 512 ≤ fat.clusterSize) (largest : fat.clusterSize ≤ 32768)
    (writing : Writing env fat world.bytes (head :: rest) fileSize size startPos)
    (input : Nat → UInt8) : ∃ after,
      (writeFatFile env fat ⟨head, fileSize⟩ size startPos input).run world = .ok (SUCCESS, after) ∧
      ∃ cluster grown, Outcome env fat world.bytes after.bytes (head :: rest) size startPos input
        cluster grown := by
  have outcome := (writing.outcome input layout quiet fitting smallest largest).mono_fault
    fun _ heap => heap.2 roomy
  obtain ⟨ret, after, ran, rfl, ended⟩ := outcome.returns
  exact ⟨after, ran, ended⟩

/-- A write whose first part does not fit does not land for every input. -/
theorem Writing.first_part_fits (layout : Layout env fat) (quiet : env.Quiet)
    (fitting : env.Fitting) (roomy : env.Roomy) (smallest : 512 ≤ fat.clusterSize)
    (largest : fat.clusterSize ≤ 32768)
    (writing : Writing env fat world.bytes (head :: rest) fileSize size startPos)
    (lands : ∀ input, Lands env fat world head rest fileSize size startPos input) :
    FirstPartFits fat size startPos := by
  by_contra unfit
  obtain ⟨after, ran, cluster, grown, outcome⟩ := writing.returns layout quiet fitting roomy
    smallest largest fun i => if i = fat.clusterSize - startPos % fat.clusterSize then 1 else 0
  obtain ⟨new, landed⟩ := lands _ after ran
  exact outcome.misplaced smallest largest writing unfit new landed

end Main

/-! ## A file of one cluster -/

/-- A small volume: 1936 clusters of one sector. -/
def sectorRecord : MasterBootRecord := ⟨512, 1, 32, 2, 2000, 16, 2⟩

/-- Its bytes with the two marks and a file that has the cluster 5. -/
def markedBytes : Nat → UInt8 :=
  putEntry (attachToDisk sectorRecord)
    (putEntry (attachToDisk sectorRecord)
      (putEntry (attachToDisk sectorRecord) (fun _ => 0) 0 0x0FFFFFF8) 1 FAT_ENTRY_USED) 5
    FAT_ENTRY_USED

theorem sectorRecord_formatted : Formatted (plainEnvironment 1024000) sectorRecord := by
  constructor <;> decide

/-- A write that the cluster of the file and one more have room for. -/
theorem writing_two_clusters (size : Nat) (some : 0 < size) (two : size ≤ 1024) :
    Writing (plainEnvironment 1024000) (attachToDisk sectorRecord) markedBytes [5] 0 size 0 := by
  have near (cluster : Nat) (member : cluster ∈ [2, 5]) :
      Near (plainEnvironment 1024000) (attachToDisk sectorRecord) cluster := by
    fin_cases member
    · exact ⟨⟨by decide, by decide, by decide, by decide⟩, by decide⟩
    · exact ⟨⟨by decide, by decide, by decide, by decide⟩, by decide⟩
  constructor
  · rw [chain_singleton, links, table_eq _ (by decide)]
    decide +kernel
  · exact List.nodup_singleton 5
  · exact fun cluster member => near cluster (List.mem_cons_of_mem _ member)
  · exact Nat.zero_le _
  · exact le_refl 0
  · exact some
  · intro entry mark
    interval_cases entry
    · decide +kernel
    · decide +kernel
  · refine ⟨{2}, ?_, ?_⟩
    · have met : clustersMet (attachToDisk sectorRecord) 0 size ≤ 2 := by
        have clusterSize : (attachToDisk sectorRecord).clusterSize = 512 := by decide
        rw [clustersMet, clusterSize]
        omega
      have inside : 0 / (attachToDisk sectorRecord).clusterSize < [5].length := by decide
      rw [Finset.card_singleton, if_pos inside, Nat.zero_mod]
      omega
    · intro cluster member
      rw [Finset.mem_singleton.mp member]
      refine ⟨near 2 List.mem_cons_self, ⟨by rw [Scanned]; decide, by decide⟩, .inl ?_⟩
      rw [table_eq _ (by decide)]
      decide +kernel

end BobaOS.Fat
