import BobaOS.Disk.DiskList

/-!
# The table of partitions

`checkMbrPartition` is given a sector of 512 bytes with four entries at `0x1BE`. It moves
the pointer to them by an entry in each round and indexes it by the round, so that it looks
at every second place: the first and the third entry, and two places at the end of the
sector and behind it. Here the loop is written once more with reads that end at the sector,
and compared with what the entries say.
-/

namespace BobaOS.Disks

open ByteStore Programs

/-- The size of the buffer. -/
def SECTOR_SIZE : Nat := 512

section Code

variable (disk : Nat) (sectorBuffer : Nat → UInt8)

/-- Bytes of the sector are read, and no others. -/
def readsInside (offset length : Nat) : M Unit := do
  if SECTOR_SIZE < offset + length then throw .outOfBounds

/-- `checkTables` with its reads: the flag of a table, and its start and length if that is
active and there is room in the list. -/
def checkTablesInside : List Nat → Nat → M Nat
  | [], count => return count
  | i :: rest, count => do
    readsInside (tableOffset i) 1
    if bootable sectorBuffer i = MBR_ACTIVE_FLAG then
      let globals ← get
      if BOBAOS_MAX_DISKS * BOBAOS_MAX_PARTITIONS_PER_DISK ≤ globals.currentPartition then
        return count
      readsInside (tableOffset i + 8) 4
      readsInside (tableOffset i + 12) 4
      set (registerPartition disk sectorBuffer i count globals)
      checkTablesInside rest (count + 1)
    else checkTablesInside rest count

def checkMbrPartitionInside : M Nat := do
  modify fun globals => { globals with scanned := globals.scanned ++ [sectorBuffer] }
  checkTablesInside disk sectorBuffer (List.range 4) 0

end Code

/-! ## What the entries say -/

section Entries

variable (sectorBuffer : Nat → UInt8)

/-- Where the i-th of the four entries is. -/
def entryOffset (i : Nat) : Nat := MBR_PARITION_TABLES_OFFSET + 16 * i

def Active (i : Nat) : Prop := sectorBuffer (entryOffset i) = MBR_ACTIVE_FLAG

instance (i : Nat) : Decidable (Active sectorBuffer i) := inferInstanceAs (Decidable (_ = _))

/-- The entries that are to be recorded. -/
def activeEntries : List Nat := (List.range 4).filter fun i => Active sectorBuffer i

/-- A partition record has the start and the length of the entry at an offset, in bytes
and as far as 32 bits hold them. -/
def Describes (offset : Nat) (partition : DiskPartition) : Prop :=
  partition.offsetBytes = readWord sectorBuffer (offset + 8) * 512 % 2 ^ 32 ∧
    partition.sizeBytes = readWord sectorBuffer (offset + 12) * 512 % 2 ^ 32

/-- The first partition records of a disk have what the entries at the offsets say, and
the others are as they were. -/
structure Recorded (disk : Nat) (before : Globals) (offsets : List Nat) (after : Globals) :
    Prop where
  described : ∀ k (inside : k < offsets.length),
    Describes sectorBuffer offsets[k] ((after.disks disk).partition k)
  others : ∀ k, offsets.length ≤ k →
    (after.disks disk).partition k = (before.disks disk).partition k

/-- The active entries are counted and recorded in their order, and nothing else is. -/
structure TableRead (disk : Nat) (before : Globals) (value : Nat) (after : Globals) : Prop where
  counted : value = (activeEntries sectorBuffer).length
  recorded : Recorded sectorBuffer disk before ((activeEntries sectorBuffer).map entryOffset) after

/-- The number of places left in the list of partitions. -/
def room (globals : Globals) : Nat :=
  BOBAOS_MAX_DISKS * BOBAOS_MAX_PARTITIONS_PER_DISK - globals.currentPartition

end Entries

variable {disk : Nat} {sectorBuffer : Nat → UInt8} {globals : Globals} {fault : Fault → Prop}

@[simp] theorem meets_readsInside {offset length : Nat} {post : Unit → Globals → Prop} :
    Meets (readsInside offset length) globals fault post ↔
      (SECTOR_SIZE < offset + length → fault .outOfBounds) ∧
        (offset + length ≤ SECTOR_SIZE → post ⟨⟩ globals) := by
  simp only [readsInside, meets_ite, meets_throw, meets_pure, Nat.not_lt]

/-- One round of the scan. -/
theorem meets_round {i count : Nat} {rest : List Nat} {post : Nat → Globals → Prop} :
    Meets (checkTablesInside disk sectorBuffer (i :: rest) count) globals fault post ↔
      (SECTOR_SIZE < tableOffset i + 1 → fault .outOfBounds) ∧
      (tableOffset i + 1 ≤ SECTOR_SIZE →
        (bootable sectorBuffer i = MBR_ACTIVE_FLAG →
          (room globals = 0 → post count globals) ∧
          (room globals ≠ 0 →
            (SECTOR_SIZE < tableOffset i + 16 → fault .outOfBounds) ∧
            (tableOffset i + 16 ≤ SECTOR_SIZE →
              Meets (checkTablesInside disk sectorBuffer rest (count + 1))
                (registerPartition disk sectorBuffer i count globals) fault post))) ∧
        (bootable sectorBuffer i ≠ MBR_ACTIVE_FLAG →
          Meets (checkTablesInside disk sectorBuffer rest count) globals fault post)) := by
  have full : BOBAOS_MAX_DISKS * BOBAOS_MAX_PARTITIONS_PER_DISK ≤ globals.currentPartition ↔
      room globals = 0 := by
    rw [room]
    omega
  simp only [checkTablesInside, meets_bind, meets_readsInside, meets_ite, meets_get, meets_pure,
    meets_set, full]
  refine and_congr_right fun _ => imp_congr_right fun _ => and_congr_left fun _ =>
    imp_congr_right fun _ => and_congr_right fun _ => imp_congr_right fun _ => ?_
  constructor
  · rintro ⟨early, late⟩
    refine ⟨fun beyond => ?_, fun inside => (late (by omega)).2 (by omega)⟩
    by_cases first : SECTOR_SIZE < tableOffset i + 8 + 4
    · exact early first
    · exact (late (by omega)).1 (by omega)
  · rintro ⟨beyond, inside⟩
    exact ⟨fun early => beyond (by omega), fun _ =>
      ⟨fun late => beyond (by omega), fun fits => inside (by omega)⟩⟩

/-- A scan that does not leave the sector does what the scan does. -/
theorem checkTables_of_inside {post : Nat → Globals → Prop} (tables : List Nat) :
    ∀ (count : Nat) (globals : Globals),
      Meets (checkTablesInside disk sectorBuffer tables count) globals (fun _ => False) post →
      Meets (checkTables disk sectorBuffer tables count) globals (fun _ => False) post := by
  induction tables with
  | nil => exact fun _ _ meets => meets
  | cons i rest ih =>
    intro count globals meets
    obtain ⟨inside, meets⟩ := meets_round.mp meets
    obtain ⟨active, inactive⟩ := meets (Nat.not_lt.mp inside)
    simp only [checkTables, meets_ite, meets_bind, meets_get, meets_pure, meets_set]
    refine ⟨fun flag => ⟨fun full => (active flag).1 ?_, fun more => ?_⟩, fun flag => ?_⟩
    · rw [room]
      omega
    · obtain ⟨beyond, onward⟩ := (active flag).2 (by rw [room]; omega)
      exact ih _ _ (onward (Nat.not_lt.mp beyond))
    · exact ih _ _ (inactive flag)

/-- So does the whole function. -/
theorem checkMbrPartition_of_inside {value : Nat} {after : Globals}
    (ran : (checkMbrPartitionInside disk sectorBuffer).run globals = .ok (value, after)) :
    (checkMbrPartition disk sectorBuffer).run globals = .ok (value, after) := by
  have inside : Meets (checkMbrPartitionInside disk sectorBuffer) globals (fun _ => False)
      fun found final => (found, final) = (value, after) := meets_of_run ran rfl
  rw [checkMbrPartitionInside, meets_bind, meets_modify] at inside
  have plain : Meets (checkMbrPartition disk sectorBuffer) globals (fun _ => False)
      fun found final => (found, final) = (value, after) := by
    rw [checkMbrPartition, meets_bind, meets_modify]
    exact checkTables_of_inside _ _ _ inside
  obtain ⟨found, final, returned, same⟩ := plain.returns
  rw [returned, same]

/-! ## When the table is read -/

/-- The number of entries with a flag, of those that the scan finds. -/
def foundActive (sectorBuffer : Nat → UInt8) : Nat :=
  (if Active sectorBuffer 0 then 1 else 0) + if Active sectorBuffer 2 then 1 else 0

theorem bootable_first : bootable sectorBuffer 0 = MBR_ACTIVE_FLAG ↔ Active sectorBuffer 0 := Iff.rfl
theorem bootable_second : bootable sectorBuffer 1 = MBR_ACTIVE_FLAG ↔ Active sectorBuffer 2 := Iff.rfl

@[simp] theorem room_register (i count : Nat) :
    room (registerPartition disk sectorBuffer i count globals) = room globals - 1 := by
  simp only [room, registerPartition]
  omega

/-- The number of active entries. -/
theorem length_activeEntries (sectorBuffer : Nat → UInt8) : (activeEntries sectorBuffer).length =
    foundActive sectorBuffer + (if Active sectorBuffer 1 then 1 else 0) +
      if Active sectorBuffer 3 then 1 else 0 := by
  have entries : List.range 4 = [0, 1, 2, 3] := rfl
  simp only [activeEntries, entries, List.filter_cons, List.filter_nil, foundActive]
  by_cases zeroth : Active sectorBuffer 0 <;> by_cases first : Active sectorBuffer 1 <;>
    by_cases second : Active sectorBuffer 2 <;> by_cases third : Active sectorBuffer 3 <;>
    simp [zeroth, first, second, third]

/-- A scan that stays in the sector returns in front of its last place, which lies behind
the sector: the list of partitions gets full, and a flag is found behind that. -/
theorem checkMbrPartitionInside_stops (disk : Nat) (sectorBuffer : Nat → UInt8)
    (globals : Globals) :
    Meets (checkMbrPartitionInside disk sectorBuffer) globals (fun _ => True) fun value _ =>
      value = room globals ∧
        room globals < foundActive sectorBuffer +
          if sectorBuffer 510 = MBR_ACTIVE_FLAG then 1 else 0 := by
  have tables : List.range 4 = [0, 1, 2, 3] := rfl
  have third : bootable sectorBuffer 2 = sectorBuffer 510 := rfl
  have kept (scanned : List (Nat → UInt8)) : room { globals with scanned } = room globals := rfl
  rw [checkMbrPartitionInside, meets_bind, meets_modify, tables]
  simp only [meets_round, ne_eq, bootable_first, bootable_second, third, room_register, kept]
  simp only [tableOffset, SECTOR_SIZE, MBR_PARITION_TABLES_OFFSET, foundActive]
  by_cases zeroth : Active sectorBuffer 0 <;> by_cases second : Active sectorBuffer 2 <;>
    by_cases behind : sectorBuffer 510 = MBR_ACTIVE_FLAG <;>
    simp only [zeroth, second, behind, if_true, if_false] <;> simp <;> omega

/-- One more table is recorded. -/
theorem Recorded.register {before : Globals} {offsets : List Nat}
    (recorded : Recorded sectorBuffer disk before offsets globals) (i : Nat) :
    Recorded sectorBuffer disk before (offsets ++ [tableOffset i])
      (registerPartition disk sectorBuffer i offsets.length globals) := by
  constructor
  · intro k inside
    simp only [List.length_append, List.length_singleton] at inside
    by_cases last : k = offsets.length
    · subst last
      simp [Describes, registerPartition]
    · have earlier : k < offsets.length := by omega
      rw [List.getElem_append_left earlier]
      simpa [registerPartition, last] using recorded.described k earlier
  · intro k behind
    simp only [List.length_append, List.length_singleton] at behind
    have later : k ≠ offsets.length := by omega
    simpa [registerPartition, later] using recorded.others k (by omega)

/-- Where it stops in front of that place, the entries found before are recorded. -/
theorem checkMbrPartitionInside_records (disk : Nat) (sectorBuffer : Nat → UInt8)
    (globals : Globals) (flagged : sectorBuffer 510 = MBR_ACTIVE_FLAG)
    (first : ¬ Active sectorBuffer 1) (third : ¬ Active sectorBuffer 3)
    (filled : room globals = foundActive sectorBuffer) :
    Meets (checkMbrPartitionInside disk sectorBuffer) globals (fun _ => False)
      (TableRead sectorBuffer disk globals) := by
  have tables : List.range 4 = [0, 1, 2, 3] := rfl
  have place : bootable sectorBuffer 2 = sectorBuffer 510 := rfl
  have kept (scanned : List (Nat → UInt8)) : room { globals with scanned } = room globals := rfl
  have start (scanned : List (Nat → UInt8)) :
      Recorded sectorBuffer disk globals [] { globals with scanned } :=
    ⟨fun _ impossible => absurd impossible (Nat.not_lt_zero _), fun _ _ => rfl⟩
  rw [checkMbrPartitionInside, meets_bind, meets_modify, tables]
  simp only [meets_round, ne_eq, bootable_first, bootable_second, place, room_register, kept]
  simp only [tableOffset, SECTOR_SIZE, MBR_PARITION_TABLES_OFFSET, foundActive] at filled ⊢
  by_cases zeroth : Active sectorBuffer 0 <;> by_cases second : Active sectorBuffer 2 <;>
    simp only [zeroth, second, if_true, if_false] at filled <;>
    simp [filled, flagged, zeroth, second]
  · have entries : activeEntries sectorBuffer = [0, 2] := by
      simp [activeEntries, tables, zeroth, first, second, third]
    exact ⟨by rw [entries]; rfl, by rw [entries]; exact ((start _).register 0).register 1⟩
  · have entries : activeEntries sectorBuffer = [0] := by
      simp [activeEntries, tables, zeroth, first, second, third]
    exact ⟨by rw [entries]; rfl, by rw [entries]; exact (start _).register 0⟩
  · have entries : activeEntries sectorBuffer = [2] := by
      simp [activeEntries, tables, zeroth, first, second, third]
    exact ⟨by rw [entries]; rfl, by rw [entries]; exact (start _).register 1⟩
  · have entries : activeEntries sectorBuffer = [] := by
      simp [activeEntries, tables, zeroth, first, second, third]
    exact ⟨by rw [entries]; rfl, by rw [entries]; exact start _⟩

/-- The active entries are read from the sector and recorded if and only if the list of
partitions gets full with the first and the third entry, as far as they are active, none of
the others is, and a flag at the end of the sector then ends the scan. -/
theorem table_read_iff (disk : Nat) (sectorBuffer : Nat → UInt8) (globals : Globals) :
    (∃ value after,
      (checkMbrPartition disk sectorBuffer).run globals = .ok (value, after) ∧
      (checkMbrPartitionInside disk sectorBuffer).run globals = .ok (value, after) ∧
      TableRead sectorBuffer disk globals value after) ↔
      sectorBuffer 510 = MBR_ACTIVE_FLAG ∧ ¬ Active sectorBuffer 1 ∧ ¬ Active sectorBuffer 3 ∧
        room globals = foundActive sectorBuffer := by
  constructor
  · rintro ⟨value, after, -, ran, counted, -⟩
    obtain ⟨rooms, stopped⟩ :=
      (checkMbrPartitionInside_stops disk sectorBuffer globals).returned ran
    rw [counted, length_activeEntries] at rooms
    by_cases first : Active sectorBuffer 1 <;> by_cases third : Active sectorBuffer 3 <;>
      by_cases flagged : sectorBuffer 510 = MBR_ACTIVE_FLAG <;>
      simp only [first, third, flagged, if_true, if_false] at rooms stopped <;> simp [*] <;> omega
  · rintro ⟨flagged, first, third, filled⟩
    obtain ⟨value, after, ran, read⟩ := (checkMbrPartitionInside_records disk sectorBuffer globals
      flagged first third filled).returns
    exact ⟨value, after, checkMbrPartition_of_inside ran, ran, read⟩

/-- A sector whose second entry is the only active one, with the signature at its end. -/
def secondActive (offset : Nat) : UInt8 :=
  if offset = entryOffset 1 then MBR_ACTIVE_FLAG
  else if offset = 510 then 0x55
  else if offset = 511 then 0xAA
  else 0

/-- The entry is not found, and the scan goes on behind the sector. -/
theorem second_entry_missed :
    ¬ ∀ (disk : Nat) (sectorBuffer : Nat → UInt8) (globals : Globals), ∃ value after,
      (checkMbrPartition disk sectorBuffer).run globals = .ok (value, after) ∧
      (checkMbrPartitionInside disk sectorBuffer).run globals = .ok (value, after) ∧
      TableRead sectorBuffer disk globals value after := by
  intro claim
  obtain ⟨value, after, ran, -, counted, -⟩ := claim 0 secondActive (boot 0)
  have missed : (((checkMbrPartition 0 secondActive).run (boot 0)).toOption.map
      fun result => result.1) = some 0 := by decide +kernel
  rw [ran] at missed
  have none_found : value = 0 := Option.some.inj missed
  have one_active : (activeEntries secondActive).length = 1 := by decide
  omega

end BobaOS.Disks
