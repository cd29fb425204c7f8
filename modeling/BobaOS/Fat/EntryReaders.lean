import BobaOS.Disk.PartitionStream
import BobaOS.Fat.TableLaws

/-!
# The two readers of the FAT

`getFatEntry` reads one entry and `getMultipleFatEntries` a range of them, each by a seek
and a read of its own. Here both run on a partition stream, which transfers whole sectors:
the reads begin in different sectors, at different places in them, and have different
lengths. Both come to the same entries, and these are the ones that the functions on a
cursor over the bytes of the volume give.
-/

namespace BobaOS.Fat

open ByteStore Programs Streams

namespace Streamed

section Code

variable (env : Streams.Environment) (fat : FatPrivate)

/-- `getFatEntry` on the read stream. -/
def getFatEntry (entry : Nat) (session : Session) : Code × Nat × Session :=
  let (errCode, stream) := partitionStreamSeek session.stream (entry * 4 + fat.fatAddress)
  if errCode < 0 then (errCode, asUInt32 errCode, ⟨stream, session.state⟩)
  else
    let (ret, outcome) := partitionStreamRead env stream (fun _ => 0) 4 session.state
    if outcome.code < 0 then
      (outcome.code, asUInt32 outcome.code, ⟨outcome.stream, outcome.state⟩)
    else (outcome.code, readWord ret 0 % 2 ^ 28, ⟨outcome.stream, outcome.state⟩)

/-- `getMultipleFatEntries` on the read stream. -/
def getMultipleFatEntries (start stop : Nat) (errCode : Code) (session : Session) :
    Code × Option (Nat → Nat) × Session :=
  let length := 4 * ((stop + 2 ^ 32 - start) % 2 ^ 32)
  let (allocated, state) := Streams.kzalloc env length session.state
  if allocated = false then (errCode, none, ⟨session.stream, state⟩)
  else
    let (errCode, stream) := partitionStreamSeek session.stream (start * 4 + fat.fatAddress)
    if errCode < 0 then (errCode, none, ⟨stream, state⟩)
    else
      let (ret, outcome) := partitionStreamRead env stream (fun _ => 0) length state
      if outcome.code < 0 then (outcome.code, none, ⟨outcome.stream, outcome.state⟩)
      else (outcome.code, some fun i => readWord ret (4 * i) % 2 ^ 28,
        ⟨outcome.stream, outcome.state⟩)

end Code

variable {env : Streams.Environment} {fat : FatPrivate} {partition : DiskPartition}
  {session : Session}

/-- The bytes of the volume on the disk. -/
def volumeBytes (partition : DiskPartition) (session : Session) : Nat → UInt8 :=
  slice session.state.bytes partition.offsetBytes

/-- The disk stream does not refuse a seek to the position. -/
def Seeks (session : Session) (position : Nat) : Prop :=
  ¬ (diskStreamSeek session.stream.diskStream
    ((session.stream.volumeOffset + position) % 2 ^ 64)).1 < 0

instance (session : Session) (position : Nat) : Decidable (Seeks session position) :=
  inferInstanceAs (Decidable (¬ _))

/-- A seek that is not refused is made inside the disk. -/
theorem Seeks.lands (on : OnPartition partition session)
    (inside : partition.offsetBytes + partition.sizeBytes ≤ partition.disk.sizeBytes)
    {position : Nat} (within : position < partition.sizeBytes) (seeks : Seeks session position) :
    Lands session (.seek position) := by
  intro _
  left
  rw [Seeks, on.address inside within] at seeks
  simp only [diskStreamSeek] at seeks
  split_ifs at seeks with checked beyond
  · exact absurd checked seeks
  · exact absurd (show -EDISKSPACE < 0 by decide) seeks
  · exact ⟨checkDiskStream_passed checked, Nat.not_lt.mp beyond⟩

/-- A seek that is not refused and a read inside the volume give the bytes of the volume at
the position, whatever sectors they are in, and leave the disk as it is. -/
theorem seek_then_read (reliable : env.Reliable) (on : OnPartition partition session)
    (inside : partition.offsetBytes + partition.sizeBytes ≤ partition.disk.sizeBytes)
    {position length : Nat} (some_bytes : 0 < length)
    (within : position + length ≤ partition.sizeBytes) (seeks : Seeks session position) :
    ∃ stream, partitionStreamSeek session.stream position = (SUCCESS, stream) ∧
      ∀ state out, (partitionStreamRead env stream out length state).2.code = SUCCESS ∧
        (partitionStreamRead env stream out length state).2.state.bytes = state.bytes ∧
        (partitionStreamRead env stream out length state).1 =
          overwrite out 0 length (slice state.bytes (partition.offsetBytes + position)) := by
  have before : position < partition.sizeBytes := by omega
  have allowed : position < session.stream.volumeSize := on.size ▸ before
  refine ⟨(session.next env (.seek position)).stream, ?_, fun state out => ?_⟩
  · simp only [Session.next, partitionStreamSeek, if_pos allowed]
  have sought : Together partition (session.next env (.seek position)) :=
    ⟨on.next reliable.exact _, (seek_coupled env on inside before).mpr
      (seeks.lands on inside before)⟩
  have there : (session.next env (.seek position)).stream.position = position := by
    simp only [Session.next, partitionStreamSeek, if_pos allowed]
  have together : Together partition ⟨(session.next env (.seek position)).stream, state⟩ :=
    ⟨⟨sought.offset, sought.size, sought.disk⟩, sought.coupled⟩
  obtain ⟨code, data⟩ := (together.transfer reliable inside (there.symm ▸ before)
    (there.symm ▸ within)).1 out
  dsimp only at code data
  rw [there] at data
  refine ⟨code, ?_, data⟩
  rcases partitionStreamRead_cases env (session.next env (.seek position)).stream out length state
    with refused | ⟨-, passed⟩
  · rw [refused]
  · rw [passed]
    exact (diskStreamRead_error env _ out length state).1

/-- The part of the volume that begins behind an address is a part of the disk. -/
theorem slice_volumeBytes (partition : DiskPartition) (session : Session) (address : Nat) :
    slice session.state.bytes (partition.offsetBytes + address) =
      slice (volumeBytes partition session) address := by
  funext offset
  simp only [volumeBytes, slice_apply, Nat.add_assoc]

/-- The words of what is read from an address are those of the volume behind it. -/
theorem readWord_read (bytes : Nat → UInt8) (address length i : Nat) (short : 4 * i + 4 ≤ length) :
    readWord (overwrite (fun _ => 0) 0 length (slice bytes address)) (4 * i) =
      readWord bytes (address + 4 * i) := by
  simp only [readWord]
  rw [overwrite_inside _ _ _ _ _ (by omega), overwrite_inside _ _ _ _ _ (by omega),
    overwrite_inside _ _ _ _ _ (by omega), overwrite_inside _ _ _ _ _ (by omega)]
  rfl

/-- The single reader gives the entry on the disk. -/
theorem getFatEntry_exact (reliable : env.Reliable) (on : OnPartition partition session)
    (inside : partition.offsetBytes + partition.sizeBytes ≤ partition.disk.sizeBytes)
    {entry : Nat} (within : fat.fatAddress + 4 * entry + 4 ≤ partition.sizeBytes)
    (seeks : Seeks session (entry * 4 + fat.fatAddress)) :
    ∃ after, getFatEntry env fat entry session =
        (SUCCESS, entryAt fat (volumeBytes partition session) entry, after) ∧
      after.state.bytes = session.state.bytes := by
  obtain ⟨stream, sought, reads⟩ := seek_then_read reliable on inside (by decide : 0 < 4)
    (by omega) seeks
  obtain ⟨code, kept, data⟩ := reads session.state fun _ => 0
  cases answered : partitionStreamRead env stream (fun _ => 0) 4 session.state with
  | mk read outcome =>
    rw [answered] at code kept data
    dsimp only at code kept data
    have word : readWord read 0 % 2 ^ 28 = entryAt fat (volumeBytes partition session) entry := by
      rw [data, slice_volumeBytes, entryAt, Nat.mul_comm entry, Nat.add_comm _ fat.fatAddress]
      exact congrArg (· % 2 ^ 28) (readWord_read _ _ 4 0 (by decide))
    refine ⟨⟨outcome.stream, outcome.state⟩, ?_, kept⟩
    simp only [getFatEntry, sought, answered, code]
    rw [if_neg (by decide), if_neg (by decide), word]

/-- The reader of a range gives the entries on the disk. -/
theorem getMultipleFatEntries_exact (reliable : env.Reliable)
    (on : OnPartition partition session)
    (inside : partition.offsetBytes + partition.sizeBytes ≤ partition.disk.sizeBytes)
    {start stop : Nat} (range : start < stop) (narrow : stop < 2 ^ 32)
    (within : fat.fatAddress + 4 * stop ≤ partition.sizeBytes)
    (seeks : Seeks session (start * 4 + fat.fatAddress)) (errCode : Code) :
    ∃ entries after, getMultipleFatEntries env fat start stop errCode session =
        (SUCCESS, some entries, after) ∧
      after.state.bytes = session.state.bytes ∧
      ∀ i < stop - start,
        entries i = entryAt fat (volumeBytes partition session) (start + i) := by
  have length : 4 * ((stop + 2 ^ 32 - start) % 2 ^ 32) = 4 * (stop - start) := by omega
  obtain ⟨stream, sought, reads⟩ := seek_then_read reliable on inside
    (show 0 < 4 * (stop - start) by omega) (by omega) seeks
  have room : (Streams.kzalloc env (4 * (stop - start)) session.state).1 = true :=
    reliable.kzalloc _ _
  obtain ⟨code, kept, data⟩ :=
    reads (Streams.kzalloc env (4 * (stop - start)) session.state).2 fun _ => 0
  cases answered : partitionStreamRead env stream (fun _ => 0) (4 * (stop - start))
      (Streams.kzalloc env (4 * (stop - start)) session.state).2 with
  | mk read outcome =>
    rw [answered] at code kept data
    dsimp only at code kept data
    refine ⟨fun i => readWord read (4 * i) % 2 ^ 28, ⟨outcome.stream, outcome.state⟩, ?_, kept,
      fun i small => ?_⟩
    · rw [getMultipleFatEntries, length]
      simp only [room, sought, answered, code]
      rw [if_neg (by decide), if_neg (by decide), if_neg (by decide)]
    · dsimp only
      rw [data, kzalloc_bytes, slice_volumeBytes, readWord_read _ _ _ _ (by omega), entryAt]
      congr 2
      omega

/-- The function on a cursor over the bytes of the volume gives the same entry. -/
theorem getFatEntry_cursor (reliable : env.Reliable) (on : OnPartition partition session)
    (inside : partition.offsetBytes + partition.sizeBytes ≤ partition.disk.sizeBytes)
    {entry : Nat} (within : fat.fatAddress + 4 * entry + 4 ≤ partition.sizeBytes)
    (seeks : Seeks session (entry * 4 + fat.fatAddress)) {cursor : Environment} {world : World}
    (quiet : cursor.Quiet) (size : cursor.volumeSize = partition.sizeBytes)
    (shown : world.bytes = volumeBytes partition session) (first : fat.fatAddress < 2 ^ 32)
    (small : entry < 2 ^ 32) {fault : Fault → Prop} :
    Meets (Fat.getFatEntry cursor fat entry) world fault fun result after =>
      result.2 = (getFatEntry env fat entry session).2.1 ∧ after.bytes = world.bytes := by
  obtain ⟨final, read, -⟩ := getFatEntry_exact reliable on inside within seeks
  apply (getFatEntry_cases first small).mono
  rintro result after ⟨kept, ⟨beyond | failed, -⟩ | ⟨-, -, value, -⟩⟩
  · omega
  · rw [quiet] at failed
    exact absurd failed (by decide)
  · rw [read, value, shown]
    exact ⟨rfl, kept.trans shown⟩

/-- The second to fifth sector of a disk of five, and a volume in them. -/
def fourSectors : DiskPartition := ⟨512, 2048, ⟨2560, by decide, by decide⟩⟩

def fourSectorRecord : MasterBootRecord := ⟨512, 1, 1, 2, 4, 1, 2⟩

/-- A stream on it, right after it was created. -/
def fourSectorSession : Session := ⟨partitionStreamCreate fourSectors 0, ⟨fun _ => 7, 0⟩⟩

end Streamed

end BobaOS.Fat
