import Mathlib.Tactic.SplitIfs
import BobaOS.Library.ByteStore
import BobaOS.Status

/-!
# Disk streams

`stream.c`: a cursor over a disk that is read and written by whole sectors. A
write that begins or ends inside a sector first fetches that sector, so that the
bytes around the written ones go back as they were.

The disk driver and the kernel heap are parameters. Each call to either of them
is numbered, so that the answers may differ from call to call, and either may
fail. Streams are values here: a NULL stream has no counterpart, and a buffer is
released where it goes out of scope.
-/

namespace BobaOS.Streams

open ByteStore

/-- A disk has a whole number of sectors, and its bytes are counted in 64 bits. -/
structure Disk where
  sizeBytes : Nat
  whole : 512 ∣ sizeBytes
  small : sizeBytes < 2 ^ 64

structure DiskStream where
  disk : Disk
  position : Nat

/-- The bytes of the disk and the number of calls made to driver and heap. -/
structure State where
  bytes : Nat → UInt8
  calls : Nat

/-- What the driver and the heap answer at each call. The driver's operations
take the bytes of the disk, the first sector and the number of sectors; reading
gives the bytes transferred and writing the bytes of the disk afterwards. -/
structure Environment where
  read : Nat → (Nat → UInt8) → Nat → Nat → Code × (Nat → UInt8)
  write : Nat → (Nat → UInt8) → Nat → Nat → (Nat → UInt8) → Code × (Nat → UInt8)
  kzalloc : Nat → Nat → Bool

/-- A driver that returns zero or a negative code, and has transferred exactly
the sectors asked for when it returns zero. -/
structure Environment.Exact (env : Environment) : Prop where
  read_code : ∀ call bytes lba total, (env.read call bytes lba total).1 ≤ 0
  read_data : ∀ call bytes lba total, (env.read call bytes lba total).1 = 0 →
    ∀ offset < total * 512, (env.read call bytes lba total).2 offset = bytes (lba * 512 + offset)
  write_code : ∀ call bytes lba total buffer, (env.write call bytes lba total buffer).1 ≤ 0
  write_data : ∀ call bytes lba total buffer, (env.write call bytes lba total buffer).1 = 0 →
    (env.write call bytes lba total buffer).2 = overwrite bytes (lba * 512) (total * 512) buffer

/-- A driver and a heap that do not fail. -/
structure Environment.Reliable (env : Environment) : Prop where
  exact : env.Exact
  read : ∀ call bytes lba total, (env.read call bytes lba total).1 = 0
  write : ∀ call bytes lba total buffer, (env.write call bytes lba total buffer).1 = 0
  kzalloc : ∀ call size, env.kzalloc call size = true

/-- What a function returns, and the stream and the machine it leaves. -/
structure Outcome where
  code : Code
  stream : DiskStream
  state : State

section Code

variable (env : Environment)

/-- The driver's `read` into a buffer. -/
def driverRead (lba total : Nat) (buffer : Nat → UInt8) (state : State) :
    Code × (Nat → UInt8) × State :=
  let answer := env.read state.calls state.bytes lba total
  (answer.1, overwrite buffer 0 (total * 512) answer.2, { state with calls := state.calls + 1 })

/-- The driver's `write` from a buffer. -/
def driverWrite (lba total : Nat) (buffer : Nat → UInt8) (state : State) : Code × State :=
  let answer := env.write state.calls state.bytes lba total buffer
  (answer.1, ⟨answer.2, state.calls + 1⟩)

/-- Whether the heap has a buffer of the size, which it hands out zeroed. -/
def kzalloc (size : Nat) (state : State) : Bool × State :=
  (env.kzalloc state.calls (size % 2 ^ 64), { state with calls := state.calls + 1 })

def checkDiskStream (stream : DiskStream) : Code :=
  if stream.disk.sizeBytes ≤ stream.position then -ENMEM else 0

def diskStreamSeek (stream : DiskStream) (position : Nat) : Code × DiskStream :=
  let ret := checkDiskStream stream
  if ret < 0 then (ret, stream)
  else if (stream.disk.sizeBytes * 512) % 2 ^ 64 < position then (-EDISKSPACE, stream)
  else (ret, { stream with position })

/-- The number of sectors that hold `length` bytes from `currLbaPos` on. -/
def totalLba (currLbaPos length : Nat) : Nat :=
  let span := (currLbaPos + length) % 2 ^ 64
  if span % 512 > 0 then span / 512 + 1 else span / 512

/-- The buffer `out` keeps its bytes behind the ones read. -/
def diskStreamRead (stream : DiskStream) (out : Nat → UInt8) (length : Nat) (state : State) :
    (Nat → UInt8) × Outcome :=
  let ret := checkDiskStream stream
  if ret < 0 then (out, ⟨ret, stream, state⟩)
  else if stream.disk.sizeBytes < (stream.position + length) % 2 ^ 64 then
    (out, ⟨-ENMEM, stream, state⟩)
  else
    let currLba := stream.position / 512
    let currLbaPos := stream.position % 512
    let total := totalLba currLbaPos length
    let (allocated, state) := kzalloc env (total * 512) state
    if allocated = false then (out, ⟨-ENMEM, stream, state⟩)
    else
      let (ret, buffer, state) := driverRead env currLba total (fun _ => 0) state
      if ret < 0 then (out, ⟨ret, stream, state⟩)
      else
        (overwrite out 0 length (slice buffer currLbaPos),
          ⟨ret, { stream with position := (stream.position + length) % 2 ^ 64 }, state⟩)

/-- The zeroed buffer of a write, with the first sector fetched if the write
begins inside it. -/
def fetchFirst (currLba currLbaPos : Nat) (state : State) : Code × (Nat → UInt8) × State :=
  if currLbaPos > 0 then driverRead env currLba 1 (fun _ => 0) state
  else (0, fun _ => 0, state)

/-- The end of the last sector, fetched if the write ends inside it, goes behind
the bytes to write. -/
def fetchLast (currLba currLbaPos length : Nat) (buffer : Nat → UInt8) (state : State) :
    Code × (Nat → UInt8) × State :=
  let total := totalLba currLbaPos length
  let lastBlockOffset := (currLbaPos + length) % 2 ^ 64 % 512
  if lastBlockOffset ≠ 0 then
    let (ret, buff, state) := driverRead env (currLba + total - 1) 1 (fun _ => 0) state
    if ret < 0 then (ret, buffer, state)
    else
      (ret, overwrite buffer ((total - 1) * 512 + lastBlockOffset) (512 - lastBlockOffset)
        (slice buff lastBlockOffset), state)
  else (0, buffer, state)

def diskStreamWrite (stream : DiskStream) (input : Nat → UInt8) (length : Nat) (state : State) :
    Outcome :=
  let ret := checkDiskStream stream
  if ret < 0 then ⟨ret, stream, state⟩
  else if stream.disk.sizeBytes < (stream.position + length) % 2 ^ 64 then ⟨-ENMEM, stream, state⟩
  else
    let currLba := stream.position / 512
    let currLbaPos := stream.position % 512
    let total := totalLba currLbaPos length
    let (allocated, state) := kzalloc env (total * 512) state
    if allocated = false then ⟨-ENMEM, stream, state⟩
    else
      let (ret, buffer, state) := fetchFirst env currLba currLbaPos state
      if ret < 0 then ⟨ret, stream, state⟩
      else
        let buffer := overwrite buffer currLbaPos length input
        let (ret, buffer, state) := fetchLast env currLba currLbaPos length buffer state
        if ret < 0 then ⟨ret, stream, state⟩
        else
          let (ret, state) := driverWrite env currLba total buffer state
          if ret < 0 then ⟨ret, stream, state⟩
          else ⟨ret, { stream with position := (stream.position + length) % 2 ^ 64 }, state⟩

end Code

/-! ## A cursor over flat bytes -/

/-- What a stream is for: bytes and a position among them. -/
structure Cursor where
  bytes : Nat → UInt8
  position : Nat

/-- The bytes from the position on, and the cursor behind them. -/
def Cursor.read (cursor : Cursor) (length : Nat) : (Nat → UInt8) × Cursor :=
  (slice cursor.bytes cursor.position, { cursor with position := cursor.position + length })

/-- Replace the bytes from the position on. -/
def Cursor.write (cursor : Cursor) (values : Nat → UInt8) (length : Nat) : Cursor :=
  ⟨overwrite cursor.bytes cursor.position length values, cursor.position + length⟩

/-- The cursor that a stream and a machine show. -/
def cursor (stream : DiskStream) (state : State) : Cursor := ⟨state.bytes, stream.position⟩

variable {env : Environment}

/-- The sectors of a transfer cover it, the last one not in vain, and their size
fits in 64 bits; so every copy stays inside the buffer. -/
theorem transfer_fits (stream : DiskStream) (length : Nat)
    (inside : stream.position + length ≤ stream.disk.sizeBytes) :
    stream.position % 512 + length ≤ totalLba (stream.position % 512) length * 512 ∧
      totalLba (stream.position % 512) length * 512 < stream.position % 512 + length + 512 ∧
      stream.position / 512 * 512 + totalLba (stream.position % 512) length * 512 ≤
        stream.disk.sizeBytes ∧
      (stream.position % 512 + length) % 2 ^ 64 = stream.position % 512 + length := by
  obtain ⟨sectors, size⟩ := stream.disk.whole
  have small := stream.disk.small
  have same : (stream.position % 512 + length) % 2 ^ 64 = stream.position % 512 + length :=
    Nat.mod_eq_of_lt (by omega)
  have position := Nat.div_add_mod stream.position 512
  have span := Nat.div_add_mod (stream.position % 512 + length) 512
  have within : stream.position % 512 + length + stream.position / 512 * 512 ≤ 512 * sectors := by
    omega
  simp only [totalLba, same]
  split
  · have whole : stream.position / 512 + (stream.position % 512 + length) / 512 < sectors := by
      omega
    refine ⟨?_, ?_, ?_, trivial⟩ <;> omega
  · refine ⟨?_, ?_, ?_, trivial⟩ <;> omega

/-- An exact read fills the buffer with the sectors and leaves the disk alone. -/
theorem driverRead_exact (exact : env.Exact) (lba total : Nat) (buffer : Nat → UInt8)
    (state : State) (succeeded : ¬ (driverRead env lba total buffer state).1 < 0) :
    (driverRead env lba total buffer state).1 = 0 ∧
      ∀ offset < total * 512, (driverRead env lba total buffer state).2.1 offset =
        state.bytes (lba * 512 + offset) := by
  have bounded : (driverRead env lba total buffer state).1 ≤ 0 := exact.read_code _ _ _ _
  have zero : (driverRead env lba total buffer state).1 = 0 :=
    Int.le_antisymm bounded (Int.not_lt.mp succeeded)
  refine ⟨zero, fun offset inside => ?_⟩
  have within : 0 ≤ offset ∧ offset < 0 + total * 512 := ⟨Nat.zero_le _, by rwa [Nat.zero_add]⟩
  simp only [driverRead]
  rw [overwrite_inside _ _ _ _ _ within, Nat.sub_zero]
  exact exact.read_data _ _ _ _ zero offset inside

/-- Reading sectors never changes the disk. -/
@[simp] theorem driverRead_bytes (lba total : Nat) (buffer : Nat → UInt8) (state : State) :
    (driverRead env lba total buffer state).2.2.bytes = state.bytes := rfl

@[simp] theorem kzalloc_bytes (size : Nat) (state : State) :
    (kzalloc env size state).2.bytes = state.bytes := rfl

@[simp] theorem fetchFirst_bytes (currLba currLbaPos : Nat) (state : State) :
    (fetchFirst env currLba currLbaPos state).2.2.bytes = state.bytes := by
  rw [fetchFirst]
  split <;> rfl

@[simp] theorem fetchLast_bytes (currLba currLbaPos length : Nat) (buffer : Nat → UInt8)
    (state : State) :
    (fetchLast env currLba currLbaPos length buffer state).2.2.bytes = state.bytes := by
  simp only [fetchLast]
  split_ifs <;> rfl

theorem full_negative : -ENMEM < 0 := by decide

/-- A stream in range passes its check. -/
theorem checkDiskStream_inside (stream : DiskStream)
    (inside : stream.position < stream.disk.sizeBytes) : checkDiskStream stream = 0 := by
  rw [checkDiskStream, if_neg (by omega)]

/-- And one that passes is in range. -/
theorem checkDiskStream_passed {stream : DiskStream} (checked : ¬ checkDiskStream stream < 0) :
    stream.position < stream.disk.sizeBytes := by
  rw [checkDiskStream] at checked
  split at checked
  · exact absurd full_negative checked
  · omega

/-- Where the end of a transfer is in range, its sum does not wrap. -/
theorem end_inside (stream : DiskStream) {length : Nat}
    (inside : stream.position + length ≤ stream.disk.sizeBytes) :
    ¬ stream.disk.sizeBytes < (stream.position + length) % 2 ^ 64 := by
  have small := stream.disk.small
  rw [Nat.mod_eq_of_lt (by omega)]
  omega

/-- A read that reports an error changed nothing, and no read changes the disk. -/
theorem diskStreamRead_error (env : Environment) (stream : DiskStream) (out : Nat → UInt8)
    (length : Nat) (state : State) :
    (diskStreamRead env stream out length state).2.state.bytes = state.bytes ∧
      ((diskStreamRead env stream out length state).2.code < 0 →
        (diskStreamRead env stream out length state).1 = out ∧
          (diskStreamRead env stream out length state).2.stream = stream) := by
  simp only [diskStreamRead]
  split_ifs with checked beyond full failed
  · exact ⟨rfl, fun _ => ⟨rfl, rfl⟩⟩
  · exact ⟨rfl, fun _ => ⟨rfl, rfl⟩⟩
  · exact ⟨rfl, fun _ => ⟨rfl, rfl⟩⟩
  · exact ⟨rfl, fun _ => ⟨rfl, rfl⟩⟩
  · exact ⟨rfl, fun negative => absurd negative failed⟩

/-- A read that does not report an error was in range of the disk, and it gives
the bytes at the position and moves behind them. -/
theorem diskStreamRead_success (exact : env.Exact) (stream : DiskStream) (out : Nat → UInt8)
    (length : Nat) (state : State) (range : stream.position + length < 2 ^ 64)
    (succeeded : ¬ (diskStreamRead env stream out length state).2.code < 0) :
    stream.position < stream.disk.sizeBytes ∧
      stream.position + length ≤ stream.disk.sizeBytes ∧
      (diskStreamRead env stream out length state).2.code = SUCCESS ∧
      (diskStreamRead env stream out length state).1 =
        overwrite out 0 length (slice state.bytes stream.position) ∧
      (diskStreamRead env stream out length state).2.stream =
        { stream with position := stream.position + length } := by
  have noWrap : (stream.position + length) % 2 ^ 64 = stream.position + length :=
    Nat.mod_eq_of_lt range
  revert succeeded
  simp only [diskStreamRead, noWrap]
  split_ifs with checked beyond full failed
  · exact fun succeeded => absurd checked succeeded
  · exact fun succeeded => absurd full_negative succeeded
  · exact fun succeeded => absurd full_negative succeeded
  · exact fun succeeded => absurd failed succeeded
  intro _
  have before := checkDiskStream_passed checked
  have inside : stream.position + length ≤ stream.disk.sizeBytes := by omega
  obtain ⟨covered, _⟩ := transfer_fits stream length inside
  obtain ⟨zero, data⟩ := driverRead_exact exact _ _ _ _ failed
  refine ⟨before, inside, zero, overwrite_congr _ _ _ _ _ ?_, rfl⟩
  intro offset short
  rw [slice_apply, data _ (by omega), slice_apply, kzalloc_bytes]
  congr 1
  omega

/-- The first sector is as it was before the write's offset. -/
theorem fetchFirst_exact (exact : env.Exact) (currLba currLbaPos : Nat) (state : State)
    (within : currLbaPos < 512)
    (succeeded : ¬ (fetchFirst env currLba currLbaPos state).1 < 0) :
    ∀ offset < currLbaPos, (fetchFirst env currLba currLbaPos state).2.1 offset =
      state.bytes (currLba * 512 + offset) := by
  intro offset before
  have inside : currLbaPos > 0 := by omega
  rw [fetchFirst, if_pos inside] at succeeded ⊢
  exact (driverRead_exact exact currLba 1 _ state succeeded).2 offset (by omega)

/-- Behind the bytes to write, the last sector is as it was; before it the buffer
is as given. -/
theorem fetchLast_exact (exact : env.Exact) (currLba currLbaPos length : Nat)
    (buffer : Nat → UInt8) (state : State) (fits : currLbaPos + length < 2 ^ 64)
    (succeeded : ¬ (fetchLast env currLba currLbaPos length buffer state).1 < 0) :
    (∀ offset < currLbaPos + length,
      (fetchLast env currLba currLbaPos length buffer state).2.1 offset = buffer offset) ∧
    ∀ offset, currLbaPos + length ≤ offset → offset < totalLba currLbaPos length * 512 →
      (fetchLast env currLba currLbaPos length buffer state).2.1 offset =
        state.bytes (currLba * 512 + offset) := by
  have same : (currLbaPos + length) % 2 ^ 64 = currLbaPos + length := Nat.mod_eq_of_lt fits
  have span := Nat.div_add_mod (currLbaPos + length) 512
  simp only [fetchLast, same] at succeeded ⊢
  by_cases aligned : (currLbaPos + length) % 512 = 0
  · -- The write ends with its last sector, so nothing is behind it.
    have total : totalLba currLbaPos length = (currLbaPos + length) / 512 := by
      simp only [totalLba, same]
      rw [if_neg (by omega)]
    simp only [if_neg (not_not.mpr aligned)]
    refine ⟨fun _ _ => trivial, fun offset behind before => ?_⟩
    rw [total] at before
    omega
  · have total : totalLba currLbaPos length = (currLbaPos + length) / 512 + 1 := by
      simp only [totalLba, same]
      rw [if_pos (by omega)]
    simp only [if_pos aligned] at succeeded ⊢
    split_ifs at succeeded ⊢ with failed
    · exact absurd failed succeeded
    have data := (driverRead_exact exact _ 1 (fun _ => 0) state failed).2
    simp only [total, Nat.add_sub_cancel]
    have start : (currLbaPos + length) / 512 * 512 + (currLbaPos + length) % 512 =
        currLbaPos + length := by omega
    rw [start]
    constructor
    · intro offset before
      exact overwrite_outside _ _ _ _ _ (.inl before)
    · intro offset behind before
      obtain ⟨extra, rfl⟩ := Nat.exists_eq_add_of_le behind
      have within : currLbaPos + length + extra <
          currLbaPos + length + (512 - (currLbaPos + length) % 512) := by omega
      have sector : (currLbaPos + length) % 512 + extra < 1 * 512 := by omega
      have address : (currLba + (currLbaPos + length) / 512) * 512 +
          ((currLbaPos + length) % 512 + extra) = currLba * 512 + (currLbaPos + length + extra) := by
        rw [Nat.add_mul, Nat.add_assoc, ← Nat.add_assoc (_ * 512) _ extra, start]
      rw [overwrite_inside _ _ _ _ _ ⟨behind, within⟩, slice_apply]
      rw [total, ← Nat.add_assoc, Nat.add_sub_cancel] at data
      rw [← Nat.add_assoc, Nat.add_sub_cancel, Nat.add_sub_cancel_left, data _ sector, address]

/-- The driver's write answers for the bytes the disk has when it is called. -/
theorem driverWrite_answer (lba total : Nat) (buffer : Nat → UInt8) (state : State)
    (bytes : Nat → UInt8) (same : state.bytes = bytes) :
    ∃ call lba' total' buffer', env.write call bytes lba' total' buffer' =
      ((driverWrite env lba total buffer state).1,
        (driverWrite env lba total buffer state).2.bytes) := by
  subst same
  exact ⟨state.calls, lba, total, buffer, rfl⟩

/-- Writing back sectors that differ from the disk in the given range only
replaces that range. -/
theorem driverWrite_exact (exact : env.Exact) (position length total : Nat)
    (buffer input : Nat → UInt8) (state : State)
    (covered : position % 512 + length ≤ total * 512)
    (inside : ∀ offset < length, buffer (position % 512 + offset) = input offset)
    (kept : ∀ offset < total * 512, offset < position % 512 ∨ position % 512 + length ≤ offset →
      buffer offset = state.bytes (position / 512 * 512 + offset))
    (succeeded : ¬ (driverWrite env (position / 512) total buffer state).1 < 0) :
    (driverWrite env (position / 512) total buffer state).1 = 0 ∧
      (driverWrite env (position / 512) total buffer state).2.bytes =
        overwrite state.bytes position length input := by
  have start := Nat.div_add_mod' position 512
  have bounded : (driverWrite env (position / 512) total buffer state).1 ≤ 0 :=
    exact.write_code _ _ _ _ _
  have zero : (driverWrite env (position / 512) total buffer state).1 = 0 :=
    Int.le_antisymm bounded (Int.not_lt.mp succeeded)
  refine ⟨zero, (exact.write_data _ _ _ _ _ zero).trans ?_⟩
  funext tested
  by_cases sector : position / 512 * 512 ≤ tested ∧ tested < position / 512 * 512 + total * 512
  · obtain ⟨offset, rfl⟩ := Nat.exists_eq_add_of_le sector.1
    rw [overwrite_inside _ _ _ _ _ sector, Nat.add_sub_cancel_left]
    by_cases range : position % 512 ≤ offset ∧ offset < position % 512 + length
    · obtain ⟨further, rfl⟩ := Nat.exists_eq_add_of_le range.1
      rw [← Nat.add_assoc, start, overwrite_inside _ _ _ _ _ (by omega), Nat.add_sub_cancel_left]
      exact inside further (by omega)
    · rw [overwrite_outside _ _ _ _ _ (by omega)]
      exact kept offset (by omega) (by omega)
  · rw [overwrite_outside _ _ _ _ _ (by omega), overwrite_outside _ _ _ _ _ (by omega)]

/-- A write that reports an error left the stream alone, and the disk too unless
it was the driver's write that failed. -/
theorem diskStreamWrite_error (stream : DiskStream) (input : Nat → UInt8) (length : Nat)
    (state : State) (failed : (diskStreamWrite env stream input length state).code < 0) :
    (diskStreamWrite env stream input length state).stream = stream ∧
      ((diskStreamWrite env stream input length state).state.bytes = state.bytes ∨
        ∃ call lba total buffer, env.write call state.bytes lba total buffer =
          ((diskStreamWrite env stream input length state).code,
            (diskStreamWrite env stream input length state).state.bytes)) := by
  revert failed
  simp only [diskStreamWrite]
  split_ifs with checked beyond full first last written
  · exact fun _ => ⟨rfl, .inl rfl⟩
  · exact fun _ => ⟨rfl, .inl rfl⟩
  · exact fun _ => ⟨rfl, .inl rfl⟩
  · refine fun _ => ⟨rfl, .inl ?_⟩
    rw [fetchFirst_bytes, kzalloc_bytes]
  · refine fun _ => ⟨rfl, .inl ?_⟩
    rw [fetchLast_bytes, fetchFirst_bytes, kzalloc_bytes]
  · refine fun _ => ⟨rfl, .inr (driverWrite_answer _ _ _ _ _ ?_)⟩
    rw [fetchLast_bytes, fetchFirst_bytes, kzalloc_bytes]
  · exact fun negative => absurd negative written

/-- A write that does not report an error was in range of the disk; it replaces
the bytes at the position, no other byte, and moves behind them. -/
theorem diskStreamWrite_success (exact : env.Exact) (stream : DiskStream) (input : Nat → UInt8)
    (length : Nat) (state : State) (range : stream.position + length < 2 ^ 64)
    (succeeded : ¬ (diskStreamWrite env stream input length state).code < 0) :
    stream.position < stream.disk.sizeBytes ∧
      stream.position + length ≤ stream.disk.sizeBytes ∧
      (diskStreamWrite env stream input length state).code = SUCCESS ∧
      (diskStreamWrite env stream input length state).state.bytes =
        overwrite state.bytes stream.position length input ∧
      (diskStreamWrite env stream input length state).stream =
        { stream with position := stream.position + length } := by
  have noWrap : (stream.position + length) % 2 ^ 64 = stream.position + length :=
    Nat.mod_eq_of_lt range
  revert succeeded
  simp only [diskStreamWrite, noWrap]
  split_ifs with checked beyond full first last written
  · exact fun succeeded => absurd checked succeeded
  · exact fun succeeded => absurd full_negative succeeded
  · exact fun succeeded => absurd full_negative succeeded
  · exact fun succeeded => absurd first succeeded
  · exact fun succeeded => absurd last succeeded
  · exact fun succeeded => absurd written succeeded
  intro _
  have before := checkDiskStream_passed checked
  have inside : stream.position + length ≤ stream.disk.sizeBytes := by omega
  obtain ⟨covered, _, _, fits⟩ := transfer_fits stream length inside
  have short : stream.position % 512 + length < 2 ^ 64 := by
    rw [← fits]
    exact Nat.mod_lt _ (by decide)
  have front := fetchFirst_exact exact _ _ _ (Nat.mod_lt _ (by decide)) first
  obtain ⟨given, behind⟩ := fetchLast_exact exact _ _ _ _ _ short last
  rw [fetchFirst_bytes, kzalloc_bytes] at behind
  rw [kzalloc_bytes] at front
  have result := driverWrite_exact exact stream.position length _ _ input _ covered ?_ ?_ written
  · rw [fetchLast_bytes, fetchFirst_bytes, kzalloc_bytes] at result
    exact ⟨before, inside, result.1, result.2, rfl⟩
  · intro offset within
    rw [given _ (by omega), overwrite_inside _ _ _ _ _ (by omega), Nat.add_sub_cancel_left]
  · rintro offset within (ahead | after)
    · rw [given _ (by omega), overwrite_outside _ _ _ _ _ (.inl ahead), front _ ahead,
        fetchLast_bytes, fetchFirst_bytes, kzalloc_bytes]
    · rw [behind _ after within, fetchLast_bytes, fetchFirst_bytes, kzalloc_bytes]

theorem zero_not_negative {code : Code} (zero : code = 0) : ¬ code < 0 := by
  rw [zero]
  decide

/-- With a driver and a heap that do not fail, a read in range does not fail. -/
theorem diskStreamRead_reliable (reliable : env.Reliable) (stream : DiskStream)
    (out : Nat → UInt8) (length : Nat) (state : State)
    (before : stream.position < stream.disk.sizeBytes)
    (inside : stream.position + length ≤ stream.disk.sizeBytes) :
    ¬ (diskStreamRead env stream out length state).2.code < 0 := by
  have checked : ¬ checkDiskStream stream < 0 :=
    zero_not_negative (checkDiskStream_inside stream before)
  have range := end_inside stream inside
  simp only [diskStreamRead, if_neg checked, if_neg range]
  split_ifs with full failed
  · exact absurd ((reliable.kzalloc _ _).symm.trans full) (by decide)
  · exact absurd failed (zero_not_negative (reliable.read _ _ _ _))
  · exact failed

/-- Nor does a write in range. -/
theorem diskStreamWrite_reliable (reliable : env.Reliable) (stream : DiskStream)
    (input : Nat → UInt8) (length : Nat) (state : State)
    (before : stream.position < stream.disk.sizeBytes)
    (inside : stream.position + length ≤ stream.disk.sizeBytes) :
    ¬ (diskStreamWrite env stream input length state).code < 0 := by
  have checked : ¬ checkDiskStream stream < 0 :=
    zero_not_negative (checkDiskStream_inside stream before)
  have range := end_inside stream inside
  have fetched (lba pos : Nat) (state : State) : (fetchFirst env lba pos state).1 = 0 := by
    rw [fetchFirst]
    split
    · exact reliable.read _ _ _ _
    · rfl
  have last (lba pos len : Nat) (buffer : Nat → UInt8) (state : State) :
      (fetchLast env lba pos len buffer state).1 = 0 := by
    simp only [fetchLast]
    split_ifs
    · exact reliable.read _ _ _ _
    · exact reliable.read _ _ _ _
    · rfl
  simp only [diskStreamWrite, if_neg checked, if_neg range, if_neg (zero_not_negative (fetched _ _ _)),
    if_neg (zero_not_negative (last _ _ _ _ _))]
  split_ifs with full failed
  · exact absurd ((reliable.kzalloc _ _).symm.trans full) (by decide)
  · exact absurd failed (zero_not_negative (reliable.write _ _ _ _ _))
  · exact failed

/-- A disk stream refines a cursor over flat bytes. In range, a read gives the
cursor's bytes and a write makes the cursor's replacement, and both move as the
cursor does, unless they report an error, which a driver and a heap that do not
fail exclude. Whatever the position and the length, an error leaves the stream
where it was, and the disk too, unless the driver's own write failed. -/
theorem disk_stream_refines_cursor (exact : env.Exact) (stream : DiskStream) (state : State)
    (length : Nat) :
    (stream.position < stream.disk.sizeBytes →
      stream.position + length ≤ stream.disk.sizeBytes →
      (∀ out, let result := diskStreamRead env stream out length state
        (result.2.code = SUCCESS ∧
          result.1 = overwrite out 0 length ((cursor stream state).read length).1 ∧
          cursor result.2.stream result.2.state = ((cursor stream state).read length).2 ∨
          result.2.code < 0) ∧
        (env.Reliable → result.2.code = SUCCESS)) ∧
      ∀ input, let after := diskStreamWrite env stream input length state
        (after.code = SUCCESS ∧
          cursor after.stream after.state = (cursor stream state).write input length ∨
          after.code < 0) ∧
        (env.Reliable → after.code = SUCCESS)) ∧
    (∀ out, let result := diskStreamRead env stream out length state
      result.2.code < 0 →
        result.1 = out ∧ result.2.stream = stream ∧ result.2.state.bytes = state.bytes) ∧
    ∀ input, let after := diskStreamWrite env stream input length state
      after.code < 0 → after.stream = stream ∧
        (after.state.bytes = state.bytes ∨ ∃ call lba total buffer,
          env.write call state.bytes lba total buffer = (after.code, after.state.bytes)) := by
  refine ⟨fun before inside => ⟨fun out => ?_, fun input => ?_⟩, fun out => ?_, fun input => ?_⟩
  · have small := stream.disk.small
    have success := diskStreamRead_success exact stream out length state (by omega)
    have unchanged := (diskStreamRead_error env stream out length state).1
    refine ⟨?_, fun reliable => ?_⟩
    · by_cases failed : (diskStreamRead env stream out length state).2.code < 0
      · exact .inr failed
      · obtain ⟨_, _, code, data, moved⟩ := success failed
        have shown : cursor (diskStreamRead env stream out length state).2.stream
            (diskStreamRead env stream out length state).2.state =
            ((cursor stream state).read length).2 := by
          rw [cursor, moved, unchanged]
          rfl
        exact .inl ⟨code, data, shown⟩
    · exact (success (diskStreamRead_reliable reliable stream out length state before inside)).2.2.1
  · have small := stream.disk.small
    have success := diskStreamWrite_success exact stream input length state (by omega)
    refine ⟨?_, fun reliable => ?_⟩
    · by_cases failed : (diskStreamWrite env stream input length state).code < 0
      · exact .inr failed
      · obtain ⟨_, _, code, data, moved⟩ := success failed
        have shown : cursor (diskStreamWrite env stream input length state).stream
            (diskStreamWrite env stream input length state).state =
            (cursor stream state).write input length := by
          rw [cursor, moved, data]
          rfl
        exact .inl ⟨code, shown⟩
    · exact (success (diskStreamWrite_reliable reliable stream input length state before
        inside)).2.2.1
  · intro result failed
    obtain ⟨unchanged, kept⟩ := diskStreamRead_error env stream out length state
    exact ⟨(kept failed).1, (kept failed).2, unchanged⟩
  · exact diskStreamWrite_error stream input length state

/-- A driver that transfers every sector, and a heap that always has room. -/
def memoryDisk : Environment where
  read _ bytes lba _ := (0, fun offset => bytes (lba * 512 + offset))
  write _ bytes lba total buffer := (0, overwrite bytes (lba * 512) (total * 512) buffer)
  kzalloc _ _ := true

theorem memoryDisk_reliable : memoryDisk.Reliable where
  exact := ⟨fun _ _ _ _ => Int.le_refl 0, fun _ _ _ _ _ _ _ => rfl,
    fun _ _ _ _ _ => Int.le_refl 0, fun _ _ _ _ _ _ => rfl⟩
  read _ _ _ _ := rfl
  write _ _ _ _ _ := rfl
  kzalloc _ _ := rfl

def twoSectors : Disk := ⟨1024, by decide, by decide⟩

/-- Four bytes written across the border of two sectors. -/
theorem write_across_sectors :
    (diskStreamWrite memoryDisk ⟨twoSectors, 510⟩ (fun _ => 7) 4 ⟨fun _ => 1, 0⟩).code = SUCCESS ∧
      cursor (diskStreamWrite memoryDisk ⟨twoSectors, 510⟩ (fun _ => 7) 4 ⟨fun _ => 1, 0⟩).stream
        (diskStreamWrite memoryDisk ⟨twoSectors, 510⟩ (fun _ => 7) 4 ⟨fun _ => 1, 0⟩).state =
        ⟨overwrite (fun _ => 1) 510 4 (fun _ => 7), 514⟩ := by
  obtain ⟨inRange, _⟩ := disk_stream_refines_cursor memoryDisk_reliable.exact ⟨twoSectors, 510⟩
    ⟨fun _ => 1, 0⟩ 4
  obtain ⟨_, writes⟩ := inRange (by decide) (by decide)
  obtain ⟨outcome, success⟩ := writes (fun _ => 7)
  rcases outcome with ⟨code, shown⟩ | failed
  · exact ⟨code, shown⟩
  · rw [success memoryDisk_reliable] at failed
    exact absurd failed (by decide)

end BobaOS.Streams
