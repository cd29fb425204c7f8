import BobaOS.Disk.DiskStream
import BobaOS.Library.Runs

/-!
# Partition streams

`partitionStream.c`: a cursor over a partition, kept beside the cursor of the
disk stream below it. Bounds are checked on the outer cursor and the access is
made through the inner one, and a refusal of the inner seek is dropped, so the
two may part. They only part in one direction, which keeps every access inside
the partition; and they stay together exactly as long as no seek is made from the
end of the disk.
-/

namespace BobaOS.Streams

open ByteStore Runs

/-- A partition record and the disk it is on. -/
structure DiskPartition where
  offsetBytes : Nat
  sizeBytes : Nat
  disk : Disk

structure PartitionStream where
  position : Nat
  volumeOffset : Nat
  volumeSize : Nat
  diskStream : DiskStream

/-- What a function on a partition stream returns and leaves. -/
structure PartitionOutcome where
  code : Code
  stream : PartitionStream
  state : State

/-- The stream on a partition that was found on its disk, with room for it. -/
def partitionStreamCreate (partition : DiskPartition) (position : Nat) : PartitionStream where
  position := position
  volumeOffset := partition.offsetBytes
  volumeSize := partition.sizeBytes
  diskStream := ⟨partition.disk, (partition.offsetBytes + position) % 2 ^ 64⟩

/-- What the inner seek returns is dropped. -/
def partitionStreamSeek (stream : PartitionStream) (position : Nat) : Code × PartitionStream :=
  if position < stream.volumeSize then
    let sought := diskStreamSeek stream.diskStream ((stream.volumeOffset + position) % 2 ^ 64)
    (SUCCESS, { stream with diskStream := sought.2, position })
  else (-EDISKSPACE, stream)

/-- The stream after the disk stream has returned: its position moves on success. -/
def PartitionStream.after (stream : PartitionStream) (length : Nat) (outcome : Outcome) :
    PartitionOutcome :=
  ⟨outcome.code,
    { stream with
      diskStream := outcome.stream
      position := if outcome.code = SUCCESS then (stream.position + length) % 2 ^ 64
        else stream.position },
    outcome.state⟩

section Code

variable (env : Environment)

def partitionStreamRead (stream : PartitionStream) (out : Nat → UInt8) (length : Nat)
    (state : State) : (Nat → UInt8) × PartitionOutcome :=
  if stream.volumeSize < (stream.position + length) % 2 ^ 64 then
    (out, ⟨-EDISKSPACE, stream, state⟩)
  else
    let read := diskStreamRead env stream.diskStream out length state
    (read.1, stream.after length read.2)

def partitionStreamWrite (stream : PartitionStream) (input : Nat → UInt8) (length : Nat)
    (state : State) : PartitionOutcome :=
  if stream.volumeSize < (stream.position + length) % 2 ^ 64 then ⟨-EDISKSPACE, stream, state⟩
  else stream.after length (diskStreamWrite env stream.diskStream input length state)

end Code

/-! ## Runs on one stream -/

inductive Operation where
  | seek (position : Nat)
  | read (length : Nat) (out : Nat → UInt8)
  | write (length : Nat) (input : Nat → UInt8)

/-- The number of bytes an operation transfers. -/
def Operation.length : Operation → Nat
  | .seek _ => 0
  | .read length _ => length
  | .write length _ => length

structure Session where
  stream : PartitionStream
  state : State

/-- One call on the stream of a session. -/
def Session.next (env : Environment) (session : Session) : Operation → Session
  | .seek position => ⟨(partitionStreamSeek session.stream position).2, session.state⟩
  | .read length out =>
      let outcome := (partitionStreamRead env session.stream out length session.state).2
      ⟨outcome.stream, outcome.state⟩
  | .write length input =>
      let outcome := partitionStreamWrite env session.stream input length session.state
      ⟨outcome.stream, outcome.state⟩

/-- Any calls in any order on a stream created at a position. -/
def sessions (env : Environment) (partition : DiskPartition) (position : Nat) :
    System Session Operation where
  start session := session.stream = partitionStreamCreate partition position
  step session operation after := after = session.next env operation

variable {env : Environment} {partition : DiskPartition}

/-- The inner seek moves to the address or, when it refuses, stays. -/
theorem diskStreamSeek_cases (stream : DiskStream) (position : Nat) :
    stream.position < stream.disk.sizeBytes ∧
        position ≤ (stream.disk.sizeBytes * 512) % 2 ^ 64 ∧
        (diskStreamSeek stream position).2 = { stream with position } ∨
      ¬ (stream.position < stream.disk.sizeBytes ∧
        position ≤ (stream.disk.sizeBytes * 512) % 2 ^ 64) ∧
        (diskStreamSeek stream position).2 = stream := by
  simp only [diskStreamSeek]
  by_cases inside : stream.position < stream.disk.sizeBytes
  · rw [checkDiskStream_inside stream inside, if_neg (by decide)]
    by_cases near : position ≤ (stream.disk.sizeBytes * 512) % 2 ^ 64
    · rw [if_neg (by omega)]
      exact .inl ⟨inside, near, rfl⟩
    · rw [if_pos (by omega)]
      exact .inr ⟨fun both => near both.2, rfl⟩
  · rw [checkDiskStream, if_pos (Nat.not_lt.mp inside), if_pos full_negative]
    exact .inr ⟨fun both => inside both.1, rfl⟩

theorem negative_failed {code : Code} (negative : code < 0) : code ≠ SUCCESS :=
  fun zero => zero_not_negative zero negative

/-- The inner operations move the cursor on success, which they only report
before the end of the disk, and leave it on an error. -/
structure Moves (stream : DiskStream) (length : Nat) (outcome : Outcome) : Prop where
  before : outcome.code = SUCCESS → stream.position < stream.disk.sizeBytes
  success : outcome.code = SUCCESS →
    outcome.stream = { stream with position := (stream.position + length) % 2 ^ 64 }
  failure : outcome.code ≠ SUCCESS → outcome.stream = stream

theorem Moves.failed {stream : DiskStream} {length : Nat} {outcome : Outcome}
    (failed : outcome.code ≠ SUCCESS) (stayed : outcome.stream = stream) :
    Moves stream length outcome :=
  ⟨fun zero => absurd zero failed, fun zero => absurd zero failed, fun _ => stayed⟩

theorem diskStreamRead_moves (exact : env.Exact) (stream : DiskStream) (out : Nat → UInt8)
    (length : Nat) (state : State) :
    Moves stream length (diskStreamRead env stream out length state).2 := by
  simp only [diskStreamRead]
  split_ifs with checked beyond full failed
  · exact .failed (negative_failed checked) rfl
  · exact .failed (negative_failed full_negative) rfl
  · exact .failed (negative_failed full_negative) rfl
  · exact .failed (negative_failed failed) rfl
  · have zero := (driverRead_exact exact _ _ _ _ failed).1
    exact ⟨fun _ => checkDiskStream_passed checked, fun _ => rfl,
      fun nonzero => absurd zero nonzero⟩

theorem diskStreamWrite_moves (exact : env.Exact) (stream : DiskStream) (input : Nat → UInt8)
    (length : Nat) (state : State) :
    Moves stream length (diskStreamWrite env stream input length state) := by
  simp only [diskStreamWrite]
  split_ifs with checked beyond full first last written
  · exact .failed (negative_failed checked) rfl
  · exact .failed (negative_failed full_negative) rfl
  · exact .failed (negative_failed full_negative) rfl
  · exact .failed (negative_failed first) rfl
  · exact .failed (negative_failed last) rfl
  · exact .failed (negative_failed written) rfl
  · have zero := Int.le_antisymm (exact.write_code _ _ _ _ _) (Int.not_lt.mp written)
    exact ⟨fun _ => checkDiskStream_passed checked, fun _ => rfl,
      fun nonzero => absurd zero nonzero⟩

/-- The outer read either refuses, or checks its own bound and passes the call on. -/
theorem partitionStreamRead_cases (env : Environment) (stream : PartitionStream)
    (out : Nat → UInt8) (length : Nat) (state : State) :
    partitionStreamRead env stream out length state = (out, ⟨-EDISKSPACE, stream, state⟩) ∨
      (stream.position + length) % 2 ^ 64 ≤ stream.volumeSize ∧
        partitionStreamRead env stream out length state =
          ((diskStreamRead env stream.diskStream out length state).1,
            stream.after length (diskStreamRead env stream.diskStream out length state).2) := by
  rw [partitionStreamRead]
  split_ifs with beyond
  · exact .inl rfl
  · exact .inr ⟨Nat.not_lt.mp beyond, rfl⟩

theorem partitionStreamWrite_cases (env : Environment) (stream : PartitionStream)
    (input : Nat → UInt8) (length : Nat) (state : State) :
    partitionStreamWrite env stream input length state = ⟨-EDISKSPACE, stream, state⟩ ∨
      (stream.position + length) % 2 ^ 64 ≤ stream.volumeSize ∧
        partitionStreamWrite env stream input length state =
          stream.after length (diskStreamWrite env stream.diskStream input length state) := by
  rw [partitionStreamWrite]
  split_ifs with beyond
  · exact .inl rfl
  · exact .inr ⟨Nat.not_lt.mp beyond, rfl⟩

/-- What one call does to the two cursors. A seek moves the outer one and, unless
refused, the inner one; a transfer moves both by its length or neither. -/
theorem next_cases (exact : env.Exact) (session : Session) (operation : Operation) :
    (session.next env operation).stream = session.stream ∨
    (∃ position, operation = .seek position ∧ position < session.stream.volumeSize ∧
      (session.next env operation).stream =
        { session.stream with
          diskStream := (diskStreamSeek session.stream.diskStream
            ((session.stream.volumeOffset + position) % 2 ^ 64)).2
          position }) ∨
    (session.stream.position + operation.length) % 2 ^ 64 ≤ session.stream.volumeSize ∧
      session.stream.diskStream.position < session.stream.diskStream.disk.sizeBytes ∧
      (session.next env operation).stream =
        { session.stream with
          diskStream := { session.stream.diskStream with
            position := (session.stream.diskStream.position + operation.length) % 2 ^ 64 }
          position := (session.stream.position + operation.length) % 2 ^ 64 } := by
  -- The outer cursor follows the inner one in either outcome of a transfer.
  have follow (length : Nat) (outcome : Outcome)
      (moves : Moves session.stream.diskStream length outcome) :
      (session.stream.after length outcome).stream = session.stream ∨
        session.stream.diskStream.position < session.stream.diskStream.disk.sizeBytes ∧
        (session.stream.after length outcome).stream =
          { session.stream with
            diskStream := { session.stream.diskStream with
              position := (session.stream.diskStream.position + length) % 2 ^ 64 }
            position := (session.stream.position + length) % 2 ^ 64 } := by
    simp only [PartitionStream.after]
    by_cases succeeded : outcome.code = SUCCESS
    · rw [if_pos succeeded, moves.success succeeded]
      exact .inr ⟨moves.before succeeded, rfl⟩
    · rw [if_neg succeeded, moves.failure succeeded]
      exact .inl rfl
  cases operation with
  | seek position =>
    simp only [Session.next, partitionStreamSeek]
    split_ifs with inside
    · exact .inr (.inl ⟨position, rfl, inside, rfl⟩)
    · exact .inl rfl
  | read length out =>
    simp only [Session.next]
    rcases partitionStreamRead_cases env session.stream out length session.state with
      refused | ⟨inside, passed⟩
    · rw [refused]
      exact .inl rfl
    · rw [passed]
      rcases follow length _ (diskStreamRead_moves exact _ out length _) with
        stayed | ⟨before, moved⟩
      · exact .inl stayed
      · exact .inr (.inr ⟨inside, before, moved⟩)
  | write length input =>
    simp only [Session.next]
    rcases partitionStreamWrite_cases env session.stream input length session.state with
      refused | ⟨inside, passed⟩
    · rw [refused]
      exact .inl rfl
    · rw [passed]
      rcases follow length _ (diskStreamWrite_moves exact _ input length _) with
        stayed | ⟨before, moved⟩
      · exact .inl stayed
      · exact .inr (.inr ⟨inside, before, moved⟩)

/-- The partition a session's stream was made for. -/
structure OnPartition (partition : DiskPartition) (session : Session) : Prop where
  offset : session.stream.volumeOffset = partition.offsetBytes
  size : session.stream.volumeSize = partition.sizeBytes
  disk : session.stream.diskStream.disk = partition.disk

/-- A call leaves the stream on its partition. -/
theorem OnPartition.next (exact : env.Exact) {session : Session}
    (on : OnPartition partition session) (operation : Operation) :
    OnPartition partition (session.next env operation) := by
  rcases next_cases exact session operation with stayed | ⟨position, _, _, sought⟩ | ⟨_, _, moved⟩
  · exact ⟨stayed ▸ on.offset, stayed ▸ on.size, stayed ▸ on.disk⟩
  · refine ⟨sought ▸ on.offset, sought ▸ on.size, ?_⟩
    rw [sought]
    rcases diskStreamSeek_cases session.stream.diskStream
      ((session.stream.volumeOffset + position) % 2 ^ 64) with ⟨_, _, landed⟩ | ⟨_, stayed⟩
    · rw [landed]
      exact on.disk
    · rw [stayed]
      exact on.disk
  · exact ⟨moved ▸ on.offset, moved ▸ on.size, moved ▸ on.disk⟩

/-! ## Accesses stay inside the partition -/

/-- The inner cursor is not before the partition and, unless it has come to the
end of the disk, no further into it than the outer one. -/
structure Trails (partition : DiskPartition) (session : Session) : Prop extends
    OnPartition partition session where
  behind : partition.offsetBytes ≤ session.stream.diskStream.position
  trailing : session.stream.diskStream.position < partition.disk.sizeBytes →
    session.stream.diskStream.position ≤ partition.offsetBytes + session.stream.position
  small : session.stream.position < 2 ^ 63

/-- The inner cursor trails the outer one in every session. A seek the disk
stream refuses either comes from the end of the disk, or goes far beyond it. -/
theorem trails_invariant (exact : env.Exact) (offset : partition.offsetBytes < 2 ^ 32)
    (size : partition.sizeBytes < 2 ^ 32) (disk : partition.disk.sizeBytes ≤ 2 ^ 32)
    {position : Nat} (start : position < 2 ^ 63) :
    System.Invariant ((sessions env partition position).restrict
      fun _ operation => operation.length < 2 ^ 63) (fun _ => Trails partition) where
  initially := by
    rintro ⟨_, state⟩ rfl
    have address : (partition.offsetBytes + position) % 2 ^ 64 =
        partition.offsetBytes + position := Nat.mod_eq_of_lt (by omega)
    refine ⟨⟨rfl, rfl, rfl⟩, ?_, ?_, start⟩
    · simp only [partitionStreamCreate, address]
      omega
    · intro _
      simp only [partitionStreamCreate, address]
      omega
  preserved := by
    rintro past session after operation trails ⟨short, rfl⟩
    have on := trails.toOnPartition.next exact operation
    obtain ⟨offsetEq, sizeEq, diskEq⟩ := trails.toOnPartition
    have behind := trails.behind
    have trailing := trails.trailing
    have small := trails.small
    rcases next_cases exact session operation with
      stayed | ⟨target, _, inside, sought⟩ | ⟨inside, before, moved⟩
    · exact ⟨on, stayed ▸ behind, stayed ▸ trailing, stayed ▸ small⟩
    · have address : (session.stream.volumeOffset + target) % 2 ^ 64 =
          partition.offsetBytes + target := by
        rw [offsetEq]
        exact Nat.mod_eq_of_lt (by omega)
      have bound : (session.stream.diskStream.disk.sizeBytes * 512) % 2 ^ 64 =
          partition.disk.sizeBytes * 512 := by
        rw [diskEq]
        exact Nat.mod_eq_of_lt (by omega)
      rw [sizeEq] at inside
      rcases diskStreamSeek_cases session.stream.diskStream
        ((session.stream.volumeOffset + target) % 2 ^ 64) with ⟨_, _, landed⟩ | ⟨refused, kept⟩
      · rw [landed, address] at sought
        refine ⟨on, ?_, fun _ => ?_, ?_⟩
        · rw [sought]
          exact Nat.le_add_right _ _
        · rw [sought]
        · rw [sought]
          exact Nat.lt_trans inside (by omega)
      · rw [kept] at sought
        rw [address, bound, diskEq] at refused
        refine ⟨on, ?_, fun before => ?_, ?_⟩
        · rw [sought]
          exact behind
        · rw [sought] at before ⊢
          simp only at before ⊢
          omega
        · rw [sought]
          exact Nat.lt_trans inside (by omega)
    · have outer : (session.stream.position + operation.length) % 2 ^ 64 =
          session.stream.position + operation.length := Nat.mod_eq_of_lt (by omega)
      rw [outer, sizeEq] at inside
      rw [diskEq] at before
      have inner : (session.stream.diskStream.position + operation.length) % 2 ^ 64 =
          session.stream.diskStream.position + operation.length := Nat.mod_eq_of_lt (by omega)
      rw [outer, inner] at moved
      refine ⟨on, ?_, fun _ => ?_, ?_⟩
      · rw [moved]
        exact Nat.le_trans behind (Nat.le_add_right _ _)
      · rw [moved]
        simp only
        have close := trailing before
        omega
      · rw [moved]
        exact Nat.lt_of_le_of_lt inside (by omega)

/-- Where the inner cursor trails, a transfer that succeeds lies inside the
partition. -/
theorem Trails.inside {session : Session} (trails : Trails partition session)
    {length : Nat} (short : length < 2 ^ 63)
    (checked : (session.stream.position + length) % 2 ^ 64 ≤ session.stream.volumeSize)
    (before : session.stream.diskStream.position < session.stream.diskStream.disk.sizeBytes) :
    partition.offsetBytes ≤ session.stream.diskStream.position ∧
      session.stream.diskStream.position + length ≤
        partition.offsetBytes + partition.sizeBytes := by
  have small := trails.small
  have close := trails.trailing (trails.disk ▸ before)
  have outer : (session.stream.position + length) % 2 ^ 64 = session.stream.position + length :=
    Nat.mod_eq_of_lt (by omega)
  rw [outer, trails.size] at checked
  exact ⟨trails.behind, by omega⟩

/-- Every transfer that succeeds stays inside the partition, after any calls on
the stream, also those whose inner seek was refused: a read gives bytes of the
partition only, and a write changes none outside it. -/
theorem transfers_stay_inside (exact : env.Exact) (offset : partition.offsetBytes < 2 ^ 32)
    (size : partition.sizeBytes < 2 ^ 32) (disk : partition.disk.sizeBytes ≤ 2 ^ 32)
    {position : Nat} (start : position < 2 ^ 63) {past : List Operation} {session : Session}
    (reached : ((sessions env partition position).restrict
      fun _ operation => operation.length < 2 ^ 63).Reaches past session)
    {length : Nat} (short : length < 2 ^ 63) :
    (∀ out, (partitionStreamRead env session.stream out length session.state).2.code = SUCCESS →
      ∃ address, partition.offsetBytes ≤ address ∧
        address + length ≤ partition.offsetBytes + partition.sizeBytes ∧
        (partitionStreamRead env session.stream out length session.state).1 =
          overwrite out 0 length (slice session.state.bytes address)) ∧
    ∀ input, (partitionStreamWrite env session.stream input length session.state).code = SUCCESS →
      ∀ tested, tested < partition.offsetBytes ∨
          partition.offsetBytes + partition.sizeBytes ≤ tested →
        (partitionStreamWrite env session.stream input length session.state).state.bytes tested =
          session.state.bytes tested := by
  have trails : Trails partition session :=
    (trails_invariant exact offset size disk start).reached reached
  have refused : -EDISKSPACE ≠ SUCCESS := by decide
  have narrow : session.stream.diskStream.position < session.stream.diskStream.disk.sizeBytes →
      session.stream.diskStream.position + length < 2 ^ 64 := by
    rw [trails.disk]
    omega
  constructor
  · intro out
    rcases partitionStreamRead_cases env session.stream out length session.state with
      outside | ⟨checked, passed⟩
    · rw [outside]
      exact fun succeeded => absurd succeeded refused
    · rw [passed]
      intro succeeded
      have before := (diskStreamRead_moves exact session.stream.diskStream out length
        session.state).before succeeded
      obtain ⟨low, high⟩ := trails.inside short checked before
      obtain ⟨_, _, _, data, _⟩ := diskStreamRead_success exact session.stream.diskStream out length
        session.state (narrow before) (zero_not_negative succeeded)
      exact ⟨_, low, high, data⟩
  · intro input
    rcases partitionStreamWrite_cases env session.stream input length session.state with
      outside | ⟨checked, passed⟩
    · rw [outside]
      exact fun succeeded => absurd succeeded refused
    · rw [passed]
      intro succeeded tested elsewhere
      have before := (diskStreamWrite_moves exact session.stream.diskStream input length
        session.state).before succeeded
      obtain ⟨low, high⟩ := trails.inside short checked before
      obtain ⟨_, _, _, data, _⟩ := diskStreamWrite_success exact session.stream.diskStream input
        length session.state (narrow before) (zero_not_negative succeeded)
      rw [PartitionStream.after, data]
      exact overwrite_outside _ _ _ _ _ (by omega)

/-- The second sector of a disk of two. -/
def secondSector : DiskPartition := ⟨512, 512, twoSectors⟩

/-- The first read of a partition gives bytes of the partition. -/
theorem first_read_inside :
    ∃ address, 512 ≤ address ∧ address + 4 ≤ 1024 ∧
      (partitionStreamRead memoryDisk (partitionStreamCreate secondSector 0) (fun _ => 0) 4
        ⟨fun _ => 1, 0⟩).1 = overwrite (fun _ => 0) 0 4 (slice (fun _ => 1) address) := by
  have reached : ((sessions memoryDisk secondSector 0).restrict
      fun _ operation => operation.length < 2 ^ 63).Reaches []
      ⟨partitionStreamCreate secondSector 0, ⟨fun _ => 1, 0⟩⟩ := .start _ rfl
  exact (transfers_stay_inside memoryDisk_reliable.exact (by decide) (by decide) (by decide)
    (by decide) reached (by decide)).1 _ rfl

/-! ## The cursors stay together while no seek is refused -/

/-- The inner cursor is at the address of the outer one. -/
def Coupled (session : Session) : Prop :=
  session.stream.diskStream.position = session.stream.volumeOffset + session.stream.position

/-- A seek inside the volume is not made from the end of the disk, and its target
is within the disk stream's own bound, which is 512 times the disk in 64 bits; or
it goes where the cursor already is. Other calls are not restricted. -/
def Lands (session : Session) : Operation → Prop
  | .seek position => position < session.stream.volumeSize →
      session.stream.diskStream.position < session.stream.diskStream.disk.sizeBytes ∧
        session.stream.volumeOffset + position ≤
          (session.stream.diskStream.disk.sizeBytes * 512) % 2 ^ 64 ∨
      session.stream.diskStream.position = session.stream.volumeOffset + position
  | _ => True

/-- A stream inside its disk whose cursors are together. -/
structure Together (partition : DiskPartition) (session : Session) : Prop extends
    OnPartition partition session where
  coupled : Coupled session

/-- The address of a place inside the partition does not wrap. -/
theorem OnPartition.address (on : OnPartition partition session)
    (inside : partition.offsetBytes + partition.sizeBytes ≤ partition.disk.sizeBytes)
    {position : Nat} (within : position < partition.sizeBytes) :
    (session.stream.volumeOffset + position) % 2 ^ 64 = session.stream.volumeOffset + position := by
  have small := partition.disk.small
  rw [on.offset]
  exact Nat.mod_eq_of_lt (by omega)

/-- A seek keeps the cursors together exactly if it lands. -/
theorem seek_coupled (env : Environment) (on : OnPartition partition session)
    (inside : partition.offsetBytes + partition.sizeBytes ≤ partition.disk.sizeBytes)
    {position : Nat} (within : position < partition.sizeBytes) :
    Coupled (session.next env (.seek position)) ↔ Lands session (.seek position) := by
  have address := on.address inside within
  have allowed : position < session.stream.volumeSize := on.size ▸ within
  simp only [Session.next, partitionStreamSeek, address, Coupled, Lands, allowed, true_imp_iff]
  rcases diskStreamSeek_cases session.stream.diskStream (session.stream.volumeOffset + position)
    with ⟨before, near, landed⟩ | ⟨refused, stayed⟩
  · rw [landed]
    exact ⟨fun _ => .inl ⟨before, near⟩, fun _ => rfl⟩
  · rw [stayed]
    exact ⟨.inr, fun lands => lands.resolve_left refused⟩

/-- The cursors stay together over every run whose seeks land. -/
theorem together_invariant (exact : env.Exact)
    (inside : partition.offsetBytes + partition.sizeBytes ≤ partition.disk.sizeBytes)
    {position : Nat} (start : position ≤ partition.sizeBytes) :
    System.Invariant ((sessions env partition position).restrict Lands)
      (fun _ => Together partition) where
  initially := by
    rintro ⟨_, state⟩ rfl
    have small := partition.disk.small
    exact ⟨⟨rfl, rfl, rfl⟩, Nat.mod_eq_of_lt (by omega)⟩
  preserved := by
    rintro past session after operation together ⟨lands, rfl⟩
    have small := partition.disk.small
    have on := together.toOnPartition.next exact operation
    refine ⟨on, ?_⟩
    rcases next_cases exact session operation with stayed | ⟨target, rfl, allowed, _⟩ |
      ⟨checked, _, moved⟩
    · rw [Coupled, stayed]
      exact together.coupled
    · exact (seek_coupled env together.toOnPartition inside (together.size ▸ allowed)).mpr lands
    · -- The two sums differ by the offset, and the outer one is inside the volume.
      have coupled : session.stream.diskStream.position =
          session.stream.volumeOffset + session.stream.position := together.coupled
      rw [together.size] at checked
      rw [Coupled, moved]
      simp only
      rw [coupled, together.offset, Nat.add_assoc, ← Nat.add_mod_mod]
      exact Nat.mod_eq_of_lt (by omega)

/-- Where the cursors are together inside the volume, transfers inside the volume
succeed on exactly the bytes at the outer cursor's address. -/
theorem Together.transfer (reliable : env.Reliable) {session : Session}
    (together : Together partition session)
    (inside : partition.offsetBytes + partition.sizeBytes ≤ partition.disk.sizeBytes)
    (before : session.stream.position < partition.sizeBytes) {length : Nat}
    (within : session.stream.position + length ≤ partition.sizeBytes) :
    (∀ out, (partitionStreamRead env session.stream out length session.state).2.code = SUCCESS ∧
      (partitionStreamRead env session.stream out length session.state).1 = overwrite out 0 length
        (slice session.state.bytes (partition.offsetBytes + session.stream.position))) ∧
    ∀ input,
      (partitionStreamWrite env session.stream input length session.state).code = SUCCESS ∧
      (partitionStreamWrite env session.stream input length session.state).state.bytes =
        overwrite session.state.bytes (partition.offsetBytes + session.stream.position) length
          input := by
  have small := partition.disk.small
  have coupled : session.stream.diskStream.position =
      partition.offsetBytes + session.stream.position := by
    rw [← together.offset]
    exact together.coupled
  have allowed : ¬ session.stream.volumeSize < (session.stream.position + length) % 2 ^ 64 := by
    rw [together.size, Nat.mod_eq_of_lt (by omega)]
    omega
  have innerBefore : session.stream.diskStream.position <
      session.stream.diskStream.disk.sizeBytes := by
    rw [together.disk, coupled]
    omega
  have innerWithin : session.stream.diskStream.position + length ≤
      session.stream.diskStream.disk.sizeBytes := by
    rw [together.disk, coupled]
    omega
  have range : session.stream.diskStream.position + length < 2 ^ 64 := by
    rw [coupled]
    omega
  constructor
  · intro out
    have succeeded := diskStreamRead_reliable reliable session.stream.diskStream out length
      session.state innerBefore innerWithin
    obtain ⟨_, _, code, data, _⟩ := diskStreamRead_success reliable.exact _ out length _ range
      succeeded
    rw [partitionStreamRead, if_neg allowed, ← coupled]
    exact ⟨code, data⟩
  · intro input
    have succeeded := diskStreamWrite_reliable reliable session.stream.diskStream input length
      session.state innerBefore innerWithin
    obtain ⟨_, _, code, data, _⟩ := diskStreamWrite_success reliable.exact _ input length _ range
      succeeded
    rw [partitionStreamWrite, if_neg allowed, ← coupled]
    exact ⟨code, data⟩

/-- In every run whose seeks land the cursors are together, and a seek that lands
inside the volume makes any transfer inside the volume succeed on exactly the
bytes it names. A seek that does not land parts the cursors. -/
theorem cursors_together_while_seeks_land (reliable : env.Reliable)
    (inside : partition.offsetBytes + partition.sizeBytes ≤ partition.disk.sizeBytes)
    {start : Nat} (begun : start ≤ partition.sizeBytes) {past : List Operation} {session : Session}
    (reached : ((sessions env partition start).restrict Lands).Reaches past session) :
    Coupled session ∧ ∀ position < partition.sizeBytes,
      (Coupled (session.next env (.seek position)) ↔ Lands session (.seek position)) ∧
      (Lands session (.seek position) → ∀ length, position + length ≤ partition.sizeBytes →
        let (code, stream) := partitionStreamSeek session.stream position
        code = SUCCESS ∧
        (∀ out, (partitionStreamRead env stream out length session.state).2.code = SUCCESS ∧
          (partitionStreamRead env stream out length session.state).1 =
            overwrite out 0 length (slice session.state.bytes (partition.offsetBytes + position))) ∧
        ∀ input, (partitionStreamWrite env stream input length session.state).code = SUCCESS ∧
          (partitionStreamWrite env stream input length session.state).state.bytes =
            overwrite session.state.bytes (partition.offsetBytes + position) length input) := by
  have together : Together partition session :=
    (together_invariant reliable.exact inside begun).reached reached
  refine ⟨together.coupled, fun position within => ?_⟩
  have exactly := seek_coupled env together.toOnPartition inside within
  refine ⟨exactly, fun lands length fits => ?_⟩
  have sought : Together partition (session.next env (.seek position)) :=
    ⟨together.toOnPartition.next reliable.exact _, exactly.mpr lands⟩
  have allowed : position < session.stream.volumeSize := together.size ▸ within
  have moved : partitionStreamSeek session.stream position =
      (SUCCESS, (session.next env (.seek position)).stream) := by
    simp only [Session.next, partitionStreamSeek, if_pos allowed]
  have there : (session.next env (.seek position)).stream.position = position := by
    simp only [Session.next, partitionStreamSeek, if_pos allowed]
  have before : (session.next env (.seek position)).stream.position < partition.sizeBytes := by
    rw [there]
    exact within
  have room : (session.next env (.seek position)).stream.position + length ≤
      partition.sizeBytes := by
    rw [there]
    exact fits
  have transfer := sought.transfer reliable inside before room
  rw [there] at transfer
  rw [moved]
  exact ⟨rfl, transfer⟩

/-- A seek back from the middle of the partition. -/
theorem seek_back_lands :
    (partitionStreamRead memoryDisk
      (partitionStreamSeek (partitionStreamCreate secondSector 0) 8).2 (fun _ => 0) 4
        ⟨fun _ => 1, 0⟩).2.code = SUCCESS := by
  have reached : ((sessions memoryDisk secondSector 0).restrict Lands).Reaches []
      ⟨partitionStreamCreate secondSector 0, ⟨fun _ => 1, 0⟩⟩ := .start _ rfl
  obtain ⟨_, seeks⟩ := cursors_together_while_seeks_land memoryDisk_reliable (by decide)
    (by decide) reached
  exact ((seeks 8 (by decide)).2 (fun _ => .inl (by decide)) 4 (by decide)).2.1 _ |>.1

/-- Reading the last partition of a disk to its end leaves the disk stream where
it refuses every seek: the seek back is reported as done, the cursors have
parted, and a read inside the volume fails. -/
theorem seek_from_end_refused :
    memoryDisk.Reliable ∧
    secondSector.offsetBytes + secondSector.sizeBytes ≤ secondSector.disk.sizeBytes ∧
    ∃ session, (sessions memoryDisk secondSector 0).Reaches
        [.read 512 (fun _ => 0), .seek 0] session ∧
      session.stream.position + 1 ≤ session.stream.volumeSize ∧
      ¬ Coupled session ∧
      (partitionStreamRead memoryDisk session.stream (fun _ => 0) 1 session.state).2.code =
        -ENMEM := by
  have begun : (sessions memoryDisk secondSector 0).Reaches []
      ⟨partitionStreamCreate secondSector 0, ⟨fun _ => 1, 0⟩⟩ := .start _ rfl
  refine ⟨memoryDisk_reliable, by decide, _, .step [_] _ _ _ (.step [] _ _ _ begun rfl) rfl, ?_, ?_, ?_⟩
  · decide
  · unfold Coupled
    decide
  · decide

end BobaOS.Streams
