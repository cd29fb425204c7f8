import BobaOS.Library.Programs
import BobaOS.Library.Words
import BobaOS.Status

/-!
# What the FAT driver runs on

The driver reads a volume through one partition stream and writes it through
another, and takes its buffers from the kernel heap. A stream is used here as a
cursor over the bytes of the volume: a seek inside the volume moves it, and a
transfer is refused beyond the end of the volume, fails, or transfers exactly its
bytes.

How the n-th transfer ends and how the n-th heap request is answered are
parameters. The heap answers with a fresh zeroed block that has room for at least
the bytes asked for; what is put into a block beyond its room is a fault. The
searches for a free cluster are kept with the entry that each result had, so that
a run can be asked what its searches gave.
-/

namespace BobaOS.Fat

open ByteStore Programs

/-- What ends a call without a return. -/
inductive Fault where
  | nullPointer
  | outOfBounds
  | endless
deriving DecidableEq

/-- A block of the kernel heap, by the number of its request. -/
structure Block where
  request : Nat
  capacity : Nat
deriving DecidableEq

/-- The result of a search for a free cluster, and its entry at that time. -/
structure Search where
  cluster : Nat
  entry : Nat
deriving DecidableEq

/-- The bytes of the volume, the positions of the two streams, the blocks in use,
the numbers of heap requests and of transfers made, and the searches. -/
structure World where
  bytes : Nat → UInt8
  readPosition : Nat
  writePosition : Nat
  live : List Block
  requests : Nat
  transfers : Nat
  searches : List Search

/-- The size of the volume, the code with which each transfer inside it ends,
what a write that fails makes of the bytes, and the answers of the heap. -/
structure Environment where
  volumeSize : Nat
  transfer : Nat → Code
  spoiled : Nat → (Nat → UInt8) → Nat → UInt8
  kzalloc : Nat → Nat → Bool
  capacity : Nat → Nat

/-- Transfers inside the volume succeed. -/
def Environment.Quiet (env : Environment) : Prop := ∀ call, env.transfer call = SUCCESS

/-- The heap has room for every request. -/
def Environment.Roomy (env : Environment) : Prop := ∀ request size, env.kzalloc request size = true

/-- A block has room for the bytes asked for. -/
def Environment.Fitting (env : Environment) : Prop := ∀ size, size ≤ env.capacity size

/-- A program of the driver. -/
abbrev M := Program World Fault

section Operations

variable (env : Environment)

/-- `kzalloc`: a fresh block, or NULL. -/
def kzalloc (size : Nat) : M (Option Block) := do
  let world ← get
  if env.kzalloc world.requests size then
    let block : Block := ⟨world.requests, env.capacity size⟩
    set { world with requests := world.requests + 1, live := block :: world.live }
    return some block
  else
    set { world with requests := world.requests + 1 }
    return none

/-- `kzfree` of a block or of NULL. -/
def kzfree (block : Option Block) : M Unit := do
  match block with
  | none => return
  | some block => modify fun world => { world with live := world.live.erase block }

/-- `partitionStreamSeek` on the read stream. -/
def seekRead (position : Nat) : M Code := do
  if position < env.volumeSize then
    modify fun world => { world with readPosition := position }
    return SUCCESS
  else return -EDISKSPACE

/-- `partitionStreamSeek` on the write stream. -/
def seekWrite (position : Nat) : M Code := do
  if position < env.volumeSize then
    modify fun world => { world with writePosition := position }
    return SUCCESS
  else return -EDISKSPACE

/-- `partitionStreamRead` to an offset of a buffer with the given room; the
buffer's bytes come back as they are afterwards. -/
def readStream (out : Nat → UInt8) (capacity offset length : Nat) : M (Code × (Nat → UInt8)) := do
  let world ← get
  if env.volumeSize < (world.readPosition + length) % 2 ^ 64 then return (-EDISKSPACE, out)
  let ret := env.transfer world.transfers
  if ret < 0 then
    set { world with transfers := world.transfers + 1 }
    return (ret, out)
  if capacity < offset + length then throw .outOfBounds
  set { world with
    transfers := world.transfers + 1
    readPosition := (world.readPosition + length) % 2 ^ 64 }
  return (ret, overwrite out offset length (slice world.bytes world.readPosition))

/-- `partitionStreamWrite`. -/
def writeStream (input : Nat → UInt8) (length : Nat) : M Code := do
  let world ← get
  if env.volumeSize < (world.writePosition + length) % 2 ^ 64 then return -EDISKSPACE
  let ret := env.transfer world.transfers
  if ret < 0 then
    set { world with
      transfers := world.transfers + 1
      bytes := env.spoiled world.transfers world.bytes }
    return ret
  set { world with
    transfers := world.transfers + 1
    writePosition := (world.writePosition + length) % 2 ^ 64
    bytes := overwrite world.bytes world.writePosition length input }
  return ret

end Operations

/-! ## What the operations meet -/

/-- A check for an error code lets success pass. -/
theorem if_success {α : Type} (error rest : M α) :
    (if SUCCESS < 0 then error else rest) = rest := if_neg (by decide)

/-- It ends a program with the code of a transfer that is refused. -/
theorem if_refused {α : Type} (error rest : M α) :
    (if -EDISKSPACE < 0 then error else rest) = error := if_pos (by decide)

/-- The volume and the searches are as they were. -/
structure Same (before after : World) : Prop where
  bytes : after.bytes = before.bytes
  searches : after.searches = before.searches

theorem Same.refl (world : World) : Same world world := ⟨rfl, rfl⟩

theorem Same.trans {first second third : World} (early : Same first second)
    (late : Same second third) : Same first third :=
  ⟨late.bytes.trans early.bytes, late.searches.trans early.searches⟩

/-- The faults of a heap that has no room. -/
def Environment.HeapFault (env : Environment) (fault : Fault) : Prop :=
  fault = .nullPointer ∧ ¬ env.Roomy

variable {env : Environment} {world : World} {fault : Fault → Prop}

theorem kzalloc_meets (size : Nat) :
    Meets (kzalloc env size) world fault fun block after => Same world after ∧
      (block = none → ¬ env.Roomy) ∧
      ∀ given, block = some given → given.capacity = env.capacity size := by
  rw [kzalloc, meets_bind, meets_get, meets_ite]
  constructor
  · intro _
    simp only
    rw [meets_bind, meets_set, meets_pure]
    refine ⟨⟨rfl, rfl⟩, (fun impossible => nomatch impossible), ?_⟩
    rintro given ⟨⟩
    rfl
  · intro refused
    rw [meets_bind, meets_set, meets_pure]
    exact ⟨⟨rfl, rfl⟩, fun _ roomy => refused (roomy _ _), fun _ impossible => nomatch impossible⟩

theorem kzfree_meets (block : Option Block) :
    Meets (kzfree block) world fault fun _ after => Same world after := by
  cases block with
  | none => exact .pure ⟨rfl, rfl⟩
  | some block =>
    rw [kzfree, meets_modify]
    exact ⟨rfl, rfl⟩

theorem seekRead_meets (position : Nat) :
    Meets (seekRead env position) world fault fun ret after => Same world after ∧
      (ret = SUCCESS ∧ position < env.volumeSize ∧ after.readPosition = position ∨
        ret = -EDISKSPACE ∧ env.volumeSize ≤ position) := by
  rw [seekRead, meets_ite]
  constructor
  · intro inside
    rw [meets_bind, meets_modify, meets_pure]
    exact ⟨⟨rfl, rfl⟩, .inl ⟨rfl, inside, rfl⟩⟩
  · intro outside
    exact .pure ⟨⟨rfl, rfl⟩, .inr ⟨rfl, Nat.not_lt.mp outside⟩⟩

theorem seekWrite_meets (position : Nat) :
    Meets (seekWrite env position) world fault fun ret after => Same world after ∧
      (ret = SUCCESS ∧ position < env.volumeSize ∧ after.writePosition = position ∨
        ret = -EDISKSPACE ∧ env.volumeSize ≤ position) := by
  rw [seekWrite, meets_ite]
  constructor
  · intro inside
    rw [meets_bind, meets_modify, meets_pure]
    exact ⟨⟨rfl, rfl⟩, .inl ⟨rfl, inside, rfl⟩⟩
  · intro outside
    exact .pure ⟨⟨rfl, rfl⟩, .inr ⟨rfl, Nat.not_lt.mp outside⟩⟩

/-- Where transfers succeed, a read is refused beyond the volume or fills its
part of the buffer. -/
theorem readStream_meets (quiet : env.Quiet) (out : Nat → UInt8)
    (capacity offset length : Nat) (room : offset + length ≤ capacity) :
    Meets (readStream env out capacity offset length) world fault fun result after =>
      Same world after ∧
      (result.1 = SUCCESS ∧ (world.readPosition + length) % 2 ^ 64 ≤ env.volumeSize ∧
          result.2 = overwrite out offset length (slice world.bytes world.readPosition) ∨
        result.1 = -EDISKSPACE ∧ env.volumeSize < (world.readPosition + length) % 2 ^ 64 ∧
          result.2 = out) := by
  have succeeds : ¬ env.transfer world.transfers < 0 := by
    rw [quiet]
    decide
  rw [readStream, meets_bind, meets_get, meets_ite]
  constructor
  · intro beyond
    exact .pure ⟨⟨rfl, rfl⟩, .inr ⟨rfl, beyond, rfl⟩⟩
  · intro inside
    simp only
    rw [if_neg succeeds, if_neg (Nat.not_lt.mpr room), meets_bind, meets_set, meets_pure]
    exact ⟨⟨rfl, rfl⟩, .inl ⟨quiet _, Nat.not_lt.mp inside, rfl⟩⟩

/-- Likewise a write is refused, or replaces its bytes of the volume. -/
theorem writeStream_meets (quiet : env.Quiet) (input : Nat → UInt8) (length : Nat) :
    Meets (writeStream env input length) world fault fun ret after =>
      after.searches = world.searches ∧
      (ret = SUCCESS ∧ (world.writePosition + length) % 2 ^ 64 ≤ env.volumeSize ∧
          after.bytes = overwrite world.bytes world.writePosition length input ∨
        ret = -EDISKSPACE ∧ env.volumeSize < (world.writePosition + length) % 2 ^ 64 ∧
          after.bytes = world.bytes) := by
  have succeeds : ¬ env.transfer world.transfers < 0 := by
    rw [quiet]
    decide
  rw [writeStream, meets_bind, meets_get, meets_ite]
  constructor
  · intro beyond
    exact .pure ⟨rfl, .inr ⟨rfl, beyond, rfl⟩⟩
  · intro inside
    simp only
    rw [if_neg succeeds, meets_bind, meets_set, meets_pure]
    exact ⟨rfl, .inl ⟨quiet _, Nat.not_lt.mp inside, rfl⟩⟩

/-! ## Where a transfer may fail -/

/-- A seek moves the stream or is refused. -/
theorem seekRead_cases (position : Nat) :
    Meets (seekRead env position) world fault fun ret after =>
      ret = SUCCESS ∧ position < env.volumeSize ∧ after = { world with readPosition := position } ∨
        ret = -EDISKSPACE ∧ env.volumeSize ≤ position ∧ after = world := by
  rw [seekRead, meets_ite]
  constructor
  · intro inside
    rw [meets_bind, meets_modify, meets_pure]
    exact .inl ⟨rfl, inside, rfl⟩
  · intro outside
    exact .pure (.inr ⟨rfl, Nat.not_lt.mp outside, rfl⟩)

/-- A read with room for its bytes is refused, fails, or fills its part of the buffer. -/
theorem readStream_cases (out : Nat → UInt8) (capacity offset length : Nat)
    (room : offset + length ≤ capacity) :
    Meets (readStream env out capacity offset length) world fault fun result after =>
      env.volumeSize < (world.readPosition + length) % 2 ^ 64 ∧ result = (-EDISKSPACE, out) ∧
          after = world ∨
        env.transfer world.transfers < 0 ∧ result = (env.transfer world.transfers, out) ∧
          after = { world with transfers := world.transfers + 1 } ∨
        (world.readPosition + length) % 2 ^ 64 ≤ env.volumeSize ∧
          0 ≤ env.transfer world.transfers ∧
          result = (env.transfer world.transfers,
            overwrite out offset length (slice world.bytes world.readPosition)) ∧
          after = { world with
            transfers := world.transfers + 1
            readPosition := (world.readPosition + length) % 2 ^ 64 } := by
  rw [readStream, meets_bind, meets_get, meets_ite]
  refine ⟨fun beyond => .pure (.inl ⟨beyond, rfl, rfl⟩), fun inside => ?_⟩
  simp only
  rw [meets_ite]
  constructor
  · intro failed
    rw [meets_bind, meets_set, meets_pure]
    exact .inr (.inl ⟨failed, rfl, rfl⟩)
  · intro passed
    rw [if_neg (Nat.not_lt.mpr room), meets_bind, meets_set, meets_pure]
    exact .inr (.inr ⟨Nat.not_lt.mp inside, Int.not_lt.mp passed, rfl, rfl⟩)

theorem seekWrite_cases (position : Nat) :
    Meets (seekWrite env position) world fault fun ret after =>
      ret = SUCCESS ∧ position < env.volumeSize ∧ after = { world with writePosition := position } ∨
        ret = -EDISKSPACE ∧ env.volumeSize ≤ position ∧ after = world := by
  rw [seekWrite, meets_ite]
  constructor
  · intro inside
    rw [meets_bind, meets_modify, meets_pure]
    exact .inl ⟨rfl, inside, rfl⟩
  · intro outside
    exact .pure (.inr ⟨rfl, Nat.not_lt.mp outside, rfl⟩)

/-- A write is refused, fails with any bytes as a result, or replaces its bytes. -/
theorem writeStream_cases (input : Nat → UInt8) (length : Nat) :
    Meets (writeStream env input length) world fault fun ret after =>
      env.volumeSize < (world.writePosition + length) % 2 ^ 64 ∧ ret = -EDISKSPACE ∧
          after = world ∨
        env.transfer world.transfers < 0 ∧ ret = env.transfer world.transfers ∧
          after = { world with
            transfers := world.transfers + 1
            bytes := env.spoiled world.transfers world.bytes } ∨
        (world.writePosition + length) % 2 ^ 64 ≤ env.volumeSize ∧
          0 ≤ env.transfer world.transfers ∧ ret = env.transfer world.transfers ∧
          after = { world with
            transfers := world.transfers + 1
            writePosition := (world.writePosition + length) % 2 ^ 64
            bytes := overwrite world.bytes world.writePosition length input } := by
  rw [writeStream, meets_bind, meets_get, meets_ite]
  refine ⟨fun beyond => .pure (.inl ⟨beyond, rfl, rfl⟩), fun inside => ?_⟩
  simp only
  rw [meets_ite]
  constructor
  · intro failed
    rw [meets_bind, meets_set, meets_pure]
    exact .inr (.inl ⟨failed, rfl, rfl⟩)
  · intro passed
    rw [meets_bind, meets_set, meets_pure]
    exact .inr (.inr ⟨Nat.not_lt.mp inside, Int.not_lt.mp passed, rfl, rfl⟩)

end BobaOS.Fat
