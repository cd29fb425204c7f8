import BobaOS.Library.Copies
import BobaOS.Library.PackedRecords
import BobaOS.Output.PrintNumerals
import BobaOS.Output.Terminal
import BobaOS.Paging.MemoryMap

/-!
# `memcpy`

`memory.c` copies upwards, byte by byte, and several functions of the kernel have it copy a
range of an array to the front of it. Where the destination does not begin behind the source
no byte is written before it is read, so that the copy is that of the bytes before the call.

Addresses are machine words and wrap. A byte whose address would lie behind the last one is
no byte of the source.
-/

namespace BobaOS.Memory

open Copies PackedRecords Programs

/-- `memcpy`: the byte at `src + i` is stored at `dest + i`. -/
def memcpy (dest src size : BitVec 64) (memory : BitVec 64 → UInt8) : BitVec 64 → UInt8 :=
  copy (fun i => dest + BitVec.ofNat 64 i) (fun i => src + BitVec.ofNat 64 i) size.toNat 0 memory

/-- The destination holds the bytes that the source held before, and no other byte has
changed. -/
structure Copied (dest src size : BitVec 64) (before after : BitVec 64 → UInt8) : Prop where
  moved : ∀ i < size, src.toNat + i.toNat < 2 ^ 64 → after (dest + i) = before (src + i)
  kept : ∀ address, (∀ i < size, address ≠ dest + i) → after address = before address

theorem address_toNat {pointer : BitVec 64} {offset : Nat} (inside : pointer.toNat + offset < 2 ^ 64) :
    (pointer + BitVec.ofNat 64 offset).toNat = pointer.toNat + offset := by
  rw [BitVec.toNat_add, BitVec.toNat_ofNat]
  omega

theorem address_ne (pointer : BitVec 64) {first second : Nat} (before : first < second)
    (narrow : second < 2 ^ 64) :
    pointer + BitVec.ofNat 64 first ≠ pointer + BitVec.ofNat 64 second := by
  intro same
  have distance := offset_distance pointer (before.trans narrow)
  rw [same, offset_distance pointer narrow] at distance
  exact before.ne' distance

/-- A source that does not begin before the destination is read before it is written. -/
theorem source_unwritten {dest src : BitVec 64} (down : dest ≤ src) {j k : Nat} (before : j < k)
    (inside : src.toNat + k < 2 ^ 64) : src + BitVec.ofNat 64 k ≠ dest + BitVec.ofNat 64 j := by
  intro same
  have order := BitVec.le_def.mp down
  have addresses := congrArg BitVec.toNat same
  rw [address_toNat inside, address_toNat (by omega)] at addresses
  omega

theorem memcpy_down {dest src : BitVec 64} (down : dest ≤ src) (size : BitVec 64)
    (memory : BitVec 64 → UInt8) : Copied dest src size memory (memcpy dest src size memory) where
  moved i below inside := by
    have narrow := size.isLt
    have word : BitVec.ofNat 64 i.toNat = i := by rw [BitVec.ofNat_toNat, BitVec.setWidth_eq]
    have last : i.toNat < 0 + size.toNat := by
      rw [Nat.zero_add]
      exact BitVec.lt_def.mp below
    have law : memcpy dest src size memory (dest + BitVec.ofNat 64 i.toNat) =
        memory (src + BitVec.ofNat 64 i.toNat) :=
      copy_inside size.toNat 0 memory (Nat.zero_le i.toNat) last
        (fun j _ before => source_unwritten down before inside)
        fun j behind below => address_ne dest behind (by omega)
    rwa [word] at law
  kept address outside := by
    apply copy_outside
    intro j _ below
    refine outside (BitVec.ofNat 64 j) ?_
    have narrow := size.isLt
    rw [BitVec.lt_def, BitVec.toNat_ofNat]
    omega

/-! ## Copies inside one array -/

def videoMemory : BitVec 64 := 0xb8000

/-- The calls that copy a range of an array to the front of it: destination, source and size,
as the functions of the kernel compute them. The arrays lie in the address space. -/
inductive SameArrayCall : BitVec 64 → BitVec 64 → BitVec 64 → Prop where
  | terminalMoveUp : SameArrayCall videoMemory
      (videoMemory + BitVec.ofNat 64 (2 * Output.Terminal.VGA_WIDTH))
      (BitVec.ofNat 64 (Output.Terminal.VIDEO_BYTES - Output.Terminal.VGA_WIDTH * 2))
  /-- Without any entry below 1 MiB the counter wraps, and the source is no range of the array. -/
  | reworkMemoryMap {memoryMap : BitVec 64} {state after : MemoryMap.State} {counter : BitVec 8}
      (array : memoryMap.toNat +
        MemoryMap.ENTRY_SIZE * MemoryMap.BOBAOS_MEMORY_MAP_MAX_ENTRIES ≤ 2 ^ 64)
      (counted : (MemoryMap.reworkMemoryMapLoop (MemoryMap.BOBAOS_MEMORY_MAP_MAX_ENTRIES + 1) 0).run
        state = .ok (counter, after))
      (some : counter ≠ 0) (more : 0 < counter - 1) :
      SameArrayCall (memoryMap + BitVec.ofNat 64 (MemoryMap.ENTRY_SIZE * 1))
        (memoryMap + BitVec.ofNat 64 (MemoryMap.ENTRY_SIZE * ((counter - 1).toNat + 1)))
        (BitVec.ofNat 64 MemoryMap.ENTRY_SIZE *
          (after.memoryMapLength.setWidth 64 - (counter - 1).setWidth 64))
  | strToUInt {oRes num : BitVec 64} {before after : Nat → UInt8} {i : Nat}
      (array : oRes.toNat + Output.BUFFER_SIZE ≤ 2 ^ 64)
      (stored : (Output.storeDigits Output.decimalMap 10 19 20 0 num).run before = .ok (i, after)) :
      SameArrayCall oRes (oRes + (19 - BitVec.ofNat 64 i)) (BitVec.ofNat 64 (i + 1))
  | strToHex {oRes num : BitVec 64} {before after : Nat → UInt8} {i : Nat}
      (array : oRes.toNat + Output.BUFFER_SIZE ≤ 2 ^ 64)
      (stored : (Output.storeDigits Output.hexMap 16 22 20 2 num).run before = .ok (i, after)) :
      SameArrayCall (oRes + 2) (oRes + (22 - BitVec.ofNat 64 i)) (BitVec.ofNat 64 (i + 1))

/-- Later places of an array have higher addresses. -/
theorem address_le {pointer : BitVec 64} {first second : Nat} (order : first ≤ second)
    (inside : pointer.toNat + second < 2 ^ 64) :
    pointer + BitVec.ofNat 64 first ≤ pointer + BitVec.ofNat 64 second := by
  rw [BitVec.le_def, address_toNat (by omega), address_toNat inside]
  omega

theorem offset_sub {last i : Nat} (below : i ≤ last) (narrow : last < 2 ^ 64) :
    BitVec.ofNat 64 last - BitVec.ofNat 64 i = BitVec.ofNat 64 (last - i) := by
  apply BitVec.eq_of_toNat_eq
  rw [BitVec.toNat_sub, BitVec.toNat_ofNat, BitVec.toNat_ofNat, BitVec.toNat_ofNat]
  omega

/-- None of these calls has a destination behind its source. -/
theorem SameArrayCall.down {dest src size : BitVec 64} (call : SameArrayCall dest src size) :
    dest ≤ src := by
  cases call with
  | terminalMoveUp => decide
  | reworkMemoryMap array counted some more =>
    rename_i counter
    have inside := (MemoryMap.reworkMemoryMapLoop_inside _ _ rfl (Nat.succ_pos _)).returned counted
    have nonzero : counter.toNat ≠ 0 := fun zero => some (BitVec.eq_of_toNat_eq zero)
    have before : (counter - 1).toNat = counter.toNat - 1 := by
      rw [BitVec.toNat_sub, show (1 : BitVec 8).toNat = 1 from rfl]
      omega
    simp only [MemoryMap.BOBAOS_MEMORY_MAP_MAX_ENTRIES, MemoryMap.ENTRY_SIZE] at array inside ⊢
    rw [before]
    exact address_le (by omega) (by omega)
  | strToUInt array stored =>
    rename_i num _ _ i
    have small : num.toNat < 10 ^ (19 + 1) := Nat.lt_trans num.isLt (by decide)
    have rounds := ((Output.storeDigits_meets Output.decimalMap 10 19 (by decide) (by decide) 19 0 num _
      small (by decide)).returned stored).1
    have short := Numerals.numeral_length (by decide) small
    rw [show (10 : BitVec 64).toNat = 10 from rfl] at rounds
    have source := offset_sub (show i ≤ 19 by omega) (by decide)
    have law : dest + BitVec.ofNat 64 0 ≤ dest + BitVec.ofNat 64 (19 - i) := by
      simp only [Output.BUFFER_SIZE] at array
      exact address_le (Nat.zero_le _) (by omega)
    rw [← source, BitVec.add_zero] at law
    exact law
  | strToHex array stored =>
    rename_i oRes num _ _ i
    have small : num.toNat < 16 ^ (15 + 1) := Nat.lt_of_lt_of_le num.isLt (by decide)
    have rounds := ((Output.storeDigits_meets Output.hexMap 16 22 (by decide) (by decide) 19 2 num _
      (Nat.lt_of_lt_of_le num.isLt (by decide)) (by decide)).returned stored).1
    have short := Numerals.numeral_length (by decide) small
    rw [show (16 : BitVec 64).toNat = 16 from rfl] at rounds
    have source := offset_sub (show i ≤ 22 by omega) (by decide)
    have law : oRes + BitVec.ofNat 64 2 ≤ oRes + BitVec.ofNat 64 (22 - i) := by
      simp only [Output.BUFFER_SIZE] at array
      exact address_le (by omega) (by omega)
    rw [← source] at law
    exact law

/-- `memcpy` to a destination that does not begin behind the source copies what the source
held before, however the ranges overlap, and changes nothing else. So do the calls that copy
a range to the front of its own array. -/
theorem memcpy_copies (memory : BitVec 64 → UInt8) (size : BitVec 64) :
    (∀ dest src, dest ≤ src → Copied dest src size memory (memcpy dest src size memory)) ∧
    ∀ dest src, SameArrayCall dest src size →
      Copied dest src size memory (memcpy dest src size memory) :=
  ⟨fun _ _ down => memcpy_down down size memory, fun _ _ call => memcpy_down call.down size memory⟩

/-- Three bytes moved by one place. -/
theorem three_bytes_moved :
    memcpy 16 17 3 (fun address => UInt8.ofNat address.toNat) 17 = 18 :=
  ((memcpy_copies (fun address => UInt8.ofNat address.toNat) 3).1 16 17 (by decide)).moved 1
    (by decide) (by decide)

end BobaOS.Memory
