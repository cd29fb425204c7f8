import BobaOS.Fat.DirectoryReads

/-!
# Scanning a directory

`findDirEntry` goes through the entries of a directory to the end mark or the entry it
looks for. On the way it keeps long entries in an array of twelve, and the name looked for
in arrays of eight and three characters wherever an entry has no long name. It stays
inside its arrays exactly where what it meets before it stops fits into them.
-/

namespace BobaOS.Fat

open ByteStore Programs Vfsl

/-! ## What an entry is -/

/-- A name that fits into the arrays of `compareShortWithName`. -/
def FitsShort (name : CString) : Prop :=
  let pointPos := findChar name POINT
  (if 0 < pointPos then pointPos.toNat else name.length) ≤ 8 ∧
    (if 0 < pointPos then name.length - pointPos.toNat - 1 else 0) ≤ 3

/-- The result of `compareShortWithName` for such a name. -/
def sameShortName (entry : DirectoryEntry) (name : CString) : Bool :=
  let pointPos := findChar name POINT
  let baseLength := if 0 < pointPos then pointPos.toNat else name.length
  let extensionLength := if 0 < pointPos then name.length - pointPos.toNat - 1 else 0
  let realName := strncpy (fun _ => 0x20) 0 (chars name) baseLength
  let extension := strncpy (fun _ => 0x10) 0 (slice (chars name) (baseLength + 1)) extensionLength
  strncmp entry realName 8 = 0 ∧ strncmp (slice entry 8) extension 3 = 0

/-- The long entries right before an entry, the first one first. -/
def longChain (entry : Nat → DirectoryEntry) : Nat → List LongFileNameEntry
  | 0 => []
  | j + 1 =>
    if (entry j).attributes = DIR_ENTRY_ATTRIBUTE_LNF then longChain entry j ++ [entry j] else []

section Entries

variable (stack : Stack) (requests : Nat) (entry : Nat → DirectoryEntry) (name : CString)
  (wanted : UInt8)

/-- An entry that is neither a mark nor long and has no long entry before it. -/
def Plain (j : Nat) : Prop :=
  (entry j).attributes ≠ 0 ∧ (entry j).attributes ≠ DIR_ENTRY_ATTRIBUTE_LNF ∧ longChain entry j = []

/-- An entry is the one looked for, by its long name if it has one. -/
def Named (j : Nat) : Prop :=
  (entry j).attributes ≠ 0 ∧ (entry j).attributes ≠ DIR_ENTRY_ATTRIBUTE_LNF ∧
    if longChain entry j = [] then sameShortName (entry j) name = true
    else
      strncmp (longFileNameEntriesToName (longChain entry j) (stack requests (.fullName j)))
          (chars name) BOBAOS_MAX_PATH_SIZE = 0 ∧
        (entry j).attributes = wanted ∧
        getCheckSumFromSEntry (entry j) (stack requests .upperName) = entry (j - 1) 13

/-- The scan ends with this entry. -/
def Stops (j : Nat) : Prop := (entry j).attributes = 0 ∨ Named stack requests entry name wanted j

/-- From an entry on, what the scan passes fits into its arrays, and it stops before the
end of the buffer. -/
def ScanFits (maxEntries from' : Nat) : Prop :=
  ∃ stop, from' ≤ stop ∧ stop < maxEntries ∧ Stops stack requests entry name wanted stop ∧
    (∀ j, from' ≤ j → j < stop → ¬ Stops stack requests entry name wanted j) ∧
    (∀ j, from' ≤ j → j < stop → (entry j).attributes = DIR_ENTRY_ATTRIBUTE_LNF →
      (longChain entry j).length < 12) ∧
    ∀ j, from' ≤ j → j ≤ stop → Plain entry j → FitsShort name

end Entries

variable {stack : Stack} {requests : Nat} {entry : Nat → DirectoryEntry} {name : CString}
  {wanted : UInt8} {maxEntries : Nat}

/-- A scan that fits stops at once or goes on and fits. -/
theorem scanFits_step (j : Nat) : ScanFits stack requests entry name wanted maxEntries j ↔
    j < maxEntries ∧ (Plain entry j → FitsShort name) ∧
      (Stops stack requests entry name wanted j ∨
        ((entry j).attributes = DIR_ENTRY_ATTRIBUTE_LNF → (longChain entry j).length < 12) ∧
          ScanFits stack requests entry name wanted maxEntries (j + 1)) := by
  constructor
  · rintro ⟨stop, least, inside, stops, passed, long, plain⟩
    refine ⟨by omega, plain j (Nat.le_refl j) least, ?_⟩
    rcases Nat.lt_or_eq_of_le least with later | rfl
    · refine .inr ⟨long j (Nat.le_refl j) later, stop, later, inside, stops, ?_, ?_, ?_⟩
      · exact fun i behind => passed i (Nat.le_of_succ_le behind)
      · exact fun i behind => long i (Nat.le_of_succ_le behind)
      · exact fun i behind => plain i (Nat.le_of_succ_le behind)
    · exact .inl stops
  · rintro ⟨inside, plain, outcome⟩
    by_cases stops : Stops stack requests entry name wanted j
    · refine ⟨j, Nat.le_refl j, inside, stops, ?_, ?_, ?_⟩
      · exact fun i least before => absurd before (Nat.not_lt.mpr least)
      · exact fun i least before => absurd before (Nat.not_lt.mpr least)
      · intro i least before
        obtain rfl := Nat.le_antisymm before least
        exact plain
    · obtain ⟨room, stop, least, inside, ends, passed, long, rest⟩ := outcome.resolve_left stops
      refine ⟨stop, Nat.le_of_succ_le least, inside, ends, ?_, ?_, ?_⟩
      all_goals
        intro i first
        rcases Nat.lt_or_eq_of_le first with later | rfl
      · exact passed i later
      · exact fun _ => stops
      · exact long i later
      · exact fun _ => room
      · exact rest i later
      · exact fun _ => plain

/-! ## The scan -/

/-- `compareShortWithName` compares or leaves its arrays. -/
theorem compareShortWithName_eq (entry : DirectoryEntry) (name : CString) :
    (FitsShort name → compareShortWithName entry name = pure (sameShortName entry name)) ∧
      (¬ FitsShort name → compareShortWithName entry name = throw .outOfBounds) := by
  constructor
  · rintro ⟨base, extension⟩
    rw [compareShortWithName, if_neg (by omega)]
    rfl
  · intro crowded
    rw [compareShortWithName, if_pos]
    · rfl
    · simp only [FitsShort, not_and_or, Nat.not_le] at crowded
      exact crowded

variable {entries : Entries}

/-- A part of the scan, from an entry on, returns if what is left of it fits into the arrays,
and leaves one of them otherwise. -/
def StaysInside (stack : Stack) (entry : Nat → DirectoryEntry) (name : CString) (wanted : UInt8)
    (maxEntries counter : Nat) (world : World) (program : M (Option Nat)) : Prop :=
  Meets program world
    (fun fault => fault = .outOfBounds ∧
      ¬ ScanFits stack world.requests entry name wanted maxEntries counter)
    fun _ _ => ScanFits stack world.requests entry name wanted maxEntries counter

/-- To return at an entry where the scan stops. -/
theorem StaysInside.ends {world : World} {counter : Nat} {result : Option Nat}
    (inside : counter < maxEntries) (plain : Plain entry counter → FitsShort name)
    (stops : Stops stack world.requests entry name wanted counter) :
    StaysInside stack entry name wanted maxEntries counter world (pure result) :=
  .pure ((scanFits_step counter).mpr ⟨inside, plain, .inl stops⟩)

/-- To go on behind an entry where it does not. -/
theorem StaysInside.passes {world : World} {counter : Nat} {program : M (Option Nat)}
    (inside : counter < maxEntries) (plain : Plain entry counter → FitsShort name)
    (passed : ¬ Stops stack world.requests entry name wanted counter)
    (room : (entry counter).attributes = DIR_ENTRY_ATTRIBUTE_LNF →
      (longChain entry counter).length < 12)
    (rest : StaysInside stack entry name wanted maxEntries (counter + 1) world program) :
    StaysInside stack entry name wanted maxEntries counter world program := by
  have same : ScanFits stack world.requests entry name wanted maxEntries counter ↔
      ScanFits stack world.requests entry name wanted maxEntries (counter + 1) := by
    rw [scanFits_step counter]
    exact ⟨fun fits => (fits.2.2.resolve_left passed).2, fun fits => ⟨inside, plain, .inr ⟨room, fits⟩⟩⟩
  rw [StaysInside, same]
  exact rest

/-- The loop of `findDirEntry` stays inside its arrays if what is left of the scan fits, and
leaves one of them otherwise. -/
theorem scanEntries_stays (exact : entries.block.capacity = 32 * maxEntries) (left counter : Nat)
    (counted : counter + left = maxEntries) (world : World) :
    StaysInside stack entries.entry name wanted maxEntries counter world
      (scanEntries stack entries name wanted left counter (longChain entries.entry counter)) := by
  induction left generalizing counter with
  | zero =>
    rw [scanEntries, readAttributes, if_pos (by omega)]
    refine Meets.throw ⟨rfl, fun fits => ?_⟩
    exact absurd ((scanFits_step counter).mp fits).1 (by omega)
  | succ left induction =>
    have there : ¬ entries.block.capacity < 32 * counter + 12 := by omega
    have inside : counter < maxEntries := by omega
    have rest := induction (counter + 1) (by omega)
    rw [scanEntries, readAttributes, if_neg there, pure_bind, StaysInside, meets_ite]
    refine ⟨fun zero => StaysInside.ends inside (fun plain => absurd zero plain.1) (.inl zero), fun used => ?_⟩
    rw [meets_ite]
    constructor
    · intro long
      have passed : ¬ Stops stack world.requests entries.entry name wanted counter :=
        not_or.mpr ⟨used, fun named => named.2.1 long⟩
      simp only
      rw [meets_ite]
      refine ⟨fun full => ?_, fun room => ?_⟩
      · rw [meets_bind]
        refine .throw ⟨rfl, fun fits => ?_⟩
        have room := ((scanFits_step counter).mp fits).2.2.resolve_left passed
        exact Nat.not_lt.mpr full (room.1 long)
      · rw [longChain, if_pos long] at rest
        exact StaysInside.passes inside (fun plain => absurd long plain.2.1) passed
          (fun _ => Nat.not_le.mp room) rest
    intro short
    rw [longChain, if_neg short] at rest
    rw [meets_ite]
    constructor
    · intro named
      rw [meets_bind, meets_get]
      simp only
      rw [meets_ite]
      constructor
      · intro found
        refine StaysInside.ends inside (fun plain => absurd plain.2.2 named) (.inr ⟨used, short, ?_⟩)
        rw [if_neg named]
        exact found
      · intro other
        refine StaysInside.passes inside (fun plain => absurd plain.2.2 named) ?_ (fun long => absurd long short)
          rest
        rintro (zero | ⟨-, -, found⟩)
        · exact used zero
        · rw [if_neg named] at found
          exact other found
    · intro unnamed
      rw [not_not] at unnamed
      by_cases fits : FitsShort name
      · rw [(compareShortWithName_eq _ _).1 fits, pure_bind, meets_ite]
        constructor
        · intro found
          refine StaysInside.ends inside (fun _ => fits) (.inr ⟨used, short, ?_⟩)
          rw [if_pos unnamed]
          exact found
        · intro other
          refine StaysInside.passes inside (fun _ => fits) ?_ (fun long => absurd long short) rest
          rintro (zero | ⟨-, -, found⟩)
          · exact used zero
          · rw [if_pos unnamed] at found
            exact other found
      · rw [(compareShortWithName_eq _ _).2 fits, meets_bind]
        refine .throw ⟨rfl, fun all => fits ?_⟩
        exact ((scanFits_step counter).mp all).2.1 ⟨used, short, unnamed⟩

/-! ## The name that is put together -/

/-- Each field of an entry that is copied goes to the next place. -/
theorem copyFields_outside (fields : List Nat) (oName : Nat → UInt8) (charCounter : Nat)
    (small : charCounter + fields.length < 2 ^ 16) :
    (copyFields fields oName charCounter).2.2 ≤ charCounter + fields.length ∧
      ∀ i, charCounter + fields.length ≤ i → (copyFields fields oName charCounter).2.1 i = oName i := by
  induction fields generalizing oName charCounter with
  | nil => exact ⟨Nat.le_refl _, fun _ _ => rfl⟩
  | cons field fields induction =>
    rw [List.length_cons] at small ⊢
    have next : (charCounter + 1) % 2 ^ 16 = charCounter + 1 := Nat.mod_eq_of_lt (by omega)
    rw [copyFields]
    split
    · exact ⟨Nat.le_add_right _ _, fun _ _ => rfl⟩
    · rw [next]
      obtain ⟨bound, outside⟩ := induction (overwrite oName charCounter 1 fun _ => UInt8.ofNat field)
        (charCounter + 1) (by omega)
      refine ⟨by omega, fun i behind => ?_⟩
      rw [outside i (by omega), overwrite_outside _ _ _ _ _ (by omega)]

theorem length_entryFields (entry : LongFileNameEntry) : (entryFields entry).length = 13 := by
  simp [entryFields]

/-- A chain of so many entries is put together in thirteen places for each. -/
theorem copyEntries_outside (chain : List LongFileNameEntry) (oName : Nat → UInt8)
    (charCounter : Nat) (small : charCounter + 13 * chain.length < 2 ^ 16) (i : Nat)
    (behind : charCounter + 13 * chain.length ≤ i) :
    copyEntries chain oName charCounter i = oName i := by
  induction chain generalizing oName charCounter with
  | nil => rfl
  | cons entry chain induction =>
    rw [List.length_cons] at small behind
    have long := length_entryFields entry
    obtain ⟨bound, outside⟩ := copyFields_outside (entryFields entry) oName charCounter (by omega)
    rw [copyEntries]
    generalize copyFields (entryFields entry) oName charCounter = copied at bound outside ⊢
    obtain ⟨ended, after, next⟩ := copied
    dsimp only at bound outside
    cases ended with
    | true => exact outside i (by omega)
    | false => exact (induction after next (by omega) (by omega)).trans (outside i (by omega))

/-- `findDirEntry` looks up a name inside its arrays exactly if what its scan of the buffer
meets fits into them: it stops before the end of the buffer, at most twelve long entries
follow one another before that, and the name is a short one if an entry without a long name
is met. The long names that it puts together always fit into theirs.

Proof: by induction on the entries that are left, with the chain of the long entries right
before the entry that the scan is at. -/
theorem name_looked_up_inside_iff {env : Environment} {fat : FatPrivate} {world asked read : World}
    {dataClusterNum : Nat} {ret : Block} {errCode : Code}
    (given : (kzalloc env 32).run world = .ok (some ret, asked))
    (gathered : (getDirEntries env fat dataClusterNum).run asked =
      .ok ((errCode, maxEntries, some entries), read))
    (exact : entries.block.capacity = 32 * maxEntries) :
    ((∃ result after,
        (findDirEntry env fat stack dataClusterNum name wanted).run world = .ok (result, after)) ↔
      ScanFits stack read.requests entries.entry name wanted maxEntries 0) ∧
    ∀ (chain : List LongFileNameEntry) (fullName : Nat → UInt8), chain.length ≤ 12 →
      ∀ i, BOBAOS_MAX_PATH_SIZE ≤ i → longFileNameEntriesToName chain fullName i = fullName i := by
  constructor
  · refine Meets.returns_iff ?_
    rw [findDirEntry]
    apply Meets.bind_run given
    apply Meets.bind_run gathered
    refine ((scanEntries_stays exact maxEntries 0 (Nat.zero_add _) read).mono_fault
      fun _ both => both.2).bind fun result after fits => ?_
    cases result with
    | none =>
      apply (kzfree_meets _).bind
      intro _ _ _
      apply (kzfree_meets _).bind
      intro _ _ _
      exact .pure fits
    | some counter =>
      apply (kzfree_meets _).bind
      intro _ _ _
      exact .pure fits
  · intro chain fullName few i behind
    have size : BOBAOS_MAX_PATH_SIZE = 255 := rfl
    refine copyEntries_outside chain.reverse fullName 0 ?_ i ?_
    · rw [List.length_reverse]
      omega
    · rw [List.length_reverse]
      omega

/-- The short name `A` without a long entry, in a root directory of one cluster. -/
def shortEntryBytes : Nat → UInt8 :=
  overwrite (overwrite shortDirectoryBytes 17408 1 fun _ => 65) 17419 1 fun _ =>
    DIR_ENTRY_ATTRIBUTE_ARCHIVE

/-- The length of a buffer, its room and its first attributes. -/
def lookOf (result : Code × Nat × Option Entries) : Nat × Option (Nat × UInt8) :=
  (result.2.1, result.2.2.map fun entries => (entries.block.capacity, (entries.entry 0).attributes))

theorem name_looked_up_in_empty_directory : ∃ result after,
    (findDirEntry (plainEnvironment 82944) (attachToDisk smallRecord) (fun _ _ _ => 0) 2 [97]
      DIR_ENTRY_ATTRIBUTE_ARCHIVE).run (freshWorld shortDirectoryBytes) = .ok (result, after) := by
  have given : (kzalloc (plainEnvironment 82944) 32).run (freshWorld shortDirectoryBytes) =
      .ok (some ⟨0, 32⟩, { freshWorld shortDirectoryBytes with requests := 1, live := [⟨0, 32⟩] }) := rfl
  have looked : ((getDirEntries (plainEnvironment 82944) (attachToDisk smallRecord) 2).run
      { freshWorld shortDirectoryBytes with requests := 1, live := [⟨0, 32⟩] }).toOption.map
      (fun result => lookOf result.1) = some (16, some (512, 0)) := by decide +kernel
  obtain ⟨⟨⟨errCode, maxEntries, entries⟩, read⟩, gathered, look⟩ := Option.map_eq_some_iff.mp looked
  simp only [lookOf, Prod.mk.injEq, Option.map_eq_some_iff] at look
  obtain ⟨rfl, entries, rfl, capacity, ends⟩ := look
  refine (name_looked_up_inside_iff given (ran_of_toOption gathered) capacity).1.mpr ?_
  exact (scanFits_step 0).mpr ⟨by decide, fun plain => absurd ends plain.1, .inl (.inl ends)⟩

/-- A name of nine characters leaves the array for eight. -/
theorem nine_characters_overrun :
    (findDirEntry (plainEnvironment 82944) (attachToDisk smallRecord) (fun _ _ _ => 0) 2
      [97, 98, 99, 100, 101, 102, 103, 104, 105] DIR_ENTRY_ATTRIBUTE_ARCHIVE).run
      (freshWorld shortEntryBytes) = .error .outOfBounds :=
  error_of_faultOf (by decide +kernel)

end BobaOS.Fat
