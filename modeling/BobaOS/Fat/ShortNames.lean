import BobaOS.Fat.DirectoryScans

/-!
# Short names

An entry without long entries before it is found by its short name, which is kept in eleven
bytes padded with spaces. `compareShortWithName` pads the two parts of the name that it
looks for in the same way, but its second array is filled with the octal number 20, which
is not the space: only an extension that fills the array is compared as it is stored.
-/

namespace BobaOS.Fat

open ByteStore Programs Vfsl

/-! ## The parts of a name -/

/-- A character of a short name: it is printed, no space, no point and no small letter. -/
def ShortChar (char : UInt8) : Prop := 0x20 < char ∧ char ≠ POINT ∧ ¬ (97 ≤ char ∧ char ≤ 122)

instance (char : UInt8) : Decidable (ShortChar char) := inferInstanceAs (Decidable (_ ∧ _))

theorem ShortChar.nonzero {char : UInt8} (short : ShortChar char) : char ≠ 0 := by
  rintro rfl
  exact absurd short.1 (by decide)

/-- An upper-case name of at most eight characters, with an extension of at most three; an
extension that is left out is empty. -/
structure ShortName where
  base : CString
  extension : CString
  base_length : 1 ≤ base.length ∧ base.length ≤ 8
  extension_length : extension.length ≤ 3
  base_chars : ∀ char ∈ base, ShortChar char
  extension_chars : ∀ char ∈ extension, ShortChar char

/-- The name as it is written in a path. -/
def ShortName.spelled (name : ShortName) : CString :=
  if name.extension = [] then name.base else name.base ++ POINT :: name.extension

/-- The two parts of a name padded with spaces. -/
def padded (base extension : CString) : Nat → UInt8 := fun i =>
  if i < 8 then base.getD i 0x20 else extension.getD (i - 8) 0x20

/-- The name and the extension of the entry are stored padded with spaces. -/
def StoredPadded (entry : DirectoryEntry) : Prop :=
  ∃ base extension, base.length ≤ 8 ∧ extension.length ≤ 3 ∧ (∀ char ∈ base, char ≠ 0) ∧
    (∀ char ∈ extension, char ≠ 0) ∧ ∀ i < 11, entry i = padded base extension i

/-- Of all entries that are stored padded, exactly those with the name are found by it. -/
def FoundExactly (name : ShortName) : Prop :=
  ∀ entry, StoredPadded entry → ∃ found, compareShortWithName entry name.spelled = pure found ∧
    (found = true ↔ ∀ i < 11, entry i = padded name.base name.extension i)

/-! ## The functions on strings -/

/-- A comparison of strings that have no NUL among the characters compared is one of all of
them. -/
theorem strncmpFrom_eq_zero (str1 str2 : Nat → UInt8) (left counter : Nat)
    (nonzero : ∀ i < left, str1 (counter + i) ≠ 0) :
    strncmpFrom str1 str2 left counter = 0 ↔
      ∀ i < left, str1 (counter + i) = str2 (counter + i) := by
  induction left generalizing counter with
  | zero => exact iff_of_true rfl fun i impossible => absurd impossible (Nat.not_lt_zero i)
  | succ left induction =>
    have first : str1 counter ≠ 0 := nonzero 0 (Nat.zero_lt_succ left)
    have rest : ∀ i < left, str1 (counter + 1 + i) ≠ 0 := fun i before => by
      rw [Nat.add_assoc, Nat.add_comm 1 i]
      exact nonzero (i + 1) (Nat.succ_lt_succ before)
    rw [strncmpFrom, if_neg (fun both => first both.1)]
    by_cases same : str1 counter = str2 counter
    · rw [if_neg (not_not.mpr same), induction (counter + 1) rest]
      constructor
      · rintro equal (_ | i) before
        · exact same
        · rw [← Nat.add_assoc, Nat.add_right_comm]
          exact equal i (Nat.lt_of_succ_lt_succ before)
      · intro equal i before
        rw [Nat.add_assoc, Nat.add_comm 1 i]
        exact equal (i + 1) (Nat.succ_lt_succ before)
    · rw [if_pos same]
      refine iff_of_false ?_ fun equal => same (equal 0 (Nat.zero_lt_succ left))
      split <;> decide

/-- The same for comparisons from the beginning. -/
theorem strncmp_eq_zero (str1 str2 : Nat → UInt8) (len : Nat) (nonzero : ∀ i < len, str1 i ≠ 0) :
    strncmp str1 str2 len = 0 ↔ ∀ i < len, str1 i = str2 i := by
  have compared := strncmpFrom_eq_zero str1 str2 len 0
  simp only [Nat.zero_add] at compared
  exact compared nonzero

/-- A copy of a part without a NUL is the part, padded with what was there before. -/
theorem strncpy_padded (pad : UInt8) (part : CString) (src : Nat → UInt8)
    (same : ∀ i < part.length, src i = part.getD i 0) (nonzero : ∀ char ∈ part, char ≠ 0) (i : Nat) :
    strncpy (fun _ => pad) 0 src part.length i = part.getD i pad := by
  have whole : (List.range part.length).find? (fun i => src i = 0) = none := by
    rw [List.find?_eq_none]
    intro i member
    have inside : i < part.length := List.mem_range.mp member
    rw [decide_eq_true_eq, same i inside, List.getD_eq_getElem _ _ inside]
    exact nonzero _ (List.getElem_mem inside)
  simp only [strncpy, whole, Option.getD_none]
  by_cases inside : i < part.length
  · rw [overwrite_inside _ _ _ _ _ (by omega), Nat.sub_zero, same i inside,
      List.getD_eq_getElem _ _ inside, List.getD_eq_getElem _ _ inside]
  · rw [overwrite_outside _ _ _ _ _ (by omega), List.getD_eq_default _ _ (by omega)]

theorem findCharFrom_append (c : UInt8) (ret : Int) (before after : CString) (absent : c ∉ before) :
    findCharFrom c ret (before ++ c :: after) = ret + before.length := by
  induction before generalizing ret with
  | nil => simp [findCharFrom]
  | cons char before induction =>
    rw [List.mem_cons, not_or] at absent
    obtain ⟨different, rest⟩ := absent
    rw [List.cons_append, findCharFrom, if_neg (Ne.symm different), induction _ rest,
      List.length_cons]
    omega

theorem findCharFrom_absent (c : UInt8) (ret : Int) (str : CString) (absent : c ∉ str) :
    findCharFrom c ret str = -1 := by
  induction str generalizing ret with
  | nil => rfl
  | cons char str induction =>
    rw [List.mem_cons, not_or] at absent
    obtain ⟨different, rest⟩ := absent
    rw [findCharFrom, if_neg (Ne.symm different), induction _ rest]

/-! ## The comparison -/

/-- No part of a name has a point. -/
theorem no_point {part : CString} (short : ∀ char ∈ part, ShortChar char) : POINT ∉ part :=
  fun member => (short POINT member).2.1 rfl

/-- A short name fits into the arrays, and is compared part by part: the name with its spaces,
and the extension with what its array was filled with. -/
theorem ShortName.compared (name : ShortName) (entry : DirectoryEntry)
    (nonzero : ∀ i < 11, entry i ≠ 0) :
    ∃ found, compareShortWithName entry name.spelled = pure found ∧
      (found = true ↔ (∀ i < 8, entry i = name.base.getD i 0x20) ∧
        ∀ i < 3, entry (8 + i) = name.extension.getD i 0x10) := by
  obtain ⟨positive, eight⟩ := name.base_length
  have three := name.extension_length
  have base_nonzero : ∀ char ∈ name.base, char ≠ 0 := fun char member =>
    (name.base_chars char member).nonzero
  have extension_nonzero : ∀ char ∈ name.extension, char ≠ 0 := fun char member =>
    (name.extension_chars char member).nonzero
  have base_compared (src : Nat → UInt8) (same : ∀ i < name.base.length, src i = name.base.getD i 0) :
      strncmp entry (strncpy (fun _ => 0x20) 0 src name.base.length) 8 = 0 ↔
        ∀ i < 8, entry i = name.base.getD i 0x20 := by
    rw [strncmp_eq_zero _ _ _ (fun i before => nonzero i (by omega))]
    simp only [strncpy_padded 0x20 name.base src same base_nonzero]
  have extension_compared (src : Nat → UInt8)
      (same : ∀ i < name.extension.length, src i = name.extension.getD i 0) :
      strncmp (slice entry 8) (strncpy (fun _ => 0x10) 0 src name.extension.length) 3 = 0 ↔
        ∀ i < 3, entry (8 + i) = name.extension.getD i 0x10 := by
    rw [strncmp_eq_zero (slice entry 8) _ 3 (fun i before => nonzero (8 + i) (by omega))]
    simp only [strncpy_padded 0x10 name.extension src same extension_nonzero, slice_apply]
  rw [ShortName.spelled]
  split
  · -- The name is not followed by a point.
    rename_i absent
    have point : findChar name.base POINT = -1 :=
      findCharFrom_absent POINT 0 name.base (no_point name.base_chars)
    refine ⟨sameShortName entry name.base,
      (compareShortWithName_eq entry name.base).1 (by simp [FitsShort, point, eight]), ?_⟩
    have extension := extension_compared (slice (chars name.base) (name.base.length + 1))
      (by rw [absent]; intro i impossible; exact absurd impossible (Nat.not_lt_zero i))
    rw [absent, List.length_nil] at extension
    simp only [sameShortName, point, decide_eq_true_eq]
    rw [if_neg (by decide), if_neg (by decide), base_compared (chars name.base) (fun i _ => rfl),
      extension, absent]
  · -- A point follows, and the extension follows it.
    have point : findChar (name.base ++ POINT :: name.extension) POINT = name.base.length :=
      (findCharFrom_append POINT 0 name.base name.extension (no_point name.base_chars)).trans
        (Int.zero_add _)
    have behind : 0 < findChar (name.base ++ POINT :: name.extension) POINT := by omega
    have length : (name.base ++ POINT :: name.extension).length - name.base.length - 1 =
        name.extension.length := by
      rw [List.length_append, List.length_cons]
      omega
    refine ⟨sameShortName entry (name.base ++ POINT :: name.extension),
      (compareShortWithName_eq entry _).1 ?_, ?_⟩
    · rw [FitsShort, if_pos behind, if_pos behind, point, Int.toNat_natCast, length]
      exact ⟨eight, three⟩
    · rw [sameShortName, if_pos behind, if_pos behind, point, Int.toNat_natCast, length,
        decide_eq_true_eq, base_compared, extension_compared]
      · intro i inside
        rw [slice_apply, chars, List.getD_append_right _ _ _ _ (by omega)]
        have place : name.base.length + 1 + i - name.base.length = i + 1 := by omega
        rw [place, List.getD_cons_succ]
      · intro i inside
        exact List.getD_append _ _ _ _ inside

/-- The bytes of a name that is stored padded are not NUL. -/
theorem StoredPadded.nonzero {entry : DirectoryEntry} (stored : StoredPadded entry) :
    ∀ i < 11, entry i ≠ 0 := by
  obtain ⟨base, extension, -, -, base_nonzero, extension_nonzero, bytes⟩ := stored
  have part (part : CString) (nonzero : ∀ char ∈ part, char ≠ 0) (i : Nat) :
      part.getD i 0x20 ≠ 0 := by
    by_cases inside : i < part.length
    · rw [List.getD_eq_getElem _ _ inside]
      exact nonzero _ (List.getElem_mem inside)
    · rw [List.getD_eq_default _ _ (by omega)]
      decide
  intro i inside
  rw [bytes i inside, padded]
  split
  · exact part base base_nonzero i
  · exact part extension extension_nonzero (i - 8)

/-- The form in which a name is stored is stored padded. -/
theorem ShortName.stored (name : ShortName) : StoredPadded (padded name.base name.extension) :=
  ⟨name.base, name.extension, name.base_length.2, name.extension_length,
    fun char member => (name.base_chars char member).nonzero,
    fun char member => (name.extension_chars char member).nonzero, fun _ _ => rfl⟩

/-- A program that returns at once returns one value. -/
theorem pure_injective {left right : Bool} (same : (pure left : M Bool) = pure right) :
    left = right := by
  have both := congrArg (fun program => program.run (freshWorld fun _ => 0)) same
  exact (Prod.mk.inj (Except.ok.inj both)).1

/-- Of the entries that are stored padded, the ones with the name are found exactly if its
extension has three characters: what its array is filled with is then not compared.

Proof: with three characters the array holds the extension. With fewer its last byte is
not the space that the name itself is stored with. -/
theorem short_name_found_iff (name : ShortName) :
    FoundExactly name ↔ name.extension.length = 3 := by
  constructor
  · intro finds
    obtain ⟨found, compared, exactly⟩ := finds _ name.stored
    obtain ⟨other, same, parts⟩ := name.compared _ name.stored.nonzero
    have itself : found = true := exactly.mpr fun _ _ => rfl
    have equal : found = other := pure_injective (compared.symm.trans same)
    have last := (parts.mp (equal ▸ itself)).2 2 (by decide)
    by_contra short
    have three := name.extension_length
    rw [padded, if_neg (by decide), List.getD_eq_default _ _ (by omega),
      List.getD_eq_default _ _ (by omega)] at last
    exact absurd last (by decide)
  · intro three entry stored
    obtain ⟨found, compared, parts⟩ := name.compared entry stored.nonzero
    have extension (i : Nat) (inside : i < 3) :
        name.extension.getD i 0x10 = name.extension.getD i 0x20 := by
      rw [List.getD_eq_getElem _ _ (by omega), List.getD_eq_getElem _ _ (by omega)]
    refine ⟨found, compared, parts.trans ⟨fun same i inside => ?_, fun same => ⟨?_, ?_⟩⟩⟩
    · rw [padded]
      split
      · exact same.1 i (by omega)
      · rw [← extension (i - 8) (by omega), ← same.2 (i - 8) (by omega)]
        congr 1
        omega
    · intro i inside
      rw [same i (by omega), padded, if_pos inside]
    · intro i inside
      rw [same (8 + i) (by omega), padded, if_neg (by omega), extension i inside]
      congr 1
      omega

/-- A name without extension. -/
def kernelName : ShortName where
  base := [75, 69, 82, 78, 69, 76]
  extension := []
  base_length := by decide
  extension_length := by decide
  base_chars := by simp [ShortChar, POINT]
  extension_chars := by simp

/-- The entry of a file `KERNEL`, as it is stored, is not found by that name. -/
theorem kernel_not_found :
    StoredPadded (padded kernelName.base kernelName.extension) ∧
      compareShortWithName (padded kernelName.base kernelName.extension) kernelName.spelled =
        pure false ∧
      ¬ FoundExactly kernelName := by
  have compared : compareShortWithName (padded kernelName.base kernelName.extension)
      kernelName.spelled = pure false := by
    rw [(compareShortWithName_eq _ _).1 (by unfold FitsShort; decide)]
    exact congrArg pure (by decide)
  refine ⟨kernelName.stored, compared, fun finds => ?_⟩
  obtain ⟨found, same, exactly⟩ := finds _ kernelName.stored
  have missed : found = false := pure_injective (same.symm.trans compared)
  exact absurd (exactly.mpr fun _ _ => rfl) (by rw [missed]; decide)

end BobaOS.Fat
