import BobaOS.Fat.Table
import BobaOS.Vfsl.PathTracer

/-!
# Long file names

`driver/fat32.c`: a name of a file is kept in entries of thirteen characters each,
the last ones first on the disk. An entry is written as three arrays of 16-bit fields
and read back as bytes. A name that does not fill its last entry is terminated there
and padded. A name that does is not terminated, neither in the entry nor where it is
read to.
-/

namespace BobaOS.Fat

open ByteStore Programs Vfsl

def LFN_ENTRY_LAST_FLAG : UInt8 := 0x40

/-- The 32 bytes of a `struct longFileNameEntry`. -/
abbrev LongFileNameEntry := Nat → UInt8

/-! ## Writing a name -/

/-- The loops of `toLongFileName` over the fields of the three groups, with what is
left of them and of the name. -/
def fillFields : Nat → CString → Bool → List Nat
  | 0, _, _ => []
  | left + 1, char :: name, false => char.toNat :: fillFields left name false
  | left + 1, [], false => 0x0000 :: fillFields left [] true
  | left + 1, name, true => 0xFFFF :: fillFields left name true

/-- The bytes of 16-bit fields. -/
def fieldBytes (fields : List Nat) : Nat → UInt8 := fun offset =>
  let field := fields.getD (offset / 2) 0
  if offset % 2 = 0 then UInt8.ofNat field else UInt8.ofNat (field / 256)

def toLongFileName (name : CString) (orderNumber : Nat) (checkSum : UInt8) : LongFileNameEntry :=
  let fields := fillFields 13 name false
  let longEntry : LongFileNameEntry := fun offset =>
    if offset = 0 then UInt8.ofNat orderNumber
    else if offset = 11 then 0x0F
    else if offset = 13 then checkSum
    else 0
  let longEntry := overwrite longEntry 1 10 (fieldBytes (fields.take 5))
  let longEntry := overwrite longEntry 14 12 (fieldBytes ((fields.drop 5).take 6))
  overwrite longEntry 28 4 (fieldBytes (fields.drop 11))

/-- The number of entries of a name, kept in a `uint8_t`. -/
def entriesNeeded (fileName : CString) : Nat :=
  let fileNameLength := fileName.length % 2 ^ 16
  (fileNameLength / 13 + if 0 < fileNameLength % 13 then 1 else 0) % 2 ^ 8

/-- One of the entries of a name. The last one is marked. -/
def longEntryOf (fileName : CString) (checkSum : UInt8) (i : Nat) : LongFileNameEntry :=
  let longEntry := toLongFileName (fileName.drop (i * 13)) (i + 1) checkSum
  if i + 1 = entriesNeeded fileName then
    overwrite longEntry 0 1 fun _ => longEntry 0 ||| LFN_ENTRY_LAST_FLAG
  else longEntry

/-- The entries of a name, in their order on the disk. -/
def longEntries (fileName : CString) (checkSum : UInt8) : List LongFileNameEntry :=
  (List.range (entriesNeeded fileName)).reverse.map (longEntryOf fileName checkSum)

section Code

variable (env : Environment)

/-- The loop of `createLongFileNameEntryAtAddress`, with so many entries left. -/
def writeLongEntries (address : Nat → Nat) (fileName : CString) (checkSum : UInt8) :
    Nat → Nat → Code → M Code
  | 0, _, errCode => return errCode
  | i + 1, count, errCode => do
    match ← kzalloc env 32 with
    | none => return -ENMEM
    | some block =>
      if errCode < 0 then return errCode
      let errCode ← seekWrite env (address count)
      if errCode < 0 then return errCode
      let errCode ← writeStream env (longEntryOf fileName checkSum i) 32
      if errCode < 0 then return errCode
      kzfree (some block)
      writeLongEntries address fileName checkSum i (count + 1) errCode

/-- `createLongFileNameEntryAtAddress`: the error code. -/
def createLongFileNameEntryAtAddress (address : Nat → Nat) (fileName : CString) (checkSum : UInt8)
    (errCode : Code) : M Code :=
  writeLongEntries env address fileName checkSum (entriesNeeded fileName) 0 errCode

end Code

/-! ## Reading it -/

def readField (entry : LongFileNameEntry) (offset : Nat) : Nat :=
  (entry offset).toNat + (entry (offset + 1)).toNat * 256

/-- The fields of an entry, at the offsets of the three groups. -/
def entryFields (entry : LongFileNameEntry) : List Nat :=
  [(1, 5), (14, 6), (28, 2)].flatMap fun group =>
    (List.range group.2).map fun l => readField entry (group.1 + 2 * l)

/-- The fields of an entry are copied up to the padding. Whether it was met comes back,
with the buffer and the number of characters, kept in a `uint16_t`. -/
def copyFields : List Nat → (Nat → UInt8) → Nat → Bool × (Nat → UInt8) × Nat
  | [], oName, charCounter => (false, oName, charCounter)
  | field :: fields, oName, charCounter =>
    if field = 65535 then (true, oName, charCounter)
    else copyFields fields (overwrite oName charCounter 1 fun _ => UInt8.ofNat field)
      ((charCounter + 1) % 2 ^ 16)

/-- The loop over the entries, in the order in which it takes them. -/
def copyEntries : List LongFileNameEntry → (Nat → UInt8) → Nat → (Nat → UInt8)
  | [], oName, _ => oName
  | currEntry :: rest, oName, charCounter =>
    match copyFields (entryFields currEntry) oName charCounter with
    | (true, oName, _) => oName
    | (false, oName, charCounter) => copyEntries rest oName charCounter

/-- `longFileNameEntriesToName` of the entries of a chain. -/
def longFileNameEntriesToName (lfnChain : List LongFileNameEntry) (oName : Nat → UInt8) :
    Nat → UInt8 := copyEntries lfnChain.reverse oName 0

/-! ## The layout of an entry -/

/-- The fields of a group. -/
def groupFields (entry : LongFileNameEntry) (group : Nat × Nat) : List Nat :=
  (List.range group.2).map fun l => readField entry (group.1 + 2 * l)

theorem entryFields_groups (entry : LongFileNameEntry) :
    entryFields entry =
      groupFields entry (1, 5) ++ groupFields entry (14, 6) ++ groupFields entry (28, 2) := by
  simp [entryFields, groupFields]

theorem readField_outside (entry : LongFileNameEntry) {address length offset : Nat}
    (values : Nat → UInt8) (outside : offset + 1 < address ∨ address + length ≤ offset) :
    readField (overwrite entry address length values) offset = readField entry offset := by
  rw [readField, overwrite_outside _ _ _ _ _ (by omega),
    overwrite_outside _ _ _ _ _ (by omega), readField]

/-- The two bytes of a field make it up again. -/
theorem readField_fieldBytes (entry : LongFileNameEntry) {address count l : Nat}
    (fields : List Nat) (inside : l < count) (small : fields.getD l 0 < 2 ^ 16) :
    readField (overwrite entry address (2 * count) (fieldBytes fields)) (address + 2 * l) =
      fields.getD l 0 := by
  have first : address + 2 * l - address = 2 * l := by omega
  have second : address + 2 * l + 1 - address = 2 * l + 1 := by omega
  have half : (2 * l + 1) / 2 = l := by omega
  have odd : (2 * l + 1) % 2 = 1 := by omega
  rw [readField, overwrite_inside _ _ _ _ _ (by omega),
    overwrite_inside _ _ _ _ _ (by omega), first, second]
  simp only [fieldBytes, Nat.mul_div_right l (by decide : 0 < 2), Nat.mul_mod_right, half, odd,
    Nat.one_ne_zero, if_true, if_false, UInt8.toNat_ofNat']
  omega

/-- A group that holds as many fields shows them. -/
theorem groupFields_overwrite (entry : LongFileNameEntry) (address : Nat) {count : Nat}
    {fields : List Nat} (long : fields.length = count) (small : ∀ field ∈ fields, field < 2 ^ 16) :
    groupFields (overwrite entry address (2 * count) (fieldBytes fields)) (address, count) =
      fields := by
  subst long
  apply List.ext_getElem
  · simp [groupFields]
  · intro l left right
    have member := small _ (List.getElem_mem right)
    have same : fields.getD l 0 = fields[l] := by simp [List.getD, right]
    simp only [groupFields, List.getElem_map, List.getElem_range]
    rw [readField_fieldBytes entry fields right (same ▸ member), same]

/-- Bytes outside a group do not show in it. -/
theorem groupFields_outside (entry : LongFileNameEntry) {address length : Nat}
    (values : Nat → UInt8) (group : Nat × Nat)
    (outside : group.1 + 2 * group.2 ≤ address ∨ address + length ≤ group.1) :
    groupFields (overwrite entry address length values) group = groupFields entry group := by
  apply List.map_congr_left
  intro l member
  have bounded := List.mem_range.mp member
  exact readField_outside entry values (by omega)

theorem length_fillFields (left : Nat) (name : CString) (terminated : Bool) :
    (fillFields left name terminated).length = left := by
  fun_induction fillFields left name terminated <;> simp [*]

theorem fillFields_small (left : Nat) (name : CString) (terminated : Bool) :
    ∀ field ∈ fillFields left name terminated, field < 2 ^ 16 := by
  fun_induction fillFields left name terminated with
  | case1 => simp
  | case2 left char name ih =>
    have bounded := char.toNat_lt
    simp only [List.mem_cons, forall_eq_or_imp]
    exact ⟨by omega, ih⟩
  | case3 left ih => simpa using ih
  | case4 left name ih => simpa using ih

/-- The three groups of an entry show the fields they were filled from. -/
theorem entryFields_toLongFileName (name : CString) (orderNumber : Nat) (checkSum : UInt8) :
    entryFields (toLongFileName name orderNumber checkSum) = fillFields 13 name false := by
  have long := length_fillFields 13 name false
  have small := fillFields_small 13 name false
  have low : ((fillFields 13 name false).take 5).length = 5 := by simp [long]
  have mid : (((fillFields 13 name false).drop 5).take 6).length = 6 := by simp [long]
  have high : ((fillFields 13 name false).drop 11).length = 2 := by simp [long]
  rw [entryFields_groups, toLongFileName, groupFields_outside _ _ (1, 5) (by decide),
    groupFields_outside _ _ (1, 5) (by decide), groupFields_outside _ _ (14, 6) (by decide),
    groupFields_overwrite _ 1 low fun field member => small field (List.mem_of_mem_take member),
    groupFields_overwrite _ 14 mid fun field member =>
      small field (List.mem_of_mem_drop (List.mem_of_mem_take member)),
    groupFields_overwrite _ 28 high fun field member => small field (List.mem_of_mem_drop member),
    List.append_assoc]
  have rest : (fillFields 13 name false).drop 11 = ((fillFields 13 name false).drop 5).drop 6 := by
    rw [List.drop_drop]
  rw [rest, List.take_append_drop, List.take_append_drop]

/-- The mark of the last entry is outside the groups. -/
theorem entryFields_longEntryOf (fileName : CString) (checkSum : UInt8) (i : Nat) :
    entryFields (longEntryOf fileName checkSum i) =
      fillFields 13 (fileName.drop (i * 13)) false := by
  rw [longEntryOf]
  split
  · rw [entryFields_groups, groupFields_outside _ _ (1, 5) (by decide),
      groupFields_outside _ _ (14, 6) (by decide), groupFields_outside _ _ (28, 2) (by decide),
      ← entryFields_groups, entryFields_toLongFileName]
  · rw [entryFields_toLongFileName]

/-! ## What is read back -/

/-- The characters of a name that fills the fields. -/
theorem fillFields_full (left : Nat) (name : CString) (full : left ≤ name.length) :
    fillFields left name false = (name.take left).map UInt8.toNat := by
  induction left generalizing name with
  | zero => simp [fillFields]
  | succ left induction =>
    cases name with
    | nil => simp at full
    | cons char name => simp [fillFields, induction name (by simpa using full)]

/-- A shorter name is terminated and padded. -/
theorem fillFields_short (left : Nat) (name : CString) (short : name.length < left) :
    ∃ padding, fillFields left name false = name.map UInt8.toNat ++ 0 :: padding ∧
      padding = List.replicate (left - name.length - 1) 0xFFFF := by
  refine ⟨_, ?_, rfl⟩
  induction left generalizing name with
  | zero => simp at short
  | succ left induction =>
    cases name with
    | nil =>
      have pad : ∀ count, fillFields count [] true = List.replicate count 0xFFFF := by
        intro count
        induction count with
        | zero => rfl
        | succ count induction => rw [fillFields, induction, List.replicate_succ]
      simp [fillFields, pad]
    | cons char name =>
      simp [fillFields, induction name (by simpa using short)]

/-- Characters are copied behind each other. -/
theorem copyFields_chars (chars : CString) (rest : List Nat) (oName : Nat → UInt8)
    (charCounter : Nat) (bounded : charCounter + chars.length < 2 ^ 16) :
    copyFields (chars.map UInt8.toNat ++ rest) oName charCounter =
      copyFields rest (overwrite oName charCounter chars.length fun i => chars.getD i 0)
        (charCounter + chars.length) := by
  induction chars generalizing oName charCounter with
  | nil => simp
  | cons char chars induction =>
    have small := char.toNat_lt
    have padding : char.toNat ≠ 65535 := by omega
    rw [List.length_cons] at bounded
    have next : (charCounter + 1) % 2 ^ 16 = charCounter + 1 := Nat.mod_eq_of_lt (by omega)
    rw [List.map_cons, List.cons_append, copyFields, if_neg padding, next,
      induction _ _ (by omega), List.length_cons, Nat.add_comm chars.length 1,
      ← overwrite_append oName charCounter 1 chars.length, Nat.add_assoc]
    congr 2
    · apply overwrite_congr
      intro offset inside
      simp [Nat.lt_one_iff.mp inside]
    · funext offset
      simp [Nat.add_comm 1]

section ReadBack

variable {fileName : CString} (checkSum : UInt8)

theorem entriesNeeded_eq (short : fileName.length ≤ 251) :
    entriesNeeded fileName =
      fileName.length / 13 + if fileName.length % 13 = 0 then 0 else 1 := by
  have whole : fileName.length % 2 ^ 16 = fileName.length := Nat.mod_eq_of_lt (by omega)
  simp only [entriesNeeded, whole]
  split <;> split <;> omega

/-- Copying the next characters of the name behind those copied before. -/
theorem overwrite_name (oName : Nat → UInt8) (i count : Nat) :
    overwrite (overwrite oName 0 (13 * i) fun j => fileName.getD j 0) (13 * i) count
        (fun j => (fileName.drop (i * 13)).getD j 0) =
      overwrite oName 0 (13 * i + count) fun j => fileName.getD j 0 := by
  rw [← overwrite_append oName 0 (13 * i) count, Nat.zero_add]
  apply overwrite_congr
  intro offset _
  simp [List.getD, Nat.mul_comm i]

/-- An entry whose thirteen characters are all of the name is copied as a whole. -/
theorem copyFields_full (i : Nat) (oName : Nat → UInt8) (full : 13 * i + 13 ≤ fileName.length)
    (short : fileName.length ≤ 251) :
    copyFields (entryFields (longEntryOf fileName checkSum i))
        (overwrite oName 0 (13 * i) fun j => fileName.getD j 0) (13 * i) =
      (false, overwrite oName 0 (13 * i + 13) fun j => fileName.getD j 0, 13 * i + 13) := by
  have long : 13 ≤ (fileName.drop (i * 13)).length := by
    rw [List.length_drop]
    omega
  have count : ((fileName.drop (i * 13)).take 13).length = 13 :=
    List.length_take.trans (Nat.min_eq_left long)
  have copied := copyFields_chars ((fileName.drop (i * 13)).take 13) []
    (overwrite oName 0 (13 * i) fun j => fileName.getD j 0) (13 * i) (by omega)
  rw [List.append_nil, count, copyFields] at copied
  rw [entryFields_longEntryOf, fillFields_full 13 _ long, copied, ← overwrite_name]
  congr 2
  apply overwrite_congr
  intro offset inside
  simp [List.getD, inside]

/-- In an entry that the name does not fill the terminator is copied, and the padding, if
there is any, is not. -/
theorem copyFields_last (i : Nat) (oName : Nat → UInt8) (begun : 13 * i ≤ fileName.length)
    (last : fileName.length < 13 * i + 13) (short : fileName.length ≤ 251) :
    ∃ ended charCounter, copyFields (entryFields (longEntryOf fileName checkSum i))
        (overwrite oName 0 (13 * i) fun j => fileName.getD j 0) (13 * i) =
      (ended, overwrite oName 0 (fileName.length + 1) fun j => fileName.getD j 0,
        charCounter) := by
  have rest : (fileName.drop (i * 13)).length = fileName.length - 13 * i := by
    rw [List.length_drop, Nat.mul_comm]
  have whole : 13 * i + (fileName.length - 13 * i + 1) = fileName.length + 1 := by omega
  obtain ⟨padding, filled, padded⟩ := fillFields_short 13 (fileName.drop (i * 13)) (by omega)
  have terminated : (fileName.drop (i * 13)).map UInt8.toNat ++ 0 :: padding =
      (fileName.drop (i * 13) ++ [0]).map UInt8.toNat ++ padding := by simp
  have copied := copyFields_chars (fileName.drop (i * 13) ++ [0]) padding
    (overwrite oName 0 (13 * i) fun j => fileName.getD j 0) (13 * i) (by
      rw [List.length_append, rest, List.length_singleton]
      omega)
  have name : (fun j => (fileName.drop (i * 13) ++ [0]).getD j 0) =
      fun j => (fileName.drop (i * 13)).getD j 0 := by
    funext j
    simp only [List.getD, List.getElem?_append]
    split
    · rfl
    · rename_i behind
      rw [List.getElem?_eq_none (Nat.not_lt.mp behind)]
      cases j - (fileName.drop (i * 13)).length <;> rfl
  rw [List.length_append, rest, List.length_singleton, name, overwrite_name, whole] at copied
  rw [entryFields_longEntryOf, filled, terminated, copied, padded]
  cases 13 - (fileName.drop (i * 13)).length - 1 with
  | zero => exact ⟨_, _, rfl⟩
  | succ more => exact ⟨_, _, rfl⟩

/-- The entries from the k-th on complete what has been copied. -/
theorem copyEntries_rest (oName : Nat → UInt8) (short : fileName.length ≤ 251) (left i : Nat)
    (counted : i + left = entriesNeeded fileName) (begun : 13 * i ≤ fileName.length) :
    copyEntries ((List.range' i left).map (longEntryOf fileName checkSum))
        (overwrite oName 0 (13 * i) fun j => fileName.getD j 0) (13 * i) =
      overwrite oName 0 (fileName.length + if fileName.length % 13 = 0 then 0 else 1)
        fun j => fileName.getD j 0 := by
  have needed := entriesNeeded_eq short
  induction left generalizing i with
  | zero =>
    have filled : 13 * i = fileName.length ∧ fileName.length % 13 = 0 := by
      split at needed <;> omega
    rw [if_pos filled.2, filled.1]
    rfl
  | succ left induction =>
    rw [List.range'_succ, List.map_cons, copyEntries]
    by_cases full : 13 * i + 13 ≤ fileName.length
    · rw [copyFields_full checkSum i oName full short]
      exact induction (i + 1) (by omega) (by omega)
    · obtain ⟨ended, charCounter, copied⟩ :=
        copyFields_last checkSum i oName begun (by omega) short
      have none_left : left = 0 ∧ fileName.length % 13 ≠ 0 := by
        split at needed <;> omega
      rw [copied, none_left.1, if_neg none_left.2]
      cases ended <;> rfl

/-- A name that is written and read back lies at the front of the buffer, with a
terminator only if its last entry had room for one. -/
theorem longFileNameEntriesToName_longEntries (oName : Nat → UInt8)
    (short : fileName.length ≤ 251) :
    longFileNameEntriesToName (longEntries fileName checkSum) oName =
      overwrite oName 0 (fileName.length + if fileName.length % 13 = 0 then 0 else 1)
        fun j => fileName.getD j 0 := by
  have copied := copyEntries_rest checkSum oName short (entriesNeeded fileName) 0 (by simp) (by simp)
  rw [Nat.mul_zero, overwrite_empty] at copied
  rw [longFileNameEntriesToName, longEntries, ← List.map_reverse, List.reverse_reverse,
    List.range_eq_range', copied]

end ReadBack

/-! ## The round trip -/

/-- The buffer holds the string: its bytes, none of them NUL, and a NUL behind them. -/
def HoldsString (buffer : Nat → UInt8) (text : CString) : Prop :=
  (∀ i < text.length, buffer i = text.getD i 0 ∧ buffer i ≠ 0) ∧ buffer text.length = 0

/-- A name comes back as the string it was if it does not fill its last entry. If it
does, then only where the buffer held a NUL behind it before.

Proof: the entries give the front of the buffer in groups of thirteen characters, by
induction on the entries that are left; the terminator is one more character of the
last entry that the name does not fill. -/
theorem long_name_round_trip (fileName : CString) (checkSum : UInt8) (oName : Nat → UInt8)
    (short : fileName.length ≤ 251) (terminated : 0 ∉ fileName) :
    HoldsString (longFileNameEntriesToName (longEntries fileName checkSum) oName) fileName ↔
      fileName.length % 13 ≠ 0 ∨ oName fileName.length = 0 := by
  rw [longFileNameEntriesToName_longEntries checkSum oName short]
  have spelled : ∀ i < fileName.length,
      overwrite oName 0 (fileName.length + if fileName.length % 13 = 0 then 0 else 1)
          (fun j => fileName.getD j 0) i = fileName.getD i 0 ∧
        overwrite oName 0 (fileName.length + if fileName.length % 13 = 0 then 0 else 1)
          (fun j => fileName.getD j 0) i ≠ 0 := by
    intro i inside
    have char : fileName.getD i 0 = fileName[i] := by simp [List.getD, inside]
    rw [overwrite_inside _ _ _ _ _ (by omega), Nat.sub_zero, char]
    exact ⟨rfl, fun zero => terminated (zero ▸ List.getElem_mem inside)⟩
  rw [HoldsString, and_iff_right spelled]
  by_cases full : fileName.length % 13 = 0
  · rw [if_pos full, overwrite_outside _ _ _ _ _ (by omega)]
    simp [full]
  · rw [if_neg full, overwrite_inside _ _ _ _ _ (by omega)]
    simp [full]

/-- A name of thirteen characters, and a buffer that held something else. -/
def nameOfThirteen : CString := List.replicate 13 97

theorem short_name_round_trip :
    HoldsString (longFileNameEntriesToName (longEntries [107, 118] 7) fun _ => 0x41) [107, 118] :=
  (long_name_round_trip [107, 118] 7 (fun _ => 0x41) (by decide) (by decide)).mpr
    (.inl (by decide))

/-- Nothing ends the name that was read. -/
theorem full_entry_unterminated :
    0 < nameOfThirteen.length ∧ nameOfThirteen.length ≤ 251 ∧ 0 ∉ nameOfThirteen ∧
      (longEntries nameOfThirteen 7).length = 1 ∧
      ¬ HoldsString (longFileNameEntriesToName (longEntries nameOfThirteen 7) fun _ => 0x41)
        nameOfThirteen :=
  ⟨by decide, by decide, by decide, by decide, fun holds => absurd holds.2 (by decide)⟩

end BobaOS.Fat
