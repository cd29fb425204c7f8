import BobaOS.Library.Runs
import BobaOS.Paging.PageTree

/-!
# The page tables refine a map of pages

A partial map from page numbers to words is all the tables are for. Over every
run of one-page mappings and flag removals, whatever the kernel heap answers, the
tables show such a map: a mapping that succeeds writes its own page's word, one
that finds the heap full changes nothing, and removing flags touches one word.
-/

namespace BobaOS.Paging

open Runs TableTree

/-! ## The abstract map -/

/-- The words of the pages that have been mapped. -/
abbrev PageMap := BitVec 36 → Option (BitVec 64)

/-- The word of a page mapped to a physical address: the physical page number
above the flags P and RW. -/
def pageWord (physical : BitVec 64) : BitVec 64 :=
  (pageOf physical ++ (0b11 : BitVec 12)).setWidth 64

/-- The calls of a run with the codes the mappings returned. -/
inductive Action where
  | mapOrCreateRange (physical virtual : BitVec 64) (code : Code)
  | remapPhysicalToVirtual (physical virtual : BitVec 64) (code : Code)
  | removePageFlag (virtual : BitVec 64) (flag : BitVec 16)

/-- A mapping sets one word or reports a full heap. -/
def PageMap.Mapped (map : PageMap) (physical virtual : BitVec 64) (code : Code)
    (next : PageMap) : Prop :=
  code = SUCCESS ∧ next = Function.update map (pageOf virtual) (some (pageWord physical)) ∨
    code = -ENMEM ∧ next = map

/-- The abstract system. -/
def pageMaps : System PageMap Action where
  start map := map = fun _ => none
  step map action next := match action with
    | .mapOrCreateRange physical virtual code => map.Mapped physical virtual code next
    | .remapPhysicalToVirtual physical virtual code => map.Mapped physical virtual code next
    | .removePageFlag virtual flag => ∃ word, map (pageOf virtual) = some word ∧
        next = Function.update map (pageOf virtual) (some (word &&& ~~~(flag.setWidth 64)))

/-! ## Sessions with a page table -/

/-- The machine, with the pages that have been mapped so far. -/
structure Session where
  state : State
  mapped : BitVec 36 → Prop

/-- The pages mapped after a mapping that returned the code. -/
def Session.mappedAfter (session : Session) (virtual : BitVec 64) (code : Code) :
    BitVec 36 → Prop :=
  fun page => session.mapped page ∨ code = SUCCESS ∧ page = pageOf virtual

/-- Runs on a table made by `createEmptyPageTable`. Flags are removed from pages
already mapped. -/
def sessions (answers : Nat → BitVec 64) (root : BitVec 64) : System Session Action where
  start session := root ≠ 0 ∧
    (∃ before, createEmptyPageTable answers before = (root, session.state)) ∧
    ∀ page, ¬ session.mapped page
  step session action after := match action with
    | .mapOrCreateRange physical virtual code =>
        mapOrCreateRange answers root physical virtual SIZE_4KB session.state =
          some (code, after.state) ∧ after.mapped = session.mappedAfter virtual code
    | .remapPhysicalToVirtual physical virtual code =>
        remapPhysicalToVirtual answers physical virtual root session.state =
          some (code, after.state) ∧ after.mapped = session.mappedAfter virtual code
    | .removePageFlag virtual flag => session.mapped (pageOf virtual) ∧
        after.state = removePageFlag virtual flag root session.state ∧
        after.mapped = session.mapped

/-- The tables show the map: every page's leaf is its word, zero for a page that
is not mapped. -/
structure Shows (root : BitVec 64) (session : Session) (map : PageMap) : Prop where
  leaves : ∀ page, leafEntry session.state.memory root page = (map page).getD 0
  mapped : ∀ page, session.mapped page ↔ (map page).isSome

/-- What holds of every session: the tree has its shape, and the pages mapped
have page tables. -/
structure Sound (answers : Nat → BitVec 64) (root : BitVec 64) (session : Session) : Prop where
  shaped : WellShaped answers root session.state
  tables : ∀ page, session.mapped page →
    (reach session.state.memory root (slotsAbove page)).isSome

variable {answers : Nat → BitVec 64} {root : BitVec 64}

/-- The word that the source assembles is the abstract one. -/
theorem pageWord_stored (physical : BitVec 64) :
    physical &&& STORED_ADDRESS ||| (PAGING_FLAG_P ||| PAGING_FLAG_RW).setWidth 64 =
      pageWord physical := by
  have flags : ∀ i : Fin 64, ((PAGING_FLAG_P ||| PAGING_FLAG_RW).setWidth 64 : BitVec 64).getLsbD i =
      (decide (i.val < 12) && (0b11 : BitVec 12).getLsbD i) := by decide
  apply BitVec.eq_of_getLsbD_eq
  intro i wide
  have flag := flags ⟨i, wide⟩
  simp only at flag
  rw [BitVec.getLsbD_or, BitVec.getLsbD_and, storedAddress_bit, flag, pageWord,
    BitVec.getLsbD_setWidth, BitVec.getLsbD_append, pageOf, BitVec.getLsbD_setWidth,
    BitVec.getLsbD_ushiftRight]
  by_cases low : i < 12
  · simp [low, wide]
  · have back : 12 + (i - 12) = i := by omega
    have inside : (i - 12 < 36) = (i < 48) := by
      rw [eq_iff_iff]
      omega
    simp [low, wide, back, inside, show 12 ≤ i by omega, Bool.and_comm]

/-- Every slot of a table just created is zero. -/
theorem createEmptyPageTable_slots (fresh : FreshPages answers) {before after : State}
    (created : createEmptyPageTable answers before = (root, after)) (nonzero : root ≠ 0)
    (slot : BitVec 9) : slots after.memory root slot = 0 := by
  obtain ⟨rfl, rfl⟩ := Prod.mk.inj created
  have valid : PageAligned (answers before.requests) := fresh.valid _
  have inside : InPage (answers before.requests)
      (entryAddress (answers before.requests) (slot.setWidth 16)) :=
    (entryAddress_inPage _ _ valid valid slot).mpr rfl
  simp only [slots, if_neg nonzero, if_pos inside]

/-- A table just created is the whole tree. -/
theorem createEmptyPageTable_reach (fresh : FreshPages answers) {before after : State}
    (created : createEmptyPageTable answers before = (root, after)) (nonzero : root ≠ 0)
    {path : List (BitVec 9)} {table : BitVec 64}
    (reached : reach after.memory root path = some table) : path = [] ∧ table = root := by
  cases path with
  | nil => exact ⟨rfl, (Option.some.inj reached).symm⟩
  | cons slot rest =>
    have vacant : childTable (slots after.memory root slot) = none := by
      rw [createEmptyPageTable_slots fresh created nonzero slot]
      exact childTable_zero
    rw [reach, tableAt, List.foldlM_cons, vacant] at reached
    cases reached

/-- A table just created has the shape of a tree. -/
theorem createEmptyPageTable_shaped (fresh : FreshPages answers) {before after : State}
    (created : createEmptyPageTable answers before = (root, after)) (nonzero : root ≠ 0) :
    WellShaped answers root after := by
  have only {path : List (BitVec 9)} {table : BitVec 64}
      (reached : reach after.memory root path = some table) : path = [] ∧ table = root :=
    createEmptyPageTable_reach fresh created nonzero reached
  refine ⟨?_, ?_, ?_⟩
  · intro left right table _ _ leftReached rightReached
    rw [(only leftReached).1, (only rightReached).1]
  · intro path table _ reached
    obtain ⟨rfl, rfl⟩ := only reached
    obtain ⟨named, rfl⟩ := Prod.mk.inj created
    exact ⟨nonzero, before.requests, Nat.lt_succ_self _, named⟩
  · intro path table slot _ reached _
    obtain ⟨rfl, rfl⟩ := only reached
    exact createEmptyPageTable_slots fresh created nonzero slot

/-- A mapping that succeeded keeps a session sound. -/
theorem Sound.maps {session after : Session} {virtual : BitVec 64} {word : BitVec 64} {code : Code}
    (sound : Sound answers root session)
    (maps : Maps answers root session.state after.state (pageOf virtual) word)
    (mapped : after.mapped = session.mappedAfter virtual code) : Sound answers root after where
  shaped := maps.shaped
  tables page was := by
    rw [mapped] at was
    rcases was with earlier | ⟨_, rfl⟩
    · obtain ⟨table, reached⟩ := Option.isSome_iff_exists.mp (sound.tables page earlier)
      rw [maps.kept _ table (slotsAbove_length page).le reached]
      rfl
    · exact maps.mapped

/-- So does one that found the heap full. -/
theorem Sound.extends {session after : Session} {virtual : BitVec 64} {code : Code}
    (sound : Sound answers root session)
    (extended : Extends answers root session.state after.state) (failed : code ≠ SUCCESS)
    (mapped : after.mapped = session.mappedAfter virtual code) : Sound answers root after where
  shaped := extended.shaped
  tables page was := by
    rw [mapped] at was
    rcases was with earlier | ⟨succeeded, _⟩
    · obtain ⟨table, reached⟩ := Option.isSome_iff_exists.mp (sound.tables page earlier)
      rw [extended.kept _ table (slotsAbove_length page).le reached]
      rfl
    · exact absurd succeeded failed

/-- The tables after a mapping that succeeded show the map with its page set. -/
theorem Shows.maps {session after : Session} {map : PageMap} {virtual word : BitVec 64}
    (shows : Shows root session map)
    (maps : Maps answers root session.state after.state (pageOf virtual) word)
    (mapped : ∀ page, after.mapped page ↔ session.mapped page ∨ page = pageOf virtual) :
    Shows root after (Function.update map (pageOf virtual) (some word)) where
  leaves page := by
    rw [maps.leaves page, Function.update_apply]
    split
    · rfl
    · exact shows.leaves page
  mapped page := by
    rw [mapped page, Function.update_apply, shows.mapped page]
    split
    · simp [*]
    · simp [*]

/-- One mapping of a session: a sound session stays sound, and the map it shows
takes the abstract step. -/
theorem Sound.mapPage {session after : Session} {map : PageMap} {physical virtual : BitVec 64}
    {code : Code} (fresh : FreshPages answers) (sound : Sound answers root session)
    (shows : Shows root session map)
    (called : mapOrCreateRange answers root physical virtual SIZE_4KB session.state =
      some (code, after.state)) (mapped : after.mapped = session.mappedAfter virtual code) :
    Sound answers root after ∧ ∃ next, map.Mapped physical virtual code next ∧
      Shows root after next := by
  rw [mapOrCreateRange_page, Option.some.injEq] at called
  have outcome := sound.shaped.mapPage fresh physical virtual
  rw [called, pageWord_stored] at outcome
  rcases outcome with ⟨rfl, maps⟩ | ⟨rfl, extended⟩
  · refine ⟨sound.maps maps mapped, _, .inl ⟨rfl, rfl⟩, shows.maps maps ?_⟩
    intro page
    rw [mapped, Session.mappedAfter]
    simp
  · have failed : -ENMEM ≠ SUCCESS := by decide
    refine ⟨sound.extends extended failed mapped, map, .inr ⟨rfl, rfl⟩, ?_, ?_⟩
    · intro page
      rw [extended.leaves page]
      exact shows.leaves page
    · intro page
      rw [mapped, Session.mappedAfter, ← shows.mapped page]
      simp [failed]

/-- One removal of flags, likewise. -/
theorem Sound.removePageFlag {session after : Session} {map : PageMap} {virtual : BitVec 64}
    {flag : BitVec 16} (fresh : FreshPages answers) (sound : Sound answers root session)
    (shows : Shows root session map) (was : session.mapped (pageOf virtual))
    (called : after.state = removePageFlag virtual flag root session.state)
    (mapped : after.mapped = session.mapped) :
    Sound answers root after ∧ ∃ next, pageMaps.step map (.removePageFlag virtual flag) next ∧
      Shows root after next := by
  have maps := sound.shaped.removePageFlag fresh virtual flag (sound.tables _ was)
  rw [← called] at maps
  obtain ⟨word, present⟩ := Option.isSome_iff_exists.mp ((shows.mapped _).mp was)
  have leaf : leafEntry session.state.memory root (pageOf virtual) = word := by
    rw [shows.leaves, present, Option.getD_some]
  rw [leaf] at maps
  have same (page : BitVec 36) :
      after.mapped page ↔ session.mapped page ∨ page = pageOf virtual := by
    rw [mapped]
    constructor
    · exact .inl
    · rintro (earlier | rfl)
      · exact earlier
      · exact was
  refine ⟨⟨maps.shaped, ?_⟩, _, ⟨word, present, rfl⟩, shows.maps maps same⟩
  intro page earlier
  obtain ⟨table, reached⟩ := Option.isSome_iff_exists.mp (sound.tables page (mapped ▸ earlier))
  rw [maps.kept _ table (slotsAbove_length page).le reached]
  rfl

/-- Sessions refine the abstract map, step by step. -/
theorem sessions_simulated (fresh : FreshPages answers) :
    System.Simulation (sessions answers root) pageMaps
      (fun session map => Sound answers root session ∧ Shows root session map) where
  initially := by
    rintro session ⟨nonzero, ⟨before, created⟩, none⟩
    refine ⟨fun _ => .none, rfl, ⟨createEmptyPageTable_shaped fresh created nonzero, ?_⟩, ?_, ?_⟩
    · intro page was
      exact absurd was (none page)
    · intro page
      have absent : reach session.state.memory root (slotsAbove page) = .none := by
        rw [Option.eq_none_iff_forall_ne_some]
        intro table reached
        have empty := (createEmptyPageTable_reach fresh created nonzero reached).1
        cases empty
      exact leafEntry_absent absent
    · intro page
      simp [none page]
  matched := by
    rintro session after label map ⟨sound, shows⟩ stepped
    cases label with
    | mapOrCreateRange physical virtual code =>
      obtain ⟨still, next, taken, together⟩ := sound.mapPage fresh shows stepped.1 stepped.2
      exact ⟨next, taken, still, together⟩
    | remapPhysicalToVirtual physical virtual code =>
      obtain ⟨still, next, taken, together⟩ := sound.mapPage fresh shows stepped.1 stepped.2
      exact ⟨next, taken, still, together⟩
    | removePageFlag virtual flag =>
      obtain ⟨still, next, taken, together⟩ :=
        sound.removePageFlag fresh shows stepped.1 stepped.2.1 stepped.2.2
      exact ⟨next, taken, still, together⟩

/-- Every session shows a partial map of pages that took the same steps. From
wherever it stands, a mapping returns; it sets exactly the leaf of its virtual
page, or reports a full heap and changes no leaf; and removing flags from a
mapped page clears exactly these in exactly one leaf. -/
theorem sessions_refine_page_map (fresh : FreshPages answers) {past : List Action}
    {session : Session} (reached : (sessions answers root).Reaches past session) :
    (∃ map, pageMaps.Reaches past map ∧ Shows root session map) ∧
    (∀ physical virtual, ∃ code after,
      mapOrCreateRange answers root physical virtual SIZE_4KB session.state = some (code, after) ∧
      remapPhysicalToVirtual answers physical virtual root session.state = some (code, after) ∧
      (code = SUCCESS ∧ (∀ page, leafEntry after.memory root page =
          if page = pageOf virtual then pageWord physical
          else leafEntry session.state.memory root page) ∨
        code = -ENMEM ∧ ∀ page, leafEntry after.memory root page =
          leafEntry session.state.memory root page)) ∧
    ∀ virtual flag, session.mapped (pageOf virtual) → ∀ page,
      leafEntry (removePageFlag virtual flag root session.state).memory root page =
        if page = pageOf virtual then
          leafEntry session.state.memory root page &&& ~~~(flag.setWidth 64)
        else leafEntry session.state.memory root page := by
  obtain ⟨map, abstractRun, sound, shows⟩ := (sessions_simulated fresh).reached reached
  refine ⟨⟨map, abstractRun, shows⟩, ?_, ?_⟩
  · intro physical virtual
    refine ⟨_, _, mapOrCreateRange_page _ _ _ _ _, mapOrCreateRange_page _ _ _ _ _, ?_⟩
    have outcome := sound.shaped.mapPage fresh physical virtual
    rw [pageWord_stored] at outcome
    rcases outcome with ⟨succeeded, maps⟩ | ⟨failed, extended⟩
    · exact .inl ⟨succeeded, maps.leaves⟩
    · exact .inr ⟨failed, extended.leaves⟩
  · intro virtual flag was page
    have maps := sound.shaped.removePageFlag fresh virtual flag (sound.tables _ was)
    rw [maps.leaves page]
    split
    · subst page
      rfl
    · rfl

/-- A heap of sixteen pages. -/
def sixteenPages (request : Nat) : BitVec 64 :=
  if request < 16 then BitVec.ofNat 64 (0x600000 + request * 4096) else 0

theorem sixteenPages_fresh : FreshPages sixteenPages where
  valid request := by
    rw [sixteenPages]
    split
    · constructor
      · simp only [BitVec.toNat_ofNat]
        omega
      · simp only [BitVec.toNat_ofNat]
        omega
    · exact ⟨rfl, by decide⟩
  distinct earlier later before nonzero same := by
    have numbers := congrArg BitVec.toNat same
    simp only [sixteenPages] at nonzero numbers
    split at nonzero
    · rw [if_pos (by omega), if_pos (by omega)] at numbers
      simp only [BitVec.toNat_ofNat] at numbers
      omega
    · exact nonzero rfl

/-- The first table of that heap. -/
def firstTable : State := (createEmptyPageTable sixteenPages ⟨fun _ => 0, 0⟩).2

/-- A page mapped on that heap. -/
theorem one_page_mapped :
    ∃ session map,
      (sessions sixteenPages 0x600000).Reaches [.mapOrCreateRange 0x7000 0x5000 SUCCESS] session ∧
      pageMaps.Reaches [.mapOrCreateRange 0x7000 0x5000 SUCCESS] map ∧
      Shows 0x600000 session map := by
  have created : createEmptyPageTable sixteenPages ⟨fun _ => 0, 0⟩ = (0x600000, firstTable) := rfl
  have succeeded : (mapPage sixteenPages 0x600000 0x7000 0x5000 firstTable).1 = SUCCESS := by
    decide +kernel
  have mapped : mapOrCreateRange sixteenPages 0x600000 0x7000 0x5000 SIZE_4KB firstTable =
      some (SUCCESS, (mapPage sixteenPages 0x600000 0x7000 0x5000 firstTable).2) := by
    rw [mapOrCreateRange_page, ← succeeded]
  have begun : (sessions sixteenPages 0x600000).Reaches [] ⟨firstTable, fun _ => False⟩ :=
    .start _ ⟨by decide, ⟨_, created⟩, fun _ => id⟩
  have reached := System.Reaches.step [] _ ⟨_, _⟩
    (Action.mapOrCreateRange 0x7000 0x5000 SUCCESS) begun ⟨mapped, rfl⟩
  obtain ⟨⟨map, abstractRun, shows⟩, _⟩ := sessions_refine_page_map sixteenPages_fresh reached
  exact ⟨_, map, reached, abstractRun, shows⟩

end BobaOS.Paging
