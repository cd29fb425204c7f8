import BobaOS.Fat.EntryUpdates
import BobaOS.Fat.FileCreation
import BobaOS.Fat.ReadFile

/-!
# Failures

A request of the heap is refused, or a transfer of the driver fails. The search for a free
cluster, a directory that grows and the replacement of an entry check the code of every
transfer; but NULL for a block leaves the code as it was, and is used. The search for free
entries of a directory and the creation of a file look at neither: they take the code of a
directory that could not grow for the number of a cluster.
-/

namespace BobaOS.Fat

open ByteStore Programs Chains

/-! ## Patterns of failures -/

/-- The kinds of failures that may happen. -/
structure Failures where
  heap : Bool
  disk : Bool

/-- The same volume and blocks, under some pattern of failures of these kinds only. -/
structure Pattern (base : Environment) (kinds : Failures) (env : Environment) : Prop where
  volume : env.volumeSize = base.volumeSize
  rooms : env.capacity = base.capacity
  heap : kinds.heap = false → env.Roomy
  disk : kinds.disk = false → ∀ call, 0 ≤ env.transfer call

/-- Something failed in between: a transfer, or a request whatever it asks for. -/
def Environment.Failed (env : Environment) (before after : World) : Prop :=
  (∃ call, before.transfers ≤ call ∧ call < after.transfers ∧ env.transfer call < 0) ∨
    ∃ request, before.requests ≤ request ∧ request < after.requests ∧
      ∀ size, env.kzalloc request size = false

/-- A call is met by no NULL pointer, and returns a negative code if something failed. -/
def ReportsFailures {α : Type} (env : Environment) (program : M α) (code : α → Code)
    (world : World) : Prop :=
  Meets program world (· ≠ .nullPointer) fun result after =>
    env.Failed world after → code result < 0

variable {env base : Environment} {fat : FatPrivate} {stack : Stack} {world : World}
  {kinds : Failures}

/-- What fails in a run fails in a part of it. -/
theorem failed_wrongs (env : Environment) : Wrongs env.Failed := by
  constructor
  · rintro world (⟨call, first, last, -⟩ | ⟨request, first, last, -⟩)
    · omega
    · omega
  · rintro first last middle (⟨call, from_first, to_last, failed⟩ |
      ⟨request, from_first, to_last, refused⟩)
    · rcases Nat.lt_or_ge call middle.transfers with before | behind
      · exact .inl (.inl ⟨call, from_first, before, failed⟩)
      · exact .inr (.inl ⟨call, behind, to_last, failed⟩)
    · rcases Nat.lt_or_ge request middle.requests with before | behind
      · exact .inl (.inr ⟨request, from_first, before, refused⟩)
      · exact .inr (.inr ⟨request, behind, to_last, refused⟩)

/-- Nothing fails where nothing is transferred or requested. -/
theorem not_failed {before after : World} (transfers : after.transfers = before.transfers)
    (requests : after.requests = before.requests) : ¬ env.Failed before after := by
  rintro (⟨call, first, last, -⟩ | ⟨request, first, last, -⟩)
  · omega
  · omega

/-- Nothing fails in a transfer that passes. -/
theorem not_failed_transfer {before after : World} (passed : 0 ≤ env.transfer before.transfers)
    (transfers : after.transfers = before.transfers + 1)
    (requests : after.requests = before.requests) : ¬ env.Failed before after := by
  rintro (⟨call, first, last, failed⟩ | ⟨request, first, last, -⟩)
  · obtain rfl : call = before.transfers := by omega
    exact Int.not_lt.mpr passed failed
  · omega

/-! ## Where failures are told -/

section Told

/-- A call whose result has a code that tells of every failure. -/
abbrev Told {α : Type} (env : Environment) (code : α → Code) (good : α → Prop) (program : M α) :
    Prop :=
  Tells env.Failed (· ≠ Fault.nullPointer) (fun result => code result < 0) good program

theorem Told.reports {α : Type} {code : α → Code} {good : α → Prop} {program : M α}
    (told : Told env code good program) (world : World) :
    ReportsFailures env program code world := by
  apply (told world).mono
  rintro result after (negative | ⟨clean, -⟩) failed
  · exact negative
  · exact absurd failed clean

/-- The check of a code that ends a call. -/
theorem Told.check {α β : Type} {code : α → Code} {good : α → Prop} {first : M α} {out : β → Code}
    {fine : β → Prop} {stop : α → β} {rest : α → M β} (told : Told env code good first)
    (stops : ∀ result, code result < 0 → out (stop result) < 0)
    (onward : ∀ result, good result → Told env out fine (rest result)) :
    Told env out fine
      (first >>= fun result => if code result < 0 then pure (stop result) else rest result) := by
  refine told.bind (failed_wrongs env)
    (fun result negative => ⟨_, if_pos negative, stops result negative⟩) fun result passed holds => ?_
  rw [if_neg passed]
  exact onward result holds

theorem told_seekRead (position : Nat) : Told env id (fun _ => True) (seekRead env position) := by
  intro world
  apply (seekRead_cases position).mono
  rintro ret after (⟨-, -, rfl⟩ | ⟨rfl, -, -⟩)
  · exact .inr ⟨not_failed rfl rfl, trivial⟩
  · exact .inl (by decide)

theorem told_seekWrite (position : Nat) : Told env id (fun _ => True) (seekWrite env position) := by
  intro world
  apply (seekWrite_cases position).mono
  rintro ret after (⟨-, -, rfl⟩ | ⟨rfl, -, -⟩)
  · exact .inr ⟨not_failed rfl rfl, trivial⟩
  · exact .inl (by decide)

theorem told_readStream (out : Nat → UInt8) (capacity offset length : Nat) :
    Told env Prod.fst (fun _ => True) (readStream env out capacity offset length) := by
  have refused : -EDISKSPACE < 0 := by decide
  intro world
  by_cases room : offset + length ≤ capacity
  · apply (readStream_cases out capacity offset length room).mono
    rintro result after (⟨-, rfl, -⟩ | ⟨failed, rfl, -⟩ | ⟨-, passed, -, rfl⟩)
    · exact .inl refused
    · exact .inl failed
    · exact .inr ⟨not_failed_transfer passed rfl rfl, trivial⟩
  · rw [readStream, meets_bind, meets_get, meets_ite]
    refine ⟨fun _ => .pure (.inl refused), fun _ => ?_⟩
    dsimp only
    rw [meets_ite]
    refine ⟨fun failed => ?_, fun _ => ?_⟩
    · rw [meets_bind, meets_set]
      exact .pure (.inl failed)
    · rw [if_pos (Nat.not_le.mp room), meets_bind]
      exact .throw (by decide)

theorem told_writeStream (input : Nat → UInt8) (length : Nat) :
    Told env id (fun _ => True) (writeStream env input length) := by
  intro world
  apply (writeStream_cases input length).mono
  rintro ret after (⟨-, rfl, -⟩ | ⟨failed, rfl, -⟩ | ⟨-, passed, -, rfl⟩)
  · exact .inl (by decide)
  · exact .inl failed
  · exact .inr ⟨not_failed_transfer passed rfl rfl, trivial⟩

theorem told_getFatEntry (entry : Nat) :
    Told env Prod.fst (fun _ => True) (getFatEntry env fat entry) := by
  rw [getFatEntry]
  refine (told_seekRead _).check (fun code negative => negative) fun code _ => ?_
  refine (told_readStream _ _ _ _).check (fun result negative => negative) fun result _ => ?_
  exact .pure (failed_wrongs env) (.inr trivial)

theorem told_writeFATEntry (cluster value : Nat) :
    Told env id (fun _ => True) (writeFATEntry env fat cluster value) := by
  rw [writeFATEntry]
  refine (told_seekWrite _).check (fun ret negative => negative) fun ret _ => ?_
  refine (told_writeStream _ _).check (fun ret negative => negative) fun ret _ => ?_
  refine (told_seekWrite _).check (fun ret negative => negative) fun ret _ => ?_
  exact told_writeStream _ _

/-- Where no request is refused, the entries are there or a code tells why not. -/
theorem told_kzalloc (roomy : env.Roomy) (size : Nat) :
    Tells env.Failed (· ≠ Fault.nullPointer) (fun _ => False) (· ≠ none) (kzalloc env size) := by
  intro world
  rw [kzalloc, meets_bind, meets_get, if_pos (roomy _ _)]
  dsimp only
  rw [meets_bind, meets_set]
  refine .pure (.inr ⟨?_, Option.some_ne_none _⟩)
  rintro (⟨call, first, last, -⟩ | ⟨request, -, -, refused⟩)
  · exact absurd (first.trans_lt last) (Nat.lt_irrefl _)
  · exact Bool.false_ne_true ((refused size).symm.trans (roomy request size))

theorem told_getMultipleFatEntries (roomy : env.Roomy) (start stop : Nat) (errCode : Code) :
    Told env Prod.fst (fun result => result.2 ≠ none)
      (getMultipleFatEntries env fat start stop errCode) := by
  rw [getMultipleFatEntries]
  refine (told_kzalloc roomy _).bind (failed_wrongs env) (fun _ impossible => impossible.elim) ?_
  rintro (_ | block) - given
  · exact absurd rfl given
  refine (told_seekRead _).check (fun code negative => negative) fun code _ => ?_
  refine (told_readStream _ _ _ _).check (fun result negative => negative) fun result _ => ?_
  exact .pure (failed_wrongs env) (.inr (Option.some_ne_none _))

theorem told_searchWindows (roomy : env.Roomy) (fuel start stop : Nat) (errCode : Code) :
    Told env Prod.fst (fun _ => True) (searchWindows env fat fuel start stop errCode) := by
  induction fuel generalizing start stop errCode with
  | zero => exact .throw (by decide)
  | succ fuel induction =>
    rw [searchWindows]
    refine .ite (fun _ => ?_) fun _ => .pure (failed_wrongs env) (.inr trivial)
    refine (told_getMultipleFatEntries roomy _ _ _).check (fun result negative => negative) ?_
    rintro ⟨code, _ | entries⟩ given
    · exact absurd rfl given
    dsimp only
    cases firstFree 512 entries with
    | none => exact induction _ _ _
    | some i => exact .pure (failed_wrongs env) (.inr trivial)

theorem told_getFreeFatEntryCluster (roomy : env.Roomy) (errCode : Code) :
    Told env Prod.fst (fun _ => True) (getFreeFatEntryCluster env fat errCode) := by
  intro world
  rw [getFreeFatEntryCluster]
  apply (told_searchWindows roomy _ _ _ _ world).bind
  intro result searched outcome
  rw [meets_bind, meets_modify]
  refine .pure (outcome.imp_right fun both => ⟨fun failed => both.1 ?_, trivial⟩)
  exact ((failed_wrongs env).parts searched failed).resolve_right (not_failed rfl rfl)

theorem told_makeDirBigger (roomy : env.Roomy) (endCluster : Nat) :
    Told env id (fun _ => True) (makeDirBigger env fat endCluster) := by
  rw [makeDirBigger]
  refine (told_getFreeFatEntryCluster roomy _).check (fun result negative => negative) ?_
  rintro ⟨code, cluster⟩ -
  refine .ite (fun _ => .pure (failed_wrongs env) (.inr trivial)) fun _ => ?_
  refine (told_writeFATEntry _ _).check (fun code negative => negative) fun code _ => ?_
  refine (told_writeFATEntry _ _).check (fun code negative => negative) fun code _ => ?_
  refine (told_seekWrite _).check (fun code negative => negative) fun code _ => ?_
  refine (told_writeStream _ _).check (fun code negative => negative) fun code _ => ?_
  exact .pure (failed_wrongs env) (.inr trivial)

theorem told_getDirEntrySingleCluster (roomy : env.Roomy) (cluster outMaxEntries : Nat)
    (errCode : Code) :
    Told env Prod.fst (fun result => result.2.2 ≠ none)
      (getDirEntrySingleCluster env fat cluster outMaxEntries errCode) := by
  rw [getDirEntrySingleCluster]
  refine (told_kzalloc roomy _).bind (failed_wrongs env) (fun _ impossible => impossible.elim) ?_
  rintro (_ | block) - given
  · exact absurd rfl given
  refine (told_seekRead _).check (fun code negative => negative) fun code _ => ?_
  refine (told_readStream _ _ _ _).check (fun result negative => negative) fun result _ => ?_
  exact .pure (failed_wrongs env) (.inr (Option.some_ne_none _))

/-- Entries that are there are read without a call. -/
theorem told_findSameName (entries : Entries) (entryToUpdate : DirectoryEntry) (left i : Nat) :
    Tells env.Failed (· ≠ Fault.nullPointer) (fun _ => False) (fun _ => True)
      (findSameName (some entries) entryToUpdate left i) := by
  have wrongs := failed_wrongs env
  induction left generalizing i with
  | zero => exact .pure wrongs (.inr trivial)
  | succ left induction =>
    rw [findSameName, readAttributes]
    by_cases short : entries.block.capacity < 32 * i + 12
    · rw [if_pos short]
      intro world
      rw [meets_bind]
      exact .throw (by decide)
    · rw [if_neg short, pure_bind]
      exact .ite (fun _ => .pure wrongs (.inr trivial)) fun _ => induction (i + 1)

theorem told_writeEntryAtAddress (entry : DirectoryEntry) (address : Nat) :
    Told env id (fun _ => True) (writeEntryAtAddress env entry address) := by
  rw [writeEntryAtAddress]
  refine (told_seekWrite _).check (fun code negative => negative) fun code _ => ?_
  exact told_writeStream _ _

theorem told_updateEntries (roomy : env.Roomy) (clusterOfDirectory : Nat)
    (entryToUpdate newEntry : DirectoryEntry) (fuel nextEntry maxEntries : Nat) (ret : Code) :
    Told env id (fun _ => True) (updateEntries env fat clusterOfDirectory entryToUpdate newEntry fuel
      nextEntry maxEntries ret) := by
  have wrongs := failed_wrongs env
  induction fuel generalizing nextEntry maxEntries ret with
  | zero => exact .throw (by decide)
  | succ fuel induction =>
    rw [updateEntries]
    refine (told_getDirEntrySingleCluster roomy _ _ _).check (fun result negative => negative) ?_
    rintro ⟨code, count, _ | entries⟩ given
    · exact absurd rfl given
    refine (told_findSameName entries _ _ _).bind wrongs (fun _ impossible => impossible.elim) ?_
    rintro (_ | i) - -
    · refine (told_getFatEntry _).check (fun result negative => negative) fun result _ => ?_
      exact .ite (fun _ => induction _ _ _) fun _ => .pure wrongs (.inr trivial)
    · exact told_writeEntryAtAddress _ _

theorem told_updateDirectoryEntry (roomy : env.Roomy) (clusterOfDirectory : Nat)
    (entryToUpdate newEntry : DirectoryEntry) :
    Told env id (fun _ => True)
      (updateDirectoryEntry env fat stack clusterOfDirectory entryToUpdate newEntry) := by
  intro world
  rw [updateDirectoryEntry, meets_bind, meets_get]
  exact told_updateEntries roomy _ _ _ _ _ _ _ world

end Told

/-! ## A search that keeps codes apart from clusters -/

section Checked

variable (env : Environment) (fat : FatPrivate) (grown : Code → M Nat)

/-- The loop of `getFreeDirEntriesAddresses`, in which `grown` makes a cluster of the result of
`makeDirBigger`. -/
def searchFreeBy (list : Block) (count : Nat) :
    Nat → Nat → Nat → Nat → Option Entries → List Nat → Code → M (Code × Option (List Nat))
  | 0, _, _, _, _, _, _ => throw .endless
  | fuel + 1, oldCluster, fatEntry, maxEntriesPerCluster, entries, addresses, errCode => do
    let (enough, addresses) ←
      scanFree fat list count oldCluster entries maxEntriesPerCluster 0 addresses
    if enough then return (errCode, some addresses)
    let fatEntry ← if fatEntry = FAT_ENTRY_USED then makeDirBigger env fat oldCluster >>= grown
      else pure fatEntry
    kzfree (blockOf entries)
    let (_, maxEntriesPerCluster, entries) ←
      getDirEntrySingleCluster env fat fatEntry maxEntriesPerCluster errCode
    let oldCluster := fatEntry
    let (errCode, fatEntry) ← getFatEntry env fat fatEntry
    if errCode < 0 then
      kzfree (blockOf entries)
      return (errCode, none)
    searchFreeBy list count fuel oldCluster fatEntry maxEntriesPerCluster entries addresses errCode

/-- `getFreeDirEntriesAddresses` with this loop. -/
def getFreeDirEntriesAddressesBy (startEntry : DirectoryEntry) (count : Nat) :
    M (Code × Option (Block × List Nat)) := do
  match ← kzalloc env count with
  | none => return (-ENMEM, none)
  | some dirEntryAddressList =>
    let oldCluster := startEntry.startCluster
    let (errCode, fatEntry) ← getFatEntry env fat oldCluster
    if errCode < 0 then return (errCode, none)
    let (errCode, maxEntriesPerCluster, entries) ←
      getDirEntrySingleCluster env fat oldCluster 0 errCode
    match ← searchFreeBy env fat grown dirEntryAddressList count (2 ^ 32) oldCluster fatEntry
        maxEntriesPerCluster entries [] errCode with
    | (errCode, none) => return (errCode, none)
    | (errCode, some addresses) => return (errCode, some (dirEntryAddressList, addresses))

end Checked

/-- The source takes any result for a cluster. -/
def anyCluster (code : Code) : M Nat := return asUInt32 code

/-- Here a code that is negative is as bad as a NULL pointer. -/
def checkedCluster (code : Code) : M Nat :=
  if code < 0 then throw .nullPointer else return asUInt32 code

theorem searchFreeBy_any (list : Block) (count : Nat) :
    searchFreeBy env fat anyCluster list count = searchFree env fat list count := by
  funext fuel
  induction fuel with
  | zero => rfl
  | succ fuel induction =>
    funext oldCluster fatEntry maxEntries entries addresses errCode
    rw [searchFreeBy, searchFree, induction]
    rfl

/-- With `anyCluster` this is the code of the source. -/
theorem getFreeDirEntriesAddressesBy_any (startEntry : DirectoryEntry) (count : Nat) :
    getFreeDirEntriesAddressesBy env fat anyCluster startEntry count =
      getFreeDirEntriesAddresses env fat startEntry count := by
  simp only [getFreeDirEntriesAddressesBy, searchFreeBy_any]
  rfl

/-! ## Directories that are not read -/

section Walk

/-- The entry of a data cluster is read if the next transfer passes. -/
theorem getFatEntry_passes (layout : Layout env fat) {cluster : Nat}
    (is_data : DataCluster env fat cluster) (passes : 0 ≤ env.transfer world.transfers)
    {fault : Fault → Prop} :
    Meets (getFatEntry env fat cluster) world fault fun result after =>
      0 ≤ result.1 ∧ result.2 = entryAt fat world.bytes cluster ∧ after.bytes = world.bytes ∧
        after.requests = world.requests ∧ after.transfers = world.transfers + 1 := by
  obtain ⟨numbered, small, entry, -⟩ := is_data
  obtain ⟨copy, data, narrow, inside, -⟩ := layout
  rw [getFatEntry]
  apply (seekRead_cases _).bind
  rintro ret moved (⟨rfl, -, rfl⟩ | ⟨-, outside, -⟩)
  case inr => omega
  rw [if_success]
  apply (readStream_cases (fun _ => 0) 4 0 4 (by decide)).bind
  rintro result after (⟨beyond, -, -⟩ | ⟨failed, -, -⟩ | ⟨-, -, rfl, rfl⟩)
  · dsimp only at beyond
    omega
  · exact absurd passes (Int.not_le.mpr failed)
  · dsimp only
    rw [if_neg (Int.not_lt.mpr passes)]
    refine .pure ⟨passes, ?_, rfl, rfl, rfl⟩
    rw [entryAt, Nat.mul_comm 4, Nat.add_comm fat.fatAddress]
    rfl

/-- A cluster is not read if there is no block for it. -/
theorem unread_refused (refused : env.kzalloc world.requests 32 = false) (cluster count : Nat)
    (errCode : Code) {fault : Fault → Prop} :
    Meets (getDirEntrySingleCluster env fat cluster count errCode) world fault fun result after =>
      result = (errCode, count, none) ∧
        after = { world with requests := world.requests + 1 } := by
  rw [getDirEntrySingleCluster, kzalloc, bind_assoc, meets_bind, meets_get, refused,
    if_neg Bool.false_ne_true, bind_assoc, meets_bind, meets_set, pure_bind]
  exact .pure ⟨rfl, rfl⟩

/-- It is not read if there is one and the transfer fails. -/
theorem unread_failed (granted : env.kzalloc world.requests 32 = true) {cluster : Nat}
    (is_data : DataCluster env fat cluster) (positive : 0 < fat.clusterSize)
    (failed : env.transfer world.transfers < 0) (count : Nat) (errCode : Code)
    {fault : Fault → Prop} :
    Meets (getDirEntrySingleCluster env fat cluster count errCode) world fault fun result after =>
      result.2 = (count, none) ∧ after.bytes = world.bytes ∧
        after.requests = world.requests + 1 ∧ after.transfers = world.transfers + 1 := by
  have place := is_data.place_inside
  have fits := Nat.mod_le (dataClusterToAbsoluteAddress fat cluster + fat.clusterSize) (2 ^ 64)
  rw [getDirEntrySingleCluster, kzalloc, bind_assoc, meets_bind, meets_get, if_pos granted]
  dsimp only
  rw [bind_assoc, meets_bind, meets_set, pure_bind]
  apply (seekRead_cases _).bind
  rintro ret moved (⟨rfl, -, rfl⟩ | ⟨-, outside, -⟩)
  case inr => omega
  rw [if_success, readStream, bind_assoc, meets_bind, meets_get, if_neg (by dsimp only; omega)]
  dsimp only
  rw [if_pos failed, bind_assoc, meets_bind, meets_set, pure_bind]
  dsimp only
  rw [if_pos failed]
  exact .pure ⟨rfl, rfl, rfl, rfl⟩

/-- Where clusters are not read, but the entries that lead from one to the next are, and a
directory cannot grow: in a state before a cluster, and in one before an entry. -/
structure Blind (env : Environment) (fat : FatPrivate) (at_cluster at_entry : World → Prop) :
    Prop where
  unread : ∀ {world : World}, at_cluster world → ∀ {cluster : Nat}, DataCluster env fat cluster →
    ∀ errCode, Meets (getDirEntrySingleCluster env fat cluster 0 errCode) world
      (· = .nullPointer) fun result after =>
        result.2 = (0, none) ∧ after.bytes = world.bytes ∧ at_entry after
  leads : ∀ {world : World}, at_entry world → ∀ {cluster : Nat}, DataCluster env fat cluster →
    Meets (getFatEntry env fat cluster) world (· = .nullPointer) fun result after =>
      0 ≤ result.1 ∧ result.2 = entryAt fat world.bytes cluster ∧ after.bytes = world.bytes ∧
        at_cluster after
  stuck : ∀ {world : World}, at_cluster world → ∀ cluster,
    Meets (makeDirBigger env fat cluster) world (· = .nullPointer) fun code _ => code < 0

variable {at_cluster at_entry : World → Prop} {cluster : Nat} {rest : List Nat}

/-- The search follows the chain to its end, where it takes a code for a cluster. -/
theorem Blind.search (blind : Blind env fat at_cluster at_entry) (list : Block) (count fuel : Nat)
    (errCode : Code) (here : at_cluster world) (chain : Chain (links fat world.bytes) (cluster :: rest))
    (clusters : Clusters env fat (cluster :: rest)) (enough : rest.length < fuel) :
    Meets (searchFreeBy env fat checkedCluster list count fuel cluster (entryTo rest) 0 none []
      errCode) world (· = .nullPointer) fun _ _ => False := by
  induction rest generalizing world cluster fuel errCode with
  | nil =>
    obtain ⟨fuel, rfl⟩ := Nat.exists_eq_add_of_lt enough
    rw [List.length_nil, Nat.zero_add, searchFreeBy, scanFree, pure_bind]
    dsimp only
    rw [if_neg Bool.false_ne_true, if_pos (show entryTo [] = FAT_ENTRY_USED from rfl), bind_assoc]
    apply (blind.stuck here cluster).bind
    intro code after negative
    rw [checkedCluster, if_pos negative, meets_bind]
    exact .throw rfl
  | cons next rest induction =>
    obtain ⟨fuel, rfl⟩ := Nat.exists_eq_add_of_lt enough
    have is_data := clusters next (List.mem_cons_of_mem _ List.mem_cons_self)
    obtain ⟨-, not_used⟩ := chain_no_mark chain
    rw [searchFreeBy, scanFree, pure_bind]
    dsimp only
    rw [if_neg Bool.false_ne_true, entryTo, List.headD_cons, if_neg not_used, pure_bind, blockOf,
      Option.map_none, kzfree, pure_bind]
    apply (blind.unread here is_data errCode).bind
    rintro ⟨code, count, entries⟩ read ⟨result, bytes, before⟩
    obtain ⟨rfl, rfl⟩ := Prod.mk.inj result
    apply (blind.leads before is_data).bind
    rintro ⟨code, entry⟩ after ⟨nonnegative, value, still, again⟩
    dsimp only at nonnegative value ⊢
    have same := still.trans bytes
    have onward : entry = entryTo rest := by
      rw [value, bytes, ← table_eq world.bytes is_data.entry]
      exact chain_entryTo chain.2
    rw [if_neg (Int.not_lt.mpr nonnegative), onward]
    refine induction _ code again ?_ clusters.tail (by rw [List.length_cons]; omega)
    rw [same]
    exact chain.2

end Walk

/-! ## The search without a block or a transfer -/

section Search

/-- A search for which there is no block uses NULL. -/
theorem getFreeFatEntryCluster_refused (refused : ∀ size, env.kzalloc world.requests size = false)
    (scans : 512 < fat.bootRecord.totalSectorsBig) {errCode : Code} (passed : 0 ≤ errCode) :
    Meets (getFreeFatEntryCluster env fat errCode) world (· = .nullPointer) fun _ _ => False := by
  obtain ⟨fuel, enough⟩ := Nat.exists_eq_add_of_le' (show 1 ≤ 2 ^ 23 by decide)
  rw [getFreeFatEntryCluster, enough, searchWindows, if_pos scans, getMultipleFatEntries, kzalloc]
  simp only [bind_assoc]
  rw [meets_bind, meets_get, refused, if_neg Bool.false_ne_true, bind_assoc, meets_bind, meets_set,
    pure_bind, pure_bind]
  dsimp only
  rw [if_neg (Int.not_lt.mpr passed), meets_bind]
  exact .throw rfl

/-- A search whose first transfer fails tells of it. -/
theorem getFreeFatEntryCluster_failed (granted : ∀ size, env.kzalloc world.requests size = true)
    (scans : 512 < fat.bootRecord.totalSectorsBig) (failed : env.transfer world.transfers < 0)
    (errCode : Code) {fault : Fault → Prop} :
    Meets (getFreeFatEntryCluster env fat errCode) world fault fun result _ => result.1 < 0 := by
  have refused : -EDISKSPACE < 0 := by decide
  obtain ⟨fuel, enough⟩ := Nat.exists_eq_add_of_le' (show 1 ≤ 2 ^ 23 by decide)
  have window : Meets (getMultipleFatEntries env fat 0 512 errCode) world fault
      fun result _ => result.1 < 0 := by
    rw [getMultipleFatEntries, kzalloc, bind_assoc, meets_bind, meets_get, granted, if_pos rfl]
    dsimp only
    rw [bind_assoc, meets_bind, meets_set, pure_bind]
    apply (seekRead_cases _).bind
    rintro ret moved (⟨rfl, -, rfl⟩ | ⟨rfl, -, -⟩)
    case inr => exact .pure refused
    rw [if_success, readStream, bind_assoc, meets_bind, meets_get]
    split
    · exact .pure refused
    · dsimp only
      rw [if_pos failed, bind_assoc, meets_bind, meets_set, pure_bind]
      dsimp only
      rw [if_pos failed]
      exact .pure failed
  rw [getFreeFatEntryCluster, enough, searchWindows, if_pos scans, bind_assoc]
  apply window.bind
  rintro ⟨code, entries⟩ after negative
  dsimp only at negative ⊢
  rw [if_pos negative, pure_bind, meets_bind, meets_modify]
  exact .pure negative

/-- A volume of few sectors is not searched. -/
theorem getFreeFatEntryCluster_few (few : fat.bootRecord.totalSectorsBig ≤ 512) (errCode : Code)
    {fault : Fault → Prop} :
    Meets (getFreeFatEntryCluster env fat errCode) world fault fun result after =>
      result = (errCode, 0) ∧ after.transfers = world.transfers ∧
        after.requests = world.requests := by
  obtain ⟨fuel, enough⟩ := Nat.exists_eq_add_of_le' (show 1 ≤ 2 ^ 23 by decide)
  rw [getFreeFatEntryCluster, enough, searchWindows, if_neg (Nat.not_lt.mpr few), pure_bind,
    meets_bind, meets_modify]
  exact .pure ⟨rfl, rfl, rfl⟩

/-- Nor does a directory of it grow. -/
theorem makeDirBigger_few (few : fat.bootRecord.totalSectorsBig ≤ 512) (endCluster : Nat)
    {fault : Fault → Prop} :
    Meets (makeDirBigger env fat endCluster) world fault fun code _ => code < 0 := by
  rw [makeDirBigger]
  apply (getFreeFatEntryCluster_few few 0).bind
  rintro result after ⟨rfl, -, -⟩
  exact .pure (by decide)

theorem makeDirBigger_refused (refused : ∀ size, env.kzalloc world.requests size = false)
    (scans : 512 < fat.bootRecord.totalSectorsBig) (endCluster : Nat) :
    Meets (makeDirBigger env fat endCluster) world (· = .nullPointer) fun _ _ => False := by
  rw [makeDirBigger]
  exact (getFreeFatEntryCluster_refused refused scans (Int.le_refl 0)).bind
    fun _ _ impossible => impossible.elim

theorem makeDirBigger_failed (granted : ∀ size, env.kzalloc world.requests size = true)
    (scans : 512 < fat.bootRecord.totalSectorsBig) (failed : env.transfer world.transfers < 0)
    (endCluster : Nat) {fault : Fault → Prop} :
    Meets (makeDirBigger env fat endCluster) world fault fun code _ => code < 0 := by
  rw [makeDirBigger]
  apply (getFreeFatEntryCluster_failed granted scans failed 0).bind
  rintro ⟨code, cluster⟩ after negative
  dsimp only at negative ⊢
  rw [if_pos negative]
  exact .pure negative

end Search

/-! ## Two patterns -/

section Patterns

variable (base)

/-- Every transfer passes, and requests are granted up to a number. -/
def refusing (granted : Nat) : Environment :=
  { base with
    transfer := fun _ => SUCCESS
    kzalloc := fun request _ => decide (request < granted) }

/-- Every request is granted, and from a number on every other transfer passes, but for the one
behind it. -/
def failing (first : Nat) : Environment :=
  { base with
    transfer := fun call =>
      if call = first ∨ first + 2 < call ∧ (call - first) % 2 = 1 then SUCCESS else - EIO
    kzalloc := fun _ _ => true }

variable {base}

theorem refusing_pattern (granted : Nat) (heap : kinds.heap = true) :
    Pattern base kinds (refusing base granted) where
  volume := rfl
  rooms := rfl
  heap none := absurd (heap.symm.trans none) (by decide)
  disk _ _ := Int.le_refl 0

theorem failing_pattern (first : Nat) (disk : kinds.disk = true) :
    Pattern base kinds (failing base first) where
  volume := rfl
  rooms := rfl
  heap _ _ _ := rfl
  disk none := absurd (disk.symm.trans none) (by decide)

theorem refusing_blind (layout : Layout base fat) (granted : Nat) :
    Blind (refusing base granted) fat (granted ≤ ·.requests) (granted ≤ ·.requests) where
  unread {world} refused cluster is_data errCode := by
    have no_block : (refusing base granted).kzalloc world.requests 32 = false :=
      decide_eq_false (Nat.not_lt.mpr refused)
    apply (unread_refused no_block cluster 0 errCode).mono
    rintro result after ⟨rfl, rfl⟩
    exact ⟨rfl, rfl, Nat.le_succ_of_le refused⟩
  leads {world} refused cluster is_data := by
    have passes : 0 ≤ (refusing base granted).transfer world.transfers := Int.le_refl 0
    have same_layout : Layout (refusing base granted) fat := { layout with }
    apply (getFatEntry_passes same_layout is_data passes).mono
    rintro result after ⟨nonnegative, value, bytes, requests, -⟩
    exact ⟨nonnegative, value, bytes, requests.symm ▸ refused⟩
  stuck {world} refused cluster := by
    rcases Nat.lt_or_ge 512 fat.bootRecord.totalSectorsBig with scans | few
    · exact (makeDirBigger_refused (fun _ => decide_eq_false (Nat.not_lt.mpr refused)) scans
        cluster).mono fun _ _ impossible => impossible.elim
    · exact makeDirBigger_few few cluster

theorem failing_blind (layout : Layout base fat) (first : Nat) :
    Blind (failing base first) fat
      (fun world => first + 2 ≤ world.transfers ∧ (world.transfers - first) % 2 = 0)
      (fun world => first + 2 ≤ world.transfers ∧ (world.transfers - first) % 2 = 1) where
  unread {world} here cluster is_data errCode := by
    have failed : (failing base first).transfer world.transfers < 0 := by
      dsimp only [failing]
      rw [if_neg (by omega)]
      decide
    apply (unread_failed rfl is_data layout.cluster failed 0 errCode).mono
    rintro result after ⟨none, bytes, -, transfers⟩
    exact ⟨none, bytes, by omega, by omega⟩
  leads {world} here cluster is_data := by
    have passes : 0 ≤ (failing base first).transfer world.transfers := by
      dsimp only [failing]
      rw [if_pos (by omega)]
      decide
    have same_layout : Layout (failing base first) fat := { layout with }
    apply (getFatEntry_passes same_layout is_data passes).mono
    rintro result after ⟨nonnegative, value, bytes, -, transfers⟩
    exact ⟨nonnegative, value, bytes, by omega, by omega⟩
  stuck {world} here cluster := by
    rcases Nat.lt_or_ge 512 fat.bootRecord.totalSectorsBig with scans | few
    · have failed : (failing base first).transfer world.transfers < 0 := by
        dsimp only [failing]
        rw [if_neg (by omega)]
        decide
      exact makeDirBigger_failed (fun _ => rfl) scans failed cluster
    · exact makeDirBigger_few few cluster

end Patterns

/-! ## Which calls report every failure -/

section Calls

/-- No negative code is taken for a cluster in the search for the free entries of a directory:
`makeDirBigger` is the only function whose result is a cluster or a code. -/
def KeepsCodesApart (env : Environment) (fat : FatPrivate) (startEntry : DirectoryEntry)
    (count : Nat) (world : World) : Prop :=
  Meets (getFreeDirEntriesAddressesBy env fat checkedCluster startEntry count) world
    (· ≠ .nullPointer) fun _ _ => True

/-- A search that goes blind at its start takes a code for a cluster. -/
theorem Blind.addresses {at_cluster at_entry : World → Prop}
    (blind : Blind env fat at_cluster at_entry) (opened : World → Prop)
    {startEntry : DirectoryEntry} {count : Nat}
    {rest : List Nat} (chain : Chain (links fat world.bytes) (startEntry.startCluster :: rest))
    (clusters : Clusters env fat (startEntry.startCluster :: rest))
    (granted : env.kzalloc world.requests count = true)
    (opens : ∀ {between : World}, between.bytes = world.bytes →
      between.requests = world.requests + 1 → between.transfers = world.transfers →
      Meets (getFatEntry env fat startEntry.startCluster) between (· = .nullPointer)
        fun result after => 0 ≤ result.1 ∧
          result.2 = entryAt fat between.bytes startEntry.startCluster ∧
          after.bytes = between.bytes ∧ opened after)
    (unread : ∀ {between : World}, opened between → ∀ errCode,
      Meets (getDirEntrySingleCluster env fat startEntry.startCluster 0 errCode) between
        (· = .nullPointer) fun result after =>
          result.2 = (0, none) ∧ after.bytes = between.bytes ∧ at_cluster after) :
    ¬ KeepsCodesApart env fat startEntry count world := by
  have few := clusters.length_le chain.nodup
  rw [List.length_cons] at few
  have stuck : Meets (getFreeDirEntriesAddressesBy env fat checkedCluster startEntry count) world
      (· = .nullPointer) fun _ _ => False := by
    rw [getFreeDirEntriesAddressesBy, kzalloc, bind_assoc, meets_bind, meets_get, if_pos granted]
    dsimp only
    rw [bind_assoc, meets_bind, meets_set, pure_bind]
    dsimp only
    refine Meets.bind (opens ?_ ?_ ?_) ?_
    · rfl
    · rfl
    · rfl
    rintro ⟨code, entry⟩ between ⟨nonnegative, value, bytes, begun⟩
    dsimp only at nonnegative value ⊢
    have onward : entry = entryTo rest := by
      rw [value, ← table_eq world.bytes (clusters _ List.mem_cons_self).entry]
      exact chain_entryTo chain
    rw [if_neg (Int.not_lt.mpr nonnegative), onward]
    apply (unread begun code).bind
    rintro ⟨ret, number, entries⟩ after ⟨result, still, here⟩
    obtain ⟨rfl, rfl⟩ := Prod.mk.inj result
    refine (blind.search _ count (2 ^ 32) ret here ?_ clusters (by omega)).bind
      fun _ _ impossible => impossible.elim
    rw [still, bytes]
    exact chain
  intro keeps
  obtain ⟨problem, ran, rfl⟩ := stuck.faults
  exact keeps.faulted ran rfl

/-- The calls that look for room in the FAT and in directories. -/
inductive RoomCall where
  | getFreeFatEntryCluster (errCode : Code)
  | getFreeDirEntriesAddresses (startEntry : DirectoryEntry) (count : Nat)
  | updateDirectoryEntry (clusterOfDirectory : Nat) (entryToUpdate newEntry : DirectoryEntry)
  | makeDirBigger (endCluster : Nat)
  | createFatFileInDir (entry : DirectoryEntry) (fileName : Vfsl.CString)

/-- What the callers see to: no error is pending, and an entry of a directory begins a chain of
clusters. -/
def RoomCall.Proper (base : Environment) (fat : FatPrivate) (world : World) : RoomCall → Prop
  | .getFreeFatEntryCluster errCode => 0 ≤ errCode
  | .getFreeDirEntriesAddresses entry _ | .createFatFileInDir entry _ =>
    ∃ rest, Chain (links fat world.bytes) (entry.startCluster :: rest) ∧
      Clusters base fat (entry.startCluster :: rest)
  | .updateDirectoryEntry .. | .makeDirBigger _ => True

/-- The failures of the call are reported, no NULL pointer is used and no negative code is taken
for a cluster. -/
def RoomCall.Reported (env : Environment) (stack : Stack) (fat : FatPrivate) (world : World) :
    RoomCall → Prop
  | .getFreeFatEntryCluster errCode =>
    ReportsFailures env (Fat.getFreeFatEntryCluster env fat errCode) Prod.fst world
  | .getFreeDirEntriesAddresses startEntry count =>
    ReportsFailures env (Fat.getFreeDirEntriesAddresses env fat startEntry count) Prod.fst world ∧
      KeepsCodesApart env fat startEntry count world
  | .updateDirectoryEntry cluster entryToUpdate newEntry =>
    ReportsFailures env (Fat.updateDirectoryEntry env fat stack cluster entryToUpdate newEntry) id
      world
  | .makeDirBigger endCluster => ReportsFailures env (Fat.makeDirBigger env fat endCluster) id world
  | .createFatFileInDir entry fileName =>
    ReportsFailures env (Fat.createFatFileInDir env fat stack entry fileName) Prod.fst world ∧
      KeepsCodesApart env fat entry (entriesOfFile fileName) world

/-- That is so under every pattern of failures of these kinds. -/
def RoomCall.AlwaysReported (base : Environment) (kinds : Failures) (fat : FatPrivate)
    (world : World) (call : RoomCall) : Prop :=
  ∀ env stack, Pattern base kinds env → call.Reported env stack fat world

/-- The calls that report failures of these kinds: those that check every code, if the heap
refuses nothing or is not asked. -/
def RoomCall.Reporting (kinds : Failures) (fat : FatPrivate) : RoomCall → Prop
  | .getFreeFatEntryCluster _ | .makeDirBigger _ =>
    kinds.heap = false ∨ fat.bootRecord.totalSectorsBig ≤ 512
  | .updateDirectoryEntry .. => kinds.heap = false
  | .getFreeDirEntriesAddresses .. | .createFatFileInDir .. => False

/-- There is a pattern under which a code is taken for a cluster. -/
theorem codes_not_apart (layout : Layout base fat) (some_kind : kinds.heap = true ∨ kinds.disk = true)
    {startEntry : DirectoryEntry} {rest : List Nat}
    (chain : Chain (links fat world.bytes) (startEntry.startCluster :: rest))
    (clusters : Clusters base fat (startEntry.startCluster :: rest)) (count : Nat) :
    ∃ env, Pattern base kinds env ∧ ¬ KeepsCodesApart env fat startEntry count world := by
  have is_data := clusters _ List.mem_cons_self
  rcases some_kind with heap | disk
  · have same_layout : Layout (refusing base (world.requests + 1)) fat := { layout with }
    refine ⟨_, refusing_pattern (world.requests + 1) heap,
      (refusing_blind layout _).addresses (world.requests + 1 ≤ ·.requests) chain
        (fun cluster member => { clusters cluster member with })
        (decide_eq_true (Nat.lt_succ_self _)) ?_ ?_⟩
    · intro between _ requests _
      apply (getFatEntry_passes same_layout { is_data with } (Int.le_refl 0)).mono
      rintro result after ⟨nonnegative, value, bytes, still, -⟩
      exact ⟨nonnegative, value, bytes, (still.trans requests).ge⟩
    · intro between refused errCode
      exact (refusing_blind layout _).unread refused { is_data with } errCode
  · have same_layout : Layout (failing base world.transfers) fat := { layout with }
    refine ⟨_, failing_pattern world.transfers disk,
      (failing_blind layout _).addresses (·.transfers = world.transfers + 1) chain
        (fun cluster member => { clusters cluster member with }) rfl ?_ ?_⟩
    · intro between _ _ transfers
      have passes : 0 ≤ (failing base world.transfers).transfer between.transfers := by
        dsimp only [failing]
        rw [if_pos (.inl transfers)]
        decide
      apply (getFatEntry_passes same_layout { is_data with } passes).mono
      rintro result after ⟨nonnegative, value, bytes, -, moved⟩
      exact ⟨nonnegative, value, bytes, moved.trans (by rw [transfers])⟩
    · intro between second errCode
      have failed : (failing base world.transfers).transfer between.transfers < 0 := by
        dsimp only [failing]
        rw [if_neg (by omega)]
        decide
      have granted : (failing base world.transfers).kzalloc between.requests 32 = true := rfl
      apply (unread_failed granted { is_data with } layout.cluster failed 0 errCode).mono
      rintro result after ⟨none, bytes, -, moved⟩
      exact ⟨none, bytes, by omega, by omega⟩

/-- A call that faults with NULL reports nothing. -/
theorem not_reported {α : Type} {program : M α} {code : α → Code}
    (stuck : Meets program world (· = .nullPointer) fun _ _ => False) :
    ¬ ReportsFailures env program code world := by
  intro reports
  obtain ⟨problem, ran, rfl⟩ := stuck.faults
  exact reports.faulted ran rfl

/-- Without a block, what is on the stack is taken for the number of entries that were read. -/
theorem updateDirectoryEntry_refused (refused : env.kzalloc world.requests 32 = false)
    (cluster : Nat) (entryToUpdate newEntry : DirectoryEntry) :
    Meets (updateDirectoryEntry env fat (fun _ _ => wordBytes 1) cluster entryToUpdate newEntry)
      world (· = .nullPointer) fun _ _ => False := by
  obtain ⟨fuel, enough⟩ := Nat.exists_eq_add_of_le' (show 1 ≤ 2 ^ 32 by decide)
  rw [updateDirectoryEntry, meets_bind, meets_get, enough, updateEntries]
  apply (unread_refused refused cluster _ 0).bind
  rintro result after ⟨rfl, rfl⟩
  have one : readWord (wordBytes 1) 0 = 1 := by decide
  dsimp only
  rw [if_neg (by decide), one, findSameName, readAttributes, bind_assoc, meets_bind]
  exact .throw rfl

/-- Under every pattern of failures of these kinds the call reports what fails, if and only if
it checks every code and the heap has what it asks for. -/
theorem failures_reported_iff (layout : Layout base fat)
    (some_kind : kinds.heap = true ∨ kinds.disk = true) (call : RoomCall)
    (proper : call.Proper base fat world) :
    call.AlwaysReported base kinds fat world ↔ call.Reporting kinds fat := by
  have refused : ∀ size, (refusing base world.requests).kzalloc world.requests size = false :=
    fun _ => decide_eq_false (Nat.lt_irrefl _)
  have stack : Stack := fun _ _ _ => 0
  cases call with
  | getFreeFatEntryCluster errCode =>
    constructor
    · intro reported
      by_contra unsafe_here
      obtain ⟨heap, scans⟩ := not_or.mp unsafe_here
      exact not_reported (getFreeFatEntryCluster_refused refused (Nat.not_le.mp scans) proper)
        (reported _ stack (refusing_pattern _ (by simpa using heap)))
    · rintro (heap | few) env stack pattern
      · exact (told_getFreeFatEntryCluster (pattern.heap heap) errCode).reports world
      · apply (getFreeFatEntryCluster_few few errCode).mono
        rintro result after ⟨-, transfers, requests⟩ failed
        exact absurd failed (not_failed transfers requests)
  | makeDirBigger endCluster =>
    constructor
    · intro reported
      by_contra unsafe_here
      obtain ⟨heap, scans⟩ := not_or.mp unsafe_here
      exact not_reported (makeDirBigger_refused refused (Nat.not_le.mp scans) endCluster)
        (reported _ stack (refusing_pattern _ (by simpa using heap)))
    · rintro (heap | few) env stack pattern
      · exact (told_makeDirBigger (pattern.heap heap) endCluster).reports world
      · exact (makeDirBigger_few few endCluster).mono fun _ _ negative _ => negative
  | updateDirectoryEntry cluster entryToUpdate newEntry =>
    constructor
    · intro reported
      by_contra heap
      exact not_reported (updateDirectoryEntry_refused (refused 32) cluster entryToUpdate newEntry)
        (reported _ _ (refusing_pattern _ (by simpa [RoomCall.Reporting] using heap)))
    · intro heap env stack pattern
      exact (told_updateDirectoryEntry (pattern.heap heap) cluster entryToUpdate newEntry).reports
        world
  | getFreeDirEntriesAddresses startEntry count =>
    obtain ⟨rest, chain, clusters⟩ := proper
    obtain ⟨env, pattern, mixed⟩ := codes_not_apart layout some_kind chain clusters count
    exact iff_of_false (fun reported => mixed (reported env stack pattern).2) id
  | createFatFileInDir entry fileName =>
    obtain ⟨rest, chain, clusters⟩ := proper
    obtain ⟨env, pattern, mixed⟩ := codes_not_apart layout some_kind chain clusters
      (entriesOfFile fileName)
    exact iff_of_false (fun reported => mixed (reported env stack pattern).2) id

/-- A directory reports every transfer that fails while it grows. -/
theorem transfers_reported :
    (RoomCall.makeDirBigger 2).AlwaysReported (plainEnvironment 1024000) ⟨false, true⟩
      (attachToDisk sectorRecord) (freshWorld fun _ => 0) :=
  (failures_reported_iff sectorRecord_formatted.layout (.inr rfl) (.makeDirBigger 2) trivial).mpr
    (.inl rfl)

/-- A refused request of the search is not reported. -/
theorem refused_request_used :
    ¬ (RoomCall.getFreeFatEntryCluster 0).Reported (refusing (plainEnvironment 1024000) 0)
      (fun _ _ _ => 0) (attachToDisk sectorRecord) (freshWorld fun _ => 0) := by
  intro reported
  exact reported.faulted (error_of_faultOf (by decide +kernel) :
    (getFreeFatEntryCluster (refusing (plainEnvironment 1024000) 0) (attachToDisk sectorRecord)
      0).run (freshWorld fun _ => 0) = .error .nullPointer) rfl

end Calls

end BobaOS.Fat
