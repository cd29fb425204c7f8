import BobaOS.Fat.ReadFile

/-!
# Walks along a chain

Four loops follow a chain: the ones that list a directory, read a file, find the place of a
write, and free what is behind a cluster. They take the two entries 0 and 0x0FFFFFFF for
marks. What a walk is to do is said by a program that goes through a list of clusters and
looks at no entry to find the next one. The loops do that for the list of a chain that ends
in 0x0FFFFFFF, and go on behind the last cluster where it ends in another mark.
-/

namespace BobaOS.Fat

open ByteStore Programs Chains

/-! ## Walks along a list -/

section Along

variable (env : Environment) (fat : FatPrivate)

/-- The reads of `readFatFile` from the clusters of a list, which may end too soon. -/
def readAlong (size filePos : Nat) : List Nat → Nat → Nat → Nat → Nat → (Nat → UInt8) →
    M (Code × (Nat → UInt8))
  | _, 0, _, _, _, ptr => return (SUCCESS, ptr)
  | [], _ + 1, _, _, _, ptr => return (-EFSYSTEM, ptr)
  | cluster :: cells, left + 1, currentFilePos, currentToRead, totalRead, ptr => do
    let ret ← seekRead env (dataClusterToAbsoluteAddress fat cluster + currentFilePos)
    if ret < 0 then return (ret, ptr)
    let (ret, ptr) ← readStream env ptr size totalRead currentToRead
    if ret < 0 then return (ret, ptr)
    readAlong size filePos cells left 0 (nextRead fat size filePos left)
      (totalRead + currentToRead) ptr

/-- `readFatFile` for a file that has these clusters. -/
def readFileAlong (cells : List Nat) (size filePos : Nat) (ptr : Nat → UInt8) :
    M (Code × (Nat → UInt8)) :=
  readAlong env fat size filePos (cells.drop (filePos / fat.clusterSize)) (clustersToRead fat size)
    (filePos % fat.clusterSize) (firstRead fat size) 0 ptr

/-- A cluster is linked behind the last one of a chain. -/
def appendCluster (last : Nat) : M (Except Code Nat) := do
  let (ret, newCluster) ← getFreeFatEntryCluster env fat 0
  if ret < 0 then return .error ret
  let ret ← writeFATEntry env fat last newCluster
  if ret < 0 then return .error ret
  let ret ← writeFATEntry env fat newCluster FAT_ENTRY_USED
  if ret < 0 then return .error ret
  return .ok newCluster

/-- `findStartCluster` for a file that has these clusters: the one with the position, one
that is appended, or none. -/
def startAlong (cells : List Nat) (startPos : Nat) : M (Except Code Nat) :=
  match cells[skipped fat startPos]? with
  | some cluster => return .ok cluster
  | none =>
    if skipped fat startPos = cells.length then appendCluster env fat (cells.getLastD 0)
    else return .error (-ENFOUND)

/-- `writeFatFile` for such a file. What it writes to then is a chain that it has cut, which
ends in the mark of the driver. -/
def writeFileAlong (cells : List Nat) (size startPos : Nat) (input : Nat → UInt8) : M Code := do
  let startClusterPos := startPos % fat.clusterSize
  match ← startAlong env fat cells startPos with
  | .error ret => return ret
  | .ok startCluster =>
    let ret ← unlinkFatChain env fat startCluster
    if ret < 0 then return ret
    writeClusters env fat size input (clustersOfWrite fat size startClusterPos) ret startCluster
      startCluster startClusterPos (firstWrite fat size startClusterPos) 0

end Along

variable {env : Environment} {fat : FatPrivate} {world : World} {cells : List Nat}

/-- The entries of the clusters lead from one to the next, and from the last one to a mark. -/
def EndsIn (fat : FatPrivate) (bytes : Nat → UInt8) (marker : Nat) : List Nat → Prop
  | [] => False
  | [cluster] => table fat bytes cluster = marker
  | cluster :: next :: rest =>
    table fat bytes cluster = next ∧ EndsIn fat bytes marker (next :: rest)

/-- With the mark of the driver that is a chain. -/
theorem EndsIn.chain {bytes : Nat → UInt8} (ends : EndsIn fat bytes FAT_ENTRY_USED cells)
    (clusters : Clusters env fat cells) : Chain (links fat bytes) cells := by
  induction cells with
  | nil => exact ends
  | cons cluster rest induction =>
    cases rest with
    | nil => exact decode_last.mpr ends
    | cons next rest =>
      have no_mark := (clusters.tail next List.mem_cons_self).no_mark
      refine ⟨decode_next.mpr ⟨ends.1, ?_⟩, induction ends.2 clusters.tail⟩
      rw [ends.1]
      exact no_mark

/-- The entry of its first cluster leads to the second, or is the mark. -/
theorem EndsIn.first {bytes : Nat → UInt8} {marker cluster : Nat} {rest : List Nat}
    (ends : EndsIn fat bytes marker (cluster :: rest)) :
    table fat bytes cluster = rest.headD marker := by
  cases rest with
  | nil => exact ends
  | cons next rest => exact ends.1

/-! ## Reading along a chain -/

theorem seekRead_agree (first second : World) (position : Nat) :
    Agree (seekRead env position) first (seekRead env position) second fun ret after final =>
      ret = SUCCESS ∧ after = { first with readPosition := position } ∧
          final = { second with readPosition := position } ∨ ret = -EDISKSPACE := by
  refine Agree.of_meets (seekRead_cases position) (seekRead_cases position) ?_
  rintro ret after answer final (⟨rfl, inside, rfl⟩ | ⟨rfl, outside, rfl⟩)
    (⟨rfl, there, rfl⟩ | ⟨rfl, beyond, rfl⟩)
  · exact ⟨rfl, .inl ⟨rfl, rfl, rfl⟩⟩
  · omega
  · omega
  · exact ⟨rfl, .inr rfl⟩

/-- Two reads of the same bytes at the same place put the same into a buffer. -/
theorem readStream_agree (quiet : env.Quiet) {first second : World}
    (bytes : second.bytes = first.bytes) (place : second.readPosition = first.readPosition)
    (out : Nat → UInt8) (capacity offset length : Nat) :
    Agree (readStream env out capacity offset length) first
      (readStream env out capacity offset length) second fun result after final =>
        (result.1 = SUCCESS ∨ result.1 = -EDISKSPACE) ∧
          after.bytes = first.bytes ∧ final.bytes = first.bytes := by
  have succeeds (call : Nat) : ¬ env.transfer call < 0 := by
    rw [quiet]
    decide
  by_cases room : offset + length ≤ capacity
  · refine Agree.of_meets (readStream_meets quiet out capacity offset length room)
      (readStream_meets quiet out capacity offset length room) ?_
    rintro ⟨ret, buffer⟩ after ⟨answer, other⟩ final ⟨same, outcome⟩ ⟨still, also⟩
    rw [place, bytes] at also
    dsimp only at outcome also ⊢
    have kept := still.bytes.trans bytes
    rcases outcome with ⟨rfl, inside, rfl⟩ | ⟨rfl, outside, rfl⟩ <;>
      rcases also with ⟨rfl, there, rfl⟩ | ⟨rfl, beyond, rfl⟩
    · exact ⟨rfl, .inl rfl, same.bytes, kept⟩
    · omega
    · omega
    · exact ⟨rfl, .inr rfl, same.bytes, kept⟩
  · rw [readStream, agree_get, place]
    by_cases beyond : env.volumeSize < (first.readPosition + length) % 2 ^ 64
    · rw [if_pos beyond, if_pos beyond]
      exact .pure ⟨.inr rfl, rfl, bytes⟩
    · dsimp only
      rw [if_neg beyond, if_neg beyond, if_neg (succeeds _), if_neg (succeeds _),
        if_pos (Nat.not_le.mp room), if_pos (Nat.not_le.mp room)]
      exact Agree.bind .throw fun _ _ _ (impossible : False) => impossible.elim

/-- The loop reads the clusters that the list of the chain has. -/
theorem readParts_agree (layout : Layout env fat) (quiet : env.Quiet) (size filePos left : Nat)
    (pos length total : Nat) (ptr : Nat → UInt8) (clusters : Clusters env fat cells)
    (first second : World) (bytes : second.bytes = first.bytes)
    (chain : cells ≠ [] → Chain (links fat first.bytes) cells) :
    Agree (readParts env fat size filePos left (entryTo cells) pos length total SUCCESS ptr) first
      (readAlong env fat size filePos cells left pos length total ptr) second
      fun _ _ _ => True := by
  induction left generalizing cells pos length total ptr first second with
  | zero =>
    rw [readParts, readAlong]
    exact .pure trivial
  | succ left induction =>
    cases cells with
    | nil =>
      rw [readParts, readAlong, if_pos (.inl rfl)]
      exact .pure trivial
    | cons cluster rest =>
      have is_data := clusters cluster List.mem_cons_self
      have linked := chain (List.cons_ne_nil _ _)
      have here : entryTo (cluster :: rest) = cluster := rfl
      rw [readParts, readAlong, here, if_neg (not_or.mpr is_data.no_mark.symm)]
      apply (seekRead_agree first second _).bind
      rintro ret after final (⟨rfl, rfl, rfl⟩ | rfl)
      case inr =>
        rw [if_refused, if_refused]
        exact .pure trivial
      rw [if_success, if_success]
      refine Agree.bind (readStream_agree quiet ?_ ?_ ptr size total length) ?_
      · exact bytes
      · rfl
      rintro ⟨ret, buffer⟩ read other ⟨rfl | rfl, same, kept⟩
      case inr =>
        dsimp only
        rw [if_refused, if_refused]
        exact .pure trivial
      dsimp only at same kept ⊢
      rw [if_success, if_success]
      apply Agree.after (getFatEntry_meets layout quiet is_data.entry)
      rintro ⟨ret, entry⟩ further ⟨result, still⟩
      obtain ⟨rfl, rfl⟩ := Prod.mk.inj result
      dsimp only
      rw [if_success, same, chain_entryTo linked]
      refine induction 0 _ _ buffer clusters.tail further other ?_ ?_
      · rw [still.bytes, same, kept]
      · rw [still.bytes, same]
        exact linked.tail

variable {head : Nat} {rest : List Nat}

/-- A file is read along its chain from any position in it. -/
theorem readFatFile_agree (layout : Layout env fat) (quiet : env.Quiet)
    (chain : Chain (links fat world.bytes) (head :: rest))
    (clusters : Clusters env fat (head :: rest)) (fileSize size filePos : Nat)
    (inside : filePos ≤ (head :: rest).length * fat.clusterSize) (ptr : Nat → UInt8) :
    Agree (readFatFile env fat ⟨head, fileSize⟩ size filePos ptr) world
      (readFileAlong env fat (head :: rest) size filePos ptr) world fun _ _ _ => True := by
  have few : filePos / fat.clusterSize ≤ (head :: rest).length := Nat.div_le_of_le_mul (by
    rwa [Nat.mul_comm])
  have counted := clusters.length_le chain.nodup
  have skips : filePos / fat.clusterSize % 2 ^ 32 = filePos / fat.clusterSize :=
    Nat.mod_eq_of_lt (by omega)
  rw [readFatFile, skips]
  apply Agree.after (skipRead_meets layout quiet _ few clusters fun _ => chain)
  rintro ⟨ret, currentCluster⟩ after ⟨same, result⟩
  obtain ⟨rfl, rfl⟩ := Prod.mk.inj result
  dsimp only
  rw [if_success]
  refine readParts_agree layout quiet size filePos _ _ _ 0 ptr ?_ after world same.bytes.symm ?_
  · exact fun cluster member => clusters cluster (List.mem_of_mem_drop member)
  · rw [same.bytes]
    exact chain.drop

/-! ## Writing along a chain -/

/-- The place of a write is found along the chain. -/
theorem writeFatFile_along (layout : Layout env fat) (quiet : env.Quiet)
    (chain : Chain (links fat world.bytes) (head :: rest))
    (clusters : Clusters env fat (head :: rest)) (fileSize size startPos : Nat)
    (input : Nat → UInt8) : ∃ between, Same world between ∧
      (writeFatFile env fat ⟨head, fileSize⟩ size startPos input).run world =
        (writeFileAlong env fat (head :: rest) size startPos input).run between := by
  have skips : Meets (skipClusters env fat (startPos / fat.clusterSize % 2 ^ 32) head head) world
      (fun _ => False) _ := skipClusters_meets layout quiet rest head _ head world chain clusters
  obtain ⟨result, between, ran, same, front, here, tail, split, outcome⟩ := skips.returns
  have found : (findStartCluster env fat head startPos).run world =
      (startAlong env fat (head :: rest) startPos).run between := by
    have member : here ∈ head :: rest := by
      rw [split]
      exact List.mem_append_right _ List.mem_cons_self
    have no_mark := (clusters here member).no_mark
    rw [findStartCluster, run_bind_of ran, startAlong]
    rcases outcome with ⟨length, old, rfl⟩ | ⟨rfl, shorter, rfl⟩
    · have is_here : (head :: rest)[skipped fat startPos]? = some here := by
        rw [split, skipped, ← length, List.getElem?_append_right (Nat.le_refl _), Nat.sub_self]
        rfl
      rw [is_here]
      dsimp only
      rw [if_neg (by decide), if_neg (fun not => not rfl), if_pos ⟨no_mark.2, no_mark.1⟩]
    · have whole : (head :: rest).length = front.length + 1 := by
        rw [split, List.length_append, List.length_singleton]
      have none_here : (head :: rest)[skipped fat startPos]? = none :=
        List.getElem?_eq_none (whole.le.trans shorter)
      have last : (head :: rest).getLastD 0 = here := by
        rw [split, List.getLastD_concat]
      have old : (if FAT_ENTRY_USED ≠ FAT_ENTRY_USED ∧ FAT_ENTRY_USED ≠ FAT_ENTRY_FREE
          then FAT_ENTRY_USED else here) = here := if_neg fun both => both.1 rfl
      rw [none_here, last]
      dsimp only
      rw [old]
      by_cases one : skipped fat startPos = (head :: rest).length
      · rw [if_pos one, if_pos (by rw [skipped] at one; omega)]
        rfl
      · have further : ¬ startPos / fat.clusterSize % 2 ^ 32 = (head :: rest).length := one
        rw [if_neg one, if_neg (by omega), if_pos (by omega)]
  exact ⟨between, same, run_bind_congr _ found⟩

/-! ## Other marks -/

/-- The clusters listed are at least one and no more than there is room for. -/
theorem listClusters_counts (room : Nat) (list : List Nat) (cluster fatDir : Nat) (errCode : Code)
    (world : World) :
    Meets (listClusters env fat room list cluster fatDir errCode) world (fun _ => True)
      fun result _ => ∀ listed, result.2 = some listed →
        list.length < listed.length ∧ listed.length ≤ list.length + room := by
  induction room generalizing list cluster fatDir errCode world with
  | zero => exact .throw trivial
  | succ room induction =>
    have longer : (list ++ [cluster]).length = list.length + 1 := by simp
    rw [listClusters, meets_ite]
    constructor
    · intro _
      apply (keeps_getFatEntry fatDir world).bind
      rintro ⟨code, next⟩ after _
      rw [meets_ite]
      refine ⟨fun _ => .pure fun listed impossible => absurd impossible.symm (Option.some_ne_none listed), fun _ => ?_⟩
      refine (induction _ fatDir next code after).mono fun result final counts listed is_listed => ?_
      have counted := counts listed is_listed
      omega
    · intro _
      refine .pure fun listed is_listed => ?_
      obtain rfl := Option.some.inj is_listed
      omega

/-- A chain that ends in a mark that the driver does not know is listed with clusters behind
its last one, if at all. -/
theorem listClusters_passes (layout : Layout env fat) (quiet : env.Quiet) {marker : Nat}
    (unknown : ¬ IsMark marker) (room : Nat) (list : List Nat) (errCode : Code)
    (ends : EndsIn fat world.bytes marker (head :: rest)) (clusters : Clusters env fat (head :: rest)) :
    Meets (listClusters env fat room list head (rest.headD marker) errCode) world (fun _ => True)
      fun result _ => ∀ listed, result.2 = some listed →
        list.length + (head :: rest).length < listed.length := by
  induction rest generalizing room list errCode head world with
  | nil =>
    cases room with
    | zero => exact .throw trivial
    | succ room =>
      have longer : (list ++ [head]).length = list.length + 1 := by simp
      rw [listClusters, if_pos ⟨fun used => unknown (.inl used), fun free => unknown (.inr free)⟩]
      apply (keeps_getFatEntry marker world).bind
      rintro ⟨code, next⟩ after _
      rw [meets_ite]
      refine ⟨fun _ => .pure fun listed impossible => absurd impossible.symm (Option.some_ne_none listed), fun _ => ?_⟩
      refine (listClusters_counts room _ marker next code after).mono ?_
      intro result final counts listed is_listed
      have counted := counts listed is_listed
      rw [List.length_singleton]
      omega
  | cons next rest induction =>
    cases room with
    | zero => exact .throw trivial
    | succ room =>
      have longer : (list ++ [head]).length = list.length + 1 := by simp
      have is_data := clusters.tail next List.mem_cons_self
      have here : (next :: rest).headD marker = next := rfl
      rw [listClusters, here, if_pos is_data.no_mark.symm]
      refine getFatEntry_then layout quiet is_data.entry fun after same => ?_
      have onward : EndsIn fat after.bytes marker (next :: rest) := by
        rw [same.bytes]
        exact ends.2
      have listed := induction room (list ++ [head]) SUCCESS onward clusters.tail
      dsimp only
      rw [if_success, ends.2.first]
      refine listed.mono fun result final counts listed is_listed => ?_
      have counted := counts listed is_listed
      rw [List.length_cons]
      omega

/-- What the four walks are to do on a chain of these clusters. -/
structure WalksChain (env : Environment) (fat : FatPrivate) (world : World) (cells : List Nat) :
    Prop where
  listed : ∃ errCode after, (collectClusters env fat (cells.headD 0)).run world =
    .ok ((errCode, some cells), after)
  read : ∀ fileSize size filePos ptr, filePos ≤ cells.length * fat.clusterSize →
    Agree (readFatFile env fat ⟨cells.headD 0, fileSize⟩ size filePos ptr) world
      (readFileAlong env fat cells size filePos ptr) world fun _ _ _ => True
  written : ∀ fileSize size startPos input, ∃ between, Same world between ∧
    (writeFatFile env fat ⟨cells.headD 0, fileSize⟩ size startPos input).run world =
      (writeFileAlong env fat cells size startPos input).run between
  unlinked : ∀ front cluster tail, cells = front ++ cluster :: tail →
    ∃ after, (unlinkFatChain env fat cluster).run world = .ok (SUCCESS, after) ∧
      after.bytes = putEntry fat (freeEntries fat world.bytes tail) cluster FAT_ENTRY_USED


/-- The root directory in two clusters, of which the last one has another mark. -/
def otherMarkBytes : Nat → UInt8 :=
  putEntry (attachToDisk smallRecord) (putEntry (attachToDisk smallRecord) (fun _ => 0) 2 3) 3
    0x0FFFFFF8

end BobaOS.Fat
