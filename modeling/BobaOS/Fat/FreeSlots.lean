import BobaOS.Fat.EntryUpdates
import BobaOS.Fat.FileCreation
import BobaOS.Fat.ReadFile
import BobaOS.Fat.WriteParts

/-!
# Free slots of a directory

`getFreeDirEntriesAddresses` looks for slots that are free one after the other, in one cluster
of the directory after the other, and makes the directory bigger where it ends. The slots are
numbered in the order of the chain here, so that a run of them is a range of numbers, whether
it crosses from one cluster to the next or not.
-/

namespace BobaOS.Fat

open ByteStore Programs Chains

/-! ## The slots of a directory -/

section Slots

variable (fat : FatPrivate)

/-- The slots of a cluster. -/
def slotsPerCluster : Nat := fat.clusterSize / 32

/-- The address of a slot of a directory, by its number. -/
def slotAt (cells : List Nat) (i : Nat) : Nat :=
  clusterStart fat (cells.getD (i / slotsPerCluster fat) 0) + 32 * (i % slotsPerCluster fat)

/-- The slots from a number on are free, and those before it are not. -/
def FreeFrom (bytes : Nat → UInt8) (cells : List Nat) (full : Nat) : Prop :=
  full ≤ slotsPerCluster fat * cells.length ∧
    ∀ i < slotsPerCluster fat * cells.length, bytes (slotAt fat cells i + 11) = 0 ↔ full ≤ i

variable {fat} {cells : List Nat} {i : Nat}

/-- The slots of a chain are those of its extensions. -/
theorem slotAt_append (grown : List Nat) (inside : i < slotsPerCluster fat * cells.length) :
    slotAt fat (cells ++ grown) i = slotAt fat cells i := by
  have index : i / slotsPerCluster fat < cells.length := Nat.div_lt_of_lt_mul inside
  rw [slotAt, slotAt, List.getD_append _ _ _ _ index]

/-- The slots of one cluster of the chain. -/
theorem slotAt_cell {front rest : List Nat} {cluster : Nat} (inside : i < slotsPerCluster fat) :
    slotAt fat (front ++ cluster :: rest) (slotsPerCluster fat * front.length + i) =
      clusterStart fat cluster + 32 * i := by
  have index : (slotsPerCluster fat * front.length + i) / slotsPerCluster fat = front.length := by
    rw [Nat.mul_add_div (Nat.zero_lt_of_lt inside), Nat.div_eq_of_lt inside, Nat.add_zero]
  rw [slotAt, index, Nat.mul_add_mod, Nat.mod_eq_of_lt inside, List.getD_append_right _ _ _ _ le_rfl,
    Nat.sub_self, List.getD_cons_zero]

end Slots

/-! ## The scan of a cluster -/

section Scan

variable (fat : FatPrivate) (list : Block) (count oldCluster : Nat) (entries : Entries)

/-- Entries in use are passed as long as no run has begun. -/
theorem scanFree_skips (skipped left i : Nat)
    (used : ∀ k < skipped, (entries.entry (i + k)).attributes ≠ 0)
    (room : 32 * (i + skipped) ≤ entries.block.capacity) :
    scanFree fat list count oldCluster (some entries) (skipped + left) i [] =
      scanFree fat list count oldCluster (some entries) left (i + skipped) [] := by
  induction skipped generalizing i with
  | zero => rw [Nat.zero_add, Nat.add_zero]
  | succ skipped induction =>
    have first : ¬ (entries.entry i).attributes = 0 := used 0 (Nat.zero_lt_succ skipped)
    rw [Nat.succ_add, scanFree, readAttributes, if_neg (by omega), pure_bind, if_neg first,
      induction (i + 1) (fun k before => by
        rw [Nat.add_assoc, Nat.add_comm 1]
        exact used (k + 1) (Nat.succ_lt_succ before)) (by omega), Nat.add_assoc, Nat.add_comm 1]

/-- Free entries are added to the run until it is long enough. -/
theorem scanFree_collects (few : count < 256) (room : 8 * count ≤ list.capacity)
    (left i : Nat) (addresses : List Nat) (short : addresses.length < count)
    (free : ∀ k < left, (entries.entry (i + k)).attributes = 0)
    (whole : 32 * (i + left) ≤ entries.block.capacity) :
    scanFree fat list count oldCluster (some entries) left i addresses =
      pure (decide (count ≤ addresses.length + left),
        (addresses ++ (List.range' i left).map
          fun k => dataClusterToAbsoluteAddress fat oldCluster + 32 * k).take count) := by
  induction left generalizing i addresses with
  | zero =>
    rw [scanFree, decide_eq_false (by omega), List.range'_zero, List.map_nil, List.append_nil,
      List.take_of_length_le (Nat.le_of_lt short)]
  | succ left induction =>
    have first : (entries.entry i).attributes = 0 := free 0 (Nat.zero_lt_succ left)
    have length (address : Nat) : (addresses ++ [address]).length = addresses.length + 1 :=
      List.length_append
    rw [scanFree, readAttributes, if_neg (by omega), pure_bind, if_pos first, if_neg (by omega)]
    dsimp only
    rw [length, Nat.mod_eq_of_lt (by omega), List.range'_succ, List.map_cons,
      List.append_cons addresses _ (List.map _ _)]
    by_cases enough : addresses.length + 1 = count
    · rw [if_pos enough, decide_eq_true (by omega), List.take_append_of_le_length (by simp [enough]),
        List.take_of_length_le (by simp [enough])]
    · rw [if_neg enough, induction (i + 1) _ (by rw [length]; omega) (fun k before => by
        rw [Nat.add_assoc, Nat.add_comm 1]
        exact free (k + 1) (Nat.succ_lt_succ before)) (by omega), length, Nat.add_assoc,
        Nat.add_comm 1]

end Scan

/-- What was read of a cluster shows whether its slots are free. -/
structure Shows (fat : FatPrivate) (bytes : Nat → UInt8) (cluster : Nat) (entries : Entries) :
    Prop where
  room : fat.clusterSize ≤ entries.block.capacity
  attributes : ∀ i < slotsPerCluster fat,
    (entries.entry i).attributes = bytes (clusterStart fat cluster + 32 * i + 11)

section Cluster

variable {fat : FatPrivate} {bytes : Nat → UInt8} {front rest : List Nat} {cluster full count : Nat}

/-- The numbers of a run that is continued in the next cluster. -/
theorem range_of_cluster (full before slots : Nat) :
    List.range' full (before - full) ++ (List.range' (min (full - before) slots)
      (slots - min (full - before) slots)).map (before + ·) =
        List.range' full (before + slots - full) := by
  rw [List.map_add_range']
  rcases Nat.le_total full before with begun | later
  · have none : min (full - before) slots = 0 := by omega
    have start : before + 0 = full + (before - full) := by omega
    rw [none, start, List.range'_append_1]
    congr 1
    omega
  · have none : before - full = 0 := by omega
    rw [none, List.range'_zero, List.nil_append]
    rcases Nat.le_total (full - before) slots with here | behind
    · have start : before + (full - before) = full := by omega
      have length : slots - (full - before) = before + slots - full := by omega
      rw [Nat.min_eq_left here, start, length]
    · have past : before + slots - full = 0 := by omega
      rw [Nat.min_eq_right behind, Nat.sub_self, past, List.range'_zero, List.range'_zero]

/-- The scan of a cluster goes on with the run of the slots before it. -/
theorem scanFree_cluster {entries : Entries} (list : Block) (few : count < 256)
    (room : 8 * count ≤ list.capacity) (shows : Shows fat bytes cluster entries)
    (reached : dataClusterToAbsoluteAddress fat cluster = clusterStart fat cluster)
    (slots : ∀ i < slotsPerCluster fat, bytes (clusterStart fat cluster + 32 * i + 11) = 0 ↔
      full ≤ slotsPerCluster fat * front.length + i)
    (short : slotsPerCluster fat * front.length - full < count) :
    scanFree fat list count cluster (some entries) (slotsPerCluster fat) 0
      ((List.range' full (slotsPerCluster fat * front.length - full)).map
        (slotAt fat (front ++ cluster :: rest))) =
      pure (decide (full + count ≤ slotsPerCluster fat * (front.length + 1)),
        ((List.range' full (slotsPerCluster fat * (front.length + 1) - full)).map
          (slotAt fat (front ++ cluster :: rest))).take count) := by
  have size : 32 * slotsPerCluster fat ≤ entries.block.capacity :=
    (Nat.mul_div_le _ _).trans shows.room
  have all := range_of_cluster full (slotsPerCluster fat * front.length)
    (slotsPerCluster fat)
  generalize split : min (full - slotsPerCluster fat * front.length) (slotsPerCluster fat) = skipped
    at all
  have parts : skipped + (slotsPerCluster fat - skipped) = slotsPerCluster fat := by omega
  have skips : scanFree fat list count cluster (some entries) (slotsPerCluster fat) 0
      ((List.range' full (slotsPerCluster fat * front.length - full)).map
        (slotAt fat (front ++ cluster :: rest))) =
      scanFree fat list count cluster (some entries) (slotsPerCluster fat - skipped) skipped
      ((List.range' full (slotsPerCluster fat * front.length - full)).map
        (slotAt fat (front ++ cluster :: rest))) := by
    rcases Nat.eq_zero_or_pos skipped with none | some
    · rw [none, Nat.sub_zero]
    · have nothing : slotsPerCluster fat * front.length - full = 0 := by omega
      have skips := scanFree_skips fat list count cluster entries skipped
        (slotsPerCluster fat - skipped) 0 (fun k before free => by
          rw [Nat.zero_add, shows.attributes k (by omega), slots k (by omega)] at free
          omega) (by omega)
      rw [nothing, List.range'_zero, List.map_nil]
      rwa [parts, Nat.zero_add] at skips
  have collects := scanFree_collects fat list count cluster entries few room
    (slotsPerCluster fat - skipped) skipped
    ((List.range' full (slotsPerCluster fat * front.length - full)).map
        (slotAt fat (front ++ cluster :: rest))) (by simpa using short) (fun k before => by
      rw [shows.attributes _ (by omega), slots _ (by omega)]
      omega) (by omega)
  have here : (List.range' skipped (slotsPerCluster fat - skipped)).map
      (fun k => dataClusterToAbsoluteAddress fat cluster + 32 * k) =
      ((List.range' skipped (slotsPerCluster fat - skipped)).map
        (slotsPerCluster fat * front.length + ·)).map (slotAt fat (front ++ cluster :: rest)) := by
    rw [List.map_map, reached]
    refine List.map_congr_left fun k member => (slotAt_cell ?_).symm
    have inside := (List.mem_range'_1.mp member).2
    omega
  rw [skips, collects, here, ← List.map_append, all, List.length_map, List.length_range',
    Nat.mul_succ]
  congr 2
  exact decide_eq_decide.mpr (by omega)

end Cluster

/-! ## Growing -/

variable {env : Environment} {fat : FatPrivate} {world : World} {bytes : Nat → UInt8}
  {cells fresh : List Nat} {full count : Nat}

/-- The clusters of a directory, where the driver looks for them. -/
structure Directory (env : Environment) (fat : FatPrivate) (bytes : Nat → UInt8)
    (cells : List Nat) : Prop where
  chain : Chain (links fat bytes) cells
  clusters : Clusters env fat cells
  reached : ∀ cluster ∈ cells, Reached fat cluster

/-- The clusters that searches find, one after the other: the free ones with the lowest
numbers, which are data clusters. -/
structure Supplied (env : Environment) (fat : FatPrivate) (bytes : Nat → UInt8)
    (fresh : List Nat) : Prop where
  clusters : Clusters env fat fresh
  findable : ∀ cluster ∈ fresh, Findable env fat cluster
  sorted : fresh.Pairwise (· < ·)
  free : ∀ cluster ∈ fresh, table fat bytes cluster = FAT_ENTRY_FREE
  lowest : ∀ cluster ∈ fresh, ∀ other < cluster, table fat bytes other = FAT_ENTRY_FREE →
    other ∈ fresh

/-- The first of them is the first free cluster. -/
theorem Supplied.first {new : Nat} {more : List Nat}
    (supplied : Supplied env fat bytes (new :: more)) : FirstFree fat bytes new := by
  have entry := (supplied.clusters new List.mem_cons_self).entry
  constructor
  · rw [← table_eq _ entry]
    exact supplied.free new List.mem_cons_self
  · intro other before free
    rw [← table_eq _ (by omega)] at free
    rcases List.mem_cons.mp (supplied.lowest new List.mem_cons_self other before free) with rfl | later
    · exact Nat.lt_irrefl _ before
    · exact Nat.lt_asymm before ((List.pairwise_cons.mp supplied.sorted).1 other later)

/-- A directory that grows by the first free cluster. -/
def grow (fat : FatPrivate) (bytes : Nat → UInt8) (last new : Nat) : Nat → UInt8 :=
  overwrite (putEntry fat (putEntry fat bytes last new) new FAT_ENTRY_USED)
    (dataClusterToAbsoluteAddress fat new) fat.clusterSize fun _ => 0

theorem makeDirBigger_grows (layout : Layout env fat) (quiet : env.Quiet) (fitting : env.Fitting)
    (roomy : env.Roomy) (small : fat.clusterSize < 2 ^ 32) {last new : Nat}
    (inside : 4 * last + 4 ≤ fat.fatSize) (is_data : DataCluster env fat new)
    (findable : Findable env fat new) (first : FirstFree fat world.bytes new) :
    Meets (makeDirBigger env fat last) world (fun _ => False) fun ret after =>
      ret = new ∧ after.bytes = grow fat world.bytes last new := by
  have below := dataClusterToAbsoluteAddress_lt fat new
  have place := is_data.place_inside
  have positive := layout.cluster
  have hits (unfound : Unfound env fat (· = new) world.bytes) : False :=
    unfound new rfl findable first
  have usable : ∀ cluster, cluster = new → DataCluster env fat cluster := fun _ same => same ▸ is_data
  rw [makeDirBigger]
  apply ((search_meets layout quiet fitting usable).mono_fault ?_).bind
  · rintro ⟨code, found⟩ searched ⟨bytes, -, ⟨rfl, is_new, -⟩ | missed⟩
    case inr => exact (hits missed.unfound).elim
    obtain rfl : found = new := is_new
    have some : ¬ found = 0 := is_data.no_mark.1
    dsimp only
    rw [if_success, if_neg some]
    apply (writeFATEntry_meets layout quiet found inside).bind
    rintro ret linked ⟨rfl, -, linked_bytes⟩
    rw [if_success]
    apply (writeFATEntry_meets layout quiet FAT_ENTRY_USED is_data.entry).bind
    rintro ret marked ⟨rfl, -, marked_bytes⟩
    rw [if_success]
    apply (seekWrite_meets _).bind
    rintro ret moved ⟨still, ⟨rfl, -, placed⟩ | ⟨-, outside⟩⟩
    case inr => omega
    rw [if_success]
    apply (writeStream_meets quiet _ _).bind
    rintro ret after ⟨-, ⟨rfl, -, stored⟩ | ⟨-, outside, -⟩⟩
    · rw [if_success]
      refine .pure ⟨rfl, ?_⟩
      rw [stored, placed, still.bytes, marked_bytes, linked_bytes, bytes, grow]
    · rw [placed, Nat.mod_eq_of_lt (by omega)] at outside
      omega
  · rintro problem (heap | unfound)
    · exact heap.2 roomy
    · exact hits unfound

/-! ## A directory that has grown -/

section Grown

variable {front : List Nat} {last new : Nat} {more : List Nat}

theorem table_grow (layout : Layout env fat) (inside : 4 * last + 4 ≤ fat.fatSize)
    (is_data : DataCluster env fat new) (reached : Reached fat new) :
    table fat (grow fat bytes last new) =
      Function.update (Function.update (table fat bytes) last new) new FAT_ENTRY_USED := by
  have behind : fat.dataClusterStartAddress ≤ dataClusterToAbsoluteAddress fat new := by
    rw [is_data.reached.mpr reached]
    exact Nat.le_add_right _ _
  rw [grow, table_overwrite layout _ _ _ behind, table_putEntry layout _ is_data.entry (by decide),
    table_putEntry layout _ inside (is_data.narrow.trans (by decide))]

/-- The bytes of the other clusters are as they were. -/
theorem grow_other (layout : Layout env fat) (inside : 4 * last + 4 ≤ fat.fatSize)
    (is_data : DataCluster env fat new) (reached : Reached fat new) {cluster offset : Nat}
    (numbered : 2 ≤ cluster) (other : cluster ≠ new) (within : offset < fat.clusterSize) :
    grow fat bytes last new (clusterStart fat cluster + offset) =
      bytes (clusterStart fat cluster + offset) := by
  have apart := clusterStart_apart fat numbered is_data.numbered other
  have behind : fat.dataClusterStartAddress ≤ clusterStart fat cluster + offset := by
    rw [clusterStart]
    omega
  rw [grow, is_data.reached.mpr reached, overwrite_outside _ _ _ _ _ (by omega),
    putEntry_data layout _ _ is_data.entry (.inr behind), putEntry_data layout _ _ inside (.inr behind)]

/-- Those of the new one are zero. -/
theorem grow_new (is_data : DataCluster env fat new) (reached : Reached fat new) {offset : Nat}
    (within : offset < fat.clusterSize) :
    grow fat bytes last new (clusterStart fat new + offset) = 0 := by
  rw [grow, is_data.reached.mpr reached, overwrite_inside _ _ _ _ _ (by omega)]

/-- A directory with a new cluster is one again. -/
theorem Directory.grow (layout : Layout env fat) (directory : Directory env fat bytes (front ++ [last]))
    (supplied : Supplied env fat bytes (new :: more)) (reached : Reached fat new) :
    Directory env fat (grow fat bytes last new) ((front ++ [last]) ++ [new]) := by
  have inside := (directory.clusters last (List.mem_append_right _ (List.mem_singleton_self _))).entry
  have is_data := supplied.clusters new List.mem_cons_self
  have linking : Regrown fat (· = new) bytes _ [last] [last, new] :=
    Regrown.link layout inside (decode_last.mp directory.chain.suffix) is_data rfl
      (supplied.free new List.mem_cons_self)
  have grown := (Regrown.same directory.chain directory.chain.nodup).extend linking
  have behind : fat.dataClusterStartAddress ≤ dataClusterToAbsoluteAddress fat new := by
    rw [is_data.reached.mpr reached]
    exact Nat.le_add_right _ _
  have same := table_overwrite layout (putEntry fat (putEntry fat bytes last new) new FAT_ENTRY_USED)
    fat.clusterSize (fun _ => 0) behind
  constructor
  · rw [List.append_assoc]
    exact grown.chained.congr fun cluster _ => congrArg decode (congrFun same cluster)
  · intro cluster member
    rcases List.mem_append.mp member with old | only
    · exact directory.clusters cluster old
    · exact List.mem_singleton.mp only ▸ is_data
  · intro cluster member
    rcases List.mem_append.mp member with old | only
    · exact directory.reached cluster old
    · exact List.mem_singleton.mp only ▸ reached

/-- The searches after that find the other clusters. -/
theorem Supplied.grow (layout : Layout env fat) (inside : 4 * last + 4 ≤ fat.fatSize)
    (ends : table fat bytes last = FAT_ENTRY_USED) (supplied : Supplied env fat bytes (new :: more))
    (reached : Reached fat new) : Supplied env fat (grow fat bytes last new) more := by
  have is_data := supplied.clusters new List.mem_cons_self
  obtain ⟨before, sorted⟩ := List.pairwise_cons.mp supplied.sorted
  have entries : table fat (Fat.grow fat bytes last new) = _ :=
    table_grow layout inside is_data reached
  constructor
  · exact supplied.clusters.tail
  · exact fun cluster member => supplied.findable cluster (List.mem_cons_of_mem _ member)
  · exact sorted
  · intro cluster member
    have free := supplied.free cluster (List.mem_cons_of_mem _ member)
    have not_new : cluster ≠ new := Nat.ne_of_gt (before cluster member)
    have not_last : cluster ≠ last := by
      rintro rfl
      exact absurd (ends.symm.trans free) (by decide)
    rw [entries, Function.update_of_ne not_new, Function.update_of_ne not_last, free]
  · intro cluster member other lower free
    have not_new : other ≠ new := by
      rintro rfl
      rw [entries, Function.update_self] at free
      exact absurd free (by decide)
    have not_last : other ≠ last := by
      rintro rfl
      rw [entries, Function.update_of_ne not_new, Function.update_self] at free
      exact is_data.no_mark.1 free
    rw [entries, Function.update_of_ne not_new, Function.update_of_ne not_last] at free
    have listed := supplied.lowest cluster (List.mem_cons_of_mem _ member) other lower free
    exact (List.mem_cons.mp listed).resolve_left not_new

end Grown

/-! ## The numbers of the slots -/

section Numbers

variable {front rest : List Nat} {last new cluster offset : Nat}

/-- The slots of a cluster of the directory are free from the same number on. -/
theorem FreeFrom.in_cluster (free : FreeFrom fat bytes (front ++ cluster :: rest) full) :
    ∀ i < slotsPerCluster fat, bytes (clusterStart fat cluster + 32 * i + 11) = 0 ↔
      full ≤ slotsPerCluster fat * front.length + i := by
  intro i inside
  have place : slotAt fat (front ++ cluster :: rest) (slotsPerCluster fat * front.length + i) =
      clusterStart fat cluster + 32 * i := slotAt_cell inside
  rw [← place]
  refine free.2 _ ?_
  rw [List.length_append, List.length_cons, Nat.mul_add, Nat.mul_succ]
  omega

/-- A slot is in a cluster of the directory. -/
theorem slotAt_member {i : Nat} (inside : i < slotsPerCluster fat * cells.length) :
    ∃ cluster ∈ cells, ∃ k < slotsPerCluster fat, slotAt fat cells i =
      clusterStart fat cluster + 32 * k := by
  have index : i / slotsPerCluster fat < cells.length := Nat.div_lt_of_lt_mul inside
  have some : 0 < slotsPerCluster fat := Nat.pos_of_lt_mul_right (Nat.zero_lt_of_lt inside)
  refine ⟨cells[i / slotsPerCluster fat], List.getElem_mem index, i % slotsPerCluster fat,
    Nat.mod_lt _ some, ?_⟩
  rw [slotAt, List.getD_eq_getElem _ _ index]

/-- The slots of the new cluster are free, and those before it as they were. -/
theorem FreeFrom.grow (layout : Layout env fat) (whole : 32 ∣ fat.clusterSize)
    (directory : Directory env fat bytes (front ++ [last]))
    (is_data : DataCluster env fat new) (reached : Reached fat new) (absent : new ∉ front ++ [last])
    (free : FreeFrom fat bytes (front ++ [last]) full) :
    FreeFrom fat (grow fat bytes last new) ((front ++ [last]) ++ [new]) full := by
  have inside := (directory.clusters last (List.mem_append_right _ (List.mem_singleton_self _))).entry
  have size : slotsPerCluster fat * 32 = fat.clusterSize := Nat.div_mul_cancel whole
  have length : (front ++ [last] ++ [new]).length = (front ++ [last]).length + 1 :=
    List.length_append
  constructor
  · rw [length, Nat.mul_succ]
    exact Nat.le_add_right_of_le free.1
  · intro i within
    rw [length, Nat.mul_succ] at within
    rcases Nat.lt_or_ge i (slotsPerCluster fat * (front ++ [last]).length) with old | late
    · rw [slotAt_append _ old, ← free.2 i old]
      obtain ⟨cluster, member, k, small, place⟩ := slotAt_member old
      rw [place, Nat.add_assoc, grow_other layout inside is_data reached
        (directory.clusters cluster member).numbered (fun same => absent (same ▸ member)) (by omega)]
    · obtain ⟨k, rfl⟩ := Nat.exists_eq_add_of_le late
      have small : k < slotsPerCluster fat := by omega
      rw [slotAt_cell small, Nat.add_assoc, grow_new is_data reached (by omega)]
      exact iff_of_true rfl (free.1.trans late)

/-- Slots with different numbers have different addresses. -/
theorem slotAt_injective (whole : 32 ∣ fat.clusterSize) (positive : 0 < fat.clusterSize)
    (numbered : ∀ cluster ∈ cells, 2 ≤ cluster) (distinct : cells.Nodup) {i j : Nat}
    (left : i < slotsPerCluster fat * cells.length) (right : j < slotsPerCluster fat * cells.length)
    (same : slotAt fat cells i = slotAt fat cells j) : i = j := by
  have size : slotsPerCluster fat * 32 = fat.clusterSize := Nat.div_mul_cancel whole
  have some : 0 < slotsPerCluster fat := by omega
  have first : i / slotsPerCluster fat < cells.length := Nat.div_lt_of_lt_mul left
  have second : j / slotsPerCluster fat < cells.length := Nat.div_lt_of_lt_mul right
  have low (number : Nat) : number % slotsPerCluster fat < slotsPerCluster fat := Nat.mod_lt _ some
  rw [slotAt, slotAt, List.getD_eq_getElem _ _ first, List.getD_eq_getElem _ _ second] at same
  have quotients : i / slotsPerCluster fat = j / slotsPerCluster fat := by
    by_contra different
    have apart := clusterStart_apart fat (numbered _ (List.getElem_mem first))
      (numbered _ (List.getElem_mem second)) fun equal =>
        different ((List.Nodup.getElem_inj_iff distinct).mp equal)
    have := low i
    have := low j
    omega
  have remainders : i % slotsPerCluster fat = j % slotsPerCluster fat := by
    simp only [quotients] at same
    omega
  rw [← Nat.div_add_mod i (slotsPerCluster fat), ← Nat.div_add_mod j (slotsPerCluster fat), quotients,
    remainders]

end Numbers

/-! ## The search -/

/-- The number of clusters that a directory of so many lacks for a run. -/
def clustersMissing (fat : FatPrivate) (length full count : Nat) : Nat :=
  (full + count - slotsPerCluster fat * length + (slotsPerCluster fat - 1)) / slotsPerCluster fat

/-- The addresses are those of the first free slots of the directory, which has grown by
clusters of zeros, and is otherwise as it was. -/
structure Provided (fat : FatPrivate) (before after : Nat → UInt8) (cells grown : List Nat)
    (full count : Nat) (addresses : List Nat) : Prop where
  consecutive : addresses = (List.range' full count).map (slotAt fat (cells ++ grown))
  distinct : addresses.Nodup
  free : ∀ address ∈ addresses, after (address + 11) = 0
  chained : Chain (links fat after) (cells ++ grown)
  kept : ∀ cluster ∈ cells, ∀ offset < fat.clusterSize,
    after (clusterStart fat cluster + offset) = before (clusterStart fat cluster + offset)
  zeroed : ∀ cluster ∈ grown, ∀ offset < fat.clusterSize,
    after (clusterStart fat cluster + offset) = 0

section Search

variable {front rest : List Nat} {cluster new : Nat} {list : Block} {fault : Fault → Prop}

/-- Nothing is lacking where the run ends in the directory. -/
theorem clustersMissing_zero {length : Nat} (some : 0 < slotsPerCluster fat)
    (enough : full + count ≤ slotsPerCluster fat * length) :
    clustersMissing fat length full count = 0 := by
  rw [clustersMissing, Nat.sub_eq_zero_of_le enough, Nat.zero_add]
  exact Nat.div_eq_of_lt (by omega)

/-- Else a new cluster is one less to add. -/
theorem clustersMissing_succ {length : Nat} (some : 0 < slotsPerCluster fat)
    (lacking : slotsPerCluster fat * length < full + count) :
    clustersMissing fat length full count = clustersMissing fat (length + 1) full count + 1 := by
  rw [clustersMissing, clustersMissing, Nat.mul_succ]
  rcases Nat.lt_or_ge (full + count) (slotsPerCluster fat * length + slotsPerCluster fat) with
    last | further
  · have less : full + count - (slotsPerCluster fat * length + slotsPerCluster fat) = 0 := by omega
    have one : full + count - slotsPerCluster fat * length + (slotsPerCluster fat - 1) =
        (full + count - slotsPerCluster fat * length - 1) + slotsPerCluster fat := by omega
    rw [less, one, Nat.add_div_right _ some, Nat.div_eq_of_lt (by omega), Nat.div_eq_of_lt (by omega)]
  · rw [← Nat.add_div_right _ some]
    congr 1
    omega

/-- A run that ends in the directory. -/
theorem Provided.here (whole : 32 ∣ fat.clusterSize) (positive : 0 < fat.clusterSize)
    (directory : Directory env fat bytes cells) (free : FreeFrom fat bytes cells full)
    (enough : full + count ≤ slotsPerCluster fat * cells.length) :
    Provided fat bytes bytes cells [] full count ((List.range' full count).map (slotAt fat cells)) := by
  have numbered (cluster : Nat) (member : cluster ∈ cells) : 2 ≤ cluster :=
    (directory.clusters cluster member).numbered
  constructor
  · rw [List.append_nil]
  · refine List.Nodup.map_on ?_ List.nodup_range'
    intro i left j right same
    have first := (List.mem_range'_1.mp left).2
    have second := (List.mem_range'_1.mp right).2
    exact slotAt_injective whole positive numbered directory.chain.nodup (by omega) (by omega) same
  · intro address member
    obtain ⟨i, inside, rfl⟩ := List.mem_map.mp member
    obtain ⟨late, before⟩ := List.mem_range'_1.mp inside
    exact (free.2 i (by omega)).mpr late
  · rw [List.append_nil]
    exact directory.chain
  · exact fun _ _ _ _ => rfl
  · exact fun _ member => nomatch member

/-- A run in a directory that has grown. -/
theorem Provided.behind {after : Nat → UInt8} {front grown addresses : List Nat} {last : Nat}
    (layout : Layout env fat) (directory : Directory env fat bytes (front ++ [last]))
    (is_data : DataCluster env fat new) (reached : Reached fat new) (absent : new ∉ front ++ [last])
    (provided : Provided fat (grow fat bytes last new) after ((front ++ [last]) ++ [new]) grown full
      count addresses) :
    Provided fat bytes after (front ++ [last]) (new :: grown) full count addresses := by
  have inside := (directory.clusters last (List.mem_append_right _ (List.mem_singleton_self _))).entry
  constructor
  · rw [provided.consecutive, List.append_assoc, List.singleton_append]
  · exact provided.distinct
  · exact provided.free
  · have chained := provided.chained
    rwa [List.append_assoc, List.singleton_append] at chained
  · intro cluster member offset small
    rw [provided.kept cluster (List.mem_append_left _ member) offset small]
    exact grow_other layout inside is_data reached (directory.clusters cluster member).numbered
      (fun same => absent (same ▸ member)) small
  · intro cluster member offset small
    rcases List.mem_cons.mp member with rfl | later
    · rw [provided.kept cluster (List.mem_append_right _ (List.mem_singleton_self _)) offset small]
      exact grow_new is_data reached small
    · exact provided.zeroed cluster later offset small

/-- What is read of a cluster shows its slots. -/
theorem shows_of_read (whole : 32 ∣ fat.clusterSize) {entries : Entries}
    (reached : dataClusterToAbsoluteAddress fat cluster = clusterStart fat cluster)
    (room : fat.clusterSize ≤ entries.block.capacity)
    (read : entries.bytes = overwrite (fun _ => 0) 0 fat.clusterSize
      (slice bytes (dataClusterToAbsoluteAddress fat cluster))) : Shows fat bytes cluster entries := by
  have size : slotsPerCluster fat * 32 = fat.clusterSize := Nat.div_mul_cancel whole
  refine ⟨room, fun i inside => ?_⟩
  rw [Entries.entry, DirectoryEntry.attributes, slice_apply, read,
    overwrite_inside _ _ _ _ _ (by omega), slice_apply, Nat.sub_zero, reached, Nat.add_assoc]

/-- The step to the next cluster, whether it was there or is new. -/
theorem searchFree_next (layout : Layout env fat) (quiet : env.Quiet) (roomy : env.Roomy)
    (whole : 32 ∣ fat.clusterSize) (page : fat.clusterSize ≤ env.capacity 32)
    (small : fat.clusterSize < 2 ^ 32) (is_data : DataCluster env fat new)
    (reached : Reached fat new) (fuel maxEntries : Nat) (entries : Option Entries)
    (addresses : List Nat) {post : Code × Option (List Nat) → World → Prop}
    (goes_on : ∀ (next : Entries) after, after.bytes = world.bytes →
      Shows fat world.bytes new next →
      Meets (searchFree env fat list count fuel new (table fat world.bytes new)
        (slotsPerCluster fat) (some next) addresses SUCCESS) after fault post) :
    Meets (searchNext env fat list count fuel maxEntries entries addresses SUCCESS new) world fault
      post := by
  apply (kzfree_meets _).bind
  rintro - freed same
  apply ((getDirEntrySingleCluster_meets quiet roomy layout.cluster small is_data.place_inside
    maxEntries SUCCESS).mono_fault fun _ both => absurd both.2 (Nat.not_lt.mpr page)).bind
  rintro ⟨code, number, found⟩ read ⟨still, -, next, result, capacity, bytes⟩
  obtain ⟨rfl, rfl, rfl⟩ : code = SUCCESS ∧ number = fat.clusterSize / 32 ∧ found = some next := by
    simpa using result
  refine getFatEntry_then layout quiet is_data.entry fun after final => ?_
  have unchanged : after.bytes = world.bytes := final.bytes.trans (still.bytes.trans same.bytes)
  dsimp only
  rw [if_success, still.bytes.trans same.bytes]
  refine goes_on next after unchanged (shows_of_read whole (is_data.reached.mpr reached) ?_ ?_)
  · rw [capacity]
    exact page
  · rw [bytes, same.bytes]

/-- The search gives the first run of free slots, in the directory as it is or as it has to
grow for it.

Proof: by induction on the passes; the numbers of the run so far are those of the free slots
before the cluster that is looked at. -/
theorem searchFree_meets (layout : Layout env fat) (quiet : env.Quiet) (roomy : env.Roomy)
    (fitting : env.Fitting) (whole : 32 ∣ fat.clusterSize) (page : fat.clusterSize ≤ env.capacity 32)
    (small : fat.clusterSize < 2 ^ 32) (few : count < 256) (room : 8 * count ≤ list.capacity)
    (fuel : Nat) {entries : Entries} (cells_are : cells = front ++ cluster :: rest)
    (directory : Directory env fat world.bytes cells) (supplied : Supplied env fat world.bytes fresh)
    (reached : ∀ cluster ∈ fresh, Reached fat cluster) (free : FreeFrom fat world.bytes cells full)
    (shows : Shows fat world.bytes cluster entries)
    (short : slotsPerCluster fat * front.length - full < count)
    (enough : full + count ≤ slotsPerCluster fat * (cells.length + fresh.length))
    (passes : rest.length + fresh.length < fuel) :
    Meets (searchFree env fat list count fuel cluster (entryTo rest) (slotsPerCluster fat)
        (some entries) ((List.range' full (slotsPerCluster fat * front.length - full)).map
          (slotAt fat cells)) SUCCESS) world (fun _ => False)
      fun result after => ∃ addresses, result = (SUCCESS, some addresses) ∧
        Provided fat world.bytes after.bytes cells
          (fresh.take (clustersMissing fat cells.length full count)) full count addresses := by
  induction fuel generalizing world cells front cluster rest fresh entries with
  | zero => exact absurd passes (Nat.not_lt_zero _)
  | succ fuel induction =>
    subst cells_are
    have here : cluster ∈ front ++ cluster :: rest :=
      List.mem_append_right _ List.mem_cons_self
    have size : slotsPerCluster fat * 32 = fat.clusterSize := Nat.div_mul_cancel whole
    have positive := layout.cluster
    have some : 0 < slotsPerCluster fat := by omega
    have length : (front ++ cluster :: rest).length = front.length + 1 + rest.length := by
      rw [List.length_append, List.length_cons]
      omega
    have suffix := directory.chain.suffix
    rw [searchFree_succ, scanFree_cluster list few room shows
      ((directory.clusters cluster here).reached.mpr (directory.reached cluster here))
      free.in_cluster short, pure_bind]
    dsimp only
    by_cases ends : full + count ≤ slotsPerCluster fat * (front.length + 1)
    · have within : full + count ≤ slotsPerCluster fat * (front ++ cluster :: rest).length := by
        rw [length, Nat.mul_add]
        omega
      rw [decide_eq_true ends, if_pos rfl, ← List.map_take,
        List.take_range'_of_length_ge (by omega), clustersMissing_zero some within, List.take_zero]
      exact .pure ⟨_, rfl, Provided.here whole positive directory free within⟩
    have still_short : slotsPerCluster fat * (front.length + 1) - full < count := by omega
    rw [decide_eq_false ends, if_neg (by decide), List.take_of_length_le (by simp; omega)]
    cases rest with
    | cons next rest =>
      have no_mark := chain_no_mark suffix
      have member : next ∈ front ++ cluster :: next :: rest :=
        List.mem_append_right _ (List.mem_cons_of_mem _ List.mem_cons_self)
      have entry : entryTo (next :: rest) = next := rfl
      rw [entry, if_neg no_mark.2, pure_bind]
      refine searchFree_next layout quiet roomy whole page small (directory.clusters next member)
        (directory.reached next member) fuel _ _ _ fun entries after same shows => ?_
      have split : front ++ cluster :: next :: rest = (front ++ [cluster]) ++ next :: rest :=
        List.append_cons _ _ _
      have leads : table fat world.bytes next = entryTo rest := by
        have chain := directory.chain
        rw [split] at chain
        exact chain_entryTo chain.suffix
      have position : (front ++ [cluster]).length = front.length + 1 := List.length_append
      rw [← same] at directory supplied free shows
      have onward := induction split directory supplied reached free shows (by rwa [position])
        enough (by rw [List.length_cons] at passes; omega)
      rw [position, same] at onward
      rw [leads]
      exact onward
    | nil =>
      have missing : slotsPerCluster fat * (front ++ [cluster]).length < full + count := by
        rw [length]
        exact Nat.not_le.mp ends
      cases fresh with
      | nil => exact absurd enough (Nat.not_le.mpr missing)
      | cons new more =>
        have is_data := supplied.clusters new List.mem_cons_self
        have seen := reached new List.mem_cons_self
        have inside := (directory.clusters cluster here).entry
        have absent : new ∉ front ++ [cluster] := fun member =>
          chain_entry directory.chain member (supplied.free new List.mem_cons_self)
        have entry : entryTo [] = FAT_ENTRY_USED := rfl
        have grows : Meets (asUInt32 <$> makeDirBigger env fat cluster) world (fun _ => False)
            fun next after => next = new ∧ after.bytes = grow fat world.bytes cluster new := by
          rw [meets_map]
          refine (makeDirBigger_grows layout quiet fitting roomy small inside is_data
            (supplied.findable new List.mem_cons_self) supplied.first).mono ?_
          rintro _ after ⟨rfl, grown⟩
          have narrow := is_data.narrow
          refine ⟨?_, grown⟩
          rw [asUInt32]
          omega
        rw [entry, if_pos rfl]
        apply grows.bind
        rintro next grown ⟨is_new, bytes⟩
        obtain rfl : new = next := is_new.symm
        refine searchFree_next layout quiet roomy whole page small is_data seen fuel _ _ _
          fun entries after same shows => ?_
        have ended : table fat world.bytes cluster = FAT_ENTRY_USED :=
          decode_last.mp directory.chain.suffix
        have leads : table fat grown.bytes new = entryTo [] := by
          rw [bytes, table_grow layout inside is_data seen, Function.update_self]
          rfl
        have position : (front ++ [cluster]).length = front.length + 1 := List.length_append
        have larger : (front ++ [cluster] ++ [new]).length = front.length + 1 + 1 := by
          rw [List.length_append, position, List.length_singleton]
        have final : after.bytes = Fat.grow fat world.bytes cluster new := same.trans bytes
        have wider := directory.grow layout supplied seen
        have next_supplied := supplied.grow layout inside ended seen
        have next_free := free.grow layout whole directory is_data seen absent
        rw [← final] at wider next_supplied next_free
        rw [← same] at shows
        have split : front ++ [cluster] ++ [new] = (front ++ [cluster]) ++ new :: [] := rfl
        have onward := induction split wider next_supplied
          (fun other member => reached other (List.mem_cons_of_mem _ member)) next_free shows
          (by rwa [position]) (by
            rw [larger]
            rw [length, List.length_cons, List.length_nil] at enough
            rwa [Nat.add_assoc _ 1 more.length, Nat.add_comm 1])
          (by rw [List.length_cons] at passes; exact Nat.lt_of_succ_lt_succ passes)
        have same_run : (List.range' full (slotsPerCluster fat * (front.length + 1) - full)).map
            (slotAt fat (front ++ [cluster])) =
            (List.range' full (slotsPerCluster fat * (front.length + 1) - full)).map
              (slotAt fat (front ++ [cluster] ++ [new])) := by
          refine List.map_congr_left fun i member => (slotAt_append [new] ?_).symm
          obtain ⟨late, before⟩ := List.mem_range'_1.mp member
          rw [position]
          omega
        rw [leads, same_run]
        rw [position] at onward
        refine onward.mono ?_
        rintro result last ⟨addresses, rfl, provided⟩
        refine ⟨addresses, rfl, ?_⟩
        rw [final] at provided
        have both := Provided.behind layout directory is_data seen absent provided
        rwa [larger, ← List.take_succ_cons, ← position, ← clustersMissing_succ some missing] at both

end Search

/-- The blocks of the heap are whole pages. -/
def Environment.Paged (env : Environment) : Prop :=
  ∀ size, env.capacity size = (size + 4095) / 4096 * 4096

theorem Environment.Paged.fitting (paged : env.Paged) : env.Fitting := by
  intro size
  rw [paged]
  omega

/-- The clusters are of 512, 1024, 2048 or 4096 bytes. -/
def UsualClusters (fat : FatPrivate) : Prop := ∃ power ≤ 3, fat.clusterSize = 512 * 2 ^ power

theorem UsualClusters.sizes (usual : UsualClusters fat) :
    512 ≤ fat.clusterSize ∧ fat.clusterSize ≤ 4096 ∧ 32 ∣ fat.clusterSize := by
  obtain ⟨power, small, size⟩ := usual
  interval_cases power <;> omega

/-- The call gives the first run of free slots of a directory that is where the driver looks
for it. -/
theorem getFreeDirEntriesAddresses_meets (layout : Layout env fat) (quiet : env.Quiet)
    (roomy : env.Roomy) (paged : env.Paged) (usual : UsualClusters fat)
    (directory : Directory env fat world.bytes cells) (supplied : Supplied env fat world.bytes fresh)
    (reached : ∀ cluster ∈ fresh, Reached fat cluster) (free : FreeFrom fat world.bytes cells full)
    {startEntry : DirectoryEntry} (starts : startEntry.startCluster = cells.headD 0)
    (wanted : 1 ≤ count) (few : count ≤ 21)
    (enough : full + count ≤ slotsPerCluster fat * (cells.length + fresh.length)) :
    Meets (getFreeDirEntriesAddresses env fat startEntry count) world (fun _ => False)
      fun result after => ∃ block addresses, result = (SUCCESS, some (block, addresses)) ∧
        Provided fat world.bytes after.bytes cells
          (fresh.take (clustersMissing fat cells.length full count)) full count addresses := by
  obtain ⟨smallest, largest, whole⟩ := usual.sizes
  have page : fat.clusterSize ≤ env.capacity 32 := by
    rw [paged]
    omega
  obtain ⟨cluster, rest, rfl⟩ := List.exists_cons_of_ne_nil directory.chain.ne_nil
  have is_data := directory.clusters cluster List.mem_cons_self
  have sees := directory.reached cluster List.mem_cons_self
  have passes : rest.length + fresh.length < 2 ^ 32 := by
    have first := directory.clusters.length_le directory.chain.nodup
    have second := supplied.clusters.length_le (supplied.sorted.imp Nat.ne_of_lt)
    rw [List.length_cons] at first
    omega
  rw [getFreeDirEntriesAddresses, starts]
  apply (kzalloc_meets count).bind
  rintro (_ | list) asked ⟨same, refused, room⟩
  · exact absurd roomy (refused rfl)
  dsimp only [List.headD_cons]
  refine getFatEntry_then layout quiet is_data.entry fun followed still => ?_
  dsimp only
  rw [if_success]
  apply ((getDirEntrySingleCluster_meets quiet roomy layout.cluster (by omega) is_data.place_inside
    0 SUCCESS).mono_fault fun _ both => absurd both.2 (Nat.not_lt.mpr page)).bind
  rintro ⟨code, number, found⟩ read ⟨final, -, entries, result, capacity, bytes⟩
  obtain ⟨rfl, rfl, rfl⟩ : code = SUCCESS ∧ number = fat.clusterSize / 32 ∧ found = some entries := by
    simpa using result
  have unchanged : read.bytes = world.bytes := final.bytes.trans (still.bytes.trans same.bytes)
  have shows : Shows fat world.bytes cluster entries := by
    refine shows_of_read whole (is_data.reached.mpr sees) (capacity ▸ page) ?_
    rw [bytes, still.bytes, same.bytes]
  rw [← unchanged] at directory supplied free shows
  have search := searchFree_meets layout quiet roomy paged.fitting whole page (by omega)
    (by omega) (by rw [room list rfl, paged]; omega) (2 ^ 32) (List.nil_append _).symm directory
    supplied reached free shows (by rw [List.length_nil]; omega) enough passes
  rw [same.bytes, chain_entryTo (unchanged ▸ directory.chain)]
  rw [List.length_nil, Nat.mul_zero, Nat.zero_sub, List.range'_zero, List.map_nil, unchanged] at search
  dsimp only
  apply search.bind
  rintro _ after ⟨addresses, rfl, provided⟩
  exact .pure ⟨list, addresses, rfl, provided⟩

/-! ## What an address of 32 bits does not reach -/

section Limits

variable {limit bound : Nat}

/-- Addresses before a limit. -/
def Before (limit : Nat) (addresses : List Nat) : Prop := ∀ address ∈ addresses, address < limit

theorem before_scanFree (list : Block) (count oldCluster : Nat) (entries : Option Entries)
    (left i : Nat) (addresses : List Nat) (before : Before limit addresses)
    (ends : 2 ^ 32 + 32 * (i + left) ≤ limit + 32) :
    Triple (fun _ => True) (scanFree fat list count oldCluster entries left i addresses)
      fun result _ => Before limit result.2 := by
  induction left generalizing i addresses with
  | zero => exact .pure fun _ _ => before
  | succ left induction =>
    refine Triple.any.bind fun attributes => .ite (fun _ => ?_) fun _ => ?_
    · have below := dataClusterToAbsoluteAddress_lt fat oldCluster
      have longer : Before limit
          (addresses ++ [dataClusterToAbsoluteAddress fat oldCluster + 32 * i]) := by
        intro address member
        rcases List.mem_append.mp member with earlier | only
        · exact before address earlier
        · rw [List.mem_singleton.mp only]
          omega
      refine .ite (fun _ => .throw) fun _ => .ite (fun _ => .pure fun _ _ => longer) fun _ => ?_
      exact (induction (i + 1) _ longer (by omega)).weaken (fun _ _ => trivial) fun _ _ h => h
    · exact (induction (i + 1) [] (fun _ member => nomatch member) (by omega)).weaken
        (fun _ _ => trivial) fun _ _ h => h

/-- No more slots of a cluster are looked at than it has. -/
theorem few_getDirEntrySingleCluster (cluster maxEntries : Nat) (errCode : Code)
    (few : maxEntries ≤ slotsPerCluster fat) {pre : World → Prop} :
    Triple pre (getDirEntrySingleCluster env fat cluster maxEntries errCode)
      fun result _ => result.2.1 ≤ slotsPerCluster fat := by
  refine Triple.any.bind ?_
  rintro (_ | block)
  · exact .pure fun _ _ => few
  refine Triple.any.bind fun _ => .ite (fun _ => .pure fun _ _ => few) fun _ => ?_
  refine Triple.any.bind fun _ => .ite (fun _ => .pure fun _ _ => few) fun _ => ?_
  exact .pure fun _ _ => le_refl _

theorem before_searchFree (list : Block) (ends : 2 ^ 32 + 32 * slotsPerCluster fat ≤ limit + 32)
    (fuel oldCluster fatEntry maxEntries : Nat) (entries : Option Entries) (addresses : List Nat)
    (errCode : Code) (few : maxEntries ≤ slotsPerCluster fat) (before : Before limit addresses)
    {pre : World → Prop} :
    Triple pre (searchFree env fat list count fuel oldCluster fatEntry maxEntries entries addresses
      errCode) fun result _ => ∀ found, result.2 = some found → Before limit found := by
  induction fuel generalizing oldCluster fatEntry maxEntries entries addresses errCode pre with
  | zero => exact .throw
  | succ fuel induction =>
    rw [searchFree_succ]
    refine ((before_scanFree list count oldCluster entries maxEntries 0 addresses before
      (by omega)).weaken (fun _ _ => trivial) fun _ _ h => h).bind ?_
    rintro ⟨enough, addresses⟩
    refine .ite (fun _ => .pure ?_) fun _ => ?_
    · rintro world before found ⟨⟩
      exact before
    have onward (before : Before limit addresses) (next : Nat) : Triple (fun _ => True)
        (searchNext env fat list count fuel maxEntries entries addresses errCode next)
        fun result _ => ∀ found, result.2 = some found → Before limit found := by
      refine Triple.any.bind fun _ => ?_
      refine (few_getDirEntrySingleCluster next maxEntries errCode few).bind ?_
      rintro ⟨code, number, found⟩
      refine .known fun few => Triple.any.bind fun _ => .ite (fun _ => ?_) fun _ => ?_
      · refine Triple.any.bind fun _ => .pure ?_
        rintro world - found ⟨⟩
      · exact induction _ _ _ _ _ _ few before
    refine .known fun before => .ite (fun _ => ?_) fun _ => ?_
    · exact Triple.any.bind fun next => onward before next
    · exact Triple.any.bind fun next => onward before next

/-- Each address that is returned is of a slot of a cluster below `2 ^ 32`. -/
theorem before_getFreeDirEntriesAddresses (startEntry : DirectoryEntry) (count : Nat)
    (ends : 2 ^ 32 + 32 * slotsPerCluster fat ≤ limit + 32) :
    Triple (fun _ => True) (getFreeDirEntriesAddresses env fat startEntry count)
      fun result _ => ∀ block addresses, result.2 = some (block, addresses) →
        Before limit addresses := by
  refine Triple.any.bind ?_
  rintro (_ | list)
  · exact .pure fun _ _ _ _ impossible => nomatch impossible
  refine Triple.any.bind fun _ => .ite (fun _ => .pure fun _ _ _ _ h => nomatch h) fun _ => ?_
  refine (few_getDirEntrySingleCluster _ 0 _ (Nat.zero_le _)).bind ?_
  rintro ⟨code, number, entries⟩
  refine .known fun few => ?_
  have none : Before limit [] := fun _ member => nomatch member
  refine (before_searchFree list ends _ _ _ _ _ [] _ few none).bind ?_
  rintro ⟨code, _ | addresses⟩
  · exact .pure fun _ _ _ _ impossible => nomatch impossible
  · refine .pure ?_
    rintro world before _ _ ⟨⟩
    exact before addresses rfl

theorem leaves_kzalloc (size : Nat) : Leaves bound (kzalloc env size) := fun _ =>
  (kzalloc_meets size).mono fun _ _ met _ _ => congrFun met.1.bytes _

theorem leaves_kzfree (block : Option Block) : Leaves bound (kzfree block) := fun _ =>
  (kzfree_meets block).mono fun _ _ same _ _ => congrFun same.bytes _

theorem leaves_seekRead (position : Nat) : Leaves bound (seekRead env position) := fun _ =>
  (seekRead_meets position).mono fun _ _ met _ _ => congrFun met.1.bytes _

/-- Both words of an entry are before the place. -/
theorem leaves_writeEntry (quiet : env.Quiet) (wide : 2 ^ 32 + 4 ≤ bound) (cluster value : Nat) :
    Leaves bound (writeFATEntry env fat cluster value) := by
  have ends (start : Nat) : (start + 4 * cluster) % 2 ^ 32 + 4 ≤ bound := by omega
  rw [writeFATEntry]
  refine leaves_writeAt quiet _ (ends _) fun ret => .check fun _ => ?_
  rw [← bind_pure (writeStream env (wordBytes value) 4)]
  exact leaves_writeAt quiet _ (ends _) .pure

theorem leaves_makeDirBigger (quiet : env.Quiet) (fitting : env.Fitting)
    (narrow : fat.fatAddress < 2 ^ 32) (wide : 2 ^ 32 + 4 ≤ bound)
    (ends : 2 ^ 32 + fat.clusterSize ≤ bound + 1) (last : Nat) :
    Leaves bound (makeDirBigger env fat last) := by
  refine (leaves_search quiet fitting narrow (le_refl _)).bind fun (ret, new) => .check fun _ => ?_
  refine .ite (fun _ => .pure _) fun _ => ?_
  refine (leaves_writeEntry quiet wide _ _).bind fun ret => .check fun _ => ?_
  refine (leaves_writeEntry quiet wide _ _).bind fun ret => .check fun _ => ?_
  have below := dataClusterToAbsoluteAddress_lt fat new
  exact leaves_writeAt quiet _ (by omega) fun ret => .check fun _ => .pure _

theorem leaves_readStream (out : Nat → UInt8) (capacity offset length : Nat) :
    Leaves bound (readStream env out capacity offset length) := by
  intro world
  rw [readStream, meets_bind, meets_get, meets_ite]
  refine ⟨fun _ => .pure fun _ _ => rfl, fun _ => ?_⟩
  rw [meets_ite]
  constructor
  · intro _
    rw [meets_bind, meets_set, meets_pure]
    exact fun _ _ => rfl
  · intro _
    rw [meets_ite]
    refine ⟨fun _ => .throw trivial, fun _ => ?_⟩
    rw [meets_bind, meets_set, meets_pure]
    exact fun _ _ => rfl

theorem leaves_readAttributes (entries : Option Entries) (i : Nat) :
    Leaves bound (readAttributes entries i) := by
  cases entries with
  | none => exact .throw _
  | some entries => exact .ite (fun _ => .throw _) fun _ => .pure _

theorem leaves_getDirEntrySingleCluster (cluster maxEntries : Nat) (errCode : Code) :
    Leaves bound (getDirEntrySingleCluster env fat cluster maxEntries errCode) := by
  refine (leaves_kzalloc 32).bind ?_
  rintro (_ | block)
  · exact .pure _
  refine (leaves_seekRead _).bind fun ret => .check fun _ => ?_
  exact (leaves_readStream _ _ _ _).bind fun (ret, read) => .check fun _ => .pure _

theorem leaves_scanFree (list : Block) (oldCluster : Nat) (entries : Option Entries)
    (left i : Nat) (addresses : List Nat) :
    Leaves bound (scanFree fat list count oldCluster entries left i addresses) := by
  induction left generalizing i addresses with
  | zero => exact .pure _
  | succ left induction =>
    refine (leaves_readAttributes _ _).bind fun _ => .ite (fun _ => ?_) fun _ => induction _ _
    exact .ite (fun _ => .throw _) fun _ => .ite (fun _ => .pure _) fun _ => induction _ _

/-- The call leaves what is behind the clusters that begin below `2 ^ 32`. -/
theorem leaves_searchFree (quiet : env.Quiet) (fitting : env.Fitting)
    (narrow : fat.fatAddress < 2 ^ 32) (wide : 2 ^ 32 + 4 ≤ bound)
    (ends : 2 ^ 32 + fat.clusterSize ≤ bound + 1) (list : Block)
    (fuel oldCluster fatEntry maxEntries : Nat) (entries : Option Entries) (addresses : List Nat)
    (errCode : Code) :
    Leaves bound (searchFree env fat list count fuel oldCluster fatEntry maxEntries entries addresses
      errCode) := by
  induction fuel generalizing oldCluster fatEntry maxEntries entries addresses errCode with
  | zero => exact .throw _
  | succ fuel induction =>
    have onward (addresses : List Nat) (next : Nat) : Leaves bound
        (searchNext env fat list count fuel maxEntries entries addresses errCode next) := by
      refine (leaves_kzfree _).bind fun _ => (leaves_getDirEntrySingleCluster _ _ _).bind ?_
      rintro ⟨code, number, found⟩
      refine (leaves_getFatEntry _).bind fun _ => .ite (fun _ => ?_) fun _ => induction _ _ _ _ _ _
      exact (leaves_kzfree _).bind fun _ => .pure _
    rw [searchFree_succ]
    refine (leaves_scanFree _ _ _ _ _ _).bind ?_
    rintro ⟨enough, addresses⟩
    refine .ite (fun _ => .pure _) fun _ => .ite (fun _ => ?_) fun _ => ?_
    · refine Leaves.bind ?_ fun next => onward addresses next
      rw [map_eq_pure_bind]
      exact (leaves_makeDirBigger quiet fitting narrow wide ends _).bind fun _ => .pure _
    · exact (Leaves.pure _).bind fun next => onward addresses next

theorem leaves_getFreeDirEntriesAddresses (quiet : env.Quiet) (fitting : env.Fitting)
    (narrow : fat.fatAddress < 2 ^ 32) (wide : 2 ^ 32 + 4 ≤ bound)
    (ends : 2 ^ 32 + fat.clusterSize ≤ bound + 1) (startEntry : DirectoryEntry) (count : Nat) :
    Leaves bound (getFreeDirEntriesAddresses env fat startEntry count) := by
  refine (leaves_kzalloc count).bind ?_
  rintro (_ | list)
  · exact .pure _
  refine (leaves_getFatEntry _).bind fun (ret, entry) => .check fun _ => ?_
  refine (leaves_getDirEntrySingleCluster _ _ _).bind ?_
  rintro ⟨code, number, entries⟩
  refine (leaves_searchFree quiet fitting narrow wide ends _ _ _ _ _ _ _ _).bind ?_
  rintro ⟨code, _ | addresses⟩
  · exact .pure _
  · exact .pure _

end Limits

/-! ## Where the call is right -/

/-- Whatever the data region holds: where the slots from a number on are free and there are
enough of them, or enough clusters to add, the call returns the addresses of the first ones. -/
def FindsSlots (env : Environment) (fat : FatPrivate) (startEntry : DirectoryEntry)
    (bytes : Nat → UInt8) (cells fresh : List Nat) (count : Nat) : Prop :=
  ∀ (world : World) (full : Nat),
    table fat world.bytes = table fat bytes → FreeFrom fat world.bytes cells full →
    full + count ≤ slotsPerCluster fat * (cells.length + fresh.length) →
    ∃ block addresses after,
      (getFreeDirEntriesAddresses env fat startEntry count).run world =
        .ok ((SUCCESS, some (block, addresses)), after) ∧
      Provided fat world.bytes after.bytes cells
        (fresh.take (clustersMissing fat cells.length full count)) full count addresses

/-- A data region without zeros but in the slots from a number on. -/
def staged (fat : FatPrivate) (volumeSize : Nat) (bytes : Nat → UInt8) (cells : List Nat)
    (full : Nat) : Nat → UInt8 :=
  overwrite bytes fat.dataClusterStartAddress volumeSize fun offset =>
    if (List.range (slotsPerCluster fat * cells.length)).any fun i =>
      decide (full ≤ i) && decide (slotAt fat cells i + 11 = fat.dataClusterStartAddress + offset)
    then 0 else 1

section Staged

variable {volumeSize : Nat}

theorem staged_apply {address : Nat} (behind : fat.dataClusterStartAddress ≤ address)
    (inside : address < fat.dataClusterStartAddress + volumeSize) :
    staged fat volumeSize bytes cells full address = 0 ↔
      ∃ i < slotsPerCluster fat * cells.length, full ≤ i ∧ slotAt fat cells i + 11 = address := by
  have start : fat.dataClusterStartAddress + (address - fat.dataClusterStartAddress) = address := by
    omega
  rw [staged, overwrite_inside _ _ _ _ _ ⟨behind, inside⟩, start]
  split
  next shown => simpa using shown
  next hidden =>
    refine iff_of_false (by decide) ?_
    rintro ⟨i, small, late, same⟩
    exact hidden (List.any_eq_true.mpr ⟨i, List.mem_range.mpr small, by simp [late, same]⟩)

theorem staged_table (layout : Layout env fat) :
    table fat (staged fat volumeSize bytes cells full) = table fat bytes :=
  table_overwrite layout _ _ _ (le_refl _)

theorem staged_free (bytes : Nat → UInt8) (whole : 32 ∣ fat.clusterSize) (positive : 0 < fat.clusterSize)
    (clusters : Clusters env fat cells) (distinct : cells.Nodup)
    (within : full ≤ slotsPerCluster fat * cells.length) :
    FreeFrom fat (staged fat env.volumeSize bytes cells full) cells full := by
  have size : slotsPerCluster fat * 32 = fat.clusterSize := Nat.div_mul_cancel whole
  refine ⟨within, fun i inside => ?_⟩
  obtain ⟨cluster, member, k, small, place⟩ := slotAt_member inside
  have last := (clusters cluster member).whole
  have behind : fat.dataClusterStartAddress ≤ clusterStart fat cluster := Nat.le_add_right _ _
  rw [staged_apply (by omega) (by omega)]
  constructor
  · rintro ⟨j, before, late, same⟩
    have equal := slotAt_injective whole positive (fun other here => (clusters other here).numbered)
      distinct before inside (by omega)
    exact equal ▸ late
  · exact fun late => ⟨i, inside, late, rfl⟩

end Staged

section Exact

variable {startEntry : DirectoryEntry}

/-- A cluster of the directory that addresses of 32 bits do not reach.

Proof: a run that the last slot of that cluster belongs to is not returned. -/
theorem cells_reached (layout : Layout env fat) (usual : UsualClusters fat)
    (chain : Chain (links fat bytes) cells) (clusters : Clusters env fat cells)
    (wanted : 1 ≤ count) (room : count ≤ slotsPerCluster fat * (cells.length + fresh.length))
    (finds : FindsSlots env fat startEntry bytes cells fresh count) {cluster : Nat} (member : cluster ∈ cells) :
    Reached fat cluster := by
  obtain ⟨smallest, largest, whole⟩ := usual.sizes
  have size : slotsPerCluster fat * 32 = fat.clusterSize := Nat.div_mul_cancel whole
  obtain ⟨front, rest, rfl⟩ := List.append_of_mem member
  have length : (front ++ cluster :: rest).length = front.length + 1 + rest.length := by
    rw [List.length_append, List.length_cons]
    omega
  have ends : slotsPerCluster fat * (front ++ cluster :: rest).length =
      slotsPerCluster fat * (front.length + 1) + slotsPerCluster fat * rest.length := by
    rw [length, Nat.mul_add]
  have longer : slotsPerCluster fat * ((front ++ cluster :: rest).length + fresh.length) =
      slotsPerCluster fat * (front ++ cluster :: rest).length +
        slotsPerCluster fat * fresh.length := Nat.mul_add _ _ _
  have next : slotsPerCluster fat * (front.length + 1) =
      slotsPerCluster fat * front.length + slotsPerCluster fat := Nat.mul_succ _ _
  by_contra beyond
  have free := staged_free bytes whole layout.cluster clusters chain.nodup
    (show slotsPerCluster fat * (front.length + 1) - count ≤ _ by omega)
  obtain ⟨block, addresses, after, ran, provided⟩ := finds (freshWorld (staged fat env.volumeSize
    bytes (front ++ cluster :: rest) _)) _ (staged_table layout) free (by omega)
  have before : Before (2 ^ 32 + fat.clusterSize - 32) addresses :=
    (before_getFreeDirEntriesAddresses startEntry count (by omega) _ trivial).returned ran block
      addresses rfl
  have listed : slotAt fat (front ++ cluster :: rest)
      (slotsPerCluster fat * front.length + (slotsPerCluster fat - 1)) ∈ addresses := by
    rw [provided.consecutive, ← slotAt_append _ (by omega)]
    exact List.mem_map_of_mem (List.mem_range'_1.mpr ⟨by omega, by omega⟩)
  have lower := before _ listed
  rw [slotAt_cell (by omega)] at lower
  have high : 2 ^ 32 ≤ clusterStart fat cluster := Nat.not_lt.mp beyond
  omega

/-- A cluster that the directory has to grow by, likewise.

Proof: its last byte is not zeroed. -/
theorem fresh_reached (layout : Layout env fat) (quiet : env.Quiet) (paged : env.Paged)
    (usual : UsualClusters fat) (chain : Chain (links fat bytes) cells)
    (clusters : Clusters env fat cells) (supplied : Supplied env fat bytes fresh)
    (most : slotsPerCluster fat * (fresh.length - 1) < count)
    (room : count ≤ slotsPerCluster fat * (cells.length + fresh.length))
    (finds : FindsSlots env fat startEntry bytes cells fresh count) {cluster : Nat}
    (member : cluster ∈ fresh) : Reached fat cluster := by
  obtain ⟨smallest, largest, whole⟩ := usual.sizes
  have size : slotsPerCluster fat * 32 = fat.clusterSize := Nat.div_mul_cancel whole
  have longer : slotsPerCluster fat * (cells.length + fresh.length) =
      slotsPerCluster fat * cells.length + slotsPerCluster fat * fresh.length := Nat.mul_add _ _ _
  have is_data := supplied.clusters cluster member
  have inside := is_data.whole
  have absent : cluster ∉ cells := fun here =>
    chain_entry chain here (supplied.free cluster member)
  by_contra beyond
  have high : 2 ^ 32 ≤ clusterStart fat cluster := Nat.not_lt.mp beyond
  have free := staged_free bytes whole layout.cluster clusters chain.nodup
    (show min (slotsPerCluster fat * cells.length)
      (slotsPerCluster fat * (cells.length + fresh.length) - count) ≤ _ by omega)
  generalize shown : min (slotsPerCluster fat * cells.length)
    (slotsPerCluster fat * (cells.length + fresh.length) - count) = full at free
  obtain ⟨block, addresses, after, ran, provided⟩ := finds (freshWorld (staged fat env.volumeSize
    bytes cells full)) full (staged_table layout) free (by omega)
  have all : fresh.length ≤ clustersMissing fat cells.length full count := by
    have some : 0 < fresh.length := List.length_pos_of_mem member
    have product : slotsPerCluster fat * (fresh.length - 1 + 1) =
        slotsPerCluster fat * (fresh.length - 1) + slotsPerCluster fat := Nat.mul_succ _ _
    rw [Nat.sub_add_cancel some] at product
    rw [clustersMissing, Nat.le_div_iff_mul_le (by omega), Nat.mul_comm fresh.length]
    omega
  rw [List.take_of_length_le all] at provided
  have zero := provided.zeroed cluster member (fat.clusterSize - 1) (by omega)
  have data := layout.data
  have copy := layout.copy
  have narrow := layout.narrow
  have left := (leaves_getFreeDirEntriesAddresses quiet paged.fitting (by omega) (by omega) (by omega)
    startEntry count _).returned ran (clusterStart fat cluster + (fat.clusterSize - 1))
    (show 2 ^ 32 + fat.clusterSize - 1 ≤ _ by omega)
  have behind : fat.dataClusterStartAddress ≤ clusterStart fat cluster := Nat.le_add_right _ _
  obtain ⟨i, small, -, same⟩ := (staged_apply (by omega) (by omega)).mp (left.symm.trans zero)
  obtain ⟨other, listed, k, few, place⟩ := slotAt_member small
  have apart := clusterStart_apart fat (clusters other listed).numbered is_data.numbered
    fun equal => absent (equal ▸ listed)
  omega

end Exact

theorem freshWorld_bytes (bytes : Nat → UInt8) : (freshWorld bytes).bytes = bytes := rfl

/-- A volume of 2000 sectors. -/
def plentifulBytes : Nat → UInt8 :=
  let bytes := putEntry (attachToDisk sectorRecord) (fun _ => 0) 0 0x0FFFFFF8
  let bytes := putEntry (attachToDisk sectorRecord) bytes 1 FAT_ENTRY_USED
  putEntry (attachToDisk sectorRecord) bytes 2 FAT_ENTRY_USED

theorem sectorRecord_layout : Layout (pageEnvironment 1024000) (attachToDisk sectorRecord) := by
  constructor <;> decide

/-- A volume with clusters of 4096 bytes, the last of which is the first behind 4 GiB. -/
def farRecord : MasterBootRecord := ⟨512, 8, 32, 2, 8388616, 8256, 2⟩

def farBytes : Nat → UInt8 := putEntry (attachToDisk farRecord) (fun _ => 0) 1046510 FAT_ENTRY_USED

theorem farRecord_layout : Layout (pageEnvironment 4294971392) (attachToDisk farRecord) := by
  constructor <;> decide

end BobaOS.Fat
