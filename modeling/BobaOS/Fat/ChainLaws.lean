import Mathlib.Data.Finset.Card
import BobaOS.Fat.TableLaws

/-!
# How the driver changes a chain

A chain is skipped along, cut, and grown by clusters that a search has found. A
change of one chain says what the new chain is, that its new clusters were free,
that the dropped ones are free, and that no other entry has changed. Changes
compose, so that a whole write is one change of the chain of its file.
-/

namespace BobaOS.Fat

open ByteStore Programs Chains

variable {env : Environment} {fat : FatPrivate} {allowed : Nat → Prop}

/-- The entries of one chain are rewritten from an old list of clusters to a new
one. -/
structure Regrown (fat : FatPrivate) (allowed : Nat → Prop) (before after : Nat → UInt8)
    (old new : List Nat) : Prop where
  chained : Chain (links fat after) new
  distinct : new.Nodup
  fresh : ∀ cluster ∈ new, cluster ∉ old →
    allowed cluster ∧ table fat before cluster = FAT_ENTRY_FREE
  dropped : ∀ cluster ∈ old, cluster ∉ new → table fat after cluster = FAT_ENTRY_FREE
  elsewhere : ∀ cluster, cluster ∉ old → cluster ∉ new →
    table fat after cluster = table fat before cluster
  copies : InStep fat before → InStep fat after

/-- No entry on a chain is free. -/
theorem chain_entry {bytes : Nat → UInt8} {cells : List Nat} (chain : Chain (links fat bytes) cells)
    {cluster : Nat} (member : cluster ∈ cells) : table fat bytes cluster ≠ FAT_ENTRY_FREE :=
  fun free => chain.not_free member (decode_free.mpr free)

/-- Nothing is changed. -/
theorem Regrown.same {bytes : Nat → UInt8} {cells : List Nat}
    (chain : Chain (links fat bytes) cells) (distinct : cells.Nodup) :
    Regrown fat allowed bytes bytes cells cells where
  chained := chain
  distinct := distinct
  fresh _ member absent := absurd member absent
  dropped _ member absent := absurd member absent
  elsewhere _ _ _ := rfl
  copies step := step

/-- A change remains one when the bytes are written without the FATs. -/
theorem Regrown.then_data {before after final : Nat → UInt8} {old new : List Nat}
    (regrown : Regrown fat allowed before after old new)
    (same : table fat final = table fat after) (copies : InStep fat after → InStep fat final) :
    Regrown fat allowed before final old new where
  chained := regrown.chained.congr fun cluster _ => congrArg decode (congrFun same cluster)
  distinct := regrown.distinct
  fresh := regrown.fresh
  dropped cluster member absent := (congrFun same cluster).trans (regrown.dropped cluster member absent)
  elsewhere cluster not_old not_new :=
    (congrFun same cluster).trans (regrown.elsewhere cluster not_old not_new)
  copies step := copies (regrown.copies step)

/-- The same before a change. -/
theorem Regrown.after_data {before start after : Nat → UInt8} {old new : List Nat}
    (same : table fat start = table fat before) (copies : InStep fat before → InStep fat start)
    (regrown : Regrown fat allowed start after old new) :
    Regrown fat allowed before after old new where
  chained := regrown.chained
  distinct := regrown.distinct
  fresh cluster member absent := by
    rw [← same]
    exact regrown.fresh cluster member absent
  dropped := regrown.dropped
  elsewhere cluster not_old not_new := by
    rw [← same]
    exact regrown.elsewhere cluster not_old not_new
  copies step := regrown.copies (copies step)

/-- A chain that has been changed up to its last cluster, and is then changed
behind it. -/
theorem Regrown.extend {before between after : Nat → UInt8} {old front grown : List Nat}
    {cluster : Nat} (first : Regrown fat allowed before between old (front ++ [cluster]))
    (second : Regrown fat allowed between after [cluster] (cluster :: grown)) :
    Regrown fat allowed before after old (front ++ cluster :: grown) := by
  have cluster_new : cluster ∉ grown := (List.nodup_cons.mp second.distinct).1
  have grown_free (other : Nat) (member : other ∈ grown) :
      allowed other ∧ table fat between other = FAT_ENTRY_FREE := by
    refine second.fresh other (List.mem_cons_of_mem _ member) ?_
    rw [List.mem_singleton]
    rintro rfl
    exact cluster_new member
  -- A cluster that was free is not on the chain that is extended.
  have apart (other : Nat) (member : other ∈ grown) : other ∉ front ++ [cluster] :=
    fun here => chain_entry first.chained here (grown_free other member).2
  have kept (other : Nat) (member : other ∈ front) :
      table fat after other = table fat between other := by
    have not_cluster : other ≠ cluster := by
      rintro rfl
      exact (List.nodup_append.mp first.distinct).2.2 _ member _ (List.mem_singleton_self _) rfl
    refine second.elsewhere other (by rwa [List.mem_singleton]) ?_
    rintro here
    rcases List.mem_cons.mp here with same | grew
    · exact not_cluster same
    · exact apart other grew (List.mem_append_left _ member)
  have whole (other : Nat) : other ∈ front ++ cluster :: grown ↔
      other ∈ front ++ [cluster] ∨ other ∈ grown := by
    simp only [List.mem_append, List.mem_cons, List.not_mem_nil, or_false, or_assoc]
  constructor
  · exact first.chained.splice (fun other member => congrArg decode (kept other member))
      second.chained
  · refine List.nodup_append.mpr ⟨(List.nodup_append.mp first.distinct).1, second.distinct, ?_⟩
    rintro other member tested here rfl
    rcases List.mem_cons.mp here with same | grew
    · exact (List.nodup_append.mp first.distinct).2.2 other member cluster
        (List.mem_singleton_self _) same
    · exact apart other grew (List.mem_append_left _ member)
  · intro other member absent
    by_cases early : other ∈ front ++ [cluster]
    · exact first.fresh other early absent
    · have grew : other ∈ grown := ((whole other).mp member).resolve_left early
      rw [← first.elsewhere other absent early]
      exact grown_free other grew
  · intro other member absent
    rw [whole, not_or] at absent
    have not_cluster : other ∉ [cluster] := fun here => absent.1 (List.mem_append_right _ here)
    have not_new : other ∉ cluster :: grown := by
      rw [List.mem_cons, not_or]
      exact ⟨fun same => not_cluster (List.mem_singleton.mpr same), absent.2⟩
    rw [second.elsewhere other not_cluster not_new]
    exact first.dropped other member absent.1
  · intro other not_old not_new
    rw [whole, not_or] at not_new
    have not_cluster : other ∉ [cluster] := fun here => not_new.1 (List.mem_append_right _ here)
    have not_later : other ∉ cluster :: grown := by
      rw [List.mem_cons, not_or]
      exact ⟨fun same => not_cluster (List.mem_singleton.mpr same), not_new.2⟩
    rw [second.elsewhere other not_cluster not_later]
    exact first.elsewhere other not_old not_new.1
  · exact fun step => second.copies (first.copies step)

/-- A cluster that is free is linked behind the last one of a chain. -/
theorem Regrown.link (layout : Layout env fat) {bytes : Nat → UInt8} {cluster new : Nat}
    (inside : 4 * cluster + 4 ≤ fat.fatSize) (last : table fat bytes cluster = FAT_ENTRY_USED)
    (is_data : DataCluster env fat new) (granted : allowed new)
    (free : table fat bytes new = FAT_ENTRY_FREE) :
    Regrown fat allowed bytes (putEntry fat (putEntry fat bytes cluster new) new FAT_ENTRY_USED)
      [cluster] [cluster, new] := by
  have different : cluster ≠ new := by
    rintro rfl
    exact absurd (last.symm.trans free) (by decide)
  have small : new < 2 ^ 28 := is_data.narrow.trans (by decide)
  have entries : table fat (putEntry fat (putEntry fat bytes cluster new) new FAT_ENTRY_USED) =
      Function.update (Function.update (table fat bytes) cluster new) new FAT_ENTRY_USED := by
    rw [table_putEntry layout _ is_data.entry (by decide), table_putEntry layout _ inside small]
  constructor
  · refine ⟨?_, ?_⟩
    · rw [links, entries, Function.update_of_ne different, Function.update_self, decode_next]
      exact ⟨rfl, is_data.no_mark⟩
    · rw [chain_singleton, links, entries, Function.update_self]
      rfl
  · exact List.nodup_cons.mpr ⟨fun here => different (List.mem_singleton.mp here),
      List.nodup_singleton _⟩
  · intro other member absent
    rcases List.mem_cons.mp member with same | here
    · exact absurd (List.mem_singleton.mpr same) absent
    · obtain rfl := List.mem_singleton.mp here
      exact ⟨granted, free⟩
  · intro other member absent
    exact absurd (List.mem_cons.mpr (.inl (List.mem_singleton.mp member))) absent
  · intro other not_old not_new
    have not_cluster : other ≠ cluster := fun same => not_old (List.mem_singleton.mpr same)
    have not_here : other ≠ new := by
      rintro rfl
      exact not_new (List.mem_cons_of_mem _ (List.mem_singleton_self _))
    rw [entries, Function.update_of_ne not_here, Function.update_of_ne not_cluster]
  · exact fun step => (step.putEntry layout _ inside).putEntry layout _ is_data.entry

/-- A cluster that is free becomes a chain of its own. -/
theorem Regrown.head (layout : Layout env fat) {bytes : Nat → UInt8} {new : Nat}
    (is_data : DataCluster env fat new) (granted : allowed new)
    (free : table fat bytes new = FAT_ENTRY_FREE) :
    Regrown fat allowed bytes (putEntry fat bytes new FAT_ENTRY_USED) [] [new] := by
  have entries : table fat (putEntry fat bytes new FAT_ENTRY_USED) =
      Function.update (table fat bytes) new FAT_ENTRY_USED :=
    table_putEntry layout _ is_data.entry (by decide)
  constructor
  · rw [chain_singleton, links, entries, Function.update_self]
    rfl
  · exact List.nodup_singleton _
  · intro other member _
    rw [List.mem_singleton.mp member]
    exact ⟨granted, free⟩
  · exact fun other member => absurd member List.not_mem_nil
  · intro other _ not_new
    rw [entries, Function.update_of_ne fun same => not_new (List.mem_singleton.mpr same)]
  · exact fun step => step.putEntry layout _ is_data.entry

/-! ## Cutting a chain -/

/-- The bytes with the entries of the clusters freed, one after the other. -/
def freeEntries (fat : FatPrivate) (bytes : Nat → UInt8) : List Nat → Nat → UInt8
  | [] => bytes
  | cluster :: rest => freeEntries fat (putEntry fat bytes cluster FAT_ENTRY_FREE) rest

/-- The entry that leads to the rest of a chain. -/
def entryTo (rest : List Nat) : Nat := rest.headD FAT_ENTRY_USED

section Cut

variable {cells : List Nat}

/-- The clusters have entries. -/
def HaveEntries (fat : FatPrivate) (cells : List Nat) : Prop :=
  ∀ cluster ∈ cells, 4 * cluster + 4 ≤ fat.fatSize

/-- The entry of the first cluster of a chain leads to the rest. -/
theorem chain_entryTo {bytes : Nat → UInt8} {cluster : Nat} {rest : List Nat}
    (chain : Chain (links fat bytes) (cluster :: rest)) :
    table fat bytes cluster = entryTo rest := by
  cases rest with
  | nil => exact decode_last.mp chain
  | cons next rest => exact (decode_next.mp chain.1).1

/-- An entry that leads on is no mark. -/
theorem chain_no_mark {bytes : Nat → UInt8} {cluster next : Nat} {rest : List Nat}
    (chain : Chain (links fat bytes) (cluster :: next :: rest)) :
    next ≠ FAT_ENTRY_FREE ∧ next ≠ FAT_ENTRY_USED := by
  obtain ⟨same, no_mark⟩ := decode_next.mp chain.1
  rwa [same] at no_mark

theorem table_freeEntries (layout : Layout env fat) (have_entries : HaveEntries fat cells) :
    ∀ (bytes : Nat → UInt8) (cluster : Nat), table fat (freeEntries fat bytes cells) cluster =
      if cluster ∈ cells then FAT_ENTRY_FREE else table fat bytes cluster := by
  induction cells with
  | nil =>
    intro bytes cluster
    rw [freeEntries, if_neg List.not_mem_nil]
  | cons first rest ih =>
    intro bytes cluster
    have inside := have_entries first List.mem_cons_self
    rw [freeEntries, ih fun other member => have_entries other (List.mem_cons_of_mem _ member),
      table_putEntry layout _ inside (by decide)]
    by_cases later : cluster ∈ rest
    · rw [if_pos later, if_pos (List.mem_cons_of_mem _ later)]
    · rw [if_neg later]
      by_cases same : cluster = first
      · rw [same, Function.update_self, if_pos List.mem_cons_self]
      · rw [Function.update_of_ne same, if_neg]
        exact fun member => (List.mem_cons.mp member).elim same later

theorem InStep.freeEntries (layout : Layout env fat) (have_entries : HaveEntries fat cells) :
    ∀ {bytes : Nat → UInt8}, InStep fat bytes → InStep fat (freeEntries fat bytes cells) := by
  induction cells with
  | nil => exact id
  | cons first rest ih =>
    intro bytes step
    exact ih (fun other member => have_entries other (List.mem_cons_of_mem _ member))
      (step.putEntry layout _ (have_entries first List.mem_cons_self))

theorem freeEntries_data (layout : Layout env fat) (have_entries : HaveEntries fat cells)
    {address : Nat} (outside : address < fat.fatAddress ∨ fat.dataClusterStartAddress ≤ address) :
    ∀ bytes : Nat → UInt8, freeEntries fat bytes cells address = bytes address := by
  induction cells with
  | nil => exact fun _ => rfl
  | cons first rest ih =>
    intro bytes
    rw [freeEntries, ih fun other member => have_entries other (List.mem_cons_of_mem _ member)]
    exact putEntry_data layout _ _ (have_entries first List.mem_cons_self) outside

/-- Freeing what is behind a cluster and marking it as the last one cuts the
chain there. -/
theorem Regrown.cut (layout : Layout env fat) {bytes : Nat → UInt8} {front tail : List Nat}
    {cluster : Nat} (chain : Chain (links fat bytes) (front ++ cluster :: tail))
    (distinct : (front ++ cluster :: tail).Nodup) (inside : 4 * cluster + 4 ≤ fat.fatSize)
    (have_entries : HaveEntries fat tail) :
    Regrown fat allowed bytes (putEntry fat (freeEntries fat bytes tail) cluster FAT_ENTRY_USED)
      (front ++ cluster :: tail) (front ++ [cluster]) := by
  obtain ⟨front_distinct, rest_distinct, apart⟩ := List.nodup_append.mp distinct
  have entries (other : Nat) :
      table fat (putEntry fat (Fat.freeEntries fat bytes tail) cluster FAT_ENTRY_USED) other =
        if other = cluster then FAT_ENTRY_USED
        else if other ∈ tail then FAT_ENTRY_FREE else table fat bytes other := by
    rw [table_putEntry layout _ inside (by decide), Function.update_apply,
      table_freeEntries layout have_entries]
  have cluster_front : cluster ∉ front :=
    fun member => apart cluster member cluster List.mem_cons_self rfl
  constructor
  · refine chain.splice (fun other member => congrArg decode ?_) ?_
    · have not_cluster : other ≠ cluster := apart other member cluster List.mem_cons_self
      have not_tail : other ∉ tail :=
        fun here => apart other member other (List.mem_cons_of_mem _ here) rfl
      rw [entries, if_neg not_cluster, if_neg not_tail]
    · rw [chain_singleton, links, entries, if_pos rfl]
      rfl
  · refine List.nodup_append.mpr ⟨front_distinct, List.nodup_singleton _, ?_⟩
    rintro other member tested here rfl
    exact cluster_front (List.mem_singleton.mp here ▸ member)
  · intro other member absent
    refine absurd ?_ absent
    rcases List.mem_append.mp member with early | here
    · exact List.mem_append_left _ early
    · exact List.mem_append_right _ (List.mem_cons.mpr (.inl (List.mem_singleton.mp here)))
  · intro other member absent
    rw [List.mem_append, not_or, List.mem_singleton] at absent
    have in_tail : other ∈ tail := by
      rcases List.mem_append.mp member with early | here
      · exact absurd early absent.1
      · exact (List.mem_cons.mp here).resolve_left absent.2
    rw [entries, if_neg absent.2, if_pos in_tail]
  · intro other not_old not_new
    rw [List.mem_append, not_or, List.mem_singleton] at not_new
    have not_tail : other ∉ tail :=
      fun here => not_old (List.mem_append_right _ (List.mem_cons_of_mem _ here))
    rw [entries, if_neg not_new.2, if_neg not_tail]
  · exact fun step => (step.freeEntries layout have_entries).putEntry layout _ inside

end Cut

variable {world : World} {fault : Fault → Prop}

/-- The clusters of a list are data clusters. -/
def Clusters (env : Environment) (fat : FatPrivate) (cells : List Nat) : Prop :=
  ∀ cluster ∈ cells, DataCluster env fat cluster

theorem Clusters.have_entries {cells : List Nat} (clusters : Clusters env fat cells) :
    HaveEntries fat cells := fun cluster member => (clusters cluster member).entry

theorem Clusters.tail {cluster : Nat} {rest : List Nat}
    (clusters : Clusters env fat (cluster :: rest)) : Clusters env fat rest :=
  fun other member => clusters other (List.mem_cons_of_mem _ member)

/-- The loop of `unlinkFatChain` frees the clusters that it comes to. -/
theorem unlinkEntries_meets (layout : Layout env fat) (quiet : env.Quiet) :
    ∀ (rest : List Nat) (fuel : Nat) (world : World), rest.length < fuel → rest.Nodup →
      Clusters env fat rest → (rest ≠ [] → Chain (links fat world.bytes) rest) →
      Meets (unlinkEntries env fat fuel (entryTo rest)) world fault fun ret after =>
        ret = SUCCESS ∧ after.searches = world.searches ∧
          after.bytes = freeEntries fat world.bytes rest := by
  intro rest
  induction rest with
  | nil =>
    intro fuel world enough _ _ _
    obtain ⟨fuel, rfl⟩ := Nat.exists_eq_add_of_lt enough
    rw [unlinkEntries, if_neg fun both => both.1 rfl]
    exact .pure ⟨rfl, rfl, rfl⟩
  | cons cluster rest ih =>
    intro fuel world enough distinct clusters chain
    obtain ⟨fuel, rfl⟩ := Nat.exists_eq_add_of_lt enough
    have linked := chain (List.cons_ne_nil _ _)
    have is_data := clusters cluster List.mem_cons_self
    obtain ⟨absent, rest_distinct⟩ := List.nodup_cons.mp distinct
    have first_entry : entryTo (cluster :: rest) = cluster := rfl
    rw [first_entry, unlinkEntries, if_pos ⟨is_data.no_mark.2, is_data.no_mark.1⟩]
    refine getFatEntry_then layout quiet is_data.entry fun between same => ?_
    rw [meets_ite]
    refine ⟨fun negative => absurd negative (by decide), fun _ => ?_⟩
    apply (writeFATEntry_meets layout quiet FAT_ENTRY_FREE is_data.entry).bind
    rintro ret freed ⟨rfl, searched, bytes⟩
    rw [meets_ite]
    refine ⟨fun negative => absurd negative (by decide), fun _ => ?_⟩
    rw [same.bytes] at bytes
    have onward : rest ≠ [] → Chain (links fat freed.bytes) rest := by
      intro more
      refine (linked.tail more).congr fun other member => congrArg decode ?_
      rw [bytes, table_putEntry layout _ is_data.entry (by decide), Function.update_of_ne]
      rintro rfl
      exact absent member
    have still : rest.length < (cluster :: rest).length + fuel := by
      rw [List.length_cons]
      omega
    rw [chain_entryTo linked]
    refine (ih _ freed still rest_distinct clusters.tail onward).mono fun ret after ended => ?_
    obtain ⟨rfl, kept, final⟩ := ended
    refine ⟨rfl, kept.trans (searched.trans same.searches), ?_⟩
    rw [final, bytes]
    rfl

/-- Distinct data clusters are fewer than the numbers an entry can hold. -/
theorem Clusters.length_le {cells : List Nat} (clusters : Clusters env fat cells)
    (distinct : cells.Nodup) : cells.length ≤ 2 ^ 28 := by
  have bounded : cells.toFinset ⊆ Finset.range (2 ^ 28) := by
    intro cluster member
    rw [Finset.mem_range]
    exact (clusters cluster (List.mem_toFinset.mp member)).narrow.trans (by decide)
  calc cells.length = cells.toFinset.card := (List.toFinset_card_of_nodup distinct).symm
    _ ≤ (Finset.range (2 ^ 28)).card := Finset.card_le_card bounded
    _ = 2 ^ 28 := Finset.card_range _

/-- `unlinkFatChain` frees what is behind the cluster and makes it the last one. -/
theorem unlinkFatChain_meets (layout : Layout env fat) (quiet : env.Quiet) {cluster : Nat}
    {rest : List Nat} (chain : Chain (links fat world.bytes) (cluster :: rest))
    (distinct : (cluster :: rest).Nodup) (clusters : Clusters env fat (cluster :: rest)) :
    Meets (unlinkFatChain env fat cluster) world fault fun ret after =>
      ret = SUCCESS ∧ after.searches = world.searches ∧
        after.bytes = putEntry fat (freeEntries fat world.bytes rest) cluster FAT_ENTRY_USED := by
  have is_data := clusters cluster List.mem_cons_self
  have rest_distinct := (List.nodup_cons.mp distinct).2
  have enough : rest.length < 2 ^ 28 + 1 :=
    Nat.lt_succ_of_le (clusters.tail.length_le rest_distinct)
  rw [unlinkFatChain]
  refine getFatEntry_then layout quiet is_data.entry fun between same => ?_
  rw [meets_ite]
  refine ⟨fun negative => absurd negative (by decide), fun _ => ?_⟩
  have onward : rest ≠ [] → Chain (links fat between.bytes) rest := by
    rw [same.bytes]
    exact chain.tail
  rw [chain_entryTo chain]
  apply (unlinkEntries_meets layout quiet rest _ between enough rest_distinct clusters.tail
    onward).bind
  rintro ret freed ⟨rfl, searched, bytes⟩
  rw [meets_ite]
  refine ⟨fun negative => absurd negative (by decide), fun _ => ?_⟩
  apply (writeFATEntry_meets layout quiet FAT_ENTRY_USED is_data.entry).mono
  rintro ret after ⟨rfl, kept, final⟩
  refine ⟨rfl, kept.trans (searched.trans same.searches), ?_⟩
  rw [final, bytes, same.bytes]

/-- The loop that skips clusters comes to the cluster asked for, or to the end of
the chain with clusters left to skip. -/
theorem skipClusters_meets (layout : Layout env fat) (quiet : env.Quiet) :
    ∀ (rest : List Nat) (cluster toSkip oldCluster : Nat) (world : World),
      Chain (links fat world.bytes) (cluster :: rest) → Clusters env fat (cluster :: rest) →
      Meets (skipClusters env fat toSkip cluster oldCluster) world fault fun result after =>
        Same world after ∧ ∃ front here tail, cluster :: rest = front ++ here :: tail ∧
          (front.length = toSkip ∧ (∃ old, result = .ok (0, here, old)) ∨
            tail = [] ∧ front.length < toSkip ∧
              result = .ok (toSkip - front.length, FAT_ENTRY_USED, here)) := by
  intro rest
  induction rest with
  | nil =>
    intro cluster toSkip oldCluster world chain clusters
    cases toSkip with
    | zero => exact .pure ⟨.refl world, [], cluster, [], rfl, .inl ⟨rfl, oldCluster, rfl⟩⟩
    | succ toSkip =>
      rw [skipClusters]
      refine getFatEntry_then layout quiet (clusters cluster List.mem_cons_self).entry
        fun after same => ?_
      rw [meets_ite]
      refine ⟨fun negative => absurd negative (by decide), fun _ => ?_⟩
      rw [chain_entryTo chain, meets_ite]
      refine ⟨fun _ => .pure ⟨same, [], cluster, [], rfl, .inr ⟨rfl, Nat.succ_pos _, rfl⟩⟩, ?_⟩
      exact fun not => absurd (.inr rfl) not
  | cons next rest ih =>
    intro cluster toSkip oldCluster world chain clusters
    cases toSkip with
    | zero =>
      exact .pure ⟨.refl world, [], cluster, next :: rest, rfl, .inl ⟨rfl, oldCluster, rfl⟩⟩
    | succ toSkip =>
      rw [skipClusters]
      refine getFatEntry_then layout quiet (clusters cluster List.mem_cons_self).entry
        fun between same => ?_
      obtain ⟨not_free, not_used⟩ := chain_no_mark chain
      rw [meets_ite]
      refine ⟨fun negative => absurd negative (by decide), fun _ => ?_⟩
      rw [chain_entryTo chain, meets_ite]
      refine ⟨fun mark => absurd mark (not_or.mpr ⟨not_free, not_used⟩), fun _ => ?_⟩
      have onward : Chain (links fat between.bytes) (next :: rest) := by
        rw [same.bytes]
        exact chain.2
      refine (ih next toSkip cluster between onward clusters.tail).mono fun result after ended => ?_
      obtain ⟨still, front, here, tail, split, outcome⟩ := ended
      refine ⟨same.trans still, cluster :: front, here, tail, ?_, ?_⟩
      · rw [split]
        rfl
      · rw [List.length_cons]
        refine outcome.imp ?_ ?_
        · rintro ⟨length, found⟩
          exact ⟨congrArg Nat.succ length, found⟩
        · rintro ⟨ended, shorter, rest_result⟩
          refine ⟨ended, Nat.succ_lt_succ shorter, ?_⟩
          rw [Nat.succ_sub_succ]
          exact rest_result

end BobaOS.Fat
