import Mathlib.Tactic.Ring
import Mathlib.Tactic.SplitIfs

/-!
# Trees of buddies

Nodes are named by level and index; the children of node `i` of a level are `2 i`
and `2 i + 1` of the next one, and are each other's buddies. A node is there if and
only if its parent is split. What is taken then lies apart, since all nodes above a
node are split, and a tree in which no two buddies are free and nothing is taken has
no split node left.
-/

namespace BuddyTree

/-- What a node is. -/
inductive Kind where
  | absent
  | free
  | split
  | taken
deriving DecidableEq

/-- The kinds of the nodes, by level and index. -/
abbrev Kinds := Nat → Nat → Kind

/-- The nodes of the first level are there, and those whose parents are split. -/
structure Tree (first : Nat) (kinds : Kinds) : Prop where
  top : ∀ i, kinds 0 i ≠ .absent ↔ i < first
  below : ∀ l i, kinds (l + 1) i ≠ .absent ↔ kinds l (i / 2) = .split

def buddy (i : Nat) : Nat := if i % 2 = 0 then i + 1 else i - 1

theorem buddy_parent (i : Nat) : buddy i / 2 = i / 2 := by
  rw [buddy]
  split_ifs <;> omega

/-- The children of a node are each other's buddies. -/
theorem buddy_even (i : Nat) : buddy (2 * i) = 2 * i + 1 := if_pos (Nat.mul_mod_right 2 i)

theorem buddy_odd (i : Nat) : buddy (2 * i + 1) = 2 * i := by
  rw [buddy, if_neg (by omega), Nat.add_sub_cancel]

/-! ## Operations -/

/-- One node becomes another kind. -/
def set (kinds : Kinds) (l i : Nat) (kind : Kind) : Kinds :=
  fun l' i' => if l' = l ∧ i' = i then kind else kinds l' i'

/-- A node is split into two free ones. -/
def split (kinds : Kinds) (l i : Nat) : Kinds :=
  fun l' i' => if l' = l ∧ i' = i then .split
    else if l' = l + 1 ∧ i' / 2 = i then .free else kinds l' i'

/-- Two nodes become one free node. -/
def merge (kinds : Kinds) (l i : Nat) : Kinds :=
  fun l' i' => if l' = l ∧ i' = i then .free
    else if l' = l + 1 ∧ i' / 2 = i then .absent else kinds l' i'

variable {first l i : Nat} {kinds : Kinds}

@[simp] theorem set_same (kind : Kind) : set kinds l i kind l i = kind := by simp [set]

theorem set_other {kind : Kind} {l' i' : Nat} (different : l' ≠ l ∨ i' ≠ i) :
    set kinds l i kind l' i' = kinds l' i' := by
  rw [set, if_neg]
  omega

/-- A node that is neither absent nor split may be free or taken. -/
theorem Tree.set (tree : Tree first kinds) (there : kinds l i ≠ .absent)
    (whole : kinds l i ≠ .split) {kind : Kind} (still : kind ≠ .absent) (unsplit : kind ≠ .split) :
    Tree first (set kinds l i kind) where
  top j := by
    rw [BuddyTree.set]
    split
    · rename_i here
      obtain ⟨rfl, rfl⟩ := here
      simp [still, ← tree.top j, there]
    · exact tree.top j
  below l' j := by
    rw [BuddyTree.set, BuddyTree.set]
    have law := tree.below l' j
    by_cases here : l' + 1 = l ∧ j = i
    · obtain ⟨rfl, rfl⟩ := here
      rw [if_pos ⟨rfl, rfl⟩, if_neg (by omega), ← law]
      simp [still, there]
    · rw [if_neg here]
      by_cases above : l' = l ∧ j / 2 = i
      · obtain ⟨rfl, rfl⟩ := above
        rw [if_pos ⟨rfl, rfl⟩, law]
        simp [whole, unsplit]
      · rw [if_neg above, law]

/-- A free node may be split. -/
theorem Tree.split (tree : Tree first kinds) (free : kinds l i = .free) :
    Tree first (split kinds l i) where
  top j := by
    rw [BuddyTree.split]
    by_cases here : 0 = l ∧ j = i
    · obtain ⟨rfl, rfl⟩ := here
      simp [← tree.top j, free]
    · rw [if_neg here, if_neg (by omega)]
      exact tree.top j
  below l' j := by
    rw [BuddyTree.split, BuddyTree.split]
    have law := tree.below l' j
    by_cases same : l' = l
    · subst same
      by_cases child : j / 2 = i
      · simp [child]
      · simp [child, law]
    · by_cases here : l' + 1 = l ∧ j = i
      · obtain ⟨rfl, rfl⟩ := here
        have above : kinds l' (j / 2) = .split := law.mp (by simp [free])
        have deeper : l' ≠ l' + 1 + 1 := by omega
        simp [above, deeper]
      · rw [if_neg here, if_neg (by omega), if_neg (by omega)]
        by_cases child : l' = l + 1 ∧ j / 2 / 2 = i
        · obtain ⟨rfl, rfl⟩ := child
          have none_below : kinds (l + 1) (j / 2) = .absent := by
            by_contra there
            rw [(tree.below l (j / 2)).mp there] at free
            cases free
          rw [if_pos ⟨rfl, rfl⟩, law, none_below]
          simp
        · rw [if_neg child, law]

/-- Two nodes that are not split may become one. -/
theorem Tree.merge (tree : Tree first kinds) (above : kinds l i = .split)
    (whole : ∀ j, j / 2 = i → kinds (l + 1) j ≠ .split) : Tree first (merge kinds l i) where
  top j := by
    rw [BuddyTree.merge]
    by_cases here : 0 = l ∧ j = i
    · obtain ⟨rfl, rfl⟩ := here
      simp [← tree.top j, above]
    · rw [if_neg here, if_neg (by omega)]
      exact tree.top j
  below l' j := by
    rw [BuddyTree.merge, BuddyTree.merge]
    have law := tree.below l' j
    by_cases same : l' = l
    · subst same
      by_cases child : j / 2 = i
      · simp [child]
      · simp [child, law]
    · by_cases here : l' + 1 = l ∧ j = i
      · obtain ⟨rfl, rfl⟩ := here
        have split : kinds l' (j / 2) = .split := law.mp (by simp [above])
        have deeper : l' ≠ l' + 1 + 1 := by omega
        simp [split, deeper]
      · rw [if_neg here, if_neg (by omega), if_neg (by omega)]
        by_cases child : l' = l + 1 ∧ j / 2 / 2 = i
        · obtain ⟨rfl, rfl⟩ := child
          rw [if_pos ⟨rfl, rfl⟩, law]
          simp [whole (j / 2) rfl]
        · rw [if_neg child, law]

/-! ## Apart -/

/-- All nodes above a node are split. -/
theorem Tree.ancestor (tree : Tree first kinds) (k : Nat) :
    ∀ i, kinds (l + k + 1) i ≠ .absent → kinds l (i / 2 ^ (k + 1)) = .split := by
  induction k with
  | zero => exact fun i there => (tree.below l i).mp there
  | succ k ih =>
    intro i there
    have above := (tree.below (l + k + 1) i).mp there
    have law := ih (i / 2) (by simp [above])
    rwa [Nat.div_div_eq_div_mul, ← Nat.pow_succ'] at law

/-- Nodes are inside the tree. -/
theorem Tree.inside (tree : Tree first kinds) (l : Nat) :
    ∀ i, kinds l i ≠ .absent → i < first * 2 ^ l := by
  induction l with
  | zero => exact fun i there => by simpa using (tree.top i).mp there
  | succ l ih =>
    intro i there
    have above := ih (i / 2) (by simp [(tree.below l i).mp there])
    have more : first * 2 ^ (l + 1) = first * 2 ^ l * 2 := by ring
    omega

/-- Two nodes that are taken have ranges apart, where sizes halve from level to
level. -/
theorem Tree.apart (tree : Tree first kinds) {k j : Nat} (left : kinds l i = .taken)
    (right : kinds (l + k) j = .taken) (different : k = 0 → i ≠ j) (size : Nat) :
    (i + 1) * (2 ^ k * size) ≤ j * size ∨ (j + 1) * size ≤ i * (2 ^ k * size) := by
  have unequal : i ≠ j / 2 ^ k := by
    cases k with
    | zero => simpa using different rfl
    | succ k =>
      rintro rfl
      have there : kinds (l + k + 1) j ≠ .absent := by
        rw [Nat.add_assoc, right]
        exact nofun
      rw [tree.ancestor k j there] at left
      cases left
  rcases Nat.lt_or_gt_of_ne unequal with before | behind
  · left
    have bound : (i + 1) * 2 ^ k ≤ j := (Nat.le_div_iff_mul_le (Nat.two_pow_pos k)).mp before
    calc (i + 1) * (2 ^ k * size) = (i + 1) * 2 ^ k * size := by ring
      _ ≤ j * size := Nat.mul_le_mul_right size bound
  · right
    have bound : j < i * 2 ^ k := (Nat.div_lt_iff_lt_mul (Nat.two_pow_pos k)).mp behind
    calc (j + 1) * size ≤ i * 2 ^ k * size := Nat.mul_le_mul_right size bound
      _ = i * (2 ^ k * size) := by ring

/-! ## Buddies that are both free -/

/-- Both children of a node are free. -/
def BothFree (kinds : Kinds) (l i : Nat) : Prop :=
  kinds (l + 1) (2 * i) = .free ∧ kinds (l + 1) (2 * i + 1) = .free

/-- No two buddies are free. -/
def Merged (kinds : Kinds) : Prop := ∀ l i, ¬ BothFree kinds l i

/-- No two buddies are free, but perhaps the node and its own one. -/
def PairOf (kinds : Kinds) (l i : Nat) : Prop :=
  ∀ l' i', BothFree kinds l' i' → l' + 1 = l ∧ i' = i / 2

theorem Merged.pairOf (merged : Merged kinds) (l i : Nat) : PairOf kinds l i :=
  fun l' i' both => absurd both (merged l' i')

/-- A split of the node ends its pair and makes one of its children. -/
theorem PairOf.split (pair : PairOf kinds l i) {c : Nat} (child : c / 2 = i) :
    PairOf (split kinds l i) (l + 1) c := by
  rintro l' i' ⟨even, odd⟩
  by_contra different
  rw [BuddyTree.split] at even odd
  split_ifs at even odd with here below here' below'
  · omega
  · omega
  · omega
  · obtain ⟨rfl, rfl⟩ := pair l' i' ⟨even, odd⟩
    omega

/-- Taking the node ends the pair. -/
theorem PairOf.take (pair : PairOf kinds l i) : Merged (set kinds l i .taken) := by
  rintro l' i' ⟨even, odd⟩
  rw [BuddyTree.set] at even odd
  split_ifs at even odd with here here'
  obtain ⟨rfl, rfl⟩ := pair l' i' ⟨even, odd⟩
  omega

/-- Where the node has no free buddy there is no pair. -/
theorem PairOf.alone (pair : PairOf kinds l i) (alone : l = 0 ∨ kinds l (buddy i) ≠ .free) :
    Merged kinds := by
  rintro l' i' ⟨even, odd⟩
  obtain ⟨rfl, rfl⟩ := pair l' i' ⟨even, odd⟩
  have occupied := alone.resolve_left (Nat.succ_ne_zero l')
  rw [buddy] at occupied
  split_ifs at occupied with parity
  · rw [show i + 1 = 2 * (i / 2) + 1 by omega] at occupied
    exact occupied odd
  · rw [show i - 1 = 2 * (i / 2) by omega] at occupied
    exact occupied even

/-- A node may become free, and then be one of a pair. -/
theorem Merged.give (merged : Merged kinds) (l i : Nat) : PairOf (set kinds l i .free) l i := by
  rintro l' i' ⟨even, odd⟩
  by_contra different
  rw [BuddyTree.set] at even odd
  split_ifs at even odd with here here' here'
  · omega
  · omega
  · omega
  · exact merged l' i' ⟨even, odd⟩

/-- Joining the node and its buddy leaves at most the pair of the node above. -/
theorem PairOf.merge (pair : PairOf kinds (l + 1) i) :
    PairOf (merge kinds l (i / 2)) l (i / 2) := by
  rintro l' i' ⟨even, odd⟩
  by_contra different
  rw [BuddyTree.merge] at even odd
  split_ifs at even odd
  · omega
  · omega
  · omega
  · obtain ⟨same, rfl⟩ := pair l' i' ⟨even, odd⟩
    omega

/-- Where nothing is taken and no two buddies are free, nothing is split. -/
theorem Tree.coalesced (tree : Tree first kinds) (merged : Merged kinds) {levels : Nat}
    (bounded : ∀ l, levels ≤ l → ∀ i, kinds l i = .absent) (none_taken : ∀ l i, kinds l i ≠ .taken) :
    (∀ i < first, kinds 0 i = .free) ∧ ∀ l i, kinds (l + 1) i = .absent := by
  -- The deepest split node would have two free children.
  have none_split (k : Nat) : ∀ l, levels ≤ l + k → ∀ i, kinds l i ≠ .split := by
    induction k with
    | zero =>
      intro l deep i
      rw [bounded l deep i]
      exact nofun
    | succ k ih =>
      intro l deep i here
      have free (c : Nat) (child : c / 2 = i) : kinds (l + 1) c = .free := by
        have there := (tree.below l c).mpr (child ▸ here)
        have unsplit := ih (l + 1) (by omega) c
        have untaken := none_taken (l + 1) c
        cases kind : kinds (l + 1) c with
        | free => rfl
        | absent => exact absurd kind there
        | split => exact absurd kind unsplit
        | taken => exact absurd kind untaken
      exact merged l i ⟨free _ (by omega), free _ (by omega)⟩
  have unsplit (l i : Nat) : kinds l i ≠ .split := none_split levels l (by omega) i
  refine ⟨?_, ?_⟩
  · intro i inside
    have there := (tree.top i).mpr inside
    cases kind : kinds 0 i with
    | free => rfl
    | absent => exact absurd kind there
    | split => exact absurd kind (unsplit 0 i)
    | taken => exact absurd kind (none_taken 0 i)
  · intro l i
    by_contra there
    exact unsplit l (i / 2) ((tree.below l i).mp there)

end BuddyTree
