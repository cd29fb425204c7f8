import BobaOS.Library.Programs

/-!
# Programs that wait

A program that asks a device until the answer is the right one has no bound on how often it
asks. It is written with a number of questions that it may ask, and faults when they are used
up. What it settles at is the one result that it has with any number that is enough.
-/

namespace Programs

variable {σ ε α β : Type}

/-- Ask until an answer is the right one. -/
def pollUntil (ask : Program σ ε α) (done : α → Prop) [DecidablePred done] (impatient : ε) :
    Nat → Program σ ε α
  | 0 => throw impatient
  | left + 1 => do
    let answer ← ask
    if done answer then return answer
    pollUntil ask done impatient left

/-- With enough questions the program returns a value and a state that `post` allows, and with
fewer it returns the same or becomes impatient. -/
def Settles (impatient : ε) (program : Nat → Program σ ε α) (state : σ) (post : α → σ → Prop) :
    Prop :=
  ∃ value after, post value after ∧
    (∃ enough, ∀ patience, enough ≤ patience →
      (program patience).run state = .ok (value, after)) ∧
    ∀ patience, (program patience).run state = .ok (value, after) ∨
      (program patience).run state = .error impatient

/-- No number of questions is enough. -/
def Endless (impatient : ε) (program : Nat → Program σ ε α) (state : σ) : Prop :=
  ∀ patience, (program patience).run state = .error impatient

section Rules

variable {impatient : ε} {program : Nat → Program σ ε α} {state : σ} {post : α → σ → Prop}

/-- A program that does not wait. -/
theorem Settles.of_meets {plain : Program σ ε α}
    (meets : Meets plain state (fun _ => False) post) :
    Settles impatient (fun _ => plain) state post := by
  obtain ⟨value, after, ran, holds⟩ := meets.returns
  exact ⟨value, after, holds, ⟨0, fun _ _ => ran⟩, fun _ => .inl ran⟩

theorem Settles.pure {value : α} (holds : post value state) :
    Settles impatient (fun _ => (Pure.pure value : Program σ ε α)) state post := .of_meets (.pure holds)

theorem Settles.mono {weaker : α → σ → Prop} (settles : Settles impatient program state post)
    (weakens : ∀ value after, post value after → weaker value after) :
    Settles impatient program state weaker := by
  obtain ⟨value, after, holds, ran⟩ := settles
  exact ⟨value, after, weakens _ _ holds, ran⟩

/-- A program settles at one result only. -/
theorem Settles.and {other : α → σ → Prop} (settles : Settles impatient program state post)
    (also : Settles impatient program state other) :
    Settles impatient program state fun value after => post value after ∧ other value after := by
  obtain ⟨value, after, holds, ⟨first, ran⟩, either⟩ := settles
  obtain ⟨result, final, too, ⟨second, returned⟩, -⟩ := also
  have same := (ran (max first second) (Nat.le_max_left _ _)).symm.trans
    (returned (max first second) (Nat.le_max_right _ _))
  obtain ⟨rfl, rfl⟩ : value = result ∧ after = final := by
    cases same
    exact ⟨rfl, rfl⟩
  exact ⟨value, after, ⟨holds, too⟩, ⟨first, ran⟩, either⟩

theorem Settles.exists (settles : Settles impatient program state post) :
    ∃ value after, post value after := by
  obtain ⟨value, after, holds, -⟩ := settles
  exact ⟨value, after, holds⟩

/-- One program behind the other: what is enough for both is enough. -/
theorem Settles.bind {next : Nat → α → Program σ ε β} {final : β → σ → Prop}
    (settles : Settles impatient program state post)
    (onward : ∀ value after, post value after →
      Settles impatient (fun patience => next patience value) after final) :
    Settles impatient (fun patience => program patience >>= next patience) state final := by
  obtain ⟨value, middle, holds, ⟨first, ran⟩, either⟩ := settles
  obtain ⟨result, after, ends, ⟨second, returned⟩, also⟩ := onward value middle holds
  refine ⟨result, after, ends, ⟨max first second, fun patience enough => ?_⟩, fun patience => ?_⟩
  · rw [run_bind_of (ran patience (Nat.le_trans (Nat.le_max_left _ _) enough))]
    exact returned patience (Nat.le_trans (Nat.le_max_right _ _) enough)
  · rcases either patience with same | impatient
    · rw [run_bind_of same]
      exact also patience
    · rw [StateT.run_bind, impatient]
      exact .inr rfl

/-- A program that never ends behind one that settles never ends. -/
theorem Settles.endless {next : Nat → α → Program σ ε β}
    (settles : Settles impatient program state post)
    (onward : ∀ value after, post value after →
      Endless impatient (fun patience => next patience value) after) :
    Endless impatient (fun patience => program patience >>= next patience) state := by
  obtain ⟨value, middle, holds, -, either⟩ := settles
  intro patience
  rcases either patience with same | impatient
  · rw [run_bind_of same]
    exact onward value middle holds patience
  · rw [StateT.run_bind, impatient]
    rfl

/-- What never ends does not settle. -/
theorem Endless.not_settles (endless : Endless impatient program state) :
    ¬ Settles impatient program state post := by
  rintro ⟨value, after, -, ⟨enough, ran⟩, -⟩
  cases (ran enough (Nat.le_refl _)).symm.trans (endless enough)

variable {ask : Program σ ε α} {done : α → Prop} [DecidablePred done]

/-- A loop that asks settles if each wrong answer leaves it less time to wait. -/
theorem Settles.poll (waiting : σ → Prop) (time : σ → Nat) (answers : ∀ state, waiting state →
      Meets ask state (fun _ => False) fun answer after =>
        done answer ∧ post answer after ∨ ¬ done answer ∧ waiting after ∧ time after < time state)
    (ready : waiting state) : Settles impatient (pollUntil ask done impatient) state post := by
  have settled : ∀ left (state : σ), waiting state → time state < left →
      ∃ value after, post value after ∧ (∃ enough, ∀ patience, enough ≤ patience →
        (pollUntil ask done impatient patience).run state = .ok (value, after)) ∧
        ∀ patience, (pollUntil ask done impatient patience).run state = .ok (value, after) ∨
          (pollUntil ask done impatient patience).run state = .error impatient := by
    intro left
    induction left with
    | zero => exact fun _ _ none => absurd none (Nat.not_lt_zero _)
    | succ left ih =>
      intro state ready within
      obtain ⟨answer, middle, asked, ⟨right, holds⟩ | ⟨wrong, still, less⟩⟩ :=
        (answers state ready).returns
      · have ran (patience : Nat) :
            (pollUntil ask done impatient (patience + 1)).run state = .ok (answer, middle) := by
          rw [pollUntil, run_bind_of asked, if_pos right]
          rfl
        refine ⟨answer, middle, holds, ⟨1, fun patience some => ?_⟩, fun patience => ?_⟩
        · obtain ⟨fewer, rfl⟩ := Nat.exists_eq_add_of_le' some
          exact ran fewer
        · cases patience with
          | zero => exact .inr rfl
          | succ fewer => exact .inl (ran fewer)
      · obtain ⟨value, after, holds, ⟨enough, ran⟩, either⟩ := ih middle still (by omega)
        have same (patience : Nat) : (pollUntil ask done impatient (patience + 1)).run state =
            (pollUntil ask done impatient patience).run middle := by
          rw [pollUntil, run_bind_of asked, if_neg wrong]
        refine ⟨value, after, holds, ⟨enough + 1, fun patience more => ?_⟩, fun patience => ?_⟩
        · obtain ⟨fewer, rfl⟩ := Nat.exists_eq_add_of_le' (Nat.le_of_add_left_le more)
          rw [same]
          exact ran fewer (Nat.le_of_add_le_add_right more)
        · cases patience with
          | zero => exact .inr rfl
          | succ fewer =>
            rw [same]
            exact either fewer
  exact settled (time state + 1) state ready (Nat.lt_succ_self _)

/-- A loop that is never given the right answer never ends. -/
theorem Endless.poll (waiting : σ → Prop) (answers : ∀ state, waiting state →
      Meets ask state (fun _ => False) fun answer after => ¬ done answer ∧ waiting after)
    (ready : waiting state) : Endless impatient (pollUntil ask done impatient) state := by
  intro patience
  induction patience generalizing state with
  | zero => rfl
  | succ left ih =>
    obtain ⟨answer, middle, asked, wrong, still⟩ := (answers state ready).returns
    rw [pollUntil, run_bind_of asked, if_neg wrong]
    exact ih still

/-- What comes behind it is not reached. -/
theorem Endless.bind {next : Nat → α → Program σ ε β}
    (endless : Endless impatient program state) :
    Endless impatient (fun patience => program patience >>= next patience) state := by
  intro patience
  rw [StateT.run_bind, endless patience]
  rfl

end Rules

end Programs
