import Mathlib.Logic.Basic

/-!
# Programs that may fault

A program runs on a state and either returns a value and a state or faults. What
a program meets says something about both outcomes, so that one rule serves
partial correctness (any fault is allowed), total correctness (none is) and what
lies between. The rules follow the structure of a program: a bind is met in two
steps, and a weaker demand is met by what meets a stronger one.
-/

namespace Programs

variable {σ ε α β : Type}

/-- A stateful program with faults. -/
abbrev Program (σ ε α : Type) := StateT σ (Except ε) α

/-- Run from the state, the program returns what `post` allows or faults as
`fault` allows. -/
def Meets (program : Program σ ε α) (state : σ) (fault : ε → Prop) (post : α → σ → Prop) : Prop :=
  match program.run state with
  | .ok (value, after) => post value after
  | .error problem => fault problem

variable {program : Program σ ε α} {state : σ} {fault : ε → Prop} {post : α → σ → Prop}

/-- What is met holds of the value returned. -/
theorem Meets.returned (meets : Meets program state fault post) {value : α} {after : σ}
    (ran : program.run state = .ok (value, after)) : post value after := by
  rw [Meets, ran] at meets
  exact meets

/-- And what is met holds of the fault. -/
theorem Meets.faulted (meets : Meets program state fault post) {problem : ε}
    (ran : program.run state = .error problem) : fault problem := by
  rw [Meets, ran] at meets
  exact meets

/-- A program that may not fault returns. -/
theorem Meets.returns (meets : Meets program state (fun _ => False) post) :
    ∃ value after, program.run state = .ok (value, after) ∧ post value after := by
  rw [Meets] at meets
  split at meets
  · exact ⟨_, _, ‹_›, meets⟩
  · exact meets.elim

/-- It returns the one value and state that are allowed. -/
theorem Meets.ran {value : α} {after : σ}
    (meets : Meets program state (fun _ => False) fun ret final => ret = value ∧ final = after) :
    program.run state = .ok (value, after) := by
  obtain ⟨_, _, ran, rfl, rfl⟩ := meets.returns
  exact ran

/-- A program that may only fault where a condition fails, and whose return implies it,
returns exactly where it holds. -/
theorem Meets.returns_iff {condition : Prop}
    (meets : Meets program state (fun _ => ¬ condition) fun _ _ => condition) :
    (∃ value after, program.run state = .ok (value, after)) ↔ condition := by
  rw [Meets] at meets
  cases ran : program.run state with
  | ok result =>
    rw [ran] at meets
    exact iff_of_true ⟨result.1, result.2, rfl⟩ meets
  | error problem =>
    rw [ran] at meets
    refine iff_of_false ?_ meets
    rintro ⟨value, after, other⟩
    cases other

/-- A program that cannot return faults. -/
theorem Meets.faults (meets : Meets program state fault fun _ _ => False) :
    ∃ problem, program.run state = .error problem ∧ fault problem := by
  rw [Meets] at meets
  split at meets
  · exact meets.elim
  · exact ⟨_, ‹_›, meets⟩

/-- What a program returns is all that it can meet. -/
theorem meets_of_run {value : α} {after : σ} (ran : program.run state = .ok (value, after))
    (holds : post value after) : Meets program state fault post := by
  rw [Meets, ran]
  exact holds

/-- Where two programs run alike, they meet the same. -/
theorem Meets.of_same {other : Program σ ε α} (meets : Meets other state fault post)
    (same : program.run state = other.run state) : Meets program state fault post := by
  rw [Meets, same]
  exact meets

/-- What comes to a result returns it. -/
theorem ok_of_toOption {answer : Except ε α} {result : α} (came : answer.toOption = some result) :
    answer = .ok result := by
  cases answer with
  | error problem => cases came
  | ok other => rw [Option.some.inj came]

/-- The fault of a run that faults. -/
def faultOf (answer : Except ε α) : Option ε :=
  match answer with
  | .ok _ => none
  | .error problem => some problem

theorem error_of_faultOf {answer : Except ε α} {problem : ε} (came : faultOf answer = some problem) :
    answer = .error problem := by
  cases answer with
  | ok result => cases came
  | error other => rw [Option.some.inj came]

theorem ran_of_toOption {result : α × σ} (came : (program.run state).toOption = some result) :
    program.run state = .ok result := ok_of_toOption came

/-- A bind that returns has returned twice. -/
theorem bind_ran {next : α → Program σ ε β} {value : β} {after : σ}
    (ran : (program >>= next).run state = .ok (value, after)) : ∃ between middle,
      program.run state = .ok (between, middle) ∧ (next between).run middle = .ok (value, after) := by
  rw [StateT.run_bind] at ran
  cases first : program.run state with
  | error problem =>
    rw [first] at ran
    cases ran
  | ok result =>
    rw [first] at ran
    exact ⟨result.1, result.2, rfl, ran⟩

/-- Where the first program of a bind is known to return, the second runs. -/
theorem run_bind_of {next : α → Program σ ε β} {value : α} {after : σ}
    (ran : program.run state = .ok (value, after)) :
    (program >>= next).run state = (next value).run after := by
  rw [StateT.run_bind, ran]
  rfl

/-- Where two programs run alike, so do the binds of them. -/
theorem run_bind_congr {other : Program σ ε α} {second : σ} (next : α → Program σ ε β)
    (same : program.run state = other.run second) :
    (program >>= next).run state = (other >>= next).run second := by
  rw [StateT.run_bind, StateT.run_bind, same]

@[simp] theorem meets_pure (value : α) :
    Meets (pure value : Program σ ε α) state fault post ↔ post value state := Iff.rfl

@[simp] theorem meets_throw (problem : ε) :
    Meets (throw problem : Program σ ε α) state fault post ↔ fault problem := Iff.rfl

@[simp] theorem meets_get {post : σ → σ → Prop} :
    Meets (get : Program σ ε σ) state fault post ↔ post state state := Iff.rfl

@[simp] theorem meets_set (next : σ) {post : PUnit → σ → Prop} :
    Meets (set next : Program σ ε PUnit) state fault post ↔ post ⟨⟩ next := Iff.rfl

@[simp] theorem meets_modify (change : σ → σ) {post : PUnit → σ → Prop} :
    Meets (modify change : Program σ ε PUnit) state fault post ↔ post ⟨⟩ (change state) := Iff.rfl

/-- A bind is met by meeting the first program, and the second wherever the first
returns. -/
@[simp] theorem meets_bind (next : α → Program σ ε β) {post : β → σ → Prop} :
    Meets (program >>= next) state fault post ↔
      Meets program state fault fun value after => Meets (next value) after fault post := by
  simp only [Meets, StateT.run_bind]
  cases program.run state with
  | error problem => rfl
  | ok result => rfl

@[simp] theorem meets_map (change : α → β) {post : β → σ → Prop} :
    Meets (change <$> program) state fault post ↔
      Meets program state fault fun value after => post (change value) after := by
  rw [map_eq_pure_bind, meets_bind]
  rfl

@[simp] theorem meets_ite (condition : Prop) [Decidable condition] (other : Program σ ε α) :
    Meets (if condition then program else other) state fault post ↔
      (condition → Meets program state fault post) ∧
        (¬ condition → Meets other state fault post) := by
  split <;> simp [*]

/-- A weaker demand is met by what meets a stronger one. -/
theorem Meets.mono {weaker : α → σ → Prop} (meets : Meets program state fault post)
    (weakens : ∀ value after, post value after → weaker value after) :
    Meets program state fault weaker := by
  rw [Meets] at meets ⊢
  split
  · rw [‹program.run state = _›] at meets
    exact weakens _ _ meets
  · rw [‹program.run state = _›] at meets
    exact meets

/-- Allowing more faults keeps a demand met. -/
theorem Meets.mono_fault {more : ε → Prop} (meets : Meets program state fault post)
    (allows : ∀ problem, fault problem → more problem) : Meets program state more post := by
  rw [Meets] at meets ⊢
  split
  · rw [‹program.run state = _›] at meets
    exact meets
  · rw [‹program.run state = _›] at meets
    exact allows _ meets

/-- The rule for a bind, as a step of a proof. -/
theorem Meets.bind {next : α → Program σ ε β} {final : β → σ → Prop}
    (meets : Meets program state fault post)
    (onward : ∀ value after, post value after → Meets (next value) after fault final) :
    Meets (program >>= next) state fault final := by
  rw [meets_bind]
  exact meets.mono onward

/-- The rule for a bind whose first program is known to return. -/
theorem Meets.bind_run {next : α → Program σ ε β} {final : β → σ → Prop} {value : α} {after : σ}
    (ran : program.run state = .ok (value, after)) (onward : Meets (next value) after fault final) :
    Meets (program >>= next) state fault final := by
  rw [meets_bind]
  exact meets_of_run ran onward

/-- Two demands that are met are met together. -/
theorem Meets.and {other : α → σ → Prop} (meets : Meets program state fault post)
    (also : Meets program state fault other) :
    Meets program state fault fun value after => post value after ∧ other value after := by
  rw [Meets] at *
  split
  · rw [‹program.run state = _›] at meets also
    exact ⟨meets, also⟩
  · rw [‹program.run state = _›] at meets
    exact meets

/-- The rule for a return. -/
theorem Meets.pure {value : α} (holds : post value state) :
    Meets (pure value : Program σ ε α) state fault post := holds

/-- The rule for a fault. -/
theorem Meets.throw {problem : ε} (holds : fault problem) :
    Meets (throw problem : Program σ ε α) state fault post := holds

/-- How to reach a part of a state. -/
structure Lens (σ τ : Type) where
  get : σ → τ
  set : σ → τ → σ

/-- A program on a part of the state. The rest of the state is kept. -/
def Lens.run {τ : Type} (lens : Lens σ τ) (program : Program τ ε α) : Program σ ε α := fun state =>
  match program.run (lens.get state) with
  | .ok (value, after) => .ok (value, lens.set state after)
  | .error problem => .error problem

@[simp] theorem meets_lens {τ : Type} (lens : Lens σ τ) (program : Program τ ε α) :
    Meets (lens.run program) state fault post ↔
      Meets program (lens.get state) fault fun value after => post value (lens.set state after) := by
  rw [Meets, Meets, StateT.run, Lens.run]
  cases program.run (lens.get state) with
  | error problem => rfl
  | ok result => rfl

/-- A program on a part of the state, whose faults are faults of the whole. -/
def Lens.embed {τ problem : Type} (lens : Lens σ τ) (fails : problem → ε)
    (program : Program τ problem α) : Program σ ε α := fun state =>
  match program.run (lens.get state) with
  | .ok (value, after) => .ok (value, lens.set state after)
  | .error found => .error (fails found)

@[simp] theorem meets_embed {τ problem : Type} (lens : Lens σ τ) (fails : problem → ε)
    (program : Program τ problem α) : Meets (lens.embed fails program) state fault post ↔
      Meets program (lens.get state) (fun found => fault (fails found))
        fun value after => post value (lens.set state after) := by
  rw [Meets, Meets, StateT.run, Lens.embed]
  cases program.run (lens.get state) with
  | error found => rfl
  | ok result => rfl

/-- From whatever state it runs, the program faults as `fault` allows only. -/
def Confined (fault : ε → Prop) (program : Program σ ε α) : Prop :=
  ∀ state, Meets program state fault fun _ _ => True

theorem Confined.pure (value : α) : Confined fault (pure value : Program σ ε α) :=
  fun _ => Meets.pure trivial

theorem Confined.throw {problem : ε} (holds : fault problem) :
    Confined fault (throw problem : Program σ ε α) := fun _ => Meets.throw holds

theorem Confined.bind {next : α → Program σ ε β} (first : Confined fault program)
    (rest : ∀ value, Confined fault (next value)) : Confined fault (program >>= next) :=
  fun state => (first state).bind fun value after _ => rest value after

theorem Confined.ite {condition : Prop} [Decidable condition] {other : Program σ ε α}
    (yes : condition → Confined fault program) (no : ¬ condition → Confined fault other) :
    Confined fault (if condition then program else other) :=
  fun state => (meets_ite condition other).mpr ⟨fun holds => yes holds state, fun fails => no fails state⟩

theorem Confined.map (change : α → β) (first : Confined fault program) :
    Confined fault (change <$> program) := by
  intro state
  rw [meets_map]
  exact first state

/-! ## Triples -/

/-- From any state with `pre`, the program returns what `post` allows, if it returns. -/
def Triple (pre : σ → Prop) (program : Program σ ε α) (post : α → σ → Prop) : Prop :=
  ∀ state, pre state → Meets program state (fun _ => True) post

section Triples

variable {pre : σ → Prop}

theorem Triple.pure {value : α} (holds : ∀ state, pre state → post value state) :
    Triple pre (pure value : Program σ ε α) post := fun state before => Meets.pure (holds state before)

/-- Nothing is said of what is returned. -/
theorem Triple.any : Triple pre program fun _ _ => True := by
  intro state _
  rw [Meets]
  split
  · trivial
  · trivial

theorem Triple.throw {problem : ε} : Triple pre (throw problem : Program σ ε α) post :=
  fun _ _ => Meets.throw trivial

theorem Triple.bind {next : α → Program σ ε β} {ends : β → σ → Prop}
    (first : Triple pre program post) (rest : ∀ value, Triple (post value) (next value) ends) :
    Triple pre (program >>= next) ends :=
  fun state before => (first state before).bind fun value after holds => rest value after holds

theorem Triple.ite {condition : Prop} [Decidable condition] {other : Program σ ε α}
    (yes : condition → Triple pre program post) (no : ¬ condition → Triple pre other post) :
    Triple pre (if condition then program else other) post := fun state before =>
  (meets_ite condition other).mpr
    ⟨fun holds => yes holds state before, fun fails => no fails state before⟩

theorem Triple.get {next : σ → Program σ ε α} (rest : ∀ state, Triple pre (next state) post) :
    Triple pre (get >>= next) post := by
  intro state before
  rw [meets_bind, meets_get]
  exact rest state state before

theorem Triple.map (change : α → β) {ends : β → σ → Prop}
    (first : Triple pre program fun value => ends (change value)) :
    Triple pre (change <$> program) ends := by
  intro state before
  rw [meets_map]
  exact first state before

/-- The rule of consequence. -/
theorem Triple.weaken {stronger : σ → Prop} {weaker : α → σ → Prop}
    (triple : Triple pre program post) (before : ∀ state, stronger state → pre state)
    (after : ∀ value state, post value state → weaker value state) :
    Triple stronger program weaker :=
  fun state holds => (triple state (before state holds)).mono after

/-- What a precondition says beside the state may be used. -/
theorem Triple.known {fact : Prop} (triple : fact → Triple (fun _ => True) program post) :
    Triple (fun _ => fact) program post := fun state known => triple known state trivial

theorem Triple.assume {fact : Prop} (triple : fact → Triple pre program post) :
    Triple (fun state => fact ∧ pre state) program post :=
  fun state both => triple both.1 state both.2

end Triples

/-! ## What goes wrong is told -/

/-- What goes wrong between two states of a run: nothing between a state and itself, and in a
longer run only what goes wrong in a part of it. -/
structure Wrongs (wrong : σ → σ → Prop) : Prop where
  still : ∀ state, ¬ wrong state state
  parts : ∀ {first last : σ} (middle : σ), wrong first last → wrong first middle ∨ wrong middle last

/-- From whatever state it runs, the program returns a value that tells of an error, or one
with `good` where nothing went wrong. -/
def Tells (wrong : σ → σ → Prop) (fault : ε → Prop) (told good : α → Prop)
    (program : Program σ ε α) : Prop :=
  ∀ state, Meets program state fault fun value after => told value ∨ ¬ wrong state after ∧ good value

section Telling

variable {wrong : σ → σ → Prop} {told good : α → Prop} {ended fine : β → Prop}

theorem Tells.pure (wrongs : Wrongs wrong) {value : α} (holds : told value ∨ good value) :
    Tells wrong fault told good (pure value : Program σ ε α) :=
  fun state => Meets.pure (holds.imp_right fun holds => ⟨wrongs.still state, holds⟩)

theorem Tells.throw {problem : ε} (holds : fault problem) :
    Tells wrong fault told good (throw problem : Program σ ε α) := fun _ => Meets.throw holds

/-- A program that is told of an error may end with a value that tells of it. -/
theorem Tells.bind {next : α → Program σ ε β} (wrongs : Wrongs wrong)
    (first : Tells wrong fault told good program)
    (stops : ∀ value, told value → ∃ result, next value = Pure.pure result ∧ ended result)
    (onward : ∀ value, ¬ told value → good value → Tells wrong fault ended fine (next value)) :
    Tells wrong fault ended fine (program >>= next) := by
  intro state
  apply (first state).bind
  intro value middle outcome
  by_cases tells : told value
  · obtain ⟨result, same, ends⟩ := stops value tells
    rw [same]
    exact Meets.pure (.inl ends)
  · obtain ⟨clean, holds⟩ := outcome.resolve_left tells
    apply (onward value tells holds middle).mono
    rintro result after (ends | ⟨still, holds⟩)
    · exact .inl ends
    · exact .inr ⟨fun bad => (wrongs.parts middle bad).elim clean still, holds⟩

theorem Tells.ite {condition : Prop} [Decidable condition] {other : Program σ ε α}
    (yes : condition → Tells wrong fault told good program)
    (no : ¬ condition → Tells wrong fault told good other) :
    Tells wrong fault told good (if condition then program else other) := fun state =>
  (meets_ite condition other).mpr ⟨fun holds => yes holds state, fun fails => no fails state⟩

end Telling

/-! ## Two programs -/

/-- Two programs, each from its own state, return the same value and states that `also`
relates, or fault alike. -/
def Agree (left : Program σ ε α) (first : σ) (right : Program σ ε α) (second : σ)
    (also : α → σ → σ → Prop) : Prop :=
  match left.run first, right.run second with
  | .ok (value, after), .ok (other, final) => value = other ∧ also value after final
  | .error problem, .error other => problem = other
  | _, _ => False

section Two

variable {other : Program σ ε α} {second : σ} {also : α → σ → σ → Prop}

theorem Agree.pure {value : α} (holds : also value state second) :
    Agree (pure value : Program σ ε α) state (pure value) second also := ⟨rfl, holds⟩

theorem Agree.throw {problem : ε} :
    Agree (throw problem : Program σ ε α) state (throw problem) second also := rfl

theorem agree_get {next rest : σ → Program σ ε α} :
    Agree (get >>= next) state (get >>= rest) second also ↔
      Agree (next state) state (rest second) second also := Iff.rfl

/-- Programs that meet demands under which the values are the same agree. -/
theorem Agree.of_meets {left right : α → σ → Prop}
    (first : Meets program state (fun _ => False) left)
    (then_other : Meets other second (fun _ => False) right)
    (same : ∀ value after answer final, left value after → right answer final →
      value = answer ∧ also value after final) : Agree program state other second also := by
  obtain ⟨value, after, ran, holds⟩ := first.returns
  obtain ⟨answer, final, returned, too⟩ := then_other.returns
  rw [Agree, ran, returned]
  exact same value after answer final holds too

/-- Two binds agree if their first programs do, and what follows does. -/
theorem Agree.bind {next rest : α → Program σ ε β} {ends : β → σ → σ → Prop}
    (agree : Agree program state other second also)
    (onward : ∀ value after final, also value after final →
      Agree (next value) after (rest value) final ends) :
    Agree (program >>= next) state (other >>= rest) second ends := by
  rw [Agree] at *
  rw [StateT.run_bind, StateT.run_bind]
  cases left : program.run state with
  | error problem =>
    cases right : other.run second with
    | error problem =>
      rw [left, right] at agree
      exact agree
    | ok result =>
      rw [left, right] at agree
      exact agree.elim
  | ok result =>
    cases right : other.run second with
    | error problem =>
      rw [left, right] at agree
      exact agree.elim
    | ok answer =>
      rw [left, right] at agree
      obtain ⟨value, after⟩ := result
      obtain ⟨answer, final⟩ := answer
      obtain ⟨rfl, holds⟩ := agree
      exact onward value after final holds

/-- A program that returns may come first on the left. -/
theorem Agree.after {next : α → Program σ ε β} {right : Program σ ε β}
    {ends : β → σ → σ → Prop} (meets : Meets program state (fun _ => False) post)
    (onward : ∀ value after, post value after → Agree (next value) after right second ends) :
    Agree (program >>= next) state right second ends := by
  obtain ⟨value, after, ran, holds⟩ := meets.returns
  have agree := onward value after holds
  rw [Agree] at *
  rw [StateT.run_bind, ran]
  exact agree

end Two

-- A goal is taken apart by the rules only, never by computing the program.
attribute [irreducible] Meets

end Programs
