import BobaOS.Library.Programs

/-!
# Programs that run alike

Two programs are related when from related states both fault alike, or both return related
values in related states. The rules follow the structure of the two programs, which has to be
the same; what one of them meets is then carried over to the other.
-/

namespace RelatedPrograms

open Programs

variable {σ τ ε α β γ δ : Type}

/-- From related states both programs return related values and states, or fault alike. -/
structure Related (states : σ → τ → Prop) (values : α → β → Prop) (left : Program σ ε α)
    (right : Program τ ε β) : Prop where
  runs : ∀ first second, states first second →
    match left.run first, right.run second with
    | .ok (value, after), .ok (other, final) => values value other ∧ states after final
    | .error problem, .error other => problem = other
    | _, _ => False

variable {states : σ → τ → Prop} {values : α → β → Prop} {left : Program σ ε α}
  {right : Program τ ε β}

theorem Related.pure {value : α} {other : β} (related : values value other) :
    Related states values (pure value : Program σ ε α) (pure other : Program τ ε β) :=
  ⟨fun _ _ alike => ⟨related, alike⟩⟩

theorem Related.throw (problem : ε) :
    Related states values (throw problem : Program σ ε α) (throw problem : Program τ ε β) :=
  ⟨fun _ _ _ => rfl⟩

theorem Related.bind {results : γ → δ → Prop} {next : α → Program σ ε γ}
    {other : β → Program τ ε δ} (first : Related states values left right)
    (rest : ∀ value result, values value result →
      Related states results (next value) (other result)) :
    Related states results (left >>= next) (right >>= other) := by
  constructor
  intro start second alike
  have ran := first.runs start second alike
  rw [StateT.run_bind, StateT.run_bind]
  cases ends : left.run start with
  | error problem =>
    rw [ends] at ran
    cases finishes : right.run second with
    | error found =>
      rw [finishes] at ran
      exact ran
    | ok result =>
      rw [finishes] at ran
      exact ran.elim
  | ok result =>
    rw [ends] at ran
    cases finishes : right.run second with
    | error found =>
      rw [finishes] at ran
      exact ran.elim
    | ok found =>
      rw [finishes] at ran
      exact (rest result.1 found.1 ran.1).runs result.2 found.2 ran.2

theorem Related.ite {condition : Prop} [Decidable condition] {yes : Program σ ε α}
    {no : Program τ ε β} (first : condition → Related states values left right)
    (second : ¬ condition → Related states values yes no) :
    Related states values (if condition then left else yes) (if condition then right else no) := by
  split
  · exact first ‹_›
  · exact second ‹_›

theorem Related.get : Related states states (get : Program σ ε σ) (get : Program τ ε τ) :=
  ⟨fun _ _ alike => ⟨alike, alike⟩⟩

theorem Related.modify {change : σ → σ} {other : τ → τ}
    (alike : ∀ first second, states first second → states (change first) (other second)) :
    Related states (fun _ _ => True) (modify change : Program σ ε PUnit)
      (modify other : Program τ ε PUnit) :=
  ⟨fun first second related => ⟨trivial, alike first second related⟩⟩

/-- Programs on parts of the states. -/
theorem Related.lens {ρ π : Type} {first : Lens σ ρ} {second : Lens τ π} {parts : ρ → π → Prop}
    {left : Program ρ ε α} {right : Program π ε β}
    (view : ∀ start other, states start other → parts (first.get start) (second.get other))
    (put : ∀ start other part final, states start other → parts part final →
      states (first.set start part) (second.set other final))
    (related : Related parts values left right) :
    Related states values (first.run left) (second.run right) := by
  constructor
  intro start other alike
  have ran := related.runs _ _ (view start other alike)
  rw [StateT.run, StateT.run, Lens.run, Lens.run]
  cases ends : left.run (first.get start) with
  | error problem =>
    rw [ends] at ran
    cases finishes : right.run (second.get other) with
    | error found =>
      rw [finishes] at ran
      exact ran
    | ok result =>
      rw [finishes] at ran
      exact ran.elim
  | ok result =>
    rw [ends] at ran
    cases finishes : right.run (second.get other) with
    | error found =>
      rw [finishes] at ran
      exact ran.elim
    | ok found =>
      rw [finishes] at ran
      exact ⟨ran.1, put _ _ _ _ alike ran.2⟩

/-- What one program meets, a related one meets up to the relation. -/
theorem Related.meets (related : Related states values left right) {first : σ} {second : τ}
    (alike : states first second) {fault : ε → Prop} {post : α → σ → Prop}
    (meets : Meets left first fault post) : Meets right second fault fun other final =>
      ∃ value after, values value other ∧ states after final ∧ post value after := by
  have ran := related.runs first second alike
  rw [Meets] at meets ⊢
  cases ends : left.run first with
  | error problem =>
    rw [ends] at ran meets
    cases finishes : right.run second with
    | error found =>
      rw [finishes] at ran
      rw [← show problem = found from ran]
      exact meets
    | ok result =>
      rw [finishes] at ran
      exact ran.elim
  | ok result =>
    rw [ends] at ran meets
    cases finishes : right.run second with
    | error found =>
      rw [finishes] at ran
      exact ran.elim
    | ok found =>
      rw [finishes] at ran
      exact ⟨result.1, result.2, ran.1, ran.2, meets⟩

end RelatedPrograms
