import Mathlib.Logic.Basic

/-! Programs that read an environment, update a state, and return a value or raise.
A raised exception keeps the state reached so far: a caller that catches it still
sees everything that happened before it. -/

universe u

/-- A deterministic program. All nondeterminism is in the environment it reads. -/
def Effect (ρ ε σ : Type u) (α : Type u) : Type u := ρ → σ → Except ε α × σ

theorem except_bind_ok {α β ε : Type} {first : Except ε α} {next : α → Except ε β} {result : β} :
    first >>= next = .ok result ↔ ∃ value, first = .ok value ∧ next value = .ok result := by
  cases first with
  | error exc => exact ⟨nofun, nofun⟩
  | ok value => exact ⟨fun ran => ⟨value, rfl, ran⟩, fun ⟨_, same, ran⟩ => Except.ok.inj same ▸ ran⟩

namespace Effect

variable {ρ ε σ α β : Type u}

instance : Monad (Effect ρ ε σ) where
  pure value := fun _ state => (.ok value, state)
  bind program next := fun env state =>
    match program env state with
    | (.ok value, after) => next value env after
    | (.error exception, after) => (.error exception, after)

def ask (read : ρ → α) : Effect ρ ε σ α := fun env state => (.ok (read env), state)

def modify (update : σ → σ) : Effect ρ ε σ PUnit := fun _ state => (.ok ⟨⟩, update state)

def raise (exception : ε) : Effect ρ ε σ α := fun _ state => (.error exception, state)

/-- Run a handler from the state in which the exception was raised. -/
def handle (program : Effect ρ ε σ α) (handler : ε → Effect ρ ε σ α) : Effect ρ ε σ α := fun env state =>
  match program env state with
  | (.ok value, after) => (.ok value, after)
  | (.error exception, after) => handler exception env after

/-- Run a program in a changed environment. -/
def within (change : ρ → ρ) (program : Effect ρ ε σ α) : Effect ρ ε σ α := fun env => program (change env)

/-- Run a program on a part of the state. -/
def onPart {τ : Type u} (part : τ → σ) (replace : τ → σ → τ) (program : Effect ρ ε σ α) : Effect ρ ε τ α :=
  fun env state => ((program env (part state)).1, replace state (program env (part state)).2)

def ofExcept (result : Except ε α) : Effect ρ ε σ α := fun _ state => (result, state)

theorem bind_apply (program : Effect ρ ε σ α) (next : α → Effect ρ ε σ β) (env : ρ) (state : σ) :
    (program >>= next) env state =
      match program env state with
      | (.ok value, after) => next value env after
      | (.error exception, after) => (.error exception, after) := rfl

@[simp] theorem ask_apply (read : ρ → α) (env : ρ) (state : σ) :
    (ask read : Effect ρ ε σ α) env state = (.ok (read env), state) := rfl

@[simp] theorem modify_apply (update : σ → σ) (env : ρ) (state : σ) :
    (modify update : Effect ρ ε σ PUnit) env state = (.ok ⟨⟩, update state) := rfl

@[simp] theorem raise_apply (exception : ε) (env : ρ) (state : σ) :
    (raise exception : Effect ρ ε σ α) env state = (.error exception, state) := rfl

@[simp] theorem ofExcept_apply (result : Except ε α) (env : ρ) (state : σ) :
    (ofExcept result : Effect ρ ε σ α) env state = (result, state) := rfl

private theorem id_map' (program : Effect ρ ε σ α) : id <$> program = program := by
  funext env state
  change (program >>= fun value => pure value) env state = _
  rw [bind_apply]
  rcases program env state with ⟨_ | _, _⟩ <;> rfl

private theorem assoc {γ : Type u} (program : Effect ρ ε σ α) (next : α → Effect ρ ε σ β)
    (last : β → Effect ρ ε σ γ) : program >>= next >>= last = program >>= fun value => next value >>= last := by
  funext env state
  simp only [bind_apply]
  rcases program env state with ⟨_ | _, _⟩ <;> rfl

instance : LawfulMonad (Effect ρ ε σ) := .mk' _ id_map' (fun _ _ => rfl) assoc

theorem bind_ok {program : Effect ρ ε σ α} {next : α → Effect ρ ε σ β} {env : ρ} {state after : σ} {value : α}
    (returned : program env state = (.ok value, after)) :
    (program >>= next) env state = next value env after := by
  rw [bind_apply, returned]

theorem bind_error {program : Effect ρ ε σ α} {next : α → Effect ρ ε σ β} {env : ρ} {state after : σ}
    {exception : ε} (raised : program env state = (.error exception, after)) :
    (program >>= next) env state = (.error exception, after) := by
  rw [bind_apply, raised]

theorem bind_returned {program : Effect ρ ε σ α} {next : α → Effect ρ ε σ β} {env : ρ} {state final : σ} {result : β}
    (returned : (program >>= next) env state = (.ok result, final)) :
    ∃ value after, program env state = (.ok value, after) ∧ next value env after = (.ok result, final) := by
  rw [bind_apply] at returned
  cases outcome : program env state with
  | mk answer after =>
    cases answer with
    | ok value => exact ⟨value, after, rfl, by simpa only [outcome] using returned⟩
    | error exception => simp [outcome] at returned

/-- A result read before the rest: it is an error, or the rest runs. -/
theorem ofExcept_bind_cases {result : Except ε α} {next : α → Effect ρ ε σ β} {env : ρ} {state after : σ}
    {reply : Except ε β} (ran : (ofExcept result >>= next) env state = (reply, after)) :
    (∃ exception, reply = .error exception) ∧ after = state ∨
      ∃ value, result = .ok value ∧ next value env state = (reply, after) := by
  rw [bind_apply, ofExcept_apply] at ran
  cases result with
  | ok value => exact Or.inr ⟨value, rfl, ran⟩
  | error exception =>
    obtain ⟨rfl, rfl⟩ := Prod.mk.inj ran
    exact Or.inl ⟨⟨exception, rfl⟩, rfl⟩

/-- The program returns a value in a state, or raises when there is none to return. -/
def Yields (program : Effect ρ ε σ α) (env : ρ) (state : σ) : Option (α × σ) → Prop
  | some (value, after) => program env state = (.ok value, after)
  | none => ∃ exception after, program env state = (.error exception, after)

namespace Yields

variable {env : ρ} {state : σ}

theorem pure (value : α) : Yields (pure value : Effect ρ ε σ α) env state (some (value, state)) := rfl

theorem raise (exception : ε) : Yields (Effect.raise exception : Effect ρ ε σ α) env state none :=
  ⟨exception, state, rfl⟩

theorem ofExcept (result : Except ε α) :
    Yields (Effect.ofExcept result) env state (result.toOption.map fun value => (value, state)) := by
  cases result with
  | ok value => rfl
  | error exception => exact .raise exception

theorem bind {program : Effect ρ ε σ α} {next : α → Effect ρ ε σ β} {first : Option (α × σ)}
    {rest : α × σ → Option (β × σ)} (started : Yields program env state first)
    (finished : ∀ result, first = some result → Yields (next result.1) env result.2 (rest result)) :
    Yields (program >>= next) env state (first.bind rest) := by
  cases first with
  | none =>
    obtain ⟨exception, after, raised⟩ := started
    exact ⟨exception, after, bind_error raised⟩
  | some result =>
    have rest := finished result rfl
    unfold Yields at rest ⊢
    rw [bind_ok started]
    exact rest

theorem map {τ : Type u} {program : Effect ρ ε σ α} {next : α → Effect ρ ε σ β} {outcome : Option τ}
    {first : τ → α × σ} {rest : τ → β × σ} (started : Yields program env state (outcome.map first))
    (finished : ∀ result, next (first result).1 env (first result).2 = (.ok (rest result).1, (rest result).2)) :
    Yields (program >>= next) env state (outcome.map rest) := by
  cases outcome with
  | none =>
    obtain ⟨exception, after, raised⟩ := started
    exact ⟨exception, after, bind_error raised⟩
  | some result => exact (bind_ok started).trans (finished result)

theorem returned {program : Effect ρ ε σ α} {result : Option (α × σ)} {value : α} {after : σ}
    (yields : Yields program env state result) (ran : program env state = (.ok value, after)) :
    result = some (value, after) := by
  cases result with
  | none =>
    obtain ⟨exception, after, raised⟩ := yields
    rw [raised] at ran
    cases (Prod.mk.inj ran).1
  | some result =>
    obtain ⟨same, rfl⟩ := Prod.mk.inj (yields.symm.trans ran)
    rw [← Except.ok.inj same]

theorem after {program : Effect ρ ε σ α} {next : α → Effect ρ ε σ β} {value : α} {middle : σ} {result : Option (β × σ)}
    (returned : program env state = (.ok value, middle)) (rest : Yields (next value) env middle result) :
    Yields (program >>= next) env state result := by
  unfold Yields at rest ⊢
  rw [bind_ok returned]
  exact rest

end Yields

/-- Every run, whether it returns or raises, leaves the observation as it was. -/
def Keeps {τ : Type u} (view : σ → τ) (program : Effect ρ ε σ α) : Prop :=
  ∀ env state, view (program env state).2 = view state

namespace Keeps

variable {τ : Type u} {view : σ → τ}

theorem pure (value : α) : Keeps view (pure value : Effect ρ ε σ α) := fun _ _ => rfl

theorem ask (read : ρ → α) : Keeps view (Effect.ask read : Effect ρ ε σ α) := fun _ _ => rfl

theorem raise (exception : ε) : Keeps view (Effect.raise exception : Effect ρ ε σ α) := fun _ _ => rfl

theorem ofExcept (result : Except ε α) : Keeps view (Effect.ofExcept result : Effect ρ ε σ α) := fun _ _ => rfl

theorem bind {program : Effect ρ ε σ α} {next : α → Effect ρ ε σ β}
    (first : Keeps view program) (rest : ∀ value, Keeps view (next value)) : Keeps view (program >>= next) := by
  intro env state
  have kept := first env state
  rw [bind_apply]
  rcases outcome : program env state with ⟨_ | value, after⟩
  · simpa only [outcome] using kept
  · rw [outcome] at kept
    exact (rest value env after).trans kept

theorem within {program : Effect ρ ε σ α} (change : ρ → ρ) (kept : Keeps view program) :
    Keeps view (Effect.within change program) := fun env state => kept (change env) state

theorem handle {program : Effect ρ ε σ α} {handler : ε → Effect ρ ε σ α}
    (first : Keeps view program) (rest : ∀ exception, Keeps view (handler exception)) :
    Keeps view (Effect.handle program handler) := by
  intro env state
  have kept := first env state
  rw [Effect.handle]
  rcases outcome : program env state with ⟨exception | _, after⟩
  · rw [outcome] at kept
    exact (rest exception env after).trans kept
  · simpa only [outcome] using kept

end Keeps

/-- A run that raises leaves the observation as it was. -/
def Spares {τ : Type u} (view : σ → τ) (program : Effect ρ ε σ α) : Prop :=
  ∀ env state exception after, program env state = (.error exception, after) → view after = view state

namespace Spares

variable {τ : Type u} {view : σ → τ}

theorem pure (value : α) : Spares view (pure value : Effect ρ ε σ α) := fun _ _ _ _ raised => by cases raised

theorem of_keeps {program : Effect ρ ε σ α} (kept : Keeps view program) : Spares view program := by
  intro env state exception after raised
  have same := kept env state
  rw [raised] at same
  exact same

theorem bind {program : Effect ρ ε σ α} {next : α → Effect ρ ε σ β} (first : Keeps view program)
    (rest : ∀ value, Spares view (next value)) : Spares view (program >>= next) := by
  intro env state exception final raised
  have kept := first env state
  rw [bind_apply] at raised
  rcases outcome : program env state with ⟨other | value, after⟩
  · rw [outcome] at raised kept
    rw [← (Prod.mk.inj raised).2]
    exact kept
  · rw [outcome] at raised kept
    exact (rest value env after exception final raised).trans kept

theorem of_returns {program : Effect ρ ε σ α} (returns : ∀ env state, ∃ value after, program env state = (.ok value, after)) :
    Spares view program := by
  intro env state exception after raised
  obtain ⟨value, final, returned⟩ := returns env state
  rw [returned] at raised
  cases (Prod.mk.inj raised).1

end Spares

/-- Two runs from states that look alike give the same result, and states that look alike. -/
def Respects {τ : Type u} (view : σ → τ) (env : ρ) (program : Effect ρ ε σ α) : Prop :=
  ∀ first second, view first = view second →
    (program env first).1 = (program env second).1 ∧ view (program env first).2 = view (program env second).2

namespace Respects

variable {τ : Type u} {view : σ → τ} {env : ρ}

theorem pure (value : α) : Respects view env (pure value : Effect ρ ε σ α) := fun _ _ alike => ⟨rfl, alike⟩

theorem ask (read : ρ → α) : Respects view env (Effect.ask read : Effect ρ ε σ α) := fun _ _ alike => ⟨rfl, alike⟩

theorem raise (exception : ε) : Respects view env (Effect.raise exception : Effect ρ ε σ α) :=
  fun _ _ alike => ⟨rfl, alike⟩

theorem ofExcept (result : Except ε α) : Respects view env (Effect.ofExcept result : Effect ρ ε σ α) :=
  fun _ _ alike => ⟨rfl, alike⟩

theorem bind {program : Effect ρ ε σ α} {next : α → Effect ρ ε σ β} (first : Respects view env program)
    (rest : ∀ value, Respects view env (next value)) : Respects view env (program >>= next) := by
  intro one two alike
  obtain ⟨same, kept⟩ := first one two alike
  rw [bind_apply, bind_apply]
  rcases left : program env one with ⟨result, after⟩
  rcases right : program env two with ⟨other, final⟩
  rw [left, right] at same kept
  obtain rfl : result = other := same
  cases result with
  | ok value => exact rest value after final kept
  | error exception => exact ⟨rfl, kept⟩

theorem reading {read : ρ → α} {next : α → Effect ρ ε σ β} (rest : Respects view env (next (read env))) :
    Respects view env (Effect.ask read >>= next) := rest

theorem within {program : Effect ρ ε σ α} {change : ρ → ρ} (respects : Respects view (change env) program) :
    Respects view env (Effect.within change program) := respects

theorem handle {program : Effect ρ ε σ α} {handler : ε → Effect ρ ε σ α} (first : Respects view env program)
    (rest : ∀ exception, Respects view env (handler exception)) :
    Respects view env (Effect.handle program handler) := by
  intro one two alike
  obtain ⟨same, kept⟩ := first one two alike
  rw [Effect.handle, Effect.handle]
  rcases left : program env one with ⟨result, after⟩
  rcases right : program env two with ⟨other, final⟩
  rw [left, right] at same kept
  obtain rfl : result = other := same
  cases result with
  | ok value => exact ⟨rfl, kept⟩
  | error exception => exact rest exception after final kept

end Respects

/-- Removing something from the environment does not change a run that returned:
what is removed can only have made the program raise. -/
def Agrees (calm : ρ → ρ) (program : Effect ρ ε σ α) : Prop :=
  ∀ env state value after, program env state = (.ok value, after) → program (calm env) state = (.ok value, after)

namespace Agrees

variable {calm : ρ → ρ}

theorem pure (value : α) : Agrees calm (pure value : Effect ρ ε σ α) := fun _ _ _ _ returned => returned

theorem raise (exception : ε) : Agrees calm (Effect.raise exception : Effect ρ ε σ α) :=
  fun _ _ _ _ returned => returned

theorem ofExcept (result : Except ε α) : Agrees calm (Effect.ofExcept result : Effect ρ ε σ α) :=
  fun _ _ _ _ returned => returned

theorem ask {read : ρ → α} (same : ∀ env, read (calm env) = read env) :
    Agrees calm (Effect.ask read : Effect ρ ε σ α) := by
  intro env state value after returned
  rw [ask_apply, same]
  exact returned

theorem bind {program : Effect ρ ε σ α} {next : α → Effect ρ ε σ β}
    (first : Agrees calm program) (rest : ∀ value, Agrees calm (next value)) : Agrees calm (program >>= next) := by
  intro env state result final returned
  obtain ⟨value, after, started, finished⟩ := bind_returned returned
  rw [bind_ok (first env state value after started)]
  exact rest value env after result final finished

theorem within {program : Effect ρ ε σ α} {change : ρ → ρ} (commutes : ∀ env, change (calm env) = calm (change env))
    (agrees : Agrees calm program) : Agrees calm (Effect.within change program) := by
  intro env state value after returned
  rw [Effect.within, commutes]
  exact agrees (change env) state value after returned

end Agrees

end Effect
