import Mathlib.Logic.Basic

/-! Guarded transition systems and their runs. A schedule lists the actions in the order
in which they happen; an action that is not enabled ends the run. -/

universe u

structure Machine (α σ : Type u) where
  step : α → σ → Option σ

namespace Machine

variable {α σ : Type u} (machine : Machine α σ)

def run : List α → σ → Option σ
  | [], state => some state
  | action :: rest, state => (machine.step action state).bind (run rest)

/-- Every state of a run satisfies a property. -/
def Always (holds : σ → Prop) : List α → σ → Prop
  | [], state => holds state
  | action :: rest, state => holds state ∧ ∀ next, machine.step action state = some next → Always holds rest next

/-- Every step of a run is taken in a state that meets a condition. -/
def Each (meets : α → σ → Prop) : List α → σ → Prop
  | [], _ => True
  | action :: rest, state => ∀ next, machine.step action state = some next → meets action state ∧ Each meets rest next

/-- The allowed actions carry a property on. -/
def Invariant (allowed : α → Prop) (holds : σ → Prop) : Prop :=
  ∀ action state next, allowed action → holds state → machine.step action state = some next → holds next

variable {machine}

@[simp] theorem run_nil (state : σ) : machine.run [] state = some state := rfl

@[simp] theorem run_cons (action : α) (rest : List α) (state : σ) :
    machine.run (action :: rest) state = (machine.step action state).bind (machine.run rest) := rfl

theorem run_append (first second : List α) (state : σ) :
    machine.run (first ++ second) state = (machine.run first state).bind (machine.run second) := by
  induction first generalizing state with
  | nil => rfl
  | cons action first ih =>
    simp only [List.cons_append, run_cons]
    cases machine.step action state with
    | none => rfl
    | some next => exact ih next

theorem run_step {action : α} {rest : List α} {state next final : σ} (taken : machine.step action state = some next)
    (ran : machine.run rest next = some final) : machine.run (action :: rest) state = some final := by
  rw [run_cons, taken, Option.bind_some, ran]

theorem run_trans {first second : List α} {state middle final : σ} (started : machine.run first state = some middle)
    (finished : machine.run second middle = some final) : machine.run (first ++ second) state = some final := by
  rw [run_append, started, Option.bind_some, finished]

theorem run_cons_eq_some {action : α} {rest : List α} {state final : σ}
    (ran : machine.run (action :: rest) state = some final) :
    ∃ next, machine.step action state = some next ∧ machine.run rest next = some final := by
  rw [run_cons] at ran
  exact Option.bind_eq_some_iff.mp ran

theorem Invariant.run {allowed : α → Prop} {holds : σ → Prop} (kept : machine.Invariant allowed holds)
    {actions : List α} {state final : σ} (permitted : ∀ action ∈ actions, allowed action) (start : holds state)
    (ran : machine.run actions state = some final) : holds final := by
  induction actions generalizing state with
  | nil => rw [run_nil, Option.some.injEq] at ran; exact ran ▸ start
  | cons action rest ih =>
    obtain ⟨next, taken, ran⟩ := run_cons_eq_some ran
    obtain ⟨here, later⟩ := List.forall_mem_cons.mp permitted
    exact ih later (kept action state next here start taken) ran

/-- A run that ends outside a property leaves it at some step. -/
theorem run_leaves {holds : σ → Prop} {actions : List α} {state final : σ} (ran : machine.run actions state = some final)
    (start : holds state) (left : ¬ holds final) :
    ∃ before action rest middle next, actions = before ++ action :: rest ∧ machine.run before state = some middle ∧
      holds middle ∧ machine.step action middle = some next ∧ ¬ holds next ∧ machine.run rest next = some final := by
  induction actions generalizing state with
  | nil =>
    obtain rfl := Option.some.inj ran
    exact (left start).elim
  | cons action rest ih =>
    obtain ⟨next, taken, later⟩ := run_cons_eq_some ran
    by_cases stays : holds next
    · obtain ⟨before, last, remaining, middle, after, rfl, reached, inside, leaves, outside, finished⟩ := ih later stays
      exact ⟨action :: before, last, remaining, middle, after, rfl, run_step taken reached, inside, leaves, outside, finished⟩
    · exact ⟨[], action, rest, state, next, rfl, rfl, start, taken, stays, later⟩

theorem each_cons {meets : α → σ → Prop} {action : α} {rest : List α} {state next : σ}
    (taken : machine.step action state = some next) :
    machine.Each meets (action :: rest) state ↔ meets action state ∧ machine.Each meets rest next := by
  constructor
  · intro each
    exact each next taken
  · intro met other reached
    obtain rfl := Option.some.inj (taken.symm.trans reached)
    exact met

theorem Each.imp {meets weaker : α → σ → Prop} {actions : List α} {state : σ} (each : machine.Each meets actions state)
    (implies : ∀ action ∈ actions, ∀ state, meets action state → weaker action state) :
    machine.Each weaker actions state := by
  induction actions generalizing state with
  | nil => trivial
  | cons action rest ih =>
    obtain ⟨here, remaining⟩ := List.forall_mem_cons.mp implies
    intro next taken
    obtain ⟨met, later⟩ := each next taken
    exact ⟨here state met, ih later remaining⟩

theorem Always.now {holds : σ → Prop} {actions : List α} {state : σ} (always : machine.Always holds actions state) :
    holds state := by
  cases actions with
  | nil => exact always
  | cons => exact always.1

theorem Always.each {holds : σ → Prop} {meets : α → σ → Prop} {actions : List α} {state : σ}
    (always : machine.Always holds actions state)
    (between : ∀ action state next, machine.step action state = some next → holds state → holds next → meets action state) :
    machine.Each meets actions state := by
  induction actions generalizing state with
  | nil => trivial
  | cons action rest ih =>
    obtain ⟨here, later⟩ := always
    exact fun next taken => ⟨between action state next taken here (later next taken).now, ih (later next taken)⟩

theorem Invariant.always {allowed : α → Prop} {holds : σ → Prop} (kept : machine.Invariant allowed holds)
    {actions : List α} {state : σ} (permitted : ∀ action ∈ actions, allowed action) (start : holds state) :
    machine.Always holds actions state := by
  induction actions generalizing state with
  | nil => exact start
  | cons action rest ih =>
    obtain ⟨here, later⟩ := List.forall_mem_cons.mp permitted
    exact ⟨start, fun next taken => ih later (kept action state next here start taken)⟩

theorem Always.imp {holds weaker : σ → Prop} {actions : List α} {state : σ} (always : machine.Always holds actions state)
    (implies : ∀ state, holds state → weaker state) : machine.Always weaker actions state := by
  induction actions generalizing state with
  | nil => exact implies state always
  | cons action rest ih =>
    obtain ⟨here, later⟩ := always
    exact ⟨implies state here, fun next taken => ih (later next taken)⟩

/-- A property that every step meeting a condition carries on. -/
theorem always_of_each {allowed : α → Prop} {holds : σ → Prop} {meets : α → σ → Prop}
    (kept : ∀ action state next, allowed action → machine.step action state = some next → holds state →
      meets action state → holds next)
    {actions : List α} {state : σ} (permitted : ∀ action ∈ actions, allowed action) (start : holds state)
    (each : machine.Each meets actions state) : machine.Always holds actions state := by
  induction actions generalizing state with
  | nil => exact start
  | cons action rest ih =>
    obtain ⟨here, remaining⟩ := List.forall_mem_cons.mp permitted
    refine ⟨start, fun next taken => ?_⟩
    obtain ⟨met, later⟩ := each next taken
    exact ih remaining (kept action state next here taken start met) later

/-- Where one step keeps a property exactly if it meets a condition, every state of a run has
the property exactly if every step meets the condition. -/
theorem always_iff_each {allowed : α → Prop} {invariant holds : σ → Prop} {meets : α → σ → Prop}
    (kept : machine.Invariant allowed invariant)
    (exactly : ∀ action state next, allowed action → invariant state → holds state →
      machine.step action state = some next → (holds next ↔ meets action state))
    {actions : List α} {state : σ} (permitted : ∀ action ∈ actions, allowed action) (valid : invariant state)
    (start : holds state) : machine.Always holds actions state ↔ machine.Each meets actions state := by
  induction actions generalizing state with
  | nil => exact iff_of_true start trivial
  | cons action rest ih =>
    obtain ⟨here, remaining⟩ := List.forall_mem_cons.mp permitted
    constructor
    · intro always next taken
      obtain ⟨_, later⟩ := always
      have after := (later next taken).now
      refine ⟨(exactly action state next here valid start taken).mp after, ?_⟩
      exact (ih remaining (kept action state next here valid taken) after).mp (later next taken)
    · intro each
      refine ⟨start, fun next taken => ?_⟩
      obtain ⟨met, rest⟩ := each next taken
      have after := (exactly action state next here valid start taken).mpr met
      exact (ih remaining (kept action state next here valid taken) after).mpr rest

end Machine
