import MeteringBilling.Library.Machine

/-! What a run tells besides its last state: the actions taken so far. -/

universe u

namespace Machine

variable {α σ : Type u} {machine : Machine α σ} {allowed : α → Prop} {actions first second : List α} {state middle final : σ}

/-- A property of the actions so far and of the state they lead to holds at the end of a run, if
every step carries it on. -/
theorem run_history {holds : List α → σ → Prop}
    (kept : ∀ past action state next, allowed action → holds past state → machine.step action state = some next →
      holds (past ++ [action]) next)
    (permitted : ∀ action ∈ actions, allowed action) (start : holds [] state)
    (ran : machine.run actions state = some final) : holds actions final := by
  suffices carried : ∀ past, holds past state → holds (past ++ actions) final from carried [] start
  clear start
  induction actions generalizing state with
  | nil =>
    intro past here
    obtain rfl := Option.some.inj ran
    rw [List.append_nil]
    exact here
  | cons action rest ih =>
    intro past here
    obtain ⟨next, taken, ran⟩ := run_cons_eq_some ran
    obtain ⟨now, later⟩ := List.forall_mem_cons.mp permitted
    have after := ih later ran (past ++ [action]) (kept past action state next now here taken)
    rw [List.append_assoc] at after
    exact after

theorem each_of_forall {meets : α → σ → Prop} (all : ∀ action ∈ actions, ∀ state, meets action state) :
    machine.Each meets actions state := by
  induction actions generalizing state with
  | nil => trivial
  | cons action rest ih =>
    obtain ⟨here, later⟩ := List.forall_mem_cons.mp all
    exact fun next taken => ⟨here state, ih later⟩

theorem Each.append {meets : α → σ → Prop} (each : machine.Each meets first state)
    (ran : machine.run first state = some middle) (later : machine.Each meets second middle) :
    machine.Each meets (first ++ second) state := by
  induction first generalizing state with
  | nil =>
    obtain rfl := Option.some.inj ran
    exact later
  | cons action rest ih =>
    intro next taken
    obtain ⟨other, reached, ran⟩ := run_cons_eq_some ran
    obtain rfl := Option.some.inj (taken.symm.trans reached)
    obtain ⟨met, remaining⟩ := each _ taken
    exact ⟨met, ih remaining ran⟩

end Machine
