import Mathlib.Order.Defs.Unbundled
import MeteringBilling.Library.Effect

/-! What every run of a program leads to: a state related to the one it starts from. A preorder
composes along a program. -/

universe u

namespace Effect

variable {ρ ε σ α β : Type u}

/-- Every run, whether it returns or raises, ends in a state related to the first. -/
def Leads (relation : σ → σ → Prop) (program : Effect ρ ε σ α) : Prop :=
  ∀ env state, relation state (program env state).2

namespace Leads

variable {relation : σ → σ → Prop}

theorem of_keeps [Std.Refl relation] {program : Effect ρ ε σ α} (kept : Keeps id program) : Leads relation program := by
  intro env state
  have same : (program env state).2 = state := kept env state
  rw [same]
  exact Std.Refl.refl state

theorem pure [Std.Refl relation] (value : α) : Leads relation (pure value : Effect ρ ε σ α) := of_keeps (.pure value)

theorem ask [Std.Refl relation] (read : ρ → α) : Leads relation (Effect.ask read : Effect ρ ε σ α) := of_keeps (.ask read)

theorem raise [Std.Refl relation] (exception : ε) : Leads relation (Effect.raise exception : Effect ρ ε σ α) :=
  of_keeps (.raise exception)

theorem ofExcept [Std.Refl relation] (result : Except ε α) : Leads relation (Effect.ofExcept result : Effect ρ ε σ α) :=
  of_keeps (.ofExcept result)

theorem bind [IsTrans σ relation] {program : Effect ρ ε σ α} {next : α → Effect ρ ε σ β} (first : Leads relation program)
    (rest : ∀ value, Leads relation (next value)) : Leads relation (program >>= next) := by
  intro env state
  have led := first env state
  rw [bind_apply]
  rcases outcome : program env state with ⟨_ | value, after⟩
  · rw [outcome] at led
    exact led
  · rw [outcome] at led
    exact IsTrans.trans _ _ _ led (rest value env after)

theorem handle [IsTrans σ relation] {program : Effect ρ ε σ α} {handler : ε → Effect ρ ε σ α}
    (first : Leads relation program) (rest : ∀ exception, Leads relation (handler exception)) :
    Leads relation (Effect.handle program handler) := by
  intro env state
  have led := first env state
  rw [Effect.handle]
  rcases outcome : program env state with ⟨exception | _, after⟩
  · rw [outcome] at led
    exact IsTrans.trans _ _ _ led (rest exception env after)
  · rw [outcome] at led
    exact led

end Leads

end Effect
