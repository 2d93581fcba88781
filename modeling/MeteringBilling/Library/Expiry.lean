import MeteringBilling.Library.Machine

/-! Caches whose entries expire, in a system that goes on running: what a cache holds was stored by
one of the last steps, and what a step stores is there until its time is up. -/

/-- A machine with a cache. `held` tells what is under a key and for how many seconds more, `stores`
what a step puts there, and `loses` which steps may take it away before its time. -/
structure Expiring (α σ κ υ : Type) where
  machine : Machine α σ
  valid : σ → Prop
  held : σ → κ → Option (υ × Nat)
  seconds : α → Nat
  stores : α → σ → κ → υ → Nat → Prop
  loses : α → σ → κ → Prop
  stays : machine.Invariant (fun _ => True) valid
  ages : ∀ {action state next key value left}, valid state → machine.step action state = some next →
    held next key = some (value, left) →
      held state key = some (value, left + seconds action) ∨ seconds action = 0 ∧ stores action state key value left
  retains : ∀ {action state next key value left}, valid state → machine.step action state = some next → 0 < left →
    held state key = some (value, left + seconds action) → ¬ loses action state key →
      held next key = some (value, left)

namespace Expiring

open Machine

variable {α σ κ υ : Type} (cache : Expiring α σ κ υ)

def elapsed : List α → Nat
  | [] => 0
  | action :: rest => cache.seconds action + elapsed rest

variable {cache} {actions : List α} {state final : σ} {key : κ} {value : υ} {left : Nat}

@[simp] theorem elapsed_nil : cache.elapsed [] = 0 := rfl

@[simp] theorem elapsed_cons (action : α) (rest : List α) :
    cache.elapsed (action :: rest) = cache.seconds action + cache.elapsed rest := rfl

theorem elapsed_append (first second : List α) :
    cache.elapsed (first ++ second) = cache.elapsed first + cache.elapsed second := by
  induction first with
  | nil => rw [List.nil_append, elapsed_nil, Nat.zero_add]
  | cons action rest ih => rw [List.cons_append, elapsed_cons, elapsed_cons, ih, Nat.add_assoc]

variable (cache) in
/-- A step of the schedule has stored a value for so many seconds, and the rest of it has used up
all but what is left. -/
def Stored (actions : List α) (state : σ) (key : κ) (value : υ) (left : Nat) : Prop :=
  ∃ before action rest middle, actions = before ++ action :: rest ∧ cache.machine.run before state = some middle ∧
    cache.stores action middle key value (left + cache.elapsed rest)

/-- What is held at the end of a run was held at its start, or one of its steps has stored it. -/
theorem held_stored (valid : cache.valid state) (ran : cache.machine.run actions state = some final)
    (holding : cache.held final key = some (value, left)) :
    cache.held state key = some (value, left + cache.elapsed actions) ∨ cache.Stored actions state key value left := by
  induction actions generalizing state with
  | nil =>
    obtain rfl := Option.some.inj ran
    exact Or.inl holding
  | cons action rest ih =>
    obtain ⟨next, taken, ran⟩ := run_cons_eq_some ran
    rcases ih (cache.stays action state next trivial valid taken) ran with held | ⟨before, last, remaining, middle, rfl, reached, stored⟩
    · rcases cache.ages valid taken held with earlier | ⟨_, stored⟩
      · refine Or.inl ?_
        rw [earlier, elapsed_cons, Nat.add_assoc, Nat.add_comm (cache.elapsed rest)]
      · exact Or.inr ⟨[], action, rest, state, rfl, rfl, stored⟩
    · exact Or.inr ⟨action :: before, last, remaining, middle, rfl, run_step taken reached, stored⟩

/-- What is held stays until its time is up, unless a step loses it. -/
theorem held_until (valid : cache.valid state) (ran : cache.machine.run actions state = some final) (remains : 0 < left)
    (holding : cache.held state key = some (value, left + cache.elapsed actions))
    (kept : cache.machine.Each (fun action state => ¬ cache.loses action state key) actions state) :
    cache.held final key = some (value, left) := by
  induction actions generalizing state with
  | nil =>
    obtain rfl := Option.some.inj ran
    exact holding
  | cons action rest ih =>
    obtain ⟨next, taken, ran⟩ := run_cons_eq_some ran
    obtain ⟨here, later⟩ := kept next taken
    rw [elapsed_cons, Nat.add_comm (cache.seconds action), ← Nat.add_assoc] at holding
    exact ih (cache.stays action state next trivial valid taken) ran (cache.retains valid taken (by omega) holding here) later

end Expiring
