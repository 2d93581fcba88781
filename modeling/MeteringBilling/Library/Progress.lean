import Mathlib.Algebra.Order.BigOperators.Group.Finset
import MeteringBilling.Library.Machine

/-! Machines that come to an end. A rank bounds how many steps of a kind a run can take, and where no
unfinished state is without a step of that kind, every run can be finished. -/

universe u

namespace Machine

variable {α σ : Type u} {machine : Machine α σ} {actions : List α} {state final : σ} {rank : σ → Nat}

/-- The counted steps of a run fit into its rank. -/
theorem countP_le_rank {counts : α → Prop} [DecidablePred counts]
    (lowers : ∀ action state next, machine.step action state = some next →
      rank next + (if counts action then 1 else 0) ≤ rank state)
    (ran : machine.run actions state = some final) :
    actions.countP (fun action => decide (counts action)) + rank final ≤ rank state := by
  induction actions generalizing state with
  | nil =>
    obtain rfl := Option.some.inj ran
    rw [List.countP_nil, Nat.zero_add]
  | cons action rest ih =>
    obtain ⟨next, taken, ran⟩ := run_cons_eq_some ran
    have first := lowers action state next taken
    have later := ih ran
    simp only [List.countP_cons, decide_eq_true_eq]
    omega

/-- Where every unfinished state has an allowed step that lowers its rank, some run finishes. -/
theorem finishes {allowed : α → Prop} {holds finished : σ → Prop} (kept : machine.Invariant allowed holds)
    (advances : ∀ state, holds state → ¬ finished state →
      ∃ action next, allowed action ∧ machine.step action state = some next ∧ rank next < rank state)
    (start : holds state) :
    ∃ schedule final, (∀ action ∈ schedule, allowed action) ∧ machine.run schedule state = some final ∧ finished final := by
  induction bound : rank state using Nat.strong_induction_on generalizing state with
  | _ bound ih =>
    by_cases done : finished state
    · exact ⟨[], state, List.forall_mem_nil _, rfl, done⟩
    · obtain ⟨action, next, permitted, taken, lower⟩ := advances state start done
      obtain ⟨schedule, final, others, ran, ended⟩ :=
        ih (rank next) (bound ▸ lower) (kept action state next permitted start taken) rfl
      exact ⟨action :: schedule, final, List.forall_mem_cons.mpr ⟨permitted, others⟩, run_step taken ran, ended⟩

end Machine

theorem update_rank_le {ι φ : Type} [DecidableEq ι] {phase : ι → φ} {rank : φ → Nat} {party : ι} {moved : φ}
    (lower : rank moved < rank (phase party)) (other : ι) :
    rank (Function.update phase party moved other) + (if party = other then 1 else 0) ≤ rank (phase other) := by
  by_cases own : party = other
  · subst own
    rw [Function.update_self, if_pos rfl]
    exact lower
  · rw [Function.update_of_ne (Ne.symm own), if_neg own, Nat.add_zero]

theorem sum_rank_lt {ι : Type} [Fintype ι] [DecidableEq ι] {before after : ι → Nat} {party : ι}
    (paid : ∀ other, after other + (if party = other then 1 else 0) ≤ before other) :
    ∑ other, after other < ∑ other, before other := by
  apply Finset.sum_lt_sum
  · intro other _
    exact (Nat.le_add_right _ _).trans (paid other)
  · refine ⟨party, Finset.mem_univ party, ?_⟩
    have own := paid party
    rwa [if_pos rfl] at own
