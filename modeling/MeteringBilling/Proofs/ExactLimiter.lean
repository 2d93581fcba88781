import MeteringBilling.Proofs.RetryAfter

/-! The limiter against its specification over the whole history of a key. Where no two calls share
a reading, pruning and expiry forget only what no later window holds. -/

namespace MeteringBilling.ExactLimiter

open RateWindow RetryAfter

variable {limiter : RedisRateLimiter} {calls : List ℚ} {traffic : Traffic} {now : ℚ}

/-- What the specification says of a call: it is let through if its window has room for it, and
otherwise told to wait for a second at least and for the window and a second at most. -/
structure Specified (limiter : RedisRateLimiter) (calls : List ℚ) (now : ℚ) (answer : Bool × Int) : Prop where
  allowed : answer.1 = true ↔
    (calls.filter fun time => decide (now - limiter.windowSeconds < time)).length < limiter.maxRequests
  wait : answer.1 = false → 1 ≤ answer.2 ∧ answer.2 ≤ limiter.windowSeconds + 1

theorem run_defined (ordered : calls.Pairwise (· < ·)) (after : ∀ before ∈ traffic.latest, ∀ time ∈ calls, before ≤ time) :
    ∃ final, (calling limiter).run calls traffic = some final := by
  induction calls generalizing traffic with
  | nil => exact ⟨traffic, rfl⟩
  | cons time calls ih =>
    obtain ⟨later, ordered⟩ := List.pairwise_cons.mp ordered
    have taken : (calling limiter).step time traffic = some (traffic.after limiter time) :=
      step_eq_some.mpr ⟨fun before known => after before known time List.mem_cons_self, rfl⟩
    have next : ∀ before ∈ (traffic.after limiter time).latest, ∀ other ∈ calls, before ≤ other := by
      intro before known other member
      obtain rfl := Option.some.inj known
      exact (later other member).le
    obtain ⟨final, ran⟩ := ih ordered next
    exact ⟨final, Machine.run_step taken ran⟩

theorem answer_specified (positive : 0 < limiter.maxRequests) (holds : Holds limiter calls traffic.key)
    (ordered : (calls ++ [now]).Pairwise (· < ·)) :
    Specified limiter calls now (limiter.isAllowed true now traffic.key).1 := by
  obtain ⟨_, _, apart⟩ := List.pairwise_append.mp ordered
  have latest (time : ℚ) (member : time ∈ calls) : time < now := apart time member now (List.mem_singleton.mpr rfl)
  refine ⟨allowed_iff holds latest, ?_⟩
  intro refused
  rcases answer : (limiter.isAllowed true now traffic.key).1 with ⟨allowed, retryAfter⟩
  rw [answer] at refused
  obtain rfl : allowed = false := refused
  obtain ⟨oldest, head, rfl, alive⟩ := rejected positive holds ordered answer
  have whole := Int.floor_nonneg.mpr alive.le
  have inside : oldest ∈ calls := (List.mem_filter.mp (List.mem_of_head? head)).1
  have bound : ⌊oldest + limiter.windowSeconds - now⌋ ≤ (limiter.windowSeconds : Int) := by
    apply Int.floor_le_iff.mpr
    push_cast
    linarith [latest oldest inside]
  dsimp only
  omega

/-- Every call of a history of increasing readings is answered as the specification says. -/
theorem limiter_exact (positive : 0 < limiter.maxRequests) {schedule : List ℚ} (ordered : schedule.Pairwise (· < ·))
    (started : ∀ time ∈ schedule, 0 ≤ time) {calls rest : List ℚ} {now : ℚ} (history : schedule = calls ++ now :: rest) :
    ∃ traffic, (calling limiter).run calls .none = some traffic ∧
      Specified limiter calls now (limiter.isAllowed true now traffic.key).1 := by
  rw [history, List.append_cons] at ordered started
  have upToNow := (List.pairwise_append.mp ordered).1
  have before := (List.pairwise_append.mp upToNow).1
  obtain ⟨traffic, ran⟩ := @run_defined limiter calls .none before fun _ known => by cases known
  have holds := run_holds holds_absent (show ([] ++ calls).Pairwise (· < ·) from before)
    (fun time member => started time (List.mem_append_left _ (List.mem_append_left _ member))) ran
  exact ⟨traffic, ran, answer_specified positive holds upToNow⟩

/-- One request in ten seconds. The third call finds the second one in its window, which was
rejected itself. -/
theorem third_rejected : ∃ traffic, (calling single).run [0, 2] .none = some traffic ∧
    Specified single [0, 2] 11 (single.isAllowed true 11 traffic.key).1 :=
  limiter_exact (by decide) (show [0, 2, 11].Pairwise ((· < ·) : ℚ → ℚ → Prop) by decide +kernel) (by decide +kernel) rfl

end MeteringBilling.ExactLimiter
