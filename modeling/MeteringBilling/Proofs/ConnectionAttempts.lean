import MeteringBilling.Connection
import Mathlib.Algebra.Order.Field.Rat
import Mathlib.Tactic.Linarith
import Mathlib.Tactic.Positivity

/-! The cooldown of connecting and the pool, under every interleaving of the calls. -/

namespace MeteringBilling.ConnectionAttempts

open Connections

variable {connections next : Connections} {times : List ℚ} {gap start span : ℚ}

def Apart (gap : ℚ) (times : List ℚ) : Prop := times.Pairwise fun first second => first + gap ≤ second

theorem Apart.spans (apart : Apart gap times) (starts : ∀ time ∈ times, start ≤ time) (ends : ∀ time ∈ times, time ≤ start + span)
    (nonempty : times ≠ []) : gap * (times.length - 1) ≤ span := by
  induction times generalizing start span with
  | nil => exact absurd rfl nonempty
  | cons first rest ih =>
    obtain ⟨later, apart⟩ := List.pairwise_cons.mp apart
    obtain ⟨begun, _⟩ := List.forall_mem_cons.mp starts
    obtain ⟨ended, ends⟩ := List.forall_mem_cons.mp ends
    cases rest with
    | nil =>
      rw [List.length_singleton, Nat.cast_one, sub_self, mul_zero]
      linarith
    | cons second rest =>
      have within : ∀ time ∈ second :: rest, time ≤ first + gap + (start + span - (first + gap)) := by
        intro time member
        linarith [ends time member]
      have bound := ih apart later within (List.cons_ne_nil second rest)
      rw [List.length_cons, Nat.cast_succ]
      linarith

theorem Apart.few (apart : Apart gap times) (positive : 0 < gap) (forward : 0 ≤ span) :
    ((times.filter fun time => start ≤ time ∧ time ≤ start + span).length : ℚ) ≤ span / gap + 1 := by
  have within (time : ℚ) (member : time ∈ times.filter fun time => start ≤ time ∧ time ≤ start + span) :
      start ≤ time ∧ time ≤ start + span := of_decide_eq_true (List.mem_filter.mp member).2
  by_cases nonempty : times.filter (fun time => start ≤ time ∧ time ≤ start + span) = []
  · rw [nonempty, List.length_nil, Nat.cast_zero]
    positivity
  · have spans := Apart.spans (apart.sublist List.filter_sublist) (fun time member => (within time member).1)
      (fun time member => (within time member).2) nonempty
    have divided := (le_div_iff₀' positive).mpr spans
    linarith

/-- The client of the pool works, as far as anyone has told. -/
def Usable (connections : Connections) (client : Nat) : Prop :=
  client ∉ connections.failed ∧ client ∉ connections.closed ∧ (client ∈ connections.answered ∨ client ∈ connections.pinging)

structure Sound (connections : Connections) : Prop where
  apart : Apart connectionCooldown connections.attempts
  past : ∀ time ∈ connections.attempts, time ≤ connections.lastConnectionAttempt
  pinging : ∀ client ∈ connections.pinging, client < connections.attempts.length
  failed : ∀ client ∈ connections.failed, client < connections.attempts.length
  closing : ∀ client ∈ connections.closing, client < connections.attempts.length
  closed : ∀ client ∈ connections.closed, client < connections.attempts.length
  known : ∀ client ∈ connections.pool, client < connections.attempts.length
  usable : ∀ client ∈ connections.pool, Usable connections client

theorem initial_sound : Sound initial where
  apart := List.Pairwise.nil
  past := List.forall_mem_nil _
  pinging := List.forall_mem_nil _
  failed := List.forall_mem_nil _
  closing := List.forall_mem_nil _
  closed := List.forall_mem_nil _
  known _ pooled := by cases pooled
  usable _ pooled := by cases pooled

/-- What `get_redis` does: it hands out the pool, waits, tries without a client, or pings one. -/
theorem getRedis_cases (now : ℚ) (made : Bool) (connections : Connections) :
    connections.getRedis now made = (.returns connections.pool, connections) ∨
    connections.getRedis now made = (.returns none, { connections with clock := now }) ∨
    connections.pool = none ∧ connections.lastConnectionAttempt + connectionCooldown ≤ now ∧
      (connections.getRedis now made = (.returns none,
        { connections with lastConnectionAttempt := now, clock := now, attempts := connections.attempts ++ [now] }) ∨
      connections.getRedis now made = (.pings connections.attempts.length,
        { connections with
          pool := some connections.attempts.length
          lastConnectionAttempt := now
          clock := now
          attempts := connections.attempts ++ [now]
          pinging := connections.pinging ++ [connections.attempts.length] })) := by
  cases pooled : connections.pool with
  | some client => exact .inl (by rw [getRedis, pooled])
  | none =>
    by_cases early : now - connections.lastConnectionAttempt < connectionCooldown
    · exact .inr (.inl (by simp only [getRedis, pooled, if_pos early]))
    · refine .inr (.inr ⟨rfl, by linarith, ?_⟩)
      cases made with
      | false => exact .inl (by simp only [getRedis, pooled, if_neg early, Bool.false_eq_true, if_false])
      | true => exact .inr (by simp only [getRedis, pooled, if_neg early, if_true])

theorem Sound.apart_attempt (sound : Sound connections) {now : ℚ}
    (cooled : connections.lastConnectionAttempt + connectionCooldown ≤ now) :
    Apart connectionCooldown (connections.attempts ++ [now]) := by
  refine List.pairwise_append.mpr ⟨sound.apart, List.pairwise_singleton _ _, ?_⟩
  intro first member second last
  obtain rfl := List.mem_singleton.mp last
  linarith [sound.past first member]

theorem Sound.past_attempt (sound : Sound connections) {now : ℚ}
    (cooled : connections.lastConnectionAttempt + connectionCooldown ≤ now) :
    ∀ time ∈ connections.attempts ++ [now], time ≤ now := by
  intro time member
  have cooldown : 0 < connectionCooldown := by decide +kernel
  rcases List.mem_append.mp member with before | last
  · linarith [sound.past time before]
  · exact (List.mem_singleton.mp last).le

theorem Sound.getRedis (sound : Sound connections) (now : ℚ) (made : Bool) : Sound (connections.getRedis now made).2 := by
  have fresh : connections.attempts.length < (connections.attempts ++ [now]).length := by
    rw [List.length_append, List.length_singleton]
    exact Nat.lt_succ_self _
  have grown {client : Nat} (known : client < connections.attempts.length) : client < (connections.attempts ++ [now]).length :=
    known.trans fresh
  rcases getRedis_cases now made connections with same | same | ⟨empty, cooled, same | same⟩
  · rw [same]
    exact sound
  · rw [same]
    exact ⟨sound.apart, sound.past, sound.pinging, sound.failed, sound.closing, sound.closed, sound.known, sound.usable⟩
  · rw [same]
    exact ⟨sound.apart_attempt cooled, sound.past_attempt cooled, fun client member => grown (sound.pinging client member),
      fun client member => grown (sound.failed client member), fun client member => grown (sound.closing client member),
      fun client member => grown (sound.closed client member), fun client pooled => grown (sound.known client pooled),
      sound.usable⟩
  · rw [same]
    refine ⟨sound.apart_attempt cooled, sound.past_attempt cooled, ?_, fun client member => grown (sound.failed client member),
      fun client member => grown (sound.closing client member), fun client member => grown (sound.closed client member), ?_, ?_⟩
    · intro client member
      rcases List.mem_append.mp member with before | last
      · exact grown (sound.pinging client before)
      · exact (List.mem_singleton.mp last).symm ▸ fresh
    · intro client pooled
      obtain rfl := Option.some.inj pooled
      exact fresh
    · intro client pooled
      obtain rfl := Option.some.inj pooled
      exact ⟨fun member => lt_irrefl _ (sound.failed _ member), fun member => lt_irrefl _ (sound.closed _ member),
        .inr (List.mem_append_right _ (List.mem_singleton_self _))⟩

theorem Sound.pinged (sound : Sound connections) {client : Nat} (answered : Bool) (waiting : client ∈ connections.pinging) :
    Sound (connections.pinged client answered).2 := by
  have remaining (other : Nat) (member : other ∈ connections.pinging.erase client) : other < connections.attempts.length :=
    sound.pinging other (List.mem_of_mem_erase member)
  cases answered with
  | true =>
    refine ⟨sound.apart, sound.past, remaining, sound.failed, sound.closing, sound.closed, sound.known, ?_⟩
    intro other pooled
    obtain ⟨working, opened, told | pending⟩ := sound.usable other pooled
    · exact ⟨working, opened, .inl (List.mem_append_left _ told)⟩
    · by_cases own : other = client
      · obtain rfl := own
        exact ⟨working, opened, .inl (List.mem_append_right _ (List.mem_singleton_self _))⟩
      · exact ⟨working, opened, .inr ((List.mem_erase_of_ne own).mpr pending)⟩
  | false =>
    refine ⟨sound.apart, sound.past, remaining, ?_, sound.closing, sound.closed, fun _ pooled => ?_, fun _ pooled => ?_⟩
    · intro other member
      rcases List.mem_append.mp member with before | last
      · exact sound.failed other before
      · exact (List.mem_singleton.mp last).symm ▸ sound.pinging client waiting
    · cases pooled
    · cases pooled

theorem Sound.closeRedis (sound : Sound connections) : Sound connections.closeRedis := by
  cases pooled : connections.pool with
  | none =>
    rw [Connections.closeRedis, pooled]
    exact sound
  | some client =>
    have same : connections.closeRedis = { connections with closing := connections.closing ++ [client] } := by
      rw [Connections.closeRedis, pooled]
    rw [same]
    refine ⟨sound.apart, sound.past, sound.pinging, sound.failed, ?_, sound.closed, sound.known, sound.usable⟩
    intro other member
    rcases List.mem_append.mp member with before | last
    · exact sound.closing other before
    · exact (List.mem_singleton.mp last).symm ▸ sound.known client pooled

theorem Sound.clientClosed (sound : Sound connections) {client : Nat} (waiting : client ∈ connections.closing) :
    Sound (connections.clientClosed client) := by
  refine ⟨sound.apart, sound.past, sound.pinging, sound.failed, ?_, ?_, fun _ pooled => ?_, fun _ pooled => ?_⟩
  · exact fun other member => sound.closing other (List.mem_of_mem_erase member)
  · intro other member
    rcases List.mem_append.mp member with before | last
    · exact sound.closed other before
    · exact (List.mem_singleton.mp last).symm ▸ sound.closing client waiting
  · cases pooled
  · cases pooled

theorem sound_invariant : connecting.Invariant (fun _ => True) Sound := by
  intro action connections next _ sound taken
  cases action with
  | getRedis now made =>
    obtain ⟨_, taken⟩ := Option.ite_none_right_eq_some.mp taken
    obtain rfl := Option.some.inj taken
    exact sound.getRedis now made
  | pinged client answered =>
    obtain ⟨waiting, taken⟩ := Option.ite_none_right_eq_some.mp taken
    obtain rfl := Option.some.inj taken
    exact sound.pinged answered waiting
  | closeRedis =>
    obtain rfl := Option.some.inj taken
    exact sound.closeRedis
  | clientClosed client =>
    obtain ⟨waiting, taken⟩ := Option.ite_none_right_eq_some.mp taken
    obtain rfl := Option.some.inj taken
    exact sound.clientClosed waiting

theorem returned_pooled {action : ConnectionAction} {client : Nat} (taken : connecting.step action connections = some next)
    (returned : client ∈ action.returned connections) : client ∈ next.pool := by
  cases action with
  | getRedis now made =>
    obtain ⟨_, taken⟩ := Option.ite_none_right_eq_some.mp taken
    obtain rfl := Option.some.inj taken
    rw [ConnectionAction.returned] at returned
    rcases getRedis_cases now made connections with same | same | ⟨_, _, same | same⟩
    · rw [same] at returned ⊢
      exact returned
    all_goals
      rw [same] at returned
      cases returned
  | pinged other answered =>
    obtain ⟨_, taken⟩ := Option.ite_none_right_eq_some.mp taken
    obtain rfl := Option.some.inj taken
    cases answered with
    | true => exact returned
    | false => cases returned
  | closeRedis => cases returned
  | clientClosed other => cases returned

/-- However the calls interleave, an outage of Redis costs one attempt to connect in five seconds, and no client is shared
or returned that is known to have failed or to be closed. -/
theorem connections_bounded {actions : List ConnectionAction} (ran : connecting.run actions initial = some connections) :
    (∀ start span, 0 ≤ span → ((connections.attempts.filter fun time => start ≤ time ∧ time ≤ start + span).length : ℚ) ≤
      span / connectionCooldown + 1) ∧
    (∀ client ∈ connections.pool, Usable connections client) ∧
    ∀ action next, connecting.step action connections = some next →
      ∀ client ∈ action.returned connections, Usable next client := by
  have sound := sound_invariant.run (fun _ _ => trivial) initial_sound ran
  refine ⟨fun _ _ forward => sound.apart.few (by decide +kernel) forward, sound.usable, ?_⟩
  intro action next taken client returned
  have later := sound_invariant action connections next trivial sound taken
  exact later.usable client (returned_pooled taken returned)

/-- The first client fails its ping while a second call already shares it, and the third call waits. -/
def outage : List ConnectionAction :=
  [.getRedis 7 true, .getRedis 8 true, .pinged 0 false, .getRedis 9 true, .getRedis 12 true, .pinged 1 true]

theorem outage_bounded : ∃ connections, connecting.run outage initial = some connections ∧
    (∀ start span, 0 ≤ span → ((connections.attempts.filter fun time => start ≤ time ∧ time ≤ start + span).length : ℚ) ≤
      span / connectionCooldown + 1) ∧
    (∀ client ∈ connections.pool, Usable connections client) ∧
    ∀ action next, connecting.step action connections = some next →
      ∀ client ∈ action.returned connections, Usable next client := by
  have ran : (connecting.run outage initial).isSome := by decide +kernel
  exact ⟨_, (Option.some_get ran).symm, connections_bounded (Option.some_get ran).symm⟩

end MeteringBilling.ConnectionAttempts
