import MeteringBilling.Proofs.Retrying
import Mathlib.Order.Bounds.Basic
import Mathlib.Tactic.Linarith
import Mathlib.Tactic.Positivity
import Mathlib.Tactic.Ring

/-! How often the retry loop calls the function it wraps, and how long it sleeps in between. -/

namespace MeteringBilling.RetryCount

open Effect

structure Trace where
  calls : Nat
  sleeps : List ℚ

section

variable {ε α : Type} (outcomes : Nat → Except ε α)

/-- A function whose calls turn out, one after the other, as the sequence says. -/
def scripted : Effect Unit ε Trace α := fun _ trace =>
  (outcomes trace.calls, { trace with calls := trace.calls + 1 })

def noteSleep (wait : ℚ) : Effect Unit ε Trace PUnit :=
  Effect.modify fun trace => { trace with sleeps := trace.sleeps ++ [wait] }

/-- The loop with any other last line in place of `raise last_exc`. -/
def attemptsThen (last : ε → Effect Unit ε Trace α) (policy : RetryPolicy) (transient : ε → Bool)
    (func : Effect Unit ε Trace α) : List Nat → ε → Effect Unit ε Trace α
  | [], lastExc => last lastExc
  | attempt :: rest, _ => Effect.handle func fun exc =>
    if !transient exc || attempt == policy.maxRetries - 1 then Effect.raise exc
    else do
      noteSleep (policy.wait attempt)
      attemptsThen last policy transient func rest exc

def wrapperThen (last : ε → Effect Unit ε Trace α) (policy : RetryPolicy) (transient : ε → Bool)
    (func : Effect Unit ε Trace α) (noException : ε) : Effect Unit ε Trace α :=
  attemptsThen last policy transient func (List.range policy.maxRetries) noException

def Settled (transient : ε → Bool) : Except ε α → Prop
  | .ok _ => True
  | .error exc => transient exc = false

/-- The number of calls: the smaller of the bound and the position of the first outcome that settles. -/
def Counts (settled : Nat → Prop) (maxRetries n : Nat) : Prop :=
  (∃ position, IsLeast {position | 0 < position ∧ settled (position - 1)} position ∧ n = min maxRetries position) ∨
    (∀ call, ¬ settled call) ∧ n = maxRetries

end

variable {ε α : Type} {policy : RetryPolicy} {transient : ε → Bool} {outcomes : Nat → Except ε α}
  {last : ε → Effect Unit ε Trace α}

theorem attemptsThen_raise (func : Effect Unit ε Trace α) (attempts : List Nat) (lastExc : ε) :
    attemptsThen Effect.raise policy transient func attempts lastExc =
      retryAttempts policy transient noteSleep (fun _ => func) attempts lastExc := by
  induction attempts generalizing lastExc with
  | nil => rfl
  | cons attempt rest ih => simp only [attemptsThen, retryAttempts, ih]

theorem wrapperThen_raise (func : Effect Unit ε Trace α) (noException : ε) :
    wrapperThen Effect.raise policy transient func noException =
      withDbRetry policy transient noteSleep (fun _ => func) noException :=
  attemptsThen_raise func _ noException

structure EndsAt (policy : RetryPolicy) (transient : ε → Bool) (outcomes : Nat → Except ε α) (start n : Nat) : Prop where
  later : start < n
  most : n ≤ policy.maxRetries
  again : ∀ call, start ≤ call → call + 1 < n → ¬ Settled transient (outcomes call)
  ended : Settled transient (outcomes (n - 1)) ∨ n = policy.maxRetries

section

variable {attempt : Nat} {rest : List Nat} {lastExc : ε} {sleeps : List ℚ}

theorem attempt_stops (stops : Settled transient (outcomes attempt) ∨ attempt + 1 = policy.maxRetries) :
    attemptsThen last policy transient (scripted outcomes) (attempt :: rest) lastExc () ⟨attempt, sleeps⟩ =
      (outcomes attempt, ⟨attempt + 1, sleeps⟩) := by
  rw [attemptsThen, handle, scripted]
  dsimp only
  cases outcome : outcomes attempt with
  | ok value => rfl
  | error exc =>
    rw [outcome] at stops
    have final : (!transient exc || attempt == policy.maxRetries - 1) = true := by
      rw [Bool.or_eq_true, Bool.not_eq_true', beq_iff_eq]
      exact stops.imp id fun final => by omega
    dsimp only
    rw [if_pos final]
    rfl

theorem attempt_again (again : ¬ Settled transient (outcomes attempt)) (more : attempt + 1 < policy.maxRetries) :
    ∃ exc, ∀ last,
      attemptsThen last policy transient (scripted outcomes) (attempt :: rest) lastExc () ⟨attempt, sleeps⟩ =
        attemptsThen last policy transient (scripted outcomes) rest exc ()
          ⟨attempt + 1, sleeps ++ [policy.wait attempt]⟩ := by
  cases outcome : outcomes attempt with
  | ok value =>
    rw [outcome] at again
    exact (again trivial).elim
  | error exc =>
    rw [outcome, Settled, Bool.not_eq_false] at again
    have retried : ¬ (!transient exc || attempt == policy.maxRetries - 1) = true := by
      rw [again, Bool.not_true, Bool.false_or, beq_iff_eq]
      omega
    refine ⟨exc, fun last => ?_⟩
    rw [attemptsThen, handle, scripted, outcome]
    dsimp only
    rw [if_neg retried]
    rfl

end

theorem attempts_end {remaining start : Nat} (positive : 0 < remaining) (total : start + remaining = policy.maxRetries)
    (lastExc : ε) (sleeps : List ℚ) : ∃ n, EndsAt policy transient outcomes start n ∧ ∀ last,
      attemptsThen last policy transient (scripted outcomes) (List.range' start remaining) lastExc () ⟨start, sleeps⟩ =
        (outcomes (n - 1), ⟨n, sleeps ++ (List.range' start (n - 1 - start)).map policy.wait⟩) := by
  induction remaining generalizing start lastExc sleeps with
  | zero => omega
  | succ remaining ih =>
    rw [List.range'_succ]
    by_cases stops : Settled transient (outcomes start) ∨ start + 1 = policy.maxRetries
    · refine ⟨start + 1, ⟨by omega, by omega, fun call above below => by omega, stops⟩, fun last => ?_⟩
      rw [attempt_stops stops]
      simp
    · obtain ⟨again, more⟩ := not_or.mp stops
      obtain ⟨exc, continued⟩ := @attempt_again ε α policy transient outcomes start
        (List.range' (start + 1) remaining) lastExc sleeps again (by omega)
      obtain ⟨n, ⟨later, most, between, ended⟩, ran⟩ :=
        @ih (start + 1) (by omega) (by omega) exc (sleeps ++ [policy.wait start])
      refine ⟨n, ⟨by omega, most, fun call above below => ?_, ended⟩, fun last => ?_⟩
      · rcases Nat.eq_or_lt_of_le above with rfl | above
        · exact again
        · exact between call above below
      · have waits : List.range' start (n - 1 - start) = start :: List.range' (start + 1) (n - 1 - (start + 1)) := by
          rw [show n - 1 - start = n - 1 - (start + 1) + 1 by omega, List.range'_succ]
        rw [continued, ran, waits, List.map_cons, List.append_assoc, List.singleton_append]

theorem EndsAt.counts {n : Nat} (ends : EndsAt policy transient outcomes 0 n) :
    Counts (fun call => Settled transient (outcomes call)) policy.maxRetries n := by
  classical
  obtain ⟨later, most, again, ended⟩ := ends
  by_cases never : ∀ call, ¬ Settled transient (outcomes call)
  · exact Or.inr ⟨never, ended.resolve_left (never _)⟩
  · have some : ∃ position, 0 < position ∧ Settled transient (outcomes (position - 1)) := by
      obtain ⟨call, settled⟩ := not_forall_not.mp never
      exact ⟨call + 1, Nat.succ_pos call, settled⟩
    refine Or.inl ⟨Nat.find some, ⟨Nat.find_spec some, fun position => Nat.find_min' some⟩, ?_⟩
    have first : n ≤ Nat.find some := by
      by_contra early
      obtain ⟨positive, settled⟩ := Nat.find_spec some
      exact again (Nat.find some - 1) (Nat.zero_le _) (by omega) settled
    rcases ended with settled | full
    · have least := Nat.find_min' some ⟨later, settled⟩
      omega
    · omega

section

variable (base : 0 < policy.baseDelay) (longest : 0 < policy.maxDelay)

include base longest

theorem wait_mono {first second : Nat} (before : first ≤ second) : policy.wait first ≤ policy.wait second := by
  have doubled : (2 : ℚ) ^ first ≤ 2 ^ second := pow_le_pow_right₀ (by norm_num) before
  have delay : min (policy.baseDelay * 2 ^ first) policy.maxDelay ≤ min (policy.baseDelay * 2 ^ second) policy.maxDelay :=
    min_le_min_right _ (mul_le_mul_of_nonneg_left doubled base.le)
  have positive : 0 ≤ min (policy.baseDelay * 2 ^ second) policy.maxDelay := le_min (by positivity) longest.le
  have attempts : (first : ℚ) + 1 ≤ second + 1 := by exact_mod_cast Nat.succ_le_succ before
  have jitter := mul_le_mul (mul_le_mul_of_nonneg_right delay (by norm_num : (0 : ℚ) ≤ 1 / 10)) attempts (by positivity)
    (by positivity)
  exact add_le_add delay jitter

omit base in
theorem wait_le {attempt : Nat} (more : attempt + 1 < policy.maxRetries) :
    policy.wait attempt ≤ policy.maxDelay * (1 + 1 / 10 * (policy.maxRetries - 1)) := by
  have delay : min (policy.baseDelay * 2 ^ attempt) policy.maxDelay ≤ policy.maxDelay := min_le_right _ _
  have attempts : (attempt : ℚ) + 1 ≤ policy.maxRetries - 1 := by
    have cast : ((attempt + 1 + 1 : Nat) : ℚ) ≤ policy.maxRetries := by exact_mod_cast more
    push_cast at cast
    linarith
  have jitter := mul_le_mul (mul_le_mul_of_nonneg_right delay (by norm_num : (0 : ℚ) ≤ 1 / 10)) attempts (by positivity)
    (by positivity)
  calc policy.wait attempt ≤ policy.maxDelay + policy.maxDelay * (1 / 10) * (policy.maxRetries - 1) :=
        add_le_add delay jitter
    _ = policy.maxDelay * (1 + 1 / 10 * (policy.maxRetries - 1)) := by ring

end

/-- The wrapper calls its function up to the first outcome that settles, or as often as it may, and
that call's outcome is its own. Between the calls it sleeps, and its last line is never reached. -/
structure Retries (policy : RetryPolicy) (outcomes : Nat → Except PyError α) (n : Nat) (waits : List ℚ) : Prop where
  counts : Counts (fun call => Settled isTransientError (outcomes call)) policy.maxRetries n
  ran : withDbRetry policy isTransientError noteSleep (fun _ => scripted outcomes) .noException () ⟨0, []⟩ =
    (outcomes (n - 1), ⟨n, waits⟩)
  unreached : ∀ last, wrapperThen last policy isTransientError (scripted outcomes) .noException () ⟨0, []⟩ =
    (outcomes (n - 1), ⟨n, waits⟩)
  slept : waits.length = n - 1
  growing : waits.Pairwise (· ≤ ·)
  bounded : ∀ wait ∈ waits, wait ≤ policy.maxDelay * (1 + 1 / 10 * (policy.maxRetries - 1))

/-- A quota rejection is not tried again. -/
theorem retries_counted (tries : 1 ≤ policy.maxRetries) (base : 0 < policy.baseDelay) (longest : 0 < policy.maxDelay)
    (outcomes : Nat → Except PyError α) : (∃ n waits, Retries policy outcomes n waits) ∧
      ∀ usageType used limit requested, isTransientError (.quotaExceeded usageType used limit requested) = false ∧
        (outcomes 0 = .error (.quotaExceeded usageType used limit requested) →
          withDbRetry policy isTransientError noteSleep (fun _ => scripted outcomes) .noException () ⟨0, []⟩ =
            (outcomes 0, ⟨1, []⟩)) := by
  obtain ⟨n, ends, ran⟩ := @attempts_end PyError α policy isTransientError outcomes policy.maxRetries 0 tries
    (Nat.zero_add _) .noException []
  rw [← List.range_eq_range', Nat.sub_zero, ← List.range_eq_range', List.nil_append] at ran
  constructor
  · refine ⟨n, (List.range (n - 1)).map policy.wait, ends.counts, ?_, ran, ?_, ?_, ?_⟩
    · rw [← wrapperThen_raise]
      exact ran Effect.raise
    · rw [List.length_map, List.length_range]
    · rw [List.pairwise_map]
      exact List.pairwise_lt_range.imp fun before => wait_mono base longest before.le
    · intro wait member
      obtain ⟨attempt, inside, rfl⟩ := List.mem_map.mp member
      have below := List.mem_range.mp inside
      have most := ends.most
      exact wait_le longest (by omega)
  · intro usageType used limit requested
    have final := quotaExceeded_final usageType used limit requested
    refine ⟨final, fun rejected => ?_⟩
    have raised : scripted outcomes () ⟨0, []⟩ = (outcomes 0, ⟨1, []⟩) := rfl
    rw [rejected] at raised ⊢
    exact withDbRetry_final tries raised final

def onceDeadlocked (call : Nat) : Except PyError Nat :=
  if call = 0 then .error (.database "deadlock detected") else .ok 7

/-- The function is called twice, with a sleep of eleven hundredths of a second in between. -/
theorem deadlock_retried : Retries {} onceDeadlocked 2 [11 / 100] ∧
    ∀ usageType used limit requested, isTransientError (.quotaExceeded usageType used limit requested) = false ∧
      (onceDeadlocked 0 = .error (.quotaExceeded usageType used limit requested) →
        withDbRetry {} isTransientError noteSleep (fun _ => scripted onceDeadlocked) .noException () ⟨0, []⟩ =
          (onceDeadlocked 0, ⟨1, []⟩)) := by
  obtain ⟨⟨n, waits, retries⟩, rejected⟩ := @retries_counted Nat {} (by decide) (by norm_num) (by norm_num) onceDeadlocked
  have twice : withDbRetry {} isTransientError noteSleep (fun _ => scripted onceDeadlocked) .noException () ⟨0, []⟩ =
      (.ok 7, ⟨2, [({} : RetryPolicy).wait 0]⟩) := rfl
  have wait : ({} : RetryPolicy).wait 0 = 11 / 100 := by norm_num [RetryPolicy.wait]
  obtain ⟨rfl, rfl⟩ := Trace.mk.inj (Prod.mk.inj (retries.ran.symm.trans twice)).2
  exact ⟨wait ▸ retries, rejected⟩

end MeteringBilling.RetryCount
