import MeteringBilling.Proofs.Faults
import MeteringBilling.Seed

/-! A transient error of the INSERT. The retry runs on the same session, whose transaction the error
has aborted, and what the second attempt raises is not transient. -/

namespace MeteringBilling.TransientErrors

open Effect

variable {α β : Type} {env : Env} {session : Session} {store : Store} {call : RecordCall} {failures : Nat}
  {message : Nat → String}

/-- The surroundings with a database whose INSERT fails at the first attempts, and nothing else. -/
def failing (env : Env) (failures : Nat) (message : Nat → String) : Env :=
  { env with fault := fun attempt place =>
      if place = .insertUsageEvent ∧ attempt < failures then some (message attempt) else none }

/-- The surroundings as a later attempt finds them, with a database that does not fail. -/
def skipping (env : Env) (failures : Nat) : Env :=
  { env.calm with
    now := fun attempt => env.now (failures + attempt)
    uuid4 := fun attempt => env.uuid4 (failures + attempt) }

/-- The request answers and commits what it does where the errors do not happen. -/
def Survives (call : RecordCall) (env : Env) (failures : Nat) (message : Nat → String) (store : Store) : Prop :=
  serve (MeterService.record call) (failing env failures message) store =
    serve (MeterService.record call) (skipping env failures) store

/-- Each attempt that is to fail passes the quota check, so that it executes the INSERT. -/
def Reaches (call : RecordCall) (env : Env) (failures : Nat) (database : Database) : Prop :=
  ∀ attempt < failures, ∃ admitted,
    call.admission? env.settings (env.now attempt .checkQuota).startOfMonth.timestamp database = some admitted

def Misses (place : Statement) (program : Request α) : Prop :=
  ∀ env session, (∀ other ≠ place, env.fault env.attempt other = none) → program env session = program env.calm session

namespace Misses

variable {place : Statement}

theorem pure (value : α) : Misses place (pure value) := fun _ _ _ => rfl

theorem ask {read : Env → α} (same : ∀ env, read env.calm = read env) : Misses place (Effect.ask read) := by
  intro env session _
  rw [ask_apply, ask_apply, same]

theorem raise (exc : PyError) : Misses place (Effect.raise exc : Request α) := fun _ _ _ => rfl

theorem ofExcept (result : Except PyError α) : Misses place (Effect.ofExcept result) := fun _ _ _ => rfl

theorem bind {program : Request α} {next : α → Request β} (first : Misses place program)
    (rest : ∀ value, Misses place (next value)) : Misses place (program >>= next) := by
  intro env session spared
  rw [bind_apply, bind_apply, first env session spared]
  rcases program env.calm session with ⟨exc | value, after⟩
  · rfl
  · exact rest value env after spared

theorem query {other : Statement} (apart : other ≠ place) (read : Database → α) :
    Misses place (MeteringBilling.query other read) := by
  intro env session spared
  unfold MeteringBilling.query MeteringBilling.statement
  rw [spared other apart, env.calm_quiet]

theorem scalarOneOrNone (rows : List α) : Misses place (MeteringBilling.scalarOneOrNone rows) := by
  match rows with
  | [] => exact .pure _
  | [_] => exact .pure _
  | _ :: _ :: _ => exact .raise _

end Misses

theorem authorize_misses (call : RecordCall) : Misses .insertUsageEvent (MeterService.authorize call) := by
  have checked : Misses .insertUsageEvent (QuotaService.checkQuota call.tenantId call.usageType call.qty) := by
    apply Misses.bind (.bind (.query (by decide) _) fun _ => .scalarOneOrNone _)
    intro subscription
    cases subscription with
    | none => exact .raise _
    | some subscription =>
      apply Misses.bind (.ofExcept _)
      intro _
      apply Misses.bind (.bind (.query (by decide) _) fun _ => .scalarOneOrNone _)
      intro plan
      cases plan with
      | none => exact .raise _
      | some plan => exact .bind (.ask fun _ => rfl) fun _ => .bind (.query (by decide) _) fun _ => .pure _
  apply Misses.bind checked
  intro answer
  obtain ⟨allowed, info⟩ := answer
  dsimp only
  split
  · exact .raise _
  · exact .bind (.ask fun _ => rfl) fun _ => .bind (.ofExcept _) fun _ => .pure _

theorem first_fails (positive : 0 < failures) (reaches : Reaches call env failures store.database) :
    MeterService.recordOnce call ((failing env failures message).retry 0) store.open =
      (.error (.database (message 0)), { store.open with aborted := true }) := by
  obtain ⟨admitted, passed⟩ := reaches 0 positive
  have spared : ∀ other ≠ .insertUsageEvent,
      ((failing env failures message).retry 0).fault ((failing env failures message).retry 0).attempt other = none :=
    fun other apart => if_neg fun hit => apart hit.1
  have authorized := authorize_quiet ((failing env failures message).retry 0).calm_quiet rfl
    (show store.open.aborted = false from rfl) call
  have same : call.admission? ((failing env failures message).retry 0).calm.settings
      ((failing env failures message).retry 0).calm.monthStart store.open.working = some admitted := passed
  rw [same, ← authorize_misses call _ _ spared] at authorized
  rw [MeterService.recordOnce, bind_ok authorized]
  have inserted (event : UsageEvent) : statement .insertUsageEvent (Database.insertUsageEvent event)
      ((failing env failures message).retry 0) store.open =
        (.error (.database (message 0)), { store.open with aborted := true }) := by
    have fault : ((failing env failures message).retry 0).fault 0 .insertUsageEvent = some (message 0) :=
      if_pos ⟨rfl, positive⟩
    have live : ¬ store.open.aborted = true := Bool.false_ne_true
    unfold statement
    rw [if_neg live, show ((failing env failures message).retry 0).attempt = 0 from rfl, fault]
  apply bind_error
  rw [UsageRepository.recordUsage, bind_ok (uuid4_apply _), bind_ok (ask_apply _ _ _)]
  exact bind_error (inserted _)

theorem inFailedTransaction_final : isTransientError inFailedTransaction = false := by decide

theorem record_fails (positive : 0 < failures) (transient : isTransientError (.database (message 0)) = true)
    (reaches : Reaches call env failures store.database) :
    MeterService.record call (failing env failures message) store.open =
      (.error inFailedTransaction, { store.open with aborted := true }) := by
  have range : List.range MeterService.recordPolicy.maxRetries = [0, 1, 2] := rfl
  have first : within (Env.retry 0) (MeterService.recordOnce call) (failing env failures message) store.open =
      (.error (.database (message 0)), { store.open with aborted := true }) := first_fails positive reaches
  have second : within (Env.retry 1) (MeterService.recordOnce call) (failing env failures message)
      { store.open with aborted := true } = (.error inFailedTransaction, { store.open with aborted := true }) :=
    recordOnce_refused rfl call
  have last : (!isTransientError (.database (message 0)) || 0 == MeterService.recordPolicy.maxRetries - 1) = false := by
    rw [transient]
    rfl
  rw [MeterService.record, withDbRetry, range, retryAttempts, handle, first]
  dsimp only
  rw [last, if_neg Bool.false_ne_true]
  have again : retryAttempts MeterService.recordPolicy isTransientError (fun _ => pure ⟨⟩)
      (fun attempt => within (Env.retry attempt) (MeterService.recordOnce call)) [1, 2] (.database (message 0))
      (failing env failures message) { store.open with aborted := true } =
        (.error inFailedTransaction, { store.open with aborted := true }) :=
    retryAttempts_final second inFailedTransaction_final
  exact again

theorem serve_fails (positive : 0 < failures) (transient : isTransientError (.database (message 0)) = true)
    (reaches : Reaches call env failures store.database) :
    serve (MeterService.record call) (failing env failures message) store = (.error inFailedTransaction, store) :=
  serve_error (record_fails positive transient reaches) rfl

/-- Errors of attempts that execute the INSERT, before an attempt that would succeed, are survived
exactly if there are none, however few they are. -/
theorem survives_iff_no_error (transient : ∀ attempt < failures, isTransientError (.database (message attempt)) = true)
    (reaches : Reaches call env failures store.database)
    (succeeds : (store.database.record (skipping env failures) call).isSome) :
    Survives call env failures message store ↔ failures = 0 := by
  constructor
  · intro survives
    by_contra some
    have positive : 0 < failures := Nat.pos_of_ne_zero some
    have quiet : (skipping env failures).Quiet := fun _ _ => rfl
    have served := serve_record store quiet call
    cases recorded : store.database.record (skipping env failures) call with
    | none =>
      rw [recorded] at succeeds
      cases succeeds
    | some result =>
      rw [recorded] at served
      rw [Survives, serve_fails positive (transient 0 positive) reaches] at survives
      cases (Prod.mk.inj (survives.trans served)).1
  · rintro rfl
    have same : failing env 0 message = skipping env 0 := by
      simp only [failing, skipping, Env.calm, Nat.not_lt_zero, and_false, if_false, Nat.zero_add]
    rw [Survives, same]

def first : RecordCall := (Seed.apiCall "first").record

def deadlock : Nat → String := fun _ => "deadlock detected"

theorem deadlock_transient : isTransientError (.database "deadlock detected") = true := by decide

/-- One deadlock, and the call is lost. -/
theorem deadlock_lost : 1 < MeterService.recordPolicy.maxRetries ∧
    isTransientError (.database "deadlock detected") = true ∧
    Reaches first (Seed.env 20) 1 Seed.database ∧
    (Seed.database.record (skipping (Seed.env 20) 1) first).isSome ∧
    ¬ Survives first (Seed.env 20) 1 deadlock Seed.store := by
  have reaches : Reaches first (Seed.env 20) 1 Seed.database := by
    intro attempt _
    exact ⟨(⟨"api_call", 0, 5000, 1, 5000, false⟩, 1000), rfl⟩
  refine ⟨by decide, deadlock_transient, reaches, by decide, ?_⟩
  intro survives
  rw [Survives, serve_fails (by decide) deadlock_transient reaches] at survives
  have raised := congrArg Prod.fst survives
  revert raised
  decide

theorem deadlock_survives_iff : Survives first (Seed.env 20) 1 deadlock Seed.store ↔ 1 = 0 :=
  survives_iff_no_error (fun _ _ => deadlock_transient)
    (fun _ _ => ⟨(⟨"api_call", 0, 5000, 1, 5000, false⟩, 1000), rfl⟩) (by decide)

end MeteringBilling.TransientErrors
