import MeteringBilling.Proofs.Usage
import MeteringBilling.Runs
import MeteringBilling.Seed

/-! The token quota over serial runs. The check compares it with one token type at a time,
the report with all four: the pool holds exactly as long as no call uses up the difference. -/

namespace MeteringBilling.TokenPool

/-- The tenant and the plan it stays on while calls are recorded. -/
structure Subscribed (database : Database) (tenantId : UUID) (plan : Plan) : Prop where
  tenant : database.hasTenant tenantId = true
  plan : ∃ subscription, database.activeSubscription? tenantId = some subscription ∧
    database.plan? subscription.planId = some plan

/-- What the report of the month says: the pool is within the plan's quota. -/
def WithinPool (reader : Env) (tenantId : UUID) (plan : Plan) (start : Int) (store : Store) : Prop :=
  store.database.tokenPool tenantId start ≤ plan.aiTokenQuota ∧
    ∃ report, (serve (QuotaService.getAllQuotas tenantId) reader store).1 = .ok (.ok report) ∧
      report.aiTokens.used ≤ report.aiTokens.limit

/-- A token call with a new row that can be stored and whose own type stays within the quota leaves
the four types together within it. -/
def KeepsPool (tenantId : UUID) (plan : Plan) (start : Int) (action : Env × RecordCall) (store : Store) : Prop :=
  action.2.tenantId = tenantId → action.2.usageType ≠ .apiCall →
    store.database.monthlyUsage tenantId action.2.usageType start + action.2.qty ≤ plan.aiTokenQuota →
    ∀ cost, CostService.calculate action.1.settings action.2.usageType action.2.qty = .ok cost →
      (action.2.fresh action.1 cost).Storable → store.database.usageEvents.Fits (action.2.fresh action.1 cost) →
        store.database.tokenPool tenantId start + action.2.qty ≤ plan.aiTokenQuota

/-- The call runs undisturbed in the month that starts at an instant. -/
structure InMonth (start : Int) (action : Env × RecordCall) : Prop where
  quiet : action.1.Quiet
  checked : action.1.monthStart = start
  stored : start ≤ action.1.transactionStart

variable {tenantId : UUID} {plan : Plan} {start : Int} {reader : Env} {store : Store}

theorem Subscribed.limit {database : Database} (subscribed : Subscribed database tenantId plan) (usageType : UsageType) :
    database.limit? tenantId usageType = some (QuotaService.limit plan usageType) := by
  obtain ⟨subscription, active, stored⟩ := subscribed.plan
  simp [Database.limit?, active, stored]

theorem Subscribed.recorded {database : Database} (subscribed : Subscribed database tenantId plan)
    (usageEvents : Table UsageEvent) : Subscribed { database with usageEvents } tenantId plan :=
  ⟨subscribed.tenant, subscribed.plan⟩

theorem withinPool_iff (quiet : reader.Quiet)
    (month : (reader.now reader.attempt .getAllQuotas).startOfMonth.timestamp = start)
    (subscribed : Subscribed store.database tenantId plan) :
    WithinPool reader tenantId plan start store ↔ store.database.tokenPool tenantId start ≤ plan.aiTokenQuota := by
  refine ⟨fun pooled => pooled.1, fun pooled => ⟨pooled, ?_⟩⟩
  obtain ⟨subscription, active, stored⟩ := subscribed.plan
  have reported : (serve (QuotaService.getAllQuotas tenantId) reader store).1 = .ok (.ok (QuotaService.allQuotas plan
      (store.database.monthlyUsageBreakdown tenantId start))) := by
    rw [← month, serve_ok quiet (getAllQuotas_quiet quiet (show store.open.aborted = false from rfl) active stored) rfl]
    rfl
  refine ⟨_, reported, ?_⟩
  rw [allQuotas_tokens]
  exact pooled

theorem subscribed_invariant :
    recordRuns.Invariant (InMonth start) fun store => Subscribed store.database tenantId plan := by
  intro action store next month subscribed taken
  obtain rfl := Option.some.inj taken
  rcases recorded_cases month.quiet action.2 with ⟨cost, inserts, after⟩ | ⟨_, after⟩
  · rw [after]
    exact subscribed.recorded _
  · rw [after]
    exact subscribed

theorem pool_step {action : Env × RecordCall} (month : InMonth start action)
    (subscribed : Subscribed store.database tenantId plan)
    (within : store.database.tokenPool tenantId start ≤ plan.aiTokenQuota) :
    (serve (MeterService.record action.2) action.1 store).2.database.tokenPool tenantId start ≤ plan.aiTokenQuota ↔
      KeepsPool tenantId plan start action store := by
  obtain ⟨env, call⟩ := action
  have monthly : env.monthStart = start := month.checked
  rcases recorded_cases month.quiet call with ⟨cost, inserts, after⟩ | ⟨refused, after⟩
  · have rows : ({ store.database with usageEvents := store.database.usageEvents.add _ inserts.fits } :
        Database).usageEvents.rows = store.database.usageEvents.rows ++ [call.fresh env cost] := rfl
    rw [after, Database.tokenPool_append rows]
    by_cases pooled : call.tenantId = tenantId ∧ call.usageType ≠ .apiCall
    · obtain ⟨rfl, token⟩ := pooled
      have counted : (call.fresh env cost).tenantId = call.tenantId ∧ (call.fresh env cost).usageType ≠ .apiCall ∧
          start ≤ (call.fresh env cost).createdAt := ⟨rfl, token, month.stored⟩
      rw [if_pos counted]
      obtain ⟨info, admitted⟩ := inserts.admitted
      obtain ⟨limit, limited, room, priced, _⟩ := admission?_eq_some.mp admitted
      rw [subscribed.limit, Option.some.injEq, QuotaService.limit, if_neg token] at limited
      rw [monthly, ← limited] at room
      exact ⟨fun pooled _ _ _ _ _ _ _ => pooled, fun keeps => keeps rfl token room cost priced inserts.storable inserts.fits⟩
    · have uncounted : ¬ ((call.fresh env cost).tenantId = tenantId ∧ (call.fresh env cost).usageType ≠ .apiCall ∧
          start ≤ (call.fresh env cost).createdAt) := fun counts => pooled ⟨counts.1, counts.2.1⟩
      rw [if_neg uncounted, Int.add_zero]
      exact ⟨fun _ own token => (pooled ⟨own, token⟩).elim, fun _ => within⟩
  · rw [after]
    refine ⟨fun _ own token room cost priced storable fits => ?_, fun _ => within⟩
    have own : call.tenantId = tenantId := own
    subst own
    refine (refused cost ⟨⟨_, admission?_eq_some.mpr ⟨_, subscribed.limit _, ?_, priced, rfl⟩⟩, storable,
      subscribed.tenant, fits⟩).elim
    rw [monthly, QuotaService.limit, if_neg token]
    exact room

/-- The four token types stay within the quota in every state of a month's run exactly if
no call is let in by the check of its own type alone. -/
theorem tokenPool_respected_iff (calls : List (Env × RecordCall)) (month : ∀ action ∈ calls, InMonth start action)
    (quiet : reader.Quiet) (reading : (reader.now reader.attempt .getAllQuotas).startOfMonth.timestamp = start)
    (subscribed : Subscribed store.database tenantId plan) (unused : store.database.tokenPool tenantId start = 0) :
    recordRuns.Always (WithinPool reader tenantId plan start) calls store ↔
      0 ≤ plan.aiTokenQuota ∧ recordRuns.Each (KeepsPool tenantId plan start) calls store := by
  have start_iff := withinPool_iff quiet reading subscribed
  rw [unused] at start_iff
  have exactly (within : WithinPool reader tenantId plan start store) :
      recordRuns.Always (WithinPool reader tenantId plan start) calls store ↔
        recordRuns.Each (KeepsPool tenantId plan start) calls store := by
    refine Machine.always_iff_each subscribed_invariant ?_ month subscribed within
    intro action store next here valid within taken
    have kept := subscribed_invariant action store next here valid taken
    obtain rfl := Option.some.inj taken
    rw [withinPool_iff quiet reading kept]
    exact pool_step here valid within.1
  constructor
  · intro always
    exact ⟨start_iff.mp always.now, (exactly always.now).mp always⟩
  · intro pooled
    obtain ⟨nonneg, each⟩ := pooled
    exact (exactly (start_iff.mpr nonneg)).mpr each

def inputCall : RecordCall := ⟨Seed.tenant.id, .inputTokens, 500000, "first", none, none⟩

def outputCall : RecordCall := ⟨Seed.tenant.id, .outputTokens, 500000, "second", none, none⟩

def bothCalls : List (Env × RecordCall) := [(Seed.env 10, inputCall), (Seed.env 11, outputCall)]

theorem seeded_month {id : Nat} {call : RecordCall} : InMonth (Seed.env 0).monthStart (Seed.env id, call) :=
  ⟨Seed.env_quiet id, rfl, (by decide : (Seed.env 0).monthStart ≤ Seed.time.timestamp)⟩

theorem seeded_subscribed : Subscribed Seed.database Seed.tenant.id Seed.free :=
  ⟨by decide, Seed.subscription, by decide, by decide⟩

theorem bothCalls_month : ∀ action ∈ bothCalls, InMonth (Seed.env 0).monthStart action := by
  intro action member
  rcases List.mem_pair.mp member with rfl | rfl
  · exact seeded_month
  · exact seeded_month

theorem tokenPool_overrun : (∀ action ∈ bothCalls, InMonth (Seed.env 0).monthStart action) ∧
    Subscribed Seed.database Seed.tenant.id Seed.free ∧
    Seed.database.tokenPool Seed.tenant.id (Seed.env 0).monthStart = 0 ∧
    ¬ recordRuns.Always (WithinPool (Seed.env 0) Seed.tenant.id Seed.free (Seed.env 0).monthStart) bothCalls
      Seed.store := by
  refine ⟨bothCalls_month, seeded_subscribed, by decide, fun always => ?_⟩
  have last := ((always.2 _ rfl).2 _ rfl).1
  exact absurd last (by decide)

theorem tokenPool_respected_seeded :
    recordRuns.Always (WithinPool (Seed.env 0) Seed.tenant.id Seed.free (Seed.env 0).monthStart) bothCalls Seed.store ↔
      0 ≤ Seed.free.aiTokenQuota ∧
        recordRuns.Each (KeepsPool Seed.tenant.id Seed.free (Seed.env 0).monthStart) bothCalls Seed.store :=
  tokenPool_respected_iff bothCalls bothCalls_month (Seed.env_quiet 0) rfl seeded_subscribed (by decide)

end MeteringBilling.TokenPool
