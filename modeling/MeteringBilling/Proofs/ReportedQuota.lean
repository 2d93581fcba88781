import MeteringBilling.Proofs.Faults
import MeteringBilling.Proofs.Usage
import MeteringBilling.Seed

/-! The quota that recording reports against the usage a moment later. What is reported is the usage
before the insert and the requested quantity, also where nothing is inserted. -/

namespace MeteringBilling.ReportedQuota

open Effect

variable {env reader : Env} {session after later : Session} {call : RecordCall} {event : UsageEvent}
  {info : UpdatedQuotaInfo} {instant : DateTime} {current : Int}

def Reports (info : UpdatedQuotaInfo) (current : Int) : Prop :=
  info.used = current ∧ info.remaining = max 0 (info.limit - current)

/-- The call asks for nothing, or its event is new and counts for the month of the check. -/
def Adds (call : RecordCall) (env : Env) (database : Database) : Prop :=
  call.qty = 0 ∨ database.eventOf? call.key = none ∧ env.monthStart ≤ env.transactionStart

instance (call : RecordCall) (env : Env) (database : Database) : Decidable (Adds call env database) :=
  inferInstanceAs (Decidable (_ ∨ _ ∧ _))

theorem usage_after {database working : Database} {checked : QuotaInfo}
    (recorded : database.record env call = some ((event, checked), working)) :
    checked.used = database.monthlyUsage call.tenantId call.usageType env.monthStart ∧
      working.monthlyUsage call.tenantId call.usageType env.monthStart = checked.used +
        if database.eventOf? call.key = none ∧ env.monthStart ≤ env.transactionStart then call.qty else 0 := by
  obtain ⟨⟨_, cost⟩, admitted, finished⟩ := Option.bind_eq_some_iff.mp recorded
  obtain ⟨⟨_, _⟩, stored, same⟩ := Option.bind_eq_some_iff.mp finished
  obtain ⟨pair, rfl⟩ := Prod.mk.inj (Option.some.inj same)
  obtain ⟨rfl, rfl⟩ := Prod.mk.inj pair
  obtain ⟨limit, _, _, _, rfl⟩ := admission?_eq_some.mp admitted
  refine ⟨rfl, ?_⟩
  rcases recordAdmitted_cases stored with ⟨taken, rfl⟩ | ⟨_, _, _, fits, rfl⟩
  · rw [if_neg (by rw [taken]; exact fun fresh => by cases fresh.1), Int.add_zero]
    rfl
  · have fresh : database.eventOf? call.key = none := eventOf?_eq_none_of_fits fits
    have added : Database.monthlyUsage { database with usageEvents := database.usageEvents.add _ fits } call.tenantId
        call.usageType env.monthStart = database.monthlyUsage call.tenantId call.usageType env.monthStart +
          Database.contribution call.tenantId call.usageType env.monthStart (call.fresh env cost) :=
      Database.monthlyUsage_append rfl _ _ _
    rw [added, Database.contribution]
    simp only [RecordCall.fresh, RecordCall.event, fresh, true_and]
    rfl

/-- A call that returns reports the usage of the moment after it exactly if it adds what it asks for. -/
theorem reports_iff_adds (live : session.aborted = false)
    (returned : MeterService.record call env session = (.ok (event, info), after))
    (within : (env.now 0 .checkQuota).SameMonth instant)
    (measured : UsageRepository.getMonthlyUsage call.tenantId call.usageType instant.startOfMonth reader after =
      (.ok current, later)) : Reports info current ↔ Adds call env session.working := by
  obtain ⟨checked, working, recorded, rfl, rfl⟩ := record_returned live returned
  obtain ⟨_, total⟩ := usage_after recorded
  have fetched : statement .sumMonthlyUsage (fun database => .ok (database.monthlyUsage call.tenantId call.usageType
      instant.startOfMonth.timestamp, database)) reader { session with working } = (.ok current, later) := measured
  obtain ⟨_, read, _⟩ := statement_returned fetched
  have same : working.monthlyUsage call.tenantId call.usageType env.monthStart = current := by
    rw [Env.monthStart, within.startOfMonth]
    exact (Prod.mk.inj (Except.ok.inj read)).1
  rw [same] at total
  unfold Reports Adds MeterService.updatedQuotaInfo
  dsimp only
  constructor
  · intro reports
    by_cases counted : session.working.eventOf? call.key = none ∧ env.monthStart ≤ env.transactionStart
    · exact Or.inr counted
    · rw [if_neg counted] at total
      exact Or.inl (by omega)
  · intro adds
    have equal : checked.used + call.qty = current := by
      rcases adds with nothing | counted
      · rw [total, nothing]
        split <;> rfl
      · rw [total, if_pos counted]
    rw [equal]
    exact ⟨rfl, rfl⟩

def first : RecordCall := (Seed.apiCall "first").record

def recorded : Store := (serve (MeterService.record first) (Seed.env 20) Seed.store).2

theorem replay_run : MeterService.record first (Seed.env 21) recorded.open =
    (.ok (first.fresh (Seed.env 20) 1000, ⟨"api_call", 2, 5000, 4998⟩), recorded.open) := rfl

/-- One call is recorded, and its replay reports two. -/
theorem replay_overstates : MeterService.record first (Seed.env 21) recorded.open =
      (.ok (first.fresh (Seed.env 20) 1000, ⟨"api_call", 2, 5000, 4998⟩), recorded.open) ∧
    UsageRepository.getMonthlyUsage first.tenantId first.usageType Seed.time.startOfMonth (Seed.env 21) recorded.open =
      (.ok 1, recorded.open) ∧ ¬ Reports ⟨"api_call", 2, 5000, 4998⟩ 1 :=
  ⟨replay_run, rfl, by unfold Reports; decide⟩

theorem replay_reports_iff : Reports ⟨"api_call", 2, 5000, 4998⟩ 1 ↔ Adds first (Seed.env 21) recorded.database :=
  reports_iff_adds rfl replay_run ⟨rfl, rfl⟩ (show UsageRepository.getMonthlyUsage first.tenantId first.usageType
    Seed.time.startOfMonth (Seed.env 21) recorded.open = (.ok 1, recorded.open) from rfl)

end MeteringBilling.ReportedQuota
