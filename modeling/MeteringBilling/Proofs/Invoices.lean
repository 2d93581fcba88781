import MeteringBilling.Proofs.Attribution
import MeteringBilling.Proofs.Reporting
import MeteringBilling.Proofs.Usage

/-! The reports of months that follow each other. Together they bill what has been used: each event is in exactly one of
them, and of the money only what each report rounds off is missing. -/

namespace MeteringBilling.Invoices

open Attribution Permanence StripeCustomer

/-- What is served in a month, and the report that is made when it is over. -/
structure Month where
  schedule : List ServiceAction
  env : Env
  report : UsageResponse

def Month.start (month : Month) : Int := (month.env.now month.env.attempt .usagePeriod).startOfMonth.timestamp

def Month.Steady (month : Month) : Prop :=
  (month.env.now month.env.attempt .getAllQuotas).startOfMonth = (month.env.now month.env.attempt .usagePeriod).startOfMonth

variable {verifyApiKey : String → String → Bool} {verify : List UInt8 → String → Except PyError StripeEvent}
  {state middle final : ServiceState} {schedule : List ServiceAction} {months : List Month} {month : Month} {tenantId : UUID}
  {database before : Database} {events added : List UsageEvent} {start : Int}

variable (verifyApiKey verify tenantId) in
/-- Month after month is served, and each report is what a request finds in the tables that its month has left. -/
inductive Reported : List Month → ServiceState → ServiceState → Prop
  | none {state : ServiceState} : Reported [] state state
  | next {month : Month} {later : List Month} {state middle final : ServiceState}
      (served : (service verifyApiKey verify).run month.schedule state = some middle)
      (reported : (serve (getUsage tenantId) month.env middle.store).1 = .ok (.response month.report))
      (rest : Reported later middle final) : Reported (month :: later) state final

/-- Transactions start in their months. -/
structure Dated (months : List Month) : Prop where
  steady : ∀ month ∈ months, month.Steady
  begun : ∀ month ∈ months, ∀ incoming, .request (.api incoming) ∈ month.schedule →
    month.start ≤ incoming.env.transactionStart
  past : months.Pairwise fun month later => ∀ incoming, .request (.api incoming) ∈ month.schedule →
    incoming.env.transactionStart < later.start

def ofTenant (tenantId : UUID) (events : List UsageEvent) : List UsageEvent := events.filter (·.tenantId == tenantId)

def apiCalls (events : List UsageEvent) : Int := ((events.filter (·.usageType == .apiCall)).map UsageEvent.quantity).sum

def tokens (events : List UsageEvent) : Int := ((events.filter (·.usageType != .apiCall)).map UsageEvent.quantity).sum

def cost (events : List UsageEvent) : Int := (events.map UsageEvent.costMicrounits).sum

structure Bills (months : List Month) (events : List UsageEvent) : Prop where
  apiCalls : (months.map (·.report.apiCalls.used)).sum = apiCalls events
  tokens : (months.map (·.report.aiTokens.used)).sum = tokens events
  most : 10000 * (months.map (·.report.totalCostCents)).sum ≤ cost events
  least : cost events ≤ 10000 * (months.map (·.report.totalCostCents)).sum + 9999 * months.length

theorem apiCalls_append (first second : List UsageEvent) : apiCalls (first ++ second) = apiCalls first + apiCalls second := by
  rw [apiCalls, List.filter_append, List.map_append, List.sum_append, apiCalls, apiCalls]

theorem tokens_append (first second : List UsageEvent) : tokens (first ++ second) = tokens first + tokens second := by
  rw [tokens, List.filter_append, List.map_append, List.sum_append, tokens, tokens]

theorem cost_append (first second : List UsageEvent) : cost (first ++ second) = cost first + cost second := by
  rw [cost, List.map_append, List.sum_append, cost, cost]

theorem tokenPool_eq (database : Database) (tenantId : UUID) (start : Int) :
    database.tokenPool tenantId start = tokens (database.monthlyEvents tenantId start) := by
  rw [Database.tokenPool_parts]
  simp only [Database.monthlyUsage, tokens]
  induction database.monthlyEvents tenantId start with
  | nil => rfl
  | cons event events ih =>
    cases type : event.usageType <;> simp [type] at ih ⊢ <;> omega

theorem report_bills (steady : month.Steady) {store : Store}
    (reported : (serve (getUsage tenantId) month.env store).1 = .ok (.response month.report)) :
    Bills [month] (store.database.monthlyEvents tenantId month.start) := by
  obtain ⟨plan, _, built⟩ := usageReport_ok.mp (served_report reported)
  obtain ⟨_, _, _, _, shows⟩ := usageResponse_ok built
  have total : month.report.totalCostCents = cost (store.database.monthlyEvents tenantId month.start) / 10000 := shows.total
  have calls : month.report.apiCalls.used = apiCalls (store.database.monthlyEvents tenantId month.start) := by
    rw [shows.apiUsed, steady]
    exact usedOf_breakdown store.database tenantId _ .apiCall
  have pool : month.report.aiTokens.used = tokens (store.database.monthlyEvents tenantId month.start) := by
    rw [shows.tokensUsed, allQuotas_tokens, steady]
    exact tokenPool_eq store.database tenantId _
  refine ⟨?_, ?_, ?_, ?_⟩
  · rw [List.map_singleton, List.sum_singleton, calls]
  · rw [List.map_singleton, List.sum_singleton, pool]
  · rw [List.map_singleton, List.sum_singleton, total]
    omega
  · rw [List.map_singleton, List.sum_singleton, total, List.length_singleton]
    omega

theorem Bills.append {first second : List Month} {more : List UsageEvent} (bills : Bills first events)
    (others : Bills second more) : Bills (first ++ second) (events ++ more) where
  apiCalls := by rw [List.map_append, List.sum_append, bills.apiCalls, others.apiCalls, apiCalls_append]
  tokens := by rw [List.map_append, List.sum_append, bills.tokens, others.tokens, tokens_append]
  most := by
    have one := bills.most
    have two := others.most
    rw [List.map_append, List.sum_append, cost_append]
    omega
  least := by
    have one := bills.least
    have two := others.least
    rw [List.map_append, List.sum_append, cost_append, List.length_append]
    push_cast
    omega

theorem monthlyEvents_added (rows : database.usageEvents.rows = before.usageEvents.rows ++ added)
    (older : ∀ event ∈ before.usageEvents, event.createdAt < start) (dated : ∀ event ∈ added, start ≤ event.createdAt) :
    database.monthlyEvents tenantId start = ofTenant tenantId added := by
  rw [Database.monthlyEvents, Table.select, rows, List.filter_append, ofTenant]
  have past : before.usageEvents.rows.filter (fun row => row.tenantId == tenantId && decide (start ≤ row.createdAt)) = [] := by
    rw [List.filter_eq_nil_iff]
    intro event member counted
    have late : start ≤ event.createdAt := of_decide_eq_true (Bool.and_eq_true_iff.mp counted).2
    exact absurd (older event member) (not_lt.mpr late)
  rw [past, List.nil_append]
  apply List.filter_congr
  intro event member
  rw [decide_eq_true (dated event member), Bool.and_true]

theorem added_dated (mirrors : Mirrors state.store.database state.store.redis)
    (ran : (service verifyApiKey verify).run schedule state = some middle) :
    Mirrors middle.store.database middle.store.redis ∧
    ∃ added, middle.store.database.usageEvents.rows = state.store.database.usageEvents.rows ++ added ∧
      ∀ event ∈ added, ∃ incoming, .request (.api incoming) ∈ schedule ∧ event.createdAt = incoming.env.transactionStart := by
  have kept : Kept state.store.database middle := (kept_invariant _).run (fun _ _ => trivial) ⟨mirrors, .refl _⟩ ran
  have traced := Machine.run_history traced_step (fun _ _ => trivial) ⟨mirrors, .initial state.store.database⟩ ran
  obtain ⟨added, rows⟩ := kept.lasts.usageEvents
  refine ⟨kept.mirrors, added, rows.symm, fun event member => ?_⟩
  have stored : event ∈ middle.store.database.usageEvents := by
    rw [Table.mem_rows, ← rows]
    exact List.mem_append_right _ member
  rcases traced.attributed.usageEvents event stored with old | ⟨incoming, sent, meters⟩
  · have distinct := middle.store.database.usageEvents.distinct
    rw [← rows] at distinct
    exact ((List.pairwise_append.mp distinct).2.2 event old event member (.inl rfl)).elim
  · obtain ⟨_, _, _, _, _, _, dated, _⟩ := meters
    exact ⟨incoming, sent, dated⟩

theorem reported_bills (mirrors : Mirrors state.store.database state.store.redis) (dated : Dated months)
    (older : ∀ event ∈ state.store.database.usageEvents, ∀ month ∈ months, event.createdAt < month.start)
    (reported : Reported verifyApiKey verify tenantId months state final) :
    ∃ added, final.store.database.usageEvents.rows = state.store.database.usageEvents.rows ++ added ∧
      Bills months (ofTenant tenantId added) := by
  induction reported with
  | none => exact ⟨[], (List.append_nil _).symm, rfl, rfl, le_refl _, le_refl _⟩
  | @next month later state middle final served reported rest ih =>
    obtain ⟨ahead, past⟩ := List.pairwise_cons.mp dated.past
    obtain ⟨steady, steadyLater⟩ := List.forall_mem_cons.mp dated.steady
    obtain ⟨begun, begunLater⟩ := List.forall_mem_cons.mp dated.begun
    obtain ⟨mirrors, first, rows, causes⟩ := added_dated mirrors served
    have olderLater : ∀ event ∈ middle.store.database.usageEvents, ∀ month ∈ later, event.createdAt < month.start := by
      intro event member month among
      rw [Table.mem_rows, rows] at member
      rcases List.mem_append.mp member with old | new
      · exact older event old month (List.mem_cons_of_mem _ among)
      · obtain ⟨incoming, sent, same⟩ := causes event new
        rw [same]
        exact ahead month among incoming sent
    obtain ⟨rest, rowsLater, bills⟩ := ih mirrors ⟨steadyLater, begunLater, past⟩ olderLater
    refine ⟨first ++ rest, by rw [rowsLater, rows, List.append_assoc], ?_⟩
    have inMonth : ∀ event ∈ first, month.start ≤ event.createdAt := by
      intro event member
      obtain ⟨incoming, sent, same⟩ := causes event member
      rw [same]
      exact begun incoming sent
    have owned := @monthlyEvents_added tenantId _ _ _ _ rows (fun event member => older event member month List.mem_cons_self) inMonth
    have here := report_bills steady reported
    rw [owned] at here
    rw [ofTenant, List.filter_append]
    exact here.append bills

/-- From an empty Redis on, the reports of consecutive months bill all that the tenant has used in them, once: the used
quantities add up exactly, and the totals miss less than a cent for each month. -/
theorem months_billed (empty : ∀ key, state.store.redis key = none) (dated : Dated months)
    (older : ∀ event ∈ state.store.database.usageEvents, ∀ month ∈ months, event.createdAt < month.start)
    (reported : Reported verifyApiKey verify tenantId months state final) :
    ∃ added, final.store.database.usageEvents.rows = state.store.database.usageEvents.rows ++ added ∧
      Bills months (ofTenant tenantId added) := by
  have mirrors : Mirrors state.store.database state.store.redis := .initial empty
  exact reported_bills mirrors dated older reported

def inMonth (time : DateTime) (id : Nat) : Env := { Seed.env id with transactionStart := time.timestamp, now := fun _ _ => time }

def nextMonth : DateTime := { Seed.time with month := 7, valid := by decide }

theorem manyTokens_valid : (0 : Int) < 250000 ∧ (250000 : Int) ≤ 10000000 := by decide

def manyTokens : MeterRequest := ⟨.outputTokens, 250000, manyTokens_valid⟩

def metering (env : Env) (key : String) : ServiceAction := .request (.api
  { env, credentials := ⟨Seed.tenant.id.str, none⟩, endpoint := .meter key manyTokens none none })

def juneEnd : ServiceState :=
  ((service unchecked unsigned).run [metering (inMonth Seed.time 20) "june"] ⟨Seed.store, []⟩).get rfl

def julyEnd : ServiceState := ((service unchecked unsigned).run [metering (inMonth nextMonth 30) "july"] juneEnd).get rfl

def freshReport? (env : Env) (store : Store) : Option UsageResponse :=
  match (serve (getUsage Seed.tenant.id) env store).1 with
  | .ok (.response report) => some report
  | _ => none

theorem freshReport?_eq {env : Env} {store : Store} {report : UsageResponse} (made : freshReport? env store = some report) :
    (serve (getUsage Seed.tenant.id) env store).1 = .ok (.response report) := by
  unfold freshReport? at made
  split at made
  · next reported =>
    obtain rfl := Option.some.inj made
    exact reported
  · cases made

def oneRequest (time : DateTime) (id : Nat) (key : String) (report : UsageResponse) : Month :=
  ⟨[metering (inMonth time id) key], inMonth time (id + 1), report⟩

def summer (june july : UsageResponse) : List Month := [oneRequest Seed.time 20 "june" june, oneRequest nextMonth 30 "july" july]

theorem oneRequest_sent {time : DateTime} {id : Nat} {key : String} {report : UsageResponse} {incoming : ApiRequest}
    (sent : .request (.api incoming) ∈ (oneRequest time id key report).schedule) :
    incoming.env.transactionStart = time.timestamp := by
  cases List.mem_singleton.mp sent
  rfl

theorem oneRequest_start (time : DateTime) (id : Nat) (key : String) (report : UsageResponse) :
    (oneRequest time id key report).start = time.startOfMonth.timestamp := rfl

theorem summer_dated (june july : UsageResponse) : Dated (summer june july) where
  steady := List.forall_mem_cons.mpr ⟨rfl, List.forall_mem_singleton.mpr rfl⟩
  begun := by
    refine List.forall_mem_cons.mpr ⟨fun incoming sent => ?_, List.forall_mem_singleton.mpr fun incoming sent => ?_⟩
    · rw [oneRequest_sent sent, oneRequest_start]
      decide +kernel
    · rw [oneRequest_sent sent, oneRequest_start]
      decide +kernel
  past := by
    refine List.pairwise_pair.mpr fun incoming sent => ?_
    rw [oneRequest_sent sent, oneRequest_start]
    decide +kernel

theorem summer_billed : ∃ june july added, julyEnd.store.database.usageEvents.rows = Seed.database.usageEvents.rows ++ added ∧
    Bills (summer june july) (ofTenant Seed.tenant.id added) := by
  have juneMade : (freshReport? (inMonth Seed.time 21) juneEnd.store).isSome = true := by decide +kernel
  have julyMade : (freshReport? (inMonth nextMonth 31) julyEnd.store).isSome = true := by decide +kernel
  obtain ⟨june, juneMade⟩ := Option.isSome_iff_exists.mp juneMade
  obtain ⟨july, julyMade⟩ := Option.isSome_iff_exists.mp julyMade
  have juneServed : (service unchecked unsigned).run [metering (inMonth Seed.time 20) "june"] ⟨Seed.store, []⟩ = some juneEnd :=
    (Option.some_get _).symm
  have julyServed : (service unchecked unsigned).run [metering (inMonth nextMonth 30) "july"] juneEnd = some julyEnd :=
    (Option.some_get _).symm
  have reported : Reported unchecked unsigned Seed.tenant.id (summer june july) ⟨Seed.store, []⟩ julyEnd :=
    .next juneServed (freshReport?_eq juneMade) (.next julyServed (freshReport?_eq julyMade) .none)
  have older : ∀ event ∈ Seed.database.usageEvents, ∀ month ∈ summer june july, event.createdAt < month.start := by
    intro event member
    cases member
  exact ⟨june, july, months_billed (fun _ => rfl) (summer_dated june july) older reported⟩

end MeteringBilling.Invoices
