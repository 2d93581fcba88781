import MeteringBilling.Ledger
import MeteringBilling.Proofs.ChargedMonth
import MeteringBilling.Proofs.KeyFormat
import MeteringBilling.Proofs.MonthlyBill
import MeteringBilling.Seed

/-! Recording in serial runs: which calls insert an event, and what a month can reach. The check has
no upper bound, so it counts a calendar month because nothing is dated later than now. A call can be
admitted with a key or a cost that the columns have no room for. -/

namespace MeteringBilling.ExactAdmission

open ChargedMonth MonthlyBill

variable {env : Env} {call : RecordCall} {store : Store} {ledger next : Ledger}

/-- The tenant has a subscription that meters, to a stored plan, and the quantity fits what the
plan leaves of the calendar month. -/
def Admitted (database : Database) (env : Env) (call : RecordCall) : Prop :=
  ∃ subscription ∈ database.subscriptions, ∃ plan ∈ database.plans,
    subscription.tenantId = call.tenantId ∧ subscription.status ∈ [.active, .trialing, .incomplete] ∧
    plan.id = subscription.planId ∧
    monthTotal database call.tenantId call.usageType (env.now 0 .checkQuota) + call.qty ≤
      if call.usageType = .apiCall then plan.apiCallQuota else plan.aiTokenQuota

/-- The columns have room for the values of a call, and for the microunits it costs. -/
structure Fitting (settings : Settings) (call : RecordCall) : Prop where
  idempotencyKey : Varchar idempotencyKeyWidth call.idempotencyKey
  requestIp : ∀ requestIp ∈ call.reqIp, Varchar 45 requestIp
  quantity : BigInt call.qty
  cost : amount settings call.usageType call.qty + 500 < 1000 * 2 ^ 63

/-- If the call is admitted and has a price, it fits. -/
def Keepable (database : Database) (env : Env) (call : RecordCall) : Prop :=
  Admitted database env call → (∃ cost, CostService.calculate env.settings call.usageType call.qty = .ok cost) →
    Fitting env.settings call

/-- The call inserts one event, with its quantity and a cost, and changes nothing else. -/
def Inserted (env : Env) (call : RecordCall) (cost : Int) (store : Store) : Prop :=
  ∃ info, ∃ fits : store.database.usageEvents.Fits (call.fresh env cost), serve (MeterService.record call) env store =
    (.ok (call.fresh env cost, info),
      ⟨{ store.database with usageEvents := store.database.usageEvents.add _ fits }, store.redis⟩)

/-- A call inserts an event exactly if it is admitted at a price, and raises without a trace otherwise. -/
structure Exact (env : Env) (call : RecordCall) (store : Store) : Prop where
  inserted : ∀ cost, Inserted env call cost store ↔
    Admitted store.database env call ∧ CostService.calculate env.settings call.usageType call.qty = .ok cost
  refused : (¬ ∃ cost, Inserted env call cost store) → ∃ exc, serve (MeterService.record call) env store = (.error exc, store)

/-- No month of a tenant and a type has usage, or one of its admissions had a limit that covers it. -/
def Capped (ledger : Ledger) : Prop :=
  ∀ tenantId usageType, ∀ month : DateTime,
    (∀ event ∈ ledger.store.database.usageEvents, event.tenantId = tenantId → event.usageType = usageType →
      ¬ (month.startOfMonth.timestamp ≤ event.createdAt ∧ event.createdAt < month.endOfMonth)) ∨
    ∃ admission ∈ ledger.admissions, admission.tenantId = tenantId ∧ admission.usageType = usageType ∧
      month.startOfMonth.timestamp ≤ admission.time ∧ admission.time < month.endOfMonth ∧
      monthTotal ledger.store.database tenantId usageType month ≤ admission.limit

structure Kept (ledger : Ledger) : Prop where
  dated : ∀ event ∈ ledger.store.database.usageEvents, event.createdAt ≤ ledger.clock
  linked : ledger.store.database.Linked
  capped : Capped ledger

theorem meters_iff (status : SubscriptionStatus) :
    status.meters = true ↔ status ∈ [SubscriptionStatus.active, .trialing, .incomplete] := by
  cases status <;> decide

theorem limit?_eq_some {database : Database} {tenantId : UUID} {usageType : UsageType} {limit : Int} :
    database.limit? tenantId usageType = some limit ↔
      ∃ subscription ∈ database.subscriptions, ∃ plan ∈ database.plans, subscription.tenantId = tenantId ∧
        subscription.status ∈ [.active, .trialing, .incomplete] ∧ plan.id = subscription.planId ∧
        limit = QuotaService.limit plan usageType := by
  have subscribed (subscription : Subscription) : database.activeSubscription? tenantId = some subscription ↔
      subscription ∈ database.subscriptions ∧ subscription.tenantId = tenantId ∧
        subscription.status ∈ [SubscriptionStatus.active, .trialing, .incomplete] := by
    rw [Database.activeSubscription?, Table.find?_eq_some, Bool.and_eq_true, beq_iff_eq, meters_iff]
    intro first second left right
    rw [Bool.and_eq_true] at left right
    exact clash_of_tenant left.1 right.1
  have stored (planId : PlanTier) (plan : Plan) : database.plan? planId = some plan ↔
      plan ∈ database.plans ∧ plan.id = planId := by
    rw [Database.plan?, Table.find?_eq_some, beq_iff_eq]
    intro first second left right
    exact (eq_of_beq left).trans (eq_of_beq right).symm
  rw [Database.limit?, Option.bind_eq_bind, Option.bind_eq_some_iff]
  constructor
  · rintro ⟨subscription, active, planned⟩
    obtain ⟨plan, found, same⟩ := Option.bind_eq_some_iff.mp planned
    obtain ⟨member, tenant, status⟩ := (subscribed subscription).mp active
    obtain ⟨present, id⟩ := (stored _ plan).mp found
    exact ⟨subscription, member, plan, present, tenant, status, id, (Option.some.inj same).symm⟩
  · rintro ⟨subscription, member, plan, present, tenant, status, id, rfl⟩
    exact ⟨subscription, (subscribed subscription).mpr ⟨member, tenant, status⟩,
      Option.bind_eq_some_iff.mpr ⟨plan, (stored _ plan).mpr ⟨present, id⟩, rfl⟩⟩

theorem monthTotal_eq {database : Database} {month : DateTime}
    (early : ∀ event ∈ database.usageEvents, event.createdAt < month.endOfMonth) (tenantId : UUID) (usageType : UsageType) :
    monthTotal database tenantId usageType month =
      database.monthlyUsage tenantId usageType month.startOfMonth.timestamp := by
  rw [monthTotal, Database.monthlyUsage, Database.monthlyEvents, Table.select, List.filter_filter]
  congr 2
  apply List.filter_congr
  intro event member
  have before := early event member
  by_cases tenant : event.tenantId = tenantId <;> by_cases type : event.usageType = usageType <;>
    simp [tenant, type, before]

theorem Kept.early (kept : Kept ledger) (ready : ledger.Ready env)
    (reading : env.transactionStart = (env.now 0 .checkQuota).timestamp) :
    ∀ event ∈ ledger.store.database.usageEvents, event.createdAt < (env.now 0 .checkQuota).endOfMonth := by
  intro event member
  have before := kept.dated event member
  have now := ready.1
  have last := (env.now 0 .checkQuota).lt_endOfMonth
  omega

theorem cost_bigInt {settings : Settings} {usageType : UsageType} {quantity cost : Int}
    (priced : CostService.calculate settings usageType quantity = .ok cost) :
    BigInt cost ↔ amount settings usageType quantity + 500 < 1000 * 2 ^ 63 := by
  rw [calculate_eq] at priced
  unfold BigInt amount
  by_cases charged : 0 < quantity ∧ 0 < pricePerThousand settings usageType
  · rw [max_eq_right charged.2.le]
    have positive := Int.mul_pos charged.1 charged.2
    by_cases fits : quantity * pricePerThousand settings usageType < 10 ^ 28
    · rw [CostRounding.cost_exact charged fits] at priced
      obtain rfl := Except.ok.inj priced
      omega
    · -- beyond 28 digits the product is rounded twice, and far too long for the column
      have near := CostRounding.cost_near charged priced
      omega
  · have nothing : quantity * max 0 (pricePerThousand settings usageType) ≤ 0 := by
      rcases not_and_or.mp charged with empty | free
      · exact mul_nonpos_of_nonpos_of_nonneg (Int.not_lt.mp empty) (le_max_left ..)
      · rw [max_eq_left (Int.not_lt.mp free), Int.mul_zero]
    rw [CostRounding.cost_nothing (by omega)] at priced
    obtain rfl := Except.ok.inj priced
    omega

theorem storable_iff {cost : Int} (priced : CostService.calculate env.settings call.usageType call.qty = .ok cost) :
    (call.fresh env cost).Storable ↔ Fitting env.settings call := by
  constructor
  · intro storable
    exact ⟨storable.idempotencyKey, storable.requestIp, storable.quantity, (cost_bigInt priced).mp storable.costMicrounits⟩
  · intro fitting
    exact ⟨fitting.idempotencyKey, fitting.requestIp, fitting.quantity, (cost_bigInt priced).mpr fitting.cost⟩

/-- In a state of a run the check counts the month, and the row of an admitted call is new to the table. -/
theorem inserts_iff (kept : Kept ledger) (ready : ledger.Ready env)
    (reading : env.transactionStart = (env.now 0 .checkQuota).timestamp)
    (unused : ledger.store.database.eventOf? call.key = none) (cost : Int) :
    call.Inserts env ledger.store.database cost ↔ (Admitted ledger.store.database env call ∧
      CostService.calculate env.settings call.usageType call.qty = .ok cost) ∧ (call.fresh env cost).Storable := by
  have month := monthTotal_eq (kept.early ready reading) call.tenantId call.usageType
  constructor
  · rintro ⟨⟨info, admitted⟩, storable, _, _⟩
    obtain ⟨limit, limited, room, priced, _⟩ := admission?_eq_some.mp admitted
    obtain ⟨subscription, member, plan, present, tenant, status, id, rfl⟩ := limit?_eq_some.mp limited
    refine ⟨⟨⟨subscription, member, plan, present, tenant, status, id, ?_⟩, priced⟩, storable⟩
    rw [month]
    exact room
  · rintro ⟨⟨⟨subscription, member, plan, present, tenant, status, id, room⟩, priced⟩, storable⟩
    rw [month] at room
    have limited : ledger.store.database.limit? call.tenantId call.usageType =
        some (QuotaService.limit plan call.usageType) :=
      limit?_eq_some.mpr ⟨subscription, member, plan, present, tenant, status, id, rfl⟩
    refine ⟨⟨_, admission?_eq_some.mpr ⟨_, limited, room, priced, rfl⟩⟩, storable, ?_, ?_⟩
    · rw [← tenant]
      exact kept.linked subscription member
    · intro event stored clash
      rcases clash with identifier | key
      · exact ready.2 event stored identifier
      · exact List.find?_eq_none.mp unused event stored (beq_iff_eq.mpr key)

theorem inserted_iff_inserts (quiet : env.Quiet) (cost : Int) :
    Inserted env call cost store ↔ call.Inserts env store.database cost := by
  constructor
  · rintro ⟨info, fits, served⟩
    have rows := congrArg (fun result => result.2.database.usageEvents.rows) served
    rcases recorded_cases quiet call with ⟨other, inserts, final⟩ | ⟨_, same⟩
    · rw [final] at rows
      have events := List.append_cancel_left rows
      have costs : other = cost := congrArg UsageEvent.costMicrounits (List.cons.inj events).1
      exact costs ▸ inserts
    · rw [same] at rows
      have lengths := congrArg List.length rows
      simp at lengths
  · intro inserts
    obtain ⟨info, recorded⟩ := record_of_inserts inserts
    have served := serve_record store quiet call
    rw [recorded] at served
    exact ⟨_, inserts.fits, served⟩

theorem refused_unchanged (quiet : env.Quiet) (unused : store.database.eventOf? call.key = none)
    (refused : ¬ ∃ cost, Inserted env call cost store) : ∃ exc, serve (MeterService.record call) env store = (.error exc, store) := by
  have served := serve_record store quiet call
  cases recorded : store.database.record env call with
  | none =>
    rw [recorded] at served
    exact served
  | some result =>
    obtain ⟨⟨_, cost⟩, admitted, finished⟩ := Option.bind_eq_some_iff.mp recorded
    obtain ⟨⟨_, _⟩, stored, _⟩ := Option.bind_eq_some_iff.mp finished
    rcases recordAdmitted_cases stored with ⟨taken, _⟩ | ⟨storable, tenant, _, fits, _⟩
    · rw [unused] at taken
      cases taken
    · exact (refused ⟨cost, (inserted_iff_inserts quiet cost).mpr ⟨⟨_, admitted⟩, storable, tenant, fits⟩⟩).elim

theorem exact_call (quiet : env.Quiet) (kept : Kept ledger) (ready : ledger.Ready env)
    (reading : env.transactionStart = (env.now 0 .checkQuota).timestamp)
    (unused : ledger.store.database.eventOf? call.key = none) :
    Exact env call ledger.store ↔ Keepable ledger.store.database env call := by
  have inserted (cost : Int) := (inserted_iff_inserts quiet cost).trans (inserts_iff kept ready reading unused cost)
  constructor
  · intro holds admitted ⟨cost, priced⟩
    exact (storable_iff priced).mp ((inserted cost).mp ((holds.inserted cost).mpr ⟨admitted, priced⟩)).2
  · intro keepable
    refine ⟨fun cost => (inserted cost).trans (and_iff_left_of_imp ?_), refused_unchanged quiet unused⟩
    intro ⟨admitted, priced⟩
    exact (storable_iff priced).mpr (keepable admitted ⟨cost, priced⟩)

theorem recorded_inserted {cost : Int} (inserts : call.Inserts env ledger.store.database cost)
    (final : (serve (MeterService.record call) env ledger.store).2 = ⟨{ ledger.store.database with
      usageEvents := ledger.store.database.usageEvents.add _ inserts.fits }, ledger.store.redis⟩)
    {limit : Int} (limited : ledger.store.database.limit? call.tenantId call.usageType = some limit) :
    (ledger.recorded env call).store.database = { ledger.store.database with
      usageEvents := ledger.store.database.usageEvents.add _ inserts.fits } ∧
    (ledger.recorded env call).admissions =
      ledger.admissions ++ [⟨call.tenantId, call.usageType, limit, env.transactionStart⟩] := by
  have grown : ledger.store.database.usageEvents.add (call.fresh env cost) inserts.fits ≠
      ledger.store.database.usageEvents := by
    intro same
    have lengths := congrArg (fun table => table.rows.length) same
    simp at lengths
  constructor
  · rw [Ledger.recorded, final]
  · simp only [Ledger.recorded, final, RecordCall.admission, if_neg grown, limited, Option.map_some, Option.toList_some]

theorem monthTotal_checked (kept : Kept ledger) (ready : ledger.Ready env)
    (reading : env.transactionStart = (env.now 0 .checkQuota).timestamp) {month : DateTime}
    (inside : month.startOfMonth.timestamp ≤ env.transactionStart ∧ env.transactionStart < month.endOfMonth)
    (tenantId : UUID) (usageType : UsageType) : monthTotal ledger.store.database tenantId usageType month =
      ledger.store.database.monthlyUsage tenantId usageType env.monthStart := by
  have early : ∀ event ∈ ledger.store.database.usageEvents, event.createdAt < month.endOfMonth :=
    fun event member => lt_of_le_of_lt ((kept.dated event member).trans ready.1) inside.2
  have checked : (env.now 0 .checkQuota).startOfMonth.timestamp ≤ env.transactionStart ∧
      env.transactionStart < (env.now 0 .checkQuota).endOfMonth := by
    rw [reading]
    exact ⟨(env.now 0 .checkQuota).startOfMonth_le, (env.now 0 .checkQuota).lt_endOfMonth⟩
  have same : month.startOfMonth.timestamp = env.monthStart := DateTime.startOfMonth_unique inside checked
  rw [monthTotal_eq early, same]

theorem capped_inserted {cost : Int} (kept : Kept ledger) (ready : ledger.Ready env)
    (reading : env.transactionStart = (env.now 0 .checkQuota).timestamp)
    (inserts : call.Inserts env ledger.store.database cost)
    (final : (serve (MeterService.record call) env ledger.store).2 = ⟨{ ledger.store.database with
      usageEvents := ledger.store.database.usageEvents.add _ inserts.fits }, ledger.store.redis⟩) :
    Capped (ledger.recorded env call) := by
  obtain ⟨info, admitted⟩ := inserts.admitted
  obtain ⟨limit, limited, room, _⟩ := admission?_eq_some.mp admitted
  obtain ⟨database, admissions⟩ := recorded_inserted inserts final limited
  intro tenantId usageType month
  rw [database, admissions, monthTotal_append rfl]
  by_cases counted : (call.fresh env cost).tenantId = tenantId ∧ (call.fresh env cost).usageType = usageType ∧
      month.startOfMonth.timestamp ≤ (call.fresh env cost).createdAt ∧ (call.fresh env cost).createdAt < month.endOfMonth
  · obtain ⟨rfl, rfl, inside⟩ := counted
    refine Or.inr ⟨_, List.mem_append_right _ (List.mem_singleton.mpr rfl), rfl, rfl, inside.1, inside.2, ?_⟩
    rw [if_pos ⟨rfl, rfl, inside⟩, monthTotal_checked kept ready reading inside]
    exact room
  · rw [if_neg counted, Int.add_zero]
    rcases kept.capped tenantId usageType month with unused | ⟨admission, member, covers⟩
    · refine Or.inl fun event member tenant type inside => ?_
      rcases List.mem_append.mp member with old | added
      · exact unused event old tenant type inside
      · obtain rfl := List.mem_singleton.mp added
        exact counted ⟨tenant, type, inside⟩
    · exact Or.inr ⟨admission, List.mem_append_left _ member, covers⟩

theorem kept_recorded (quiet : env.Quiet) (kept : Kept ledger) (ready : ledger.Ready env)
    (reading : env.transactionStart = (env.now 0 .checkQuota).timestamp) : Kept (ledger.recorded env call) := by
  rcases @recorded_cases env ledger.store quiet call with ⟨cost, inserts, final⟩ | ⟨_, same⟩
  · refine ⟨?_, ?_, capped_inserted kept ready reading inserts final⟩
    · rw [Ledger.recorded, final]
      intro event member
      rcases List.mem_append.mp member with old | added
      · exact (kept.dated event old).trans ready.1
      · rw [List.mem_singleton.mp added]
        exact le_refl _
    · rw [Ledger.recorded, final]
      exact kept.linked
  · have unchanged : ledger.recorded env call = { ledger with clock := env.transactionStart } := by
      rw [Ledger.recorded, same]
      simp [RecordCall.admission]
    rw [unchanged]
    exact ⟨fun event member => (kept.dated event member).trans ready.1, kept.linked, kept.capped⟩

theorem kept_step {action : LedgerAction} (plain : action.Plain) (kept : Kept ledger)
    (taken : recording.step action ledger = some next) : Kept next := by
  cases action with
  | record env call =>
    simp only [recording] at taken
    split at taken
    · next ready =>
      obtain rfl := Option.some.inj taken
      exact kept_recorded plain.1 kept ready plain.2
    · cases taken
  | change database =>
    simp only [recording] at taken
    split at taken
    · next allowed =>
      obtain rfl := Option.some.inj taken
      obtain ⟨same, linked⟩ := allowed
      refine ⟨?_, linked, ?_⟩
      · change ∀ event ∈ database.usageEvents, event.createdAt ≤ ledger.clock
        rw [same]
        exact kept.dated
      · intro tenantId usageType month
        have total : monthTotal database tenantId usageType month =
            monthTotal ledger.store.database tenantId usageType month := by rw [monthTotal, monthTotal, same]
        have covered := kept.capped tenantId usageType month
        rw [← total, ← same] at covered
        exact covered
    · cases taken

/-- In every state that a serial run reaches from tables without usage, a call with an unused key is
recorded exactly if it is admitted, as far as the columns have room for its row, and each month is
covered by one of its admissions. -/
theorem exact_admission_and_cap {actions : List LedgerAction} (plain : ∀ action ∈ actions, action.Plain)
    (empty : store.database.usageEvents.rows = []) (linked : store.database.Linked) {clock : Int}
    (ran : recording.run actions (.opened store clock) = some ledger) :
    (∀ env call, env.Quiet → env.transactionStart = (env.now 0 .checkQuota).timestamp → ledger.Ready env →
      ledger.store.database.eventOf? call.key = none →
        (Exact env call ledger.store ↔ Keepable ledger.store.database env call)) ∧ Capped ledger := by
  have none := Table.not_mem_of_empty empty
  have fresh : Kept (.opened store clock) :=
    ⟨fun event member => (none event member).elim, linked, fun _ _ _ => Or.inl fun event member => (none event member).elim⟩
  have invariant : recording.Invariant LedgerAction.Plain Kept := fun _ _ _ => kept_step
  have kept := invariant.run plain fresh ran
  exact ⟨fun env call quiet reading ready unused => exact_call quiet kept ready reading unused, kept.capped⟩

def first : RecordCall := (Seed.apiCall "first").record

def recordedOnce : Ledger := (Ledger.opened Seed.store 0).recorded (Seed.env 20) first

theorem second_exact : (Exact (Seed.env 21) (Seed.apiCall "second").record recordedOnce.store ↔
    Keepable recordedOnce.store.database (Seed.env 21) (Seed.apiCall "second").record) ∧ Capped recordedOnce := by
  have plain : ∀ action ∈ [LedgerAction.record (Seed.env 20) first], action.Plain := by
    intro action member
    obtain rfl := List.mem_singleton.mp member
    exact ⟨Seed.env_quiet 20, rfl⟩
  have ran : recording.run [.record (Seed.env 20) first] (.opened Seed.store 0) = some recordedOnce := rfl
  have exact_and_capped := exact_admission_and_cap plain rfl (by decide) ran
  exact ⟨exact_and_capped.1 (Seed.env 21) _ (Seed.env_quiet 21) rfl (by decide) rfl, exact_and_capped.2⟩

/-- An identifier of version 4 with more hyphens behind it. -/
def padded : String := String.ofList ("123e4567-e89b-42d3-a456-426614174000".toList ++ List.replicate 264 '-')

theorem padded_passes : KeyFormat.Passes padded :=
  (KeyFormat.passes_iff padded).mpr (KeyFormat.canonical_hyphens
    ⟨"123e4567".toList, "e89b".toList, "42d3".toList, "a456".toList, "426614174000".toList, rfl, rfl,
      List.all_eq_true.mp rfl⟩ 264)

theorem padded_long : ¬ Varchar idempotencyKeyWidth padded := by
  unfold Varchar padded
  rw [String.length_ofList, List.length_append, List.length_replicate]
  decide

theorem padded_admitted : Admitted Seed.database (Seed.env 20) (Seed.apiCall padded).record :=
  ⟨Seed.subscription, List.mem_singleton.mpr rfl, Seed.free, List.mem_cons_self, rfl, List.mem_cons_self, rfl, by decide⟩

/-- The middleware lets the key through and the call is admitted, but it is not recorded. -/
theorem padded_refused : KeyFormat.Passes padded ∧ Seed.database.usageEvents.rows = [] ∧ Seed.database.Linked ∧
    recording.run [] (.opened Seed.store 0) = some (.opened Seed.store 0) ∧ (Seed.env 20).Quiet ∧
    (Ledger.opened Seed.store 0).Ready (Seed.env 20) ∧
    Seed.database.eventOf? (Seed.apiCall padded).record.key = none ∧
    Admitted Seed.database (Seed.env 20) (Seed.apiCall padded).record ∧
    ¬ Exact (Seed.env 20) (Seed.apiCall padded).record Seed.store := by
  refine ⟨padded_passes, rfl, by decide, rfl, Seed.env_quiet 20, by decide, rfl, padded_admitted, ?_⟩
  intro holds
  have inserted := (holds.inserted 1000).mpr ⟨padded_admitted, by decide⟩
  have inserts := (inserted_iff_inserts (Seed.env_quiet 20) 1000).mp inserted
  exact padded_long inserts.storable.idempotencyKey

end MeteringBilling.ExactAdmission
