import MeteringBilling.Library.History
import MeteringBilling.Proofs.Permanence
import MeteringBilling.Proofs.SerialDeliveries

/-! Who wrote what: no row is in the tables without a request that asked for it. -/

namespace MeteringBilling.Attribution

open Permanence StripeCustomer

/-- A metering request for the event: its tenant, key, type and quantity, at the price of its
surroundings, under the identifier it draws and dated by its transaction. -/
def Meters (incoming : ApiRequest) (event : UsageEvent) : Prop :=
  ∃ request, UUID.parse? incoming.credentials.xTenantId = some event.tenantId ∧
    incoming.endpoint = .meter event.idempotencyKey request event.requestIp event.userAgent ∧
    event.usageType = request.usageType ∧ event.quantity = request.qty ∧ event.id = incoming.env.uuid4 0 .usageEvent ∧
    event.createdAt = incoming.env.transactionStart ∧
    CostService.calculate incoming.env.settings request.usageType request.qty = .ok event.costMicrounits

/-- A delivery with a valid signature. -/
def Signed (verify : List UInt8 → String → Except PyError StripeEvent) (past : List ServiceAction) (env : Env)
    (event : StripeEvent) : Prop :=
  ∃ payload header, .request (.webhook env payload (some header)) ∈ past ∧ verify payload header = .ok event

/-- Every row was there at the start, or a request has asked for it. -/
structure Attributed (verify : List UInt8 → String → Except PyError StripeEvent) (start : Database)
    (past : List ServiceAction) (database : Database) : Prop where
  usageEvents : ∀ event ∈ database.usageEvents, event ∈ start.usageEvents ∨
    ∃ incoming, .request (.api incoming) ∈ past ∧ Meters incoming event
  processed : ∀ row ∈ database.processedStripeEvents, row ∈ start.processedStripeEvents ∨
    ∃ env event, Signed verify past env event ∧ row = event.mark env
  subscriptions : ∀ row ∈ database.subscriptions, row ∈ start.subscriptions ∨
    ∃ env event, Signed verify past env event ∧ event.data.subscriptionId? = row.stripeSubscriptionId
  tenants : ∀ row ∈ database.tenants, row ∈ start.tenants ∨
    (∃ env event, Signed verify past env event ∧ WebhookFrame.Enrolls event.data ∧ row.id = SerialDeliveries.drawnTenant env) ∨
    ∃ checkout customer, .request (.checkout checkout) ∈ past ∧
      UUID.parse? checkout.credentials.xTenantId = some row.id ∧ checkout.answers.customer = .ok customer ∧
      row.stripeCustomerId = some customer.id

variable {verifyApiKey : String → String → Bool} {verify : List UInt8 → String → Except PyError StripeEvent}
  {start database after : Database} {past later : List ServiceAction}

theorem Attributed.initial (start : Database) : Attributed verify start [] start :=
  ⟨fun _ => Or.inl, fun _ => Or.inl, fun _ => Or.inl, fun _ => Or.inl⟩

theorem Signed.grow {env : Env} {event : StripeEvent} (signed : Signed verify past env event)
    (grows : ∀ action ∈ past, action ∈ later) : Signed verify later env event := by
  obtain ⟨payload, header, asked, verified⟩ := signed
  exact ⟨payload, header, grows _ asked, verified⟩

theorem Attributed.grow (attributed : Attributed verify start past database) (grows : ∀ action ∈ past, action ∈ later) :
    Attributed verify start later database where
  usageEvents event member := (attributed.usageEvents event member).imp_right fun ⟨incoming, asked, meters⟩ =>
    ⟨incoming, grows _ asked, meters⟩
  processed row member := (attributed.processed row member).imp_right fun ⟨env, event, signed, same⟩ =>
    ⟨env, event, signed.grow grows, same⟩
  subscriptions row member := (attributed.subscriptions row member).imp_right fun ⟨env, event, signed, same⟩ =>
    ⟨env, event, signed.grow grows, same⟩
  tenants row member := (attributed.tenants row member).imp_right fun cause => cause.imp
    (fun ⟨env, event, signed, enrolls⟩ => ⟨env, event, signed.grow grows, enrolls⟩)
    fun ⟨checkout, customer, asked, rest⟩ => ⟨checkout, customer, grows _ asked, rest⟩

theorem tenants_written {data : EventData} {change : Change} {env : Env} (asked : data.change? env database = some change)
    (changed : change.applied? database = some after) : after.tenants = database.tenants ∨
      WebhookFrame.Enrolls data ∧ ∃ tenant : Tenant, tenant.id = SerialDeliveries.drawnTenant env ∧
        after.tenants.rows = database.tenants.rows ++ [tenant] := by
  cases change with
  | enroll tenant row =>
    obtain ⟨enrolled, inserted, written⟩ := Option.bind_eq_some_iff.mp changed
    obtain ⟨_, _, rfl⟩ := insertTenant_ok.mp (toOption_eq_some.mp inserted)
    refine Or.inr ⟨WebhookFrame.enrolls_of_asked asked, tenant, SerialDeliveries.enrolled_id asked, ?_⟩
    rw [WebhookFrame.upsert_tenants (toOption_eq_some.mp written), Table.add_rows]
  | nothing => exact Or.inl (congrArg Database.tenants (Option.some.inj changed)).symm
  | upsert row => exact Or.inl (WebhookFrame.upsert_tenants (toOption_eq_some.mp changed))
  | create row =>
    obtain ⟨_, _, _, rfl⟩ := insertSubscription_ok.mp (toOption_eq_some.mp changed)
    exact Or.inl rfl
  | assign time loaded assigned =>
    obtain ⟨_, rfl⟩ := updateSubscription_ok.mp (toOption_eq_some.mp changed)
    exact Or.inl rfl

theorem Attributed.delivered {env : Env} {event : StripeEvent} (attributed : Attributed verify start past database)
    (signed : Signed verify past env event) (applied : event.applied? env database = some after) :
    Attributed verify start past after := by
  obtain ⟨written, processed, _, fits, rfl⟩ := applied?_eq_some.mp applied
  obtain ⟨_, usageEvents, marks⟩ := EventData.process?_extends processed
  obtain ⟨change, asked, changed⟩ := process?_eq_some.mp processed
  have of := change?_of asked
  refine ⟨fun other member => ?_, fun row member => ?_, fun row member => ?_, fun row member => ?_⟩
  · dsimp only at member
    rw [usageEvents] at member
    exact attributed.usageEvents other member
  · rw [Table.mem_rows, Table.add_rows, marks] at member
    rcases List.mem_append.mp member with before | last
    · exact attributed.processed row before
    · exact Or.inr ⟨env, event, signed, List.mem_singleton.mp last⟩
  · rw [Table.mem_rows] at member
    dsimp only at member
    have new (named : row.stripeSubscriptionId = event.data.subscriptionId?) : row ∈ start.subscriptions ∨
        ∃ env event, Signed verify past env event ∧ event.data.subscriptionId? = row.stripeSubscriptionId :=
      Or.inr ⟨env, event, signed, named.symm⟩
    cases applied?_written of changed with
    | kept _ same => exact attributed.subscriptions row (by rw [Table.mem_rows, ← same]; exact member)
    | added other _ named longer =>
      rw [longer] at member
      rcases List.mem_append.mp member with before | last
      · exact attributed.subscriptions row before
      · obtain rfl := List.mem_singleton.mp last
        exact new named
    | rewritten first stored rest _ named held replaced =>
      have kept {other : Subscription} (inside : other ∈ first ++ stored :: rest) : other ∈ database.subscriptions := by
        rw [Table.mem_rows, held]
        exact inside
      rw [replaced] at member
      rcases List.mem_append.mp member with before | later
      · exact attributed.subscriptions row (kept (List.mem_append_left _ before))
      · rcases List.mem_cons.mp later with rfl | rest
        · exact new (SerialDeliveries.rewritten_name of named)
        · exact attributed.subscriptions row (kept (List.mem_append_right _ (List.mem_cons_of_mem _ rest)))
  · rw [Table.mem_rows] at member
    dsimp only at member
    rcases tenants_written asked changed with same | ⟨enrolls, tenant, drawn, longer⟩
    · rw [same] at member
      exact attributed.tenants row member
    · rw [longer] at member
      rcases List.mem_append.mp member with before | last
      · exact attributed.tenants row before
      · obtain rfl := List.mem_singleton.mp last
        exact Or.inr (Or.inl ⟨env, event, signed, enrolls, drawn⟩)

theorem Attributed.recorded {incoming : ApiRequest} {metered : MeterCall} {cost : Int}
    (attributed : Attributed verify start past database) (sent : .request (.api incoming) ∈ past)
    (named : UUID.parse? incoming.credentials.xTenantId = some metered.tenantId)
    (endpoint : incoming.endpoint = .meter metered.idempotencyKey metered.request metered.reqIp metered.userAgent)
    (inserts : metered.record.Inserts incoming.env database cost) :
    Attributed verify start past { database with usageEvents := database.usageEvents.add _ inserts.fits } := by
  refine { attributed with usageEvents := fun event member => ?_ }
  rw [Table.mem_rows, Table.add_rows] at member
  rcases List.mem_append.mp member with before | last
  · exact attributed.usageEvents event before
  · obtain rfl := List.mem_singleton.mp last
    obtain ⟨info, admitted⟩ := inserts.admitted
    obtain ⟨_, _, _, priced, _⟩ := admission?_eq_some.mp admitted
    exact Or.inr ⟨incoming, sent, metered.request, named, endpoint, rfl, rfl, rfl, rfl, priced⟩

theorem Attributed.enlisted {checkout : CheckoutCall} {tenantId : UUID} (attributed : Attributed verify start past database)
    (sent : .request (.checkout checkout) ∈ past) (named : UUID.parse? checkout.credentials.xTenantId = some tenantId)
    (enlists : Enlists tenantId checkout.answers database after) : Attributed verify start past after := by
  obtain ⟨customer, answered, _, tenants, rfl, rows⟩ := enlisted_rows enlists
  refine { attributed with tenants := fun row member => ?_ }
  rw [Table.mem_rows, rows] at member
  obtain ⟨before, stored, rfl⟩ := List.mem_map.mp member
  split
  · next own => exact Or.inr (Or.inr ⟨checkout, customer, sent, named.trans (congrArg some (eq_of_beq own).symm), answered, rfl⟩)
  · exact attributed.tenants before stored

theorem Attributed.alters {call : Call} (attributed : Attributed verify start past database)
    (alters : Alters verify call database after) : Attributed verify start (past ++ [.request call]) after := by
  have sent : ServiceAction.request call ∈ past ++ [.request call] := List.mem_append_right _ (List.mem_singleton_self _)
  have attributed := attributed.grow fun _ member => List.mem_append_left [ServiceAction.request call] member
  cases alters with
  | kept => exact attributed
  | recorded asked named endpoint inserts => exact attributed.recorded (asked ▸ sent) named endpoint inserts
  | delivered asked verified unmarked applied => exact attributed.delivered ⟨_, _, asked ▸ sent, verified⟩ applied
  | enlisted asked named enlists => exact attributed.enlisted (asked ▸ sent) named enlists

structure Traced (verify : List UInt8 → String → Except PyError StripeEvent) (start : Database) (past : List ServiceAction)
    (state : ServiceState) : Prop where
  mirrors : Mirrors state.store.database state.store.redis
  attributed : Attributed verify start past state.store.database

theorem traced_step (past : List ServiceAction) (action : ServiceAction) (state next : ServiceState) (_ : True)
    (traced : Traced verify start past state) (taken : (service verifyApiKey verify).step action state = some next) :
    Traced verify start (past ++ [action]) next := by
  have kept := kept_step ⟨traced.mirrors, .refl _⟩ taken
  refine ⟨kept.mirrors, ?_⟩
  cases action with
  | request call =>
    obtain rfl := Option.some.inj taken
    exact traced.attributed.alters (call_changes call traced.mirrors.honest).database
  | elapse seconds =>
    obtain rfl := Option.some.inj taken
    exact traced.attributed.grow fun _ => List.mem_append_left _
  | evict key =>
    obtain rfl := Option.some.inj taken
    exact traced.attributed.grow fun _ => List.mem_append_left _

/-- From an empty Redis on, every row that a run has written is what one of its requests asked for. -/
theorem writes_attributed {state final : ServiceState} {schedule : List ServiceAction}
    (empty : ∀ key, state.store.redis key = none) (ran : (service verifyApiKey verify).run schedule state = some final) :
    Attributed verify state.store.database schedule final.store.database := by
  have mirrors : Mirrors state.store.database state.store.redis := .initial empty
  exact (Machine.run_history traced_step (fun _ _ => trivial) ⟨mirrors, .initial _⟩ ran).attributed

def counted : ServiceAction := .request (.api
  { env := Seed.env 20
    credentials := ⟨Seed.tenant.id.str, none⟩
    endpoint := .meter "key" (Seed.apiCall "key").request none none })

def counting : ServiceState := ((service unchecked unsigned).run [counted] ⟨Seed.store, []⟩).get rfl

theorem counted_attributed : counting.store.database.usageEvents.rows.length = 1 ∧
    Attributed unsigned Seed.database [counted] counting.store.database := by
  have ran : (service unchecked unsigned).run [counted] ⟨Seed.store, []⟩ = some counting := (Option.some_get _).symm
  exact ⟨by decide +kernel, writes_attributed (fun _ => rfl) ran⟩

end MeteringBilling.Attribution
