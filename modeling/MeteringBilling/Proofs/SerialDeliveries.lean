import MeteringBilling.Library.History
import MeteringBilling.Proofs.WebhookFrame
import MeteringBilling.Proofs.WebhookSteps

/-! Deliveries in flight at the same time, each of an event of its own about a subscription of its
own: however their steps fall, the tables end as if those that succeed had been served one after
another, in the order of their commits. -/

namespace MeteringBilling.SerialDeliveries

/-- The subscription a handler looks for, if it looks for one. A checkout without a subscription
looks for a row without one. -/
def subject? : EventData → Option (Option String)
  | .checkoutCompleted session => some session.subscription
  | .paymentSucceeded invoice | .paymentFailed invoice => (invoice.subscription.join.filter (· ≠ "")).map some
  | .subscriptionCreated subscription | .subscriptionUpdated subscription | .subscriptionDeleted subscription =>
    some (some subscription.id)
  | .subscriptionTrialWillEnd _ | .invoiceUpcoming _ | .unhandled _ => none

def namedTenant? : EventData → Option UUID
  | .checkoutCompleted session => ((session.metadata.bind Metadata.tenantId).filter (· ≠ "")).bind UUID.parse?
  | _ => none

def drawnTenant (env : Env) : UUID := env.uuid4 env.attempt .tenant

/-- No two deliveries are of one event or about one subscription, and no checkout names a tenant
whose identifier another one draws. -/
structure Separate {ι : Type} (incoming : ι → Delivery) : Prop where
  events : ∀ delivery other, delivery ≠ other → (incoming delivery).event.id ≠ (incoming other).event.id
  subjects : ∀ delivery other, delivery ≠ other → ∀ own ∈ subject? (incoming delivery).event.data,
    own ∉ subject? (incoming other).event.data
  tenants : ∀ delivery other, delivery ≠ other →
    drawnTenant (incoming delivery).env ∉ namedTenant? (incoming other).event.data

section

variable {database after : Database} {data : EventData} {change : Change} {env : Env} {own other : Option String}

theorem rewritten_name {stored : Subscription} (of : change.Of own database) (named : stored.stripeSubscriptionId = own) :
    (change.rewritten stored).stripeSubscriptionId = own := by
  cases change with
  | nothing | create _ | upsert _ | enroll _ _ => exact named
  | assign time loaded assigned =>
    obtain ⟨id, rfl, found⟩ := of
    obtain ⟨_, _, name⟩ := flushed_identity time loaded assigned loaded
    exact name.trans (subscription?_id found)

theorem others_applied (of : change.Of own database) (applied : change.applied? database = some after)
    (different : other ≠ own) : after.subscriptionsOf other = database.subscriptionsOf other := by
  unfold Database.subscriptionsOf Table.select
  cases applied?_written of applied with
  | kept _ same => rw [same]
  | added row _ named longer =>
    have unselected : (row.stripeSubscriptionId == other) = false := by
      rw [named]
      exact beq_eq_false_iff_ne.mpr different.symm
    simp [longer, unselected]
  | rewritten first stored rest _ named held replaced =>
    have name := rewritten_name of named
    have unselected : (own == other) = false := beq_eq_false_iff_ne.mpr different.symm
    simp [held, replaced, name, named, unselected]

theorem subject_of_asked (asked : data.change? env database = some change) :
    change = .nothing ∨ subject? data = some data.subscriptionId? := by
  cases data with
  | checkoutCompleted session => exact Or.inr rfl
  | paymentSucceeded invoice | paymentFailed invoice =>
    obtain ⟨own, read, ⟨_, same⟩ | ⟨row, found, _⟩⟩ := invoice_asks asked
    · exact Or.inl same
    · obtain ⟨id, rfl, _⟩ := Option.bind_eq_some_iff.mp found
      have named := invoice_subscription read
      have present := (Option.filter_eq_some_iff.mp named).1
      exact Or.inr (by rw [subject?, named, EventData.subscriptionId?, present, Option.map_some])
  | subscriptionCreated subscription | subscriptionUpdated subscription | subscriptionDeleted subscription =>
    exact Or.inr rfl
  | subscriptionTrialWillEnd subscription => exact Or.inl (trialWillEnd_asks asked)
  | invoiceUpcoming invoice => exact Or.inl (upcoming_asks asked)
  | unhandled type => exact Or.inl (Option.some.inj asked).symm

theorem enrolled_id {tenant : Tenant} {row : Subscription} (asked : data.change? env database = some (.enroll tenant row)) :
    tenant.id = drawnTenant env := by
  cases data with
  | checkoutCompleted session =>
    change session.change? env database = _ at asked
    unfold CheckoutSession.change? at asked
    split at asked
    · cases asked
    split at asked
    · cases asked
    · split at asked <;> cases asked
    · obtain ⟨customer, _, asked⟩ := Option.bind_eq_some_iff.mp asked
      obtain ⟨email, _, asked⟩ := Option.bind_eq_some_iff.mp asked
      split at asked
      · cases asked
      · cases asked
        rfl
  | _ => exact (WebhookFrame.enrolls_of_asked asked).elim

theorem tenant_applied (asked : data.change? env database = some change) (applied : change.applied? database = some after)
    {tenantId : UUID} (different : tenantId ≠ drawnTenant env) : after.tenant? tenantId = database.tenant? tenantId := by
  have kept (same : after.tenants = database.tenants) : after.tenant? tenantId = database.tenant? tenantId := by
    rw [Database.tenant?, Database.tenant?, same]
  cases change with
  | nothing => exact kept (congrArg Database.tenants (Option.some.inj applied)).symm
  | upsert row => exact kept (WebhookFrame.upsert_tenants (toOption_eq_some.mp applied))
  | enroll tenant row =>
    obtain ⟨enrolled, inserted, written⟩ := Option.bind_eq_some_iff.mp applied
    obtain ⟨_, fits, rfl⟩ := insertTenant_ok.mp (toOption_eq_some.mp inserted)
    have unselected : (tenant.id == tenantId) = false := by
      rw [enrolled_id asked]
      exact beq_eq_false_iff_ne.mpr different.symm
    rw [Database.tenant?, WebhookFrame.upsert_tenants (toOption_eq_some.mp written)]
    dsimp only
    rw [Table.find?_add, unselected]
    exact Option.or_none
  | create row =>
    obtain ⟨_, _, _, rfl⟩ := insertSubscription_ok.mp (toOption_eq_some.mp applied)
    rfl
  | assign time loaded assigned =>
    obtain ⟨_, rfl⟩ := updateSubscription_ok.mp (toOption_eq_some.mp applied)
    rfl

theorem subscription?_alike {id : String} (rows : after.subscriptionsOf (some id) = database.subscriptionsOf (some id)) :
    after.subscription? id = database.subscription? id := by
  have head (database : Database) : database.subscription? id = (database.subscriptionsOf (some id)).head? := by
    rw [subscriptionsOf_eq, Option.head?_toList]
  rw [head, head, rows]

theorem asked_alike (rows : ∀ own ∈ subject? data, after.subscriptionsOf own = database.subscriptionsOf own)
    (tenants : ∀ tenantId ∈ namedTenant? data, after.tenant? tenantId = database.tenant? tenantId) :
    data.change? env after = data.change? env database := by
  cases data with
  | checkoutCompleted session =>
    have ambiguous : session.Ambiguous after ↔ session.Ambiguous database := by
      unfold CheckoutSession.Ambiguous
      rw [rows _ rfl]
    have named : session.named? after = session.named? database := by
      unfold CheckoutSession.named?
      cases text : (session.metadata.bind Metadata.tenantId).filter (· ≠ "") with
      | none => rfl
      | some text' =>
        cases parsed : UUID.parse? text' with
        | none => simp [parsed]
        | some tenantId =>
          have same := tenants tenantId (by rw [namedTenant?, text]; exact parsed)
          simp only [Option.map_some, parsed, Option.filter, same]
    change session.change? env after = session.change? env database
    simp only [CheckoutSession.change?, named, ambiguous]
  | paymentSucceeded invoice | paymentFailed invoice =>
    change invoice.change? _ env after = invoice.change? _ env database
    unfold Invoice.change?
    cases read : invoiceSubscription invoice with
    | error exc => rfl
    | ok own =>
      cases own with
      | none => rfl
      | some id =>
        have same := subscription?_alike (rows (some id) (by rw [subject?, invoice_subscription read]; rfl))
        simp only [Except.toOption, Option.bind_eq_bind, Option.bind_some, same]
  | subscriptionCreated subscription =>
    change subscription.created? env after = subscription.created? env database
    unfold StripeSubscription.created?
    rw [subscription?_alike (rows _ rfl)]
  | subscriptionUpdated subscription =>
    change subscription.updated? env after = subscription.updated? env database
    unfold StripeSubscription.updated?
    rw [subscription?_alike (rows _ rfl)]
  | subscriptionDeleted subscription =>
    change subscription.deleted? env after = subscription.deleted? env database
    unfold StripeSubscription.deleted?
    rw [subscription?_alike (rows _ rfl)]
  | subscriptionTrialWillEnd subscription => rfl
  | invoiceUpcoming invoice => rfl
  | unhandled type => rfl

end

variable {ι : Type} {incoming : ι → Delivery} {start : Store} {order : List ι} {site next : Site ι} {delivery : ι}

theorem Separate.undisturbed (separate : Separate incoming) {other : ι} (different : other ≠ delivery) {change : Change}
    {database after written : Database}
    (asked : (incoming delivery).event.data.change? (incoming delivery).env database = some change)
    (applied : change.applied? database = some written)
    (subscriptions : after.subscriptions = written.subscriptions) (tenants : after.tenants = written.tenants) :
    (incoming other).event.data.change? (incoming other).env after =
      (incoming other).event.data.change? (incoming other).env database := by
  apply asked_alike
  · intro own looked
    have same : after.subscriptionsOf own = written.subscriptionsOf own := by
      rw [Database.subscriptionsOf, subscriptions]
      rfl
    rw [same]
    rcases subject_of_asked asked with rfl | subject
    · rw [Option.some.inj applied]
    · refine others_applied (change?_of asked) applied ?_
      rintro rfl
      exact separate.subjects other delivery different _ looked subject
  · intro tenantId named
    have same : after.tenant? tenantId = written.tenant? tenantId := by
      rw [Database.tenant?, tenants]
      rfl
    rw [same]
    refine tenant_applied asked applied ?_
    rintro rfl
    exact separate.tenants delivery other different.symm named

/-- What a delivery has read is still so, and its event is not marked. -/
inductive Current (delivery : Delivery) (database : Database) : Stage → Prop
  | arrived : Current delivery database .arrived
  | unprocessed (unmarked : database.processedRows delivery.event.id = []) : Current delivery database .unprocessed
  | planned {change : Change} (unmarked : database.processedRows delivery.event.id = [])
      (asked : delivery.event.data.change? delivery.env database = some change) : Current delivery database (.planned change)
  | written {change : Change} (unmarked : database.processedRows delivery.event.id = [])
      (asked : delivery.event.data.change? delivery.env database = some change) : Current delivery database (.written change)
  | finished {reply : Except PyError WebhookStatus} : Current delivery database (.finished reply)

/-- The deliveries that have succeeded, served one after another: each succeeds, and the last one
leaves these tables. -/
structure Serves (incoming : ι → Delivery) (start : Store) (order : List ι) (final : Database) : Prop where
  tables : ∃ store, deliveries.run (order.map incoming) start = some store ∧ store.database = final
  succeed : deliveries.Each (fun delivery store => delivery.reply store = .ok .success) (order.map incoming) start

theorem Serves.append {before after : Database} (serves : Serves incoming start order before)
    (quiet : (incoming delivery).env.Quiet) (unmarked : before.processedRows (incoming delivery).event.id = [])
    (applied : (incoming delivery).event.applied? (incoming delivery).env before = some after) :
    Serves incoming start (order ++ [delivery]) after := by
  obtain ⟨⟨store, ran, rfl⟩, succeed⟩ := serves
  obtain ⟨answered, left⟩ := delivered_first quiet unmarked applied
  have taken : deliveries.step (incoming delivery) store = some ((incoming delivery).after store) := rfl
  constructor
  · refine ⟨_, ?_, left⟩
    rw [List.map_append]
    exact Machine.run_trans ran (Machine.run_step taken (Machine.run_nil _))
  · rw [List.map_append]
    exact succeed.append ran fun next _ => ⟨answered, trivial⟩

/-- The tables are those of serving the deliveries that have succeeded so far. -/
structure Holds (incoming : ι → Delivery) (start : Store) (order : List ι) (site : Site ι) : Prop where
  distinct : order.Nodup
  committed : ∀ delivery, delivery ∈ order ↔ site.stage delivery = .finished (.ok .success)
  serves : Serves incoming start order site.store.database
  current : ∀ delivery, Current (incoming delivery) site.store.database (site.stage delivery)

theorem pending {stage : Stage} (reached : site.stage delivery = stage) (unfinished : ∀ reply, stage ≠ .finished reply) :
    site.stage delivery ≠ .finished (.ok .success) := by
  rw [reached]
  exact unfinished _

namespace Holds

theorem initial (arrived : ∀ delivery, site.stage delivery = .arrived) : Holds incoming site.store [] site where
  distinct := List.nodup_nil
  committed delivery := by simp [arrived]
  serves := ⟨⟨_, rfl, rfl⟩, trivial⟩
  current delivery := by
    rw [arrived]
    exact .arrived

variable [DecidableEq ι]

theorem enter (holds : Holds incoming start order site) {stage : Stage} {redis : Redis}
    (open' : site.stage delivery ≠ .finished (.ok .success)) (failed : stage ≠ .finished (.ok .success))
    (current : Current (incoming delivery) site.store.database stage) :
    Holds incoming start order { site.become delivery stage with store := { site.store with redis } } where
  distinct := holds.distinct
  committed other := by
    rw [holds.committed]
    change _ ↔ (site.become delivery stage).stage other = _
    rw [become_stage]
    split
    · next same =>
      subst same
      exact iff_of_false open' failed
    · exact Iff.rfl
  serves := holds.serves
  current other := by
    change Current _ _ ((site.become delivery stage).stage other)
    rw [become_stage]
    split
    · next same =>
      subst same
      exact current
    · exact holds.current other

theorem commit (holds : Holds incoming start order site) (separate : Separate incoming)
    (quiet : (incoming delivery).env.Quiet) {change : Change} {after : Database}
    (stage : site.stage delivery = .written change)
    (committed : change.committed? (incoming delivery).event (incoming delivery).env site.store.database = some after) :
    Holds incoming start (order ++ [delivery])
      { site.become delivery (.finished (.ok .success)) with store := { site.store with database := after } } := by
  have absent : delivery ∉ order := by
    rw [holds.committed, stage]
    simp
  have current := holds.current delivery
  rw [stage] at current
  obtain ⟨unmarked, asked⟩ : site.store.database.processedRows (incoming delivery).event.id = [] ∧
      (incoming delivery).event.data.change? (incoming delivery).env site.store.database = some change := by
    cases current with
    | written unmarked asked => exact ⟨unmarked, asked⟩
  have applied : (incoming delivery).event.applied? (incoming delivery).env site.store.database = some after := by
    rw [applied?_eq, asked, Option.bind_some, committed]
  obtain ⟨written, changed, marked⟩ := Option.bind_eq_some_iff.mp committed
  obtain ⟨_, _, final⟩ := insertProcessedEvent_ok.mp (toOption_eq_some.mp marked)
  refine ⟨?_, ?_, ?_, ?_⟩
  · exact holds.distinct.append (List.nodup_singleton _) (List.disjoint_singleton.mpr absent)
  · intro other
    change _ ↔ (site.become delivery _).stage other = _
    rw [become_stage, List.mem_append, List.mem_singleton, holds.committed]
    split
    · next same => exact iff_of_true (Or.inr same) rfl
    · next different => exact or_iff_left different
  · exact holds.serves.append quiet unmarked applied
  · intro other
    change Current _ _ ((site.become delivery _).stage other)
    rw [become_stage]
    split
    · exact .finished
    · next different =>
      have same : (incoming other).event.data.change? (incoming other).env after =
          (incoming other).event.data.change? (incoming other).env site.store.database :=
        separate.undisturbed different asked changed (by rw [final]) (by rw [final])
      have rows := applied?_processedRows applied (incoming other).event.id
      rw [if_neg (separate.events delivery other (Ne.symm different)), List.append_nil] at rows
      have current := holds.current other
      generalize site.stage other = stage at current
      cases current with
      | arrived => exact .arrived
      | unprocessed unmarked => exact .unprocessed (rows.trans unmarked)
      | planned unmarked asked => exact .planned (rows.trans unmarked) (same.trans asked)
      | written unmarked asked => exact .written (rows.trans unmarked) (same.trans asked)
      | finished => exact .finished

theorem look (holds : Holds incoming start order site) (arrived : site.stage delivery = .arrived) (envs : ι → Env) :
    Holds incoming start order
      (site.become delivery (isProcessedStep (incoming delivery).event envs delivery site)) := by
  have open' := pending arrived (by simp)
  by_cases unmarked : site.store.database.processedRows (incoming delivery).event.id = []
  · rw [isProcessedStep_unmarked delivery unmarked]
    exact holds.enter open' (by simp) (.unprocessed unmarked)
  · rw [isProcessedStep_marked delivery unmarked]
    refine holds.enter open' ?_ .finished
    split <;> simp

theorem read (holds : Holds incoming start order site) (unprocessed : site.stage delivery = .unprocessed) :
    Holds incoming start order
      (site.become delivery (readStep (incoming delivery).event (fun other => (incoming other).env) delivery site)) := by
  have open' := pending unprocessed (by simp)
  have current := holds.current delivery
  rw [unprocessed] at current
  unfold readStep
  cases current with
  | unprocessed unmarked =>
    split
    · next asked => exact holds.enter open' (by simp) (.planned unmarked asked)
    · exact holds.enter open' (by simp) .finished

theorem write (holds : Holds incoming start order site) {change : Change} (planned : site.stage delivery = .planned change)
    (envs : ι → Env) : Holds incoming start order (writeStep envs delivery change site) := by
  have open' := pending planned (by simp)
  have current := holds.current delivery
  rw [planned] at current
  unfold writeStep
  cases current with
  | planned unmarked asked =>
    split
    · exact holds.enter open' (by simp) (.written unmarked asked)
    · exact holds.enter open' (by simp) .finished

theorem mark (holds : Holds incoming start order site) (separate : Separate incoming)
    (quiet : (incoming delivery).env.Quiet) {change : Change} (written : site.stage delivery = .written change) :
    let next := markStep (incoming delivery).event (fun other => (incoming other).env) delivery change site
    Holds incoming start order next ∨ Holds incoming start (order ++ [delivery]) next := by
  unfold markStep
  split
  · next committed => exact Or.inr (holds.commit separate quiet written committed)
  · exact Or.inl (holds.enter (pending written (by simp)) (by simp) .finished)

variable [Fintype ι]

/-- What one step of a delivery carries on: it enters a stage, or it is a mark that is committed. -/
theorem step (separate : Separate incoming) (quiet : ∀ delivery, (incoming delivery).env.Quiet) {action : WebhookAction ι}
    (holds : Holds incoming start order site) (taken : (concurrentDeliveries incoming).step action site = some next) :
    Holds incoming start order next ∨
      ∃ delivery, action = .mark delivery ∧ Holds incoming start (order ++ [delivery]) next := by
  cases action with
  | lookup delivery =>
    simp only [concurrentDeliveries, concurrentWebhooks] at taken
    split at taken
    · next arrived => exact Or.inl (Option.some.inj taken ▸ holds.look arrived _)
    · cases taken
  | read delivery =>
    simp only [concurrentDeliveries, concurrentWebhooks] at taken
    split at taken
    · next unprocessed => exact Or.inl (Option.some.inj taken ▸ holds.read unprocessed)
    · cases taken
  | write delivery =>
    simp only [concurrentDeliveries, concurrentWebhooks] at taken
    split at taken
    · next planned =>
      split at taken
      · exact Or.inl (Option.some.inj taken ▸ holds.write planned _)
      · cases taken
    · cases taken
  | mark delivery =>
    simp only [concurrentDeliveries, concurrentWebhooks] at taken
    split at taken
    · next written =>
      obtain rfl := Option.some.inj taken
      exact (holds.mark separate (quiet delivery) written).imp id fun after => ⟨delivery, rfl, after⟩
    · cases taken
  | fail delivery =>
    simp only [concurrentDeliveries, concurrentWebhooks] at taken
    split at taken
    · next stage => exact Or.inl (Option.some.inj taken ▸ holds.enter (pending stage (by simp)) (by simp) .finished)
    · next stage => exact Or.inl (Option.some.inj taken ▸ holds.enter (pending stage (by simp)) (by simp) .finished)
    · next stage => exact Or.inl (Option.some.inj taken ▸ holds.enter (pending stage (by simp)) (by simp) .finished)
    · cases taken

end Holds

def Committing (incoming : ι → Delivery) (start : Store) (past : List (WebhookAction ι)) (site : Site ι) : Prop :=
  ∃ order : List ι, (order.map WebhookAction.mark).Sublist past ∧ Holds incoming start order site

theorem carried [DecidableEq ι] [Fintype ι] (separate : Separate incoming)
    (quiet : ∀ delivery, (incoming delivery).env.Quiet) (past : List (WebhookAction ι)) (action : WebhookAction ι)
    (site next : Site ι) (_ : True) (committing : Committing incoming start past site)
    (taken : (concurrentDeliveries incoming).step action site = some next) :
    Committing incoming start (past ++ [action]) next := by
  obtain ⟨order, marks, holds⟩ := committing
  rcases holds.step separate quiet taken with holds | ⟨delivery, rfl, holds⟩
  · exact ⟨order, marks.trans (List.sublist_append_left _ _), holds⟩
  · refine ⟨order ++ [delivery], ?_, holds⟩
    rw [List.map_append]
    exact marks.append_right _

/-- Whatever the order of their steps, deliveries about subscriptions of their own leave the tables
that serving the successful ones one after another leaves, in the order of their commits, and served
so each of them succeeds as well. -/
theorem serializable [DecidableEq ι] [Fintype ι] (separate : Separate incoming)
    (quiet : ∀ delivery, (incoming delivery).env.Quiet) (arrived : ∀ delivery, site.stage delivery = .arrived)
    {schedule : List (WebhookAction ι)} {final : Site ι}
    (ran : (concurrentDeliveries incoming).run schedule site = some final) :
    ∃ order : List ι, order.Nodup ∧ (order.map WebhookAction.mark).Sublist schedule ∧
      (∀ delivery, delivery ∈ order ↔ final.stage delivery = .finished (.ok .success)) ∧
      Serves incoming site.store order final.store.database := by
  obtain ⟨order, marks, holds⟩ :=
    Machine.run_history (carried separate quiet) (fun _ _ => trivial) ⟨[], .slnil, .initial arrived⟩ ran
  exact ⟨order, holds.distinct, marks, holds.committed, holds.serves⟩

def pair (enrolling : Bool) : Delivery :=
  if enrolling then
    ⟨Seed.env 20, ⟨"evt_1", .checkoutCompleted
      { metadata := none, customer := some "cus_1", subscription := some "sub_2", displayItems := none },
    Seed.payload⟩⟩
  else ⟨Seed.env 30,
    ⟨"evt_2", .paymentFailed { id := none, subscription := some (some "sub_1"), amountDue := none }, Seed.payload⟩⟩

def interleaved : List (WebhookAction Bool) :=
  [.lookup true, .lookup false, .read true, .read false, .write true, .write false, .mark false, .mark true]

theorem pair_separate : Separate pair where
  events delivery other different := by cases delivery <;> cases other <;> first | exact (different rfl).elim | decide
  subjects delivery other different := by
    cases delivery <;> cases other <;> first | exact (different rfl).elim | simp [pair, subject?]
  tenants delivery other different := by
    cases delivery <;> cases other <;> first | exact (different rfl).elim | simp [pair, namedTenant?]

theorem pair_serializable : ∃ final : Site Bool,
    (concurrentDeliveries pair).run interleaved ⟨Seed.paid, fun _ => .arrived⟩ = some final ∧
      (∀ delivery, final.stage delivery = .finished (.ok .success)) ∧
      ∃ order : List Bool, order.Nodup ∧ (order.map WebhookAction.mark).Sublist interleaved ∧
        (∀ delivery, delivery ∈ order ↔ final.stage delivery = .finished (.ok .success)) ∧
        Serves pair Seed.paid order final.store.database := by
  have stages : ((concurrentDeliveries pair).run interleaved ⟨Seed.paid, fun _ => .arrived⟩).map
      (fun final => (final.stage true, final.stage false)) = some (.finished (.ok .success), .finished (.ok .success)) := by
    decide
  obtain ⟨final, ran, same⟩ := Option.map_eq_some_iff.mp stages
  obtain ⟨first, second⟩ := Prod.mk.inj same
  refine ⟨final, ran, fun delivery => by cases delivery <;> assumption, ?_⟩
  apply serializable pair_separate (fun delivery => by cases delivery <;> exact Seed.env_quiet _) (fun _ => rfl) ran

end MeteringBilling.SerialDeliveries
