import MeteringBilling.Proofs.Acceptance
import MeteringBilling.Proofs.Cancellation
import MeteringBilling.Proofs.Recording

/-! Whether the gate of `check_quota` follows the status that Stripe reported last. -/

namespace MeteringBilling.Access

open Effect Cancellation

def gateMessages : List String :=
  ["No active subscription found", "Subscription past due - payment required", "Subscription canceled"]

/-- A check on a session of its own is not stopped by the subscription. -/
def GetsPast (call : RecordCall) (reader : Env) (store : Store) : Prop :=
  ∀ message ∈ gateMessages,
    (QuotaService.checkQuota call.tenantId call.usageType call.qty reader store.open).1 ≠ .error (.paymentRequired message)

structure Update where
  env : Env
  eventId : String
  subscription : StripeSubscription
  payload : Option String

def Update.delivery (update : Update) : Delivery :=
  ⟨update.env, ⟨update.eventId, .subscriptionUpdated update.subscription, update.payload⟩⟩

structure Reported where
  store : Store
  status? : Option String

def updates : Machine Update Reported where
  step update state := some ⟨update.delivery.after state.store, some update.subscription.status⟩

/-- The gate is open exactly if the status that was reported last lets a tenant meter. -/
def Follows (call : RecordCall) (reader : Env) (state : Reported) : Prop :=
  ∀ status ∈ state.status?, GetsPast call reader state.store ↔ Restoring status

/-- The event is new, its status is one the enumeration knows, the handler can read the rest
of it, its payload can be stored, and so is the plan it moves the subscription to. -/
structure Accepted (update : Update) (database : Database) : Prop where
  quiet : update.env.Quiet
  unprocessed : database.processedRows update.eventId = []
  known : update.subscription.Known
  readable : update.subscription.Readable
  serialized : update.payload ≠ none
  stored : ∀ row, database.subscription? update.subscription.id = some row →
    let planId := update.subscription.updatedPlan update.env.settings row.planId
    planId ≠ row.planId → database.hasPlan planId = true

/-- The event is accepted, or the access that the tenant has is what its status gives. -/
def Settled (tenantId : UUID) (update : Update) (state : Reported) : Prop :=
  Accepted update state.store.database ∨
    ((state.store.database.activeSubscription? tenantId).isSome ↔ Restoring update.subscription.status)

def Owns (tenantId : UUID) (id : String) (database : Database) : Prop :=
  ∃ row ∈ database.subscriptions, row.tenantId = tenantId ∧ row.stripeSubscriptionId = some id

variable {tenantId : UUID} {id : String} {call : RecordCall} {reader : Env} {store : Store} {database : Database}

theorem getsPast_iff (quiet : reader.Quiet) :
    GetsPast call reader store ↔ (store.database.activeSubscription? call.tenantId).isSome := by
  have live : store.open.aborted = false := rfl
  unfold GetsPast
  rw [QuotaService.checkQuota, bind_ok (getActiveByTenant_quiet quiet live call.tenantId)]
  change (∀ message ∈ gateMessages, _) ↔ (store.open.working.activeSubscription? call.tenantId).isSome
  cases active : store.open.working.activeSubscription? call.tenantId with
  | none => exact iff_of_false (fun past => past _ (List.mem_cons_self) rfl) Bool.false_ne_true
  | some subscription =>
    refine iff_of_true ?_ rfl
    have admitted : Effect.ofExcept (QuotaService.checkStatus subscription.status) reader store.open = (.ok (), store.open) := by
      rw [ofExcept_apply, checkStatus_of_active active]
    dsimp only
    rw [bind_ok admitted, bind_ok (getById_quiet quiet live subscription.planId)]
    cases store.open.working.plan? subscription.planId with
    | none =>
      intro message gated same
      obtain rfl : "Plan not found" = message := PyError.paymentRequired.inj (Except.error.inj same)
      exact absurd gated (by decide)
    | some plan =>
      dsimp only
      rw [bind_ok (now_apply .checkQuota), UsageRepository.getMonthlyUsage, bind_ok (query_quiet quiet live _ _)]
      intro message gated same
      cases same

theorem active_iff_metering (owns : Owns tenantId id database) :
    (database.activeSubscription? tenantId).isSome ↔ Metering id database := by
  obtain ⟨row, member, owner, identified⟩ := owns
  constructor
  · intro active
    obtain ⟨found, active⟩ := Option.isSome_iff_exists.mp active
    obtain ⟨stored, selected⟩ := Table.find?_mem active
    rw [Bool.and_eq_true] at selected
    have same : found = row := Table.eq_of_clash stored member (Or.inr (Or.inl ((eq_of_beq selected.1).trans owner.symm)))
    exact ⟨found, stored, same ▸ identified, selected.2⟩
  · intro metering
    obtain ⟨found, stored, named, meters⟩ := metering
    have clash : Keyed.Clash found row :=
      Or.inr (Or.inr ⟨by rw [named]; exact Option.some_ne_none id, named.trans identified.symm⟩)
    have same : found = row := Table.eq_of_clash stored member clash
    refine List.find?_isSome.mpr ⟨found, stored, ?_⟩
    rw [Bool.and_eq_true]
    exact ⟨beq_iff_eq.mpr (same ▸ owner), meters⟩

theorem owns_after (update : Update) (owns : Owns tenantId id store.database) :
    Owns tenantId id (update.delivery.after store).database := by
  rcases commits_cases update.delivery store with ⟨_, applied⟩ | ⟨_, same⟩
  · obtain ⟨written, processed, _, _, final⟩ := applied?_eq_some.mp applied
    rw [final]
    change Owns tenantId id written
    obtain ⟨change, asked, applied⟩ := process?_eq_some.mp processed
    change update.subscription.updated? update.env store.database = some change at asked
    rcases updated_asks asked with ⟨_, rfl⟩ | ⟨loaded, assigned, _, _, rfl⟩
    · obtain rfl := Option.some.inj applied
      exact owns
    · obtain ⟨_, rfl⟩ := updateSubscription_ok.mp (toOption_eq_some.mp applied)
      obtain ⟨row, member, owner, identified⟩ := owns
      obtain ⟨_, sameOwner, sameName⟩ := flushed_identity update.env.transactionStart loaded assigned row
      refine ⟨_, List.mem_map_of_mem member, ?_⟩
      dsimp only
      split
      · exact ⟨sameOwner.trans owner, sameName.trans identified⟩
      · exact ⟨owner, identified⟩
  · rw [same]
    exact owns

theorem commits_iff {update : Update} (quiet : update.env.Quiet) (owns : Owns tenantId update.subscription.id store.database) :
    update.delivery.Commits store ↔ Accepted update store.database := by
  obtain ⟨row, member, _, identified⟩ := owns
  obtain ⟨_, found, _⟩ := Option.map_eq_some_iff.mp (standing?_eq_some.mpr ⟨row, member, identified, rfl⟩)
  constructor
  · intro commits
    obtain ⟨written, processed, serialized⟩ := committed_processed commits
    obtain ⟨change, asked, applied⟩ := process?_eq_some.mp processed
    change update.subscription.updated? update.env store.database = some change at asked
    rcases updated_asks asked with ⟨absent, _⟩ | ⟨loaded, assigned, stored, computed, rfl⟩
    · rw [found] at absent
      cases absent
    · obtain ⟨known, readable⟩ := assigned_ok.mp ⟨assigned, computed⟩
      obtain ⟨plan, _⟩ := updateSubscription_ok.mp (toOption_eq_some.mp applied)
      refine ⟨quiet, commits.1, known, readable, serialized, ?_⟩
      intro other held
      obtain rfl := Option.some.inj (stored.symm.trans held)
      exact (assignUpdate_ok computed).2 ▸ plan
  · intro accepted
    obtain ⟨assigned, computed⟩ := assigned_ok.mpr ⟨accepted.known, accepted.readable⟩
    have plan := accepted.stored _ found
    rw [← (assignUpdate_ok computed).2] at plan
    have processed : ∃ written, update.delivery.event.data.process? update.env store.database = some written := by
      refine ⟨_, process?_eq_some.mpr ⟨.assign update.env.transactionStart _ assigned, ?_,
        toOption_eq_some.mpr (updateSubscription_ok.mpr ⟨plan, rfl⟩)⟩⟩
      change update.subscription.updated? update.env store.database = _
      rw [StripeSubscription.updated?, found]
      exact Option.bind_eq_some_iff.mpr ⟨assigned, toOption_eq_some.mpr computed, rfl⟩
    obtain ⟨written, processed⟩ := processed
    obtain ⟨_, applied⟩ := applied?_unprocessed accepted.unprocessed accepted.serialized processed
    exact commits_of_success (delivered_first quiet accepted.unprocessed applied).1

theorem metering_after_commit {update : Update} (commits : update.delivery.Commits store)
    (owns : Owns tenantId update.subscription.id store.database) :
    Metering update.subscription.id (update.delivery.after store).database ↔ Restoring update.subscription.status := by
  obtain ⟨row, member, _, identified⟩ := owns
  have stands := standing?_eq_some.mpr ⟨row, member, identified, rfl⟩
  obtain ⟨loaded, found, _⟩ := Option.map_eq_some_iff.mp stands
  obtain ⟨written, processed, _⟩ := committed_processed commits
  obtain ⟨status, known⟩ := updated_known found processed
  have turned := delivered_standing? update.delivery store update.subscription.id
  rw [if_pos ⟨commits, rfl⟩, stands] at turned
  change _ = (do let status ← SubscriptionStatus.ofValue? update.subscription.status; pure _) at turned
  rw [known] at turned
  rw [metering_iff, turned, restoring_iff, known]
  constructor
  · intro metering
    obtain ⟨_, same, meters⟩ := metering
    exact ⟨status, rfl, by rw [← Option.some.inj same] at meters; exact meters⟩
  · intro metering
    obtain ⟨_, same, meters⟩ := metering
    obtain rfl := Option.some.inj same
    exact ⟨_, rfl, meters⟩

theorem follows_of_settled {update : Update} {state : Reported} (quiet : reader.Quiet)
    (owns : Owns call.tenantId update.subscription.id state.store.database) (settled : Settled call.tenantId update state) :
    Follows call reader ⟨update.delivery.after state.store, some update.subscription.status⟩ := by
  intro status carried
  obtain rfl := Option.some.inj carried
  rw [getsPast_iff quiet]
  rcases commits_cases update.delivery state.store with ⟨commits, _⟩ | ⟨fails, same⟩
  · rw [active_iff_metering (owns_after update owns)]
    exact metering_after_commit commits owns
  · rw [same]
    rcases settled with accepted | agreed
    · exact (fails ((commits_iff accepted.quiet owns).mpr accepted)).elim
    · exact agreed

theorem settled_of_follows {update : Update} {state : Reported} (quiet : reader.Quiet) (working : update.env.Quiet)
    (owns : Owns call.tenantId update.subscription.id state.store.database)
    (follows : Follows call reader ⟨update.delivery.after state.store, some update.subscription.status⟩) :
    Settled call.tenantId update state := by
  have agreed := follows _ rfl
  rw [getsPast_iff quiet] at agreed
  rcases commits_cases update.delivery state.store with ⟨commits, _⟩ | ⟨_, same⟩
  · exact Or.inl ((commits_iff working owns).mp commits)
  · dsimp only at agreed
    rw [same] at agreed
    exact Or.inr agreed

/-- The gate follows Stripe as long as every event is accepted or changes nothing about the
access, and where the database works, no longer than that. -/
theorem access_follows (quiet : reader.Quiet) (owns : Owns call.tenantId id store.database) (schedule : List Update)
    (about : ∀ update ∈ schedule, update.subscription.id = id) :
    (updates.Each (Settled call.tenantId) schedule ⟨store, none⟩ →
        updates.Always (Follows call reader) schedule ⟨store, none⟩) ∧
      ((∀ update ∈ schedule, update.env.Quiet) →
        updates.Always (Follows call reader) schedule ⟨store, none⟩ →
          updates.Each (Settled call.tenantId) schedule ⟨store, none⟩) := by
  have unreported : Follows call reader ⟨store, none⟩ := fun _ carried => nomatch carried
  constructor
  · intro settled
    have kept : updates.Always (fun state => Owns call.tenantId id state.store.database ∧ Follows call reader state)
        schedule ⟨store, none⟩ := by
      refine Machine.always_of_each ?_ about ⟨owns, unreported⟩ settled
      intro update state next own taken holds met
      cases taken
      subst own
      exact ⟨owns_after update holds.1, follows_of_settled quiet holds.1 met⟩
    exact kept.imp fun _ holds => holds.2
  · intro working follows
    have invariant : updates.Invariant (fun update => update.subscription.id = id ∧ update.env.Quiet)
        fun state => Owns call.tenantId id state.store.database := by
      intro update state next _ holds taken
      cases taken
      exact owns_after update holds
    refine (Machine.always_iff_each invariant ?_ ?_ owns unreported).mp follows
    · intro update state next own holds _ taken
      cases taken
      obtain ⟨rfl, working⟩ := own
      exact ⟨settled_of_follows quiet working holds, follows_of_settled quiet holds⟩
    · exact fun update member => ⟨about update member, working update member⟩

def carrying (eventId status : String) : Update where
  env := Seed.env 20
  eventId := eventId
  subscription := Seed.stripeSubscription status []
  payload := Seed.payload

/-- The payment failed and was given up. Stripe reports it, the delivery fails, and the tenant
goes on metering. -/
theorem unpaid_meters : (carrying "evt_1" "unpaid").delivery.reply Seed.paid = .error webhookFailed ∧
    GetsPast (Seed.apiCall "key").record (Seed.env 1) ((carrying "evt_1" "unpaid").delivery.after Seed.paid) ∧
    ¬ Restoring "unpaid" := by
  refine ⟨by decide, (getsPast_iff (Seed.env_quiet 1)).mpr (by decide), ?_⟩
  unfold Restoring
  decide

theorem past_due_follows :
    (updates.Each (Settled Seed.tenant.id) [carrying "evt_1" "past_due"] ⟨Seed.paid, none⟩ →
        updates.Always (Follows (Seed.apiCall "key").record (Seed.env 1)) [carrying "evt_1" "past_due"] ⟨Seed.paid, none⟩) ∧
      ((∀ update ∈ [carrying "evt_1" "past_due"], update.env.Quiet) →
        updates.Always (Follows (Seed.apiCall "key").record (Seed.env 1)) [carrying "evt_1" "past_due"] ⟨Seed.paid, none⟩ →
          updates.Each (Settled Seed.tenant.id) [carrying "evt_1" "past_due"] ⟨Seed.paid, none⟩) :=
  @access_follows "sub_1" (Seed.apiCall "key").record (Seed.env 1) Seed.paid (Seed.env_quiet 1)
    ⟨Seed.paying, by decide, rfl, rfl⟩ [carrying "evt_1" "past_due"] fun update member => by
      obtain rfl := List.mem_singleton.mp member
      rfl

end MeteringBilling.Access
