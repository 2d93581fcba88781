import MeteringBilling.Proofs.Standings
import MeteringBilling.Proofs.WebhookSteps

/-! Two updates of one subscription in flight at the same time. Each assigns to the row that it
loaded, and its UPDATE carries the columns that differ from that. -/

namespace MeteringBilling.SerialUpdates

open Effect

/-- A row but for the time of its last change, which no two runs share. -/
def content (row : Subscription) : Subscription := { row with updatedAt := 0 }

/-- Two updates of one subscription, and the tables that they find. -/
structure Race where
  env : Bool → Env
  eventId : Bool → String
  payload : Bool → StripeSubscription
  json : Bool → Option String
  id : String
  store : Store
  row : Subscription
  about : ∀ delivery, (payload delivery).id = id
  distinct : ∀ delivery, eventId (!delivery) ≠ eventId delivery
  found : store.database.subscription? id = some row
  planned : store.database.hasPlan row.planId = true

namespace Race

variable (race : Race)

def incoming (delivery : Bool) : Delivery :=
  ⟨race.env delivery, ⟨race.eventId delivery, .subscriptionUpdated (race.payload delivery), race.json delivery⟩⟩

def initial : Site Bool := ⟨race.store, fun _ => .arrived⟩

def serially (first : Bool) : Store :=
  let calm (delivery : Bool) : Delivery := { race.incoming delivery with env := (race.env delivery).calm }
  (calm (!first)).after ((calm first).after race.store)

/-- The row is what the two updates leave in one of the two orders. -/
def Serializable (database : Database) : Prop :=
  ∃ first, (database.subscription? race.id).map content =
    ((race.serially first).database.subscription? race.id).map content

def planAfter (delivery : Bool) (planId : PlanTier) : PlanTier :=
  (race.payload delivery).updatedPlan (race.env delivery).settings planId

/-- Each column that the update leaves as it was loaded is stored as the update would have it. -/
structure Prevails (delivery : Bool) (loaded assigned stored : Subscription) : Prop where
  status : assigned.status = loaded.status → stored.status = assigned.status
  periodStart : assigned.currentPeriodStart = loaded.currentPeriodStart →
    stored.currentPeriodStart = assigned.currentPeriodStart
  periodEnd : assigned.currentPeriodEnd = loaded.currentPeriodEnd → stored.currentPeriodEnd = assigned.currentPeriodEnd
  cancelAtPeriodEnd : assigned.cancelAtPeriodEnd = loaded.cancelAtPeriodEnd →
    stored.cancelAtPeriodEnd = assigned.cancelAtPeriodEnd
  planId : assigned.planId = loaded.planId → race.planAfter delivery stored.planId = stored.planId

/-- Each column that the update changes is stored as it changes it, or left so by the other. -/
structure Yields (delivery : Bool) (loaded assigned stored : Subscription) : Prop where
  status : assigned.status ≠ loaded.status → stored.status = assigned.status
  periodStart : assigned.currentPeriodStart ≠ loaded.currentPeriodStart →
    stored.currentPeriodStart = assigned.currentPeriodStart
  periodEnd : assigned.currentPeriodEnd ≠ loaded.currentPeriodEnd → stored.currentPeriodEnd = assigned.currentPeriodEnd
  cancelAtPeriodEnd : assigned.cancelAtPeriodEnd ≠ loaded.cancelAtPeriodEnd →
    stored.cancelAtPeriodEnd = assigned.cancelAtPeriodEnd
  planId : assigned.planId ≠ loaded.planId → race.planAfter (!delivery) assigned.planId = assigned.planId

/-- A commit mixes no columns: the update prevails over what is stored, or yields to it. -/
def Harmless (action : WebhookAction Bool) (site : Site Bool) : Prop :=
  ∀ delivery time loaded assigned stored, action = .mark delivery → race.json delivery ≠ none →
    site.stage delivery = .written (.assign time loaded assigned) →
    site.store.database.subscription? race.id = some stored →
    race.Prevails delivery loaded assigned stored ∨ race.Yields delivery loaded assigned stored

/-- The row that an update makes of another, if its event is new and can be kept and the row takes it. -/
def accepted? (delivery : Bool) (row : Subscription) : Option Subscription := do
  let assigned ← (assignUpdate (race.env delivery).settings (race.payload delivery) row).toOption
  if race.store.database.processedRows (race.eventId delivery) = [] ∧ race.json delivery ≠ none ∧
      (assigned.planId ≠ row.planId → race.store.database.hasPlan assigned.planId = true) then some assigned
  else none

def effect (delivery : Bool) (row : Subscription) : Subscription :=
  match race.accepted? delivery row with
  | some assigned => Database.flushed (race.env delivery).transactionStart row assigned row
  | none => row

end Race

variable {race : Race} {delivery first : Bool} {row loaded assigned stored : Subscription} {database after : Database}

theorem accepted?_eq_some : race.accepted? delivery row = some assigned ↔
    assignUpdate (race.env delivery).settings (race.payload delivery) row = .ok assigned ∧
      race.store.database.processedRows (race.eventId delivery) = [] ∧ race.json delivery ≠ none ∧
      (assigned.planId ≠ row.planId → race.store.database.hasPlan assigned.planId = true) := by
  unfold Race.accepted?
  rw [Option.bind_eq_bind, Option.bind_eq_some_iff]
  constructor
  · intro ⟨other, computed, taken⟩
    split at taken
    · next holds =>
      obtain rfl := Option.some.inj taken
      exact ⟨toOption_eq_some.mp computed, holds⟩
    · cases taken
  · intro ⟨computed, holds⟩
    exact ⟨assigned, toOption_eq_some.mpr computed, if_pos holds⟩

theorem assignUpdate_other {settings : Settings} {subscription : StripeSubscription}
    (built : assignUpdate settings subscription row = .ok assigned) (other : Subscription) :
    assignUpdate settings subscription other = .ok { other with
      status := assigned.status
      currentPeriodStart := assigned.currentPeriodStart
      currentPeriodEnd := assigned.currentPeriodEnd
      cancelAtPeriodEnd := assigned.cancelAtPeriodEnd
      planId := subscription.updatedPlan settings other.planId } := by
  obtain ⟨status, known, built⟩ := except_bind_ok.mp built
  obtain ⟨periodStart, starts, built⟩ := except_bind_ok.mp built
  obtain ⟨periodEnd, ends, built⟩ := except_bind_ok.mp built
  obtain ⟨cancels, cancelling, built⟩ := except_bind_ok.mp built
  obtain ⟨price, priced, built⟩ := except_bind_ok.mp built
  obtain rfl := Except.ok.inj built
  refine except_bind_ok.mpr ⟨status, known, except_bind_ok.mpr ⟨periodStart, starts, except_bind_ok.mpr ⟨periodEnd, ends,
    except_bind_ok.mpr ⟨cancels, cancelling, except_bind_ok.mpr ⟨price, priced, ?_⟩⟩⟩⟩⟩
  have same := price?_eq priced
  unfold StripeSubscription.updatedPlan
  exact same ▸ rfl

theorem planAfter_idem (planId : PlanTier) :
    race.planAfter delivery (race.planAfter delivery planId) = race.planAfter delivery planId := by
  unfold Race.planAfter StripeSubscription.updatedPlan
  cases (race.payload delivery).price? with
  | none => rfl
  | some price =>
    dsimp only
    split
    · split <;> rfl
    · rfl

theorem plan_other {first second third : PlanTier} (left : first ≠ second) (right : third ≠ second) : first = third := by
  cases first <;> cases second <;> cases third <;> simp_all

structure Tables (race : Race) (database : Database) (row : Subscription) : Prop where
  found : database.subscription? race.id = some row
  plans : database.plans = race.store.database.plans

def Unmoved (race : Race) (delivery : Bool) (database : Database) : Prop :=
  database.processedRows (race.eventId delivery) = race.store.database.processedRows (race.eventId delivery)

theorem flushed_id (time : Int) (loaded assigned stored : Subscription) :
    (Database.flushed time loaded assigned stored).id = stored.id := by
  unfold Database.flushed
  split <;> rfl

theorem hasPlan_eq (tables : Tables race database row) (planId : PlanTier) :
    database.hasPlan planId = race.store.database.hasPlan planId := by
  unfold Database.hasPlan
  rw [tables.plans]

theorem change?_eq (tables : Tables race database row) (env : Env) :
    (race.incoming delivery).event.data.change? env database =
      (assignUpdate env.settings (race.payload delivery) row).toOption.map (Change.assign env.transactionStart row) := by
  change (race.payload delivery).updated? env database = _
  rw [StripeSubscription.updated?, race.about, tables.found]
  dsimp only
  cases assignUpdate env.settings (race.payload delivery) row <;> rfl

theorem committed_row (tables : Tables race database stored) (same : stored.id = loaded.id) {time : Int}
    (plan : assigned.planId ≠ loaded.planId → race.store.database.hasPlan assigned.planId = true)
    (unmarked : database.processedRows (race.eventId delivery) = []) (serialized : race.json delivery ≠ none) (env : Env) :
    ∃ after, (Change.assign time loaded assigned).committed? (race.incoming delivery).event env database = some after ∧
      Tables race after (Database.flushed time loaded assigned stored) ∧
      (Unmoved race (!delivery) database → Unmoved race (!delivery) after) := by
  have written := (@updateSubscription_ok database _ time loaded assigned).mpr
    ⟨fun moved => (hasPlan_eq tables assigned.planId).trans (plan moved), rfl⟩
  have fits : database.processedStripeEvents.Fits ((race.incoming delivery).event.mark env) := by
    intro marked member clash
    exact List.filter_eq_nil_iff.mp unmarked marked member (beq_iff_eq.mpr clash.2)
  refine ⟨{ database with
    subscriptions := database.subscriptions.update (·.id == loaded.id) (Database.flushed time loaded assigned)
      (Database.flushed_keeps time loaded assigned)
    processedStripeEvents := database.processedStripeEvents.add _ fits }, ?_, ⟨?_, tables.plans⟩, ?_⟩
  · rw [Change.committed?, Option.bind_eq_bind]
    refine Option.bind_eq_some_iff.mpr ⟨_, toOption_eq_some.mpr written, ?_⟩
    exact toOption_eq_some.mpr (insertProcessedEvent_ok.mpr ⟨serialized, fits, rfl⟩)
  · rw [Database.subscription?, Table.find?_update]
    swap
    · intro row
      unfold Database.flushed
      split <;> rfl
    · have found : database.subscriptions.find? (·.stripeSubscriptionId == some race.id) = some stored := tables.found
      rw [found, Option.map_some, if_pos (beq_iff_eq.mpr same)]
  · intro unmoved
    unfold Unmoved Database.processedRows Table.select at unmoved ⊢
    rw [← unmoved, Table.add_rows, List.filter_append, List.filter_singleton]
    have apart : ((race.incoming delivery).event.id == race.eventId !delivery) = false :=
      beq_eq_false_iff_ne.mpr (race.distinct delivery).symm
    dsimp only [StripeEvent.mark]
    rw [apart]
    exact List.append_nil _

theorem refused_row (tables : Tables race database stored) {time : Int} (moved : assigned.planId ≠ loaded.planId)
    (missing : race.store.database.hasPlan assigned.planId = false) :
    (Change.assign time loaded assigned).applied? database = none := by
  rw [Option.eq_none_iff_forall_ne_some]
  intro after applied
  obtain ⟨plan, _⟩ := updateSubscription_ok.mp (toOption_eq_some.mp applied)
  rw [hasPlan_eq tables, missing] at plan
  cases plan moved

theorem applied?_calm (tables : Tables race database row) :
    (race.incoming delivery).event.applied? (race.env delivery).calm database =
      ((assignUpdate (race.env delivery).settings (race.payload delivery) row).toOption.map
        (Change.assign (race.env delivery).transactionStart row)).bind
          fun change => change.committed? (race.incoming delivery).event (race.env delivery).calm database := by
  rw [applied?_eq, change?_eq tables]
  rfl

theorem committed?_unserialized {change : Change} {env : Env} (unserialized : race.json delivery = none) :
    change.committed? (race.incoming delivery).event env database = none := by
  rw [Option.eq_none_iff_forall_ne_some]
  intro after committed
  obtain ⟨_, _, inserted⟩ := Option.bind_eq_some_iff.mp committed
  exact (insertProcessedEvent_ok.mp (toOption_eq_some.mp inserted)).1 unserialized

theorem applied?_refused (tables : Tables race database row) (refused : race.accepted? delivery row = none)
    (fresh : race.store.database.processedRows (race.eventId delivery) = []) :
    (race.incoming delivery).event.applied? (race.env delivery).calm database = none := by
  rw [applied?_calm tables]
  cases computed : assignUpdate (race.env delivery).settings (race.payload delivery) row with
  | error exc => rfl
  | ok assigned =>
    change Change.committed? _ _ _ _ = none
    by_cases serialized : race.json delivery = none
    · exact committed?_unserialized serialized
    have unplanned : ¬ (assigned.planId ≠ row.planId → race.store.database.hasPlan assigned.planId = true) := by
      intro plan
      have taken := accepted?_eq_some.mpr ⟨computed, fresh, serialized, plan⟩
      rw [refused] at taken
      cases taken
    obtain ⟨moved, missing⟩ := Classical.not_imp.mp unplanned
    rw [Change.committed?, refused_row tables moved (Bool.eq_false_iff.mpr missing)]
    rfl

theorem delivered_row {store : Store} (tables : Tables race store.database row)
    (unmoved : Unmoved race delivery store.database)
    {env : Env} (calm : env = (race.env delivery).calm) :
    Tables race ((⟨env, (race.incoming delivery).event⟩ : Delivery).after store).database (race.effect delivery row) ∧
      (Unmoved race (!delivery) store.database →
        Unmoved race (!delivery) ((⟨env, (race.incoming delivery).event⟩ : Delivery).after store).database) := by
  subst calm
  unfold Race.effect
  cases accepted : race.accepted? delivery row with
  | some assigned =>
    obtain ⟨computed, fresh, serialized, plan⟩ := accepted?_eq_some.mp accepted
    have unmarked : store.database.processedRows (race.eventId delivery) = [] := unmoved.trans fresh
    obtain ⟨after, committed, written, others⟩ := committed_row tables rfl plan unmarked serialized (race.env delivery).calm
    have applied : (race.incoming delivery).event.applied? (race.env delivery).calm store.database = some after := by
      rw [applied?_calm tables, computed]
      exact committed
    rw [(delivered_first (Env.calm_quiet _) unmarked applied).2]
    exact ⟨written, others⟩
  | none =>
    have same : ((⟨(race.env delivery).calm, (race.incoming delivery).event⟩ : Delivery).after store).database =
        store.database := by
      apply delivered_unchanged
      intro unmarked
      exact applied?_refused tables accepted (unmoved.symm.trans unmarked)
    rw [same]
    exact ⟨tables, id⟩

theorem serially_row (first : Bool) : (race.serially first).database.subscription? race.id =
    some (race.effect (!first) (race.effect first race.row)) := by
  obtain ⟨tables, others⟩ := @delivered_row race first race.row race.store ⟨race.found, rfl⟩ rfl _ rfl
  exact (@delivered_row race (!first) _ _ tables (others rfl) _ rfl).1.found

def columns (row values : Subscription) (planId : PlanTier) : Subscription :=
  { row with
    status := values.status
    currentPeriodStart := values.currentPeriodStart
    currentPeriodEnd := values.currentPeriodEnd
    cancelAtPeriodEnd := values.cancelAtPeriodEnd
    planId }

theorem assigned_columns (built : assignUpdate (race.env delivery).settings (race.payload delivery) row = .ok assigned) :
    assigned = columns row assigned (race.planAfter delivery row.planId) :=
  Except.ok.inj (built.symm.trans (assignUpdate_other built row))

/-- What one row takes every row takes: the plans that an update moves to are stored. -/
theorem accepted?_other (planned : race.store.database.hasPlan row.planId = true)
    (accepted : race.accepted? delivery row = some assigned) (other : Subscription) :
    race.accepted? delivery other = some (columns other assigned (race.planAfter delivery other.planId)) := by
  obtain ⟨computed, fresh, serialized, plan⟩ := accepted?_eq_some.mp accepted
  have own : assigned.planId = race.planAfter delivery row.planId := congrArg Subscription.planId (assigned_columns computed)
  refine accepted?_eq_some.mpr ⟨assignUpdate_other computed other, fresh, serialized, ?_⟩
  intro moved
  by_cases same : other.planId = row.planId
  · rw [own, ← same] at plan
    exact plan moved
  · have back : race.planAfter delivery other.planId = row.planId := plan_other moved (Ne.symm same)
    change race.store.database.hasPlan (race.planAfter delivery other.planId) = true
    rw [back]
    exact planned

def mixed (loaded assigned stored : Subscription) : Subscription :=
  { stored with
    status := if assigned.status = loaded.status then stored.status else assigned.status
    currentPeriodStart := if assigned.currentPeriodStart = loaded.currentPeriodStart then stored.currentPeriodStart
      else assigned.currentPeriodStart
    currentPeriodEnd := if assigned.currentPeriodEnd = loaded.currentPeriodEnd then stored.currentPeriodEnd
      else assigned.currentPeriodEnd
    cancelAtPeriodEnd := if assigned.cancelAtPeriodEnd = loaded.cancelAtPeriodEnd then stored.cancelAtPeriodEnd
      else assigned.cancelAtPeriodEnd
    planId := if assigned.planId = loaded.planId then stored.planId else assigned.planId }

theorem content_flushed {time : Int} (kept : assigned.canceledAt = loaded.canceledAt) :
    content (Database.flushed time loaded assigned stored) =
      columns (content stored) (mixed loaded assigned stored) (mixed loaded assigned stored).planId := by
  unfold Database.flushed
  split
  · next same => simp only [same, mixed, columns, content, if_true]
  · rfl

theorem columns_inj {values others : Subscription} {planId other : PlanTier} :
    columns row values planId = columns row others other ↔
      values.status = others.status ∧ values.currentPeriodStart = others.currentPeriodStart ∧
        values.currentPeriodEnd = others.currentPeriodEnd ∧ values.cancelAtPeriodEnd = others.cancelAtPeriodEnd ∧
        planId = other := by
  simp only [columns, Subscription.mk.injEq, true_and, and_true]
  constructor
  · intro ⟨plan, status, starts, ends, cancels⟩
    exact ⟨status, starts, ends, cancels, plan⟩
  · intro ⟨status, starts, ends, cancels, plan⟩
    exact ⟨plan, status, starts, ends, cancels⟩

section Mixing

variable {α : Type} {unchanged : Prop} [Decidable unchanged] {old new : α}

theorem mixed_eq_new : (if unchanged then old else new) = new ↔ (unchanged → old = new) := by
  by_cases same : unchanged
  · rw [if_pos same]
    exact (imp_iff_right same).symm
  · rw [if_neg same]
    exact iff_of_true rfl fun holds => (same holds).elim

theorem mixed_eq_old : (if unchanged then old else new) = old ↔ (¬ unchanged → old = new) := by
  by_cases same : unchanged
  · rw [if_pos same]
    exact iff_of_true rfl fun moved => (moved same).elim
  · rw [if_neg same, eq_comm]
    exact (imp_iff_right same).symm

end Mixing

theorem content_effect (accepted : race.accepted? delivery race.row = some assigned) (other : Subscription) :
    content (race.effect delivery other) = columns (content other) assigned (race.planAfter delivery other.planId) := by
  unfold Race.effect
  rw [accepted?_other race.planned accepted other]
  dsimp only
  rw [content_flushed (by rfl), columns_inj]
  dsimp only [mixed, columns]
  simp only [mixed_eq_new]
  exact ⟨Eq.symm, Eq.symm, Eq.symm, Eq.symm, Eq.symm⟩

theorem planAfter_moved (accepted : race.accepted? delivery race.row = some assigned)
    (moved : assigned.planId ≠ race.row.planId) (planId : PlanTier) : race.planAfter delivery planId = assigned.planId := by
  have own : assigned.planId = race.planAfter delivery race.row.planId :=
    congrArg Subscription.planId (assigned_columns (accepted?_eq_some.mp accepted).1)
  by_cases same : planId = race.row.planId
  · rw [own, same]
  · rw [plan_other same moved, own, planAfter_idem]

section Stale

variable {behind ahead : Subscription} {time : Int} (late : race.accepted? delivery race.row = some behind)
  (early : race.accepted? (!delivery) race.row = some ahead)

include late early

theorem content_stale : content (Database.flushed time race.row behind (race.effect (!delivery) race.row)) =
    columns (content race.row) (mixed race.row behind (race.effect (!delivery) race.row))
      (mixed race.row behind (race.effect (!delivery) race.row)).planId := by
  have own := assigned_columns (accepted?_eq_some.mp late).1
  rw [content_flushed (own ▸ rfl), content_effect early]
  rfl

/-- It ends as if it had seen the other exactly if it prevails. -/
theorem content_after : content (Database.flushed time race.row behind (race.effect (!delivery) race.row)) =
      content (race.effect delivery (race.effect (!delivery) race.row)) ↔
    race.Prevails delivery race.row behind (race.effect (!delivery) race.row) := by
  have serial : content (race.effect delivery (race.effect (!delivery) race.row)) =
      columns (content race.row) behind (race.planAfter delivery (race.effect (!delivery) race.row).planId) := by
    rw [content_effect late, content_effect early]
    rfl
  rw [content_stale late early, serial, columns_inj]
  dsimp only [mixed]
  simp only [mixed_eq_new]
  constructor
  · intro ⟨status, starts, ends, cancels, plan⟩
    refine ⟨status, starts, ends, cancels, ?_⟩
    intro left
    rw [← plan, if_pos left]
  · intro ⟨status, starts, ends, cancels, plan⟩
    refine ⟨status, starts, ends, cancels, ?_⟩
    split
    · next left => exact (plan left).symm
    · next moved => exact (planAfter_moved late moved _).symm

theorem content_before : content (Database.flushed time race.row behind (race.effect (!delivery) race.row)) =
      content (race.effect (!delivery) (race.effect delivery race.row)) ↔
    race.Yields delivery race.row behind (race.effect (!delivery) race.row) := by
  have stored := content_effect early race.row
  have between : (race.effect delivery race.row).planId = behind.planId :=
    (congrArg Subscription.planId (content_effect late race.row)).trans
      (congrArg Subscription.planId (assigned_columns (accepted?_eq_some.mp late).1)).symm
  have serial : content (race.effect (!delivery) (race.effect delivery race.row)) = columns (content race.row)
      (race.effect (!delivery) race.row) (race.planAfter (!delivery) behind.planId) := by
    rw [content_effect early, content_effect late, between]
    change _ = columns (content race.row) (content (race.effect (!delivery) race.row)) _
    rw [stored]
    rfl
  rw [content_stale late early, serial, columns_inj]
  dsimp only [mixed]
  simp only [mixed_eq_old]
  constructor
  · intro ⟨status, starts, ends, cancels, plan⟩
    refine ⟨status, starts, ends, cancels, ?_⟩
    intro moved
    rw [← plan, if_neg moved]
  · intro ⟨status, starts, ends, cancels, plan⟩
    refine ⟨status, starts, ends, cancels, ?_⟩
    split
    · next left =>
      rw [left]
      exact congrArg Subscription.planId stored
    · next moved => exact (plan moved).symm

end Stale

end MeteringBilling.SerialUpdates
