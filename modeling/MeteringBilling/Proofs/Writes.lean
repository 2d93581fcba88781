import MeteringBilling.Changes

/-! What a change does to the tables, said once for each write. -/

namespace MeteringBilling

variable {database after : Database}

theorem insertTenant_ok {tenant : Tenant} : database.insertTenant tenant = .ok after ↔ tenant.Storable ∧
    ∃ fits : database.tenants.Fits tenant, after = { database with tenants := database.tenants.add tenant fits } := by
  rw [Database.insertTenant]
  by_cases storable : tenant.Storable
  · rw [if_neg (not_not_intro storable), and_iff_right storable]
    by_cases fits : database.tenants.Fits tenant
    · simp only [Table.insert?_of_fits fits, Except.ok.injEq, fits, exists_true_left]
      exact eq_comm
    · simp [Table.insert?_eq_none.mpr fits, fits]
  · simp [storable]

theorem insertProcessedEvent_ok {row : ProcessedStripeEvent} : database.insertProcessedEvent row = .ok after ↔
    row.payload ≠ none ∧ ∃ fits : database.processedStripeEvents.Fits row,
      after = { database with processedStripeEvents := database.processedStripeEvents.add row fits } := by
  rw [Database.insertProcessedEvent]
  by_cases unserialized : row.payload = none
  · simp [unserialized]
  · rw [if_neg unserialized, and_iff_right unserialized]
    by_cases fits : database.processedStripeEvents.Fits row
    · simp only [Table.insert?_of_fits fits, Except.ok.injEq, fits, exists_true_left]
      exact eq_comm
    · simp [Table.insert?_eq_none.mpr fits, fits]

theorem insertSubscription_ok {row : Subscription} : database.insertSubscription row = .ok after ↔
    database.hasTenant row.tenantId = true ∧ database.hasPlan row.planId = true ∧
      ∃ fits : database.subscriptions.Fits row,
        after = { database with subscriptions := database.subscriptions.add row fits } := by
  rw [Database.insertSubscription]
  cases database.hasTenant row.tenantId with
  | false => simp
  | true =>
    cases database.hasPlan row.planId with
    | false => simp
    | true =>
      by_cases fits : database.subscriptions.Fits row
      · simp only [Table.insert?_of_fits fits, Except.ok.injEq, Bool.not_true, Bool.false_eq_true, if_false, true_and,
          fits, exists_true_left]
        exact eq_comm
      · simp [Table.insert?_eq_none.mpr fits, fits]

theorem upsertSubscription_stored {row stored : Subscription} {id : String} (identified : row.stripeSubscriptionId = some id)
    (found : database.subscription? id = some stored) : database.upsertSubscription row = .ok after ↔
      database.hasPlan row.planId = true ∧
        after = { database with
          subscriptions := database.subscriptions.update (·.stripeSubscriptionId == row.stripeSubscriptionId)
            (Database.refreshed row) (Database.refreshed_keeps row) } := by
  obtain ⟨member, selected⟩ := Table.find?_mem found
  have several : database.subscriptionsOf row.stripeSubscriptionId ≠ [] := by
    rw [identified]
    exact List.ne_nil_of_mem (List.mem_filter.mpr ⟨member, selected⟩)
  rw [Database.upsertSubscription, if_pos ⟨by rw [identified]; exact Option.some_ne_none id, several⟩]
  cases database.hasPlan row.planId with
  | false => simp
  | true => simp [eq_comm]

theorem upsertSubscription_new {row : Subscription}
    (fresh : ∀ id, row.stripeSubscriptionId = some id → database.subscription? id = none) :
    database.upsertSubscription row = database.insertSubscription row := by
  rw [Database.upsertSubscription, if_neg]
  intro conflict
  obtain ⟨identified, several⟩ := conflict
  obtain ⟨id, same⟩ := Option.ne_none_iff_exists'.mp identified
  obtain ⟨stored, member⟩ := List.exists_mem_of_ne_nil _ several
  obtain ⟨member, selected⟩ := List.mem_filter.mp member
  rw [same] at selected
  exact List.find?_eq_none.mp (fresh id same) stored member selected

theorem updateSubscription_ok {time : Int} {loaded assigned : Subscription} :
    database.updateSubscription time loaded assigned = .ok after ↔
      (assigned.planId ≠ loaded.planId → database.hasPlan assigned.planId = true) ∧
        after = { database with
          subscriptions := database.subscriptions.update (·.id == loaded.id) (Database.flushed time loaded assigned)
            (Database.flushed_keeps time loaded assigned) } := by
  rw [Database.updateSubscription]
  by_cases same : assigned.planId = loaded.planId
  · rw [if_neg fun wrong => wrong.1 same, Except.ok.injEq]
    exact ⟨fun written => ⟨fun different => (different same).elim, written.symm⟩, fun written => written.2.symm⟩
  · cases plan : database.hasPlan assigned.planId with
    | false => simp [same]
    | true =>
      rw [if_neg fun wrong => by simp at wrong, Except.ok.injEq]
      exact ⟨fun written => ⟨fun _ => rfl, written.symm⟩, fun written => written.2.symm⟩

theorem flushed_identity (time : Int) (loaded assigned stored : Subscription) :
    (Database.flushed time loaded assigned stored).id = stored.id ∧
      (Database.flushed time loaded assigned stored).tenantId = stored.tenantId ∧
      (Database.flushed time loaded assigned stored).stripeSubscriptionId = stored.stripeSubscriptionId := by
  unfold Database.flushed
  by_cases same : assigned = loaded
  · simp only [if_pos same, and_self]
  · simp only [if_neg same, and_self]

theorem toOption_eq_some {α ε : Type} {result : Except ε α} {value : α} :
    result.toOption = some value ↔ result = .ok value := by
  cases result with
  | error exc => exact ⟨nofun, nofun⟩
  | ok other => exact ⟨fun same => congrArg _ (Option.some.inj same), fun same => congrArg _ (Except.ok.inj same)⟩

/-- The plans stay, and no tenant is dropped. -/
structure Grows (database after : Database) : Prop where
  plans : after.plans = database.plans
  tenants : ∀ tenant ∈ database.tenants, tenant ∈ after.tenants

theorem Grows.refl (database : Database) : Grows database database := ⟨rfl, fun _ member => member⟩

theorem Grows.trans {first second third : Database} (one : Grows first second) (two : Grows second third) :
    Grows first third :=
  ⟨two.plans.trans one.plans, fun tenant member => two.tenants tenant (one.tenants tenant member)⟩

/-- A change touches neither usage nor marks. -/
structure Extends (database after : Database) : Prop extends Grows database after where
  usageEvents : after.usageEvents = database.usageEvents
  processed : after.processedStripeEvents = database.processedStripeEvents

theorem insertSubscription_extends {row : Subscription} (inserted : database.insertSubscription row = .ok after) :
    Extends database after := by
  obtain ⟨_, _, _, rfl⟩ := insertSubscription_ok.mp inserted
  exact ⟨⟨rfl, fun _ member => member⟩, rfl, rfl⟩

theorem upsertSubscription_extends {row : Subscription} (written : database.upsertSubscription row = .ok after) :
    Extends database after := by
  rw [Database.upsertSubscription] at written
  split at written
  · split at written
    · cases written
    · rw [← Except.ok.inj written]
      exact ⟨⟨rfl, fun _ member => member⟩, rfl, rfl⟩
  · exact insertSubscription_extends written

theorem Change.applied?_extends {change : Change} (applied : change.applied? database = some after) :
    Extends database after := by
  cases change with
  | nothing =>
    rw [← Option.some.inj applied]
    exact ⟨⟨rfl, fun _ member => member⟩, rfl, rfl⟩
  | upsert row => exact upsertSubscription_extends (toOption_eq_some.mp applied)
  | enroll tenant row =>
    obtain ⟨enrolled, inserted, written⟩ := Option.bind_eq_some_iff.mp applied
    obtain ⟨_, _, rfl⟩ := insertTenant_ok.mp (toOption_eq_some.mp inserted)
    obtain ⟨⟨plans, tenants⟩, usageEvents, processed⟩ := upsertSubscription_extends (toOption_eq_some.mp written)
    exact ⟨⟨plans, fun stored member => tenants stored (List.mem_append_left _ member)⟩, usageEvents, processed⟩
  | create row => exact insertSubscription_extends (toOption_eq_some.mp applied)
  | assign time loaded assigned =>
    obtain ⟨_, rfl⟩ := updateSubscription_ok.mp (toOption_eq_some.mp applied)
    exact ⟨⟨rfl, fun _ member => member⟩, rfl, rfl⟩

end MeteringBilling
