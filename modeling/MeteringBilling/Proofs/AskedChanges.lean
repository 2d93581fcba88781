import MeteringBilling.Proofs.Writes

/-! The changes each event can ask for. -/

namespace MeteringBilling

variable {env : Env} {database : Database} {change : Change}

theorem checkout_asks {session : CheckoutSession} (asked : session.change? env database = some change) :
    change = .nothing ∧ session.named? database = some none ∨
      (∃ tenantId, change = .upsert (session.row env tenantId) ∧ session.named? database = some (some tenantId)) ∨
      ∃ tenant : Tenant, change = .enroll tenant (session.row env tenant.id) ∧ session.named? database = none := by
  unfold CheckoutSession.change? at asked
  split at asked
  · cases asked
  split at asked
  · next ignored => exact Or.inl ⟨(Option.some.inj asked).symm, ignored⟩
  · next tenantId named =>
    split at asked
    · cases asked
    · exact Or.inr (Or.inl ⟨tenantId, (Option.some.inj asked).symm, named⟩)
  · next unnamed =>
    obtain ⟨customer, _, asked⟩ := Option.bind_eq_some_iff.mp asked
    obtain ⟨email, _, asked⟩ := Option.bind_eq_some_iff.mp asked
    split at asked
    · cases asked
    · exact Or.inr (Or.inr ⟨_, (Option.some.inj asked).symm, unnamed⟩)

theorem invoice_asks {invoice : Invoice} {status : SubscriptionStatus}
    (asked : invoice.change? status env database = some change) :
    ∃ own, invoiceSubscription invoice = .ok own ∧
      (own.bind database.subscription? = none ∧ change = .nothing ∨
        ∃ row, own.bind database.subscription? = some row ∧
          change = .assign env.transactionStart row { row with status }) := by
  obtain ⟨own, read, same⟩ := Option.bind_eq_some_iff.mp asked
  refine ⟨own, toOption_eq_some.mp read, ?_⟩
  obtain rfl := Option.some.inj same
  cases own.bind database.subscription? with
  | none => exact Or.inl ⟨rfl, rfl⟩
  | some row => exact Or.inr ⟨row, rfl, rfl⟩

variable {subscription : StripeSubscription}

theorem created_asks (asked : subscription.created? env database = some change) :
    (∃ row status, database.subscription? subscription.id = some row ∧
        subscriptionStatus subscription.status = .ok status ∧
        change = .assign env.transactionStart row { row with status }) ∨
      database.subscription? subscription.id = none ∧ ∃ row, change = .create row ∧
        newSubscription env.settings (env.uuid4 env.attempt .subscription) env.transactionStart subscription =
          .ok (some row) := by
  unfold StripeSubscription.created? at asked
  cases found : database.subscription? subscription.id with
  | some row =>
    rw [found] at asked
    obtain ⟨status, known, same⟩ := Option.bind_eq_some_iff.mp asked
    exact Or.inl ⟨row, status, rfl, toOption_eq_some.mp known, (Option.some.inj same).symm⟩
  | none =>
    rw [found] at asked
    obtain ⟨built, computed, made⟩ := Option.bind_eq_some_iff.mp asked
    obtain ⟨row, rfl, same⟩ := Option.map_eq_some_iff.mp made
    exact Or.inr ⟨rfl, row, same.symm, toOption_eq_some.mp computed⟩

theorem updated_asks (asked : subscription.updated? env database = some change) :
    database.subscription? subscription.id = none ∧ change = .nothing ∨
      ∃ row assigned, database.subscription? subscription.id = some row ∧
        assignUpdate env.settings subscription row = .ok assigned ∧ change = .assign env.transactionStart row assigned := by
  unfold StripeSubscription.updated? at asked
  cases found : database.subscription? subscription.id with
  | none =>
    rw [found] at asked
    exact Or.inl ⟨rfl, (Option.some.inj asked).symm⟩
  | some row =>
    rw [found] at asked
    obtain ⟨assigned, computed, same⟩ := Option.bind_eq_some_iff.mp asked
    exact Or.inr ⟨row, assigned, rfl, toOption_eq_some.mp computed, (Option.some.inj same).symm⟩

theorem deleted_asks (asked : subscription.deleted? env database = some change) :
    database.subscription? subscription.id = none ∧ change = .nothing ∨
      ∃ row canceledAt, database.subscription? subscription.id = some row ∧
        change = .assign env.transactionStart row { row with status := .canceled, canceledAt := some canceledAt } := by
  unfold StripeSubscription.deleted? at asked
  cases found : database.subscription? subscription.id with
  | none =>
    rw [found] at asked
    exact Or.inl ⟨rfl, (Option.some.inj asked).symm⟩
  | some row =>
    rw [found] at asked
    obtain ⟨canceledAt, _, same⟩ := Option.bind_eq_some_iff.mp asked
    exact Or.inr ⟨row, canceledAt, rfl, (Option.some.inj same).symm⟩

/-- Two handlers only log what they read. -/
theorem trialWillEnd_asks (asked : (EventData.subscriptionTrialWillEnd subscription).change? env database = some change) :
    change = .nothing := by
  obtain ⟨_, _, asked⟩ := Option.bind_eq_some_iff.mp asked
  obtain ⟨_, _, same⟩ := Option.bind_eq_some_iff.mp asked
  exact (Option.some.inj same).symm

theorem upcoming_asks {invoice : Invoice} (asked : (EventData.invoiceUpcoming invoice).change? env database = some change) :
    change = .nothing := by
  obtain ⟨_, _, asked⟩ := Option.bind_eq_some_iff.mp asked
  obtain ⟨_, _, same⟩ := Option.bind_eq_some_iff.mp asked
  exact (Option.some.inj same).symm

end MeteringBilling
