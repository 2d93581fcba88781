import MeteringBilling.Proofs.Handlers
import MeteringBilling.Proofs.Serving
import MeteringBilling.Proofs.Transactional
import MeteringBilling.Proofs.Writes

/-! A delivery commits everything its event asks for, or nothing, wherever a statement
fails. -/

namespace MeteringBilling

open Effect

variable {α : Type} {env : Env} {session : Session} {event : StripeEvent} {store : Store}

@[simp] theorem EventData.change?_calm (data : EventData) (env : Env) (database : Database) :
    data.change? env.calm database = data.change? env database := by
  cases data <;> rfl

@[simp] theorem EventData.process?_calm (data : EventData) (env : Env) (database : Database) :
    data.process? env.calm database = data.process? env database := by
  rw [EventData.process?, EventData.change?_calm, EventData.process?]

@[simp] theorem applied?_calm (event : StripeEvent) (env : Env) (database : Database) :
    event.applied? env.calm database = event.applied? env database := by
  rw [StripeEvent.applied?, EventData.process?_calm]
  rfl

theorem isProcessed_one (quiet : env.Quiet) (live : session.aborted = false) {eventId : String}
    (few : (session.working.processedRows eventId).length ≤ 1) :
    StripeEventRepository.isProcessed eventId env session =
      (.ok (session.working.processedRows eventId).head?.isSome, session) :=
  (bind_ok (query_quiet quiet live _ _)).trans (bind_ok (scalarOneOrNone_one few))

theorem isProcessed_many (quiet : env.Quiet) (live : session.aborted = false) {eventId : String}
    (many : 1 < (session.working.processedRows eventId).length) :
    StripeEventRepository.isProcessed eventId env session = (.error .multipleResultsFound, session) :=
  (bind_ok (query_quiet quiet live _ _)).trans (bind_error (scalarOneOrNone_many many))

theorem isProcessed_returned {processed : Bool} {after : Session} (live : session.aborted = false) {eventId : String}
    (returned : StripeEventRepository.isProcessed eventId env session = (.ok processed, after)) :
    after = session ∧ processed = (session.working.processedRows eventId).head?.isSome := by
  have calm := (Transactional.isProcessed eventId).agrees env session processed after returned
  rcases Nat.lt_or_ge 1 (session.working.processedRows eventId).length with many | few
  · rw [isProcessed_many env.calm_quiet live many] at calm
    cases (Prod.mk.inj calm).1
  · rw [isProcessed_one env.calm_quiet live few] at calm
    obtain ⟨same, kept⟩ := Prod.mk.inj calm
    exact ⟨kept.symm, (Except.ok.inj same).symm⟩

theorem markProcessed_mark (event : StripeEvent) :
    StripeEventRepository.markProcessed event.id event.data.type event.payload none = (do
      let mark ← Effect.ask (event.mark ·)
      execute .insertProcessedEvent (Database.insertProcessedEvent mark)
      commit .commitProcessedEvent
      query .refreshProcessedEvent fun _ => ()) := rfl

theorem markProcessed_cases {reply : Except PyError Unit} {after : Session}
    (ran : StripeEventRepository.markProcessed event.id event.data.type event.payload none env session = (reply, after)) :
    (∃ exc, reply = .error exc) ∧ after.committed = session.committed ∨
      session.working.insertProcessedEvent (event.mark env) = .ok after.committed ∧
        (reply = .ok () → after.working = after.committed) := by
  rw [markProcessed_mark, bind_ok (ask_apply _ _ _), bind_apply] at ran
  have kept := @execute_keeps Database Session.committed (fun _ _ _ => rfl) .insertProcessedEvent
    (Database.insertProcessedEvent (event.mark env)) env session
  rcases inserted : execute .insertProcessedEvent (Database.insertProcessedEvent (event.mark env)) env session with
    ⟨exc | _, middle⟩
  · rw [inserted] at ran kept
    obtain ⟨rfl, rfl⟩ := Prod.mk.inj ran
    exact Or.inl ⟨⟨exc, rfl⟩, kept⟩
  · rw [inserted] at ran kept
    dsimp only at ran kept
    rcases commit_cases .commitProcessedEvent env middle with committed | ⟨exc, failed, raised, same⟩
    · obtain ⟨marked, written, rfl⟩ := execute_returned inserted
      rw [bind_ok committed] at ran
      have unchanged := @query_keeps Unit Database Session.committed (fun _ _ _ => rfl) .refreshProcessedEvent (fun _ => ())
        env { session with committed := marked, working := marked }
      rw [ran] at unchanged
      refine Or.inr ⟨by rw [unchanged]; exact written, fun returned => ?_⟩
      subst returned
      rw [query_returned ran]
    · rw [bind_error raised] at ran
      obtain ⟨rfl, rfl⟩ := Prod.mk.inj ran
      exact Or.inl ⟨⟨exc, rfl⟩, same.trans kept⟩

theorem change_of_returned {data : EventData} {after : Session}
    (returned : processStripeEvent data env store.open = (.ok (), after)) :
    ∃ change working, data.change? env store.database = some change ∧ change.applied? store.database = some working ∧
      after = { store.open with working, redis := change.invalidated env store.redis } := by
  have calm := (Transactional.processStripeEvent data).agrees _ _ _ _ returned
  have yielded := (processStripeEvent_performs env.calm_quiet (show store.open.aborted = false from rfl) data).returned calm
  obtain ⟨change, asked, applied⟩ := Option.bind_eq_some_iff.mp yielded
  obtain ⟨working, written, same⟩ := Option.map_eq_some_iff.mp applied
  rw [EventData.change?_calm] at asked
  exact ⟨change, working, asked, written, (congrArg Prod.snd same).symm⟩

theorem process?_of_returned {data : EventData} {after : Session}
    (returned : processStripeEvent data env store.open = (.ok (), after)) :
    ∃ working redis, data.process? env store.database = some working ∧
      after = { store.open with working, redis } := by
  obtain ⟨change, working, asked, written, same⟩ := change_of_returned returned
  refine ⟨working, _, ?_, same⟩
  rw [EventData.process?, asked]
  exact written

private theorem raised_elim {holds : α → Prop} {exc : PyError} (value : α)
    (raised : (Except.error exc : Except PyError α) = .ok value) : holds value := by
  cases raised

theorem processed_cases {reply : Except PyError WebhookStatus} {after : Session}
    (ran : (do
      processStripeEvent event.data
      StripeEventRepository.markProcessed event.id event.data.type event.payload none
      pure WebhookStatus.success : Request WebhookStatus) env store.open = (reply, after)) :
    (∃ exc, reply = .error exc) ∧ after.committed = store.database ∨
      event.applied? env store.database = some after.committed ∧
        (∀ status, reply = .ok status → after.working = after.committed) := by
  have kept := (Transactional.processStripeEvent event.data).keeps env store.open
  rw [bind_apply] at ran
  rcases processed : processStripeEvent event.data env store.open with ⟨exc | _, middle⟩
  · rw [processed] at ran kept
    obtain ⟨rfl, rfl⟩ := Prod.mk.inj ran
    exact Or.inl ⟨⟨exc, rfl⟩, kept⟩
  · rw [processed] at ran kept
    obtain ⟨working, redis, applied, rfl⟩ := process?_of_returned processed
    dsimp only at ran
    rw [bind_apply] at ran
    rcases marked : StripeEventRepository.markProcessed event.id event.data.type event.payload none env _ with
      ⟨answer, final⟩
    rw [marked] at ran
    rcases markProcessed_cases marked with ⟨⟨exc, rfl⟩, same⟩ | ⟨inserted, finished⟩
    · obtain ⟨rfl, rfl⟩ := Prod.mk.inj ran
      exact Or.inl ⟨⟨exc, rfl⟩, same⟩
    · have committed : event.applied? env store.database = some final.committed := by
        simp only [StripeEvent.applied?, applied, Option.bind_eq_bind, Option.bind_some]
        rw [show working.insertProcessedEvent (event.mark env) = _ from inserted]
        rfl
      cases answer with
      | error exc =>
        obtain ⟨rfl, rfl⟩ := Prod.mk.inj ran
        exact Or.inr ⟨committed, raised_elim⟩
      | ok value =>
        obtain ⟨rfl, rfl⟩ := Prod.mk.inj ran
        exact Or.inr ⟨committed, fun _ _ => finished rfl⟩

/-- Whatever fails, a delivery is answered with the tables as they were, or it is the first
of its event and commits all that the event asks for. -/
theorem handleStripeEvent_cases {reply : Except PyError WebhookStatus} {after : Session}
    (ran : handleStripeEvent event env store.open = (reply, after)) :
    (∀ status, reply = .ok status → after.working = after.committed) ∧
      (after.committed = store.database ∧
          (∀ status, reply = .ok status → status = .alreadyProcessed ∧ store.database.processedRows event.id ≠ []) ∨
        store.database.processedRows event.id = [] ∧ event.applied? env store.database = some after.committed) := by
  rw [handleStripeEvent, bind_apply] at ran
  have kept := (Transactional.isProcessed event.id).keeps env store.open
  rcases looked : StripeEventRepository.isProcessed event.id env store.open with ⟨exc | processed, middle⟩
  · rw [looked] at ran kept
    obtain ⟨rfl, rfl⟩ := Prod.mk.inj ran
    exact ⟨raised_elim, Or.inl ⟨kept, raised_elim⟩⟩
  · obtain ⟨rfl, answer⟩ := isProcessed_returned rfl looked
    rw [looked] at ran
    dsimp only at ran
    cases processed with
    | true =>
      obtain ⟨rfl, rfl⟩ := Prod.mk.inj ran
      refine ⟨fun _ _ => rfl, Or.inl ⟨rfl, fun status same => ⟨(Except.ok.inj same).symm, fun unprocessed => ?_⟩⟩⟩
      rw [show store.open.working.processedRows event.id = [] from unprocessed] at answer
      cases answer
    | false =>
      have unprocessed : store.database.processedRows event.id = [] :=
        List.head?_eq_none_iff.mp (Option.isNone_iff_eq_none.mp (Option.isSome_eq_false_iff.mp answer.symm))
      rw [if_neg Bool.false_ne_true, Effect.handle] at ran
      rcases body : (do
        processStripeEvent event.data
        StripeEventRepository.markProcessed event.id event.data.type event.payload none
        pure WebhookStatus.success : Request WebhookStatus) env store.open with ⟨answer, final⟩
      rw [body] at ran
      rcases processed_cases body with ⟨⟨exc, rfl⟩, same⟩ | ⟨applied, finished⟩
      · obtain ⟨rfl, rfl⟩ := Prod.mk.inj ran
        exact ⟨raised_elim, Or.inl ⟨same, raised_elim⟩⟩
      · cases answer with
        | error exc =>
          obtain ⟨rfl, rfl⟩ := Prod.mk.inj ran
          exact ⟨raised_elim, Or.inr ⟨unprocessed, applied⟩⟩
        | ok status =>
          obtain ⟨rfl, rfl⟩ := Prod.mk.inj ran
          exact ⟨fun _ _ => finished _ rfl, Or.inr ⟨unprocessed, applied⟩⟩

theorem delivered_cases (delivery : Delivery) (store : Store) :
    (delivery.after store).database = store.database ∧
        (∀ status, delivery.reply store = .ok status →
          status = .alreadyProcessed ∧ store.database.processedRows delivery.event.id ≠ []) ∨
      store.database.processedRows delivery.event.id = [] ∧
        delivery.event.applied? delivery.env store.database = some (delivery.after store).database := by
  rcases ran : handleStripeEvent delivery.event delivery.env store.open with ⟨reply, after⟩
  obtain ⟨answered, kept⟩ := serve_database ran
  obtain ⟨settled, outcome⟩ := handleStripeEvent_cases ran
  have final : (delivery.after store).database = after.committed := by
    rcases kept with same | ⟨⟨status, returned⟩, same⟩
    · exact same
    · exact same.trans (settled status returned)
  rw [final, Delivery.reply, answered]
  exact outcome

theorem commit_redis (place : Statement) : Keeps Session.redis (commit place) := by
  intro env session
  unfold commit
  split
  · rfl
  · split <;> rfl

theorem markProcessed_redis (event : StripeEvent) :
    Keeps Session.redis (StripeEventRepository.markProcessed event.id event.data.type event.payload none) := by
  rw [markProcessed_mark]
  refine .bind (.ask _) fun _ => .bind (execute_keeps (fun _ _ _ => rfl) _ _) fun _ => ?_
  exact .bind (commit_redis _) fun _ => query_keeps (fun _ _ _ => rfl) _ _

theorem markProcessed_ok (quiet : env.Quiet) (live : session.aborted = false) {event : StripeEvent} {marked : Database}
    (inserted : session.working.insertProcessedEvent (event.mark env) = .ok marked) :
    StripeEventRepository.markProcessed event.id event.data.type event.payload none env session =
      (.ok (), { session with committed := marked, working := marked }) := by
  rw [markProcessed_mark, bind_ok (ask_apply _ _ _), bind_ok (execute_ok quiet live _ inserted),
    bind_ok (commit_quiet quiet (by exact live) _), query_quiet quiet (by exact live)]

theorem markProcessed_error (quiet : env.Quiet) (live : session.aborted = false) {event : StripeEvent} {exc : PyError}
    (failed : session.working.insertProcessedEvent (event.mark env) = .error exc) :
    StripeEventRepository.markProcessed event.id event.data.type event.payload none env session =
      (.error exc, { session with aborted := true }) := by
  rw [markProcessed_mark, bind_ok (ask_apply _ _ _), bind_error (execute_error quiet live _ failed)]

theorem processStripeEvent_yields (quiet : env.Quiet) (data : EventData) (store : Store) :
    match data.process? env store.database with
    | some working => ∃ redis, processStripeEvent data env store.open = (.ok (), { store.open with working, redis })
    | none => ∃ exc after, processStripeEvent data env store.open = (.error exc, after) := by
  have performs := processStripeEvent_performs quiet (show store.open.aborted = false from rfl) data
  unfold Performs at performs
  rw [EventData.process?]
  change Effect.Yields _ _ _ ((data.change? env store.database).bind fun change =>
    (change.applied? store.database).map (store.open.changed env change)) at performs
  cases asked : data.change? env store.database with
  | none =>
    rw [asked] at performs
    exact performs
  | some change =>
    rw [asked, Option.bind_some] at performs
    simp only [Option.bind_some]
    cases applied : change.applied? store.database with
    | none =>
      rw [applied] at performs
      exact performs
    | some working =>
      rw [applied] at performs
      exact ⟨_, performs⟩

theorem reply_first {delivery : Delivery} (quiet : delivery.env.Quiet)
    (unprocessed : store.database.processedRows delivery.event.id = []) :
    delivery.reply store = match delivery.event.applied? delivery.env store.database with
      | some _ => .ok .success
      | none => .error webhookFailed := by
  have looked : StripeEventRepository.isProcessed delivery.event.id delivery.env store.open = (.ok false, store.open) := by
    have same : store.open.working.processedRows delivery.event.id = [] := unprocessed
    rw [isProcessed_one quiet rfl (by simp [same]), same]
    rfl
  have processed := processStripeEvent_yields quiet delivery.event.data store
  change (handleStripeEvent delivery.event delivery.env store.open).1 = _
  rw [handleStripeEvent, bind_ok looked, if_neg Bool.false_ne_true, Effect.handle, StripeEvent.applied?]
  cases applied : delivery.event.data.process? delivery.env store.database with
  | none =>
    rw [applied] at processed
    obtain ⟨exc, after, raised⟩ := processed
    rw [bind_error raised]
    rfl
  | some working =>
    rw [applied] at processed
    obtain ⟨redis, returned⟩ := processed
    rw [bind_ok returned]
    simp only [Option.bind_eq_bind, Option.bind_some]
    cases inserted : working.insertProcessedEvent (delivery.event.mark delivery.env) with
    | error exc =>
      rw [bind_error (markProcessed_error quiet (by exact rfl) inserted)]
      rfl
    | ok marked =>
      rw [bind_ok (markProcessed_ok quiet (by exact rfl) inserted)]
      rfl

/-- A later delivery is told so, or fails where the event is marked twice. -/
theorem reply_marked {delivery : Delivery} (quiet : delivery.env.Quiet)
    (marked : store.database.processedRows delivery.event.id ≠ []) :
    delivery.reply store =
      if 1 < (store.database.processedRows delivery.event.id).length then .error .multipleResultsFound
      else .ok .alreadyProcessed := by
  change (handleStripeEvent delivery.event delivery.env store.open).1 = _
  rw [handleStripeEvent]
  split
  · next many => rw [bind_error (isProcessed_many quiet rfl (by exact many))]
  · next few =>
    rw [bind_ok (isProcessed_one quiet rfl (by exact Nat.not_lt.mp few))]
    cases rows : store.open.working.processedRows delivery.event.id with
    | nil => exact (marked rows).elim
    | cons row rest => rfl

theorem delivered_first {delivery : Delivery} (quiet : delivery.env.Quiet)
    (unprocessed : store.database.processedRows delivery.event.id = []) {after : Database}
    (applied : delivery.event.applied? delivery.env store.database = some after) :
    delivery.reply store = .ok .success ∧ (delivery.after store).database = after := by
  have answered := reply_first quiet unprocessed
  rw [applied] at answered
  refine ⟨answered, ?_⟩
  rcases delivered_cases delivery store with ⟨_, other⟩ | ⟨_, committed⟩
  · cases (other _ answered).1
  · exact Option.some.inj (committed.symm.trans applied)

theorem delivered_unchanged {delivery : Delivery}
    (refused : store.database.processedRows delivery.event.id = [] →
      delivery.event.applied? delivery.env store.database = none) :
    (delivery.after store).database = store.database := by
  rcases delivered_cases delivery store with ⟨same, _⟩ | ⟨unprocessed, committed⟩
  · exact same
  · rw [refused unprocessed] at committed
    cases committed

theorem EventData.process?_extends {data : EventData} {database after : Database}
    (processed : data.process? env database = some after) : Extends database after := by
  obtain ⟨change, _, applied⟩ := Option.bind_eq_some_iff.mp processed
  exact Change.applied?_extends applied

theorem applied?_eq_some {database after : Database} : event.applied? env database = some after ↔
    ∃ written, event.data.process? env database = some written ∧ event.payload ≠ none ∧
      ∃ fits : written.processedStripeEvents.Fits (event.mark env),
        after = { written with
          processedStripeEvents := written.processedStripeEvents.add (event.mark env) fits } := by
  rw [StripeEvent.applied?, Option.bind_eq_bind, Option.bind_eq_some_iff]
  simp only [toOption_eq_some, insertProcessedEvent_ok, StripeEvent.mark]

theorem applied?_unprocessed {database written : Database} (unprocessed : database.processedRows event.id = [])
    (serialized : event.payload ≠ none) (processed : event.data.process? env database = some written) :
    ∃ fits, event.applied? env database = some { written with
      processedStripeEvents := written.processedStripeEvents.add (event.mark env) fits } := by
  have fits : written.processedStripeEvents.Fits (event.mark env) := by
    rw [(EventData.process?_extends processed).processed]
    intro stored member clash
    obtain ⟨_, same⟩ := clash
    exact List.filter_eq_nil_iff.mp unprocessed stored member (beq_iff_eq.mpr same)
  exact ⟨fits, applied?_eq_some.mpr ⟨written, processed, serialized, fits, rfl⟩⟩

theorem applied?_processedRows {database after : Database} (applied : event.applied? env database = some after)
    (eventId : String) : after.processedRows eventId =
      database.processedRows eventId ++ if event.id = eventId then [event.mark env] else [] := by
  obtain ⟨written, processed, _, fits, rfl⟩ := applied?_eq_some.mp applied
  have same := (EventData.process?_extends processed).processed
  simp only [Database.processedRows, Table.select, Table.add_rows, same, List.filter_append, StripeEvent.mark,
    List.filter_singleton]
  by_cases equal : event.id = eventId
  · simp [equal]
  · simp [equal, beq_eq_false_iff_ne.mpr equal]

theorem commits_cases (delivery : Delivery) (store : Store) :
    delivery.Commits store ∧ delivery.event.applied? delivery.env store.database = some (delivery.after store).database ∨
      ¬ delivery.Commits store ∧ (delivery.after store).database = store.database := by
  rcases delivered_cases delivery store with ⟨same, _⟩ | ⟨unprocessed, applied⟩
  · exact Or.inr ⟨fun commits => commits.2 (by rw [same]; exact commits.1), same⟩
  · exact Or.inl ⟨⟨unprocessed, by simp [applied?_processedRows applied]⟩, applied⟩

theorem commits_of_success {delivery : Delivery} (answered : delivery.reply store = .ok .success) :
    delivery.Commits store := by
  rcases delivered_cases delivery store with ⟨_, other⟩ | ⟨unprocessed, applied⟩
  · cases (other _ answered).1
  · exact ⟨unprocessed, by simp [applied?_processedRows applied]⟩

theorem marked_of_answered {delivery : Delivery} {status : WebhookStatus} (answered : delivery.reply store = .ok status) :
    (delivery.after store).database.processedRows delivery.event.id ≠ [] := by
  rcases delivered_cases delivery store with ⟨same, marked⟩ | ⟨_, applied⟩
  · rw [same]
    exact (marked status answered).2
  · simp [applied?_processedRows applied]

theorem marked_after {delivery : Delivery} {eventId : String}
    (unmarked : (delivery.after store).database.processedRows eventId = []) :
    store.database.processedRows eventId = [] := by
  rcases commits_cases delivery store with ⟨_, applied⟩ | ⟨_, same⟩
  · rw [applied?_processedRows applied] at unmarked
    exact (List.append_eq_nil_iff.mp unmarked).1
  · exact same ▸ unmarked

theorem delivered_grows (delivery : Delivery) (store : Store) : Grows store.database (delivery.after store).database := by
  rcases commits_cases delivery store with ⟨_, applied⟩ | ⟨_, same⟩
  · obtain ⟨written, processed, _, _, final⟩ := applied?_eq_some.mp applied
    obtain ⟨plans, tenants⟩ := (EventData.process?_extends processed).toGrows
    rw [final]
    exact ⟨plans, tenants⟩
  · rw [same]
    exact .refl _

end MeteringBilling
