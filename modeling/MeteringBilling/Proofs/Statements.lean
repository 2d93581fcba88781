import MeteringBilling.Cache
import MeteringBilling.Repositories

/-! What the primitive operations of a session do when the database does not fail, what
they leave alone when it does, and what an aborted transaction answers. -/

namespace MeteringBilling

variable {α β : Type} {env : Env} {session : Session}

theorem statement_quiet (quiet : env.Quiet) (live : session.aborted = false) (place : Statement)
    (run : Database → Except PyError (α × Database)) :
    statement place run env session = match run session.working with
      | .ok (value, working) => (.ok value, { session with working })
      | .error error => (.error error, { session with aborted := true }) := by
  have calm := quiet env.attempt place
  unfold statement
  rw [live, calm]
  exact if_neg Bool.false_ne_true

@[simp] theorem query_quiet (quiet : env.Quiet) (live : session.aborted = false) (place : Statement)
    (read : Database → α) : query place read env session = (.ok (read session.working), session) :=
  statement_quiet quiet live place _

theorem execute_ok (quiet : env.Quiet) (live : session.aborted = false) (place : Statement)
    {write : Database → Except PyError Database} {after : Database} (written : write session.working = .ok after) :
    execute place write env session = (.ok (), { session with working := after }) := by
  rw [execute, statement_quiet quiet live, written]; rfl

theorem execute_error (quiet : env.Quiet) (live : session.aborted = false) (place : Statement)
    {write : Database → Except PyError Database} {error : PyError} (failed : write session.working = .error error) :
    execute place write env session = (.error error, { session with aborted := true }) := by
  rw [execute, statement_quiet quiet live, failed]; rfl

theorem commit_quiet (quiet : env.Quiet) (live : session.aborted = false) (place : Statement) :
    commit place env session = (.ok (), { session with committed := session.working }) := by
  simp only [commit, live, Bool.false_eq_true, if_false, quiet env.attempt place]

theorem statement_returned {place : Statement} {run : Database → Except PyError (α × Database)} {value : α}
    {after : Session} (returned : statement place run env session = (.ok value, after)) :
    ∃ working, run session.working = .ok (value, working) ∧ after = { session with working } := by
  unfold statement at returned
  split at returned
  · cases (Prod.mk.inj returned).1
  · split at returned
    · cases (Prod.mk.inj returned).1
    · split at returned
      · next result working ran =>
        obtain ⟨same, rfl⟩ := Prod.mk.inj returned
        exact ⟨working, by rw [ran, Except.ok.inj same], rfl⟩
      · cases (Prod.mk.inj returned).1

theorem execute_returned {place : Statement} {write : Database → Except PyError Database} {after : Session}
    (returned : execute place write env session = (.ok (), after)) :
    ∃ working, write session.working = .ok working ∧ after = { session with working } := by
  obtain ⟨working, ran, same⟩ := statement_returned returned
  cases written : write session.working with
  | error exc => rw [written] at ran; cases ran
  | ok database =>
    rw [written] at ran
    exact ⟨working, by rw [(Prod.mk.inj (Except.ok.inj ran)).2], same⟩

theorem query_returned {place : Statement} {read : Database → α} {value : α} {after : Session}
    (returned : query place read env session = (.ok value, after)) : after = session := by
  obtain ⟨working, ran, same⟩ := statement_returned returned
  rw [same, ← (Prod.mk.inj (Except.ok.inj ran)).2]

theorem commit_cases (place : Statement) (env : Env) (session : Session) :
    commit place env session = (.ok (), { session with committed := session.working }) ∨
      ∃ exc after, commit place env session = (.error exc, after) ∧ after.committed = session.committed := by
  unfold commit
  split
  · exact Or.inr ⟨_, _, rfl, rfl⟩
  · split
    · exact Or.inr ⟨_, _, rfl, rfl⟩
    · exact Or.inl rfl

@[simp] theorem now_apply (place : Clock) : now place env session = (.ok (env.now env.attempt place), session) := rfl

@[simp] theorem uuid4_apply (row : Row) : uuid4 row env session = (.ok (env.uuid4 env.attempt row), session) := rfl

@[simp] theorem scalarOneOrNone_toList (row : Option α) :
    scalarOneOrNone row.toList env session = (.ok row, session) := by
  cases row <;> rfl

theorem scalarOneOrNone_one {rows : List α} (few : rows.length ≤ 1) :
    scalarOneOrNone rows env session = (.ok rows.head?, session) := by
  match rows with
  | [] | [_] => rfl
  | _ :: _ :: _ => simp at few

theorem scalarOneOrNone_many {rows : List α} (many : 1 < rows.length) :
    scalarOneOrNone rows env session = (.error .multipleResultsFound, session) := by
  match rows with
  | [] | [_] => simp at many
  | _ :: _ :: _ => rfl

/-- Statements write the working tables only: whatever ignores these is kept. -/
theorem statement_keeps {τ : Type} {view : Session → τ}
    (kept : ∀ session working aborted, view { session with working, aborted } = view session)
    (place : Statement) (run : Database → Except PyError (α × Database)) :
    Effect.Keeps view (statement place run : Request α) := by
  intro env session
  unfold statement
  split
  · rfl
  · split
    · exact kept session session.working true
    · split
      · exact kept session _ session.aborted
      · exact kept session session.working true

theorem query_keeps {τ : Type} {view : Session → τ}
    (kept : ∀ session working aborted, view { session with working, aborted } = view session)
    (place : Statement) (read : Database → α) : Effect.Keeps view (query place read : Request α) :=
  statement_keeps kept place _

theorem query_reads {τ : Type} {view : Session → τ} (kept : ∀ session aborted, view { session with aborted } = view session)
    (place : Statement) (read : Database → α) : Effect.Keeps view (query place read : Request α) := by
  intro env session
  unfold query statement
  split
  · rfl
  · split
    · exact kept session true
    · rfl

theorem execute_keeps {τ : Type} {view : Session → τ}
    (kept : ∀ session working aborted, view { session with working, aborted } = view session)
    (place : Statement) (write : Database → Except PyError Database) :
    Effect.Keeps view (execute place write : Request Unit) :=
  statement_keeps kept place _

theorem scalarOneOrNone_keeps {τ : Type} {view : Session → τ} (rows : List α) :
    Effect.Keeps view (scalarOneOrNone rows : Request (Option α)) := by
  match rows with
  | [] => exact .pure _
  | [_] => exact .pure _
  | _ :: _ :: _ => exact .raise _

theorem cacheDelete_keeps {τ : Type} {view : Session → τ}
    (kept : ∀ session redis, view { session with redis } = view session) (key : String) :
    Effect.Keeps view (cacheDelete key) := by
  intro env session
  unfold cacheDelete
  dsimp only
  split
  · exact kept session _
  · rfl

namespace Agrees

open Effect (Agrees)

theorem statement (place : Statement) (run : Database → Except PyError (α × Database)) :
    Agrees Env.calm (MeteringBilling.statement place run) := by
  intro env session value after returned
  unfold MeteringBilling.statement at returned
  split at returned
  · simp at returned
  · next live =>
    split at returned
    · simp at returned
    · rw [statement_quiet env.calm_quiet (by simpa using live)]
      exact returned

theorem query (place : Statement) (read : Database → α) : Agrees Env.calm (MeteringBilling.query place read) :=
  Agrees.statement place _

theorem execute (place : Statement) (write : Database → Except PyError Database) :
    Agrees Env.calm (MeteringBilling.execute place write) :=
  Agrees.statement place _

theorem commit (place : Statement) : Agrees Env.calm (MeteringBilling.commit place) := by
  intro env session value after returned
  unfold MeteringBilling.commit at returned
  split at returned
  · simp at returned
  · next live =>
    split at returned
    · simp at returned
    · rw [commit_quiet env.calm_quiet (by simpa using live)]
      exact returned

theorem scalarOneOrNone (rows : List α) : Agrees Env.calm (MeteringBilling.scalarOneOrNone rows) := by
  match rows with
  | [] => exact .pure _
  | [_] => exact .pure _
  | _ :: _ :: _ => exact .raise _

theorem now (place : Clock) : Agrees Env.calm (MeteringBilling.now place) := .ask fun _ => rfl

theorem uuid4 (row : Row) : Agrees Env.calm (MeteringBilling.uuid4 row) := .ask fun _ => rfl

theorem cacheGet (key : String) : Agrees Env.calm (MeteringBilling.cacheGet key) := fun _ _ _ _ returned => returned

theorem cacheSet (key : String) (value : Json) (ttlSeconds : Nat) :
    Agrees Env.calm (MeteringBilling.cacheSet key value ttlSeconds) := fun _ _ _ _ returned => returned

theorem cacheDelete (key : String) : Agrees Env.calm (MeteringBilling.cacheDelete key) :=
  fun _ _ _ _ returned => returned

end Agrees

end MeteringBilling
