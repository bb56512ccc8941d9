import Mathlib.Data.List.Basic
import Mathlib.Order.Monotone.Basic
import Mathlib.Tactic.Common

/-!
# Units of work over a shared database

A session collects statements in a transaction.  An object that is added is
pending until a flush runs its statement; every query flushes first, and so does
the begin of a savepoint.  A flush that fails takes back all statements since the
innermost savepoint, or since the begin of the transaction, and leaves the
session inactive: nothing but a rollback works on it.

Other sessions commit in between, so every operation is given the committed
database of its moment; the session sees its own statements on top of it.

A `Script` is a program over a session.  It returns or raises, and the session
is left as it is at that point in both cases.
-/

namespace UnitOfWork

universe u

/-- What a statement does to the database that it sees. -/
abbrev Statement (σ ε : Type u) := σ → Except ε σ

/-- The open transaction of a session. -/
structure Session (σ ε : Type u) where
  /-- The statements since the innermost savepoint. -/
  recent : List (Statement σ ε)
  /-- The statements before each savepoint, the innermost first. -/
  saved : List (List (Statement σ ε))
  /-- The objects that were added since the last flush. -/
  pending : List (Statement σ ε)
  /-- A flush has failed. -/
  inactive : Bool

/-- What a script raises. -/
inductive Failure (ε ξ : Type u)
  /-- A statement failed. -/
  | statement (error : ε)
  /-- The session is inactive. -/
  | inactive
  /-- An error of the program itself. -/
  | raised (error : ξ)
  deriving DecidableEq

namespace Session

variable {σ ε : Type u}

/-- A session without a transaction. -/
def fresh : Session σ ε where
  recent := []
  saved := []
  pending := []
  inactive := false

/-- The statements of the transaction. -/
def written (session : Session σ ε) : List (Statement σ ε) :=
  session.saved.reverse.flatten ++ session.recent

/-- Everything that a commit would store. -/
def contents (session : Session σ ε) : List (Statement σ ε) :=
  session.written ++ session.pending

/-- The database after a statement; one that fails changes nothing. -/
def apply (db : σ) (statement : Statement σ ε) : σ :=
  match statement db with
  | .ok db' => db'
  | .error _ => db

/-- What the session sees of a committed database. -/
def view (session : Session σ ε) (committed : σ) : σ :=
  session.written.foldl apply committed

/-- The session after its pending statements were flushed. -/
def wrote (session : Session σ ε) (statements : List (Statement σ ε)) : Session σ ε :=
  { session with recent := session.recent ++ statements, pending := [] }

/-- The session after a failed flush. -/
def failed (session : Session σ ε) : Session σ ε :=
  { session with recent := [], pending := [], inactive := true }

/-- What was flushed last is seen last. -/
theorem view_wrote {session : Session σ ε} {statement : Statement σ ε} {committed db : σ}
    (h : statement (session.view committed) = .ok db) :
    (session.wrote [statement]).view committed = db := by
  unfold view written wrote
  rw [← List.append_assoc, List.foldl_append]
  show apply (session.view committed) statement = db
  rw [apply, h]

/-- After a failed flush, what was written before the innermost savepoint is
left. -/
theorem contents_failed (session : Session σ ε) :
    session.failed.contents = session.saved.reverse.flatten := by
  simp [contents, written, failed]

@[simp] theorem contents_fresh : (fresh : Session σ ε).contents = [] := rfl

@[simp] theorem view_fresh (committed : σ) : (fresh : Session σ ε).view committed = committed := rfl

end Session

/-- A program over a session. -/
abbrev Script (σ ε ξ : Type u) := ExceptT (Failure ε ξ) (StateM (Session σ ε))

namespace Script

variable {σ ε ξ α β : Type u}

/-- How a script ends, and the session that it leaves. -/
def exec (script : Script σ ε ξ α) (session : Session σ ε) :
    Except (Failure ε ξ) α × Session σ ε :=
  StateT.run (ExceptT.run script) session

/-- `try` and `except`: how the script ends, as a value. -/
def attempt (script : Script σ ε ξ α) : Script σ ε ξ (Except (Failure ε ξ) α) :=
  ExceptT.mk fun session => (.ok (script.exec session).1, (script.exec session).2)

/-- `session.add`. -/
def add (statement : Statement σ ε) : Script σ ε ξ PUnit :=
  ExceptT.mk fun session =>
    (.ok ⟨⟩, { session with pending := session.pending ++ [statement] })

/-- `session.flush`: the pending statements, in the order of their objects.
Without any it does nothing, not even on an inactive session. -/
def flush (committed : σ) : Script σ ε ξ PUnit :=
  ExceptT.mk fun session =>
    if session.pending = [] then (.ok ⟨⟩, session)
    else if session.inactive then (.error .inactive, session)
    else
      match session.pending.foldlM (fun db statement => statement db) (session.view committed) with
      | .ok _ => (.ok ⟨⟩, session.wrote session.pending)
      | .error error => (.error (.statement error), session.failed)

/-- What every operation on the connection checks. -/
def checkActive : Script σ ε ξ PUnit :=
  ExceptT.mk fun session =>
    if session.inactive then (.error .inactive, session) else (.ok ⟨⟩, session)

/-- A query, with the flush before it. -/
def query (committed : σ) (read : σ → α) : Script σ ε ξ α := do
  flush committed
  checkActive
  ExceptT.mk fun session => (.ok (read (session.view committed)), session)

/-- The begin of a savepoint, with the flush before it. -/
def beginNested (committed : σ) : Script σ ε ξ PUnit := do
  flush committed
  checkActive
  ExceptT.mk fun session =>
    (.ok ⟨⟩, { session with recent := [], saved := session.recent :: session.saved })

/-- The release of the innermost savepoint. -/
def release : Script σ ε ξ PUnit :=
  ExceptT.mk fun session =>
    (.ok ⟨⟩,
      { session with
        recent := session.saved.headD [] ++ session.recent
        saved := session.saved.tail })

/-- Back to the innermost savepoint. -/
def rollbackNested : Script σ ε ξ PUnit :=
  ExceptT.mk fun session =>
    (.ok ⟨⟩,
      { recent := session.saved.headD []
        saved := session.saved.tail
        pending := []
        inactive := false })

/-- `async with session.begin_nested()`. -/
def nested (committed : σ) (body : Script σ ε ξ α) : Script σ ε ξ α := do
  beginNested committed
  match ← attempt (do let result ← body; flush committed; release; return result) with
  | .ok result => return result
  | .error failure => do
    rollbackNested
    throw failure

/-- `session.rollback`: of all savepoints and the transaction. -/
def rollback : Script σ ε ξ PUnit := ExceptT.mk fun _ => (.ok ⟨⟩, .fresh)

/-- `session.commit`: the database afterwards. -/
def commit (committed : σ) : Script σ ε ξ σ := do
  flush committed
  ExceptT.mk fun session =>
    if session.inactive then (.error .inactive, session) else (.ok (session.view committed), .fresh)

/-! ## Running a script -/

section Exec

variable {session session' : Session σ ε} {script : Script σ ε ξ α} {next : α → Script σ ε ξ β}

@[simp] theorem exec_pure (a : α) :
    (pure a : Script σ ε ξ α).exec session = (.ok a, session) := rfl

@[simp] theorem exec_throw (failure : Failure ε ξ) :
    (throw failure : Script σ ε ξ α).exec session = (.error failure, session) := rfl

theorem exec_bind : (script >>= next).exec session =
    match script.exec session with
    | (.ok a, session') => (next a).exec session'
    | (.error failure, session') => (.error failure, session') := by
  unfold exec StateT.run ExceptT.run
  simp only [bind, ExceptT.bind, ExceptT.mk, StateT.bind, ExceptT.bindCont]
  cases script session with
  | mk result session' =>
    cases result with
    | ok a => rfl
    | error failure => rfl

theorem exec_bind_ok {a : α} (h : script.exec session = (.ok a, session')) :
    (script >>= next).exec session = (next a).exec session' := by
  rw [exec_bind, h]

theorem exec_bind_error {failure : Failure ε ξ}
    (h : script.exec session = (.error failure, session')) :
    (script >>= next).exec session = (.error failure, session') := by
  rw [exec_bind, h]

/-- A sequence that returns has a first part that returned. -/
theorem exec_bind_eq_ok {b : β} {session'' : Session σ ε}
    (h : (script >>= next).exec session = (.ok b, session'')) :
    ∃ a session', script.exec session = (.ok a, session') ∧
      (next a).exec session' = (.ok b, session'') := by
  rw [exec_bind] at h
  cases hscript : script.exec session with
  | mk result session' =>
    rw [hscript] at h
    cases result with
    | ok a => exact ⟨a, session', rfl, h⟩
    | error failure => cases h

theorem exec_attempt : (attempt script).exec session =
    (.ok (script.exec session).1, (script.exec session).2) := rfl

@[simp] theorem exec_add (statement : Statement σ ε) :
    (add statement : Script σ ε ξ PUnit).exec session =
      (.ok ⟨⟩, { session with pending := session.pending ++ [statement] }) := rfl

@[simp] theorem exec_rollback :
    (rollback : Script σ ε ξ PUnit).exec session = (.ok ⟨⟩, Session.fresh) := rfl

end Exec

/-! ## Flushes and queries -/

end Script

/-- Nothing is pending, and the session can be used. -/
structure Session.Settled {σ ε : Type u} (session : Session σ ε) : Prop where
  pending : session.pending = []
  active : session.inactive = false

theorem Session.settled_fresh {σ ε : Type u} : (Session.fresh : Session σ ε).Settled := ⟨rfl, rfl⟩

theorem Session.Settled.wrote {σ ε : Type u} {session : Session σ ε} (h : session.Settled)
    (statements : List (Statement σ ε)) : (session.wrote statements).Settled := ⟨rfl, h.active⟩

theorem Session.Settled.contents_wrote {σ ε : Type u} {session : Session σ ε} (h : session.Settled)
    (statements : List (Statement σ ε)) :
    (session.wrote statements).contents = session.contents ++ statements := by
  simp [contents, written, Session.wrote, h.pending]

namespace Script

section Flush

variable {σ ε ξ α : Type u} {session session' : Session σ ε} {committed : σ} {read : σ → α}

theorem exec_flush : (flush committed : Script σ ε ξ PUnit).exec session =
    if session.pending = [] then (.ok ⟨⟩, session)
    else if session.inactive then (.error .inactive, session)
    else
      match session.pending.foldlM (fun db statement => statement db) (session.view committed) with
      | .ok _ => (.ok ⟨⟩, session.wrote session.pending)
      | .error error => (.error (.statement error), session.failed) := rfl

theorem exec_checkActive : (checkActive : Script σ ε ξ PUnit).exec session =
    if session.inactive then (.error .inactive, session) else (.ok ⟨⟩, session) := rfl

theorem flush_nil (h : session.pending = []) :
    (flush committed : Script σ ε ξ PUnit).exec session = (.ok ⟨⟩, session) := if_pos h

/-- A flush that returns has written what was pending. -/
theorem flush_ok (h : (flush committed : Script σ ε ξ PUnit).exec session = (.ok ⟨⟩, session')) :
    session'.contents = session.contents ∧ session'.saved = session.saved ∧
      session'.pending = [] ∧ (session.pending ≠ [] → session'.inactive = false) := by
  rw [exec_flush] at h
  split at h
  · rename_i hnil
    cases h
    exact ⟨rfl, rfl, hnil, fun hne => absurd hnil hne⟩
  · split at h
    · cases h
    · rename_i hactive
      split at h
      · cases h
        refine ⟨?_, rfl, rfl, fun _ => Bool.eq_false_iff.2 hactive⟩
        simp [Session.contents, Session.written, Session.wrote, List.append_assoc]
      · cases h

/-- The flush of one object. -/
theorem flush_add (h : session.Settled) (statement : Statement σ ε) :
    (flush committed : Script σ ε ξ PUnit).exec
        { session with pending := session.pending ++ [statement] } =
      match statement (session.view committed) with
      | .ok _ => (.ok ⟨⟩, session.wrote [statement])
      | .error error => (.error (.statement error), session.failed) := by
  have hview : Session.view { session with pending := [statement] } committed =
      session.view committed := rfl
  rw [h.pending, List.nil_append, exec_flush, if_neg (List.cons_ne_nil _ _),
    if_neg (Bool.eq_false_iff.1 h.active), List.foldlM_cons, hview]
  cases statement (session.view committed) with
  | ok db => rfl
  | error error => rfl

/-- A query that returns sees what was pending, too. -/
theorem query_ok {a : α}
    (h : (query committed read : Script σ ε ξ α).exec session = (.ok a, session')) :
    session'.Settled ∧ session'.contents = session.contents ∧ session'.saved = session.saved ∧
      a = read (session'.view committed) := by
  unfold query at h
  obtain ⟨_, flushed, hflush, h⟩ := exec_bind_eq_ok h
  obtain ⟨hcontents, hsaved, hpending, -⟩ := flush_ok hflush
  obtain ⟨_, checked, hcheck, h⟩ := exec_bind_eq_ok h
  rw [exec_checkActive] at hcheck
  split at hcheck
  · cases hcheck
  · rename_i hactive
    cases hcheck
    cases h
    exact ⟨⟨hpending, Bool.eq_false_iff.2 hactive⟩, hcontents, hsaved, rfl⟩

/-- A query on a settled session. -/
theorem query_settled (h : session.Settled) :
    (query committed read : Script σ ε ξ α).exec session =
      (.ok (read (session.view committed)), session) := by
  unfold query
  rw [exec_bind_ok (flush_nil h.pending)]
  have hcheck : (checkActive : Script σ ε ξ PUnit).exec session = (.ok ⟨⟩, session) :=
    if_neg (Bool.eq_false_iff.1 h.active)
  rw [exec_bind_ok hcheck]
  rfl

/-- A query on an inactive session. -/
theorem query_inactive (h : session.inactive = true) :
    (query committed read : Script σ ε ξ α).exec session = (.error .inactive, session) := by
  unfold query
  by_cases hpending : session.pending = []
  · rw [exec_bind_ok (flush_nil hpending)]
    exact exec_bind_error (if_pos h)
  · refine exec_bind_error ?_
    rw [exec_flush, if_neg hpending, if_pos h]

/-- A savepoint around a flush protects nothing: its begin flushes, and inside
of it there is nothing left to flush. -/
theorem nested_flush (h : session.pending ≠ []) :
    (nested committed (flush committed) : Script σ ε ξ PUnit).exec session =
      (flush committed : Script σ ε ξ PUnit).exec session := by
  unfold nested
  cases hflush : (flush committed : Script σ ε ξ PUnit).exec session with
  | mk result flushed =>
    cases result with
    | error failure => exact exec_bind_error (exec_bind_error hflush)
    | ok u =>
      obtain ⟨-, -, hpending, hactive⟩ := flush_ok hflush
      have hbegin : (beginNested committed : Script σ ε ξ PUnit).exec session =
          (.ok ⟨⟩, { flushed with recent := [], saved := flushed.recent :: flushed.saved }) := by
        unfold beginNested
        rw [exec_bind_ok hflush]
        have hcheck : (checkActive : Script σ ε ξ PUnit).exec flushed = (.ok ⟨⟩, flushed) :=
          if_neg (Bool.eq_false_iff.1 (hactive h))
        rw [exec_bind_ok hcheck]
        rfl
      have hinner : ∀ inner : Session σ ε, inner.pending = [] →
          (do let result ← flush committed; flush committed; release; return result :
            Script σ ε ξ PUnit).exec inner =
          (.ok ⟨⟩, { inner with
            recent := inner.saved.headD [] ++ inner.recent
            saved := inner.saved.tail }) := by
        intro inner hnil
        rw [exec_bind_ok (flush_nil hnil), exec_bind_ok (flush_nil hnil)]
        rfl
      rw [exec_bind_ok hbegin, exec_bind, exec_attempt,
        hinner { flushed with recent := [], saved := flushed.recent :: flushed.saved } hpending]
      show (_, _) = (_, _)
      simp

/-- A commit without pending objects. -/
theorem exec_commit (h : session.pending = []) :
    (commit committed : Script σ ε ξ σ).exec session =
      if session.inactive then (.error .inactive, session)
      else (.ok (session.view committed), Session.fresh) := by
  unfold commit
  rw [exec_bind_ok (flush_nil h)]
  rfl

/-- The flush of one object behind a savepoint is its flush. -/
theorem nested_flush_add (h : session.Settled) (statement : Statement σ ε) :
    (nested committed (flush committed) : Script σ ε ξ PUnit).exec
        { session with pending := session.pending ++ [statement] } =
      match statement (session.view committed) with
      | .ok _ => (.ok ⟨⟩, session.wrote [statement])
      | .error error => (.error (.statement error), session.failed) := by
  rw [nested_flush (List.append_ne_nil_of_right_ne_nil _ (List.cons_ne_nil _ _)), flush_add h]

end Flush

end Script

/-! ## Statements that only add -/

namespace Session

section Adds

variable {σ ε : Type u} [Preorder σ]

/-- The statement takes nothing away, and leaves more of more. -/
structure Adds (statement : Statement σ ε) : Prop where
  le_apply : ∀ db, db ≤ apply db statement
  mono : Monotone (fun db => apply db statement)

/-- The session has written nothing that takes anything away. -/
def OnlyAdds (session : Session σ ε) : Prop := ∀ statement ∈ session.written, Adds statement

variable {session : Session σ ε} {statement : Statement σ ε} {db db' : σ}

theorem onlyAdds_fresh : (fresh : Session σ ε).OnlyAdds :=
  fun _ hmem => absurd hmem List.not_mem_nil

theorem OnlyAdds.wrote (h : session.OnlyAdds) (hadds : Adds statement) :
    (session.wrote [statement]).OnlyAdds := by
  intro other hother
  have hmem : other ∈ session.written ++ [statement] := by
    rw [written, List.append_assoc]
    exact hother
  rcases List.mem_append.1 hmem with hold | hnew
  · exact h other hold
  · rw [List.mem_singleton.1 hnew]
    exact hadds

theorem foldl_apply_mono {statements : List (Statement σ ε)}
    (h : ∀ statement ∈ statements, Adds statement) :
    Monotone (fun db => statements.foldl apply db) := by
  induction statements with
  | nil => exact fun _ _ hle => hle
  | cons statement rest ih =>
    intro db db' hle
    exact ih (fun other hother => h other (List.mem_cons_of_mem _ hother))
      ((h statement List.mem_cons_self).mono hle)

theorem le_foldl_apply {statements : List (Statement σ ε)}
    (h : ∀ statement ∈ statements, Adds statement) (db : σ) : db ≤ statements.foldl apply db := by
  induction statements generalizing db with
  | nil => exact le_refl db
  | cons statement rest ih =>
    exact ((h statement List.mem_cons_self).le_apply db).trans
      (ih (fun other hother => h other (List.mem_cons_of_mem _ hother)) _)

/-- A session that only adds sees more when more is committed. -/
theorem OnlyAdds.view_mono (h : session.OnlyAdds) : Monotone session.view := foldl_apply_mono h

/-- It sees everything that is committed. -/
theorem OnlyAdds.le_view (h : session.OnlyAdds) (db : σ) : db ≤ session.view db :=
  le_foldl_apply h db

/-- What it has seen before a statement, it sees afterwards. -/
theorem view_le_wrote (hadds : Adds statement) (db : σ) :
    session.view db ≤ (session.wrote [statement]).view db := by
  have hview : (session.wrote [statement]).view db = apply (session.view db) statement := by
    unfold view written wrote
    rw [← List.append_assoc, List.foldl_append]
    rfl
  rw [hview]
  exact hadds.le_apply _

end Adds

end Session

end UnitOfWork
