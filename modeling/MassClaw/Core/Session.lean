import MassClaw.Core.Models
import MassClaw.Lib.UnitOfWork

/-!
# Database sessions, `app/core/database.py`

The services of one request or one workflow run share a session, whose
statements become visible to others when it commits.  A service call is a script
over that session; it raises what the database raises or an error of its own.
-/

namespace MassClaw

/-- What a statement raises. -/
inductive DbError
  /-- `IntegrityError`: a foreign key or a unique constraint. -/
  | integrity
  /-- `DataError`: a value that its column does not accept. -/
  | data
  /-- `InvalidRequestError`: the row to refresh is not there. -/
  | notPersisted
  deriving DecidableEq

/-- An `AsyncSession`. -/
abbrev DbSession := UnitOfWork.Session Db DbError

/-- A call of a service, which raises errors of type `ξ`. -/
abbrev DbScript (ξ : Type) := UnitOfWork.Script Db DbError ξ

/-- A statement of a session. -/
abbrev DbStatement := UnitOfWork.Statement Db DbError

namespace DbScript

variable {ξ α : Type}

/-- A computation outside the database. -/
def ofExcept : Except ξ α → DbScript ξ α
  | .ok a => return a
  | .error error => throw (.raised error)

/-- `session.refresh`, for the row that was inserted last. -/
def refresh (moment : Db) (rows : Db → List α) : DbScript ξ α := do
  match ← UnitOfWork.Script.query moment (fun db => (rows db).getLast?) with
  | some row => return row
  | none => throw (.statement .notPersisted)

theorem refresh_settled {session : DbSession} (h : session.Settled) {moment : Db}
    {rows : Db → List α} {row : α} (hlast : (rows (session.view moment)).getLast? = some row) :
    (refresh moment rows : DbScript ξ α).exec session = (.ok row, session) := by
  unfold refresh
  rw [UnitOfWork.Script.exec_bind_ok (UnitOfWork.Script.query_settled h), hlast]
  rfl

end DbScript

namespace DbSession

/-- The writes of a session are still part of its transaction. -/
def StillWritten (session session' : DbSession) : Prop :=
  ∀ statement ∈ session.contents, statement ∈ session'.contents

theorem stillWritten_of_eq {session session' : DbSession}
    (h : session'.contents = session.contents) : session.StillWritten session' := by
  intro statement hmem
  rw [h]
  exact hmem

/-- What is part of an empty transaction. -/
theorem stillWritten_iff_of_empty {session session' : DbSession} (h : session'.contents = []) :
    session.StillWritten session' ↔ session.contents = [] := by
  unfold StillWritten
  rw [h]
  constructor
  · intro hall
    exact List.eq_nil_iff_forall_not_mem.2 (fun statement hmem =>
      List.not_mem_nil (hall statement hmem))
  · intro hnil statement hmem
    rw [hnil] at hmem
    cases hmem

end DbSession

end MassClaw
