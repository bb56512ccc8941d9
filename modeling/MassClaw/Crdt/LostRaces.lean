import MassClaw.Core.Session
import MassClaw.Crdt.Contract

/-!
# `put` in a session

`put` guards its insertion with a SAVEPOINT, but the row is added before.  The
begin of the SAVEPOINT flushes it, so an insertion that another writer has
overtaken fails outside of the SAVEPOINT (`UnitOfWork.Script.nested_flush`).
The writes since the enclosing savepoint are lost, and the session is inactive
when the `except` branch asks it for the row of the other writer.
-/

namespace MassClaw

open UnitOfWork (Script Failure)
open UnitOfWork.Script (query add flush nested attempt)

namespace CRDTStore

/-- The committed database when `put` checks for the hash, when it flushes and
when it looks again. -/
structure PutMoments where
  check : Db
  flush : Db
  reread : Db

/-- `_fetch_by_hash`, which is called for a hash only. -/
def lookup (moment : Db) (contentHash : Option String) : DbScript StoreError (Option MemoryRecord) :=
  if contentHash.isSome then query moment (fun db => db.fetchByHash contentHash) else return none

/-- The `INSERT` of the new row. -/
def insertion (host : Host) (now : Time) (write : MemoryWrite) (contentHash : Option String)
    (signature : Option Json) : DbStatement := fun db =>
  match write.row? host contentHash signature now with
  | none => .error .data
  | some record =>
    match db.insertMemoryRecord record with
    | .ok (_, db') => .ok db'
    | .error _ => .error .integrity

/-- The end of `put`, for a hash without a row. -/
def insertGuarded (host : Host) (moments : PutMoments) (now : Time) (write : MemoryWrite)
    (contentHash : Option String) (signature : Option Json) : DbScript StoreError MemoryRecord := do
  add (insertion host now write contentHash signature)
  match ← attempt (nested moments.flush (flush moments.flush)) with
  | .ok _ => DbScript.refresh moments.flush (fun db => db.memoryRecords.rows)
  | .error (.statement .integrity) =>
    match ← lookup moments.reread contentHash with
    | some existing => return existing
    | none => throw (.raised .writeFailed)
  | .error failure => throw failure

/-- `put` on a session. -/
def putIn (host : Host) (moments : PutMoments) (now : Time) (write : MemoryWrite)
    (keypair : Option KeyPair) (precomputedHash : Option String)
    (precomputedSignature : Option Json) : DbScript StoreError MemoryRecord := do
  let (contentHash, signature) ← DbScript.ofExcept
    (resolveHashAndSignature host write.canonicalBody keypair precomputedHash precomputedSignature)
  match ← lookup moments.check contentHash with
  | some existing => return existing
  | none => insertGuarded host moments now write contentHash signature

section Calls

variable {host : Host} {moments : PutMoments} {now : Time} {write : MemoryWrite}
  {session checked : DbSession} {contentHash : Option String} {signature : Option Json}

/-- The SAVEPOINT is of no use for the insertion. -/
theorem guardedFlush (h : checked.Settled) :
    (nested moments.flush (flush moments.flush) : DbScript StoreError PUnit).exec
        { checked with pending := checked.pending ++ [insertion host now write contentHash signature] } =
      match insertion host now write contentHash signature (checked.view moments.flush) with
      | .ok _ => (.ok ⟨⟩, checked.wrote [insertion host now write contentHash signature])
      | .error error => (.error (.statement error), checked.failed) := by
  rw [Script.nested_flush (List.append_ne_nil_of_right_ne_nil _ (List.cons_ne_nil _ _)),
    Script.flush_add h]
  cases insertion host now write contentHash signature (checked.view moments.flush) with
  | ok db => rfl
  | error error => rfl

/-- An insertion that fails raises: there is no row to return. -/
theorem insertGuarded_fails (h : checked.Settled) {error : DbError}
    (hfails : insertion host now write contentHash signature (checked.view moments.flush) =
      .error error) :
    (insertGuarded host moments now write contentHash signature).exec checked =
      (.error (if error = .integrity then
          if contentHash.isSome then .inactive else .raised .writeFailed
        else .statement error), checked.failed) := by
  unfold insertGuarded
  rw [Script.exec_bind_ok (Script.exec_add _), Script.exec_bind_ok Script.exec_attempt,
    guardedFlush h, hfails]
  cases error with
  | integrity =>
    dsimp only
    rw [if_pos rfl]
    cases hsome : contentHash.isSome with
    | true =>
      rw [if_pos rfl]
      refine Script.exec_bind_error ?_
      unfold lookup
      rw [if_pos hsome]
      exact Script.query_inactive rfl
    | false =>
      rw [if_neg Bool.false_ne_true]
      have hlookup : (lookup moments.reread contentHash).exec (checked.failed) =
          (.ok none, checked.failed) := by
        unfold lookup
        rw [if_neg (Bool.eq_false_iff.1 hsome)]
        rfl
      rw [Script.exec_bind_ok hlookup]
      rfl
  | data => rfl
  | notPersisted => rfl

/-- An insertion that goes through returns its row. -/
theorem insertGuarded_ok (h : checked.Settled) {db : Db}
    (hok : insertion host now write contentHash signature (checked.view moments.flush) = .ok db) :
    ∃ row, db.memoryRecords.rows.getLast? = some row ∧
      (insertGuarded host moments now write contentHash signature).exec checked =
        (.ok row, checked.wrote [insertion host now write contentHash signature]) := by
  have hlast : ∃ row, db.memoryRecords.rows.getLast? = some row := by
    unfold insertion at hok
    split at hok
    · cases hok
    · split at hok
      · rename_i row db' hinsert
        cases hok
        obtain ⟨-, hrows, -⟩ := Db.insertMemoryRecord_eq_ok hinsert
        rw [hrows]
        exact ⟨row, List.getLast?_concat⟩
      · cases hok
  obtain ⟨row, hlast⟩ := hlast
  refine ⟨row, hlast, ?_⟩
  unfold insertGuarded
  rw [Script.exec_bind_ok (Script.exec_add _), Script.exec_bind_ok Script.exec_attempt,
    guardedFlush h, hok]
  refine DbScript.refresh_settled (h.wrote _) ?_
  rw [UnitOfWork.Session.view_wrote hok, hlast]

/-- A look-up leaves a settled session with the same writes. -/
theorem lookup_some {moment : Db} {hash : String} {found : Option MemoryRecord}
    (h : (lookup moment (some hash)).exec session = (.ok found, checked)) :
    checked.Settled ∧ checked.contents = session.contents ∧ checked.saved = session.saved := by
  unfold lookup at h
  rw [if_pos Option.isSome_some] at h
  obtain ⟨hsettled, hcontents, hsaved, -⟩ := Script.query_ok h
  exact ⟨hsettled, hcontents, hsaved⟩

end Calls

/-! ## What is returned -/

/-- The row of an insertion into the database that the session sees. -/
theorem insertGuarded_returns_iff {host : Host} {moments : PutMoments} {now : Time}
    {write : MemoryWrite} {contentHash : Option String} {signature : Option Json}
    {session : DbSession} (h : session.Settled) {row : MemoryRecord} :
    (∃ session', (insertGuarded host moments now write contentHash signature).exec session =
        (.ok row, session')) ↔
      ∃ db' : Db, (match write.row? host contentHash signature now with
        | none => (.error .data : Except StoreError (MemoryRecord × Db))
        | some record => ((session.view moments.flush).insertMemoryRecord record).mapError
            (afterFailedFlush contentHash)) = .ok (row, db') := by
  have hfails : ∀ {error : DbError},
      insertion host now write contentHash signature (session.view moments.flush) = .error error →
      ¬∃ session', (insertGuarded host moments now write contentHash signature).exec session =
        (.ok row, session') := by
    intro error herror ⟨session', hok⟩
    rw [insertGuarded_fails h herror] at hok
    cases hok
  cases hrow : write.row? host contentHash signature now with
  | none =>
    have herror : insertion host now write contentHash signature (session.view moments.flush) =
        .error .data := by
      unfold insertion
      rw [hrow]
    refine iff_of_false (hfails herror) ?_
    intro hreturned
    obtain ⟨db', hok⟩ := hreturned
    cases hok
  | some record =>
    cases hinsert : (session.view moments.flush).insertMemoryRecord record with
    | error error =>
      have herror : insertion host now write contentHash signature (session.view moments.flush) =
          .error .integrity := by
        unfold insertion
        rw [hrow]
        dsimp only
        rw [hinsert]
      refine iff_of_false (hfails herror) ?_
      dsimp only
      rw [hinsert]
      intro hreturned
      obtain ⟨db', hok⟩ := hreturned
      cases hok
    | ok result =>
      obtain ⟨inserted, db⟩ := result
      have hok : insertion host now write contentHash signature (session.view moments.flush) =
          .ok db := by
        unfold insertion
        rw [hrow]
        dsimp only
        rw [hinsert]
      obtain ⟨last, hlast, hexec⟩ := insertGuarded_ok h hok
      obtain ⟨-, hrows, -⟩ := Db.insertMemoryRecord_eq_ok hinsert
      rw [hrows, List.getLast?_concat, Option.some.injEq] at hlast
      subst hlast
      dsimp only
      rw [hexec, hinsert]
      constructor
      · intro hreturned
        obtain ⟨session', heq⟩ := hreturned
        cases heq
        exact ⟨db, rfl⟩
      · intro hreturned
        obtain ⟨db', heq⟩ := hreturned
        cases heq
        exact ⟨_, rfl⟩

/-- `put` on a settled session returns what `putConcurrently` does for the
databases that the session sees. -/
theorem putIn_returns_iff {host : Host} {moments : PutMoments} {now : Time} {write : MemoryWrite}
    {keypair : Option KeyPair} {precomputedHash : Option String}
    {precomputedSignature : Option Json} {session : DbSession} (h : session.Settled)
    {row : MemoryRecord} :
    (∃ session', (putIn host moments now write keypair precomputedHash precomputedSignature).exec
        session = (.ok row, session')) ↔
      ∃ db', putConcurrently host (session.view moments.check) (session.view moments.flush) now
        write keypair precomputedHash precomputedSignature = .ok (row, db') := by
  unfold putIn putConcurrently
  cases resolveHashAndSignature host write.canonicalBody keypair precomputedHash
      precomputedSignature with
  | error error =>
    constructor
    · intro hreturned
      obtain ⟨session', hok⟩ := hreturned
      cases hok
    · intro hreturned
      obtain ⟨db', hok⟩ := hreturned
      cases hok
  | ok resolved =>
    obtain ⟨contentHash, signature⟩ := resolved
    have hresolved : (DbScript.ofExcept (.ok (contentHash, signature)) :
        DbScript StoreError _).exec session = (.ok (contentHash, signature), session) := rfl
    have hlookup : (lookup moments.check contentHash).exec session =
        (.ok ((session.view moments.check).fetchByHash contentHash), session) := by
      unfold lookup
      cases contentHash with
      | none => rfl
      | some hash =>
        rw [if_pos Option.isSome_some]
        exact Script.query_settled h
    rw [Script.exec_bind_ok hresolved, Script.exec_bind_ok hlookup]
    simp only [bind, Except.bind]
    cases (session.view moments.check).fetchByHash contentHash with
    | some existing =>
      constructor
      · intro hreturned
        obtain ⟨session', hok⟩ := hreturned
        cases hok
        exact ⟨_, rfl⟩
      · intro hreturned
        obtain ⟨db', hok⟩ := hreturned
        cases hok
        exact ⟨_, rfl⟩
    | none => exact insertGuarded_returns_iff h

/-- A row that is there at the check is returned, and the earlier writes of the
session are kept. -/
theorem putIn_hit {host : Host} {moments : PutMoments} {now : Time} {write : MemoryWrite}
    {keypair : Option KeyPair} {precomputedHash : Option String}
    {precomputedSignature : Option Json} {session checked : DbSession} {hash : String}
    {signature : Option Json} {existing : MemoryRecord}
    (hresolve : resolveHashAndSignature host write.canonicalBody keypair precomputedHash
      precomputedSignature = .ok (some hash, signature))
    (hcheck : (lookup moments.check (some hash)).exec session = (.ok (some existing), checked)) :
    (putIn host moments now write keypair precomputedHash precomputedSignature).exec session =
        (.ok existing, checked) ∧ session.StillWritten checked := by
  have hresolved : (DbScript.ofExcept (.ok (some hash, signature)) :
      DbScript StoreError _).exec session = (.ok (some hash, signature), session) := rfl
  constructor
  · unfold putIn
    rw [hresolve, Script.exec_bind_ok hresolved, Script.exec_bind_ok hcheck]
    rfl
  · exact DbSession.stillWritten_of_eq (lookup_some hcheck).2.1

/-! ## A lost race -/

/-- The check finds no row of the hash, and at the flush the session sees the
row that another writer has committed. -/
def LostRace (moments : PutMoments) (hash : String) (session : DbSession) : Prop :=
  ∃ checked, (lookup moments.check (some hash)).exec session = (.ok none, checked) ∧
    ((checked.view moments.flush).fetchByHash (some hash)).isSome

/-- The duplicate collapses: the row of the hash is returned, and the earlier
writes of the session are still there. -/
structure Collapses (hash : String) (session : DbSession)
    (outcome : Except (Failure DbError StoreError) MemoryRecord × DbSession) : Prop where
  returned : ∃ row, outcome.1 = .ok row ∧ row.contentHash = some hash
  survived : session.StillWritten outcome.2

/-- The unique index refuses a second row. -/
theorem insertion_fails {host : Host} {now : Time} {write : MemoryWrite} {hash : String}
    {signature : Option Json} {db : Db} (h : (db.fetchByHash (some hash)).isSome) :
    ∃ error, insertion host now write (some hash) signature db = .error error := by
  unfold insertion
  cases hrow : write.row? host (some hash) signature now with
  | none => exact ⟨.data, rfl⟩
  | some record =>
    dsimp only
    cases hinsert : db.insertMemoryRecord record with
    | error error => exact ⟨.integrity, rfl⟩
    | ok result =>
      obtain ⟨row, db'⟩ := result
      obtain ⟨hid, hrows, -⟩ := Db.insertMemoryRecord_eq_ok hinsert
      have hhash : row.contentHash = some hash := by
        rw [hid]
        exact (MemoryWrite.row?_eq_some hrow).contentHash
      rw [Db.fetchByHash_of_append hrows hhash] at h
      cases h

/-- A lost race ends in an error, and the writes since the innermost savepoint
are gone. -/
theorem putIn_of_lostRace {host : Host} {moments : PutMoments} {now : Time} {write : MemoryWrite}
    {keypair : Option KeyPair} {precomputedHash : Option String}
    {precomputedSignature : Option Json} {session : DbSession} {hash : String}
    {signature : Option Json}
    (hresolve : resolveHashAndSignature host write.canonicalBody keypair precomputedHash
      precomputedSignature = .ok (some hash, signature))
    (hlost : LostRace moments hash session) :
    ∃ failure left, (putIn host moments now write keypair precomputedHash
        precomputedSignature).exec session = (.error failure, left) ∧
      (failure = .inactive ∨ ∃ error, failure = .statement error) ∧ left.inactive = true ∧
      left.contents = session.saved.reverse.flatten := by
  obtain ⟨checked, hcheck, hseen⟩ := hlost
  obtain ⟨hsettled, -, hsaved⟩ := lookup_some hcheck
  obtain ⟨error, herror⟩ := insertion_fails hseen
  have hresolved : (DbScript.ofExcept (.ok (some hash, signature)) :
      DbScript StoreError _).exec session = (.ok (some hash, signature), session) := rfl
  refine ⟨if error = .integrity then .inactive else .statement error, checked.failed, ?_, ?_, rfl,
    ?_⟩
  · unfold putIn
    rw [hresolve, Script.exec_bind_ok hresolved, Script.exec_bind_ok hcheck]
    exact insertGuarded_fails hsettled herror
  · by_cases hintegrity : error = .integrity
    · exact Or.inl (if_pos hintegrity)
    · exact Or.inr ⟨error, if_neg hintegrity⟩
  · rw [UnitOfWork.Session.contents_failed, hsaved]

/-- In no lost race does the duplicate collapse.  `put` raises, on a session
that is inactive and has lost its writes since the innermost savepoint: without
an enclosing savepoint, all of them. -/
theorem put_never_collapses (host : Host) (moments : PutMoments) (now : Time)
    (write : MemoryWrite) (keypair : Option KeyPair) (precomputedHash : Option String)
    (precomputedSignature : Option Json) (session : DbSession) (hash : String)
    (signature : Option Json)
    (hresolve : resolveHashAndSignature host write.canonicalBody keypair precomputedHash
      precomputedSignature = .ok (some hash, signature))
    (hlost : LostRace moments hash session) :
    ¬Collapses hash session ((putIn host moments now write keypair precomputedHash
        precomputedSignature).exec session) ∧
      ∃ failure left, (putIn host moments now write keypair precomputedHash
          precomputedSignature).exec session = (.error failure, left) ∧
        (failure = .inactive ∨ ∃ error, failure = .statement error) ∧ left.inactive = true ∧
        left.contents = session.saved.reverse.flatten := by
  obtain ⟨failure, left, hexec, hleft⟩ := putIn_of_lostRace hresolve hlost
  refine ⟨fun hcollapses => ?_, failure, left, hexec, hleft⟩
  obtain ⟨row, hrow, -⟩ := hcollapses.returned
  rw [hexec] at hrow
  cases hrow

namespace LostRaceExample

open ContractExample

/-- The hash of the fact. -/
def hash : String := encodeMultibase (oneDigest.sha256 [])

/-- The caller has charged the workflow before. -/
def charged : DbSession :=
  { UnitOfWork.Session.fresh with
    recent := [fun db => .ok (db.updateWorkflow (UUID.ofNat 1) (fun workflow =>
      { workflow with budgetUsed := 1 }))] }

/-- Another writer commits the fact after the check. -/
def overtaken : PutMoments := ⟨start, stored, stored⟩

theorem resolves : ∃ signature, resolveHashAndSignature oneDigest write.canonicalBody none none
    none = .ok (some hash, signature) := by
  have hsome : (resolveHashAndSignature oneDigest write.canonicalBody none none none).toOption.map
      Prod.fst = some (some hash) := by
    decide +kernel
  cases hresolve : resolveHashAndSignature oneDigest write.canonicalBody none none none with
  | error error =>
    rw [hresolve] at hsome
    cases hsome
  | ok resolved =>
    obtain ⟨contentHash, signature⟩ := resolved
    rw [hresolve] at hsome
    cases hsome
    exact ⟨signature, rfl⟩

theorem charged_loses : LostRace overtaken hash charged := by
  refine ⟨charged, ?_, by decide +kernel⟩
  have hunseen : ((UnitOfWork.Session.view charged start).fetchByHash (some hash)).isNone := by
    decide +kernel
  unfold lookup
  rw [if_pos Option.isSome_some, Script.query_settled ⟨rfl, rfl⟩]
  rw [Option.isNone_iff_eq_none] at hunseen
  show (Except.ok ((UnitOfWork.Session.view charged start).fetchByHash (some hash)), charged) = _
  rw [hunseen]

end LostRaceExample

open LostRaceExample ContractExample in
/-- The charge is lost with the fact. -/
theorem put_never_collapses_charged :
    ∃ failure left, (putIn oneDigest overtaken 0 write none none none).exec charged =
        (.error failure, left) ∧ charged.contents ≠ [] ∧ left.contents = [] := by
  obtain ⟨signature, hresolve⟩ := resolves
  obtain ⟨-, failure, left, hexec, -, -, hcontents⟩ :=
    put_never_collapses oneDigest overtaken 0 write none none none charged hash signature hresolve
      charged_loses
  exact ⟨failure, left, hexec, List.cons_ne_nil _ _, hcontents⟩

open LostRaceExample ContractExample in
/-- A fact that another writer has stored is not returned. -/
theorem put_collapses_fails :
    ¬∀ (host : Host) (moments : PutMoments) (now : Time) (write : MemoryWrite)
      (keypair : Option KeyPair) (precomputedHash : Option String)
      (precomputedSignature : Option Json) (session : DbSession) (hash : String)
      (signature : Option Json),
      resolveHashAndSignature host write.canonicalBody keypair precomputedHash
        precomputedSignature = .ok (some hash, signature) →
      LostRace moments hash session →
      Collapses hash session ((putIn host moments now write keypair precomputedHash
        precomputedSignature).exec session) := by
  intro h
  obtain ⟨signature, hresolve⟩ := resolves
  obtain ⟨row, hrow, -⟩ := (h oneDigest overtaken 0 write none none none charged hash signature
    hresolve charged_loses).returned
  have hraises : ((putIn oneDigest overtaken 0 write none none none).exec charged).1.isOk =
      false := by
    decide +kernel
  rw [hrow] at hraises
  cases hraises

end CRDTStore

end MassClaw
