import MassClaw.Crdt.Write
import MassClaw.Identity.Multibase

/-!
# The contract of a signed write

With a key pair or a signature, `put` promises a record that is signed by the
declared author and addressed by the hash of its body.  The record that it
returns is a new row or a row with the same hash.  `put` compares neither the
signature of a row that it finds nor the key pair with the author; the contract
holds exactly if those two agree with the arguments.

A row that another writer commits in the meantime is never returned: the flush
fails, and what `put` raises then is an error of the session.
-/

namespace MassClaw

/-! ## Concurrent writers -/

/-- `put` among other writers: `atFlush` is the database when the row is
flushed. -/
def CRDTStore.putConcurrently (host : Host) (db atFlush : Db) (now : Time) (write : MemoryWrite)
    (keypair : Option KeyPair) (precomputedHash : Option String)
    (precomputedSignature : Option Json) : Except StoreError (MemoryRecord × Db) := do
  let (contentHash, signature) ←
    resolveHashAndSignature host write.canonicalBody keypair precomputedHash precomputedSignature
  match db.fetchByHash contentHash with
  | some existing => return (existing, atFlush)
  | none =>
    match write.row? host contentHash signature now with
    | none => throw .data
    | some record => (atFlush.insertMemoryRecord record).mapError (afterFailedFlush contentHash)

/-- Without other writers this is `put`. -/
theorem CRDTStore.putConcurrently_self (host : Host) (db : Db) (now : Time) (write : MemoryWrite)
    (keypair : Option KeyPair) (precomputedHash : Option String)
    (precomputedSignature : Option Json) :
    putConcurrently host db db now write keypair precomputedHash precomputedSignature =
      put host db now write keypair precomputedHash precomputedSignature := by
  unfold putConcurrently put
  cases resolveHashAndSignature host write.canonicalBody keypair precomputedHash
      precomputedSignature with
  | error error => rfl
  | ok resolved =>
    obtain ⟨contentHash, signature⟩ := resolved
    cases hfound : db.fetchByHash contentHash with
    | some existing =>
      simp only [bind, Except.bind, hfound]
    | none =>
      cases hrow : write.row? host contentHash signature now with
      | none => simp only [bind, Except.bind, hfound, hrow]
      | some record => simp only [bind, Except.bind, hfound, hrow]

/-! ## The contract -/

/-- The record carries a signature over the body, which verifies under the
author that the body names. -/
def MemoryRecord.CarriesSignature (host : Host) (record : MemoryRecord) (body : CanonicalBody) :
    Prop :=
  ∃ did signature, body.authorDid = some (.str did) ∧ record.signature = some signature ∧
    body.VerifiesUnder host (.str signature) did

/-- The record is signed by the author of the body and addressed by its hash. -/
structure SignedContract (host : Host) (body : CanonicalBody) (record : MemoryRecord) : Prop where
  signature : record.CarriesSignature host body
  contentHash : record.contentHash = body.contentHash host

/-- What the key pair signs verifies under its public key and under no other. -/
def KeyPair.Genuine (host : Host) (keypair : KeyPair) : Prop :=
  ∀ message key, host.verify message (host.sign message keypair.privateSeed) key = true ↔
    key = keypair.publicBytes

/-- The author's DID embeds the public key of the pair. -/
def KeyPair.BelongsTo (keypair : KeyPair) (author : Option Json) : Prop :=
  ∃ did, author = some (.str did) ∧ publicKeyForDid did = .ok (some keypair.publicBytes)

/-- A row with the hash of the body is signed by the author; if there is none,
the key pair is the author's. -/
def WriteMatches (host : Host) (db : Db) (body : CanonicalBody) (keypair : Option KeyPair) :
    Prop :=
  match db.fetchByHash (body.contentHash host) with
  | some existing => existing.CarriesSignature host body
  | none => ∀ pair, keypair = some pair → pair.BelongsTo body.authorDid

variable {host : Host}

namespace CRDTStore

/-- On the signed path the hash is that of the body. -/
theorem resolve_signed {body : CanonicalBody} {keypair : Option KeyPair}
    {precomputedHash : Option String} {supplied : Option Json} {contentHash : Option String}
    {signature : Option Json} (hsigned : keypair.isSome ∨ supplied.isSome)
    (h : resolveHashAndSignature host body keypair precomputedHash supplied =
      .ok (contentHash, signature)) :
    ∃ bytes, body.toSignableBytes host = some bytes ∧ contentHash = body.contentHash host ∧
      ∀ pair, keypair = some pair →
        signature = some (.str (encodeMultibase (host.sign bytes pair.privateSeed))) := by
  cases keypair with
  | none =>
    cases supplied with
    | none => simp at hsigned
    | some supplied =>
      obtain ⟨-, _, _, _, bytes, -, -, -, hbytes, -⟩ := resolve_verified h
      refine ⟨bytes, hbytes, ?_, fun pair hpair => by cases hpair⟩
      rcases resolve_contentHash h with ⟨hhash, -⟩ | ⟨-, -, hnone⟩
      · exact hhash
      · cases hnone
  | some pair =>
    unfold resolveHashAndSignature at h
    cases hbytes : body.toSignableBytes host with
    | none =>
      simp only [hbytes] at h
      cases h
    | some bytes =>
      simp only [hbytes] at h
      obtain ⟨-, -, h⟩ := Outcome.bind_eq_ok h
      have hresult : contentHash = some (encodeMultibase (host.sha256 bytes)) ∧
          signature = some (.str (encodeMultibase (host.sign bytes pair.privateSeed))) := by
        split at h
        · cases h
          exact ⟨rfl, rfl⟩
        · split at h
          · cases h
            exact ⟨rfl, rfl⟩
          · cases h
      refine ⟨bytes, rfl, ?_, fun other hother => ?_⟩
      · rw [hresult.1, CanonicalBody.contentHash, hbytes]
        rfl
      · cases hother
        exact hresult.2

/-- A signature that a genuine key pair makes verifies exactly under the
pair's own author. -/
theorem verifiesUnder_sign {body : CanonicalBody} {pair : KeyPair} {bytes : Bytes} {did : String}
    (hgenuine : pair.Genuine host) (hbytes : body.toSignableBytes host = some bytes) :
    body.VerifiesUnder host (.str (encodeMultibase (host.sign bytes pair.privateSeed))) did ↔
      publicKeyForDid did = .ok (some pair.publicBytes) := by
  have hdecoded : decodeSignature? (.str (encodeMultibase (host.sign bytes pair.privateSeed))) =
      some (host.sign bytes pair.privateSeed) := decodeMultibase?_encodeMultibase _
  constructor
  · intro ⟨decoded, key, bytes', hdecoded', hkey, hbytes', hverify⟩
    rw [hdecoded] at hdecoded'
    rw [hbytes] at hbytes'
    cases hdecoded'
    cases hbytes'
    rw [hkey, (hgenuine bytes key).1 hverify]
  · intro hkey
    exact ⟨_, _, bytes, hdecoded, hkey, hbytes, (hgenuine bytes _).2 rfl⟩

/-- What the store returns on the signed path: a row that was found, or the
row of the write, of which there was none. -/
theorem putConcurrently_cases {db atFlush db' : Db} {now : Time} {write : MemoryWrite}
    {keypair : Option KeyPair} {precomputedHash : Option String} {supplied : Option Json}
    {record : MemoryRecord}
    (h : putConcurrently host db atFlush now write keypair precomputedHash supplied =
      .ok (record, db')) :
    ∃ contentHash signature,
      resolveHashAndSignature host write.canonicalBody keypair precomputedHash supplied =
        .ok (contentHash, signature) ∧
      (db.fetchByHash contentHash = some record ∨
        (db.fetchByHash contentHash = none ∧
          IsRowOf host write contentHash signature now record)) := by
  unfold putConcurrently at h
  obtain ⟨⟨contentHash, signature⟩, hresolve, h⟩ := Outcome.bind_eq_ok h
  refine ⟨contentHash, signature, hresolve, ?_⟩
  dsimp only at h
  cases hfound : db.fetchByHash contentHash with
  | some existing =>
    simp only [hfound] at h
    cases h
    exact Or.inl rfl
  | none =>
    simp only [hfound] at h
    cases hrow : write.row? host contentHash signature now with
    | none =>
      simp only [hrow] at h
      cases h
    | some row =>
      simp only [hrow] at h
      have hisRow := MemoryWrite.row?_eq_some hrow
      obtain ⟨hid, -, -⟩ := Db.insertMemoryRecord_eq_ok (Outcome.mapError_eq_ok.1 h)
      refine Or.inr ⟨rfl, ?_⟩
      rw [hid]
      exact { hisRow with }

/-- A signed write that returns meets its contract exactly if it matches the
rows that it finds and its own key. -/
theorem signedContract_iff (host : Host) (db atFlush : Db) (now : Time) (write : MemoryWrite)
    (keypair : Option KeyPair) (precomputedHash : Option String) (supplied : Option Json)
    (record : MemoryRecord) (db' : Db) (hsigned : keypair.isSome ∨ supplied.isSome)
    (hgenuine : ∀ pair, keypair = some pair → pair.Genuine host)
    (h : putConcurrently host db atFlush now write keypair precomputedHash supplied =
      .ok (record, db')) :
    SignedContract host write.canonicalBody record ↔
      WriteMatches host db write.canonicalBody keypair := by
  obtain ⟨contentHash, signature, hresolve, hcases⟩ := putConcurrently_cases h
  obtain ⟨bytes, hbytes, hhash, hpair⟩ := resolve_signed hsigned hresolve
  have hsome : contentHash = some (encodeMultibase (host.sha256 bytes)) := by
    rw [hhash, CanonicalBody.contentHash, hbytes]
    rfl
  unfold WriteMatches
  rw [← hhash]
  rcases hcases with hfound | ⟨hnone, hrow⟩
  · rw [hfound]
    have haddress : record.contentHash = contentHash := by
      rw [hsome] at hfound ⊢
      simpa using List.find?_some hfound
    constructor
    · intro hcontract
      exact hcontract.signature
    · intro hcarries
      exact ⟨hcarries, haddress.trans hhash⟩
  · rw [hnone]
    have haddress : record.contentHash = write.canonicalBody.contentHash host :=
      hrow.contentHash.trans hhash
    cases keypair with
    | some pair =>
      have hstored : record.signature =
          some (encodeMultibase (host.sign bytes pair.privateSeed)) := by
        have htext := hrow.signature
        rw [hpair pair rfl] at htext
        obtain ⟨text, hstored, hjson⟩ := Option.map_eq_some_iff.1 htext.symm
        cases hjson
        exact hstored
      constructor
      · intro hcontract other hother
        cases hother
        obtain ⟨did, text, hauthor, htext, hverifies⟩ := hcontract.signature
        rw [hstored] at htext
        cases htext
        exact ⟨did, hauthor, (verifiesUnder_sign (hgenuine pair rfl) hbytes).1 hverifies⟩
      · intro hbelongs
        obtain ⟨did, hauthor, hkey⟩ := hbelongs pair rfl
        exact ⟨⟨did, _, hauthor, hstored,
          (verifiesUnder_sign (hgenuine pair rfl) hbytes).2 hkey⟩, haddress⟩
    | none =>
      cases supplied with
      | none => simp at hsigned
      | some supplied =>
        obtain ⟨hsupplied, did, decoded, key, bytes', hauthor, hkey, hdecoded, hbytes', hverify⟩ :=
          resolve_verified hresolve
        have htext := hrow.signature
        rw [hsupplied] at htext
        obtain ⟨text, hstored, hjson⟩ := Option.map_eq_some_iff.1 htext.symm
        subst hjson
        constructor
        · intro _ pair hnone
          cases hnone
        · intro _
          exact ⟨⟨did, text, hauthor, hstored, decoded, key, bytes', hdecoded, hkey, hbytes',
            hverify⟩, haddress⟩

/-! ## A row without a signature -/

namespace ContractExample

/-- A host with one digest. -/
def oneDigest : Host := { Host.lengths with sha256 := fun _ => List.replicate 32 0 }

/-- A key pair of this host. -/
def pair : KeyPair where
  privateSeed := List.replicate 32 0
  publicBytes := List.replicate 32 0
  seedLength := List.length_replicate
  publicLength := List.length_replicate

theorem pair_genuine : pair.Genuine oneDigest := by
  intro message key
  show (List.replicate 32 0 == key) = true ↔ key = List.replicate 32 0
  rw [beq_iff_eq, eq_comm]

/-- The author of the pair. -/
def author : String := "did:nanda:" ++ encodeMultibase pair.publicBytes

/-- A database with one workflow. -/
def start : Db where
  workflows :=
    [{ workflowId := UUID.ofNat 1, prompt := "audit", status := .running, budgetLimit := 1000000
       budgetUsed := 0, dagSnapshot := none, result := none, startedAt := none
       completedAt := none }]
  agents := []
  tasks := []
  memoryRecords := Table.empty
  walletEvents := Table.empty

/-- A fact of the author. -/
def write : MemoryWrite where
  workflowId := UUID.ofNat 1
  memoryType := .fact
  content := "claim"
  confidence := .finite 1
  authorDid := some (.str author)

/-- The database in which the fact is stored without a signature. -/
def stored : Db :=
  match put oneDigest start 0 write none none none with
  | .ok (_, db) => db
  | .error _ => start

/-- What the signed write of the fact returns. -/
def signed (db : Db) : Except StoreError (MemoryRecord × Db) :=
  putConcurrently oneDigest db db 0 write (some pair) none none

end ContractExample

open ContractExample in
/-- In an empty store the author's own key meets the contract. -/
theorem signedContract_of_empty :
    ∃ record db', signed start = .ok (record, db') ∧
      SignedContract oneDigest write.canonicalBody record := by
  have hok : (signed start).toOption.isSome = true := by decide +kernel
  cases hput : signed start with
  | error error =>
    rw [hput] at hok
    cases hok
  | ok result =>
    obtain ⟨record, db'⟩ := result
    refine ⟨record, db', rfl, ?_⟩
    refine (signedContract_iff oneDigest start start 0 write (some pair) none none record db'
      (Or.inl rfl) (fun other hother => by cases hother; exact pair_genuine) hput).2 ?_
    have hkey : publicKeyForDid author = .ok (some pair.publicBytes) := by decide +kernel
    intro other hother
    cases hother
    exact ⟨author, rfl, hkey⟩

open ContractExample in
/-- A signed write returns the row without a signature that it finds. -/
theorem signedContract_fails :
    ¬∀ (host : Host) (db atFlush : Db) (now : Time) (write : MemoryWrite)
      (keypair : Option KeyPair) (precomputedHash : Option String) (supplied : Option Json)
      (record : MemoryRecord) (db' : Db), keypair.isSome ∨ supplied.isSome →
      (∀ pair, keypair = some pair → pair.Genuine host) →
      putConcurrently host db atFlush now write keypair precomputedHash supplied =
        .ok (record, db') → SignedContract host write.canonicalBody record := by
  intro h
  have hunsigned : (signed stored).toOption.map (fun result => result.1.signature) =
      some none := by
    decide +kernel
  cases hput : signed stored with
  | error error =>
    rw [hput] at hunsigned
    cases hunsigned
  | ok result =>
    obtain ⟨record, db'⟩ := result
    rw [hput] at hunsigned
    have hnone : record.signature = none := Option.some.inj hunsigned
    obtain ⟨-, text, -, htext, -⟩ := (h oneDigest stored stored 0 write (some pair) none none
      record db' (Or.inl rfl) (fun other hother => by cases hother; exact pair_genuine)
      hput).signature
    rw [hnone] at htext
    cases htext

end CRDTStore

end MassClaw
