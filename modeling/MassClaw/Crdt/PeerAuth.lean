import MassClaw.Crdt.Store
import MassClaw.Identity.CanonicalForm
import MassClaw.Identity.DidKey
import MassClaw.Tools.ApiCaller

/-!
# Peer authentication, `app/crdt/peer_auth.py` and `PeerClient._sign_headers`

A node signs the time, the method and the path of a request with its key and
sends the signature with its DID and the time.  The other node checks the three
headers one after the other; the first check that fails is the error.

The client and the server build the signed text with one function, and the
server reads the time back from the text that the client wrote.  `str.upper` is
a parameter of both.
-/

namespace MassClaw

/-- `PEER_AUTH_WINDOW_SECONDS`. -/
def peerAuthWindowSeconds : Int := 60

/-- `int(time.time())`: towards zero. -/
def wholeSeconds (clock : ℚ) : Int := if 0 ≤ clock then ⌊clock⌋ else ⌈clock⌉

/-- `VerifiedPeer`. -/
structure VerifiedPeer where
  did : String
  timestamp : Int
  deriving DecidableEq

/-- The 401 responses, by the check that raises them. -/
inductive PeerAuthError
  /-- "missing peer-auth headers". -/
  | missingHeaders
  /-- "X-Peer-Timestamp must be an integer Unix timestamp". -/
  | timestampNotInteger (received : String)
  /-- "timestamp outside accepted window". -/
  | outsideWindow (timestamp serverNow : Int)
  /-- "peer DID is not in this node's allowlist". -/
  | notAllowed (did : String)
  /-- "cannot verify peer DID"; `none` is a method without an embedded key. -/
  | cannotVerifyDid (error : Option MalformedDIDError)
  /-- "signature is not a valid multibase-encoded value". -/
  | notMultibase (received : String)
  /-- "signature did not verify". -/
  | notVerified
  /-- "malformed DID shape". -/
  | malformedDid (error : MalformedDIDError)
  deriving DecidableEq

/-- The status code of the response. -/
def PeerAuthError.statusCode (_ : PeerAuthError) : Nat := 401

/-- The three headers. -/
structure PeerHeaders where
  did : Option String
  timestamp : Option String
  signature : Option String

section Protocol

variable (host : Host) (upper : String → String)

/-- `_canonical_bytes`. -/
def canonicalBytes (method path : String) (timestamp : Int) : Bytes :=
  (toString timestamp ++ "|" ++ upper method ++ "|" ++ path).toUTF8.toList

/-- `_allowed_peer_dids`, of the configured text. -/
def allowedPeerDids (allowlist : String) : List String :=
  ((allowlist.toList.splitOn ',').map (fun item => String.ofList (ApiCaller.strip item))).filter
    (fun entry => entry ≠ "")

/-- `verify_peer_request`.  An empty header counts as missing. -/
def verifyPeerRequest (allowlist method path : String) (headers : PeerHeaders) (now : Option Int)
    (clock : ℚ) : Except PeerAuthError VerifiedPeer :=
  match headers.did.filter (· ≠ ""), headers.timestamp.filter (· ≠ ""),
      headers.signature.filter (· ≠ "") with
  | some did, some timestamp, some signature =>
    match host.parseInt? timestamp with
    | none => .error (.timestampNotInteger timestamp)
    | some ts =>
      let current := now.getD (wholeSeconds clock)
      if |current - ts| > peerAuthWindowSeconds then .error (.outsideWindow ts current)
      else
        let allowed := allowedPeerDids allowlist
        if allowed ≠ [] ∧ did ∉ allowed then .error (.notAllowed did)
        else
          match publicKeyForDid did with
          | .error error => .error (.cannotVerifyDid (some error))
          | .ok none => .error (.cannotVerifyDid none)
          | .ok (some publicBytes) =>
            match decodeMultibase? signature with
            | none => .error (.notMultibase signature)
            | some sigBytes =>
              if host.verify (canonicalBytes upper method path ts) sigBytes publicBytes then
                match parseDid did with
                | .error error => .error (.malformedDid error)
                | .ok _ => .ok { did, timestamp := ts }
              else .error .notVerified
  | _, _, _ => .error .missingHeaders

/-- The key pair and the DID of a `PeerClient`. -/
structure PeerClient where
  keypair : KeyPair
  did : String

/-- `PeerClient.__init__`. -/
def PeerClient.new (keypair : KeyPair) : Except MalformedDIDError PeerClient :=
  (buildDidKey keypair.publicBytes).map (fun did => { keypair, did })

/-- `_sign_headers`. -/
def PeerClient.signHeaders (client : PeerClient) (method path : String) (clock : ℚ) :
    PeerHeaders :=
  let ts := wholeSeconds clock
  let payload := canonicalBytes upper method path ts
  { did := some client.did
    timestamp := some (toString ts)
    signature := some (encodeMultibase (host.sign payload client.keypair.privateSeed)) }

end Protocol

/-! ## The clocks -/

/-- A clock shows whole seconds, which keep the order. -/
theorem wholeSeconds_le {a b : ℚ} (h : a ≤ b + 60) : wholeSeconds a ≤ wholeSeconds b + 60 := by
  have hcast : ((60 : Int) : ℚ) = 60 := by norm_num
  unfold wholeSeconds
  by_cases hb : 0 ≤ b
  · rw [if_pos hb, ← Int.floor_add_intCast, hcast]
    split
    · exact Int.floor_le_floor h
    · rename_i ha
      have hneg : ⌈a⌉ ≤ 0 := Int.ceil_le.2 (by push_cast; linarith)
      exact hneg.trans (Int.floor_nonneg.2 (by linarith))
  · rw [if_neg hb, ← Int.ceil_add_intCast, hcast]
    split
    · exact_mod_cast (Int.floor_le a).trans (h.trans (Int.le_ceil _))
    · exact Int.ceil_le_ceil h

/-- Clocks that are at most a window apart show times that are. -/
theorem abs_wholeSeconds_sub_le {a b : ℚ} (h : |a - b| ≤ 60) :
    |wholeSeconds a - wholeSeconds b| ≤ peerAuthWindowSeconds := by
  obtain ⟨hab, hba⟩ := abs_sub_le_iff.1 h
  have hle := wholeSeconds_le (show a ≤ b + 60 by linarith)
  have hge := wholeSeconds_le (show b ≤ a + 60 by linarith)
  unfold peerAuthWindowSeconds
  rw [abs_sub_le_iff]
  omega

/-! ## The signed text -/

/-- The text tells the time, the method and the path of a request: the method
has no slash, and the path starts with one. -/
theorem canonicalBytes_inj {upper : String → String} {method method' path path' : String}
    {timestamp timestamp' : Int}
    (hmethod : '/' ∉ (upper method).toList) (hmethod' : '/' ∉ (upper method').toList)
    (hpath : path.toList.head? = some '/') (hpath' : path'.toList.head? = some '/')
    (h : canonicalBytes upper method path timestamp =
      canonicalBytes upper method' path' timestamp') :
    timestamp = timestamp' ∧ upper method = upper method' ∧ path = path' := by
  have hbar : ∀ n : Int, '|' ∉ (toString n).toList := by
    intro n hmem
    have hmark : ¬(('|').isDigit = true ∨ '|' = '-') := by decide
    exact hmark (Canonical.mem_toString hmem)
  obtain ⟨rest, hrest⟩ := List.head?_eq_some_iff.1 hpath
  obtain ⟨rest', hrest'⟩ := List.head?_eq_some_iff.1 hpath'
  have hchars := congrArg String.toList (Canonical.toUTF8_inj h)
  simp only [String.toList_append, List.append_assoc, hrest, hrest'] at hchars
  obtain ⟨htime, hbehind⟩ := Delimited.Reads.append_cons_inj (hbar timestamp) (hbar timestamp') hchars
  have hslash : ∀ {text : List Char}, '/' ∉ text → '/' ∉ text ++ ['|'] := by
    intro text htext hmem
    rcases List.mem_append.1 hmem with hold | hnew
    · exact htext hold
    · exact absurd (List.mem_singleton.1 hnew) (by decide)
  have hsplit : (upper method).toList ++ ['|'] ++ '/' :: rest =
      (upper method').toList ++ ['|'] ++ '/' :: rest' := by
    simpa using hbehind
  obtain ⟨hsame, hpaths⟩ := Delimited.Reads.append_cons_inj (hslash hmethod) (hslash hmethod') hsplit
  refine ⟨Canonical.toString_inj htime,
    String.toList_injective (List.append_cancel_right hsame), ?_⟩
  apply String.toList_injective
  rw [hrest, hrest', hpaths]

/-! ## The two sides -/

/-- What is signed with the seed of the pair verifies under its public key. -/
def KeyPair.Signs (host : Host) (keypair : KeyPair) : Prop :=
  ∀ message, host.verify message (host.sign message keypair.privateSeed) keypair.publicBytes = true

/-- The client of a key pair has the DID of the public key. -/
theorem PeerClient.new_eq_ok (keypair : KeyPair) :
    ∃ client, PeerClient.new keypair = .ok client ∧ client.keypair = keypair ∧
      buildDidKey keypair.publicBytes = .ok client.did := by
  have hbuild : ∃ did, buildDidKey keypair.publicBytes = .ok did :=
    ⟨_, if_neg (not_not_intro keypair.publicLength)⟩
  obtain ⟨did, hbuild⟩ := hbuild
  refine ⟨⟨keypair, did⟩, ?_, rfl, hbuild⟩
  rw [PeerClient.new, hbuild]
  rfl

section Verification

variable {host : Host} {upper : String → String} {allowlist method path : String}
  {headers : PeerHeaders} {now : Option Int} {clock : ℚ} {peer : VerifiedPeer}

/-- What the headers of an accepted request say about the method, the path and
the time that the server reads from them. -/
structure Vouched (host : Host) (upper : String → String) (allowlist method path : String)
    (headers : PeerHeaders) (current : Int) (peer : VerifiedPeer) : Prop where
  did : headers.did = some peer.did
  timestamp : ∃ text, headers.timestamp = some text ∧ host.parseInt? text = some peer.timestamp
  window : |current - peer.timestamp| ≤ peerAuthWindowSeconds
  allowed : allowedPeerDids allowlist = [] ∨ peer.did ∈ allowedPeerDids allowlist
  signature : ∃ text sig key, headers.signature = some text ∧ decodeMultibase? text = some sig ∧
    publicKeyForDid peer.did = .ok (some key) ∧
    host.verify (canonicalBytes upper method path peer.timestamp) sig key = true

/-- The server accepts only requests that are vouched for. -/
theorem vouched_of_verifyPeerRequest
    (h : verifyPeerRequest host upper allowlist method path headers now clock = .ok peer) :
    Vouched host upper allowlist method path headers (now.getD (wholeSeconds clock)) peer := by
  unfold verifyPeerRequest at h
  split at h
  · rename_i did timestamp signature hdid htimestamp hsignature
    split at h
    · cases h
    · rename_i ts hts
      dsimp only at h
      split at h
      · cases h
      · rename_i hwindow
        split at h
        · cases h
        · rename_i hallowed
          split at h
          · cases h
          · cases h
          · rename_i key hkey
            split at h
            · cases h
            · rename_i sig hsig
              split at h
              · rename_i hverify
                split at h
                · cases h
                · cases h
                  exact {
                    did := (Option.filter_eq_some_iff.1 hdid).1
                    timestamp := ⟨timestamp, (Option.filter_eq_some_iff.1 htimestamp).1, hts⟩
                    window := not_lt.1 hwindow
                    allowed := by
                      rw [not_and_or, not_not, not_not] at hallowed
                      exact hallowed
                    signature := ⟨signature, sig, key, (Option.filter_eq_some_iff.1 hsignature).1,
                      hsig, hkey, hverify⟩ }
              · cases h
  · cases h

/-- A text that is a character and a rest is not empty. -/
theorem ofList_cons_ne (ch : Char) (rest : List Char) : String.ofList (ch :: rest) ≠ "" := by
  intro h
  have hchars := congrArg String.toList h
  rw [String.toList_ofList] at hchars
  cases hchars

/-- The text of an integer is not empty. -/
theorem toString_ne (n : Int) : toString n ≠ "" := by
  intro h
  have hchars := congrArg String.toList h
  rw [Canonical.toList_toString] at hchars
  exact Nat.toDigits_ne_nil (List.append_eq_nil_iff.1 hchars).2

/-- The server accepts the headers of a client, if it reads the time back as it
was written and within the window. -/
theorem verifyPeerRequest_signHeaders {client : PeerClient} {clientClock : ℚ}
    (hbuild : buildDidKey client.keypair.publicBytes = .ok client.did)
    (hsigns : client.keypair.Signs host)
    (hparse : host.parseInt? (toString (wholeSeconds clientClock)) =
      some (wholeSeconds clientClock))
    (hwindow : |now.getD (wholeSeconds clock) - wholeSeconds clientClock| ≤ peerAuthWindowSeconds)
    (hallowed : allowedPeerDids allowlist = [] ∨ client.did ∈ allowedPeerDids allowlist) :
    verifyPeerRequest host upper allowlist method path
        (client.signHeaders host upper method path clientClock) now clock =
      .ok { did := client.did, timestamp := wholeSeconds clientClock } := by
  have hkey := publicKeyForDid_buildDidKey hbuild
  obtain ⟨parsed, hparsed⟩ : ∃ parsed, parseDid client.did = .ok parsed := by
    cases hparsed : parseDid client.did with
    | error error =>
      rw [publicKeyForDid, hparsed] at hkey
      cases hkey
    | ok parsed => exact ⟨parsed, rfl⟩
  have hdid : client.did ≠ "" := by
    intro hempty
    have herror : (parseDid "").toOption = none := by decide +kernel
    rw [← hempty, hparsed] at herror
    cases herror
  have hsignature : ∀ raw, encodeMultibase raw ≠ "" := by
    intro raw
    exact ofList_cons_ne _ _
  unfold verifyPeerRequest PeerClient.signHeaders
  simp only [Option.filter_some, decide_eq_true_eq]
  rw [if_pos hdid, if_pos (toString_ne _), if_pos (hsignature _)]
  dsimp only
  rw [hparse]
  dsimp only
  rw [if_neg (not_lt.2 hwindow), if_neg (not_and_or.2 (hallowed.imp not_not_intro not_not_intro)),
    hkey, decodeMultibase?_encodeMultibase]
  dsimp only
  rw [if_pos (hsigns _), hparsed]

end Verification

/-- The server accepts the headers that the client of any key pair makes, while
their clocks are at most a window apart and the allowlist does not exclude the
client.  Whatever it accepts is signed, under the declared DID, for the method,
the path and the time of the request, and the signed text is the text of no
other request. -/
theorem peerAuth_accepts_signed (host : Host) (upper : String → String)
    (allowlist method path : String) :
    (∀ (keypair : KeyPair) (clientClock serverClock : ℚ), keypair.Signs host →
        host.parseInt? (toString (wholeSeconds clientClock)) = some (wholeSeconds clientClock) →
        |serverClock - clientClock| ≤ 60 →
        ∃ client, PeerClient.new keypair = .ok client ∧
          (allowedPeerDids allowlist = [] ∨ client.did ∈ allowedPeerDids allowlist →
            verifyPeerRequest host upper allowlist method path
                (client.signHeaders host upper method path clientClock) none serverClock =
              .ok { did := client.did, timestamp := wholeSeconds clientClock })) ∧
      (∀ (headers : PeerHeaders) (now : Option Int) (clock : ℚ) (peer : VerifiedPeer),
        verifyPeerRequest host upper allowlist method path headers now clock = .ok peer →
        Vouched host upper allowlist method path headers (now.getD (wholeSeconds clock)) peer) ∧
      ∀ (method' path' : String) (timestamp timestamp' : Int), '/' ∉ (upper method).toList →
        '/' ∉ (upper method').toList → path.toList.head? = some '/' →
        path'.toList.head? = some '/' →
        canonicalBytes upper method path timestamp =
          canonicalBytes upper method' path' timestamp' →
        timestamp = timestamp' ∧ upper method = upper method' ∧ path = path' := by
  refine ⟨?_, ?_, ?_⟩
  · intro keypair clientClock serverClock hsigns hparse hskew
    obtain ⟨client, hnew, hkeypair, hbuild⟩ := PeerClient.new_eq_ok keypair
    subst hkeypair
    refine ⟨client, hnew, fun hallowed => ?_⟩
    exact verifyPeerRequest_signHeaders hbuild hsigns hparse (abs_wholeSeconds_sub_le hskew)
      hallowed
  · intro headers now clock peer h
    exact vouched_of_verifyPeerRequest h
  · intro method' path' timestamp timestamp' hmethod hmethod' hpath hpath' h
    exact canonicalBytes_inj hmethod hmethod' hpath hpath' h

namespace PeerAuthExample

/-- `int` on a text of decimal digits. -/
def readDigits? (text : String) : Option Int :=
  if text ≠ "" ∧ text.toList.all Char.isDigit then some (Nat.ofDigitChars 10 text.toList 0)
  else none

/-- A host that reads decimal numbers. -/
def decimal : Host := { Host.lengths with parseInt? := readDigits? }

/-- A key pair of this host. -/
def keypair : KeyPair where
  privateSeed := List.replicate 32 7
  publicBytes := List.replicate 32 7
  seedLength := List.length_replicate
  publicLength := List.length_replicate

theorem keypair_signs : keypair.Signs decimal := by
  intro message
  show (List.replicate 32 (7 : UInt8) == List.replicate 32 7) = true
  exact beq_self_eq_true _

end PeerAuthExample

open PeerAuthExample in
/-- A server whose clock is a minute ahead, and whose allowlist is empty. -/
theorem peerAuth_accepts_minute_ahead :
    ∃ client, PeerClient.new keypair = .ok client ∧
      verifyPeerRequest decimal id "" "GET" "/memory/sync/summary"
          (client.signHeaders decimal id "GET" "/memory/sync/summary" 1000) none 1060 =
        .ok { did := client.did, timestamp := 1000 } ∧
      Vouched decimal id "" "GET" "/memory/sync/summary"
        (client.signHeaders decimal id "GET" "/memory/sync/summary" 1000) 1060
        { did := client.did, timestamp := 1000 } := by
  obtain ⟨haccepts, hvouched, -⟩ :=
    peerAuth_accepts_signed decimal id "" "GET" "/memory/sync/summary"
  have hwhole : wholeSeconds 1000 = 1000 ∧ wholeSeconds 1060 = 1060 := by decide +kernel
  have hparse : decimal.parseInt? (toString (wholeSeconds 1000)) = some (wholeSeconds 1000) := by
    decide +kernel
  have hempty : allowedPeerDids "" = [] := by decide +kernel
  obtain ⟨client, hnew, haccepted⟩ :=
    haccepts keypair 1000 1060 keypair_signs hparse (by norm_num)
  have hok := haccepted (Or.inl hempty)
  have hvouch := hvouched _ _ _ _ hok
  rw [Option.getD_none, hwhole.2, hwhole.1] at hvouch
  rw [hwhole.1] at hok
  exact ⟨client, hnew, hok, hvouch⟩

end MassClaw
