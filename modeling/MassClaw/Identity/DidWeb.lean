import MassClaw.Core.Basic
import MassClaw.Identity.DidKey
import MassClaw.Lib.Delimited

/-!
# DIDs that name a document, `app/identity/did.py`

A `did:web` is a host and a path, with colons for the slashes between the
segments; without a path the document is the well-known one.  The slashes at
both ends of the path are dropped first, so a path is known by what is left.
A colon inside a path reads back as one of the slashes (`didWebToUrl_build`).
-/

namespace MassClaw

/-- `MalformedDIDError` of the two functions. -/
inductive DidWebError
  | malformed (error : MalformedDIDError)
  /-- "did:web host must be a plain DNS name". -/
  | notPlainHost (host : String)
  /-- "did:web missing host". -/
  | missingHost (did : String)
  deriving DecidableEq

/-- `path.strip("/")`; a missing path is as good as an empty one. -/
def strippedPath (path : Option String) : List Char :=
  UUID.strip (fun ch => ch == '/') (path.getD "").toList

/-- `str.replace` for single characters. -/
def replaceChar (old new : Char) (text : List Char) : List Char :=
  text.map (fun ch => if ch = old then new else ch)

/-- The identifier of a host and a path. -/
def didWebIdentifier (host : String) (path : Option String) : List Char :=
  let cleaned := replaceChar '/' ':' (strippedPath path)
  if cleaned = [] then host.toList else host.toList ++ ':' :: cleaned

/-- `build_did_web`. -/
def buildDidWeb (host : String) (path : Option String) : Except DidWebError String :=
  if host = "" ∨ '/' ∈ host.toList ∨ ':' ∈ host.toList then .error (.notPlainHost host)
  else .ok (ParsedDID.asStr
    { method := "web".toList, identifier := didWebIdentifier host path })

/-- `https://<host>/<path>/did.json`. -/
def documentUrl (host path : List Char) : String :=
  String.ofList ("https://".toList ++ host ++ '/' :: path ++ "/did.json".toList)

/-- `did_web_to_url`. -/
def didWebToUrl (did : String) : Except DidWebError String :=
  match parseDid did with
  | .error error => .error (.malformed error)
  | .ok parsed =>
    if parsed.method ≠ "web".toList then
      .error (.malformed (.wrongMethod "web".toList parsed.method))
    else
      match parsed.identifier.splitOn ':' with
      | [] | [] :: _ => .error (.missingHost did)
      | [host] => .ok (documentUrl host ".well-known".toList)
      | host :: segments => .ok (documentUrl host (['/'].intercalate segments))

/-! ## Replacing a separator -/

/-- Split at one separator and joined with another. -/
theorem intercalate_splitOn_eq (old new : Char) (text : List Char) :
    [new].intercalate (text.splitOn old) = replaceChar old new text := by
  induction text with
  | nil => rfl
  | cons ch rest ih =>
    rw [List.splitOn_cons_eq_if_modifyHead]
    show _ = (if ch = old then new else ch) :: replaceChar old new rest
    have hne := List.splitOn_ne_nil old rest
    by_cases heq : ch = old
    · rw [if_pos (beq_iff_eq.2 heq), if_pos heq, ← ih]
      cases hsplit : rest.splitOn old with
      | nil => exact absurd hsplit hne
      | cons head tail => rfl
    · rw [if_neg (fun hbeq => heq (eq_of_beq hbeq)), if_neg heq, ← ih]
      cases hsplit : rest.splitOn old with
      | nil => exact absurd hsplit hne
      | cons head tail =>
        cases tail with
        | nil => rfl
        | cons second tail => rfl

theorem replaceChar_eq_nil {old new : Char} {text : List Char} :
    replaceChar old new text = [] ↔ text = [] := List.map_eq_nil_iff

/-- A character that does not occur. -/
theorem replaceChar_of_notMem {old new : Char} {text : List Char} (h : old ∉ text) :
    replaceChar old new text = text := by
  refine (List.map_congr_left (fun ch hch => ?_)).trans (List.map_id text)
  have hne : ch ≠ old := fun heq => h (heq ▸ hch)
  exact if_neg hne

/-- There and back, both separators are the second one. -/
theorem replaceChar_replaceChar (a b : Char) (text : List Char) :
    replaceChar b a (replaceChar a b text) = replaceChar b a text := by
  unfold replaceChar
  rw [List.map_map]
  refine List.map_congr_left (fun ch _ => ?_)
  show (if (if ch = a then b else ch) = b then a else if ch = a then b else ch) = _
  by_cases ha : ch = a
  · rw [if_pos ha, if_pos rfl]
    split
    · rfl
    · exact ha.symm
  · rw [if_neg ha]

/-! ## The document of a host and a path -/

/-- The path under which the document of a path is served. -/
def documentPath (path : Option String) : List Char :=
  if strippedPath path = [] then ".well-known".toList else strippedPath path

/-- A stripped path has the characters of the path. -/
theorem mem_of_mem_strippedPath {path : Option String} {ch : Char} (h : ch ∈ strippedPath path) :
    ch ∈ (path.getD "").toList := by
  unfold strippedPath UUID.strip at h
  have hback := (List.dropWhile_suffix _).subset (List.mem_reverse.1 h)
  exact (List.dropWhile_suffix _).subset (List.mem_reverse.1 hback)

theorem colon_notMem_documentPath {path : Option String} (h : ':' ∉ (path.getD "").toList) :
    ':' ∉ documentPath path := by
  unfold documentPath
  split
  · decide
  · exact fun hmem => h (mem_of_mem_strippedPath hmem)

section Build

variable {host : String} {path : Option String} {did : String}

/-- An accepted host is a text without separators. -/
theorem buildDidWeb_eq_ok (h : buildDidWeb host path = .ok did) :
    host.toList ≠ [] ∧ '/' ∉ host.toList ∧ ':' ∉ host.toList ∧
      did = ParsedDID.asStr { method := "web".toList, identifier := didWebIdentifier host path } := by
  unfold buildDidWeb at h
  split at h
  · cases h
  · rename_i hplain
    cases h
    rw [not_or, not_or] at hplain
    obtain ⟨hempty, hslash, hcolon⟩ := hplain
    exact ⟨fun hnil => hempty (String.toList_eq_nil_iff.1 hnil), hslash, hcolon, rfl⟩

/-- The parts of the identifier: the host, and behind it the cleaned path. -/
theorem splitOn_didWebIdentifier (hcolon : ':' ∉ host.toList) (path : Option String) :
    (didWebIdentifier host path).splitOn ':' = host.toList ::
      if strippedPath path = [] then []
      else (replaceChar '/' ':' (strippedPath path)).splitOn ':' := by
  unfold didWebIdentifier
  by_cases hnone : strippedPath path = []
  · rw [if_pos (replaceChar_eq_nil.2 hnone), if_pos hnone, List.splitOn_eq_singleton hcolon]
  · rw [if_neg (fun h => hnone (replaceChar_eq_nil.1 h)), if_neg hnone,
      List.splitOn_append_cons_self_of_not_mem hcolon]

/-- What the DID of any path resolves to: the colons of the path are read back
as slashes, too. -/
theorem didWebToUrl_build (h : buildDidWeb host path = .ok did) :
    didWebToUrl did =
      .ok (documentUrl host.toList (replaceChar ':' '/' (documentPath path))) := by
  obtain ⟨hempty, -, hcolon, rfl⟩ := buildDidWeb_eq_ok h
  have hidentifier : didWebIdentifier host path ≠ [] := by
    unfold didWebIdentifier
    dsimp only
    split
    · exact hempty
    · simp
  have hweb : ':' ∉ "web".toList ∧ "web".toList ≠ [] := by decide
  have hparsed : parseDid (ParsedDID.asStr ⟨"web".toList, didWebIdentifier host path⟩) = _ :=
    parseDid_asStr hweb.1 hweb.2 hidentifier
  have hlower : "web".toList.map lowerChar = "web".toList := by decide
  unfold didWebToUrl
  rw [hparsed]
  dsimp only
  rw [hlower, if_neg (not_not_intro rfl), splitOn_didWebIdentifier hcolon]
  unfold documentPath
  cases hhost : host.toList with
  | nil => exact absurd hhost hempty
  | cons first more =>
    by_cases hnone : strippedPath path = []
    · rw [if_pos hnone, if_pos hnone]
      rfl
    · rw [if_neg hnone, if_neg hnone]
      have hpath : ['/'].intercalate ((replaceChar '/' ':' (strippedPath path)).splitOn ':') =
          replaceChar ':' '/' (strippedPath path) := by
        rw [intercalate_splitOn_eq, replaceChar_replaceChar]
      cases hsplit : (replaceChar '/' ':' (strippedPath path)).splitOn ':' with
      | nil => exact absurd hsplit (List.splitOn_ne_nil _ _)
      | cons segment segments =>
        rw [← hpath, hsplit]

end Build

/-- A URL tells the host and the path. -/
theorem documentUrl_inj {host host' path path' : List Char} (hhost : '/' ∉ host)
    (hhost' : '/' ∉ host') :
    documentUrl host path = documentUrl host' path' ↔ host = host' ∧ path = path' := by
  constructor
  · intro h
    have htext : host ++ ('/' :: (path ++ "/did.json".toList)) =
        host' ++ ('/' :: (path' ++ "/did.json".toList)) := by
      have hchars := String.ofList_injective h
      simp only [List.append_assoc, List.cons_append] at hchars
      exact List.append_cancel_left hchars
    obtain ⟨hsame, hrest⟩ := Delimited.Reads.append_cons_inj hhost hhost' htext
    exact ⟨hsame, List.append_cancel_right hrest⟩
  · intro ⟨hsame, hpath⟩
    rw [hsame, hpath]

/-- The DID of a host and a path without colons resolves to the document of the
stripped path, or to the well-known one without a path.  Two of them resolve to
the same document if host and path of the document are the same. -/
theorem didWeb_resolves (host host' : String) (path path' : Option String) (did did' : String)
    (hbuild : buildDidWeb host path = .ok did) (hbuild' : buildDidWeb host' path' = .ok did')
    (hpath : ':' ∉ (path.getD "").toList) (hpath' : ':' ∉ (path'.getD "").toList) :
    didWebToUrl did = .ok (documentUrl host.toList (documentPath path)) ∧
      (didWebToUrl did = didWebToUrl did' ↔ host = host' ∧ documentPath path = documentPath path') := by
  have hresolves : ∀ {host : String} {path : Option String} {did : String},
      buildDidWeb host path = .ok did → ':' ∉ (path.getD "").toList →
        didWebToUrl did = .ok (documentUrl host.toList (documentPath path)) := by
    intro host path did hbuild hpath
    rw [didWebToUrl_build hbuild, replaceChar_of_notMem (colon_notMem_documentPath hpath)]
  have hslash := (buildDidWeb_eq_ok hbuild).2.1
  have hslash' := (buildDidWeb_eq_ok hbuild').2.1
  refine ⟨hresolves hbuild hpath, ?_⟩
  rw [hresolves hbuild hpath, hresolves hbuild' hpath', Except.ok.injEq,
    documentUrl_inj hslash hslash', String.toList_inj]

/-- The documented example, and the host on its own. -/
theorem didWeb_resolves_example :
    didWebToUrl "did:web:massclaw.example:agents:scheduler" =
        .ok "https://massclaw.example/agents/scheduler/did.json" ∧
      didWebToUrl "did:web:massclaw.example:agents:scheduler" ≠
        didWebToUrl "did:web:massclaw.example" := by
  obtain ⟨hurl, hsame⟩ := didWeb_resolves "massclaw.example" "massclaw.example"
    (some "/agents/scheduler/") none "did:web:massclaw.example:agents:scheduler"
    "did:web:massclaw.example" (by decide +kernel) (by decide +kernel) (by decide) (by decide)
  refine ⟨hurl, fun heq => ?_⟩
  have hpaths := (hsame.1 heq).2
  revert hpaths
  decide +kernel

/-- Without a path the document is the well-known one, and the slashes around a
path do not count. -/
theorem didWeb_resolves_fails :
    (¬∀ (host : String) (path : Option String) (did : String), buildDidWeb host path = .ok did →
        didWebToUrl did = .ok (documentUrl host.toList (strippedPath path))) ∧
      ¬∀ (host host' : String) (path path' : Option String) (did did' : String),
        buildDidWeb host path = .ok did → buildDidWeb host' path' = .ok did' →
          didWebToUrl did = didWebToUrl did' → host = host' ∧ path = path' := by
  constructor
  · intro h
    have hformula := h "massclaw.example" none "did:web:massclaw.example" (by decide +kernel)
    revert hformula
    decide +kernel
  · intro h
    have hsame := h "massclaw.example" "massclaw.example" (some "agents") (some "/agents/")
      "did:web:massclaw.example:agents" "did:web:massclaw.example:agents" (by decide +kernel)
      (by decide +kernel) rfl
    exact absurd hsame.2 (by decide)

end MassClaw
