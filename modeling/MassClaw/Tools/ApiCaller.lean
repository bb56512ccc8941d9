import MassClaw.Core.Json
import MassClaw.Core.Url
import MassClaw.Lib.IpNetwork

/-!
# The HTTP tool, `app/tools/api_caller.py`

A URL is refused when its host resolves to a private address.  A second lookup,
for IPv4 only, picks the address that the request is pinned to; when it does not
answer, the HTTP client resolves the host itself.  The three answers are
independent, and only the first one is looked at.

`execute_public_iff` says for which answers no internal address is contacted.
-/

namespace MassClaw

namespace ApiCaller

/-- `ToolResult`, without the artifacts and the cost, which the tool leaves empty. -/
structure ToolResult where
  content : String
  success : Bool
  metadata : List (String × Json) := []

/-- `_PRIVATE_NETWORKS`. -/
def privateNetworks : List IpNetwork :=
  [.v4 (IpAddress.ofOctets 127 0 0 0) 8, .v4 (IpAddress.ofOctets 10 0 0 0) 8,
    .v4 (IpAddress.ofOctets 172 16 0 0) 12, .v4 (IpAddress.ofOctets 192 168 0 0) 16,
    .v4 (IpAddress.ofOctets 169 254 0 0) 16, .v6 1 128, .v6 (0xfc00 <<< 112) 7,
    .v6 (0xfe80 <<< 112) 10]

/-- `_BLOCKED_HOSTNAMES`. -/
def blockedHostnames : List String := ["localhost", "0.0.0.0"]

/-- `_ALLOWED_METHODS`, sorted. -/
def allowedMethods : List String := ["DELETE", "GET", "PATCH", "POST", "PUT"]

/-! ## The outside -/

/-- What `getaddrinfo` raises. -/
inductive LookupError
  | gaierror | other

/-- The request that the client is asked to make. -/
structure HttpRequest where
  method : String
  url : List Char
  headers : Json
  params : Option Json
  body : Option Json

/-- What becomes of a request: an exception before it connects, an answer, or
an exception of the network. -/
inductive HttpOutcome
  | rejected
  | answer (statusCode : Int) (text : String)
  | timeout
  | requestError (text : String)

/-- The outside during one call: the hosts that are addresses in text form, the
answers to the two lookups, the addresses that the client tries when it resolves
a host itself, and what becomes of the request. A call makes at most one. -/
structure Network where
  checkNetloc : List Char → Bool
  numericHost : List Char → Option IpAddress
  lookup : List Char → Except LookupError (List IpAddress)
  lookupV4 : List Char → Except LookupError (List (BitVec 32))
  clientLookup : List Char → List IpAddress
  outcome : HttpOutcome

namespace Network

/-- `socket.getaddrinfo(hostname, None)`. -/
def getaddrinfo (network : Network) (hostname : List Char) : Except LookupError (List IpAddress) :=
  match network.numericHost hostname with
  | some address => .ok [address]
  | none => network.lookup hostname

/-- `socket.getaddrinfo(hostname, None, AF_INET, SOCK_STREAM)`. -/
def getaddrinfoV4 (network : Network) (hostname : List Char) :
    Except LookupError (List (BitVec 32)) :=
  match network.numericHost hostname with
  | some (.v4 bits) => .ok [bits]
  | some (.v6 _) => .error .gaierror
  | none => network.lookupV4 hostname

/-- The addresses that the client tries for a host. -/
def clientAddresses (network : Network) (hostname : List Char) : List IpAddress :=
  match network.numericHost hostname with
  | some address => [address]
  | none => network.clientLookup hostname

end Network

/-! ## The check -/

/-- The address is in a private network. -/
def isPrivate (address : IpAddress) : Bool := privateNetworks.any (·.contains address)

/-- `_is_private_url` of a URL that parses; an exception other than `gaierror`
is raised. -/
def isPrivateUrl (network : Network) (parsed : ParsedUrl) : Except LookupError Bool :=
  match parsed.hostname? with
  | none => .ok true
  | some hostname =>
    if String.ofList (hostname.map lowerChar) ∈ blockedHostnames then .ok true
    else
      match network.getaddrinfo hostname with
      | .error .gaierror => .ok false
      | .error .other => .error .other
      | .ok addresses => .ok (addresses.any isPrivate)

/-! ## The call -/

/-- `str.isspace` on one character. -/
def isSpace (ch : Char) : Bool :=
  ch.toNat ∈ [0x20, 0x85, 0xa0, 0x1680, 0x2028, 0x2029, 0x202f, 0x205f, 0x3000] ||
    (0x09 ≤ ch.toNat && ch.toNat ≤ 0x0d) || (0x1c ≤ ch.toNat && ch.toNat ≤ 0x1f) ||
    (0x2000 ≤ ch.toNat && ch.toNat ≤ 0x200a)

/-- `str.strip`. -/
def strip (text : List Char) : List Char :=
  ((text.dropWhile isSpace).reverse.dropWhile isSpace).reverse

/-- `str.upper` on one character.  Outside ASCII these are the ones with an
ASCII upper-case form. -/
def upperChar (ch : Char) : List Char :=
  match ch with
  | 'ı' => ['I']
  | 'ſ' => ['S']
  | 'ß' => ['S', 'S']
  | 'ﬀ' => ['F', 'F']
  | 'ﬁ' => ['F', 'I']
  | 'ﬂ' => ['F', 'L']
  | 'ﬃ' => ['F', 'F', 'I']
  | 'ﬄ' => ['F', 'F', 'L']
  | 'ﬅ' => ['S', 'T']
  | 'ﬆ' => ['S', 'T']
  | _ => [ch.toUpper]

/-- What ends a call before its request: an exception, or a result. -/
inductive Stop
  | raised
  | result (result : ToolResult)

/-- The URL, what it parses to, and the method. -/
structure Validated where
  url : List Char
  parsed : ParsedUrl
  method : String

/-- The checks of the arguments. -/
def validate (network : Network) (arguments : List (String × Json)) : Except Stop Validated :=
  match Json.getD arguments "url" (.str ""), Json.getD arguments "method" (.str "GET") with
  | .str text, methodArgument =>
    let url := strip text.toList
    if url = [] then
      .error (.result { content := "Error: 'url' argument is required.", success := false })
    else
      match ParsedUrl.urlparse network.checkNetloc url with
      | none => .error .raised
      | some parsed =>
        let scheme := String.ofList parsed.scheme
        if scheme ≠ "http" ∧ scheme ≠ "https" then
          let got := if scheme = "" then "none" else scheme
          .error (.result
            { content := s!"Blocked: only http/https URLs allowed (got: {got})", success := false })
        else
          match methodArgument with
          | .str methodText =>
            let method := String.ofList (methodText.toList.flatMap upperChar)
            if method ∈ allowedMethods then .ok { url, parsed, method }
            else
              .error (.result
                { content := s!"Error: unsupported HTTP method '{method}'. Allowed: " ++
                    String.intercalate ", " allowedMethods ++ "."
                  success := false })
          | _ => .error .raised
  | _, _ => .error .raised

/-- The hosts that are not pinned. -/
def unpinnedHostnames : List String := ["localhost", "127.0.0.1", "::1"]

/-- The address that the request is pinned to. -/
def pinnedAddress? (network : Network) (parsed : ParsedUrl) (hostname : List Char) :
    Option (BitVec 32) :=
  if String.ofList hostname ∈ unpinnedHostnames then none
  else
    match network.getaddrinfoV4 hostname, parsed.port? with
    | .ok (first :: _), some _ => some first
    | _, _ => none

/-- The URL with the address in place of the host. -/
def pinnedUrl (parsed : ParsedUrl) (address : BitVec 32) : List Char :=
  let netloc := match parsed.port? with
    | some (some (port + 1)) => s!"{IpAddress.dotted address}:{port + 1}"
    | _ => IpAddress.dotted address
  { parsed with netloc := netloc.toList }.urlunparse

/-- `headers["Host"] = hostname`, unless it is there or `headers` is no dictionary. -/
def withHost (headers : Json) (hostname : List Char) : Json :=
  match headers with
  | .dict entries =>
    if entries.any (fun entry => entry.1 = "Host") then headers
    else .dict (entries ++ [("Host", .str (String.ofList hostname))])
  | _ => headers

/-- A call: the addresses that it opens a connection to, and its result; `none`
is an exception. -/
structure Execution where
  contacted : List IpAddress := []
  result : Option ToolResult

/-- The result of a request. -/
def resultOf (request : HttpRequest) : HttpOutcome → Option ToolResult
  | .rejected => none
  | .timeout =>
    some { content := s!"Error: request to {String.ofList request.url} timed out after 15.0s."
           success := false
           metadata := [("url", .str (String.ofList request.url)), ("timeout", .float (.finite 15))] }
  | .requestError text =>
    some { content := s!"Error: network request failed — {text}", success := false
           metadata := [("url", .str (String.ofList request.url))] }
  | .answer statusCode text =>
    let truncated := text.length > 10000
    let bodyOut := String.ofList (text.toList.take 10000) ++ (if truncated then "…" else "")
    some { content := s!"HTTP {statusCode}\n\n{bodyOut}"
           success := 200 ≤ statusCode ∧ statusCode < 300
           metadata := [("url", .str (String.ofList request.url)), ("method", .str request.method),
             ("status_code", .int statusCode), ("truncated", .bool truncated),
             ("response_chars", .int bodyOut.length)] }

/-- The request is made, at the addresses. -/
def send (network : Network) (request : HttpRequest) (addresses : List IpAddress) : Execution :=
  match network.outcome with
  | .rejected => { result := none }
  | outcome => { contacted := addresses, result := resultOf request outcome }

/-- The request of a call, and the addresses that it is made at. -/
def prepare (network : Network) (arguments : List (String × Json)) (validated : Validated)
    (hostname : List Char) : HttpRequest × List IpAddress :=
  let { url, parsed, method } := validated
  let headers := Json.or (Json.lookup arguments "headers") (.dict [])
  let params := match Json.lookup arguments "params" with
    | value => if value.truthy then some value else none
  let body := match Json.lookup arguments "body" with
    | .null => none
    | value => some value
  let request : HttpRequest := { method, url, headers, params, body }
  match pinnedAddress? network parsed hostname with
  | some address =>
    ({ request with url := pinnedUrl parsed address, headers := withHost headers hostname },
      [.v4 address])
  | none => (request, network.clientAddresses hostname)

/-- `execute`. -/
def execute (network : Network) (arguments : List (String × Json)) : Execution :=
  match validate network arguments with
  | .error .raised => { result := none }
  | .error (.result result) => { result := some result }
  | .ok validated =>
    match isPrivateUrl network validated.parsed with
    | .error _ => { result := none }
    | .ok true =>
      { result := some
          { content := "Error: requests to private or internal network addresses are not " ++
              s!"permitted. URL: {String.ofList validated.url}"
            success := false
            metadata := [("url", .str (String.ofList validated.url)), ("blocked", .bool true)] } }
    | .ok false =>
      let (request, addresses) :=
        prepare network arguments validated (validated.parsed.hostname?.getD [])
      send network request addresses

/-! ## What should hold, and when -/

/-- The address that packets go to is in a private network or a loopback address. -/
def isInternal (address : IpAddress) : Bool :=
  isPrivate address.target || address.target.isLoopback

/-- What the lookups behind the check answer: the first IPv4 address, or what the
client obtains when the host is not pinned or the lookup does not answer. -/
def laterAnswer (network : Network) (parsed : ParsedUrl) (hostname : List Char) :
    List IpAddress :=
  if String.ofList hostname ∈ unpinnedHostnames ∨ parsed.port? = none then
    network.clientAddresses hostname
  else
    match network.getaddrinfoV4 hostname with
    | .ok (first :: _) => [.v4 first]
    | _ => network.clientAddresses hostname

/-- The check lets the URL through, and the client makes the request. -/
def Admitted (network : Network) (arguments : List (String × Json)) (validated : Validated)
    (hostname : List Char) : Prop :=
  validate network arguments = .ok validated ∧ validated.parsed.hostname? = some hostname ∧
    isPrivateUrl network validated.parsed = .ok false ∧
    network.outcome ≠ .rejected

/-- The later answer is the pinned address, or else what the client obtains. -/
theorem laterAnswer_eq (network : Network) (parsed : ParsedUrl) (hostname : List Char) :
    laterAnswer network parsed hostname =
      match pinnedAddress? network parsed hostname with
      | some address => [.v4 address]
      | none => network.clientAddresses hostname := by
  unfold laterAnswer pinnedAddress?
  by_cases hunpinned : String.ofList hostname ∈ unpinnedHostnames
  · rw [if_pos (Or.inl hunpinned), if_pos hunpinned]
  · rw [if_neg hunpinned]
    cases parsed.port? with
    | none =>
      rw [if_pos (Or.inr rfl)]
      cases network.getaddrinfoV4 hostname with
      | error error => rfl
      | ok addresses => cases addresses <;> rfl
    | some port =>
      rw [if_neg (by simp [hunpinned])]
      cases network.getaddrinfoV4 hostname with
      | error error => rfl
      | ok addresses => cases addresses <;> rfl

theorem prepare_addresses (network : Network) (arguments : List (String × Json))
    (validated : Validated) (hostname : List Char) :
    (prepare network arguments validated hostname).2 =
      laterAnswer network validated.parsed hostname := by
  rw [laterAnswer_eq]
  unfold prepare
  dsimp only
  cases pinnedAddress? network validated.parsed hostname <;> rfl

/-- A URL without a host is refused. -/
theorem hostname_of_not_private {network : Network} {parsed : ParsedUrl}
    (h : isPrivateUrl network parsed = .ok false) : ∃ hostname, parsed.hostname? = some hostname := by
  cases hhost : parsed.hostname? with
  | some hostname => exact ⟨hostname, rfl⟩
  | none =>
    rw [isPrivateUrl, hhost] at h
    cases h

theorem mem_contacted_send {network : Network} {request : HttpRequest} {addresses : List IpAddress}
    {address : IpAddress} :
    address ∈ (send network request addresses).contacted ↔
      network.outcome ≠ .rejected ∧ address ∈ addresses := by
  unfold send
  cases network.outcome <;> simp

/-- A call contacts what the later lookups answer, when it gets that far. -/
theorem mem_contacted {network : Network} {arguments : List (String × Json)}
    {address : IpAddress} :
    address ∈ (execute network arguments).contacted ↔
      ∃ validated hostname, Admitted network arguments validated hostname ∧
        address ∈ laterAnswer network validated.parsed hostname := by
  unfold execute Admitted
  cases hvalid : validate network arguments with
  | error stop => cases stop <;> simp
  | ok validated =>
    dsimp only
    cases hcheck : isPrivateUrl network validated.parsed with
    | error error =>
      simp only [List.not_mem_nil, false_iff, not_exists, not_and, Except.ok.injEq]
      rintro other hostname ⟨rfl, -, hpass, -⟩
      rw [hcheck] at hpass
      cases hpass
    | ok isPrivate =>
      cases isPrivate with
      | true =>
        simp only [List.not_mem_nil, false_iff, not_exists, not_and, Except.ok.injEq]
        rintro other hostname ⟨rfl, -, hpass, -⟩
        rw [hcheck] at hpass
        cases hpass
      | false =>
        obtain ⟨hostname, hhost⟩ := hostname_of_not_private hcheck
        rw [hhost]
        dsimp only [Option.getD_some]
        rw [mem_contacted_send, prepare_addresses]
        constructor
        · rintro ⟨hmade, hmem⟩
          exact ⟨validated, hostname, ⟨rfl, hhost, hcheck, hmade⟩, hmem⟩
        · rintro ⟨other, otherHost, ⟨heq, hother, -, hmade⟩, hmem⟩
          cases heq
          rw [hhost] at hother
          cases hother
          exact ⟨hmade, hmem⟩

/-- A loopback address is in one of the networks. -/
theorem isPrivate_of_isLoopback {address : IpAddress} (h : address.isLoopback = true) :
    isPrivate address = true := by
  cases address with
  | v4 bits =>
    have hbits : bits >>> 24 = 127 := by simpa [IpAddress.isLoopback] using h
    have hfirst : 127 = IpAddress.ofOctets 127 0 0 0 >>> 24 := by decide
    have hcontains : (IpNetwork.v4 (IpAddress.ofOctets 127 0 0 0) 8).contains (.v4 bits) = true :=
      decide_eq_true (hbits.trans hfirst)
    exact List.any_eq_true.2 ⟨_, List.mem_cons_self, hcontains⟩
  | v6 bits =>
    have hbits : bits = 1 := by simpa [IpAddress.isLoopback] using h
    rw [hbits]
    decide +kernel

/-- When the check had an answer, and the later lookups answer nothing new and no
mapped address, the addresses are public. -/
theorem public_of_consistent {network : Network} {parsed : ParsedUrl} {hostname : List Char}
    {addresses : List IpAddress} (hhost : parsed.hostname? = some hostname)
    (hcheck : isPrivateUrl network parsed = .ok false)
    (hanswer : network.getaddrinfo hostname = .ok addresses)
    (hlater : ∀ address ∈ laterAnswer network parsed hostname,
      address ∈ addresses ∧ address.ipv4Mapped? = none) :
    ∀ address ∈ laterAnswer network parsed hostname, isInternal address = false := by
  intro address haddress
  obtain ⟨hknown, hplain⟩ := hlater address haddress
  have hnone : addresses.any isPrivate = false := by
    rw [isPrivateUrl, hhost] at hcheck
    dsimp only at hcheck
    by_cases hblocked : String.ofList (hostname.map lowerChar) ∈ blockedHostnames
    · rw [if_pos hblocked] at hcheck
      cases hcheck
    · rw [if_neg hblocked, hanswer] at hcheck
      exact Except.ok.inj hcheck
  have hpublic : isPrivate address = false :=
    Bool.eq_false_iff.2 (List.any_eq_false.1 hnone address hknown)
  have hloop : address.isLoopback = false := by
    by_contra hnot
    rw [isPrivate_of_isLoopback (by simpa using hnot)] at hpublic
    cases hpublic
  rw [isInternal, IpAddress.target_of_unmapped hplain, hpublic, hloop]
  rfl

/-- No internal address is contacted exactly when, for a URL that the check lets
through, the later lookups answer none. -/
theorem execute_public_iff (network : Network) (arguments : List (String × Json)) :
    (∀ address ∈ (execute network arguments).contacted, isInternal address = false) ↔
    ∀ validated hostname, Admitted network arguments validated hostname →
      ∀ address ∈ laterAnswer network validated.parsed hostname, isInternal address = false := by
  constructor
  · intro h validated hostname hadmitted address haddress
    exact h address (mem_contacted.2 ⟨validated, hostname, hadmitted, haddress⟩)
  · intro h address haddress
    obtain ⟨validated, hostname, hadmitted, hmem⟩ := mem_contacted.1 haddress
    exact h validated hostname hadmitted address hmem

/-- A name server that answers `93.184.216.34` to the check and `127.0.0.1` to the
lookup behind it. -/
def rebinding : Network where
  checkNetloc := fun _ => true
  numericHost := fun _ => none
  lookup := fun _ => .ok [.v4 (IpAddress.ofOctets 93 184 216 34)]
  lookupV4 := fun _ => .ok [IpAddress.ofOctets 127 0 0 1]
  clientLookup := fun _ => []
  outcome := .answer 200 "ok"

/-- One that fails the check and answers `127.0.0.1` from then on. -/
def recovering : Network := { rebinding with lookup := fun _ => .error .gaierror }

/-- One that answers `::ffff:127.0.0.1` only. -/
def mapped : Network where
  checkNetloc := fun _ => true
  numericHost := fun _ => none
  lookup := fun _ => .ok [.v6 0xffff7f000001]
  lookupV4 := fun _ => .error .gaierror
  clientLookup := fun _ => [.v6 0xffff7f000001]
  outcome := .answer 200 "ok"

/-- The addresses that a call for a page of the host opens a connection to. -/
def contactedOver (network : Network) : List IpAddress :=
  (execute network [("url", .str "http://rebind.example/")]).contacted

/-- Each of the three leads to an address inside. -/
theorem execute_public_fails :
    (¬∀ address ∈ contactedOver rebinding, isInternal address = false) ∧
      (¬∀ address ∈ contactedOver recovering, isInternal address = false) ∧
        ¬∀ address ∈ contactedOver mapped, isInternal address = false := by
  refine ⟨?_, ?_, ?_⟩
  all_goals decide +kernel

end ApiCaller

end MassClaw
