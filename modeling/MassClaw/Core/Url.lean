import MassClaw.Identity.Did

/-!
# URLs, `urllib.parse`

`urlparse` and the attributes of its result that the tools read.  What it looks
up in tables (the normal form of a netloc that is not ASCII, the form of an IPv6
literal) is a parameter.
-/

namespace MassClaw

/-- `ParseResult`. -/
structure ParsedUrl where
  scheme : List Char
  netloc : List Char
  path : List Char
  params : List Char
  query : List Char
  fragment : List Char
  deriving DecidableEq

namespace ParsedUrl

/-- The text before the first separator, and the text behind it if there is one. -/
def partition (isSeparator : Char → Bool) (text : List Char) : List Char × Option (List Char) :=
  match text.dropWhile (fun ch => !isSeparator ch) with
  | [] => (text, none)
  | _ :: rest => (text.takeWhile (fun ch => !isSeparator ch), some rest)

/-- The text behind the last occurrence of a character, or all of it. -/
def afterLast (ch : Char) (text : List Char) : List Char :=
  (text.reverse.takeWhile (· != ch)).reverse

/-- `scheme_chars`. -/
def isSchemeChar (ch : Char) : Bool := ch.isAlphanum || ch = '+' || ch = '-' || ch = '.'

/-- `uses_params`. -/
def usesParams : List String :=
  ["", "ftp", "hdl", "prospero", "http", "imap", "https", "shttp", "rtsp", "rtsps", "rtspu", "sip",
    "sips", "mms", "sftp", "tel"]

/-- The scheme, in lower case, and the rest. -/
def splitScheme (url : List Char) : List Char × List Char :=
  match partition (· = ':') url with
  | (first :: more, some rest) =>
    if first.isAlpha && (first :: more).all isSchemeChar then
      ((first :: more).map Char.toLower, rest)
    else ([], url)
  | _ => ([], url)

/-- `_splitparams`: the last segment of the path up to its first semicolon. -/
def splitParams (path : List Char) : List Char × List Char :=
  let last := afterLast '/' path
  let before := path.take (path.length - last.length)
  match partition (· = ';') last with
  | (segment, some params) => (before ++ segment, params)
  | (_, none) => (path, [])

/-- The netloc and the rest. -/
def splitNetloc (url : List Char) : List Char × List Char :=
  match url with
  | '/' :: '/' :: rest =>
    (rest.takeWhile (fun ch => !(ch = '/' || ch = '?' || ch = '#')),
      rest.dropWhile (fun ch => !(ch = '/' || ch = '?' || ch = '#')))
  | _ => ([], url)

/-- `urlparse`; `none` is the `ValueError`. -/
def urlparse (checkNetloc : List Char → Bool) (url : List Char) : Option ParsedUrl :=
  let url := (url.dropWhile (fun ch => ch.toNat ≤ 0x20)).filter
    (fun ch => !(ch = '\t' || ch = '\r' || ch = '\n'))
  let (scheme, url) := splitScheme url
  let (netloc, url) := splitNetloc url
  if netloc.contains '[' != netloc.contains ']' || !checkNetloc netloc then none
  else
    let (url, fragment) := partition (· = '#') url
    let (url, query) := partition (· = '?') url
    let (path, params) :=
      if String.ofList scheme ∈ usesParams then splitParams url else (url, [])
    some { scheme, netloc, path, params, query := query.getD [], fragment := fragment.getD [] }

/-- `_hostinfo`: the host and the text of the port. -/
def hostinfo (parsed : ParsedUrl) : List Char × List Char :=
  let hostinfo := afterLast '@' parsed.netloc
  match partition (· = '[') hostinfo with
  | (_, some bracketed) =>
    let (hostname, port) := partition (· = ']') bracketed
    (hostname, ((partition (· = ':') (port.getD [])).2).getD [])
  | (_, none) =>
    let (hostname, port) := partition (· = ':') hostinfo
    (hostname, port.getD [])

/-- `hostname`: in lower case up to the zone. -/
def hostname? (parsed : ParsedUrl) : Option (List Char) :=
  match parsed.hostinfo.1 with
  | [] => none
  | hostname =>
    some ((hostname.takeWhile (· != '%')).map lowerChar ++ hostname.dropWhile (· != '%'))

/-- `port`; `none` is the `ValueError`. -/
def port? (parsed : ParsedUrl) : Option (Option Nat) :=
  match parsed.hostinfo.2 with
  | [] => some none
  | port =>
    if port.all Char.isDigit then
      let number := port.foldl (fun acc ch => acc * 10 + (ch.toNat - 48)) 0
      if number ≤ 65535 then some (some number) else none
    else none

/-- `urlunparse`, of a result with a scheme and a netloc. -/
def urlunparse (parsed : ParsedUrl) : List Char :=
  let path := if parsed.params = [] then parsed.path else parsed.path ++ ';' :: parsed.params
  let path := if path = [] || path.head? = some '/' then path else '/' :: path
  parsed.scheme ++ "://".toList ++ parsed.netloc ++ path ++
    (if parsed.query = [] then [] else '?' :: parsed.query) ++
    (if parsed.fragment = [] then [] else '#' :: parsed.fragment)

example : (urlparse (fun _ => true) "HTTP://u@Example.com:80/a;b?c#d".toList).map
    (fun parsed => (parsed.hostname?, parsed.port?, parsed.params)) =
      some (some "example.com".toList, some (some 80), "b".toList) := by decide +kernel

end ParsedUrl

end MassClaw
