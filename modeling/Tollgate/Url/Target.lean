import Tollgate.Number.Integer
import Tollgate.Text.Case
import Tollgate.Url.Basic

set_option autoImplicit false

/-!
# Targets of requests

The URL that a request is sent to. Any text is taken apart into scheme, authority, path, query
and fragment; each part is brought into a normal form, in which escapes that the text has stay
as they are. A text fails only for a character, a host or a port that cannot be sent.
-/

namespace Tollgate.Url

open Tollgate.Number Tollgate.Text Tollgate.Codec

/-- Why nothing can be sent to a URL. -/
inductive TargetFault where
  | tooLong
  /-- A character that cannot be printed, and its position. -/
  | control (c : Char) (position : Nat)
  | ipv4 (host : String)
  | ipv6 (host : String)
  /-- The host is no domain name. -/
  | name (host : String)
  | port (text : String)
deriving Repr, DecidableEq

/-- The wording of a target fault. -/
def TargetFault.message : TargetFault → String
  | .tooLong => "URL too long"
  | .control c position =>
      "Invalid non-printable ASCII character in URL, " ++ quoted (String.ofList [c]) ++
        " at position " ++ String.ofList (natText position) ++ "."
  | .ipv4 host => "Invalid IPv4 address: " ++ quoted host
  | .ipv6 host => "Invalid IPv6 address: " ++ quoted host
  | .name host => "Invalid IDNA hostname: " ++ quoted host
  | .port text => "Invalid port: " ++ quoted text

/-- Where a request is sent. The host stands without brackets. -/
structure Target where
  scheme : List Char
  userInfo : List Char
  host : List Char
  port : Option Int
  path : List Char
  query : Option (List Char)
  fragment : Option (List Char)
deriving Repr, DecidableEq

/-- The length of the longest URL. -/
def lengthLimit : Nat := 65536

/-- The first control character of a text and its position. -/
def findControl (cs : List Char) : Option (Char × Nat) :=
  cs.zipIdx.find? (fun (c, _) => c.toNat < 0x20 || c.toNat == 0x7f)

/-- How many single characters can be taken out of a run of digits so that digits stay on both
sides of each. -/
def spareDigits (run : List Char) : Nat :=
  (run.length - 1) / 2

/-- The runs of digits of a text between its other characters. -/
def digitRuns (cs : List Char) : List (List Char) :=
  split '.' (cs.map (fun c => if c.isDigit then c else '.'))

/-- Whether a host is written like an address of version 4: four runs of digits with one character
between each two, which may be any character, even a digit. -/
def looksLikeIpv4 (cs : List Char) : Bool :=
  let runs := digitRuns cs
  runs.all (!·.isEmpty) && runs.length ≤ 4 && 4 ≤ (runs.map spareDigits).foldr (· + ·) runs.length

/-- Whether a character is escaped in a host. -/
def isEscapedInHost (c : Char) : Bool :=
  isEscapedInFragment c && c != '"' && c.toNat != 0x60 || "#/:?@[]^".toList.contains c

/-- Whether a text is an address of version 6, perhaps with the name of a zone behind a percent
sign. -/
def isZonedIpv6 (cs : List Char) : Bool :=
  match split '%' cs with
  | [address] => (readIpv6 address).isSome
  | [address, zone] => (readIpv6 address).isSome && !zone.isEmpty
  | _ => false

/-- Whether a text is an address of version 4: four numbers below 256 between dots. -/
def isIpv4 (cs : List Char) : Bool :=
  let parts := split '.' cs
  parts.length == 4 && parts.all (fun part => (readOctet part).isSome)

/-- The host of a target. -/
def targetHost (cs : List Char) : Except TargetFault (List Char) :=
  if looksLikeIpv4 cs then
    if isIpv4 cs then .ok cs else .error (.ipv4 (String.ofList cs))
  else if cs.head? == some '[' && cs.getLast? == some ']' then
    let inner := (cs.drop 1).dropLast
    if isZonedIpv6 inner then .ok inner else .error (.ipv6 (String.ofList cs))
  else if cs.all (·.toNat < 0x80) then .ok (percentEncode isEscapedInHost (asciiLower cs))
  else
    match writeName (lower cs) with
    | .ok name => .ok name
    | .error _ => .error (.name (String.ofList cs))

/-- The port of a target. The port that the scheme implies is left out. -/
def targetPort (scheme cs : List Char) : Except TargetFault (Option Int) :=
  if cs.isEmpty then .ok none
  else
    match readInteger (String.ofList cs) with
    | .error _ => .error (.port (String.ofList cs))
    | .ok n => .ok (if (defaultPort? scheme).map Int.ofNat = some n then none else some n)

/-- Drops the dot segments of a path; what each pair of dots leads out of is dropped with it.
`kept` are the segments so far in reverse. -/
def dropDots (kept : List (List Char)) : List (List Char) → List (List Char)
  | [] => kept.reverse
  | ['.'] :: rest => dropDots kept rest
  | ['.', '.'] :: rest => dropDots (if kept == [[]] then kept else kept.drop 1) rest
  | segment :: rest => dropDots (segment :: kept) rest

/-- Whether a character is escaped in the user information of a target. -/
def isEscapedInTargetUser (c : Char) : Bool :=
  c != ':' && isEscapedInUserInfo c

/-- Whether a character is escaped in the query of a target. -/
def isEscapedInTargetQuery (c : Char) : Bool :=
  c != '\x27' && isEscapedInQuery c

/-- The scheme of a text and what follows it; a text without scheme has an empty one. -/
def cutTargetScheme (cs : List Char) : List Char × List Char :=
  (cutScheme cs).getD ([], cs)

/-- The authority of what follows a scheme, and what follows the authority. -/
def cutAuthority : List Char → List Char × List Char
  | '/' :: '/' :: rest =>
    let inside (c : Char) : Bool := c != '/' && c != '?' && c != '#'
    (rest.takeWhile inside, rest.dropWhile inside)
  | cs => ([], cs)

/-- The host and the port of an authority without user information. -/
def cutTargetPort (cs : List Char) : List Char × List Char :=
  let host :=
    if cs.head? == some '[' && cs.contains ']' then
      cs.take (cs.length - (cs.reverse.takeWhile (· != ']')).length)
    else cs.takeWhile (· != ':')
  let rest := cs.drop host.length
  (host, if rest.head? == some ':' then rest.drop 1 else rest)

/-- Reads the target of a request. Without a host only the path and the query count. -/
def Target.read (text : String) : Except TargetFault Target := do
  let cs := text.toList
  if lengthLimit < cs.length then throw .tooLong
  if let some (c, position) := findControl cs then throw (.control c position)
  let (scheme, afterScheme) := cutTargetScheme cs
  let (authority, afterAuthority) := cutAuthority afterScheme
  let inPath (c : Char) : Bool := c != '?' && c != '#'
  let path := afterAuthority.takeWhile inPath
  let (query, afterQuery) :=
    match afterAuthority.dropWhile inPath with
    | '?' :: q => (some (q.takeWhile (· != '#')), q.dropWhile (· != '#'))
    | other => (none, other)
  let fragment :=
    match afterQuery with
    | '#' :: f => some f
    | _ => none
  let (user, hostPort) := cutUserInfo authority
  let (hostText, portText) := cutTargetPort hostPort
  let host ← targetHost hostText
  let port ← targetPort scheme portText
  let path := percentEncode isEscapedInPath (join '/' (dropDots [] (split '/' path)))
  let query := query.map (percentEncode isEscapedInTargetQuery)
  if host.isEmpty then
    return ⟨[], [], [], none, '/' :: path.dropWhile (· == '/'), query, none⟩
  else
    return {
      scheme := scheme
      userInfo := percentEncode isEscapedInTargetUser user
      host := host
      port := port
      path := path
      query := query
      fragment := fragment.map (percentEncode isEscapedInFragment) }

namespace Target

/-- The authority of a target. -/
def authority (t : Target) : List Char :=
  (if t.userInfo.isEmpty then [] else t.userInfo ++ ['@']) ++
    (if t.host.contains ':' then '[' :: t.host ++ [']'] else t.host) ++
    match t.port with
    | some n => ':' :: intText n
    | none => []

/-- The text of a target. -/
def text (t : Target) : String :=
  String.ofList ((if t.scheme.isEmpty then [] else t.scheme ++ [':']) ++
    (if t.authority.isEmpty then [] else '/' :: '/' :: t.authority) ++ t.path ++
    (match t.query with
      | some q => '?' :: q
      | none => []) ++
    match t.fragment with
      | some f => '#' :: f
      | none => [])

/-- The user name and the password of a target, each without escapes, joined by a colon. There
are none if both are empty. -/
def credentials? (t : Target) : Option (List UInt8) :=
  let unescaped (cs : List Char) : List Char := Utf8.decodeLossy (percentDecode cs)
  let name := unescaped (t.userInfo.takeWhile (· != ':'))
  let password := unescaped ((t.userInfo.dropWhile (· != ':')).drop 1)
  if name.isEmpty && password.isEmpty then none
  else some (Utf8.encode (name ++ ':' :: password))

/-- What is wrong with the host as a domain name that begins with an encoded label, if anything
is. Other hosts are not looked at. -/
def nameFault? (t : Target) : Option LabelFault :=
  if encodedMark.isPrefixOf t.host then Url.nameFault? t.host else none

/-- Whether a target names a server. -/
def isAbsolute (t : Target) : Bool :=
  !t.scheme.isEmpty

end Target

end Tollgate.Url
