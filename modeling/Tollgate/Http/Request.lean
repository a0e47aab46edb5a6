import Tollgate.Number.Integer
import Tollgate.Payment.Header
import Tollgate.Text.Case
import Tollgate.Url.Target

set_option autoImplicit false

/-!
# Requests

A request as a server hands it over, and what may be read from it: its URL, the payment in its
header, and whether a browser sent it. How the URL is put together is up to the framework. In the
plain construction the host that the client names and the decoded path stand in the text of the URL
as they are; in the checked one only a valid host does, and what would end the path is escaped.
-/

namespace Tollgate.Http

open Tollgate.Number Tollgate.Text Tollgate.Payment Tollgate.Url

/-- Header fields in order. -/
abbrev Headers := List (String × String)

/-- Whether two header names are the same; letter case does not matter. -/
def sameName (a b : String) : Bool :=
  asciiLower a.toList == asciiLower b.toList

/-- The value of the first field of a name. -/
def Headers.get? (headers : Headers) (name : String) : Option String :=
  (headers.find? (fun (n, _) => sameName n name)).map Prod.snd

/-- The values of all fields of a name, with commas between them. -/
def Headers.joined? (headers : Headers) (name : String) : Option String :=
  match (headers.filter (fun (n, _) => sameName n name)).map Prod.snd with
  | [] => none
  | values => some (", ".intercalate values)

/-- Gives the first field of a name a value and removes the others; a field that is missing is
added at the end. -/
def Headers.set (headers : Headers) (name value : String) : Headers :=
  match headers with
  | [] => [(name, value)]
  | (n, v) :: rest =>
    if sameName n name then (n, value) :: rest.filter (fun (n, _) => !sameName n name)
    else (n, v) :: Headers.set rest name value

/-- A request. -/
structure Request where
  method : String
  scheme : String
  /-- The path, without escapes. -/
  path : String
  query : String
  headers : Headers
  /-- The server's own name and port, for requests that name no valid host. -/
  serverName : String
  serverPort : Nat
deriving Repr

/-- Whether a character may stand in the name of a host. -/
def isHostChar (c : Char) : Bool :=
  c.isAlphanum || "._~%!$&'()*+,;=-".toList.contains c

/-- Whether a text is an address of a version to come: the letter v, hexadecimal digits, a dot, and
characters of a host or colons. -/
def isFutureAddress (cs : List Char) : Bool :=
  match cs with
  | 'v' :: rest =>
    let address := (rest.dropWhile isHexDigit).drop 1
    let isAddressChar (c : Char) : Bool := (isHostChar c && c != '%') || c == ':'
    (rest.head?.any isHexDigit) && (rest.dropWhile isHexDigit).head? == some '.' &&
      !address.isEmpty && address.all isAddressChar
  | _ => false

/-- Whether a text is a host name or an address in brackets. -/
def isHost (cs : List Char) : Bool :=
  match cs with
  | '[' :: rest =>
    rest.getLast? == some ']' &&
      ((readIpv6 rest.dropLast).isSome || isFutureAddress rest.dropLast)
  | _ => !cs.isEmpty && cs.all isHostChar

/-- Whether a text is a colon and the number of a port. -/
def isPort (cs : List Char) : Bool :=
  match cs with
  | ':' :: digits =>
    !digits.isEmpty && digits.all Char.isDigit &&
      ofDigits (digits.filterMap asciiDigitValue?) ≤ 65535
  | _ => false

/-- Whether a text is a host, perhaps with a port. -/
def isAuthority (cs : List Char) : Bool :=
  let host :=
    if cs.head? == some '[' then cs.takeWhile (· != ']') ++ (cs.dropWhile (· != ']')).take 1
    else cs.takeWhile (· != ':')
  let port := cs.drop host.length
  isHost host && (port.isEmpty || isPort port)

/-- The port that a scheme stands for, if it is known. -/
def schemePort? (scheme : String) : Option Nat :=
  if scheme = "http" ∨ scheme = "ws" then some 80
  else if scheme = "https" ∨ scheme = "wss" then some 443
  else none

/-- A path as it stands in a URL: what would end it is escaped, and it begins with a slash unless
it is empty. -/
def escapePath (cs : List Char) : List Char :=
  let escaped := cs.flatMap (fun c =>
    if c = '?' then "%3F".toList
    else if c = '#' then "%23".toList
    else if c = '\\' then "%5C".toList
    else [c])
  if escaped.isEmpty || escaped.head? == some '/' then escaped else '/' :: escaped

namespace Request

/-- The server itself as an authority. The port is left out where the scheme implies it; nothing
is known of a scheme without a port of its own. -/
def serverAuthority (r : Request) : Except Failure String :=
  match schemePort? r.scheme with
  | none => .error (.raised .key r.scheme)
  | some port =>
    if r.serverPort = port then .ok r.serverName
    else .ok (r.serverName ++ ":" ++ String.ofList (natText r.serverPort))

/-- The URL of the request with an authority and a path: its scheme in front of them, its query
behind. -/
def urlWith (r : Request) (authority : String) (path : List Char) : String :=
  r.scheme ++ "://" ++ authority ++ String.ofList path ++
    if r.query = "" then "" else "?" ++ r.query

/-- The host that the request names, as it is, or the server itself if it names none. -/
def host (r : Request) : Except Failure String :=
  match r.headers.get? "host" with
  | some host => .ok host
  | none => r.serverAuthority

/-- The host that the request names, or the server itself if that is not valid. -/
def authority (r : Request) : Except Failure String :=
  match r.headers.get? "host" with
  | some host => if isAuthority host.toList then .ok host else r.serverAuthority
  | none => r.serverAuthority

/-- The URL in which the host and the path of the request stand as they are. -/
def plainUrl (r : Request) : Except Failure String :=
  r.host.map (fun host => r.urlWith host r.path.toList)

/-- The URL in which only a valid host stands, and a path that is escaped. -/
def checkedUrl (r : Request) : Except Failure String :=
  r.authority.map (fun authority => r.urlWith authority (escapePath r.path.toList))

/-- The payment that the request carries, where values may be nested so deeply; an empty header is
none. -/
def payment (depth : Nat) (r : Request) : Except Failure (Option Payload) :=
  match r.headers.get? "X-PAYMENT" with
  | none => .ok none
  | some header => if header = "" then .ok none else (Payload.ofHeader depth header).map some

end Request

/-- Whether a text holds another. -/
def holds (part : List Char) : List Char → Bool
  | [] => part.isEmpty
  | c :: rest => part.isPrefixOf (c :: rest) || holds part rest

/-- Whether a browser sent the request, which can show a page. -/
def Request.isBrowser (r : Request) : Bool :=
  let accept := (r.headers.get? "Accept").getD ""
  let agent := (r.headers.get? "User-Agent").getD ""
  holds "text/html".toList accept.toList && holds "Mozilla".toList agent.toList

end Tollgate.Http
