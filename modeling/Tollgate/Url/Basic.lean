import Tollgate.Text.Case
import Tollgate.Url.Host

set_option autoImplicit false

/-!
# URLs

Reading a URL of a web service and writing it in its normal form: scheme and host in lower case,
no default port, a path that is never empty and holds no dot segments, and escapes where they
are needed. Blanks at the ends and line breaks and tabs anywhere count for nothing.
-/

namespace Tollgate.Url

open Tollgate.Number Tollgate.Text

/-- Why a text is not the URL of a web service. -/
inductive UrlFault where
  /-- The text is no URL. -/
  | unreadable
  /-- The text is a URL of another scheme. -/
  | scheme
deriving Repr, DecidableEq

/-- A URL of a web service. The parts keep their escapes; a part that is absent is told from an
empty one. -/
structure WebUrl where
  scheme : List Char
  userInfo : List Char
  host : Host
  port : Option Nat
  path : List Char
  query : Option (List Char)
  fragment : Option (List Char)
deriving Repr, DecidableEq

/-- The text without blanks and controls at its ends and without tabs and line breaks. -/
def tidy (cs : List Char) : List Char :=
  (trimBy (fun c => c.toNat ≤ 0x20) cs).filter (fun c => c != '\t' && c != '\n' && c != '\r')

/-- The scheme in front of the first colon, in lower case, and what follows. -/
def cutScheme (cs : List Char) : Option (List Char × List Char) :=
  let name := cs.takeWhile (· != ':')
  let isNameChar (c : Char) : Bool := c.isAlphanum || c == '+' || c == '-' || c == '.'
  match name, cs.dropWhile (· != ':') with
  | first :: _, _ :: rest =>
    if first.isAlpha && name.all isNameChar then some (asciiLower name, rest) else none
  | _, _ => none

/-- The default port of a scheme whose URLs have a host. -/
def defaultPort? (scheme : List Char) : Option Nat :=
  match String.ofList scheme with
  | "http" | "ws" => some 80
  | "https" | "wss" => some 443
  | "ftp" => some 21
  | _ => none

/-- Whether a scheme is one of a web service. -/
def isWebScheme (scheme : List Char) : Bool :=
  scheme == "http".toList || scheme == "https".toList

/-- The user information of an authority, which ends at its last at-sign, and the rest. -/
def cutUserInfo (authority : List Char) : List Char × List Char :=
  let parts := split '@' authority
  (join '@' parts.dropLast, parts.getLast?.getD [])

/-- The user name and the password in their normal form. -/
def userInfoText (info : List Char) : List Char :=
  let name := percentEncode isEscapedInUserInfo (info.takeWhile (· != ':'))
  let password := percentEncode isEscapedInUserInfo ((info.dropWhile (· != ':')).drop 1)
  let both := if password.isEmpty then name else name ++ ':' :: password
  if both.isEmpty then [] else both ++ ['@']

/-- The host and the port text of an authority without user information. -/
def cutPort (cs : List Char) : List Char × List Char :=
  let host :=
    if cs.head? == some '[' then cs.takeWhile (· != ']') ++ (cs.dropWhile (· != ']')).take 1
    else cs.takeWhile (· != ':')
  (host, cs.drop host.length)

/-- The number of a port text: none, a colon, or a colon and digits. -/
def readPort : List Char → Option (Option Nat)
  | [] | [':'] => some none
  | ':' :: digits =>
    if digits.all Char.isDigit then
      let n := ofDigits (digits.filterMap asciiDigitValue?)
      if n < 65536 then some (some n) else none
    else none
  | _ => none

/-- Whether a character is a slash of either kind. -/
def isSlash (c : Char) : Bool := c == '/' || c == '\\'

/-- Whether a text names a drive: a letter and a colon or a bar. -/
def isDrive : List Char → Bool
  | [letter, mark] => letter.isAlpha && (mark == ':' || mark == '|')
  | _ => false

/-- The number of dots of a path segment of one or two dots, escaped or not. -/
def dots? (segment : List Char) : Option Nat :=
  match String.ofList (asciiLower segment) with
  | "." | "%2e" => some 1
  | ".." | ".%2e" | "%2e." | "%2e%2e" => some 2
  | _ => none

/-- The segments, in reverse, of the directory above. A drive has none above it. -/
def parent : List (List Char) → List (List Char)
  | [] => []
  | segment :: rest => if isDrive segment then segment :: rest else rest

/-- Resolves the dot segments of a path. `done` are the segments so far in reverse. -/
def resolve (done : List (List Char)) : List (List Char) → List (List Char)
  | [] => done.reverse
  | segment :: rest =>
    match dots? segment with
    | some 1 => if rest.isEmpty then (([] : List Char) :: done).reverse else resolve done rest
    | some _ =>
      if rest.isEmpty then (([] : List Char) :: parent done).reverse
      else resolve (parent done) rest
    | none => resolve (percentEncode isEscapedInPath segment :: done) rest

/-- The normal form of a path. Backslashes count as slashes. -/
def pathText (cs : List Char) : List Char :=
  let slashed := cs.map (fun c => if isSlash c then '/' else c)
  let segments := split '/' (if slashed.head? == some '/' then slashed.drop 1 else slashed)
  '/' :: join '/' (resolve [] segments)

/-- The URL of a scheme with a host, read from what follows the colon of the scheme. -/
def readAfterScheme (scheme rest : List Char) : Option WebUrl :=
  let afterSlashes := rest.dropWhile isSlash
  let isEnd (c : Char) : Bool := isSlash c || c == '?' || c == '#'
  let authority := afterSlashes.takeWhile (!isEnd ·)
  let tail := afterSlashes.dropWhile (!isEnd ·)
  let path := tail.takeWhile (fun c => c != '?' && c != '#')
  let afterPath := tail.dropWhile (fun c => c != '?' && c != '#')
  let (info, hostPort) := cutUserInfo authority
  let (hostText, portText) := cutPort hostPort
  match Host.read hostText, readPort portText with
  | some host, some port =>
    let (query, afterQuery) :=
      match afterPath with
      | '?' :: q =>
        (some (percentEncode isEscapedInQuery (q.takeWhile (· != '#'))), q.dropWhile (· != '#'))
      | other => (none, other)
    let fragment :=
      match afterQuery with
      | '#' :: f => some (percentEncode isEscapedInFragment f)
      | _ => none
    some {
      scheme := scheme
      userInfo := userInfoText info
      host := host
      port := if port = defaultPort? scheme then none else port
      path := pathText path
      query := query
      fragment := fragment }
  | _, _ => none

/-! ## Other schemes

A URL of a scheme without a default port is never one of a web service. All that is asked of it
is whether it is a URL at all. -/

/-- Whether a character delimits parts of a URL, so that no name of a host may hold it. -/
def isDelimiter (c : Char) : Bool :=
  "\x00 #/:<>?@[\\]^|".toList.contains c

/-- Whether a text can be a host where the scheme asks nothing of it: an address of version 6 in
brackets, or any text without delimiters. -/
def isPlainHost : List Char → Bool
  | '[' :: rest => rest.getLast? == some ']' && (readIpv6 rest.dropLast).isSome
  | cs => !cs.any isDelimiter

/-- Whether what follows two slashes can be read where the scheme asks nothing of the host. The
host may be missing, but then there is neither a port nor a user. -/
def isPlainAuthority (rest : List Char) : Bool :=
  let isEnd (c : Char) : Bool := c == '/' || c == '?' || c == '#'
  let authority := rest.takeWhile (!isEnd ·)
  let (info, hostPort) := cutUserInfo authority
  let (host, portText) := cutPort hostPort
  let isAlone := hostPort.isEmpty && (userInfoText info).isEmpty &&
    !(authority == ['@'] && rest.any isEnd)
  let port := ':' :: (portText.drop 1).takeWhile (· != '\\')
  isPlainHost host && (portText.isEmpty || portText.head? == some ':') &&
    (readPort port).isSome && (!host.isEmpty || isAlone)

/-- Whether what follows the colon of the scheme `file` can be read: behind two slashes stands a
host, a drive or nothing. -/
def isFileLocation : List Char → Bool
  | first :: second :: rest =>
    if isSlash first && isSlash second then
      let host := rest.takeWhile (fun c => !(isSlash c || c == '?' || c == '#'))
      host.isEmpty || isDrive host || (Host.read host).isSome
    else true
  | _ => true

/-- Whether what follows the colon of a scheme without a default port can be read. -/
def isReadable (scheme rest : List Char) : Bool :=
  if scheme == "file".toList then isFileLocation rest
  else
    match rest with
    | '/' :: '/' :: more => isPlainAuthority more
    | _ => true

/-- Reads the URL of a web service. -/
def WebUrl.read (text : String) : Except UrlFault WebUrl :=
  match cutScheme (tidy text.toList) with
  | none => .error .unreadable
  | some (scheme, rest) =>
    if (defaultPort? scheme).isSome then
      match readAfterScheme scheme rest with
      | some url => if isWebScheme scheme then .ok url else .error .scheme
      | none => .error .unreadable
    else if isReadable scheme rest then .error .scheme
    else .error .unreadable

/-- The normal text of a URL. -/
def WebUrl.text (url : WebUrl) : String :=
  let port := match url.port with
    | some n => ':' :: natText n
    | none => []
  let query := match url.query with
    | some q => '?' :: q
    | none => []
  let fragment := match url.fragment with
    | some f => '#' :: f
    | none => []
  String.ofList (url.scheme ++ "://".toList ++ url.userInfo ++ url.host.text ++ port ++ url.path ++
    query ++ fragment)

end Tollgate.Url
