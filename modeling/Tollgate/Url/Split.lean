import Tollgate.Url.Target

set_option autoImplicit false

/-!
# Splitting URLs

The path of a URL, as it is found by splitting the text of the URL again. White space and controls
in front, tabs and line breaks count for nothing; then the scheme is cut off, and behind two slashes
the authority. Nothing is split if the authority has brackets that enclose no address, or a
character that stands for one of those that divide a URL.
-/

namespace Tollgate.Url

open Tollgate.Number Tollgate.Text

/-- Why a URL is not split. -/
inductive SplitFault where
  /-- Of a pair of brackets only one is there. -/
  | brackets
  /-- What stands in brackets begins like an address of a version to come, and is none. -/
  | futureAddress
  /-- An address of version 4 stands in brackets. -/
  | ipv4
  /-- What stands in brackets is no address. -/
  | address (text : String)
  /-- A character of the authority stands for one that divides a URL. -/
  | divided (authority : String)
deriving Repr, DecidableEq

/-- The wording of a split fault. -/
def SplitFault.message : SplitFault → String
  | .brackets => "Invalid IPv6 URL"
  | .futureAddress => "IPvFuture address is invalid"
  | .ipv4 => "An IPv4 address cannot be in brackets"
  | .address text => quoted text ++ " does not appear to be an IPv4 or IPv6 address"
  | .divided authority =>
      "netloc \x27" ++ authority ++ "\x27 contains invalid characters under NFKC normalization"

/-- The characters that are compatible with a text in which a slash, a question mark, a hash, an at
sign or a colon occurs, such as the account sign and the full-width colon. -/
def dividers : List Char :=
  ['\u2047', '\u2048', '\u2049', '\u2100', '\u2101', '\u2105', '\u2106', '\u2a74', '\ufe13',
   '\ufe16', '\ufe55', '\ufe56', '\ufe5f', '\ufe6b', '\uff03', '\uff0f', '\uff1a', '\uff1f',
   '\uff20']

/-- What is wrong with the text between brackets, if anything is. -/
def bracketedFault? (cs : List Char) : Option SplitFault :=
  match cs with
  | 'v' :: rest =>
    match rest.dropWhile isHexDigit with
    | '.' :: _ :: _ => if rest.head?.any isHexDigit then none else some .futureAddress
    | _ => some .futureAddress
  | _ =>
    if isIpv4 cs then some .ipv4
    else if isZonedIpv6 cs then none
    else some (.address (String.ofList cs))

/-- What is wrong with the brackets of an authority, if anything is. Only the first opening bracket
and the next closing one are looked at. -/
def bracketFault? (authority : List Char) : Option SplitFault :=
  if authority.contains '[' != authority.contains ']' then some .brackets
  else if authority.contains '[' then
    bracketedFault? (((authority.dropWhile (· != '[')).drop 1).takeWhile (· != ']'))
  else none

/-- What is wrong with an authority, if anything is. -/
def authorityFault? (authority : List Char) : Option SplitFault :=
  match bracketFault? authority with
  | some fault => some fault
  | none =>
    if authority.any (dividers.contains ·) then some (.divided (String.ofList authority))
    else none

/-- The path of a URL: what stands between its authority and its query or fragment. -/
def pathOf (cs : List Char) : Except SplitFault (List Char) :=
  let visible := (cs.dropWhile (·.toNat ≤ 0x20)).filter
    (fun c => c != '\t' && c != '\n' && c != '\r')
  let (authority, rest) := cutAuthority (cutTargetScheme visible).2
  match authorityFault? authority with
  | some fault => .error fault
  | none => .ok (rest.takeWhile (fun c => c != '?' && c != '#'))

end Tollgate.Url
