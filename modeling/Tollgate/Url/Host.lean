import Tollgate.Number.Integer
import Tollgate.Text.Split
import Tollgate.Url.Mapping
import Tollgate.Url.Percent

set_option autoImplicit false

/-!
# Hosts

A host is a domain name or an address of version 4 or 6. Addresses have one normal text each:
four decimal numbers, or eight hexadecimal groups of which the longest run of zeros is left out.
-/

namespace Tollgate.Url

open Tollgate.Number Tollgate.Text Tollgate.Codec

/-- A host. -/
inductive Host where
  | domain (name : List Char)
  | ipv4 (address : Nat)
  | ipv6 (groups : List Nat)
deriving Repr, DecidableEq

/-! ## Addresses of version 6 -/

/-- One to four hexadecimal digits. -/
def readGroup (cs : List Char) : Option Nat :=
  if cs.isEmpty || 4 < cs.length then none else hexNumber? cs

/-- A decimal number below 256 without leading zeros. -/
def readOctet (cs : List Char) : Option Nat :=
  if cs.isEmpty || 3 < cs.length || !cs.all Char.isDigit then none
  else if cs.head? == some '0' && cs.length != 1 then none
  else
    let n := ofDigits (cs.filterMap asciiDigitValue?)
    if n < 256 then some n else none

/-- Two groups written as four decimal numbers. -/
def readDotted (cs : List Char) : Option (List Nat) :=
  match (split '.' cs).mapM readOctet with
  | some [a, b, c, d] => some [a * 256 + b, c * 256 + d]
  | _ => none

/-- Groups between colons; the last two may be dotted. An empty text has no groups. -/
def readGroups (cs : List Char) : Option (List Nat) :=
  if cs.isEmpty then some []
  else
    let parts := split ':' cs
    match parts.mapM readGroup with
    | some groups => some groups
    | none => do
      let front ← parts.dropLast.mapM readGroup
      let back ← readDotted (parts.getLast?.getD [])
      return front ++ back

/-- What stands in front of the first two colons in a row and behind them. -/
def cutAtGap : List Char → Option (List Char × List Char)
  | ':' :: ':' :: rest => some ([], rest)
  | c :: rest => (cutAtGap rest).map (fun (front, back) => (c :: front, back))
  | [] => none

/-- The eight groups of an address of version 6. -/
def readIpv6 (cs : List Char) : Option (List Nat) :=
  match cutAtGap cs with
  | none =>
    match readGroups cs with
    | some groups => if groups.length = 8 then some groups else none
    | none => none
  | some (front, back) =>
    match readGroups front, readGroups back with
    | some f, some b =>
      if f.length + b.length ≤ 7 && !front.contains '.' then
        some (f ++ List.replicate (8 - f.length - b.length) 0 ++ b)
      else none
    | _, _ => none

/-- The hexadecimal text of a group, without leading zeros. -/
def groupText (n : Nat) : List Char :=
  match (hexText 4 n).dropWhile (· == '0') with
  | [] => ['0']
  | cs => cs

/-- The length of the run of zeros at the front. -/
def zerosAhead (groups : List Nat) : Nat :=
  (groups.takeWhile (· == 0)).length

/-- The place and the length of the longest run of zeros, the first of several. -/
def longestZeros (groups : List Nat) : Nat × Nat :=
  (List.range groups.length).foldl
    (fun best i =>
      let n := zerosAhead (groups.drop i)
      if best.2 < n then (i, n) else best)
    (0, 0)

/-- The text of an address of version 6. -/
def ipv6Text (groups : List Nat) : List Char :=
  let (place, length) := longestZeros groups
  if length < 2 then join ':' (groups.map groupText)
  else
    join ':' ((groups.take place).map groupText) ++ ':' :: ':' ::
      join ':' ((groups.drop (place + length)).map groupText)

/-! ## Addresses of version 4 -/

/-- A number in decimal, in octal after a zero, or in hexadecimal after `0x`. -/
def readIpv4Part (cs : List Char) : Option Nat :=
  match cs with
  | [] => none
  | '0' :: 'x' :: rest | '0' :: 'X' :: rest => hexNumber? rest
  | ['0'] => some 0
  | '0' :: rest =>
    if rest.all (fun c => '0' ≤ c ∧ c ≤ '7') then
      some (rest.foldl (fun n c => 8 * n + (c.toNat - 0x30)) 0)
    else none
  | _ =>
    if cs.all Char.isDigit then some (ofDigits (cs.filterMap asciiDigitValue?)) else none

/-- The parts between the dots; one dot at the end counts for nothing. -/
def ipv4Parts (cs : List Char) : List (List Char) :=
  let parts := split '.' cs
  if 1 < parts.length && parts.getLast? == some [] then parts.dropLast else parts

/-- Whether a name ends like an address of version 4. -/
def endsInNumber (cs : List Char) : Bool :=
  match (ipv4Parts cs).getLast? with
  | some last => (!last.isEmpty && last.all Char.isDigit) || (readIpv4Part last).isSome
  | none => false

/-- The address of one to four numbers, of which the last fills what is left. -/
def readIpv4 (cs : List Char) : Option Nat :=
  match (ipv4Parts cs).mapM readIpv4Part with
  | none => none
  | some numbers =>
    let front := numbers.dropLast
    let last := numbers.getLast?.getD 0
    if 4 < numbers.length || front.any (255 < ·) || Nat.pow 256 (5 - numbers.length) ≤ last
    then none
    else
      let shifted := front.zipIdx.map (fun (n, i) => n * Nat.pow 256 (3 - i))
      some (shifted.foldr (· + ·) last)

/-- The text of an address of version 4. -/
def ipv4Text (n : Nat) : List Char :=
  join '.' ([n / 16777216 % 256, n / 65536 % 256, n / 256 % 256, n % 256].map natText)

/-! ## Hosts -/

/-- Reads the host of a URL. -/
def Host.read (cs : List Char) : Option Host :=
  match cs with
  | '[' :: rest =>
    if rest.getLast? == some ']' then (readIpv6 rest.dropLast).map .ipv6 else none
  | _ =>
    match Utf8.decode (percentDecode cs) with
    | .error _ => none
    | .ok decoded =>
      match normalName decoded with
      | none => none
      | some name =>
        if name.isEmpty then none
        else if endsInNumber name then (readIpv4 name).map .ipv4
        else some (.domain name)

/-- The text of a host. -/
def Host.text : Host → List Char
  | .domain name => name
  | .ipv4 address => ipv4Text address
  | .ipv6 groups => '[' :: ipv6Text groups ++ [']']

end Tollgate.Url
