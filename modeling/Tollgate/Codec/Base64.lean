import Tollgate.Number.Integer

set_option autoImplicit false

/-!
# Base 64

Bytes as text over an alphabet of 64 characters. Encoding pads the text with `=` to a multiple of
four characters. Decoding is lenient: it skips what is neither in the alphabet nor padding, and
it stops where padding completes a group of four.
-/

namespace Tollgate.Codec.Base64

open Tollgate.Number

/-- The character of a number below 64. -/
def sextetChar (n : Nat) : Char :=
  if n < 26 then Char.ofNat (0x41 + n)
  else if n < 52 then Char.ofNat (0x61 + (n - 26))
  else if n < 62 then Char.ofNat (0x30 + (n - 52))
  else if n = 62 then '+'
  else '/'

/-- The number of a character of the alphabet. -/
def sextet? (c : Char) : Option Nat :=
  if 'A' ≤ c ∧ c ≤ 'Z' then some (c.toNat - 0x41)
  else if 'a' ≤ c ∧ c ≤ 'z' then some (c.toNat - 0x61 + 26)
  else if '0' ≤ c ∧ c ≤ '9' then some (c.toNat - 0x30 + 52)
  else if c = '+' then some 62
  else if c = '/' then some 63
  else none

/-- The character that fills up the last group of four. -/
def pad : Char := '='

/-- The text of bytes. -/
def encode : List UInt8 → List Char
  | [] => []
  | [a] =>
    [sextetChar (a.toNat / 4), sextetChar (a.toNat % 4 * 16), pad, pad]
  | [a, b] =>
    [sextetChar (a.toNat / 4), sextetChar (a.toNat % 4 * 16 + b.toNat / 16),
      sextetChar (b.toNat % 16 * 4), pad]
  | a :: b :: c :: rest =>
    sextetChar (a.toNat / 4) :: sextetChar (a.toNat % 4 * 16 + b.toNat / 16) ::
      sextetChar (b.toNat % 16 * 4 + c.toNat / 64) :: sextetChar (c.toNat % 64) :: encode rest

/-- Why a text has no bytes. -/
inductive Fault where
  /-- The text holds a character beyond ASCII. -/
  | notAscii
  /-- One character is left over after the last group of four. -/
  | oneLeftOver (count : Nat)
  /-- The last group of four is not filled up. -/
  | incorrectPadding
deriving Repr, DecidableEq

/-- The wording of a fault. -/
def Fault.message : Fault → String
  | .notAscii => "string argument should contain only ASCII characters"
  | .oneLeftOver count =>
      "Invalid base64-encoded string: number of data characters (" ++
        String.ofList (natText count) ++ ") cannot be 1 more than a multiple of 4"
  | .incorrectPadding => "Incorrect padding"

/-- The numbers of the characters of the alphabet, up to the padding that completes a group, and
whether there is such padding. `seen` numbers and `pads` paddings since the last of them stand in
front; padding counts from the third place of a group. -/
def sextets (seen pads : Nat) : List Char → List Nat × Bool
  | [] => ([], false)
  | c :: rest =>
    if c = pad then
      if seen % 4 < 2 then sextets seen pads rest
      else if 4 ≤ seen % 4 + (pads + 1) then ([], true)
      else sextets seen (pads + 1) rest
    else
      match sextet? c with
      | some n =>
        let (ns, isPadded) := sextets (seen + 1) 0 rest
        (n :: ns, isPadded)
      | none => sextets seen pads rest

/-- The bytes of numbers below 64, four numbers to three bytes. -/
def joinSextets : List Nat → List UInt8
  | a :: b :: c :: d :: rest =>
    UInt8.ofNat (a * 4 + b / 16) :: UInt8.ofNat (b % 16 * 16 + c / 4) ::
      UInt8.ofNat (c % 4 * 64 + d) :: joinSextets rest
  | [a, b, c] => [UInt8.ofNat (a * 4 + b / 16), UInt8.ofNat (b % 16 * 16 + c / 4)]
  | [a, b] => [UInt8.ofNat (a * 4 + b / 16)]
  | _ => []

/-- The bytes of a text. -/
def decode (cs : List Char) : Except Fault (List UInt8) :=
  if cs.any (fun c => 0x80 ≤ c.toNat) then .error .notAscii
  else
    let (ns, isPadded) := sextets 0 0 cs
    if isPadded || ns.length % 4 == 0 then .ok (joinSextets ns)
    else if ns.length % 4 == 1 then .error (.oneLeftOver ns.length)
    else .error .incorrectPadding

end Tollgate.Codec.Base64
