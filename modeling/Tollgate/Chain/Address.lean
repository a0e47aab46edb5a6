import Tollgate.Chain.Keccak
import Tollgate.Codec.Utf8
import Tollgate.Text.Case
import Tollgate.Text.Quoted

set_option autoImplicit false

/-!
# Addresses

An address is twenty bytes, written as `0x` and forty hexadecimal digits. The canonical spelling
carries a checksum in the case of its letters: a letter is a capital where the hash of the
lower-case digits has a digit of eight or more.
-/

namespace Tollgate.Chain

open Tollgate.Text Tollgate.Codec

/-- Why a text or a number is no address. -/
inductive AddressFault where
  /-- The text holds something else than hexadecimal digits. -/
  | notHex (text : LooseText)
  /-- The text does not have forty digits. -/
  | wrongLength (text : String)
  /-- The number, which messages show in a way of its own, does not have forty digits. -/
  | wrongSize (shown : String) (n : Int)
  /-- A value of a type that spells no address. -/
  | wrongType (name : String)
  /-- There is no value. -/
  | absent
deriving Repr, DecidableEq

/-- The digits after the prefix `0x` or `0X`, or the whole text if it has no such prefix. -/
def withoutPrefix : List Char → List Char
  | '0' :: 'x' :: rest => rest
  | '0' :: 'X' :: rest => rest
  | cs => cs

/-- The text in lower case behind the prefix. -/
def prefixed (cs : List Char) : String :=
  String.ofList ('0' :: 'x' :: asciiLower (withoutPrefix cs))

/-- The hexadecimal text of a number: a minus sign or none, the prefix and the digits. -/
def hexNumberText (n : Int) : List Char :=
  (if n < 0 then ['-'] else []) ++ '0' :: 'x' :: Nat.toDigits 16 n.natAbs

/-- The wording of a fault. -/
def AddressFault.message : AddressFault → String
  | .notHex text => "when sending a str, it must be a hex string. Got: " ++ quotedLoose text
  | .wrongLength text =>
      "Unknown format " ++ quoted text ++ ", attempted to normalize to " ++
        quoted (prefixed text.toList)
  | .wrongSize shown n =>
      "Unknown format " ++ shown ++ ", attempted to normalize to " ++
        quoted (String.ofList (hexNumberText n))
  | .wrongType name =>
      "Unsupported type: '<class '" ++ name ++
        "'>'. Must be one of: bool, str, bytes, bytearray or int."
  | .absent => "Exactly one of the passed values can be specified. Instead, values were: (None,)"

/-- The forty lower-case digits of an address. -/
def addressDigits (text : String) : Except AddressFault (List Char) :=
  let digits := withoutPrefix text.toList
  if digits.all isHexDigit then
    if digits.length = 40 then .ok (asciiLower digits) else .error (.wrongLength text)
  else .error (.notHex text)

/-- The hexadecimal digits of bytes, as numbers. -/
def nibbles (bytes : List UInt8) : List Nat :=
  bytes.flatMap (fun b => [b.toNat / 16, b.toNat % 16])

/-- The digits with the letters raised whose hash digit is eight or more. -/
def checksumCase (digits : List Char) : List Char :=
  List.zipWith (fun c n => if 8 ≤ n then c.toUpper else c) digits
    (nibbles (Keccak.hash (Utf8.encode digits)))

/-- The canonical spelling of the address that lower-case digits stand for. -/
def spelledAddress (digits : List Char) : String :=
  String.ofList ('0' :: 'x' :: checksumCase digits)

/-- The canonical spelling of an address. -/
def canonicalAddress (text : String) : Except AddressFault String :=
  (addressDigits text).map spelledAddress

/-- The canonical spelling of an address that is given as a number, which must have forty digits.
Messages show the number as the first argument says. -/
def numberedAddress (shown : String) (n : Int) : Except AddressFault String :=
  let digits := Nat.toDigits 16 n.natAbs
  if 0 ≤ n ∧ digits.length = 40 then .ok (spelledAddress digits)
  else .error (.wrongSize shown n)

end Tollgate.Chain
