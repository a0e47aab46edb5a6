import Tollgate.Codec.Utf8
import Tollgate.Text.Hex

set_option autoImplicit false

/-!
# Percent encoding

Bytes in a URL as `%` and two capital hexadecimal digits.
-/

namespace Tollgate.Url

open Tollgate.Text Tollgate.Codec

/-- The escape of a byte. -/
def percentByte (b : UInt8) : List Char :=
  '%' :: (hexText 2 b.toNat).map Char.toUpper

/-- A text with the characters of a class, and all beyond ASCII, escaped. -/
def percentEncode (isEscaped : Char → Bool) (cs : List Char) : List Char :=
  cs.flatMap (fun c =>
    if isEscaped c || 0x7f ≤ c.toNat then (Utf8.encode [c]).flatMap percentByte else [c])

/-- The bytes of a text with its escapes undone. What is no escape stands for itself. -/
def percentDecode : List Char → List UInt8
  | [] => []
  | '%' :: a :: b :: rest =>
    match hexNumber? [a, b] with
    | some n => UInt8.ofNat n :: percentDecode rest
    | none => 0x25 :: percentDecode (a :: b :: rest)
  | c :: rest => Utf8.encode [c] ++ percentDecode rest

/-- Whether a character is escaped in a query. -/
def isEscapedInQuery (c : Char) : Bool :=
  c.toNat < 0x20 || c == ' ' || c == '"' || c == '#' || c == '<' || c == '>' || c == '\x27'

/-- Whether a character is escaped in a fragment. -/
def isEscapedInFragment (c : Char) : Bool :=
  c.toNat < 0x20 || c == ' ' || c == '"' || c == '<' || c == '>' || c.toNat == 0x60

/-- Whether a character is escaped in a path. -/
def isEscapedInPath (c : Char) : Bool :=
  isEscapedInFragment c || c == '#' || c == '?' || c.toNat == 0x7b || c.toNat == 0x7d

/-- Whether a character is escaped in a user name or password. -/
def isEscapedInUserInfo (c : Char) : Bool :=
  isEscapedInPath c || c == '/' || c == ':' || c == ';' || c == '=' || c == '@' || c == '[' ||
    c == '\\' || c == ']' || c == '^' || c == '|'

end Tollgate.Url
