import Tollgate.Text.Hex
import Tollgate.Text.Loose
import Tollgate.Text.Printable

set_option autoImplicit false

/-!
# Quoted text

How messages show a text. It stands between single quotes, or between double quotes when it
holds a single quote and no double one. The backslash and the chosen quote are escaped, line
ends and tabs have short escapes, and every other unprintable character is written by its code
point in two, four or eight hexadecimal digits.
-/

namespace Tollgate.Text

/-- The quote that surrounds a text. -/
def quoteMark (cs : List Char) : Char :=
  if cs.contains '\x27' && !cs.contains '"' then '"' else '\x27'

/-- A character as it stands between two quotes. -/
def escapeIn (mark c : Char) : List Char :=
  if c == mark || c == '\\' then ['\\', c]
  else if c == '\n' then ['\\', 'n']
  else if c == '\r' then ['\\', 'r']
  else if c == '\t' then ['\\', 't']
  else if isPrintable c then [c]
  else if c.toNat < 0x100 then '\\' :: 'x' :: hexText 2 c.toNat
  else if c.toNat < 0x10000 then '\\' :: 'u' :: hexText 4 c.toNat
  else '\\' :: 'U' :: hexText 8 c.toNat

/-- A code point as it stands between two quotes; a surrogate has an escape only. -/
def escapePointIn (mark : Char) (n : Nat) : List Char :=
  if isSurrogate n then '\\' :: 'u' :: hexText 4 n else escapeIn mark (Char.ofNat n)

/-- Code points between quotes, with their escapes. -/
def quotedPoints (points : List Nat) : String :=
  let mark := quoteMark (points.map Char.ofNat)
  String.ofList (mark :: points.flatMap (escapePointIn mark) ++ [mark])

/-- A text between quotes, with its escapes. -/
def quoted (s : String) : String :=
  let cs := s.toList
  let mark := quoteMark cs
  String.ofList (mark :: cs.flatMap (escapeIn mark) ++ [mark])

/-- A text that may be broken, between quotes. -/
def quotedLoose : LooseText → String
  | .whole s => quoted s
  | .broken points => quotedPoints points

end Tollgate.Text
