import Tollgate.Number.Integer

set_option autoImplicit false

/-!
# ASCII

Text as bytes, one for each character. A text with characters beyond ASCII is refused; the fault
tells where the first run of them stands.
-/

namespace Tollgate.Codec.Ascii

open Tollgate.Number Tollgate.Text

/-- The first run of characters beyond ASCII: its first character, its position and its length. -/
structure Fault where
  first : Char
  position : Nat
  length : Nat
deriving Repr, DecidableEq

/-- Whether a character is of ASCII. -/
def isAscii (c : Char) : Bool :=
  c.toNat < 0x80

/-- The escape that shows a character beyond ASCII. -/
def shownEscape (c : Char) : List Char :=
  if c.toNat < 0x100 then '\\' :: 'x' :: hexText 2 c.toNat
  else if c.toNat < 0x10000 then '\\' :: 'u' :: hexText 4 c.toNat
  else '\\' :: 'U' :: hexText 8 c.toNat

/-- The wording of a fault. -/
def Fault.message (f : Fault) : String :=
  let place (n : Nat) : String := String.ofList (natText n)
  let what :=
    if f.length = 1 then
      "character \x27" ++ String.ofList (shownEscape f.first) ++ "\x27 in position " ++
        place f.position
    else
      "characters in position " ++ place f.position ++ "-" ++
        place (f.position + f.length - 1)
  "\x27ascii\x27 codec can\x27t encode " ++ what ++ ": ordinal not in range(128)"

/-- The first run of characters beyond ASCII, if there is one. -/
def fault? (cs : List Char) : Option Fault :=
  match cs.dropWhile isAscii with
  | [] => none
  | c :: rest =>
    some ⟨c, (cs.takeWhile isAscii).length, ((c :: rest).takeWhile (!isAscii ·)).length⟩

/-- The bytes of a text. -/
def encode (cs : List Char) : Except Fault (List UInt8) :=
  match fault? cs with
  | some f => .error f
  | none => .ok (cs.map (fun c => UInt8.ofNat c.toNat))

end Tollgate.Codec.Ascii
