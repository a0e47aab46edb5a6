import Tollgate.Codec.Utf8
import Tollgate.Codec.Wide
import Tollgate.Json.Reader

set_option autoImplicit false

/-!
# JSON that comes as bytes

JSON text may be sent in UTF-8, UTF-16 or UTF-32. Its first character belongs to ASCII, so that
the zeros among the first bytes tell how it is written. A byte order mark of UTF-8 counts for
nothing.
-/

namespace Tollgate.Json

open Tollgate.Text Tollgate.Codec

/-- The format of units of several bytes in which bytes seem to be written, if not in UTF-8. -/
def wideFormat? : List UInt8 → Option Wide.Format
  | [a, b] =>
    if a = 0 then some ⟨.two, .big⟩
    else if b = 0 then some ⟨.two, .little⟩
    else none
  | a :: b :: c :: d :: _ =>
    if a = 0 then some ⟨if b = 0 then .four else .two, .big⟩
    else if b = 0 then some ⟨if c = 0 && d = 0 then .four else .two, .little⟩
    else none
  | _ => none

/-- The code points of JSON that came as the UTF-8 bytes of a text. -/
def decodeBody (body : String) : Except Wide.Fault (List Nat) :=
  let cs := body.toList
  match wideFormat? (Utf8.encode cs) with
  | some format => Wide.decode format (Utf8.encode cs)
  | none => .ok ((if cs.head? == some '\ufeff' then cs.drop 1 else cs).map Char.toNat)

/-- The characters of code points, with the replacement character for each surrogate. -/
def replaceSurrogates (points : List Nat) : List Char :=
  points.map (fun n => if isSurrogate n then '\ufffd' else Char.ofNat n)

/-- The characters of code points, with the escape that spells it for each surrogate. -/
def spellSurrogates (points : List Nat) : List Char :=
  points.flatMap (fun n =>
    if isSurrogate n then '\\' :: 'u' :: hexText 4 n else [Char.ofNat n])

/-- Reads JSON of which code points may be surrogates. Only a text of it may hold one: wherever
another character would be a mistake, so is the replacement character in the place of a surrogate.
If there is no mistake, the surrogates are read from the escapes that spell them. -/
def readCodePoints (limits : Limits) (points : List Nat) : Except ReadError Value := do
  let value ← readDecoded limits (replaceSurrogates points)
  if points.any isSurrogate then readDecoded limits (spellSurrogates points) else return value

end Tollgate.Json
