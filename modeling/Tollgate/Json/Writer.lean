import Tollgate.Json.Value
import Tollgate.Text.Hex

set_option autoImplicit false

/-!
# Writing JSON

JSON text in three styles. `spaced` has a blank after every comma and colon and holds ASCII
characters only; `compact` has no blanks, escapes only what must be escaped and refuses numbers
that JSON does not have; `plain` has no blanks, holds ASCII characters only and refuses nothing.

Every value has a text, `textOf`. Whether a writer refuses a value is a question of its own,
`refusal?`: the numbers of a value and its depth are looked at first, in the order of the text, then
its broken texts, which have no place among characters. How deeply values may be nested depends on
what surrounds the writer, so it is told as a number of containers that may be opened.
-/

namespace Tollgate.Json

open Tollgate.Number Tollgate.Text

/-- The choices that a writer makes. -/
structure Style where
  comma : List Char
  colon : List Char
  /-- Whether every character outside printable ASCII is escaped. -/
  isAscii : Bool
  /-- Whether the infinities and NaN are written as words. -/
  writesNonFinite : Bool
  /-- Whether an integer may have any number of digits. -/
  writesOverlong : Bool

/-- A blank after every comma and colon, ASCII only. -/
def Style.spaced : Style := ⟨[',', ' '], [':', ' '], true, true, false⟩

/-- No blanks, every character that may stand for itself does, finite numbers only. -/
def Style.compact : Style := ⟨[','], [':'], false, false, false⟩

/-- No blanks, ASCII only, and nothing is refused. -/
def Style.plain : Style := ⟨[','], [':'], true, true, true⟩

/-! ## The text of a value -/

/-- An escape by code point, of four digits; a character beyond these is a surrogate pair. -/
def pointEscape (n : Nat) : List Char :=
  if n < 0x10000 then '\\' :: 'u' :: hexText 4 n
  else
    let m := n - 0x10000
    '\\' :: 'u' :: hexText 4 (0xd800 + m / 0x400) ++
      '\\' :: 'u' :: hexText 4 (0xdc00 + m % 0x400)

/-- A character as it stands between the quotes. -/
def escapeChar (style : Style) (c : Char) : List Char :=
  if c == '"' || c == '\\' then ['\\', c]
  else if c == '\n' then ['\\', 'n']
  else if c == '\r' then ['\\', 'r']
  else if c == '\t' then ['\\', 't']
  else if c == '\x08' then ['\\', 'b']
  else if c == '\x0c' then ['\\', 'f']
  else if c.toNat < 0x20 || (style.isAscii && 0x7f ≤ c.toNat) then pointEscape c.toNat
  else [c]

/-- A text between quotes. -/
def writeText (style : Style) (s : String) : List Char :=
  '"' :: s.toList.flatMap (escapeChar style) ++ ['"']

/-- A code point as it stands between the quotes. A surrogate has an escape only. -/
def escapePoint (style : Style) (n : Nat) : List Char :=
  if isSurrogate n then pointEscape n else escapeChar style (Char.ofNat n)

/-- A text that may be broken, between quotes. -/
def writeLoose (style : Style) : LooseText → List Char
  | .whole s => writeText style s
  | .broken points => '"' :: points.flatMap (escapePoint style) ++ ['"']

/-- A floating-point number; the infinities and NaN are words. -/
def writeFloat : Binary64 → List Char
  | .infinite false => "Infinity".toList
  | .infinite true => "-Infinity".toList
  | .nan => "NaN".toList
  | x => x.shortText.toList

mutual

/-- The text of a value. -/
def textOf (style : Style) : Value → List Char
  | .null => "null".toList
  | .bool true => "true".toList
  | .bool false => "false".toList
  | .int n => intText n
  | .float x => writeFloat x
  | .text s => writeText style s
  | .broken points => writeLoose style (.broken points)
  | .array items => '[' :: itemsText style items ++ [']']
  | .object members => '{' :: membersText style members ++ ['}']
  | .record _ _ members => '{' :: membersText style members ++ ['}']

/-- The items of an array with commas between them. -/
def itemsText (style : Style) : List Value → List Char
  | [] => []
  | item :: rest =>
    textOf style item ++ (if rest.isEmpty then [] else style.comma ++ itemsText style rest)

/-- The members of an object with commas between them. -/
def membersText (style : Style) : List (LooseText × Value) → List Char
  | [] => []
  | (name, value) :: rest =>
    writeLoose style name ++ style.colon ++ textOf style value ++
      (if rest.isEmpty then [] else style.comma ++ membersText style rest)

end

/-! ## What a style refuses -/

/-- Why a value is refused. -/
inductive WriteFault where
  /-- A number is infinite or NaN. -/
  | nonFinite
  /-- An integer has too many digits. -/
  | overlong
  /-- Values are nested too deeply. -/
  | tooDeep
  /-- Surrogates that belong to no pair: the first of them, how many characters of the text
  stand in front, and how many they are. -/
  | surrogates (first : Nat) (position length : Nat)
deriving Repr, DecidableEq

/-- The wording of a fault. -/
def WriteFault.message : WriteFault → String
  | .nonFinite => "Out of range float values are not JSON compliant"
  | .overlong => overlongMessage
  | .tooDeep => "maximum recursion depth exceeded while encoding a JSON object"
  | .surrogates first position length =>
      let place :=
        if length = 1 then
          "character \x27" ++ String.ofList (pointEscape first) ++ "\x27 in position " ++
            toString position
        else
          "characters in position " ++ toString position ++ "-" ++
            toString (position + length - 1)
      "\x27utf-8\x27 codec can\x27t encode " ++ place ++ ": surrogates not allowed"

/-- A fault about surrogates in a text that stands behind so many other characters. -/
def WriteFault.behind (offset : Nat) : WriteFault → WriteFault
  | .surrogates first position length => .surrogates first (offset + position) length
  | f => f

mutual

/-- The first number of a value that is refused, or the first container that is too deep, where
`depth` containers may be opened one inside the other. -/
def partFault? (style : Style) (depth : Nat) : Value → Option WriteFault
  | .int n => if isOverlong n && !style.writesOverlong then some .overlong else none
  | .float x => if x.isFinite || style.writesNonFinite then none else some .nonFinite
  | .array items =>
    match depth with
    | 0 => some .tooDeep
    | depth + 1 => itemsPartFault? style depth items
  | .object members | .record _ _ members =>
    match depth with
    | 0 => some .tooDeep
    | depth + 1 => membersPartFault? style depth members
  | _ => none

/-- The first such part of some items. -/
def itemsPartFault? (style : Style) (depth : Nat) : List Value → Option WriteFault
  | [] => none
  | item :: rest => (partFault? style depth item).or (itemsPartFault? style depth rest)

/-- The first such part of some members. -/
def membersPartFault? (style : Style) (depth : Nat) :
    List (LooseText × Value) → Option WriteFault
  | [] => none
  | (_, value) :: rest =>
    (partFault? style depth value).or (membersPartFault? style depth rest)

end

/-- A text is neither a number nor a container. -/
@[simp] theorem partFault?_ofLoose (style : Style) (depth : Nat) (t : LooseText) :
    partFault? style depth (.ofLoose t) = none := by
  cases t <;> rfl

/-- The first run of surrogates among code points that are spelled by a function. -/
def runFault? (spell : Nat → List Char) (points : List Nat) : Option WriteFault :=
  let front := points.takeWhile (!isSurrogate ·)
  match points.drop front.length with
  | [] => none
  | first :: rest =>
    some (.surrogates first (front.flatMap spell).length
      ((first :: rest).takeWhile isSurrogate).length)

/-- The first surrogates of a text, placed behind its opening quote. -/
def looseFault? (style : Style) : LooseText → Option WriteFault
  | .whole _ => none
  | .broken points => (runFault? (escapePoint style) points).map (.behind 1)

mutual

/-- The first surrogates of a value, placed in its text. -/
def surrogateFault? (style : Style) : Value → Option WriteFault
  | .broken points => looseFault? style (.broken points)
  | .array items => (itemsSurrogateFault? style items).map (.behind 1)
  | .object members | .record _ _ members =>
    (membersSurrogateFault? style members).map (.behind 1)
  | _ => none

/-- The first surrogates of some items, placed in their text. -/
def itemsSurrogateFault? (style : Style) : List Value → Option WriteFault
  | [] => none
  | item :: rest =>
    match surrogateFault? style item with
    | some f => some f
    | none =>
      (itemsSurrogateFault? style rest).map
        (.behind ((textOf style item).length + style.comma.length))

/-- The first surrogates of some members, placed in their text. -/
def membersSurrogateFault? (style : Style) : List (LooseText × Value) → Option WriteFault
  | [] => none
  | (name, value) :: rest =>
    let front := (writeLoose style name).length + style.colon.length
    match looseFault? style name, surrogateFault? style value with
    | some f, _ => some f
    | none, some f => some (f.behind front)
    | none, none =>
      (membersSurrogateFault? style rest).map
        (.behind (front + (textOf style value).length + style.comma.length))

end

/-- Why a value is refused, if it is, where `depth` containers may be opened one inside the other.
Escapes spell any text. -/
def refusal? (depth : Nat) (style : Style) (value : Value) : Option WriteFault :=
  match partFault? style depth value with
  | some f => some f
  | none => if style.isAscii then none else surrogateFault? style value

/-- The text of a value that is not refused. -/
def write (depth : Nat) (style : Style) (value : Value) : Except WriteFault String :=
  match refusal? depth style value with
  | some f => .error f
  | none => .ok (String.ofList (textOf style value))

/-- A text that is sent as it is, which holds no surrogates. -/
def sent (text : LooseText) : Except WriteFault String :=
  match runFault? (fun n => [Char.ofNat n]) text.points with
  | some f => .error f
  | none => .ok (String.ofList text.chars)

end Tollgate.Json
