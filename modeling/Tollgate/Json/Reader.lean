import Tollgate.Json.Value
import Tollgate.Text.Hex

set_option autoImplicit false

/-!
# Reading JSON

A reader for JSON text that says where and why a text is malformed. Besides the standard it
takes the words `NaN`, `Infinity` and `-Infinity`; of members with one name the last value
counts. Nesting and the length of integers are limited. The reader works on the rest of the
text, and a problem is placed by how much of the text is left there.
-/

namespace Tollgate.Json

open Tollgate.Number Tollgate.Text

/-- What is wrong at a place of the text. -/
inductive Problem where
  | expectingValue
  | expectingName
  | expectingColon
  | expectingComma
  | unterminatedText
  | controlCharacter
  | badEscape
  | badCodePoint
  | extraData
  | byteOrderMark
deriving Repr, DecidableEq

/-- The wording of a problem. -/
def Problem.message : Problem → String
  | .expectingValue => "Expecting value"
  | .expectingName => "Expecting property name enclosed in double quotes"
  | .expectingColon => "Expecting ':' delimiter"
  | .expectingComma => "Expecting ',' delimiter"
  | .unterminatedText => "Unterminated string starting at"
  | .controlCharacter => "Invalid control character at"
  | .badEscape => "Invalid \\escape"
  | .badCodePoint => "Invalid \\uXXXX escape"
  | .extraData => "Extra data"
  | .byteOrderMark => "Unexpected UTF-8 BOM (decode using utf-8-sig)"

/-- The two kinds of value that hold others. -/
inductive Container where
  | array
  | object
deriving Repr, DecidableEq

/-- A place in a text: how many characters stand in front of it, and its line and column, both
counted from one. -/
structure Position where
  offset : Nat
  line : Nat
  column : Nat
deriving Repr, DecidableEq

/-- The place in a text in front of which `offset` characters stand. -/
def Position.ofOffset (cs : List Char) (offset : Nat) : Position where
  offset := offset
  line := (cs.take offset).count '\n' + 1
  column := ((cs.take offset).reverse.takeWhile (· != '\n')).length + 1

/-- Why a text is not read. -/
inductive ReadError where
  /-- The text is not JSON. -/
  | malformed (problem : Problem) (position : Position)
  /-- Values are nested too deeply. -/
  | tooDeep (container : Container)
  /-- An integer has too many digits. -/
  | overlong (digits : Nat)
deriving Repr, DecidableEq

/-- The wording of a reading error. -/
def ReadError.message : ReadError → String
  | .malformed problem position =>
      problem.message ++ ": line " ++ toString position.line ++ " column " ++
        toString position.column ++ " (char " ++ toString position.offset ++ ")"
  | .tooDeep .array =>
      "maximum recursion depth exceeded while decoding a JSON array from a unicode string"
  | .tooDeep .object =>
      "maximum recursion depth exceeded while decoding a JSON object from a unicode string"
  | .overlong digits => (IntegerFault.overlong digits).message

/-- A reading error inside the text: a problem is placed by the number of characters left. -/
inductive Stop where
  | problem (problem : Problem) (left : Nat)
  | tooDeep (container : Container)
  | overlong (digits : Nat)
deriving Repr, DecidableEq

/-- A problem in front of the given rest of the text. -/
def Stop.before (problem : Problem) (rest : List Char) : Stop :=
  .problem problem rest.length

/-- The stop as an error of the whole text. -/
def Stop.toError (cs : List Char) : Stop → ReadError
  | .problem p left => .malformed p (Position.ofOffset cs (cs.length - left))
  | .tooDeep c => .tooDeep c
  | .overlong n => .overlong n

/-- How deeply values may be nested, and how many digits an integer may have. -/
structure Limits where
  depth : Nat
  digits : Nat

/-- The white space of JSON. -/
def isSpace (c : Char) : Bool :=
  c == ' ' || c == '\t' || c == '\n' || c == '\r'

/-- The text without the white space in front. -/
def skipSpace (cs : List Char) : List Char :=
  cs.dropWhile isSpace

/-- The character that a one-letter escape stands for. -/
def shortEscape? : Char → Option Char
  | '"' => some '"'
  | '\\' => some '\\'
  | '/' => some '/'
  | 'b' => some '\x08'
  | 'f' => some '\x0c'
  | 'n' => some '\n'
  | 'r' => some '\r'
  | 't' => some '\t'
  | _ => none

/-- Reads a text after its opening quote, up to and with the closing one. The code points read so
far are kept in reverse, surrogates apart; `left` places the opening quote. An escape by code
point needs its four digits and something after them. -/
def readPoints (left : Nat) (points : List Nat) :
    List Char → Except Stop (List Nat × List Char)
  | [] => .error (.problem .unterminatedText left)
  | '"' :: rest => .ok (points.reverse, rest)
  | '\\' :: rest =>
    match rest with
    | [] => .error (.problem .unterminatedText left)
    | 'u' :: after =>
      match after with
      | a :: b :: c :: d :: rest' =>
        match hexNumber? [a, b, c, d], rest' with
        | some n, _ :: _ => readPoints left (n :: points) rest'
        | _, _ => .error (.before .badCodePoint rest)
      | _ => .error (.before .badCodePoint rest)
    | c :: after =>
      match shortEscape? c with
      | some e => readPoints left (e.toNat :: points) after
      | none => .error (.before .badEscape ('\\' :: rest))
  | c :: rest =>
    if c.toNat < 0x20 then .error (.before .controlCharacter (c :: rest))
    else readPoints left (c.toNat :: points) rest

/-- The ASCII digits at the front of a text and what follows them. -/
def digitsAhead (cs : List Char) : List Char × List Char :=
  (cs.takeWhile Char.isDigit, cs.dropWhile Char.isDigit)

/-- The digits after a point at the front of a text, if there are any, and what follows. -/
def fractionAhead (cs : List Char) : List Char × List Char :=
  match cs with
  | '.' :: rest =>
    match digitsAhead rest with
    | ([], _) => ([], cs)
    | found => found
  | _ => ([], cs)

/-- The exponent at the front of a text, if there is one, and what follows. -/
def exponentAhead (cs : List Char) : Option Int × List Char :=
  match cs with
  | c :: rest =>
    if c == 'e' || c == 'E' then
      let (negative, body) := splitSign rest
      match digitsAhead body with
      | ([], _) => (none, cs)
      | (ds, after) => (some (signed negative (ofDigits (ds.filterMap asciiDigitValue?))), after)
    else (none, cs)
  | [] => (none, cs)

/-- Reads a number. A zero in front is a number of its own. -/
def readNumber (limits : Limits) (cs : List Char) : Except Stop (Value × List Char) :=
  let (negative, body) :=
    match cs with
    | '-' :: rest => (true, rest)
    | _ => (false, cs)
  let (whole, afterWhole) :=
    match body with
    | '0' :: rest => (['0'], rest)
    | _ => digitsAhead body
  let (fraction, afterFraction) := fractionAhead afterWhole
  let (exponent, rest) := exponentAhead afterFraction
  let digits := (whole ++ fraction).filterMap asciiDigitValue?
  if whole.isEmpty then .error (.before .expectingValue cs)
  else if fraction.isEmpty && exponent.isNone then
    if limits.digits < digits.length then .error (.overlong digits.length)
    else .ok (.int (signed negative (ofDigits digits)), rest)
  else
    let e := exponent.getD 0 - fraction.length
    .ok (.float (Binary64.ofDecimal negative (ofDigits digits) e), rest)

/-- Adds a member under the name that code points spell, surrogates apart. -/
def putPoints (members : Members) (name : List Nat) (value : Value) : Members :=
  members.put (.ofPoints (joinPairs name)) value

mutual

/-- Reads a value. The second number is how many containers may still be opened. -/
def readValue (limits : Limits) : (fuel depth : Nat) → List Char →
    Except Stop (Value × List Char)
  | 0, _, cs => .error (.before .expectingValue cs)
  | fuel + 1, depth, cs =>
    match cs with
    | '"' :: rest => do
      let (points, rest) ← readPoints cs.length [] rest
      return (.ofLoose (.ofPoints (joinPairs points)), rest)
    | '{' :: rest =>
      match depth with
      | 0 => .error (.tooDeep .object)
      | depth + 1 =>
        match skipSpace rest with
        | '}' :: rest => .ok (.object [], rest)
        | rest => readMembers limits fuel depth [] rest
    | '[' :: rest =>
      match depth with
      | 0 => .error (.tooDeep .array)
      | depth + 1 =>
        match skipSpace rest with
        | ']' :: rest => .ok (.array [], rest)
        | rest => readItems limits fuel depth [] rest
    | 'n' :: 'u' :: 'l' :: 'l' :: rest => .ok (.null, rest)
    | 't' :: 'r' :: 'u' :: 'e' :: rest => .ok (.bool true, rest)
    | 'f' :: 'a' :: 'l' :: 's' :: 'e' :: rest => .ok (.bool false, rest)
    | 'N' :: 'a' :: 'N' :: rest => .ok (.float .nan, rest)
    | 'I' :: 'n' :: 'f' :: 'i' :: 'n' :: 'i' :: 't' :: 'y' :: rest =>
      .ok (.float (.infinite false), rest)
    | '-' :: 'I' :: 'n' :: 'f' :: 'i' :: 'n' :: 'i' :: 't' :: 'y' :: rest =>
      .ok (.float (.infinite true), rest)
    | _ => readNumber limits cs

/-- Reads the members of an object that is not empty, up to and with the closing brace. -/
def readMembers (limits : Limits) : (fuel depth : Nat) → Members → List Char →
    Except Stop (Value × List Char)
  | 0, _, _, cs => .error (.before .expectingValue cs)
  | fuel + 1, depth, members, cs =>
    match cs with
    | '"' :: rest => do
      let (name, rest) ← readPoints cs.length [] rest
      match skipSpace rest with
      | ':' :: rest => do
        let (value, rest) ← readValue limits fuel depth (skipSpace rest)
        let members := putPoints members name value
        match skipSpace rest with
        | '}' :: rest => .ok (.object members, rest)
        | ',' :: rest => readMembers limits fuel depth members (skipSpace rest)
        | rest => .error (.before .expectingComma rest)
      | rest => .error (.before .expectingColon rest)
    | _ => .error (.before .expectingName cs)

/-- Reads the items of an array that is not empty, up to and with the closing bracket. The items
read so far are kept in reverse. -/
def readItems (limits : Limits) : (fuel depth : Nat) → List Value → List Char →
    Except Stop (Value × List Char)
  | 0, _, _, cs => .error (.before .expectingValue cs)
  | fuel + 1, depth, items, cs => do
    let (value, rest) ← readValue limits fuel depth cs
    match skipSpace rest with
    | ']' :: rest => .ok (.array (value :: items).reverse, rest)
    | ',' :: rest => readItems limits fuel depth (value :: items) (skipSpace rest)
    | rest => .error (.before .expectingComma rest)

end

/-- Reads a text that is one value with white space around it. -/
def readWhole (limits : Limits) (cs : List Char) : Except Stop Value := do
  let (value, rest) ← readValue limits (2 * cs.length + 2) limits.depth (skipSpace cs)
  match skipSpace rest with
  | [] => return value
  | rest => .error (.before .extraData rest)

/-- Reads the characters of JSON text. -/
def readDecoded (limits : Limits) (cs : List Char) : Except ReadError Value :=
  (readWhole limits cs).mapError (Stop.toError cs)

/-- Reads JSON text. A byte order mark in front is refused. -/
def read (limits : Limits) (text : String) : Except ReadError Value :=
  let cs := text.toList
  if cs.head? = some '\ufeff' then .error (.malformed .byteOrderMark (Position.ofOffset cs 0))
  else readDecoded limits cs

end Tollgate.Json
