import Tollgate.Text.Blank
import Tollgate.Text.Digit
import Tollgate.Text.Quoted
import Tollgate.Text.Split

set_option autoImplicit false

/-!
# Integers as text

Writing an integer in decimal, and two ways of reading one; both allow white space around the
number and single underscores between digits. `readInteger` takes the digits of any script.
`readPlainInteger` takes ASCII digits only, allows a point followed by zeros, and does not count
the zeros in front of a number. Nothing reads or writes more than 4300 digits.
-/

namespace Tollgate.Number

open Tollgate.Text

/-- The largest number of digits that an integer read from or written to text may have. -/
def digitLimit : Nat := 4300

/-- The decimal text of a natural number. -/
def natText (n : Nat) : List Char :=
  Nat.toDigits 10 n

/-- The decimal text of an integer. -/
def intText (n : Int) : List Char :=
  if n < 0 then '-' :: natText n.natAbs else natText n.natAbs

/-- The number of decimal digits of a natural number; zero has one. -/
def digitCount (n : Nat) : Nat :=
  (natText n).length

/-- Whether an integer has more digits than may be written. -/
def isOverlong (n : Int) : Bool :=
  Nat.pow 10 digitLimit ≤ n.natAbs

/-- What a text says when an integer is too long to be written. -/
def overlongMessage : String :=
  "Exceeds the limit (4300 digits) for integer string conversion; " ++
    "use sys.set_int_max_str_digits() to increase the limit"

/-- Why a text is no integer. -/
inductive IntegerFault where
  /-- The text is not an integer numeral. -/
  | malformed (text : String)
  /-- The numeral has more digits than may be read. -/
  | overlong (digits : Nat)
deriving Repr, DecidableEq

/-- The wording of a fault. A malformed text is shown quoted, up to two hundred characters. -/
def IntegerFault.message : IntegerFault → String
  | .malformed text =>
      "invalid literal for int() with base 10: " ++
        String.ofList ((quoted text).toList.take 200)
  | .overlong digits =>
      "Exceeds the limit (4300 digits) for integer string conversion: value has " ++
        String.ofList (natText digits) ++
        " digits; use sys.set_int_max_str_digits() to increase the limit"

/-- The number that decimal digits spell, the most significant first. -/
def ofDigits (ds : List Nat) : Nat :=
  ds.foldl (fun n d => 10 * n + d) 0

/-- A sign in front of a number, and what follows it. -/
def splitSign : List Char → Bool × List Char
  | '-' :: rest => (true, rest)
  | '+' :: rest => (false, rest)
  | rest => (false, rest)

/-- The integer with the given sign and magnitude. -/
def signed (negative : Bool) (n : Nat) : Int :=
  if negative then -(n : Int) else n

/-- The digits at the front of a text and what follows them. One underscore may stand between
two digits; whether one may stand at the very front is the second argument. -/
def digitRun (digit : Char → Option Nat) : Bool → List Char → List Nat × List Char
  | _, [] => ([], [])
  | joins, c :: rest =>
    match digit c with
    | some d =>
      let (ds, tail) := digitRun digit true rest
      (d :: ds, tail)
    | none =>
      if joins && c == '_' then
        match digitRun digit false rest with
        | ([], _) => ([], c :: rest)
        | run => run
      else ([], c :: rest)

/-- Reads an integer: white space around it, a sign, digits of any script with single
underscores between them. -/
def readInteger (text : String) : Except IntegerFault Int :=
  let (negative, body) := splitSign (trimBy isWhiteSpace text.toList)
  match digitRun digitValue? false body with
  | ([], _) => .error (.malformed text)
  | (_, '_' :: _) => .error (.malformed text)
  | (ds, tail) =>
    if digitLimit < ds.length then .error (.overlong ds.length)
    else if tail.isEmpty then .ok (signed negative (ofDigits ds))
    else .error (.malformed text)

/-- Whether a text can be read as an integer. -/
def isInteger (text : String) : Bool :=
  (readInteger text).isOk

/-- Why a text is no plain integer. -/
inductive PlainIntegerFault where
  /-- The text is not a plain integer numeral. -/
  | malformed
  /-- The numeral has more digits than may be read. -/
  | overlong
deriving Repr, DecidableEq

/-- A minus sign in front of a number, and what follows it. -/
def splitMinus : List Char → Bool × List Char
  | '-' :: rest => (true, rest)
  | rest => (false, rest)

/-- Whether a text begins like a canonical numeral that is too long: a minus sign or none, a
first digit other than zero, and more digits, sign and digits together being more than may be
read. What follows them does not matter. -/
def startsOverlong (cs : List Char) : Bool :=
  let digits := (splitMinus cs).2.takeWhile Char.isDigit
  digits.head? != some '0' &&
    digitLimit < digits.length + (if (splitMinus cs).1 then 1 else 0)

/-- Reads a canonical numeral: a minus sign or none, and ASCII digits that do not begin with a
zero unless it is the only one. -/
def readCanonical (cs : List Char) : Option Int :=
  let (negative, digits) := splitMinus cs
  if digits.isEmpty || !digits.all Char.isDigit || startsOverlong cs then none
  else if digits.head? == some '0' && digits.length != 1 then none
  else some (signed negative (ofDigits (digits.filterMap asciiDigitValue?)))

/-- What is left of a numeral without sign when the zeros in front are dropped, with underscores
among them. One zero is kept in front of a point; of a numeral of nothing else the last character
is kept. There is no such numeral where the first character is no digit, or where the zeros lead
to something else. -/
def dropLeadingZeros (cs : List Char) : Option (List Char) :=
  match cs with
  | '0' :: rest =>
    let isFiller (c : Char) : Bool := c == '0' || c == '_'
    match rest.dropWhile isFiller with
    | [] => some ((cs.getLast?.map ([·])).getD [])
    | '.' :: fraction =>
      some ((('0' :: rest.takeWhile isFiller).getLast?.map (· :: '.' :: fraction)).getD [])
    | c :: tail => if c.isDigit then some (c :: tail) else none
  | c :: _ => if c.isDigit then some cs else none
  | [] => none

/-- A numeral without a point that only zeros follow, and at least one. -/
def dropZeroFraction (cs : List Char) : List Char :=
  match cs.dropWhile (· != '.') with
  | '.' :: zeros =>
    if !zeros.isEmpty && zeros.all (· == '0') then cs.takeWhile (· != '.') else cs
  | _ => cs

/-- A numeral without its underscores, if each of them stands alone between two other
characters. -/
def dropUnderscores (cs : List Char) : List Char :=
  let parts := split '_' cs
  if parts.any (·.isEmpty) then cs else parts.flatten

/-- The canonical numeral that a generous one stands for: without white space around it, without
a plus sign, without zeros in front, without a point that zeros follow, and without
underscores. -/
def canonicalNumeral (cs : List Char) : Option (List Char) :=
  let (negative, body) :=
    match trimBy isWhiteSpace cs with
    | '+' :: rest => (false, rest)
    | rest => splitMinus rest
  (dropLeadingZeros body).map (fun digits =>
    let digits := dropUnderscores (dropZeroFraction digits)
    if negative then '-' :: digits else digits)

/-- Reads an integer in ASCII digits. A text that begins like a canonical numeral is refused for
its length before anything else is looked at. -/
def readPlainInteger (text : String) : Except PlainIntegerFault Int :=
  let cs := text.toList
  if startsOverlong cs then .error .overlong
  else
    match (canonicalNumeral cs).bind readCanonical with
    | some n => .ok n
    | none => .error .malformed

end Tollgate.Number
