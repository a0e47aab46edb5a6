import Tollgate.Number.Integer
import Tollgate.Number.Rounding
import Tollgate.Text.Case

set_option autoImplicit false

/-!
# Decimal numbers

Numbers `± c · 10^e` with an exact coefficient, the infinities and the two kinds of NaN. A
decimal is read from text exactly. A product is rounded to 28 significant digits, half to even,
and must stay below the exponent bound.
-/

namespace Tollgate.Number

open Tollgate.Text

/-- A decimal number. -/
inductive Decimal where
  /-- The number `± coefficient · 10 ^ exponent`. -/
  | finite (negative : Bool) (coefficient : Nat) (exponent : Int)
  | infinite (negative : Bool)
  /-- No number; the signalling kind refuses all arithmetic. -/
  | nan (signalling : Bool)
deriving Repr, DecidableEq

namespace Decimal

/-- The exponent of the leading digit of `c · 10 ^ e`. -/
def leadingExponent (c : Nat) (e : Int) : Int :=
  e + digitCount c - 1

/-- The largest exponent that the leading digit of a number read from text may have. -/
def maxReadExponent : Int := 999999999999999999

/-- The smallest exponent that the last digit of a number read from text may have. -/
def minReadExponent : Int := -1999999999999999997

/-- Digits at the front of a text and what follows them. -/
def digitsOf (cs : List Char) : List Nat × List Char :=
  (cs.takeWhile (fun c => (digitValue? c).isSome) |>.filterMap digitValue?,
    cs.dropWhile (fun c => (digitValue? c).isSome))

/-- The exponent part of a numeral: nothing, or the letter e with a signed number. -/
def readExponent : List Char → Option Int
  | [] => some 0
  | c :: rest =>
    if c == 'e' || c == 'E' then
      let (negative, body) := splitSign rest
      match digitsOf body with
      | ([], _) => none
      | (ds, []) => some (signed negative (ofDigits ds))
      | _ => none
    else none

/-- A numeral without its sign: digits with at most one point among them, and an exponent.
The result is the coefficient and the exponent of its last digit. -/
def readNumeral (cs : List Char) : Option (Nat × Int) :=
  let (whole, afterWhole) := digitsOf cs
  let (fraction, afterFraction) :=
    match afterWhole with
    | '.' :: rest => digitsOf rest
    | rest => ([], rest)
  match whole ++ fraction, readExponent afterFraction with
  | [], _ => none
  | _, none => none
  | ds, some e => some (ofDigits ds, e - fraction.length)

/-- Whether a coefficient and an exponent are within the bounds for numbers read from text. -/
def isReadable (c : Nat) (e : Int) : Bool :=
  minReadExponent ≤ e && leadingExponent c e ≤ maxReadExponent

/-- The words for numbers that are not finite, in lower case. -/
def readWord (negative : Bool) (cs : List Char) : Option Decimal :=
  let word := asciiLower (cs.takeWhile (fun c => c.isAlpha))
  let rest := cs.dropWhile (fun c => c.isAlpha)
  let isPayload := rest.all (fun c => (digitValue? c).isSome)
  if word = "inf".toList ∨ word = "infinity".toList then
    if rest.isEmpty then some (.infinite negative) else none
  else if word = "nan".toList then
    if isPayload then some (.nan false) else none
  else if word = "snan".toList then
    if isPayload then some (.nan true) else none
  else none

/-- Reads a decimal: blanks around it are dropped and underscores are skipped; the digits may
be of any script. -/
def ofText? (text : String) : Option Decimal :=
  let (negative, body) := splitSign ((trimBy isBlank text.toList).filter (· != '_'))
  match readNumeral body with
  | some (c, e) => if isReadable c e then some (.finite negative c e) else none
  | none => readWord negative body

/-- The number of significant digits that a product keeps. -/
def precision : Nat := 28

/-- The largest exponent that the leading digit of a product may have. -/
def maxExponent : Int := 999999

/-- How many digits of a coefficient are too many. -/
def excessDigits (c : Nat) : Nat :=
  digitCount c - precision

/-- A coefficient rounded to the significant digits that are kept, and its exponent. -/
def roundCoefficient (c : Nat) (e : Int) : Nat × Int :=
  let k := excessDigits c
  (roundDiv c (Nat.pow 10 k), e + k)

/-- Why a product has no value. -/
inductive Fault where
  /-- An operand is a signalling NaN. -/
  | signalling
  /-- The leading digit lies beyond the exponent bound. -/
  | overflow
deriving Repr, DecidableEq

/-- The product with a power of ten, as a coefficient with `places` more zeros, rounded. -/
def timesPowerOfTen (d : Decimal) (places : Nat) : Except Fault Decimal :=
  match d with
  | .nan true => .error .signalling
  | .nan false => .ok (.nan false)
  | .infinite negative => .ok (.infinite negative)
  | .finite negative c e =>
    let (c', e') := roundCoefficient (c * Nat.pow 10 places) e
    if c' ≠ 0 ∧ maxExponent < leadingExponent c' e' then .error .overflow
    else .ok (.finite negative c' e')

/-- The whole part of `c · 10 ^ e`. -/
def wholePart (c : Nat) (e : Int) : Nat :=
  match e with
  | .ofNat k => if c = 0 then 0 else c * Nat.pow 10 k
  | .negSucc k => if digitCount c ≤ k + 1 then 0 else c / Nat.pow 10 (k + 1)

end Decimal

end Tollgate.Number
