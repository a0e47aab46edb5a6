import Tollgate.Number.Decimal

set_option autoImplicit false

/-!
# Binary floating point

The numbers `± m · 2^q` with a mantissa of at most 53 bits, with both zeros, the infinities and
NaN. Decimals and quotients are rounded to the nearest such number, half to even; a magnitude
beyond the largest is infinite.
-/

namespace Tollgate.Number

open Tollgate.Text

/-- The mantissa has at most 53 bits, the exponent is in range, and the mantissa is as long as
the exponent allows. -/
def IsCanonical (m : Nat) (q : Int) : Prop :=
  m < Nat.pow 2 53 ∧ -1074 ≤ q ∧ q ≤ 971 ∧ (Nat.pow 2 52 ≤ m ∨ q = -1074)

instance (m : Nat) (q : Int) : Decidable (IsCanonical m q) :=
  inferInstanceAs (Decidable (_ ∧ _))

/-- A binary floating-point number of double precision. -/
inductive Binary64 where
  /-- The number `± mantissa · 2 ^ exponent`. -/
  | finite (negative : Bool) (mantissa : Nat) (exponent : Int)
      (canonical : IsCanonical mantissa exponent)
  | infinite (negative : Bool)
  | nan
deriving Repr, DecidableEq

namespace Binary64

/-- The zero of the given sign. -/
def zero (negative : Bool) : Binary64 :=
  .finite negative 0 (-1074) (by decide)

/-- The number `± m · 2 ^ q`; a magnitude out of range is infinite. -/
def ofParts (negative : Bool) (m : Nat) (q : Int) : Binary64 :=
  if h : IsCanonical m q then .finite negative m q h else .infinite negative

/-- The exponent of the leading bit of a positive quotient: the largest `l` with
`2 ^ l ≤ num / den`. -/
def leadingBit (num den : Nat) : Int :=
  if den ≤ num then ((num / den).log2 : Int)
  else -((((den + num - 1) / num - 1).log2 : Int) + 1)

/-- The exponent of the last bit that a number near a quotient can hold. -/
def lastBit (num den : Nat) : Int :=
  max (leadingBit num den - 52) (-1074)

/-- A power of a base as a quotient of two natural numbers. -/
def powerQuotient (base : Nat) : Int → Nat × Nat
  | .ofNat k => (Nat.pow base k, 1)
  | .negSucc k => (1, Nat.pow base (k + 1))

/-- The quotient `num / den` in units of `2 ^ q`, rounded. -/
def scaled (num den : Nat) (q : Int) : Nat :=
  let (unitNum, unitDen) := powerQuotient 2 q
  roundDiv (num * unitDen) (den * unitNum)

/-- The number nearest to `± num / den`. -/
def ofQuotient (negative : Bool) (num den : Nat) : Binary64 :=
  if num = 0 then zero negative
  else
    let q := lastBit num den
    let m := scaled num den q
    if m = Nat.pow 2 53 then ofParts negative (Nat.pow 2 52) (q + 1) else ofParts negative m q

/-- The number nearest to `± c · 10 ^ e`. Far out of range the result is known without
computing the power. -/
def ofDecimal (negative : Bool) (c : Nat) (e : Int) : Binary64 :=
  if c = 0 ∨ Decimal.leadingExponent c e < -400 then zero negative
  else if 400 < Decimal.leadingExponent c e then .infinite negative
  else
    let (num, den) := powerQuotient 10 e
    ofQuotient negative (c * num) den

/-- Whether every underscore of a text stands between two digits. -/
def joinsDigits : List Char → Bool
  | [] => true
  | [c] => c != '_'
  | c :: d :: rest =>
    (c != '_' || (digitValue? d).isSome) && (d != '_' || (digitValue? c).isSome) &&
      joinsDigits (d :: rest)

/-- Reads a floating-point number: white space around it, a sign, a decimal numeral with single
underscores between digits, or a word for an infinity or NaN in any case. -/
def ofText? (text : String) : Option Binary64 :=
  let (negative, body) := splitSign (trimBy isWhiteSpace text.toList)
  let word := asciiLower body
  if word = "inf".toList ∨ word = "infinity".toList then some (.infinite negative)
  else if word = "nan".toList then some .nan
  else if joinsDigits ('.' :: body) then
    (Decimal.readNumeral (body.filter (· != '_'))).map
      (fun (c, e) => ofDecimal negative c e)
  else none

/-- The number divided by a positive whole number, rounded. -/
def divNat (x : Binary64) (n : Nat) : Binary64 :=
  match x with
  | .finite negative m q _ =>
    let (num, den) := powerQuotient 2 q
    ofQuotient negative (m * num) (den * n)
  | .infinite negative => .infinite negative
  | .nan => .nan

/-- The integer that a number is, if it is one. -/
def toInt? : Binary64 → Option Int
  | .finite negative m q _ =>
    let (num, den) := powerQuotient 2 q
    if m * num % den = 0 then some (signed negative (m * num / den)) else none
  | _ => none

/-- A finite number without its fraction. -/
def wholePart? : Binary64 → Option Int
  | .finite negative m q _ =>
    let (num, den) := powerQuotient 2 q
    some (signed negative (m * num / den))
  | _ => none

/-- Whether a number is finite. -/
def isFinite : Binary64 → Bool
  | .finite .. => true
  | _ => false

end Binary64

end Tollgate.Number
