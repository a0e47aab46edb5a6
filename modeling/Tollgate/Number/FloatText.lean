import Tollgate.Number.Binary64

set_option autoImplicit false

/-!
# Floating-point numbers as text

A number is shown with the fewest digits that read back to it, the nearest such digits where
there is a choice. `shortText` is positional for leading exponents from −4 to 15 and otherwise
scientific; a whole number keeps one zero after the point. `fixedText` has the same digits and is
always positional.
-/

namespace Tollgate.Number

namespace Binary64

/-- The number of digits in front of the point: the least `e` with `num / den < 10 ^ e`. -/
def wholeDigits (num den : Nat) : Int :=
  if den ≤ num then (digitCount (num / den) : Int)
  else
    let ceiling := (den + num - 1) / num
    1 - (digitCount (ceiling - 1) : Int)

/-- The numbers that round to `m · 2 ^ q`, in quarters of the last bit: the lower end, and
whether the ends are included. The interval below a power of two is half as wide. -/
def lowerQuarter (m : Nat) (q : Int) : Nat :=
  if m = Nat.pow 2 52 ∧ -1074 < q then 4 * m - 1 else 4 * m - 2

/-- The multiple of `10 ^ k` nearest to `m · 2 ^ q` that rounds to it, if one does. -/
def onGrid? (m : Nat) (q k : Int) : Option Nat :=
  let (unitNum, unitDen) := powerQuotient 2 (q - 2)
  let (gridNum, gridDen) := powerQuotient 10 k
  let a := unitNum * gridDen
  let b := gridNum * unitDen
  let value := 4 * m * a
  let low := lowerQuarter m q * a
  let high := (4 * m + 2) * a
  let isInside (c : Nat) : Bool :=
    if m % 2 = 0 then low ≤ c * b && c * b ≤ high else low < c * b && c * b < high
  let below := value / b
  let above := below + 1
  match isInside below, isInside above with
  | true, true => some (roundDiv value b)
  | true, false => some below
  | false, true => some above
  | false, false => none

/-- A coefficient without its trailing zeros, for which the exponent is raised. -/
def dropZeros : (fuel : Nat) → Nat → Int → Nat × Int
  | 0, c, e => (c, e)
  | fuel + 1, c, e =>
    if c ≠ 0 ∧ c % 10 = 0 then dropZeros fuel (c / 10) (e + 1) else (c, e)

/-- The fewest digits that read back to `m · 2 ^ q`: a coefficient and its exponent. Seventeen
digits always suffice. -/
def shortestDigits (m : Nat) (q : Int) : Nat × Int :=
  if m = 0 then (0, 0)
  else
    let (num, den) := powerQuotient 2 q
    let e := wholeDigits (m * num) den
    let hit := (List.range 17).findSome? (fun i =>
      let k := e - (i + 1 : Nat)
      (onGrid? m q k).map (fun c => (c, k)))
    match hit with
    | some (c, k) => dropZeros 17 c k
    | none => (m, 0)

/-- Digits with the point after the first `point` of them, zeros being added where the point
lies outside. A whole number ends in `tail`. -/
def positional (ds : List Char) (point : Int) (tail : List Char) : List Char :=
  if point ≤ 0 then '0' :: '.' :: List.replicate (-point).toNat '0' ++ ds
  else if (ds.length : Int) ≤ point then
    ds ++ List.replicate (point - ds.length).toNat '0' ++ tail
  else ds.take point.toNat ++ '.' :: ds.drop point.toNat

/-- Digits with a point after the first and an exponent of at least two digits. -/
def scientific (ds : List Char) (exponent : Int) : List Char :=
  let mantissa :=
    match ds with
    | [d] => [d]
    | d :: rest => d :: '.' :: rest
    | [] => []
  let magnitude := natText exponent.natAbs
  let padded := if magnitude.length < 2 then '0' :: magnitude else magnitude
  mantissa ++ 'e' :: (if exponent < 0 then '-' else '+') :: padded

/-- Whether a number whose point stands after `point` digits is shown without an exponent. -/
def isPositional (point : Int) : Bool :=
  -4 < point && point ≤ 16

/-- A minus sign for a negative number. -/
def signText (negative : Bool) : List Char :=
  if negative then ['-'] else []

/-- The shortest text that reads back to the number. -/
def shortText : Binary64 → String
  | .finite negative m q _ =>
    let (c, e) := shortestDigits m q
    let ds := natText c
    let point := e + ds.length
    String.ofList (signText negative ++
      if isPositional point then positional ds point ['.', '0'] else scientific ds (point - 1))
  | .infinite negative => String.ofList (signText negative ++ "inf".toList)
  | .nan => "nan"

/-- The number with the same digits and without an exponent. -/
def fixedText : Binary64 → String
  | .finite negative m q _ =>
    let (c, e) := shortestDigits m q
    let ds := natText c
    let point := e + ds.length
    String.ofList (signText negative ++
      positional ds point (if isPositional point then ['.', '0'] else []))
  | .infinite negative => String.ofList (signText negative ++ "Infinity".toList)
  | .nan => "NaN"

end Binary64

end Tollgate.Number
