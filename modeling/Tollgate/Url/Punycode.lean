set_option autoImplicit false

/-!
# Punycode

Domain labels of arbitrary characters as ASCII text. The ASCII characters come first; behind a
hyphen, every other character is told by how many states an insertion machine skips before it
inserts that character. The skips are numbers of base 36 with digits of varying weight, whose
thresholds follow a bias that adapts to the numbers written so far. Labels are given by their
code points.
-/

namespace Tollgate.Url.Punycode

/-- The digit of a number below 36. -/
def digit (n : Nat) : Char :=
  if n < 26 then Char.ofNat (0x61 + n) else Char.ofNat (0x30 + n - 26)

/-- The number of a digit; letters may have either case. -/
def digitValue? (c : Char) : Option Nat :=
  if 'a' ≤ c ∧ c ≤ 'z' then some (c.toNat - 0x61)
  else if 'A' ≤ c ∧ c ≤ 'Z' then some (c.toNat - 0x41)
  else if '0' ≤ c ∧ c ≤ '9' then some (c.toNat - 0x30 + 26)
  else none

theorem digitValue?_digit {n : Nat} (h : n < 36) : digitValue? (digit n) = some n := by
  have key : ∀ m : Fin 36, digitValue? (digit m.val) = some m.val := by decide
  exact key ⟨n, h⟩

/-- The least digit that does not end a number at a position. -/
def threshold (bias position : Nat) : Nat :=
  max 1 (min 26 (position - bias))

theorem threshold_bounds (bias position : Nat) :
    1 ≤ threshold bias position ∧ threshold bias position ≤ 26 := by
  unfold threshold
  omega

/-- The digits of a number from a position on, the least weighty first. -/
def digits (bias position n : Nat) : List Char :=
  let t := threshold bias position
  if n < t then [digit n]
  else digit (t + (n - t) % (36 - t)) :: digits bias (position + 36) ((n - t) / (36 - t))
termination_by n
decreasing_by
  have h := threshold_bounds bias position
  have hdiv : (n - threshold bias position) / (36 - threshold bias position)
      ≤ n - threshold bias position := Nat.div_le_self _ _
  omega

/-- How often a number is divided by 35 until it is at most 455, each time for 36 positions, and
what is left. -/
def scaleDown (position n : Nat) : Nat × Nat :=
  if 455 < n then scaleDown (position + 36) (n / 35) else (position, n)
termination_by n
decreasing_by exact Nat.div_lt_self (by omega) (by omega)

/-- The bias after a number was written that was the first or a later one, when so many
characters are placed. -/
def adapt (isFirst : Bool) (placed n : Nat) : Nat :=
  let damped := if isFirst then n / 700 else n / 2
  let (position, left) := scaleDown 0 (damped + damped / placed)
  position + 36 * left / (left + 38)

/-- The bias for the first number. -/
def firstBias : Nat := 72

/-! ## Encoding -/

/-- What was written so far, the states to skip, the bias, and how many characters are placed. -/
structure Progress where
  written : List Char
  skipped : Nat
  bias : Nat
  placed : Nat

/-- Passes one character of the label while characters of the code point `point` are inserted. -/
def Progress.pass (basic point : Nat) (p : Progress) (c : Nat) : Progress :=
  if c < point then { p with skipped := p.skipped + 1 }
  else if c = point then
    { written := p.written ++ digits p.bias 36 p.skipped
      skipped := 0
      bias := adapt (p.placed = basic) (p.placed + 1) p.skipped
      placed := p.placed + 1 }
  else p

/-- Inserts the characters of ascending code points, of which none lies below `next`. -/
def insertPoints (label : List Nat) (basic : Nat) :
    (next : Nat) → List Nat → Progress → Progress
  | _, [], p => p
  | next, point :: points, p =>
    let skipped := p.skipped + (point - next) * (p.placed + 1)
    let passed := label.foldl (Progress.pass basic point) { p with skipped := skipped }
    insertPoints label basic (point + 1) points { passed with skipped := passed.skipped + 1 }

/-- The ASCII form of a label. -/
def encode (label : List Nat) : List Char :=
  let basic := (label.filter (· < 0x80)).map Char.ofNat
  let points := label.filter (0x80 ≤ ·)
  let start : Progress := ⟨[], 0, firstBias, basic.length⟩
  let done := insertPoints label basic.length 0x80 (points.mergeSort.eraseDups) start
  basic ++ (if basic.isEmpty then [] else ['-']) ++ done.written

/-! ## Decoding -/

/-- The label so far, the code point and the place of the next insertion, the bias, the number
that is being read, the weight of its next digit, and the position of that digit. -/
structure Insertion where
  label : List Nat
  point : Nat
  place : Nat
  bias : Nat
  isFirst : Bool
  number : Nat
  weight : Nat
  position : Nat

/-- The last code point. -/
def lastPoint : Nat := 0x10ffff

/-- Reads one digit; the digit that ends a number inserts a character. There is none beyond the
last code point. -/
def Insertion.read (s : Insertion) (c : Char) : Option Insertion := do
  let d ← digitValue? c
  let number := s.number + d * s.weight
  let t := threshold s.bias s.position
  if d < t then
    let total := s.place + number
    let size := s.label.length + 1
    let point := s.point + total / size
    let place := total % size
    if lastPoint < point then none
    else
      some {
        label := s.label.take place ++ point :: s.label.drop place
        point := point
        place := place + 1
        bias := adapt s.isFirst size number
        isFirst := false
        number := 0
        weight := 1
        position := 36 }
  else
    some { s with number := number, weight := s.weight * (36 - t), position := s.position + 36 }

/-- Inserts the characters that digits tell into a label. The digits must not end within a
number. -/
def insertDigits (label : List Nat) (cs : List Char) : Option (List Nat) := do
  let start : Insertion := ⟨label, 0x80, 0, firstBias, true, 0, 1, 36⟩
  let done ← cs.foldlM Insertion.read start
  if done.position = 36 then some done.label else none

/-- The ASCII characters of an encoded label and its digits, which the last hyphen divides. -/
def cutDigits (cs : List Char) : List Char × List Char :=
  let digits := (cs.reverse.takeWhile (· != '-')).reverse
  (cs.take (cs.length - digits.length - 1), digits)

/-- The label that an ASCII text encodes. -/
def decode (cs : List Char) : Option (List Nat) :=
  let (basic, digits) := cutDigits cs
  insertDigits (basic.map Char.toNat) digits

end Tollgate.Url.Punycode
