set_option autoImplicit false

/-!
# Loose text

A text as JSON can spell it. The escapes of JSON also spell surrogates that belong to no pair;
a text that holds one is broken: it is no sequence of characters and has no bytes, but it can be
kept, compared and written with escapes again.
-/

namespace Tollgate.Text

/-- Whether a code point is the first half of a surrogate pair. -/
def isHighSurrogate (n : Nat) : Bool := 0xd800 ≤ n && n < 0xdc00

/-- Whether a code point is the second half of a surrogate pair. -/
def isLowSurrogate (n : Nat) : Bool := 0xdc00 ≤ n && n < 0xe000

/-- Whether a code point is a surrogate. -/
def isSurrogate (n : Nat) : Bool := isHighSurrogate n || isLowSurrogate n

/-- The code point of a surrogate pair. -/
def joinSurrogates (high low : Nat) : Nat :=
  0x10000 + (high - 0xd800) * 0x400 + (low - 0xdc00)

/-- Joins every surrogate pair into the code point that it spells. -/
def joinPairs : List Nat → List Nat
  | high :: low :: rest =>
    if isHighSurrogate high && isLowSurrogate low then joinSurrogates high low :: joinPairs rest
    else high :: joinPairs (low :: rest)
  | points => points

/-- A text that may be broken. -/
inductive LooseText where
  | whole (s : String)
  /-- A text with an unpaired surrogate, as code points. -/
  | broken (points : List Nat)
deriving Repr, DecidableEq

instance : Coe String LooseText where
  coe := .whole

namespace LooseText

/-- The text of code points. -/
def ofPoints (points : List Nat) : LooseText :=
  if points.any isSurrogate then .broken points else .whole (String.ofList (points.map Char.ofNat))

/-- The code points of a text. -/
def points : LooseText → List Nat
  | .whole s => s.toList.map Char.toNat
  | .broken points => points

/-- A text with another one in front. -/
def after (front : String) : LooseText → LooseText
  | .whole s => .whole (front ++ s)
  | .broken points => .broken (front.toList.map Char.toNat ++ points)

/-- The characters of a text, with the null character for each surrogate. -/
def chars : LooseText → List Char
  | .whole s => s.toList
  | .broken points => points.map Char.ofNat

/-- Whether a text is empty. -/
def isEmpty : LooseText → Bool
  | .whole s => s = ""
  | .broken points => points.isEmpty

/-- A character is no surrogate. -/
theorem isSurrogate_toNat (c : Char) : isSurrogate c.toNat = false := by
  have h := c.valid
  simp only [isSurrogate, isHighSurrogate, isLowSurrogate, UInt32.isValidChar, Nat.isValidChar,
    Char.toNat] at *
  simp only [Bool.or_eq_false_iff, Bool.and_eq_false_iff, decide_eq_false_iff_not]
  omega

/-- The code points of characters are those of a text that is not broken. -/
theorem ofPoints_points (s : String) : ofPoints (points (.whole s)) = .whole s := by
  have hclean : (s.toList.map Char.toNat).any isSurrogate = false := by
    simp [List.any_eq_false, isSurrogate_toNat]
  have hback : (s.toList.map Char.toNat).map Char.ofNat = s.toList := by
    simp [Function.comp_def]
  simp [ofPoints, points, hclean, hback]

end LooseText

end Tollgate.Text
