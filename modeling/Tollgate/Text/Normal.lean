import Tollgate.Text.NormalTable

set_option autoImplicit false

/-!
# Composed form

A letter with marks may be one character or several. In the composed form of a text every
character is taken apart, the marks behind a letter are put in the order of their classes, and
whatever can be composed is composed again; texts that read the same then are the same. The
Korean syllables are composed of their letters by arithmetic.
-/

namespace Tollgate.Text

/-! ## Korean syllables -/

/-- The first Korean syllable. -/
def syllableBase : Nat := 0xac00

/-- The first leading consonant. -/
def leadingBase : Nat := 0x1100

/-- The first vowel. -/
def vowelBase : Nat := 0x1161

/-- The place in front of the first trailing consonant. -/
def trailingBase : Nat := 0x11a7

/-- Whether a code point is a Korean syllable. There are 19 leading consonants, 21 vowels, and 27
trailing consonants of which a syllable may have none. -/
def isSyllable (n : Nat) : Bool :=
  syllableBase ≤ n && n < syllableBase + 19 * 21 * 28

/-- The letters of a Korean syllable. -/
def syllableParts (n : Nat) : List Nat :=
  let k := n - syllableBase
  let front := [leadingBase + k / (21 * 28), vowelBase + k / 28 % 21]
  if k % 28 = 0 then front else front ++ [trailingBase + k % 28]

/-- The Korean syllable of a consonant and a vowel, or of a syllable and a trailing consonant. -/
def joinSyllable? (a b : Nat) : Option Nat :=
  if leadingBase ≤ a ∧ a < leadingBase + 19 ∧ vowelBase ≤ b ∧ b < vowelBase + 21 then
    some (syllableBase + ((a - leadingBase) * 21 + (b - vowelBase)) * 28)
  else if isSyllable a ∧ (a - syllableBase) % 28 = 0 ∧ trailingBase < b ∧
      b < trailingBase + 28 then
    some (a + (b - trailingBase))
  else none

/-! ## Taking apart and composing -/

/-- The parts of a code point, taken apart as often as the first number says; four times are
enough for every character. -/
def takeApart : Nat → Nat → List Nat
  | 0, n => [n]
  | depth + 1, n =>
    if isSyllable n then syllableParts n
    else
      match decompositions.find? n with
      | some parts => parts.flatMap (takeApart depth)
      | none => [n]

/-- The class of a mark, by which marks are ordered; zero for everything else. -/
def combiningClass (n : Nat) : Nat :=
  combiningClasses.get n

/-- Puts a mark behind those of its own or a lower class, but before any character that is no
mark. The characters are given in reverse. -/
def insertMark (c : Nat) : List Nat → List Nat
  | [] => [c]
  | d :: rest =>
    if combiningClass c < combiningClass d then d :: insertMark c rest else c :: d :: rest

/-- The characters with the marks behind each letter in the order of their classes. -/
def orderMarks (points : List Nat) : List Nat :=
  (points.foldl
    (fun done c => if combiningClass c = 0 then c :: done else insertMark c done) []).reverse

/-- The pairs of parts with the characters that are composed of them. -/
def compositions : Array (Nat × Nat × Nat) :=
  decompositions.entries.filterMap (fun entry =>
    match entry.spelling with
    | [a, b] => if uncomposedPoints.contains entry.point then none else some (a, b, entry.point)
    | _ => none)

/-- The character that is composed of two parts. -/
def compose? (a b : Nat) : Option Nat :=
  match joinSyllable? a b with
  | some n => some n
  | none => (compositions.find? (fun (x, y, _) => x = a && y = b)).map (fun (_, _, n) => n)

/-- Composes a letter with what follows. `kept` are the marks behind the letter that could not be
composed with it, in reverse; one of them blocks marks of its own or a lower class. -/
def composeFrom (letter : Nat) (kept : List Nat) : List Nat → List Nat
  | [] => letter :: kept.reverse
  | c :: rest =>
    let isBlocked := kept.head?.any (fun k => combiningClass c ≤ combiningClass k)
    match if isBlocked then none else compose? letter c with
    | some n => composeFrom n kept rest
    | none =>
      if combiningClass c = 0 then letter :: kept.reverse ++ composeFrom c [] rest
      else composeFrom letter (c :: kept) rest

/-- Composes what can be composed; marks in front of the first letter stay. -/
def composeAll : List Nat → List Nat
  | [] => []
  | c :: rest => if combiningClass c = 0 then composeFrom c [] rest else c :: composeAll rest

/-- The composed form of a text. -/
def composed (points : List Nat) : List Nat :=
  composeAll (orderMarks (points.flatMap (takeApart 4)))

/-- A syllable is joined from its letters. -/
theorem joinSyllable?_leading_vowel {l v : Nat} (hl : l < 19) (hv : v < 21) :
    joinSyllable? (leadingBase + l) (vowelBase + v) =
      some (syllableBase + (l * 21 + v) * 28) := by
  rw [joinSyllable?, if_pos ⟨by omega, by omega, by omega, by omega⟩]
  simp

end Tollgate.Text
