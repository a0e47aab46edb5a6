import Tollgate.Text.CaseTable
import Tollgate.Text.LowerTable

set_option autoImplicit false

/-!
# Letter case

Three maps. `fold` sends every letter to the one that stands for its case class, so that two
characters are the same letter up to case exactly when they fold to the same character; besides
upper and lower case a class joins variants such as the final sigma, the long s and the Kelvin
sign. `upper` and `lower` are the upper-case and the lower-case form of a text, in which a letter
may become several characters and a sigma at the end of a word has a form of its own.
-/

namespace Tollgate.Text

/-- The shift that a table of runs gives to a code point, if a run covers it. -/
def shiftIn (runs : List ShiftRun) (n : Nat) : Option Int :=
  (runs.find? (·.covers n)).map ShiftRun.shift

/-- The character that stands for the case class of a character. -/
def fold (c : Char) : Char :=
  if c.toNat < 0x80 then c.toLower
  else match shiftIn foldRuns c.toNat with
    | some d => Char.ofNat (c.toNat + d).toNat
    | none => c

/-- Two characters are the same letter up to case. -/
def SameLetter (a b : Char) : Prop :=
  fold a = fold b

instance (a b : Char) : Decidable (SameLetter a b) :=
  inferInstanceAs (Decidable (fold a = fold b))

/-- The upper-case form of a character. -/
def upperChar (c : Char) : List Char :=
  if c.toNat < 0x80 then [c.toUpper]
  else match upperSpellings.find? (·.1 == c.toNat) with
    | some (_, spelling) => spelling.map Char.ofNat
    | none =>
      match shiftIn upperRuns c.toNat with
      | some d => [Char.ofNat (c.toNat + d).toNat]
      | none => [c]

/-- The upper-case form of a text. -/
def upper (s : String) : String :=
  String.ofList (s.toList.flatMap upperChar)

/-- The lower-case form of a character. -/
def lowerChar (c : Char) : List Char :=
  if c.toNat < 0x80 then [c.toLower]
  else if c.toNat = 0x130 then ['i', '\u0307']
  else
    match lowerPoints.find? c.toNat with
    | some n => [Char.ofNat n]
    | none => [c]

/-- Whether a letter that comes in upper and lower case is met before anything else that is not
passed over. -/
def meetsCased (cs : List Char) : Bool :=
  ((cs.dropWhile (fun c => caseIgnorablePoints.contains c.toNat)).head?).any
    (fun c => casedPoints.contains c.toNat)

/-- The lower-case form of the rest of a text, of which `before` stands in front, in reverse. A
sigma is final if a letter stands before it in its word and none behind it. -/
def lowerFrom (before : List Char) : List Char → List Char
  | [] => []
  | c :: rest =>
    (if c.toNat = 0x3a3 then
      if meetsCased before && !meetsCased rest then ['\u03c2'] else ['\u03c3']
    else lowerChar c) ++ lowerFrom (c :: before) rest

/-- The lower-case form of a text. -/
def lower (cs : List Char) : List Char :=
  lowerFrom [] cs

/-- The text with its ASCII letters in lower case. -/
def asciiLower (cs : List Char) : List Char :=
  cs.map Char.toLower

theorem SameLetter.rfl {a : Char} : SameLetter a a :=
  Eq.refl (fold a)

theorem SameLetter.symm {a b : Char} (h : SameLetter a b) : SameLetter b a :=
  Eq.symm h

theorem SameLetter.trans {a b c : Char} (hab : SameLetter a b) (hbc : SameLetter b c) :
    SameLetter a c :=
  Eq.trans hab hbc

/-- ASCII letters lie in two ranges. -/
theorem toNat_of_isAlpha {c : Char} (h : c.isAlpha = true) :
    (0x41 ≤ c.toNat ∧ c.toNat ≤ 0x5a) ∨ (0x61 ≤ c.toNat ∧ c.toNat ≤ 0x7a) := by
  have hCase : (c.isUpper || c.isLower) = true := h
  rcases Bool.or_eq_true_iff.mp hCase with hUpper | hLower
  · exact Or.inl (of_decide_eq_true hUpper)
  · obtain ⟨hFrom, hTo⟩ := Bool.and_eq_true_iff.mp hLower
    exact Or.inr ⟨of_decide_eq_true hFrom, of_decide_eq_true hTo⟩

end Tollgate.Text
