import Tollgate.Text.Normal
import Tollgate.Text.Quoted
import Tollgate.Text.Script
import Tollgate.Url.BidiRule
import Tollgate.Url.LabelTable
import Tollgate.Url.Punycode

set_option autoImplicit false

/-!
# Labels of domain names

A label is a part of a domain name between two dots. A label of arbitrary characters travels as
ASCII text: the mark `xn--` and its Punycode. It must be in composed form, must not begin with a
mark or have hyphens at certain places, and may hold only letters, digits and marks that need no
capitals, besides a few signs where their neighbours call for them.
-/

namespace Tollgate.Url

open Tollgate.Text

/-- Why a text is no label or no domain name. -/
inductive LabelFault where
  | labelTooLong
  | nameTooLong
  | emptyName
  | emptyLabel
  | notComposed
  | innerHyphens
  | outerHyphen
  | leadingMark
  /-- A character may not stand in a label, at a place of it. -/
  | character (point place : Nat) (label : List Nat)
  /-- A joiner stands where nothing joins. -/
  | joiner (point place : Nat) (label : List Nat)
  /-- A sign stands where its neighbours do not call for it. -/
  | neighbours (point place : Nat) (label : List Nat)
  | bidi (fault : BidiFault)
  /-- Nothing follows the mark of an encoded label. -/
  | nothingEncoded
  /-- An encoded label ends in a hyphen. -/
  | encodedHyphen
  /-- What follows the mark of an encoded label is no Punycode. -/
  | notEncoded
deriving Repr, DecidableEq

/-- A code point in messages about labels: at least four capital digits. -/
def pointName (n : Nat) : String :=
  let width := max 4 ((hexText 6 n).dropWhile (· == '0')).length
  "U+" ++ String.ofList ((hexText width n).map Char.toUpper)

/-- The wording of a fault. -/
def LabelFault.message : LabelFault → String
  | .labelTooLong => "Label too long"
  | .nameTooLong => "Domain too long"
  | .emptyName => "Empty domain"
  | .emptyLabel => "Empty Label"
  | .notComposed => "Label must be in Normalization Form C"
  | .innerHyphens => "Label has disallowed hyphens in 3rd and 4th position"
  | .outerHyphen => "Label must not start or end with a hyphen"
  | .leadingMark => "Label begins with an illegal combining character"
  | .character point place label =>
      "Codepoint " ++ pointName point ++ " at position " ++ toString place ++ " of " ++
        quotedPoints label ++ " not allowed"
  | .joiner point place label =>
      "Unknown codepoint adjacent to joiner " ++ pointName point ++ " at position " ++
        toString place ++ " in " ++ quotedPoints label
  | .neighbours point place label =>
      "Codepoint " ++ pointName point ++ " not allowed at position " ++ toString place ++ " in " ++
        quotedPoints label
  | .bidi fault => fault.message
  | .nothingEncoded => "Malformed A-label, no Punycode eligible content found"
  | .encodedHyphen => "A-label must not end with a hyphen"
  | .notEncoded => "Invalid A-label"

/-! ## Signs that depend on their neighbours -/

/-- The class of the marks that kill the vowel of a consonant. -/
def viramaClass : Nat := 9

/-- The joining of the nearest letter, across transparent marks. -/
def nearestJoining (points : List Nat) : Joining :=
  match points.dropWhile (fun n => joining n = .transparent) with
  | n :: _ => joining n
  | [] => .none

/-- The mark that keeps letters apart. -/
def nonJoiner : Nat := 0x200c

/-- The mark that joins letters. -/
def joinerMark : Nat := 0x200d

/-- Whether a code point is one of the two joiners. -/
def isJoiner (n : Nat) : Bool := n == nonJoiner || n == joinerMark

/-- Whether a joiner may stand between `before`, which is given in reverse, and `after`: behind a
mark that kills a vowel, or, to keep letters apart, where they would join. -/
def joinerFits (n : Nat) (before after : List Nat) : Bool :=
  before.head?.any (fun b => combiningClass b == viramaClass) ||
    (n == nonJoiner && (nearestJoining before == .left || nearestJoining before == .dual) &&
      (nearestJoining after == .right || nearestJoining after == .dual))

/-- Whether a code point is a digit of the Arabic kind. -/
def isArabicDigit (n : Nat) : Bool := 0x660 ≤ n && n ≤ 0x669

/-- Whether a code point is a digit of the extended Arabic kind. -/
def isExtendedDigit (n : Nat) : Bool := 0x6f0 ≤ n && n ≤ 0x6f9

/-- Whether a sign may stand between `before`, which is given in reverse, and `after`, if it is one
of those that depend on their neighbours: the middle dot stands between two l, the Greek numeral
sign before Greek, the Hebrew marks behind Hebrew, the Japanese middle dot with Japanese or
Chinese, and the two kinds of Arabic digits do not meet. -/
def signFits? (n : Nat) (before after : List Nat) : Option Bool :=
  if n == 0xb7 then some (before.head? == some 0x6c && after.head? == some 0x6c)
  else if n == 0x375 then some (after.head?.any Script.greek.contains)
  else if n == 0x5f3 || n == 0x5f4 then some (before.head?.any Script.hebrew.contains)
  else if n == 0x30fb then
    some ((before ++ after).any (fun c => c != 0x30fb &&
      (Script.hiragana.contains c || Script.katakana.contains c || Script.han.contains c)))
  else if isArabicDigit n then some (!(before ++ after).any isExtendedDigit)
  else if isExtendedDigit n then some (!(before ++ after).any isArabicDigit)
  else none

/-! ## Labels -/

/-- Whether no character has a code point. -/
def isUnassigned (n : Nat) : Bool :=
  combiningClass n == 0 && direction n == .unknown

/-- The fault of a character between `before`, which is given in reverse, and `after`. -/
def pointFault? (label : List Nat) (n : Nat) (before after : List Nat) : Option LabelFault :=
  let place := before.length + 1
  if labelPoints.contains n then none
  else if isJoiner n then
    if joinerFits n before after && !before.head?.any isUnassigned then none
    else some (.joiner n place label)
  else
    match signFits? n before after with
    | some true => none
    | some false => some (.neighbours n place label)
    | none => some (.character n place label)

/-- The first fault of a character of a label, of which `before` was passed already. -/
def pointsFault? (label before : List Nat) : List Nat → Option LabelFault
  | [] => none
  | n :: rest =>
    match pointFault? label n before rest with
    | some f => some f
    | none => pointsFault? label (n :: before) rest

/-- The fault in the direction of writing of a label. The rule for labels of mixed direction
concerns only those that hold text from right to left. -/
def directionFault? (label : List Nat) : Option BidiFault :=
  match unknownFault? label with
  | some f => some f
  | none => if holdsRightToLeft label then bidiFault? label else none

/-- The code point of the hyphen. -/
def hyphen : Nat := 0x2d

/-- How long a label may be before its characters are looked at. -/
def labelLimit : Nat := 254

/-- What is wrong with a label, if anything is. -/
def labelFault? (label : List Nat) : Option LabelFault :=
  if label.isEmpty then some .emptyLabel
  else if labelLimit < label.length then some .labelTooLong
  else if composed label ≠ label then some .notComposed
  else if label[2]? = some hyphen ∧ label[3]? = some hyphen then some .innerHyphens
  else if label.head? = some hyphen ∨ label.getLast? = some hyphen then some .outerHyphen
  else if label.head?.any markPoints.contains then some .leadingMark
  else (pointsFault? label [] label).or ((directionFault? label).map .bidi)

/-- The mark of an encoded label. -/
def encodedMark : List Char := ['x', 'n', '-', '-']

/-- The label that an ASCII text stands for, which may be encoded. -/
def readLabel (cs : List Char) : Except LabelFault (List Nat) := do
  let label ←
    if encodedMark.isPrefixOf cs then
      let digits := cs.drop encodedMark.length
      if digits.isEmpty then throw .nothingEncoded
      else if digits.getLast? = some '-' then throw .encodedHyphen
      else
        match Punycode.decode digits with
        | some label => pure label
        | none => throw .notEncoded
    else pure (cs.map Char.toNat)
  match labelFault? label with
  | some f => throw f
  | none => return label

/-- How long a label may be when it travels. -/
def writtenLimit : Nat := 63

/-- The ASCII text of a label in lower case. -/
def writeLabel (label : List Char) : Except LabelFault (List Char) := do
  let points := label.map Char.toNat
  let text ←
    if points.all (· < 0x80) then do
      let _ ← readLabel label
      pure label
    else
      match labelFault? points with
      | some f => throw f
      | none => pure (encodedMark ++ Punycode.encode points)
  if writtenLimit < text.length then throw .labelTooLong else return text

/-! ## Domain names -/

/-- How long a domain name may be, apart from a dot at its end. -/
def nameLimit : Nat := 253

/-- The labels of a domain name, and whether a dot follows the last. -/
def cutLabels (cs : List Char) : List (List Char) × Bool :=
  let parts := split '.' cs
  if parts.getLast? = some [] then (parts.dropLast, true) else (parts, false)

/-- Why no domain name can be read from an ASCII text, if that is so. Every label must be one that
may stand for itself or that is encoded. -/
def nameFault? (cs : List Char) : Option LabelFault :=
  if nameLimit + 1 < cs.length then some .nameTooLong
  else if cs.isEmpty then some .emptyName
  else
    match (cutLabels cs).1.mapM readLabel with
    | .error f => some f
    | .ok _ => none

/-- Whether a character separates the labels of a domain name. -/
def isLabelEnd (c : Char) : Bool :=
  c == '.' || c.toNat == 0x3002 || c.toNat == 0xff0e || c.toNat == 0xff61

/-- The ASCII text of a domain name in lower case. -/
def writeName (cs : List Char) : Except LabelFault (List Char) := do
  if nameLimit + 1 < cs.length then throw .nameTooLong
  if cs.isEmpty then throw .emptyName
  let (labels, hasDot) := cutLabels (cs.map (fun c => if isLabelEnd c then '.' else c))
  let written ← labels.mapM writeLabel
  let text := join '.' written ++ (if hasDot then ['.'] else [])
  if (if hasDot then nameLimit + 1 else nameLimit) < text.length then throw .nameTooLong
  return text

end Tollgate.Url
