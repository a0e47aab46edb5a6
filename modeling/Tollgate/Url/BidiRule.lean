import Tollgate.Text.Direction
import Tollgate.Text.Quoted

set_option autoImplicit false

/-!
# The rule for labels of mixed direction

A label in which text is written from right to left must not look like another label when it is
shown. It begins with a letter, which sets its direction; only certain classes of characters may
follow in a label of that direction, and it ends in a letter or a digit, marks behind it apart. A
label from right to left holds digits of one kind only. Places in a label are counted from one.
-/

namespace Tollgate.Url

open Tollgate.Text

/-- How a label breaks the rule. -/
inductive BidiFault where
  /-- A code point that no character has stands in the label. -/
  | unknown (label : List Nat) (place : Nat)
  /-- The label does not begin with a letter. -/
  | first (label : List Nat)
  /-- A character may not stand in a label from right to left. -/
  | insideRightToLeft (place : Nat)
  /-- Digits of both kinds stand in the label. -/
  | mixedDigits
  /-- A character may not stand in a label from left to right. -/
  | insideLeftToRight (place : Nat)
  /-- The label ends in a character that may not end it. -/
  | last
deriving Repr, DecidableEq

/-- The wording of a fault. -/
def BidiFault.message : BidiFault → String
  | .unknown label place =>
      "Unknown directionality in label " ++ quotedPoints label ++ " at position " ++ toString place
  | .first label =>
      "First codepoint in label " ++ quotedPoints label ++ " must be directionality L, R or AL"
  | .insideRightToLeft place =>
      "Invalid direction for codepoint at position " ++ toString place ++
        " in a right-to-left label"
  | .mixedDigits => "Can not mix numeral types in a right-to-left label"
  | .insideLeftToRight place =>
      "Invalid direction for codepoint at position " ++ toString place ++
        " in a left-to-right label"
  | .last => "Label ends with illegal codepoint directionality"

/-- Whether a class makes text run from right to left. -/
def isRightToLeft (d : Direction) : Bool :=
  d = .rightToLeft || d = .arabicLetter || d = .arabicNumber

/-- Whether a class may stand in a label of either direction. -/
def isNeutral (d : Direction) : Bool :=
  d = .europeanNumber || d = .europeanSeparator || d = .commonSeparator ||
    d = .europeanTerminator || d = .otherNeutral || d = .boundaryNeutral || d = .nonspacingMark

/-- Whether a class may stand in a label from right to left. -/
def isAllowedRightToLeft (d : Direction) : Bool :=
  isRightToLeft d || isNeutral d

/-- Whether a class may stand in a label from left to right. -/
def isAllowedLeftToRight (d : Direction) : Bool :=
  d = .leftToRight || isNeutral d

/-- Whether a class of digits follows digits of the other class. -/
def mixes (seen : Option Direction) (d : Direction) : Bool :=
  (d = .arabicNumber || d = .europeanNumber) && seen.any (· ≠ d)

/-- The first fault inside a label from right to left. `seen` is the kind of digits so far. -/
def rightToLeftFault? (place : Nat) (seen : Option Direction) :
    List Direction → Option BidiFault
  | [] => none
  | d :: rest =>
    if !isAllowedRightToLeft d then some (.insideRightToLeft place)
    else if mixes seen d then some .mixedDigits
    else
      let seen := if d = .arabicNumber || d = .europeanNumber then some d else seen
      rightToLeftFault? (place + 1) seen rest

/-- The first fault inside a label from left to right. -/
def leftToRightFault? (place : Nat) : List Direction → Option BidiFault
  | [] => none
  | d :: rest =>
    if !isAllowedLeftToRight d then some (.insideLeftToRight place)
    else leftToRightFault? (place + 1) rest

/-- Whether a label ends in a class, marks apart. -/
def endsIn (p : Direction → Bool) (ds : List Direction) : Bool :=
  ((ds.reverse.dropWhile (· = .nonspacingMark)).head?).any p

/-- How a label breaks the rule, if it does. -/
def bidiFault? (label : List Nat) : Option BidiFault :=
  let ds := label.map direction
  match ds.head? with
  | some .rightToLeft | some .arabicLetter =>
    (rightToLeftFault? 1 none ds).or
      (if endsIn (fun d => isRightToLeft d || d = .europeanNumber) ds then none else some .last)
  | some .leftToRight =>
    (leftToRightFault? 1 ds).or
      (if endsIn (fun d => d = .leftToRight || d = .europeanNumber) ds then none
       else some .last)
  | _ => some (.first label)

/-- The first code point of a label that no character has. -/
def unknownFault? (label : List Nat) : Option BidiFault :=
  (label.findIdx? (fun n => direction n = .unknown)).map (fun i => .unknown label (i + 1))

/-- Whether a label holds text from right to left. -/
def holdsRightToLeft (label : List Nat) : Bool :=
  label.any (fun n => isRightToLeft (direction n))

end Tollgate.Url
