import Tollgate.Text.DirectionTable

set_option autoImplicit false

/-!
# Direction of writing

The class that a character belongs to when text that is written from left to right and text that
is written from right to left meet.
-/

namespace Tollgate.Text

/-- A class of characters by direction. -/
inductive Direction where
  /-- A letter that is written from left to right. -/
  | leftToRight
  /-- A letter that is written from right to left. -/
  | rightToLeft
  /-- A letter of the Arabic kind. -/
  | arabicLetter
  /-- A digit of the Arabic kind. -/
  | arabicNumber
  /-- A digit of the European kind. -/
  | europeanNumber
  /-- A sign between European digits. -/
  | europeanSeparator
  /-- A sign around European digits. -/
  | europeanTerminator
  /-- A sign between digits of either kind. -/
  | commonSeparator
  /-- A mark that takes no room of its own. -/
  | nonspacingMark
  /-- A control that takes no room. -/
  | boundaryNeutral
  /-- A sign without direction. -/
  | otherNeutral
  /-- A code point that no character has. -/
  | unknown
  /-- A space, a line end, or a control that sets the direction. -/
  | separator
deriving Repr, DecidableEq

/-- The classes that are listed, each with its characters. -/
def directionSets : List (Direction × PointSet) :=
  [(.rightToLeft, rightToLeftPoints),
   (.arabicLetter, arabicLetterPoints),
   (.arabicNumber, arabicNumberPoints),
   (.europeanNumber, europeanNumberPoints),
   (.europeanSeparator, europeanSeparatorPoints),
   (.europeanTerminator, europeanTerminatorPoints),
   (.commonSeparator, commonSeparatorPoints),
   (.nonspacingMark, nonspacingMarkPoints),
   (.boundaryNeutral, boundaryNeutralPoints),
   (.otherNeutral, otherNeutralPoints),
   (.unknown, unknownPoints),
   (.separator, separatorPoints)]

/-- The class of a code point. -/
def direction (n : Nat) : Direction :=
  ((directionSets.find? (·.2.contains n)).map Prod.fst).getD .leftToRight

end Tollgate.Text
