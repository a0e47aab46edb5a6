import Tollgate.Url.Label
import Tollgate.Url.MappingTable

set_option autoImplicit false

/-!
# Domain names as they are typed

Domain names are typed in capitals, in wide letters, with ligatures or with invisible controls. In
their normal form every character is mapped to the ones it stands for, and the text is composed;
encoded labels are decoded, for their characters must be mapped already. A name that passes these
steps and whose labels agree with their directions is written in ASCII.
-/

namespace Tollgate.Url

open Tollgate.Text

/-- What a character of a domain name stands for, if it may occur. -/
def mapPoint (n : Nat) : Option (List Nat) :=
  if n < 0x80 then some [(Char.ofNat n).toLower.toNat]
  else if ignoredPoints.contains n then some []
  else if refusedPoints.contains n then none
  else
    match replacedPoints.find? n with
    | some m => some [m]
    | none => some ((spelledPoints.find? n).getD [n])

/-- The characters that a domain name stands for, in composed form. -/
def mapName (points : List Nat) : Option (List Nat) :=
  (points.mapM mapPoint).map (fun mapped => composed mapped.flatten)

/-- Whether a character stands for itself in a domain name. -/
def isMapped (n : Nat) : Bool :=
  mapPoint n = some [n]

/-- Whether a character may not stand in the name of a host. -/
def isForbiddenInName (n : Nat) : Bool :=
  n ≤ 0x20 || n = 0x7f || ("#/:<>?@[\\]^|%".toList.map Char.toNat).contains n

/-- The first of the joiners in a label that stands where nothing joins; `before` was passed
already. -/
def joinersFit (before : List Nat) : List Nat → Bool
  | [] => true
  | n :: rest => (!isJoiner n || joinerFits n before rest) && joinersFit (n :: before) rest

/-- Whether a label that stands for itself may stand in a name. It must not look encoded. -/
def isLabel (label : List Nat) : Bool :=
  !(label.head?.any markPoints.contains) && joinersFit [] label &&
    !((encodedMark.map Char.toNat).isPrefixOf label)

/-- The label that an encoded one stands for. It must hold a character beyond ASCII, be in composed
form, and consist of characters that stand for themselves. A hyphen in front of everything else
divides nothing. -/
def decodeLabel (digits : List Nat) : Option (List Nat) := do
  let cs := digits.map Char.ofNat
  let (basic, _) := Punycode.cutDigits cs
  if basic.isEmpty ∧ cs.contains '-' then none
  let label ← Punycode.decode cs
  if label.all (· < 0x80) || !label.all isMapped || composed label ≠ label then none
  else some label

/-- How long the Punycode of a label may be. -/
def codeLimit : Nat := 2000

/-- How long a label may be of which the Punycode is wanted. -/
def pointsLimit : Nat := 1000

/-- The label that a mapped one stands for. Labels that take Punycode too long to work out are
refused. -/
def openLabel (label : List Nat) : Option (List Nat) := do
  let mark := encodedMark.map Char.toNat
  let opened ←
    if mark.isPrefixOf label then
      let digits := label.drop mark.length
      if label.all (· < 0x80) && digits.length ≤ codeLimit then decodeLabel digits else none
    else if label.all (· < 0x80) || label.length ≤ pointsLimit then some label
    else none
  if isLabel opened then some opened else none

/-- Whether the labels of a name agree with their directions. If one of them holds text from right
to left, all must follow the rule for labels of mixed direction. -/
def directionsAgree (labels : List (List Nat)) : Bool :=
  !labels.any holdsRightToLeft ||
    labels.all (fun label => label.isEmpty || (bidiFault? label).isNone)

/-- A label as ASCII text. -/
def asciiLabel (label : List Nat) : List Char :=
  if label.all (· < 0x80) then label.map Char.ofNat
  else encodedMark ++ Punycode.encode label

/-- The labels of mapped points, which a dot divides. -/
def splitLabels (points : List Nat) : List (List Nat) :=
  (split '.' (points.map Char.ofNat)).map (fun label => label.map Char.toNat)

/-- The normal ASCII text of a domain name. -/
def normalName (cs : List Char) : Option (List Char) := do
  let mapped ← mapName (cs.map Char.toNat)
  let labels ← (splitLabels mapped).mapM openLabel
  if labels.any (·.any isForbiddenInName) || !directionsAgree labels then none
  else some (join '.' (labels.map asciiLabel))

end Tollgate.Url
