import Tollgate.Json.Value
import Tollgate.Text.Quoted

set_option autoImplicit false

/-!
# Values in messages

How a message shows a value: texts are quoted, truth values and null are spelled as words with a
capital, arrays and objects stand between brackets and braces, and a record is shown with the
name of its type and its attributes.
-/

namespace Tollgate.Json

open Tollgate.Number Tollgate.Text

/-- The name of a type without the names of the modules around it. -/
def baseName (name : List Char) : List Char :=
  (name.reverse.takeWhile (· != '.')).reverse

namespace Value

mutual

/-- A value as a message shows it. -/
def shown : Value → List Char
  | .null => "None".toList
  | .bool true => "True".toList
  | .bool false => "False".toList
  | .int n => intText n
  | .float x => x.shortText.toList
  | .text s => (quoted s).toList
  | .broken points => (quotedPoints points).toList
  | .array items => '[' :: shownItems items ++ [']']
  | .object members => '{' :: shownMembers members ++ ['}']
  | .record type attributes members =>
    baseName type.toList ++ '(' :: shownFields [',', ' '] attributes members ++ [')']

/-- The items of an array, with commas between them. -/
def shownItems : List Value → List Char
  | [] => []
  | item :: rest =>
    shown item ++ (if rest.isEmpty then [] else ',' :: ' ' :: shownItems rest)

/-- The fields of a record by the names of its attributes, with a separator between them. -/
def shownFields (separator : List Char) : List LooseText → List (LooseText × Value) → List Char
  | name :: names, (_, value) :: rest =>
    name.chars ++ '=' :: shown value ++
      (if rest.isEmpty then [] else separator ++ shownFields separator names rest)
  | _, _ => []

/-- The members of an object, with commas between them. -/
def shownMembers : List (LooseText × Value) → List Char
  | [] => []
  | (name, value) :: rest =>
    (quotedLoose name).toList ++ ':' :: ' ' :: shown value ++
      (if rest.isEmpty then [] else ',' :: ' ' :: shownMembers rest)

end

/-- A value as a text of its own: a text stands for itself, a record for its fields with blanks
between them, and everything else for what a message shows. -/
def spelled : Value → List Char
  | .text s => s.toList
  | .record _ attributes members => shownFields [' '] attributes members
  | v => shown v

/-- The name of a value's type. -/
def typeName : Value → String
  | .null => "NoneType"
  | .bool _ => "bool"
  | .int _ => "int"
  | .float _ => "float"
  | .text _ => "str"
  | .broken _ => "str"
  | .array _ => "list"
  | .object _ => "dict"
  | .record type _ _ => type

/-- The name of a value's type without the names of the modules around it. -/
def typeBaseName (v : Value) : String :=
  String.ofList (baseName v.typeName.toList)

mutual

/-- Whether a value holds an integer that is too long to be written. -/
def holdsOverlong : Value → Bool
  | .int n => isOverlong n
  | .array items => itemsHoldOverlong items
  | .object members => membersHoldOverlong members
  | .record _ _ members => membersHoldOverlong members
  | _ => false

/-- Whether one of some items holds an integer that is too long to be written. -/
def itemsHoldOverlong : List Value → Bool
  | [] => false
  | item :: rest => holdsOverlong item || itemsHoldOverlong rest

/-- Whether one of some members holds an integer that is too long to be written. -/
def membersHoldOverlong : List (LooseText × Value) → Bool
  | [] => false
  | (_, value) :: rest => holdsOverlong value || membersHoldOverlong rest

end

end Value

end Tollgate.Json
