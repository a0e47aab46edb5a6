import Tollgate.Json.Value
import Tollgate.Schema.Fault

set_option autoImplicit false

/-!
# Reading records from values

Readers that turn a JSON value into typed data or report every fault, in the order of the
fields. A field has two spellings; the one in camel case counts when both are given. Readers are
lenient where the text or number given stands for exactly one value of the wanted type.
-/

namespace Tollgate.Schema

open Tollgate.Number Tollgate.Text Tollgate.Json

/-- A value of the wanted type, or every fault that was found. -/
inductive Validated (α : Type) where
  | valid (a : α)
  | faulty (faults : List Fault)
deriving Repr

namespace Validated

/-- One fault at this very place. -/
def fault {α : Type} (kind : FaultKind) : Validated α :=
  .faulty [⟨[], kind⟩]

/-- The valid value, changed by a function. -/
def map {α β : Type} (f : α → β) : Validated α → Validated β
  | .valid a => .valid (f a)
  | .faulty fs => .faulty fs

/-- A valid function applied to a valid value; the faults of both otherwise. -/
def apply {α β : Type} : Validated (α → β) → Validated α → Validated β
  | .valid f, .valid a => .valid (f a)
  | .valid _, .faulty fs => .faulty fs
  | .faulty fs, .valid _ => .faulty fs
  | .faulty fs, .faulty gs => .faulty (fs ++ gs)

instance : Applicative Validated where
  pure := .valid
  map := map
  seq f x := apply f (x ())

/-- The result, its faults placed under a name. -/
def under {α : Type} (name : String) : Validated α → Validated α
  | .valid a => .valid a
  | .faulty fs => .faulty (fs.map (Fault.under name))

/-- The result, kept only if it passes a check. -/
def check {α : Type} (kind : FaultKind) (p : α → Bool) : Validated α → Validated α
  | .valid a => if p a then .valid a else fault kind
  | .faulty fs => .faulty fs

/-- The result, or the rejection of the record that was wanted. -/
def orReject {α : Type} (record : String) : Validated α → Except Rejection α
  | .valid a => .ok a
  | .faulty fs => .error ⟨record, fs⟩

end Validated

/-- The two spellings of a field's name. -/
structure FieldName where
  snake : String
  camel : String
deriving Repr, DecidableEq

/-- A name that is spelled the same way in both styles. -/
def FieldName.same (name : String) : FieldName := ⟨name, name⟩

/-- The member that a field name finds, and the spelling that found it. -/
def FieldName.find? (name : FieldName) (members : Members) : Option (String × Value) :=
  match members.get? name.camel with
  | some v => some (name.camel, v)
  | none => (members.get? name.snake).map (fun v => (name.snake, v))

/-- The field of an object, which must be there. -/
def required {α : Type} (members : Members) (name : FieldName) (read : Value → Validated α) :
    Validated α :=
  match name.find? members with
  | some (spelling, v) => (read v).under spelling
  | none => (Validated.fault .missing).under name.camel

/-- The field of an object, with a value to take where it is absent. -/
def optional {α : Type} (members : Members) (name : FieldName) (default : α)
    (read : Value → Validated α) : Validated α :=
  match name.find? members with
  | some (spelling, v) => (read v).under spelling
  | none => .valid default

/-- Reads null as nothing and everything else by the given reader. -/
def nullable {α : Type} (read : Value → Validated α) : Value → Validated (Option α)
  | .null => .valid none
  | v => (read v).map some

/-- Any value. -/
def anything (v : Value) : Validated Value := .valid v

/-- A text, which may be broken. -/
def text : Value → Validated LooseText
  | .text s => .valid (.whole s)
  | .broken points => .valid (.broken points)
  | _ => .fault .notText

/-- How many integers there are on either side of zero in a machine word of 64 bits. -/
def wordLimit : Nat := Nat.pow 2 63

/-- Whether an integer fits into a machine word of 64 bits. -/
def isWord (n : Int) : Bool :=
  -(wordLimit : Int) ≤ n && n < wordLimit

/-- Whether a whole floating-point number counts as an integer: it lies strictly between the ends
of the machine words. -/
def isWordFloat (n : Int) : Bool :=
  isWord n && n != -(wordLimit : Int)

/-- An integer. Truth values count as zero and one, whole floating-point numbers of the size of a
machine word and plain integer numerals as what they stand for. -/
def integer : Value → Validated Int
  | .int n => .valid n
  | .bool b => .valid (if b then 1 else 0)
  | .float x =>
    if x.isFinite then
      match x.toInt? with
      | some n => if isWordFloat n then .valid n else .fault .integerTooLong
      | none => .fault .integerFractional
    else .fault .notFinite
  | .text s =>
    match readPlainInteger s with
    | .ok n => .valid n
    | .error .malformed => .fault .integerUnreadable
    | .error .overlong => .fault .integerTooLong
  | .broken _ => .fault .brokenText
  | _ => .fault .notInteger

/-- The words for false, in lower case. -/
def falseWords : List String := ["0", "off", "f", "false", "n", "no"]

/-- The words for true, in lower case. -/
def trueWords : List String := ["1", "on", "t", "true", "y", "yes"]

/-- The truth value of an integer: zero and one only. -/
def boolOfInt? (n : Int) : Option Bool :=
  if n = 0 then some false else if n = 1 then some true else none

/-- The truth value of a word in any case. -/
def boolOfWord? (s : String) : Option Bool :=
  let word := String.ofList (asciiLower s.toList)
  if word ∈ falseWords then some false else if word ∈ trueWords then some true else none

/-- A truth value, the numbers zero and one, or a word for one. A number beyond the size of a
machine word is of no type that could be one. -/
def boolean : Value → Validated Bool
  | .bool b => .valid b
  | .int n =>
    match boolOfInt? n with
    | some b => .valid b
    | none => .fault (if isWord n then .booleanUnreadable else .notBoolean)
  | .float x =>
    match x.toInt? with
    | some n =>
      match boolOfInt? n with
      | some b => .valid b
      | none => .fault (if isWordFloat n then .booleanUnreadable else .notBoolean)
    | none => .fault .notBoolean
  | .text s =>
    match boolOfWord? s with
    | some b => .valid b
    | none => .fault .booleanUnreadable
  | .broken _ => .fault .brokenText
  | _ => .fault .notBoolean

/-- The members of an object. -/
def object : Value → Validated Members
  | .object members => .valid members
  | _ => .fault .notObject

/-- A record, read from the members of an object or taken from one of the same type that is built
already. -/
def record {α : Type} (type : String) (read : Members → Validated α) : Value → Validated α
  | .object members => read members
  | .record found _ members => if found = type then read members else .fault .notRecord
  | _ => .fault .notRecord

/-- A record, read from the members of an object or from the attributes of any record that is
built already. -/
def recordOrAttributes {α : Type} (read : Members → Validated α) : Value → Validated α
  | .object members => read members
  | .record _ attributes members => read (attributes.zip (members.map Prod.snd))
  | _ => .fault .notRecordOrAttributes

/-- A text for which a reading function succeeds. -/
def choice {α : Type} (find? : String → Option α) : Value → Validated α
  | .text s =>
    match find? s with
    | some a => .valid a
    | none => .fault .notAmongChoices
  | _ => .fault .notAmongChoices

end Tollgate.Schema
