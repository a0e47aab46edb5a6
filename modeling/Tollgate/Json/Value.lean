import Tollgate.Number.FloatText
import Tollgate.Text.Loose

set_option autoImplicit false

/-!
# JSON values

The values that JSON text denotes. Integers and floating-point numbers are kept apart, an object
keeps its members in order, and a text that holds an unpaired surrogate, which JSON can spell
with an escape, is no ordinary text and has its own constructor; the name of a member may be such
a text as well. Where values are handed over in a program, a record that is built already may stand
among them; it is written like an object.
-/

namespace Tollgate.Json

open Tollgate.Number Tollgate.Text

/-- A JSON value. -/
inductive Value where
  | null
  | bool (b : Bool)
  | int (n : Int)
  | float (x : Binary64)
  | text (s : String)
  /-- A text with an unpaired surrogate, as code points. -/
  | broken (points : List Nat)
  | array (items : List Value)
  /-- The members in order; no name occurs twice in what a reader returns. -/
  | object (members : List (LooseText × Value))
  /-- A record that is built already: the name of its type, the names of its attributes, and in
  their order the members that it is written with. -/
  | record (type : String) (attributes : List LooseText) (members : List (LooseText × Value))
deriving Repr, Inhabited

/-- The members of an object. -/
abbrev Members := List (LooseText × Value)

namespace Members

/-- The value of a member. -/
def get? (members : Members) (name : LooseText) : Option Value :=
  members.lookup name

/-- Gives a member a value: in its place if the name occurs, at the end otherwise. -/
def put (members : Members) (name : LooseText) (value : Value) : Members :=
  match members with
  | [] => [(name, value)]
  | (n, v) :: rest => if n = name then (name, value) :: rest else (n, v) :: put rest name value

/-- The members with those of another list put one after the other. -/
def putAll (members : Members) (others : Members) : Members :=
  others.foldl (fun acc (name, value) => put acc name value) members

/-- The members whose value is not null. -/
def dropNulls (members : Members) : Members :=
  members.filter (fun (_, v) => match v with | .null => false | _ => true)

@[simp] theorem get?_put_self (members : Members) (name : LooseText) (value : Value) :
    (members.put name value).get? name = some value := by
  induction members with
  | nil => simp [put, get?]
  | cons head rest ih =>
      obtain ⟨n, v⟩ := head
      by_cases h : n = name
      · simp [put, get?, h]
      · have hne : (name == n) = false := beq_false_of_ne (Ne.symm h)
        simpa [put, h, get?, List.lookup_cons, hne] using ih

theorem get?_put_of_ne (members : Members) {name other : LooseText} (value : Value)
    (hne : other ≠ name) : (members.put name value).get? other = members.get? other := by
  have hother : (other == name) = false := beq_false_of_ne hne
  induction members with
  | nil => simp [put, get?, List.lookup_cons, hother]
  | cons head rest ih =>
      obtain ⟨n, v⟩ := head
      by_cases h : n = name
      · subst h
        simp [put, get?, List.lookup_cons, hother]
      · simp only [put, h, if_false, get?, List.lookup_cons]
        split
        · rfl
        · simpa [get?] using ih

end Members

namespace Value

/-- The text, or null for none. -/
def ofText? : Option String → Value
  | some s => .text s
  | none => .null

/-- A text that may be broken, as a value. -/
def ofLoose : LooseText → Value
  | .whole s => .text s
  | .broken points => .broken points

/-- A text that may be broken, or null for none. -/
def ofLoose? : Option LooseText → Value
  | some t => ofLoose t
  | none => .null

/-- The value itself, or null for none. -/
def orNull : Option Value → Value
  | some v => v
  | none => .null

mutual

/-- The value with all records in it written without their null members; objects keep theirs. -/
def sparse : Value → Value
  | .array items => .array (sparseItems items)
  | .object members => .object (sparseMembers members)
  | .record type attributes members =>
    .record type attributes (Members.dropNulls (sparseMembers members))
  | v => v

/-- Items with all records in them written without their null members. -/
def sparseItems : List Value → List Value
  | [] => []
  | item :: rest => sparse item :: sparseItems rest

/-- Members with all records in them written without their null members. -/
def sparseMembers : List (LooseText × Value) → List (LooseText × Value)
  | [] => []
  | (name, value) :: rest => (name, sparse value) :: sparseMembers rest

end

end Value

end Tollgate.Json
