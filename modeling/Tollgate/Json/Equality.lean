import Tollgate.Json.Value

set_option autoImplicit false

/-!
# Equality of values

When two values count as the same. Numbers are compared by what they stand for, across integers,
floating-point numbers and truth values, so that NaN is not even the same as itself; the members
of an object may come in any order.
-/

namespace Tollgate.Json

open Tollgate.Number Tollgate.Text

namespace Value

/-- The integer that a value stands for, if it stands for one. -/
def integer? : Value → Option Int
  | .bool b => some (if b then 1 else 0)
  | .int n => some n
  | .float x => x.toInt?
  | _ => none

/-- Whether two values stand for one number. -/
def sameNumber (v w : Value) : Bool :=
  match v.integer?, w.integer? with
  | some m, some n => m = n
  | none, none =>
    match v, w with
    | .float x, .float y => x ≠ .nan && x = y
    | _, _ => false
  | _, _ => false

mutual

/-- Whether two values count as the same. -/
def same : Value → Value → Bool
  | .null, .null => true
  | .text s, .text t => s = t
  | .broken s, .broken t => s = t
  | .array items, .array others => sameItems items others
  | .object members, .object others =>
    members.length == others.length && foundIn others members
  | .record type _ members, .record other _ others =>
    type = other && members.length == others.length && foundIn others members
  | v, w => sameNumber v w

/-- Whether items count as the same one by one. -/
def sameItems : List Value → List Value → Bool
  | [], [] => true
  | item :: rest, other :: others => same item other && sameItems rest others
  | _, _ => false

/-- Whether every member is found among others with the same value. -/
def foundIn (others : Members) : List (LooseText × Value) → Bool
  | [] => true
  | (name, value) :: rest =>
    (match others.get? name with
      | some other => same value other
      | none => false) && foundIn others rest

end

end Value

end Tollgate.Json
