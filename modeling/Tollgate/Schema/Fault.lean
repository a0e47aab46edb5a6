set_option autoImplicit false

/-!
# Faults of a value

What may be wrong with a value that should become a record, with the place of each fault, and
the rejection of a value for all its faults.
-/

namespace Tollgate.Schema

/-- What is wrong at one place of a value. -/
inductive FaultKind where
  | missing
  | notText
  | brokenText
  | notInteger
  | integerUnreadable
  | integerTooLong
  | integerFractional
  | notFinite
  | notBoolean
  | booleanUnreadable
  | notFloat
  | notObject
  | notRecord
  | notRecordOrAttributes
  | notAmongChoices
  | unacceptable
  | urlUnreadable
  | urlScheme
deriving Repr, DecidableEq

/-- The code word of a fault. -/
def FaultKind.word : FaultKind → String
  | .missing => "missing"
  | .notText => "string_type"
  | .brokenText => "string_unicode"
  | .notInteger => "int_type"
  | .integerUnreadable => "int_parsing"
  | .integerTooLong => "int_parsing_size"
  | .integerFractional => "int_from_float"
  | .notFinite => "finite_number"
  | .notBoolean => "bool_type"
  | .booleanUnreadable => "bool_parsing"
  | .notFloat => "float_type"
  | .notObject => "dict_type"
  | .notRecord => "model_type"
  | .notRecordOrAttributes => "model_attributes_type"
  | .notAmongChoices => "literal_error"
  | .unacceptable => "value_error"
  | .urlUnreadable => "url_parsing"
  | .urlScheme => "url_scheme"

/-- A fault and the names that lead to its place from the outside in. -/
structure Fault where
  path : List String
  kind : FaultKind
deriving Repr, DecidableEq

/-- The fault seen from one level further out. -/
def Fault.under (name : String) (f : Fault) : Fault :=
  { f with path := name :: f.path }

/-- A value that was refused as a record of the given name. -/
structure Rejection where
  record : String
  faults : List Fault
deriving Repr, DecidableEq

/-- The headline of a rejection, which is the first line of its full text: how many faults there
are, and of what record. The lines below it, which describe one fault each, are not spelled out;
the faults themselves tell as much. -/
def Rejection.message (r : Rejection) : String :=
  let noun := if r.faults.length = 1 then " validation error for " else " validation errors for "
  toString r.faults.length ++ noun ++ r.record

end Tollgate.Schema
