import Tollgate.Codec.Base64
import Tollgate.Codec.Utf8
import Tollgate.Json.Writer
import Tollgate.Schema.Validated

set_option autoImplicit false

/-!
# Settlements

The result of a successful settlement, and the header text that reports it to the client.
-/

namespace Tollgate.Payment

open Tollgate.Text Tollgate.Json Tollgate.Schema Tollgate.Codec

/-- A settled payment. -/
structure Settlement where
  transaction : LooseText
  network : LooseText
  payer : Option LooseText
deriving Repr, DecidableEq

/-- Reads the mark of success: true, or the number one. -/
def readSuccess : Value → Validated Unit
  | .bool true => .valid ()
  | .int n => if n = 1 then .valid () else .fault .notAmongChoices
  | .float x => if x.toInt? = some 1 then .valid () else .fault .notAmongChoices
  | _ => .fault .notAmongChoices

namespace Settlement

/-- Reads a settlement. -/
def read : Value → Validated Settlement :=
  record "Settlement" (fun members =>
    (fun _ transaction network payer => Settlement.mk transaction network payer)
      <$> optional members (.same "success") () readSuccess
      <*> required members (.same "transaction") text
      <*> required members (.same "network") text
      <*> optional members (.same "payer") none (nullable text))

/-- A settlement as a value. -/
def toValue (s : Settlement) : Value :=
  .object
    [("success", .bool true),
     ("transaction", .ofLoose s.transaction),
     ("network", .ofLoose s.network),
     ("payer", .ofLoose? s.payer)]

/-- The JSON text of a settlement. -/
def json (s : Settlement) : List Char :=
  textOf .spaced s.toValue

/-- The header text that reports a settlement: its JSON text in base 64. -/
def header (s : Settlement) : String :=
  String.ofList (Base64.encode (Utf8.encode s.json))

/-- No settlement is refused by the style of its header, as long as one object may be opened. -/
theorem refusal?_toValue (depth : Nat) (s : Settlement) :
    refusal? (depth + 1) .spaced s.toValue = none := by
  obtain ⟨transaction, network, payer⟩ := s
  cases payer <;>
    simp [toValue, Value.ofLoose?, refusal?, partFault?, membersPartFault?, Style.spaced]

end Settlement

end Tollgate.Payment
