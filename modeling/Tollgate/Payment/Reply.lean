import Tollgate.Schema.Validated

set_option autoImplicit false

/-!
# Replies of the facilitator

What the facilitator answers when it is asked to verify or to settle a payment.
-/

namespace Tollgate.Payment

open Tollgate.Text Tollgate.Json Tollgate.Schema

/-- Whether a payment is valid, why not, and who pays. -/
structure Verification where
  isValid : Bool
  invalidReason : Option LooseText
  payer : Option LooseText
deriving Repr, DecidableEq

/-- Whether a payment was settled, why not, and the transaction that settled it. -/
structure SettlementReply where
  success : Bool
  errorReason : Option LooseText
  transaction : Option LooseText
  network : Option LooseText
  payer : Option LooseText
deriving Repr, DecidableEq

/-- A text that may be absent or null. -/
def optionalText (members : Members) (name : FieldName) : Validated (Option LooseText) :=
  optional members name none (nullable text)

/-- Reads the answer to a verification. The payer must be given, if only as null. -/
def Verification.read : Value → Validated Verification :=
  recordOrAttributes (fun members =>
    Verification.mk
      <$> required members ⟨"is_valid", "isValid"⟩ boolean
      <*> optionalText members ⟨"invalid_reason", "invalidReason"⟩
      <*> required members (.same "payer") (nullable text))

/-- Reads the answer to a settlement. -/
def SettlementReply.read : Value → Validated SettlementReply :=
  recordOrAttributes (fun members =>
    SettlementReply.mk
      <$> required members (.same "success") boolean
      <*> optionalText members ⟨"error_reason", "errorReason"⟩
      <*> optionalText members (.same "transaction")
      <*> optionalText members (.same "network")
      <*> optionalText members (.same "payer"))

/-- The answer to a verification as a value. -/
def Verification.toValue (v : Verification) : Value :=
  .object
    [("isValid", .bool v.isValid),
     ("invalidReason", .ofLoose? v.invalidReason),
     ("payer", .ofLoose? v.payer)]

/-- The answer to a settlement as a value. -/
def SettlementReply.toValue (r : SettlementReply) : Value :=
  .object
    [("success", .bool r.success),
     ("errorReason", .ofLoose? r.errorReason),
     ("transaction", .ofLoose? r.transaction),
     ("network", .ofLoose? r.network),
     ("payer", .ofLoose? r.payer)]

end Tollgate.Payment
