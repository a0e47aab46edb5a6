import Tollgate.Payment.Payload
import Tollgate.Payment.Requirement

set_option autoImplicit false

/-!
# Refusals

Why a request is not served for the payment it carries, or carries no payment, and the body of
the answer that tells the client so. The body lists every requirement that would be accepted.
-/

namespace Tollgate.Payment

open Tollgate.Text Tollgate.Json

/-- The reason of a refusal. `κ` is the type of the failures that may be behind it. -/
inductive Reason (κ : Type) where
  /-- The payment could not be extracted from the request. -/
  | unreadablePayment (cause : κ)
  /-- The request carries no payment. -/
  | paymentMissing
  /-- The payment meets none of the requirements. -/
  | unmatched
  /-- The facilitator does not hold the payment valid. -/
  | unverified (reason : Option LooseText)
  /-- The settlement could not be carried out. -/
  | settlementBroken (cause : κ)
  /-- The facilitator did not settle the payment. -/
  | unsettled (reason : Option LooseText)
  /-- A reason stated by someone else. -/
  | stated (message : String)
deriving Repr

/-- A refusal: the reason, the requirements that would be accepted, and who pays if known. -/
structure Refusal (κ : Type) where
  reason : Reason κ
  accepts : List Requirement
  payer : Option LooseText
deriving Repr

/-- The failure behind a reason. -/
def Reason.cause? {κ : Type} : Reason κ → Option κ
  | .unreadablePayment cause => some cause
  | .settlementBroken cause => some cause
  | _ => none

/-- The wording of a reason that has no failure behind it. -/
def Reason.ownMessage {κ : Type} : Reason κ → LooseText
  | .paymentMissing => "X-PAYMENT header is required"
  | .unmatched => "Unable to find matching payment requirements"
  | .unverified none => "Payment verification failed"
  | .unverified (some reason) =>
      if reason.isEmpty then "Payment verification failed" else reason
  | .unsettled reason => (reason.getD "None").after "Settlement failed: "
  | .stated message => message
  | _ => ""

/-- The members of the answer to a refused request. -/
def refusalMembers (message : LooseText) (accepts : List Requirement) (payer : Option LooseText) :
    Members :=
  ([("x402Version", .int protocolVersion),
    ("error", .ofLoose message),
    ("accepts", .array (accepts.map Requirement.toSparseValue))] : Members) ++
    match payer with
    | some p => [("payer", .ofLoose p)]
    | none => []

end Tollgate.Payment
