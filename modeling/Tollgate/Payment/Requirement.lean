import Tollgate.Json.Equality
import Tollgate.Payment.Token

set_option autoImplicit false

/-!
# Payment requirements

What a client has to pay for a resource: how much of which asset, to whom, on which network and
by which scheme.
-/

namespace Tollgate.Payment

open Tollgate.Text Tollgate.Json Tollgate.Schema Tollgate.Chain

/-- What a client has to pay. -/
structure Requirement where
  scheme : LooseText
  network : Network
  /-- The amount in the smallest units of the asset. -/
  maxAmountRequired : String
  resource : LooseText
  description : LooseText
  mimeType : LooseText
  /-- How the resource is called and what it answers; null if that is not advertised. -/
  outputSchema : Value
  payTo : LooseText
  maxTimeoutSeconds : Int
  asset : LooseText
  /-- Further details of the scheme. -/
  extra : Option Members
deriving Repr

/-- Reads the name of a network. -/
def readNetwork : Value → Validated Network :=
  choice Network.ofName?

namespace Requirement

/-- Reads a requirement. -/
def read : Value → Validated Requirement :=
  recordOrAttributes (fun members =>
    Requirement.mk
      <$> required members (.same "scheme") text
      <*> required members (.same "network") readNetwork
      <*> required members ⟨"max_amount_required", "maxAmountRequired"⟩ integerText
      <*> required members (.same "resource") text
      <*> required members (.same "description") text
      <*> required members ⟨"mime_type", "mimeType"⟩ text
      <*> optional members ⟨"output_schema", "outputSchema"⟩ .null anything
      <*> required members ⟨"pay_to", "payTo"⟩ text
      <*> required members ⟨"max_timeout_seconds", "maxTimeoutSeconds"⟩ integer
      <*> required members (.same "asset") text
      <*> optional members (.same "extra") none (nullable object))

/-- All members of a requirement, null ones included. -/
def members (r : Requirement) : Members :=
  [("scheme", .ofLoose r.scheme),
   ("network", .text r.network.name),
   ("maxAmountRequired", .text r.maxAmountRequired),
   ("resource", .ofLoose r.resource),
   ("description", .ofLoose r.description),
   ("mimeType", .ofLoose r.mimeType),
   ("outputSchema", r.outputSchema),
   ("payTo", .ofLoose r.payTo),
   ("maxTimeoutSeconds", .int r.maxTimeoutSeconds),
   ("asset", .ofLoose r.asset),
   ("extra", Value.orNull (r.extra.map .object))]

/-- A requirement as a value. -/
def toValue (r : Requirement) : Value :=
  .object r.members

/-- Whether two requirements count as the same. -/
def same (r s : Requirement) : Bool :=
  r.toValue.same s.toValue

/-- A requirement as a value without its null members, and without those of the records in it.
Nulls in objects stay. -/
def toSparseValue (r : Requirement) : Value :=
  .object (Members.dropNulls (Value.sparseMembers r.members))

end Requirement

end Tollgate.Payment
