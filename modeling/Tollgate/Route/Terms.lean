import Tollgate.Payment.Conversion
import Tollgate.Route.Config

set_option autoImplicit false

/-!
# Terms of a route

From the configuration of a route to its payment requirement. The price is converted, the two
addresses are brought into canonical spelling, defaults are filled in, and the way to call the
route is advertised beside its output schema.
-/

namespace Tollgate.Route

open Tollgate.Number Tollgate.Text Tollgate.Json Tollgate.Schema Tollgate.Chain Tollgate.Payment

/-- The way to call a route: its method if it is restricted to one, whether it may be listed, and
whatever the input schema says, which has the last word. -/
def httpInput (input : Option Members) (discoverable : Option Bool) (method : Option String) :
    Members :=
  let typeMember : Members := [("type", .text "http")]
  let methodMember : Members :=
    match method with
    | some m => if m = "" then [] else [("method", .text m)]
    | none => []
  let listing : Members := [("discoverable", .bool (discoverable.getD true))]
  (typeMember ++ methodMember ++ listing : Members).putAll (input.getD [])

/-- The output schema that is advertised. It stands alone unless an input schema is given or the
route says whether it may be listed. -/
def advertisedSchema (output : Value) (input : Option Members) (discoverable : Option Bool)
    (method : Option String) : Value :=
  if input.isNone && discoverable.isNone then output
  else .object [("input", .object (httpInput input discoverable method)), ("output", output)]

/-- The only payment scheme. -/
def paymentScheme : String := "exact"

/-- The type of a resource that is not said to be of another. -/
def defaultMimeType : String := "application/json"

/-- How long a payment may take where nothing else is said. -/
def defaultMaxTimeoutSeconds : Int := 300

namespace Config

/-- The description, empty if none is given. -/
def description (c : Config) : LooseText :=
  (c.details.bind (·.description)).getD ""

/-- The type of the resource; an empty one counts as none. -/
def mimeType (c : Config) : LooseText :=
  match c.details.bind (·.mimeType) with
  | some m => if m = "" then defaultMimeType else m
  | none => defaultMimeType

/-- How long a payment may take. -/
def maxTimeoutSeconds (c : Config) : Int :=
  (c.details.bind (·.maxTimeoutSeconds)).getD defaultMaxTimeoutSeconds

/-- The advertised output schema. -/
def outputSchema (c : Config) (method : Option String) : Value :=
  match c.details with
  | some d => advertisedSchema d.outputSchema d.inputSchema d.discoverable method
  | none => .null

/-- The static resource; an empty one counts as none. -/
def staticResource? (c : Config) : Option LooseText :=
  match c.details.bind (·.resource) with
  | some r => if r = "" then none else some r
  | none => none

end Config

/-- The canonical spelling of the address of an asset, which a converter may return as a text, a
number or a truth value. -/
def assetAddress (asset : Value) : Except Failure String :=
  let numbered (n : Int) := numberedAddress (String.ofList asset.shown) n
  match asset with
  | .text s => (canonicalAddress s).mapError Failure.badAddress
  | .broken points => .error (.badAddress (.notHex (.broken points)))
  | .int n => if isOverlong n then .error .unshowable else (numbered n).mapError Failure.badAddress
  | .bool b => (numbered (if b then 1 else 0)).mapError Failure.badAddress
  | .null => .error (.badAddress .absent)
  | v => .error (.badAddress (.wrongType v.typeName))

/-- Reads the further details that a converter returned with an amount. -/
def readExtra (domain : Value) : Validated (Option Members) :=
  (nullable object domain).under "extra"

/-- Reads an amount that a converter returned. -/
def readAmount (amount : LooseText) : Validated String :=
  (integerText (.ofLoose amount)).under "max_amount_required"

/-- The payment requirement of a route. Of several problems the price comes first, then the
payee, then the asset, then what the converter returned. -/
def requirement (convert : Converter) (payTo : String) (c : Config) (resource : LooseText)
    (method : Option String) : Except Failure Requirement := do
  let atomic ← atomicAmount convert c.price c.network.name
  let payee ← (canonicalAddress payTo).mapError Failure.badAddress
  let asset ← assetAddress atomic.asset
  let read : Validated Requirement :=
    (fun amount extra => {
        scheme := paymentScheme
        network := c.network
        maxAmountRequired := amount
        resource := resource
        description := c.description
        mimeType := c.mimeType
        outputSchema := c.outputSchema method
        payTo := payee
        maxTimeoutSeconds := c.maxTimeoutSeconds
        asset := asset
        extra := extra })
      <$> readAmount atomic.amount
      <*> readExtra atomic.domain
  (read.orReject "PaymentRequirements").mapError Failure.rejected

end Tollgate.Route
