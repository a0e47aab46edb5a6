import Tollgate.Payment.Price
import Tollgate.Payment.Requirement

set_option autoImplicit false

/-!
# Route configurations

What a protected route costs and what its payment requirements tell about it. A configuration is
read from an object whose fields may be spelled in snake or camel case.
-/

namespace Tollgate.Route

open Tollgate.Text Tollgate.Json Tollgate.Schema Tollgate.Chain Tollgate.Payment

/-- Details of a route that its payment requirements advertise. -/
structure Details where
  resource : Option LooseText
  description : Option LooseText
  mimeType : Option LooseText
  maxTimeoutSeconds : Option Int
  inputSchema : Option Members
  outputSchema : Value
  discoverable : Option Bool
  customPaywallHtml : Option LooseText
  /-- Members that no field takes; they are kept as they are. -/
  extras : Members
deriving Repr

/-- The price of a route, the network on which it is paid, and its details. -/
structure Config where
  price : Price
  network : Network
  details : Option Details
deriving Repr

namespace Details

/-- The names of the fields, in their order. -/
def fieldNames : List FieldName :=
  [.same "resource", .same "description", ⟨"mime_type", "mimeType"⟩,
   ⟨"max_timeout_seconds", "maxTimeoutSeconds"⟩, ⟨"input_schema", "inputSchema"⟩,
   ⟨"output_schema", "outputSchema"⟩, .same "discoverable",
   ⟨"custom_paywall_html", "customPaywallHtml"⟩]

/-- The name of the type of details, as messages give it. -/
def typeName : String := "paygate.x402.types.PaymentConfig"

/-- Whether a member is the one that a field takes. -/
def isTaken (members : Members) (spelling : LooseText) : Bool :=
  fieldNames.any (fun name =>
    match name.find? members with
    | some (found, _) => found = spelling
    | none => false)

/-- The members that no field takes. -/
def extrasOf (members : Members) : Members :=
  members.filter (fun (spelling, _) => !isTaken members spelling)

/-- Reads the details of a route. -/
def read : Value → Validated Details :=
  record typeName (fun members =>
    (fun resource description mimeType timeout input output discoverable html =>
        Details.mk resource description mimeType timeout input output discoverable html
          (extrasOf members))
      <$> optional members (.same "resource") none (nullable text)
      <*> optional members (.same "description") none (nullable text)
      <*> optional members ⟨"mime_type", "mimeType"⟩ none (nullable text)
      <*> optional members ⟨"max_timeout_seconds", "maxTimeoutSeconds"⟩ none (nullable integer)
      <*> optional members ⟨"input_schema", "inputSchema"⟩ none (nullable object)
      <*> optional members ⟨"output_schema", "outputSchema"⟩ .null anything
      <*> optional members (.same "discoverable") none (nullable boolean)
      <*> optional members ⟨"custom_paywall_html", "customPaywallHtml"⟩ none (nullable text))

/-- All members of the details, null ones and extras included. -/
def members (d : Details) : Members :=
  ([("resource", .ofLoose? d.resource),
    ("description", .ofLoose? d.description),
    ("mimeType", .ofLoose? d.mimeType),
    ("maxTimeoutSeconds", Value.orNull (d.maxTimeoutSeconds.map .int)),
    ("inputSchema", Value.orNull (d.inputSchema.map .object)),
    ("outputSchema", d.outputSchema),
    ("discoverable", Value.orNull (d.discoverable.map .bool)),
    ("customPaywallHtml", .ofLoose? d.customPaywallHtml)] : Members) ++ d.extras

/-- Details as a record that is built already. -/
def toRecord (d : Details) : Value :=
  .record typeName (fieldNames.map (.whole ·.snake) ++ d.extras.map Prod.fst) d.members

end Details

namespace Config

/-- The name of the type of configurations, as messages give it. -/
def typeName : String := "paygate.x402.types.RouteConfig"

/-- Reads a configuration. The network may be left out. -/
def read : Value → Validated Config :=
  record typeName (fun members =>
    Config.mk
      <$> required members (.same "price") Price.read
      <*> optional members (.same "network") .baseSepolia readNetwork
      <*> optional members (.same "config") none (nullable Details.read))

/-- A configuration as a value. -/
def toValue (c : Config) : Value :=
  .object
    [("price", c.price.toValue),
     ("network", .text c.network.name),
     ("config", Value.orNull (c.details.map (fun d => .object d.members)))]

/-- A configuration as a record that is built already. -/
def toRecord (c : Config) : Value :=
  .record typeName ["price", "network", "config"]
    [("price", c.price.toValue), ("network", .text c.network.name),
     ("config", Value.orNull (c.details.map Details.toRecord))]

end Config

end Tollgate.Route
