import Tollgate.Gate.Session
import Tollgate.Payment.Settlement
import Tollgate.Route.Terms

set_option autoImplicit false

/-!
# Gates

A gate guards one route. It is built once from the route's configuration and keeps the payment
requirement as a template in which only the resource may change from request to request. For a
request it says what has to be paid, acquires the payment that the request carries, and settles
it after the request has been served.
-/

namespace Tollgate.Gate

open Tollgate.Text Tollgate.Json Tollgate.Schema Tollgate.Payment Tollgate.Route

/-- Chooses the requirement that a payment is to meet. -/
abbrev Matcher := List Requirement → Payload → Option Requirement

/-- The first requirement of the payment's scheme and network. -/
def matchSchemeAndNetwork : Matcher := fun requirements payload =>
  requirements.find? (fun r => payload.scheme = r.scheme && payload.network = r.network.name)

/-- What a gate needs from the framework that it serves in. `Request` is the framework's type of
requests. -/
structure Hooks (Request : Type) where
  /-- The payment that a request carries, if it carries one. -/
  extract : Request → Except Failure (Option Payload)
  /-- Whether a paywall can be shown instead of an error where the payment is missing. -/
  paywall? : Option (Request → Bool)
  /-- The resource that a request is for, if the request tells. -/
  resource? : Option (Request → Except Failure LooseText)
  convert : Converter := standardConverter
  select : Matcher := matchSchemeAndNetwork

/-- Where the resource of a requirement comes from. -/
inductive ResourceSource (Request : Type) where
  | static (resource : LooseText)
  | perRequest (resource : Request → Except Failure LooseText)

/-- The resource of a request. -/
def ResourceSource.resource {Request : Type} (source : ResourceSource Request)
    (request : Request) : Except Failure LooseText :=
  match source with
  | .static r => .ok r
  | .perRequest f => f request

/-- A gate. -/
structure Gate (Request : Type) where
  config : Config
  source : ResourceSource Request
  /-- The requirement, but for a resource that depends on the request. -/
  template : Requirement
  hooks : Hooks Request

/-- A payment that was verified and may be settled once the request has been served. -/
structure Acquired where
  payload : Payload
  selected : Requirement
  requirements : List Requirement
deriving Repr

namespace Gate

variable {Request : Type}

/-- Where the resource of a route comes from: the static one if it is given and not empty. -/
def sourceOf? (hooks : Hooks Request) (config : Config) : Option (ResourceSource Request) :=
  match config.staticResource? with
  | some r => some (.static r)
  | none => hooks.resource?.map .perRequest

/-- Builds the gate of a route. That there is a resource is checked before the price is
converted. -/
def build (hooks : Hooks Request) (payTo : String) (config : Config) (method : Option String) :
    Except Failure (Gate Request) :=
  match sourceOf? hooks config with
  | none => .error (.setup .missingResource)
  | some source =>
    (requirement hooks.convert payTo config (config.staticResource?.getD "") method).map
      (fun template => ⟨config, source, template, hooks⟩)

/-- What may be paid for a request. -/
def requirements (g : Gate Request) (request : Request) : Except Failure (List Requirement) :=
  (g.source.resource request).map (fun resource => [{ g.template with resource := resource }])

/-- Whether a paywall is shown to a request without payment. -/
def showsPaywall (g : Gate Request) (request : Request) : Bool :=
  match g.hooks.paywall? with
  | some p => p request
  | none => false

/-- What the facilitator's verification of a payment comes to. -/
def judge (requirements : List Requirement) (call : Call) :
    Except Failure Verification → Except Failure (Option Acquired)
  | .error f => .error f
  | .ok v =>
    if v.isValid then .ok (some ⟨call.payload, call.requirement, requirements⟩)
    else .error (.refused ⟨.unverified v.invalidReason, requirements, v.payer⟩)

/-- Acquires the payment that a request carries. Nothing is acquired where a paywall is to be
shown. -/
def acquire {ρ : Type} (g : Gate Request) (request : Request) (requirements : List Requirement) :
    Session ρ (Except Failure (Option Acquired)) :=
  let refuse (reason : Reason Failure) : Session ρ (Except Failure (Option Acquired)) :=
    .done (.error (.refused ⟨reason, requirements, none⟩))
  match g.hooks.extract request with
  | .error f => refuse (.unreadablePayment f)
  | .ok none => if g.showsPaywall request then .done (.ok none) else refuse .paymentMissing
  | .ok (some payload) =>
    match g.hooks.select requirements payload with
    | none => refuse .unmatched
    | some r =>
      let call : Call := ⟨payload, r⟩
      .verify call (fun reply => .done (judge requirements call reply))

end Gate

namespace Acquired

/-- The settlement of which the facilitator reports success. The transaction and the network
must be given. -/
def settlementOf (reply : SettlementReply) : Except Failure Settlement :=
  let named (name : String) (value : Option LooseText) : Validated LooseText :=
    (text (.ofLoose? value)).under name
  ((Settlement.mk
      <$> named "transaction" reply.transaction
      <*> named "network" reply.network
      <*> .valid reply.payer).orReject "Settlement").mapError Failure.rejected

/-- What the facilitator's answer to a settlement comes to. -/
def conclude (requirements : List Requirement) :
    Except Failure SettlementReply → Except Failure Settlement
  | .error f => .error (.refused ⟨.settlementBroken f, requirements, none⟩)
  | .ok reply =>
    if reply.success then settlementOf reply
    else .error (.refused ⟨.unsettled reply.errorReason, requirements, reply.payer⟩)

/-- Settles the payment. -/
def settle {ρ : Type} (a : Acquired) : Session ρ (Except Failure Settlement) :=
  .settle ⟨a.payload, a.selected⟩ (fun reply => .done (conclude a.requirements reply))

end Acquired

end Tollgate.Gate
