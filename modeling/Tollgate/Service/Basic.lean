import Tollgate.Http.Enforcement
import Tollgate.Http.Router
import Tollgate.Service.Settings

set_option autoImplicit false

/-!
# The service

A service with a greeting that is free and a weather report that is to be paid for if the
settings say so. Routes are set up when the first request comes, so that a fault in the price or
in an address shows in the answer to every request.
-/

namespace Tollgate.Service

open Tollgate.Json Tollgate.Schema Tollgate.Payment Tollgate.Route Tollgate.Gate Tollgate.Http
  Tollgate.Facilitator

/-- What protects a service: who receives payments, for which route, through which facilitator,
and how the paywall presents itself. -/
structure Protection where
  payTo : String
  route : Config
  facilitator : Options
  branding : Branding
deriving Repr

/-- A service. -/
structure Service where
  title : String
  /-- What protects the paid report; nothing if it is free. -/
  protection : Option Protection
deriving Repr

/-- The key of the paid report in the route table. -/
def paidKey : String := "GET /weather"

/-- What the paid report tells about itself. -/
def paidDetails : Details where
  resource := none
  description := some "Access to weather data"
  mimeType := none
  maxTimeoutSeconds := none
  inputSchema := none
  outputSchema := .null
  discoverable := none
  customPaywallHtml := none
  extras := []

/-- The configuration of the paid report. -/
def paidRoute (s : Settings) : Except Failure Config :=
  (((fun network => Config.mk (.text s.price) network (some paidDetails))
    <$> (readNetwork (.text s.network)).under "network").orReject "RouteConfig").mapError
      Failure.rejected

/-- What protects a service whose settings enforce payment. -/
def Protection.ofSettings (s : Settings) : Except Failure Protection :=
  match s.payTo with
  | none | some "" => .error .payToMissing
  | some payTo =>
    (paidRoute s).map (fun route => ⟨payTo, route, s.facilitatorOptions, s.branding⟩)

namespace Service

/-- The service of the given settings. It must have a title. -/
def ofSettings (s : Settings) : Except Failure Service :=
  if s.projectName = "" then .error .titleMissing
  else if s.enabled then
    (Protection.ofSettings s).map (fun p => ⟨s.projectName, some p⟩)
  else .ok ⟨s.projectName, none⟩

/-- What the service answers where nothing protects it. -/
def endpoints (s : Service) : List Endpoint :=
  [⟨"GET", "/", .object
      [("status", .text "ok"), ("message", .text ("Welcome to " ++ s.title))]⟩,
   ⟨"GET", "/weather", .object
      [("report", .object [("weather", .text "sunny"), ("temperature", .int 70)])]⟩]

/-- The answer to a request that is let through. -/
def answer (s : Service) (platform : Platform) (r : Request) : Except Failure Response :=
  respond platform s.endpoints r

end Service

/-- The facilitator's client and the enforcement of payment of a protected service. -/
def Protection.setUp (p : Protection) (platform : Platform) :
    Except Failure (Client × Enforcement) := do
  let client ← (Client.ofOptions? (some p.facilitator)).mapError Failure.client
  let enforcement ←
    Enforcement.build platform p.payTo (.ofRows [(paidKey, .config p.route)]) p.branding
  return (client, enforcement)

/-- The course of a request to a service. -/
def Service.serve (s : Service) (platform : Platform) (r : Request) :
    Session Response (Except Failure Response) :=
  match s.protection with
  | none => .handle .done
  | some p =>
    match p.setUp platform with
    | .error f => .done (.error f)
    | .ok (_, enforcement) => enforcement.serve r

/-- Runs the course of a request in a monad in which messages are exchanged with the
facilitator. -/
def Service.run {m : Type → Type} [Monad m] (s : Service) (platform : Platform)
    (exchange : Message → m (Except Failure String)) (r : Request) :
    m (Except Failure Response) :=
  let client : Except Failure Client :=
    match s.protection with
    | none => (Client.ofOptions? none).mapError Failure.client
    | some p => (p.setUp platform).map Prod.fst
  match client with
  | .error f => pure (.error f)
  | .ok c =>
    (s.serve platform r).run (c.verify platform exchange) (pure (s.answer platform r))
      (c.settle platform exchange)

end Tollgate.Service
