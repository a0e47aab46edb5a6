import Tollgate.Gate.Gates
import Tollgate.Http.Platform
import Tollgate.Http.Response

set_option autoImplicit false

/-!
# Enforcement

A request to a protected route is answered by the handler only after its payment was verified,
and the handler's answer is handed out only after the payment was settled. Refusals become
answers that tell the client what to pay; a browser without payment is shown the paywall.
-/

namespace Tollgate.Http

open Tollgate.Text Tollgate.Json Tollgate.Payment Tollgate.Route Tollgate.Gate

/-- The status that asks for payment. -/
def paymentRequired : Int := 402

/-- The least status of a failed request. -/
def failedFrom : Int := 400

/-- Gates over requests, with the platform that they stand on and the branding of their paywall. -/
structure Enforcement where
  platform : Platform
  gates : Gates Request
  branding : Branding

/-- How payments, browsers and resources are recognised in requests. -/
def requestHooks (p : Platform) : Hooks Request where
  extract := Request.payment p.readingDepth
  paywall? := some Request.isBrowser
  resource? := some (fun request => (p.url request).map LooseText.whole)

/-- Sets up the enforcement of payment on routes. -/
def Enforcement.build (p : Platform) (payTo : String) (routes : Routes) (branding : Branding) :
    Except Failure Enforcement :=
  (Gates.build (requestHooks p) payTo routes).map (fun gates => ⟨p, gates, branding⟩)

/-- The answer to a refused request. -/
def refusalResponse (p : Platform) (r : Refusal Failure) : Except Failure Response :=
  (Response.ofJson p.writingDepth paymentRequired r.body).mapError Failure.unwritable

/-- What a failure comes to: a refusal is answered, anything else fails. -/
def answerFailure (p : Platform) : Failure → Except Failure Response
  | .refused r => refusalResponse p r
  | f => .error f

/-- The page that a route shows instead of the common paywall; an empty one counts as none. -/
def customPage? (c : Config) : Option LooseText :=
  match c.details.bind (·.customPaywallHtml) with
  | some html => if html = "" then none else some html
  | none => none

/-- The paywall of a gate. -/
def paywallResponse (p : Platform) (g : Gate Request) (requirements : List Requirement)
    (branding : Branding) : Except Failure Response :=
  match customPage? g.config with
  | some html =>
    ((sent html).map (Response.ofText paymentRequired Response.htmlType)).mapError
      Failure.unwritable
  | none =>
    let page := Paywall.ofRequirements "X-PAYMENT header is required" requirements branding
    match Json.write p.writingDepth .spaced page.toValue with
    | .ok _ => .ok ⟨paymentRequired, [("content-type", Response.htmlType)], .paywall page⟩
    | .error fault => .error (.unwritable fault)

/-- What is handed out after the settlement of a payment: the handler's answer with a report of
the settlement, or the failure. -/
def afterSettlement (p : Platform) (response : Response) :
    Except Failure Settlement → Except Failure Response
  | .ok s => .ok (response.withSettlement s)
  | .error f => answerFailure p f

/-- Goes on after the handler: its answer is handed out as it is if it tells of a failed request,
and after the settlement of the payment otherwise. -/
def afterHandler (p : Platform) (a : Acquired) : Except Failure Response →
    Session Response (Except Failure Response)
  | .error f => .done (answerFailure p f)
  | .ok response =>
    if failedFrom ≤ response.status then .done (.ok response)
    else a.settle.mapResult (afterSettlement p response)

/-- Goes on after the payment of a request was acquired, refused, or found missing. -/
def afterAcquisition (p : Platform) (g : Gate Request) (requirements : List Requirement)
    (branding : Branding) :
    Except Failure (Option Acquired) → Session Response (Except Failure Response)
  | .error f => .done (answerFailure p f)
  | .ok none => .done (paywallResponse p g requirements branding)
  | .ok (some a) => .handle (afterHandler p a)

/-- The course of a request to a protected route. -/
def guarded (p : Platform) (g : Gate Request) (branding : Branding) (request : Request) :
    Session Response (Except Failure Response) :=
  match g.requirements request with
  | .error f => .done (answerFailure p f)
  | .ok requirements =>
    (g.acquire request requirements).bind (afterAcquisition p g requirements branding)

/-- The course of a request. -/
def Enforcement.serve (e : Enforcement) (request : Request) :
    Session Response (Except Failure Response) :=
  match e.platform.shownPath request with
  | .error f => .done (.error f)
  | .ok path =>
    match e.gates.find? path request.method with
    | none => .handle (fun reply => .done reply)
    | some g => guarded e.platform g e.branding request

end Tollgate.Http
