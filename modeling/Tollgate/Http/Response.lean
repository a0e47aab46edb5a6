import Tollgate.Http.Request
import Tollgate.Json.Writer
import Tollgate.Payment.Requirement
import Tollgate.Payment.Settlement

set_option autoImplicit false

/-!
# Responses

What is sent back: a text, or the paywall page with the data that is put into it.
-/

namespace Tollgate.Http

open Tollgate.Number Tollgate.Text Tollgate.Json Tollgate.Payment

/-- How the paywall presents itself. Whatever is given is handed to the page as it is. -/
structure Branding where
  cdpClientKey : Value := .text ""
  appName : Value := .text ""
  appLogo : Value := .text ""
  sessionTokenEndpoint : Value := .text ""
deriving Repr

/-- The data of the paywall page. -/
structure Paywall where
  /-- The amount to pay, in money. -/
  amount : Binary64
  requirements : List Requirement
  isTestnet : Bool
  currentUrl : LooseText
  error : String
  branding : Branding
deriving Repr

/-- How many smallest units make one unit of money on the paywall. -/
def unitsPerMoney : Nat := 1000000

/-- The data of the paywall for requirements, of which the first is presented. -/
def Paywall.ofRequirements (error : String) (requirements : List Requirement)
    (branding : Branding) : Paywall :=
  match requirements.head? with
  | some r =>
    { amount := ((Binary64.ofText? r.maxAmountRequired).getD (.zero false)).divNat unitsPerMoney
      requirements := requirements
      isTestnet := r.network.isTestnet
      currentUrl := r.resource
      error := error
      branding := branding }
  | none =>
    { amount := .zero false
      requirements := requirements
      isTestnet := true
      currentUrl := ""
      error := error
      branding := branding }

/-- The data of the paywall as a value. -/
def Paywall.toValue (p : Paywall) : Value :=
  .object
    [("amount", .float p.amount),
     ("paymentRequirements", .array (p.requirements.map Requirement.toValue)),
     ("testnet", .bool p.isTestnet),
     ("currentUrl", .ofLoose p.currentUrl),
     ("error", .text p.error),
     ("x402_version", .int protocolVersion),
     ("cdpClientKey", p.branding.cdpClientKey),
     ("appName", p.branding.appName),
     ("appLogo", p.branding.appLogo),
     ("sessionTokenEndpoint", p.branding.sessionTokenEndpoint)]

/-- The body of a response. -/
inductive Body where
  | text (s : String)
  | paywall (page : Paywall)
deriving Repr

/-- A response. -/
structure Response where
  status : Int
  headers : Headers
  body : Body
deriving Repr

namespace Response

/-- The type of the body. -/
def contentType (r : Response) : Option String :=
  r.headers.get? "content-type"

/-- A response with a text of a type. -/
def ofText (status : Int) (contentType text : String) : Response :=
  ⟨status, [("content-type", contentType)], .text text⟩

/-- The type of JSON. -/
def jsonType : String := "application/json"

/-- The type of pages. -/
def htmlType : String := "text/html; charset=utf-8"

/-- A response with a value as JSON, which may be nested so deeply. -/
def ofJson (depth : Nat) (status : Int) (value : Value) : Except WriteFault Response :=
  (Json.write depth .compact value).map (ofText status jsonType)

/-- The name of the header that reports a settlement. -/
def settlementHeader : String := "X-PAYMENT-RESPONSE"

/-- The response with the report of a settlement in place of any that it has. -/
def withSettlement (r : Response) (s : Settlement) : Response :=
  { r with headers := r.headers.set settlementHeader s.header }

end Response

end Tollgate.Http
