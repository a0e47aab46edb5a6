import Tollgate.Facilitator.Client
import Tollgate.Http.Response
import Tollgate.Schema.Validated
import Tollgate.Url.Basic

set_option autoImplicit false

/-!
# Settings

What a deployment sets through environment variables: the name of the service, whether payment
is enforced, the price and who receives it, the facilitator, and how the paywall presents itself.
A variable that is absent leaves its default.
-/

namespace Tollgate.Service

open Tollgate.Json Tollgate.Schema Tollgate.Url Tollgate.Http Tollgate.Facilitator

/-- Environment variables with their values. -/
abbrev Environment := List (String × String)

/-- The settings of a deployment. -/
structure Settings where
  projectName : String
  logLevel : String
  enabled : Bool
  payTo : Option String
  network : String
  price : String
  facilitatorUrl : String
  facilitatorKey : Option String
  appName : Option String
  appLogo : Option String
  clientKey : Option String
deriving Repr, DecidableEq

/-- The value of a variable as a reader takes it, or the default. -/
def readVariable {α : Type} (env : Environment) (name : String) (default : α)
    (read : String → Validated α) : Validated α :=
  match env.lookup name with
  | some s => (read s).under name
  | none => .valid default

/-- A variable that is taken as it is, or the default. -/
def textVariable (env : Environment) (name default : String) : Validated String :=
  readVariable env name default .valid

/-- A variable that is taken as it is if it is set. -/
def optionalVariable (env : Environment) (name : String) : Validated (Option String) :=
  readVariable env name none (fun s => .valid (some s))

/-- The truth value that a word stands for. -/
def readSwitch (s : String) : Validated Bool :=
  boolean (.text s)

/-- The normal text of the URL of a web service. -/
def readUrl (s : String) : Validated String :=
  match WebUrl.read s with
  | .ok url => .valid url.text
  | .error .unreadable => .fault .urlUnreadable
  | .error .scheme => .fault .urlScheme

namespace Settings

/-- Reads the settings from the environment. -/
def read (env : Environment) : Validated Settings :=
  Settings.mk
    <$> textVariable env "PROJECT_NAME" "x402 Paygate"
    <*> textVariable env "LOG_LEVEL" "INFO"
    <*> readVariable env "X402_ENABLED" false readSwitch
    <*> optionalVariable env "X402_PAY_TO_ADDRESS"
    <*> textVariable env "X402_NETWORK" "base-sepolia"
    <*> textVariable env "X402_PRICE" "$0.01"
    <*> readVariable env "X402_FACILITATOR_URL" Client.standardUrl readUrl
    <*> optionalVariable env "X402_FACILITATOR_API_KEY"
    <*> optionalVariable env "X402_PAYWALL_APP_NAME"
    <*> optionalVariable env "X402_PAYWALL_APP_LOGO"
    <*> optionalVariable env "X402_PAYWALL_CDP_CLIENT_KEY"

/-- The settings of an environment, or why it is refused. -/
def ofEnvironment (env : Environment) : Except Failure Settings :=
  ((read env).orReject "Settings").mapError Failure.rejected

/-- The settings as members named like their variables. -/
def members (s : Settings) : Members :=
  [("PROJECT_NAME", .text s.projectName),
   ("LOG_LEVEL", .text s.logLevel),
   ("X402_ENABLED", .bool s.enabled),
   ("X402_PAY_TO_ADDRESS", .ofText? s.payTo),
   ("X402_NETWORK", .text s.network),
   ("X402_PRICE", .text s.price),
   ("X402_FACILITATOR_URL", .text s.facilitatorUrl),
   ("X402_FACILITATOR_API_KEY", .ofText? s.facilitatorKey),
   ("X402_PAYWALL_APP_NAME", .ofText? s.appName),
   ("X402_PAYWALL_APP_LOGO", .ofText? s.appLogo),
   ("X402_PAYWALL_CDP_CLIENT_KEY", .ofText? s.clientKey)]

/-- The facilitator's URL without slashes at its end. -/
def facilitatorBase (s : Settings) : String :=
  String.ofList (s.facilitatorUrl.toList.reverse.dropWhile (· == '/')).reverse

/-- The headers that authorize the service at its facilitator; none without a key. -/
def facilitatorHeaders (s : Settings) : Option TaskHeaders :=
  match s.facilitatorKey with
  | some key =>
    if key = "" then none
    else
      let authorization : Headers := [("Authorization", "Bearer " ++ key)]
      some ⟨authorization, authorization⟩
  | none => none

/-- How the facilitator is to be reached. -/
def facilitatorOptions (s : Settings) : Options :=
  ⟨some s.facilitatorBase, s.facilitatorHeaders⟩

/-- How the paywall presents itself. -/
def branding (s : Settings) : Branding where
  appName := .text (s.appName.getD "")
  appLogo := .text (s.appLogo.getD "")
  cdpClientKey := .text (s.clientKey.getD "")

end Settings

end Tollgate.Service
