import Tollgate.Chain.Address
import Tollgate.Codec.Ascii
import Tollgate.Codec.Base64
import Tollgate.Codec.Wide
import Tollgate.Json.Reader
import Tollgate.Json.Writer
import Tollgate.Payment.Refusal
import Tollgate.Url.Split

set_option autoImplicit false

/-!
# Failures

Everything that may go wrong, by its cause, and the wording of each. Failures of collaborators
come in families: the conversion of prices treats faulty values and failed arithmetic in ways of
their own.
-/

namespace Tollgate

open Tollgate.Number Tollgate.Text Tollgate.Json Tollgate.Schema Tollgate.Chain Tollgate.Codec
  Tollgate.Payment Tollgate.Url

/-- What kind of failure a collaborator reports. -/
inductive FailureKind where
  | value
  | unicode
  | arithmetic
  | zeroDivision
  | overflow
  | floatingPoint
  | invalidOperation
  | key
  /-- A kind that is treated like no other, by its name. -/
  | other (name : String)
deriving Repr, DecidableEq

/-- Why a payment header cannot be decoded to text. -/
inductive HeaderFault where
  | base64 (fault : Base64.Fault)
  | utf8 (fault : Utf8.Fault)
  | empty
deriving Repr, DecidableEq

/-- The wording of a header fault. -/
def HeaderFault.message (f : HeaderFault) : String :=
  "Invalid X-PAYMENT header format: " ++
    match f with
    | .base64 fault => fault.message
    | .utf8 fault => fault.message
    | .empty => "empty payload"

/-- Why the standard converter does not convert a price. -/
inductive ConversionFault where
  /-- The price is no decimal number, or one that arithmetic refuses. -/
  | arithmetic
  /-- The price as it is read, and what prevents its conversion. -/
  | format (price reason : String)
  /-- The price is of a type that is never converted. -/
  | type (name : String)
  /-- The price is an integer with too many digits. -/
  | overlong
deriving Repr, DecidableEq

/-- The wording of a conversion fault. -/
def ConversionFault.message : ConversionFault → String
  | .arithmetic => ""
  | .format price reason => "Invalid price format: " ++ price ++ ". Error: " ++ reason
  | .type name => "Invalid price type: <class '" ++ name ++ "'>"
  | .overlong => overlongMessage

/-- Why routes cannot be set up. -/
inductive SetupError where
  | invalidConfig (key : String) (rejection : Rejection)
  | invalidPattern (key : String)
  | missingResource
  /-- Arithmetic on the price failed. -/
  | invalidPrice (price : String)
  /-- The price comes to nothing or less. -/
  | notPositive (price : String)
  /-- The converter refused the price, with a message of its own. -/
  | unconvertible (message : LooseText)
deriving Repr, DecidableEq

/-- The wording of a setup error. -/
def SetupError.message : SetupError → LooseText
  | .invalidConfig key rejection =>
      "Invalid route config for " ++ quoted key ++ ": " ++ rejection.message
  | .invalidPattern key => "Invalid route pattern: " ++ key
  | .missingResource => "Either config.resource or resourceFromRequest must be provided"
  | .invalidPrice price => "Invalid price: " ++ price
  | .notPositive price => "Invalid price: " ++ price ++ " must be a positive amount"
  | .unconvertible message => message

/-- Why a facilitator client cannot be made. -/
inductive ClientFault where
  | urlMissing
  | urlInvalid (url : String)
deriving Repr, DecidableEq

/-- The wording of a client fault. -/
def ClientFault.message : ClientFault → String
  | .urlMissing => quoted "url"
  | .urlInvalid url => "Invalid URL " ++ url ++ ", must start with http:// or https://"

/-- Why a request to the facilitator cannot be sent. -/
inductive SendFault where
  | target (fault : TargetFault)
  | header (fault : Ascii.Fault)
  /-- The host is a domain name that does not exist. -/
  | name (fault : LabelFault)
  /-- The URL names no server. -/
  | relative (url : String)
deriving Repr, DecidableEq

/-- The wording of a send fault. -/
def SendFault.message : SendFault → String
  | .target fault => fault.message
  | .header fault => fault.message
  | .name fault => fault.message
  | .relative url => "unknown url type: " ++ quoted url

/-- The facilitator answered with something else than an object: what record was expected, and
the type of what came. -/
structure ReplyMismatch where
  record : String
  found : String
deriving Repr, DecidableEq

/-- The wording of a reply mismatch. -/
def ReplyMismatch.message (m : ReplyMismatch) : String :=
  "x402.types." ++ m.record ++ "() argument after ** must be a mapping, not " ++ m.found

/-- Something that went wrong. -/
inductive Failure where
  /-- A collaborator failed, in its own words. -/
  | raised (kind : FailureKind) (text : String)
  | rejected (rejection : Rejection)
  | unreadable (error : ReadError)
  /-- The bytes of a reply are no text. -/
  | undecodable (fault : Wide.Fault)
  | badHeader (fault : HeaderFault)
  | badAddress (fault : AddressFault)
  /-- The converter returned an amount that is no integer. -/
  | badAmount (fault : IntegerFault)
  /-- A message would have to show an integer with too many digits. -/
  | unshowable
  | unconverted (fault : ConversionFault)
  | unwritable (fault : WriteFault)
  /-- The URL of a request cannot be split. -/
  | unsplit (fault : SplitFault)
  | setup (error : SetupError)
  | client (fault : ClientFault)
  | unsendable (fault : SendFault)
  | mismatched (reply : ReplyMismatch)
  /-- The service has no name. -/
  | titleMissing
  /-- Payment is enforced, but nobody is named to receive it. -/
  | payToMissing
  | refused (refusal : Refusal Failure)
deriving Repr

namespace Failure

/-- The wording of a failure. -/
def message : Failure → LooseText
  | .raised .key text => quoted text
  | .raised _ text => text
  | .rejected r => r.message
  | .unreadable e => e.message
  | .undecodable f => f.message
  | .badHeader f => f.message
  | .badAddress f => f.message
  | .badAmount f => f.message
  | .unshowable => overlongMessage
  | .unconverted f => f.message
  | .unwritable f => f.message
  | .unsplit f => f.message
  | .setup e => e.message
  | .client f => f.message
  | .unsendable f => f.message
  | .mismatched m => m.message
  | .titleMissing => "A title must be provided for OpenAPI, e.g.: \x27My API\x27"
  | .payToMissing => "X402_PAY_TO_ADDRESS must be set when X402_ENABLED is true"
  | .refused ⟨.unreadablePayment cause, _, _⟩ => cause.message
  | .refused ⟨.settlementBroken cause, _, _⟩ => cause.message
  | .refused ⟨reason, _, _⟩ => reason.ownMessage

/-- Whether arithmetic failed. -/
def isArithmetic : Failure → Bool
  | .raised kind _ =>
    match kind with
    | .arithmetic | .zeroDivision | .overflow | .floatingPoint | .invalidOperation => true
    | _ => false
  | .unconverted .arithmetic => true
  | _ => false

/-- Whether a value was at fault. What has not even the type of an address is no such value. -/
def isValueFault : Failure → Bool
  | .raised kind _ =>
    match kind with
    | .value | .unicode => true
    | _ => false
  | .badAddress (.wrongType _) | .badAddress .absent => false
  | .rejected _ | .undecodable _ | .badHeader _ | .badAddress _ | .badAmount _ => true
  | .unshowable | .unsplit _ => true
  | .unwritable .tooDeep => false
  | .unwritable _ => true
  | .unreadable (.tooDeep _) => false
  | .unreadable _ => true
  | .unconverted .arithmetic => false
  | .unconverted _ => true
  | .client (.urlInvalid _) => true
  | .unsendable (.header _) | .unsendable (.name _) | .unsendable (.relative _) => true
  | _ => false

end Failure

namespace Payment.Refusal

/-- The wording of a refusal. -/
def message (r : Refusal Failure) : LooseText :=
  (Failure.refused r).message

/-- The body of the answer to a refused request. -/
def body (r : Refusal Failure) : Value :=
  .object (refusalMembers r.message r.accepts r.payer)

theorem message_eq (r : Refusal Failure) :
    r.message = (r.reason.cause?.map Failure.message).getD r.reason.ownMessage := by
  obtain ⟨reason, accepts, payer⟩ := r
  cases reason <;> simp [message, Failure.message, Reason.cause?]

end Payment.Refusal

end Tollgate
