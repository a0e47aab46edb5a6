import Tollgate.Gate.Session
import Tollgate.Http.Platform
import Tollgate.Json.Encoded
import Tollgate.Json.Shown

set_option autoImplicit false

/-!
# The facilitator's client

The facilitator verifies and settles payments. Its client turns a question into a posted message
and the text that comes back into a reply. How messages travel is left to whoever runs the
client.
-/

namespace Tollgate.Facilitator

open Tollgate.Number Tollgate.Text Tollgate.Json Tollgate.Schema Tollgate.Codec Tollgate.Payment
  Tollgate.Url Tollgate.Http Tollgate.Gate

/-- What the facilitator may be asked to do. -/
inductive Task where
  | verify
  | settle
deriving Repr, DecidableEq

/-- The name of a task, at the end of its URL. -/
def Task.name : Task → String
  | .verify => "verify"
  | .settle => "settle"

/-- Headers for the messages of each task, by exact name. -/
structure TaskHeaders where
  verify : Headers := []
  settle : Headers := []
deriving Repr

/-- The headers of a task. -/
def TaskHeaders.of (headers : TaskHeaders) : Task → Headers
  | .verify => headers.verify
  | .settle => headers.settle

/-- How a facilitator is to be reached. -/
structure Options where
  url : Option String
  headers : Option TaskHeaders
deriving Repr

/-- A client of the facilitator at a URL. -/
structure Client where
  url : String
  headers : TaskHeaders
deriving Repr

namespace Client

/-- The facilitator that is used where none is named. -/
def standardUrl : String := "https://x402.org/facilitator"

/-- Whether a text begins like the URL of a web service. -/
def startsLikeUrl (url : String) : Bool :=
  url.startsWith "http://" || url.startsWith "https://"

/-- A text without the slash at its end, if it has one. -/
def dropSlash (url : String) : String :=
  let cs := url.toList
  if cs.getLast? == some '/' then String.ofList cs.dropLast else url

/-- The client for a URL. -/
def ofUrl (url : String) (headers : TaskHeaders) : Except ClientFault Client :=
  if startsLikeUrl url then .ok ⟨dropSlash url, headers⟩ else .error (.urlInvalid url)

/-- The client for options, or the standard one. Empty options name an empty URL; options that
say something must name the URL. -/
def ofOptions? : Option Options → Except ClientFault Client
  | none => ofUrl standardUrl {}
  | some ⟨some url, headers⟩ => ofUrl url (headers.getD {})
  | some ⟨none, some _⟩ => .error .urlMissing
  | some ⟨none, none⟩ => ofUrl "" {}

end Client

/-- A message to the facilitator. -/
structure Message where
  target : Target
  headers : Headers
  body : Value
deriving Repr

/-- Headers overridden by others of exactly the same name; the rest of the others follow. -/
def overrideHeaders (headers others : Headers) : Headers :=
  headers.map (fun (n, v) => (n, (others.lookup n).getD v)) ++
    others.filter (fun (n, _) => (headers.lookup n).isNone)

/-- Checks that a header can be sent. -/
def checkHeader : String × String → Except Failure Unit
  | (name, value) => do
    let check (s : String) : Except Failure Unit :=
      match Ascii.fault? s.toList with
      | some fault => .error (.unsendable (.header fault))
      | none => .ok ()
    check name
    check value

/-- The header that authorizes a user by name and password. -/
def basicAuthorization (credentials : List UInt8) : String :=
  "Basic " ++ String.ofList (Base64.encode credentials)

/-- What is posted for a question. -/
def questionValue (call : Call) : Value :=
  .object
    [("x402Version", .int call.payload.version),
     ("paymentPayload", call.payload.toValue),
     ("paymentRequirements", call.requirement.toSparseValue)]

namespace Client

/-- The headers of a task's messages. -/
def taskHeaders (c : Client) (task : Task) : Headers :=
  overrideHeaders [("Content-Type", "application/json")] (c.headers.of task)

/-- The message for a question. Credentials in the URL stand above any other authorization. -/
def message (c : Client) (p : Platform) (task : Task) (call : Call) : Except Failure Message := do
  let target ← (Target.read (c.url ++ "/" ++ task.name)).mapError
    (fun fault => .unsendable (.target fault))
  let headers := c.taskHeaders task
  headers.forM checkHeader
  let body := questionValue call
  let _ ← (Json.write p.writingDepth .compact body).mapError Failure.unwritable
  if (headers.get? "Host").isNone then
    if let some fault := target.nameFault? then throw (.unsendable (.name fault))
  let headers :=
    match target.credentials? with
    | some credentials => headers.set "Authorization" (basicAuthorization credentials)
    | none => headers
  return ⟨target, headers, body⟩

end Client

/-- Reads a reply from the body of an answer. -/
def readReply {α : Type} (p : Platform) (record : String) (read : Value → Validated α)
    (body : String) : Except Failure α := do
  let points ← (decodeBody body).mapError Failure.undecodable
  let document := Json.readCodePoints (outsideLimits p.readingDepth) points
  match ← document.mapError Failure.unreadable with
  | .object members => ((read (.object members)).orReject record).mapError Failure.rejected
  | other => .error (.mismatched ⟨record, other.typeName⟩)

namespace Client

variable {m : Type → Type} [Monad m]

/-- Asks the facilitator by exchanging a message for the text of an answer. Nothing is made of an
answer from nowhere. -/
def ask {α : Type} (c : Client) (p : Platform) (task : Task) (read : String → Except Failure α)
    (exchange : Message → m (Except Failure String)) (call : Call) : m (Except Failure α) :=
  match c.message p task call with
  | .error f => pure (.error f)
  | .ok message => do
    let answer ← exchange message
    return answer.bind (fun body =>
      if message.target.isAbsolute then read body
      else .error (.unsendable (.relative message.target.text)))

/-- Asks the facilitator to verify a payment. -/
def verify (c : Client) (p : Platform) (exchange : Message → m (Except Failure String))
    (call : Call) : m (Except Failure Verification) :=
  c.ask p .verify (readReply p "VerifyResponse" Verification.read) exchange call

/-- Asks the facilitator to settle a payment. -/
def settle (c : Client) (p : Platform) (exchange : Message → m (Except Failure String))
    (call : Call) : m (Except Failure SettlementReply) :=
  c.ask p .settle (readReply p "SettleResponse" SettlementReply.read) exchange call

end Client

end Tollgate.Facilitator
