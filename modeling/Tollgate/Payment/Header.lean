import Tollgate.Failure
import Tollgate.Json.Writer

set_option autoImplicit false

/-!
# The payment header

A payment travels as the base 64 form of its JSON text. Reading it is lenient about the base 64
and about JSON layout; whatever is wrong is told by the first stage that fails.
-/

namespace Tollgate.Payment

open Tollgate.Json Tollgate.Schema Tollgate.Codec

/-- What JSON text from outside may hold: values that are nested no deeper than given, which depends
on what surrounds the reader, and integers that are not too long. -/
def outsideLimits (depth : Nat) : Limits where
  depth := depth
  digits := Number.digitLimit

/-- The text that a payment header carries. -/
def headerText (header : String) : Except HeaderFault (List Char) := do
  let bytes ← (Base64.decode header.toList).mapError HeaderFault.base64
  let cs ← (Utf8.decode bytes).mapError HeaderFault.utf8
  if cs.isEmpty then .error .empty else .ok cs

/-- The payment that a payment header carries, where values may be nested so deeply. -/
def Payload.ofHeader (depth : Nat) (header : String) : Except Failure Payload := do
  let cs ← (headerText header).mapError Failure.badHeader
  let value ← (Json.read (outsideLimits depth) (String.ofList cs)).mapError Failure.unreadable
  ((Payload.read value).orReject "PaymentPayload").mapError Failure.rejected

/-- The header text of a payment. -/
def Payload.header (p : Payload) : String :=
  String.ofList (Base64.encode (Utf8.encode (textOf .spaced p.toValue)))

end Tollgate.Payment
