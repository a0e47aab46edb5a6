import Tollgate.Payment.Token

set_option autoImplicit false

/-!
# Payment payloads

What a client attaches to a request in order to pay: an authorization of a transfer and its
signature.
-/

namespace Tollgate.Payment

open Tollgate.Number Tollgate.Text Tollgate.Json Tollgate.Schema

/-- The version of the payment protocol. -/
def protocolVersion : Int := 1

/-- An authorization to transfer an amount within a span of time. -/
structure Authorization where
  sender : LooseText
  recipient : LooseText
  /-- The amount in the smallest units of the asset. -/
  amount : String
  validAfter : LooseText
  validBefore : LooseText
  nonce : LooseText
deriving Repr, DecidableEq

/-- An authorization with its signature. -/
structure SignedAuthorization where
  signature : LooseText
  authorization : Authorization
deriving Repr, DecidableEq

/-- A payment. -/
structure Payload where
  version : Int
  scheme : LooseText
  network : LooseText
  signed : SignedAuthorization
deriving Repr, DecidableEq

/-- Reads an authorization. -/
def Authorization.read : Value → Validated Authorization :=
  recordOrAttributes (fun members =>
    Authorization.mk
      <$> required members ⟨"from_", "from"⟩ text
      <*> required members (.same "to") text
      <*> required members (.same "value") integerText
      <*> required members ⟨"valid_after", "validAfter"⟩ text
      <*> required members ⟨"valid_before", "validBefore"⟩ text
      <*> required members (.same "nonce") text)

/-- Reads an authorization with its signature. -/
def SignedAuthorization.read : Value → Validated SignedAuthorization :=
  record "ExactPaymentPayload" (fun members =>
    SignedAuthorization.mk
      <$> required members (.same "signature") text
      <*> required members (.same "authorization") Authorization.read)

/-- Reads a payment. -/
def Payload.read : Value → Validated Payload :=
  recordOrAttributes (fun members =>
    Payload.mk
      <$> required members ⟨"x402_version", "x402Version"⟩ integer
      <*> required members (.same "scheme") text
      <*> required members (.same "network") text
      <*> required members (.same "payload") SignedAuthorization.read)

/-- An authorization as a value. -/
def Authorization.toValue (a : Authorization) : Value :=
  .object
    [("from", .ofLoose a.sender),
     ("to", .ofLoose a.recipient),
     ("value", .text a.amount),
     ("validAfter", .ofLoose a.validAfter),
     ("validBefore", .ofLoose a.validBefore),
     ("nonce", .ofLoose a.nonce)]

/-- A payment as a value. -/
def Payload.toValue (p : Payload) : Value :=
  .object
    [("x402Version", .int p.version),
     ("scheme", .ofLoose p.scheme),
     ("network", .ofLoose p.network),
     ("payload", .object
        [("signature", .ofLoose p.signed.signature),
         ("authorization", p.signed.authorization.toValue)])]

end Tollgate.Payment
