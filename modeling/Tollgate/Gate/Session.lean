import Tollgate.Failure
import Tollgate.Payment.Reply

set_option autoImplicit false

/-!
# Sessions

The course of a request as a value. A session either is done or asks something of a
collaborator: that the facilitator verify a payment, that the protected handler answer, that the
facilitator settle a payment. It goes on with whatever comes back, a failure included. What a
session does is thus laid open: which effects it has, in which order, and on what they depend.
-/

namespace Tollgate.Gate

open Tollgate.Payment

/-- What the facilitator is asked about: a payment and the requirement that it is to meet. -/
structure Call where
  payload : Payload
  requirement : Requirement
deriving Repr

/-- A session whose handler answers with a `ρ` and whose result is an `α`. -/
inductive Session (ρ α : Type) where
  | done (result : α)
  | verify (call : Call) (next : Except Failure Verification → Session ρ α)
  | handle (next : Except Failure ρ → Session ρ α)
  | settle (call : Call) (next : Except Failure SettlementReply → Session ρ α)

namespace Session

/-- The session that goes on with another one when it is done. -/
def bind {ρ α β : Type} (s : Session ρ α) (f : α → Session ρ β) : Session ρ β :=
  match s with
  | .done a => f a
  | .verify call next => .verify call (fun reply => (next reply).bind f)
  | .handle next => .handle (fun reply => (next reply).bind f)
  | .settle call next => .settle call (fun reply => (next reply).bind f)

instance {ρ : Type} : Monad (Session ρ) where
  pure := .done
  bind := bind

/-- The result with a function applied to it. -/
def mapResult {ρ α β : Type} (f : α → β) (s : Session ρ α) : Session ρ β :=
  s.bind (fun a => .done (f a))

/-- An effect of a session. -/
inductive Effect where
  | verify (call : Call)
  | handle
  | settle (call : Call)

/-- The collaborators of one session, by what each of them answers. -/
structure Answers (ρ : Type) where
  verify : Call → Except Failure Verification
  handle : Except Failure ρ
  settle : Call → Except Failure SettlementReply

/-- The effects of a session with given collaborators, in order. -/
def effects {ρ α : Type} (answers : Answers ρ) : Session ρ α → List Effect
  | .done _ => []
  | .verify call next => .verify call :: (next (answers.verify call)).effects answers
  | .handle next => .handle :: (next answers.handle).effects answers
  | .settle call next => .settle call :: (next (answers.settle call)).effects answers

/-- The result of a session with given collaborators. -/
def result {ρ α : Type} (answers : Answers ρ) : Session ρ α → α
  | .done a => a
  | .verify call next => (next (answers.verify call)).result answers
  | .handle next => (next answers.handle).result answers
  | .settle call next => (next (answers.settle call)).result answers

/-- Runs a session in a monad in which the collaborators act. -/
def run {m : Type → Type} [Monad m] {ρ α : Type}
    (onVerify : Call → m (Except Failure Verification)) (onHandle : m (Except Failure ρ))
    (onSettle : Call → m (Except Failure SettlementReply)) : Session ρ α → m α
  | .done a => pure a
  | .verify call next => do (next (← onVerify call)).run onVerify onHandle onSettle
  | .handle next => do (next (← onHandle)).run onVerify onHandle onSettle
  | .settle call next => do (next (← onSettle call)).run onVerify onHandle onSettle

end Session

end Tollgate.Gate
