import Tollgate.Json.Shown
import Tollgate.Payment.Token

set_option autoImplicit false

/-!
# Prices

What a route costs: an amount of a token, or an amount of money as a text, an integer or a
floating-point number. A price keeps the type in which it is given.
-/

namespace Tollgate.Payment

open Tollgate.Number Tollgate.Text Tollgate.Json Tollgate.Schema

/-- A price. -/
inductive Price where
  | token (amount : TokenAmount)
  | text (t : LooseText)
  | int (n : Int)
  | float (x : Binary64)
  /-- A value that is no price; nothing converts it. -/
  | other (v : Value)
deriving Repr

namespace Price

/-- The price that a value is when nothing is read into it. -/
def ofValue : Value → Price
  | .text s => .text s
  | .broken points => .text (.broken points)
  | .int n => .int n
  | .float x => .float x
  | .record type attributes members =>
    match TokenAmount.read (.record type attributes members) with
    | .valid t => .token t
    | .faulty _ => .other (.record type attributes members)
  | v => .other v

/-- Reads a price. A truth value counts as zero or one, an object as an amount of a token; of
anything else the faults of all four kinds of price are told. -/
def read : Value → Validated Price
  | .text s => .valid (.text s)
  | .broken points => .valid (.text (.broken points))
  | .int n => .valid (.int n)
  | .float x => .valid (.float x)
  | .bool b => .valid (.int (if b then 1 else 0))
  | v =>
    match (TokenAmount.read v).under "TokenAmount" with
    | .valid t => .valid (.token t)
    | .faulty faults =>
      .faulty
        (faults ++ [⟨["str"], .notText⟩, ⟨["int"], .notInteger⟩, ⟨["float"], .notFloat⟩])

/-- A price as a value. -/
def toValue : Price → Value
  | .token t => t.toRecord
  | .text t => .ofLoose t
  | .int n => .int n
  | .float x => .float x
  | .other v => v

/-- Whether a price is an amount of money and not of a token. -/
def isMoney : Price → Bool
  | .token _ => false
  | _ => true

/-- A price as a message shows it. -/
def shown (p : Price) : String :=
  String.ofList p.toValue.shown

/-- Whether a price holds an integer that is too long for a message. -/
def isUnshowable (p : Price) : Bool :=
  p.toValue.holdsOverlong

/-- The price that is handed to a converter: a floating-point number becomes its decimal text. -/
def forConversion : Price → Price
  | .float x => .text x.fixedText
  | p => p

end Price

end Tollgate.Payment
