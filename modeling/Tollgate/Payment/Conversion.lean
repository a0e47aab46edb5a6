import Tollgate.Failure
import Tollgate.Payment.Price

set_option autoImplicit false

/-!
# Converting prices

From a price to an amount in the smallest units of an asset. The standard converter takes money
prices to the stablecoin of the network and passes amounts of a token through; another converter
may stand in for it. `atomicAmount` adds what holds for every converter: floating-point prices
are handed over as decimal text, failures are told as setup errors, and an amount of money must
be positive.
-/

namespace Tollgate.Payment

open Tollgate.Number Tollgate.Text Tollgate.Json Tollgate.Schema Tollgate.Chain

/-- What a converter returns: the amount, the address of the asset, and the domain under which
its transfers are signed. -/
structure Conversion where
  amount : Value
  asset : Value
  domain : Value
deriving Repr

/-- A converter of a price on a network. -/
abbrev Converter := Price → String → Except Failure Conversion

/-- How many decimal places the stablecoin has on every network. -/
def stablecoinPlaces : Nat := 6

/-- The smallest units of the stablecoin that an amount of money comes to; what lies below one
unit is cut off. -/
def stablecoinUnits (price : String) (amount : Decimal) : Except ConversionFault Int :=
  match amount.timesPowerOfTen stablecoinPlaces with
  | .error _ => .error .arithmetic
  | .ok (.nan _) => .error (.format price "cannot convert NaN to integer")
  | .ok (.infinite _) => .error .arithmetic
  | .ok (.finite negative c e) =>
    let units := signed negative (Decimal.wholePart c e)
    if isOverlong units then .error (.format price overlongMessage) else .ok units

/-- A price text without its currency sign. -/
def withoutCurrencySign (text : String) : String :=
  match text.toList with
  | '$' :: rest => String.ofList rest
  | _ => text

/-- Converts a price text to the stablecoin of a network. -/
def convertMoney (text network : String) : Except ConversionFault Conversion :=
  let price := withoutCurrencySign text
  match Decimal.ofText? price with
  | none => .error .arithmetic
  | some amount =>
    match resolveNetwork network with
    | .error (.unknownChain id) => .error (.format price (quoted id))
    | .error (.unknownName name) => .error (.format price ("Unsupported network: " ++ name))
    | .ok n => do
      let units ← stablecoinUnits price amount
      return ⟨.text (String.ofList (intText units)), .text n.stablecoin,
        .object (domainMembers n.stablecoinDomain)⟩

/-- The standard converter. -/
def standardConverter : Converter := fun price network =>
  let converted : Except ConversionFault Conversion :=
    match price with
    | .token t =>
      .ok ⟨.text t.amount, .ofLoose t.asset.address, .object (domainMembers t.asset.domain)⟩
    | .text (.whole s) => convertMoney s network
    | .text (.broken _) => .error .arithmetic
    | .int n =>
      if isOverlong n then .error .overlong
      else convertMoney (String.ofList (intText n)) network
    | .other (.bool _) => .error .arithmetic
    | p => .error (.type p.toValue.typeName)
  converted.mapError Failure.unconverted

/-- The integer that a converted amount is. -/
def amountInteger : Value → Except Failure Int
  | .text s => (readInteger s).mapError Failure.badAmount
  | .broken points =>
    .error (.raised .value ("invalid literal for int() with base 10: " ++ quotedPoints points))
  | .int n => .ok n
  | .bool b => .ok (if b then 1 else 0)
  | .float .nan => .error (.raised .value "cannot convert float NaN to integer")
  | .float x =>
    match x.wholePart? with
    | some n => .ok n
    | none => .error (.raised .overflow "cannot convert float infinity to integer")
  | v => .error (.raised (.other "TypeError")
      ("int() argument must be a string, a bytes-like object or a real number, not '" ++
        v.typeBaseName ++ "'"))

/-- A converted amount as text; a text is kept as it is. -/
def amountText : Value → Except Failure LooseText
  | .text s => .ok (.whole s)
  | .broken points => .ok (.broken points)
  | v => if v.holdsOverlong then .error .unshowable else .ok (.whole (String.ofList v.spelled))

/-- A setup error whose message shows the price, if the price can be shown. -/
def priceError (error : String → SetupError) (price : Price) : Failure :=
  if price.isUnshowable then .unshowable else .setup (error price.shown)

/-- What a failure of the converter becomes. -/
def converterError (price : Price) (f : Failure) : Failure :=
  if f.isArithmetic then priceError .invalidPrice price
  else if f.isValueFault then priceError (fun _ => .unconvertible f.message) price
  else f

/-- An amount of an asset in its smallest units, as text. -/
structure AtomicAmount where
  amount : LooseText
  asset : Value
  domain : Value
deriving Repr

/-- Checks that an amount of money is positive. -/
def checkPositive (price : Price) (amount : Value) : Except Failure Unit :=
  if price.isMoney then do
    let n ← amountInteger amount
    if n ≤ 0 then .error (priceError .notPositive price) else .ok ()
  else .ok ()

/-- What the converter's answer to the price that it was handed comes to. -/
def concludeConversion (handed : Price) :
    Except Failure Conversion → Except Failure AtomicAmount
  | .error f => .error (converterError handed f)
  | .ok c => do
    checkPositive handed c.amount
    let amount ← amountText c.amount
    return ⟨amount, c.asset, c.domain⟩

/-- The amount that a price comes to on a network, with a converter that acts in a monad. -/
def atomicAmountM {m : Type → Type} [Monad m]
    (convert : Price → String → m (Except Failure Conversion)) (price : Price)
    (network : String) : m (Except Failure AtomicAmount) := do
  let handed := price.forConversion
  return concludeConversion handed (← convert handed network)

/-- The amount that a price comes to on a network. -/
def atomicAmount (convert : Converter) (price : Price) (network : String) :
    Except Failure AtomicAmount :=
  let handed := price.forConversion
  match convert handed network with
  | .error f => .error (converterError handed f)
  | .ok c => do
    checkPositive handed c.amount
    let amount ← amountText c.amount
    return ⟨amount, c.asset, c.domain⟩

end Tollgate.Payment
