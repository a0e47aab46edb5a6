import Tollgate.Chain.Network
import Tollgate.Json.Shown
import Tollgate.Schema.Validated

set_option autoImplicit false

/-!
# Token amounts

A price stated directly in the smallest units of a token, together with the token's contract and
the domain under which its transfers are signed.
-/

namespace Tollgate.Payment

open Tollgate.Number Tollgate.Text Tollgate.Json Tollgate.Schema Tollgate.Chain

/-- A token contract. -/
structure TokenAsset where
  address : LooseText
  decimals : Int
  domain : SigningDomain
deriving Repr, DecidableEq

/-- An amount of a token in its smallest units. -/
structure TokenAmount where
  amount : String
  asset : TokenAsset
deriving Repr, DecidableEq

/-- The name of the type of signing domains, as messages give it. -/
def domainType : String := "x402.types.EIP712Domain"

/-- The name of the type of token contracts, as messages give it. -/
def assetType : String := "x402.types.TokenAsset"

/-- The name of the type of token amounts, as messages give it. -/
def amountType : String := "x402.types.TokenAmount"

/-- Whether a number of decimal places is one that a token may have. -/
def isDecimals (n : Int) : Bool :=
  0 ≤ n && n ≤ 255

/-- Reads a signing domain. -/
def readDomain : Value → Validated SigningDomain :=
  record domainType (fun members =>
    SigningDomain.mk
      <$> required members (.same "name") text
      <*> required members (.same "version") text)

/-- Reads a token contract. -/
def TokenAsset.read : Value → Validated TokenAsset :=
  record assetType (fun members =>
    TokenAsset.mk
      <$> required members (.same "address") text
      <*> required members (.same "decimals") (fun v => (integer v).check .unacceptable isDecimals)
      <*> required members (.same "eip712") readDomain)

/-- A text that an integer can be read from; it is kept as it is given. No broken text is one. -/
def integerText : Value → Validated String
  | .text s => if isInteger s then .valid s else .fault .unacceptable
  | .broken _ => .fault .unacceptable
  | _ => .fault .notText

/-- Reads a token amount. -/
def TokenAmount.read : Value → Validated TokenAmount :=
  record amountType (fun members =>
    TokenAmount.mk
      <$> required members (.same "amount") integerText
      <*> required members (.same "asset") TokenAsset.read)

/-- The members of a signing domain. -/
def domainMembers (d : SigningDomain) : Members :=
  [("name", .ofLoose d.name), ("version", .ofLoose d.version)]

/-- The members of a token contract. -/
def TokenAsset.members (a : TokenAsset) : Members :=
  [("address", .ofLoose a.address), ("decimals", .int a.decimals),
    ("eip712", .object (domainMembers a.domain))]

/-- A token amount as a value. -/
def TokenAmount.toValue (t : TokenAmount) : Value :=
  .object [("amount", .text t.amount), ("asset", .object t.asset.members)]

/-- A token amount as a record that is built already. -/
def TokenAmount.toRecord (t : TokenAmount) : Value :=
  .record amountType ["amount", "asset"]
    [("amount", .text t.amount),
     ("asset", .record assetType ["address", "decimals", "eip712"]
        [("address", .ofLoose t.asset.address), ("decimals", .int t.asset.decimals),
         ("eip712", .record domainType ["name", "version"] (domainMembers t.asset.domain))])]

/-- A token amount as a message shows it. -/
def TokenAmount.shown (t : TokenAmount) : String :=
  String.ofList t.toRecord.shown

end Tollgate.Payment
