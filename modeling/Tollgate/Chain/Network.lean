import Tollgate.Number.Integer
import Tollgate.Text.Loose

set_option autoImplicit false

/-!
# Networks

The networks on which payments are accepted, with the stablecoin contract of each and the domain
under which transfers of it are signed.
-/

namespace Tollgate.Chain

open Tollgate.Number Tollgate.Text

/-- The domain under which a token's transfers are signed. -/
structure SigningDomain where
  name : LooseText
  version : LooseText
deriving Repr, DecidableEq

/-- A network. -/
inductive Network where
  | baseSepolia
  | base
  | avalancheFuji
  | avalanche
deriving Repr, DecidableEq

namespace Network

/-- All networks. -/
def all : List Network := [.baseSepolia, .base, .avalancheFuji, .avalanche]

/-- The name of a network. -/
def name : Network → String
  | .baseSepolia => "base-sepolia"
  | .base => "base"
  | .avalancheFuji => "avalanche-fuji"
  | .avalanche => "avalanche"

/-- The number of a network's chain. -/
def chainId : Network → String
  | .baseSepolia => "84532"
  | .base => "8453"
  | .avalancheFuji => "43113"
  | .avalanche => "43114"

/-- The address of the stablecoin contract. -/
def stablecoin : Network → String
  | .baseSepolia => "0x036CbD53842c5426634e7929541eC2318f3dCF7e"
  | .base => "0x833589fCD6eDb6E08f4c7C32D4f71b54bdA02913"
  | .avalancheFuji => "0x5425890298aed601595a70AB815c96711a31Bc65"
  | .avalanche => "0xB97EF9Ef8734C71904D8002F8b6Bc66Dd9c48a6E"

/-- The domain under which transfers of the stablecoin are signed. -/
def stablecoinDomain : Network → SigningDomain
  | .baseSepolia => ⟨"USDC", "2"⟩
  | .base => ⟨"USD Coin", "2"⟩
  | .avalancheFuji => ⟨"USD Coin", "2"⟩
  | .avalanche => ⟨"USDC", "2"⟩

/-- The network of a name. -/
def ofName? (text : String) : Option Network :=
  all.find? (·.name = text)

/-- The network of a chain number, which must be spelled in the plain way. -/
def ofChainId? (text : String) : Option Network :=
  all.find? (·.chainId = text)

/-- Whether a network is meant for trials. -/
def isTestnet : Network → Bool
  | .baseSepolia => true
  | _ => false

theorem mem_all (n : Network) : n ∈ all := by
  cases n <;> decide

theorem ofName?_name (n : Network) : ofName? n.name = some n := by
  cases n <;> decide

end Network

/-- Why a text names no network. -/
inductive NetworkFault where
  /-- The text is a chain number of no known network. -/
  | unknownChain (text : String)
  /-- The text is no known name. -/
  | unknownName (text : String)
deriving Repr, DecidableEq

/-- The network that a text names: any numeral is taken for a chain number. -/
def resolveNetwork (text : String) : Except NetworkFault Network :=
  if isInteger text then
    match Network.ofChainId? text with
    | some n => .ok n
    | none => .error (.unknownChain text)
  else
    match Network.ofName? text with
    | some n => .ok n
    | none => .error (.unknownName text)

end Tollgate.Chain
