import Tollgate.Proofs.Money

set_option autoImplicit false

/-! # Building a requirement

With the standard converter, the requirement of a route can fail to be told for three reasons. The
price is not converted, which is a setup error; the payee's or the asset's address is malformed; or
the price is an integer with so many digits that the setup error cannot show it, and then there is
no setup error but the failure to show the price. One theorem says which of these it is
(`requirement_outcome`). The last reason is the only one that is not meant (`requirement_overlong`).
-/

namespace Tollgate

/-! ## Addresses -/

namespace Chain

open Tollgate.Text

/-- Forty hexadecimal digits, with a prefix or without. -/
def IsAddress (text : String) : Prop :=
  (withoutPrefix text.toList).all isHexDigit = true ∧ (withoutPrefix text.toList).length = 40

/-- A text that may be broken is an address. A broken one is none. -/
def IsLooseAddress (t : LooseText) : Prop :=
  ∃ text, t = .whole text ∧ IsAddress text

/-- An address is malformed because of one of two faults. -/
theorem exists_canonicalAddress_fault {text : String} (h : ¬ IsAddress text) :
    ∃ fault, canonicalAddress text = .error fault ∧
      (Failure.badAddress fault).isValueFault = true := by
  unfold canonicalAddress addressDigits
  simp only
  by_cases hHex : (withoutPrefix text.toList).all isHexDigit = true
  · have hLength : ¬ (withoutPrefix text.toList).length = 40 := fun hLength => h ⟨hHex, hLength⟩
    rw [if_pos hHex, if_neg hLength]
    exact ⟨_, rfl, rfl⟩
  · rw [if_neg hHex]
    exact ⟨_, rfl, rfl⟩

theorem exists_canonicalAddress {text : String} (h : IsAddress text) :
    ∃ spelled, canonicalAddress text = .ok spelled := by
  obtain ⟨hHex, hLength⟩ := h
  unfold canonicalAddress addressDigits
  simp only
  rw [if_pos hHex, if_pos hLength]
  exact ⟨_, rfl⟩

theorem isAddress_stablecoin (n : Network) : IsAddress n.stablecoin := by
  cases n <;> exact ⟨by decide, by decide⟩

end Chain

/-! ## Prices -/

namespace Payment

open Tollgate.Number Tollgate.Json Tollgate.Chain

/-- The standard converter takes the price, and money comes to a positive amount. -/
def Converts (price : Price) (network : String) : Prop :=
  ∃ conversion, standardConverter price.forConversion network = .ok conversion ∧
    (price.isMoney = true → ∃ n text, 0 < n ∧ IsAmount conversion.amount n text)

/-- What is converted has an amount, and an asset with an address: that of the token, or that of
the stablecoin. -/
theorem exists_atomicAmount {price : Price} {network : String} (h : Converts price network) :
    ∃ a address, atomicAmount standardConverter price network = .ok a ∧
      a.asset = .ofLoose address ∧ (∀ t, price = .token t → address = t.asset.address) ∧
      (price.isMoney = true → IsLooseAddress address) := by
  obtain ⟨conversion, hConvert, hPositive⟩ := h
  rw [atomicAmount_eq, hConvert]
  rcases price.isMoney_or_token with hMoney | ⟨t, rfl⟩
  · obtain ⟨n, text, hn, hAmount⟩ := hPositive hMoney
    have hHanded := (isMoney_forConversion price).trans hMoney
    obtain ⟨stable, units, -, rfl⟩ := exists_inStablecoin_of_isMoney hHanded hConvert
    refine ⟨_, .whole stable.stablecoin, concludeConversion_of_positive hAmount fun _ => hn, rfl,
      ?_, ?_⟩
    · rintro t rfl
      cases hMoney
    · intro _
      exact ⟨_, rfl, isAddress_stablecoin stable⟩
  · cases hConvert
    refine ⟨_, t.asset.address, concludeConversion_of_token rfl, rfl, ?_, ?_⟩
    · intro t' ht'
      rw [Price.token.inj ht']
    · intro hMoney
      cases hMoney

/-- A price that is not converted is a setup error, if that can show the price. -/
theorem exists_setupError {price : Price} {network : String} (h : ¬ Converts price network)
    (hShown : price.isUnshowable = false) :
    ∃ error, atomicAmount standardConverter price network = .error (.setup error) := by
  have hHandedShown := isUnshowable_forConversion hShown
  rw [atomicAmount_eq]
  cases hConvert : standardConverter price.forConversion network with
  | error f =>
      obtain ⟨fault, -, rfl⟩ := mapError_eq_error_iff.mp hConvert
      obtain ⟨error, hError⟩ := exists_setup_of_unconverted hHandedShown fault
      exact ⟨error, congrArg Except.error hError⟩
  | ok conversion =>
      -- it was converted, so it is money, and its amount is not positive
      have hMoney : price.isMoney = true := by
        by_contra hToken
        exact h ⟨conversion, hConvert, fun hMoney => absurd hMoney hToken⟩
      have hHanded := (isMoney_forConversion price).trans hMoney
      obtain ⟨stable, units, hShort, rfl⟩ := exists_inStablecoin_of_isMoney hHanded hConvert
      have hAmount := isAmount_inStablecoin stable hShort
      have hNot : units ≤ 0 := by
        by_contra hPositive
        exact h ⟨_, hConvert, fun _ => ⟨units, _, Int.not_le.mp hPositive, hAmount⟩⟩
      exact ⟨_, concludeConversion_of_not_positive hHandedShown hHanded hAmount hNot⟩

theorem standardConverter_overlong {n : Int} (h : isOverlong n = true) (network : String) :
    standardConverter (.int n) network = .error (.unconverted .overlong) := by
  unfold standardConverter
  simp only [h, if_true]
  rfl

/-- The setup error for an integer with too many digits would have to show it. -/
theorem atomicAmount_overlong {n : Int} (h : isOverlong n = true) (network : String) :
    atomicAmount standardConverter (.int n) network = .error .unshowable := by
  have hUnshowable := (isUnshowable_int n).trans h
  have hNotArithmetic : ¬ (Failure.unconverted .overlong).isArithmetic = true := Bool.false_ne_true
  have hValue : (Failure.unconverted .overlong).isValueFault = true := rfl
  have hFailed : converterError (.int n) (.unconverted .overlong) = .unshowable := by
    unfold converterError priceError
    rw [if_neg hNotArithmetic, if_pos hValue, if_pos hUnshowable]
  rw [atomicAmount_eq]
  show concludeConversion (.int n) (standardConverter (.int n) network) = _
  rw [standardConverter_overlong h]
  exact congrArg Except.error hFailed

theorem not_converts_overlong {n : Int} (h : isOverlong n = true) (network : String) :
    ¬ Converts (.int n) network := by
  rintro ⟨conversion, hConvert, -⟩
  have hFailed := standardConverter_overlong h network
  rw [show (Price.int n).forConversion = .int n from rfl, hFailed] at hConvert
  cases hConvert

end Payment

/-! ## Requirements -/

namespace Route

open Tollgate.Number Tollgate.Text Tollgate.Json Tollgate.Chain Tollgate.Payment

/-- The addresses that a requirement names are well-formed, as far as they are given. -/
def HasAddresses (payTo : String) (c : Config) : Prop :=
  IsAddress payTo ∧ ∀ t, c.price = .token t → IsLooseAddress t.asset.address

/-- What building the requirement of a route comes to. -/
inductive RequirementOutcome (payTo : String) (c : Config) : Except Failure Requirement → Prop
  | told (hPrice : Converts c.price c.network.name) (hAddresses : HasAddresses payTo c)
      (r : Requirement) : RequirementOutcome payTo c (.ok r)
  | price (hPrice : ¬ Converts c.price c.network.name)
      (hShort : ∀ n, c.price = .int n → isOverlong n = false) (error : SetupError) :
      RequirementOutcome payTo c (.error (.setup error))
  | address (hPrice : Converts c.price c.network.name) (hAddresses : ¬ HasAddresses payTo c)
      (fault : AddressFault) (hValue : (Failure.badAddress fault).isValueFault = true) :
      RequirementOutcome payTo c (.error (.badAddress fault))
  | overlong {n : Int} (hPrice : ¬ Converts c.price c.network.name) (hInt : c.price = .int n)
      (hLong : isOverlong n = true) :
      RequirementOutcome payTo c (.error .unshowable)

section Outcome

variable {payTo : String} {resource : LooseText} {c : Config} {method : Option String}

theorem isUnshowable_of_wasRead (hc : c.WasRead)
    (hShort : ∀ n, c.price = .int n → isOverlong n = false) : c.price.isUnshowable = false := by
  obtain ⟨v, hRead⟩ := hc.exists_price
  have hOther : ∀ w, c.price ≠ .other w := by
    intro w hPrice
    rw [hPrice] at hRead
    exact Price.ne_other_of_read hRead
  have hToken : ∀ t, c.price = .token t → isDecimals t.asset.decimals = true := by
    intro t hPrice
    rw [hPrice] at hRead
    exact TokenAmount.isDecimals_of_read (Price.token_of_read hRead)
  apply Bool.eq_false_iff.mpr
  intro hUnshowable
  obtain ⟨n, hPrice, hLong⟩ := (isUnshowable_eq_true_iff hOther hToken).mp hUnshowable
  rw [hShort n hPrice] at hLong
  cases hLong

theorem exists_assetAddress {t : LooseText} (h : IsLooseAddress t) :
    ∃ spelled, assetAddress (.ofLoose t) = .ok spelled := by
  obtain ⟨text, rfl, hAddress⟩ := h
  obtain ⟨spelled, hSpelled⟩ := exists_canonicalAddress hAddress
  exact ⟨spelled, mapError_eq_ok_iff.mpr hSpelled⟩

theorem exists_assetAddress_fault {t : LooseText} (h : ¬ IsLooseAddress t) :
    ∃ fault, assetAddress (.ofLoose t) = .error (.badAddress fault) ∧
      (Failure.badAddress fault).isValueFault = true := by
  cases t with
  | broken points => exact ⟨_, rfl, rfl⟩
  | whole text =>
      have hMalformed : ¬ IsAddress text := fun hAddress => h ⟨text, rfl, hAddress⟩
      obtain ⟨fault, hFault, hValue⟩ := exists_canonicalAddress_fault hMalformed
      exact ⟨fault, mapError_eq_error_iff.mpr ⟨fault, hFault, rfl⟩, hValue⟩

theorem exists_requirement (hc : c.WasRead) (hPrice : Converts c.price c.network.name)
    (hAddresses : HasAddresses payTo c) :
    ∃ r, requirement standardConverter payTo c resource method = .ok r := by
  obtain ⟨hPayTo, hToken⟩ := hAddresses
  obtain ⟨a, address, hAmount, hAsset, hSame, hMoney⟩ := exists_atomicAmount hPrice
  have hAddress : IsLooseAddress address := by
    rcases c.price.isMoney_or_token with hIsMoney | ⟨t, ht⟩
    · exact hMoney hIsMoney
    · rw [hSame t ht]
      exact hToken t ht
  obtain ⟨payee, hPayee⟩ := exists_canonicalAddress hPayTo
  obtain ⟨spelled, hSpelled⟩ := exists_assetAddress hAddress
  cases hOutcome : requirement standardConverter payTo c resource method with
  | ok r => exact ⟨r, rfl⟩
  | error f =>
      rcases (requirement_eq_error_iff hc).mp hOutcome with
        hFailed | ⟨b, hAgain, ⟨fault, hFault, -⟩ | ⟨_, -, hFailed⟩⟩
      · rw [hAmount] at hFailed
        cases hFailed
      · rw [hPayee] at hFault
        cases hFault
      · rw [hAmount] at hAgain
        cases hAgain
        rw [hAsset, hSpelled] at hFailed
        cases hFailed

theorem exists_addressFault (hc : c.WasRead) (hPrice : Converts c.price c.network.name)
    (hAddresses : ¬ HasAddresses payTo c) :
    ∃ fault, requirement standardConverter payTo c resource method =
        .error (.badAddress fault) ∧ (Failure.badAddress fault).isValueFault = true := by
  obtain ⟨a, address, hAmount, hAsset, hSame, -⟩ := exists_atomicAmount hPrice
  by_cases hPayTo : IsAddress payTo
  · have hToken : ∃ t, c.price = .token t ∧ ¬ IsLooseAddress t.asset.address := by
      by_contra hNone
      push Not at hNone
      exact hAddresses ⟨hPayTo, hNone⟩
    obtain ⟨t, ht, hMalformed⟩ := hToken
    obtain ⟨payee, hPayee⟩ := exists_canonicalAddress hPayTo
    obtain ⟨fault, hFault, hValue⟩ := exists_assetAddress_fault hMalformed
    refine ⟨fault, (requirement_eq_error_iff hc).mpr (Or.inr ⟨a, hAmount, Or.inr ?_⟩), hValue⟩
    rw [hAsset, hSame t ht, hFault]
    exact ⟨payee, hPayee, rfl⟩
  · obtain ⟨fault, hFault, hValue⟩ := exists_canonicalAddress_fault hPayTo
    refine ⟨fault, (requirement_eq_error_iff hc).mpr (Or.inr ⟨a, hAmount, Or.inl ?_⟩), hValue⟩
    exact ⟨fault, hFault, rfl⟩

end Outcome

/-- **Why a requirement is not told.** A price that does not convert is a setup error, a malformed
address is a faulty value, and nothing else happens but this: where the price is an integer with
too many digits, it cannot be shown, and that failure takes the place of the setup error. -/
theorem requirement_outcome {c : Config} (hc : c.WasRead) (payTo : String) (resource : LooseText)
    (method : Option String) :
    RequirementOutcome payTo c (requirement standardConverter payTo c resource method) := by
  -- prices that cannot be shown come first: the setup error for them is not told
  by_cases hLong : ∃ n, c.price = .int n ∧ isOverlong n = true
  · obtain ⟨n, hPrice, hLong⟩ := hLong
    have hAmount := atomicAmount_overlong hLong c.network.name
    have hNot := not_converts_overlong hLong c.network.name
    rw [← hPrice] at hAmount hNot
    rw [(requirement_eq_error_iff hc).mpr (Or.inl hAmount)]
    exact .overlong hNot hPrice hLong
  have hShort : ∀ n, c.price = .int n → isOverlong n = false :=
    fun n hPrice => Bool.eq_false_iff.mpr fun hOverlong => hLong ⟨n, hPrice, hOverlong⟩
  by_cases hPrice : Converts c.price c.network.name
  · by_cases hAddresses : HasAddresses payTo c
    · obtain ⟨r, hTold⟩ := exists_requirement hc hPrice hAddresses
      rw [hTold]
      exact .told hPrice hAddresses r
    · obtain ⟨fault, hFailed, hValue⟩ := exists_addressFault hc hPrice hAddresses
      rw [hFailed]
      exact .address hPrice hAddresses fault hValue
  · obtain ⟨error, hError⟩ := exists_setupError hPrice (isUnshowable_of_wasRead hc hShort)
    rw [(requirement_eq_error_iff hc).mpr (Or.inl hError)]
    exact .price hPrice hShort error

/-- Who is paid. -/
def payee : String := "0x209693Bc6afc0C5328bA36FaF03C514EF312287C"

/-- An amount of a token whose address is cut short. -/
def shortToken : TokenAmount :=
  ⟨"2500", ⟨"0x036CbD5384", 6, ⟨"USDC", "2"⟩⟩⟩

theorem requirement_outcome_shortToken :
    (⟨.token shortToken, .base, none⟩ : Config).WasRead ∧
      ∃ fault, requirement standardConverter payee ⟨.token shortToken, .base, none⟩ "" none =
        .error (.badAddress fault) := by
  have hRead : (⟨.token shortToken, .base, none⟩ : Config).WasRead :=
    ⟨.object [("price", shortToken.toValue), ("network", .text "base")], rfl⟩
  have hConverts : Converts (.token shortToken) Network.base.name :=
    ⟨_, rfl, fun hMoney => Bool.noConfusion hMoney⟩
  have hMalformed : ¬ IsLooseAddress shortToken.asset.address := by
    rintro ⟨text, hText, hAddress⟩
    cases hText
    exact absurd hAddress.2 (by decide)
  refine ⟨hRead, ?_⟩
  have hOutcome := requirement_outcome hRead payee "" none
  generalize requirement standardConverter payee _ "" none = outcome at hOutcome ⊢
  cases hOutcome with
  | told hPrice hAddresses r => exact absurd (hAddresses.2 _ rfl) hMalformed
  | price hPrice hShort error => exact absurd hConverts hPrice
  | address hPrice hAddresses fault hValue => exact ⟨fault, rfl⟩
  | overlong hPrice hInt hLong => exact absurd hConverts hPrice

/-- A price with one digit too many. -/
def overpriced : Config :=
  ⟨.int ((10 ^ digitLimit : Nat) : Int), .base, none⟩

/-- **A price with too many digits** is neither converted nor told as a setup error, although every
address is well-formed. -/
theorem requirement_overlong :
    overpriced.WasRead ∧ HasAddresses payee overpriced ∧
      requirement standardConverter payee overpriced "" none = .error .unshowable := by
  have hRead : overpriced.WasRead :=
    ⟨.object [("price", .int ((10 ^ digitLimit : Nat) : Int)), ("network", .text "base")], rfl⟩
  have hLong : isOverlong ((10 ^ digitLimit : Nat) : Int) = true :=
    (isOverlong_signed false _).mpr (Nat.le_refl _)
  have hPayTo : IsAddress payee := ⟨by decide, by decide⟩
  refine ⟨hRead, ⟨hPayTo, fun t hPrice => by cases hPrice⟩, ?_⟩
  exact (requirement_eq_error_iff hRead).mpr (Or.inl (atomicAmount_overlong hLong _))

end Route

end Tollgate
