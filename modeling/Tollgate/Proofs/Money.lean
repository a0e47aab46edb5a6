import Tollgate.Proofs.Conversion
import Tollgate.Proofs.Problems
import Tollgate.Proofs.Spelled
import Tollgate.Proofs.Worth

set_option autoImplicit false

/-! # Prices in money

A price in money may be a text, an integer or a floating-point number. Each of them denotes a
decimal (`Price.Denotes`), a floating-point number the one that its shortest text spells. The
converter may be handed another text: an integer is written out, and a floating-point number is
written without exponent. It is worth the same, and zeros behind the digits do not make the
product inexact (`Spelling`, `exists_spelling`). So the amount depends on the worth of the price
alone, whatever the type of the price (`atomicAmount_of_denotes`).
-/

namespace Tollgate

namespace Payment

open Tollgate.Number Tollgate.Text Tollgate.Json Tollgate.Chain

/-! ## What prices denote -/

/-- The price denotes the decimal `± c · 10 ^ e`. -/
inductive Price.Denotes : Price → Bool → Nat → Int → Prop
  | text {cs : List Char} {negative : Bool} {c : Nat} {e : Int}
      (h : SpellsDecimal cs negative c e) :
      Denotes (.text (String.ofList cs)) negative c e
  | currency {cs : List Char} {negative : Bool} {c : Nat} {e : Int}
      (h : SpellsDecimal cs negative c e) :
      Denotes (.text (String.ofList ('$' :: cs))) negative c e
  | int (n : Int) : Denotes (.int n) (decide (n < 0)) n.natAbs 0
  | float {x : Binary64} {negative : Bool} {c : Nat} {e : Int} (hFinite : x.isFinite = true)
      (h : SpellsDecimal x.shortText.toList negative c e) : Denotes (.float x) negative c e

/-- How the converter is handed a price in money: as a text that spells a decimal of 28 digits at
most, with zeros written behind it. -/
structure Spelling (price : Price) where
  text : String
  negative : Bool
  coefficient : Nat
  exponent : Int
  zeros : Nat
  converted : ∀ network, standardConverter price.forConversion network =
    (convertMoney text network).mapError Failure.unconverted
  shown : price.forConversion.isUnshowable = false
  money : price.forConversion.isMoney = true
  few : digitCount coefficient ≤ Decimal.precision
  spells : SpellsDecimal (withoutCurrencySign text).toList negative
    (coefficient * Nat.pow 10 zeros) (exponent - zeros)
  /-- The zeros do not go beyond the first place behind the point. -/
  bounded : zeros = 0 ∨ -1 ≤ exponent - zeros

/-- What the text is worth that the converter is handed. -/
def Spelling.worth {price : Price} (s : Spelling price) : ℚ :=
  Decimal.worth s.negative s.coefficient s.exponent

/-- The units of the stablecoin that a worth comes to; what lies below one unit is cut off. -/
def unitsOf (worth : ℚ) : Int :=
  truncated (worth * 10 ^ stablecoinPlaces)

/-! ## Spellings -/

theorem withoutCurrencySign_currency (cs : List Char) :
    withoutCurrencySign (String.ofList ('$' :: cs)) = String.ofList cs := by
  unfold withoutCurrencySign
  rw [String.toList_ofList]
  rfl

/-- Decimals have no currency sign. -/
theorem withoutCurrencySign_of_spells {cs : List Char} {negative : Bool} {c : Nat} {e : Int}
    (h : SpellsDecimal cs negative c e) :
    withoutCurrencySign (String.ofList cs) = String.ofList cs := by
  unfold withoutCurrencySign
  rw [String.toList_ofList]
  split
  · rename_i rest
    rcases h.chars '$' List.mem_cons_self with hBlank | hUnderscore | hChar
    · exact absurd hBlank (by decide)
    · exact absurd hUnderscore (by decide)
    · exact absurd hChar (not_isNumeralChar (by decide) (by decide))
  · rfl

theorem standardConverter_text (text network : String) :
    standardConverter (.text text) network =
      (convertMoney text network).mapError Failure.unconverted :=
  rfl

theorem standardConverter_int {n : Int} (h : isOverlong n = false) (network : String) :
    standardConverter (.int n) network =
      (convertMoney (String.ofList (intText n)) network).mapError Failure.unconverted := by
  unfold standardConverter
  simp only [h, Bool.false_eq_true, if_false]

/-- **How a price in money is handed over**: as a text that spells the same digits. Only the zeros
behind them may be others, where the point is moved to write a floating-point number without
exponent. -/
theorem exists_handed {price : Price} {negative : Bool} {c : Nat} {e : Int}
    (h : price.Denotes negative c e) (hShown : price.forConversion.isUnshowable = false) :
    ∃ (text : String) (digits : Nat) (x : Int) (j j' : Nat),
      (∀ network, standardConverter price.forConversion network =
        (convertMoney text network).mapError Failure.unconverted) ∧
      c = digits * Nat.pow 10 j ∧ e = x - j ∧
      SpellsDecimal (withoutCurrencySign text).toList negative (digits * Nat.pow 10 j') (x - j') ∧
      (j' = 0 ∨ -1 ≤ x - j') := by
  have hNone : c = c * Nat.pow 10 0 ∧ e = e - (0 : Nat) := by
    rw [Int.natCast_zero, Int.sub_zero]
    exact ⟨(Nat.mul_one c).symm, rfl⟩
  cases h with
  | text h =>
      refine ⟨_, c, e, 0, 0, standardConverter_text _, hNone.1, hNone.2, ?_, Or.inl rfl⟩
      rwa [withoutCurrencySign_of_spells h, String.toList_ofList, ← hNone.1, ← hNone.2]
  | currency h =>
      refine ⟨_, c, e, 0, 0, standardConverter_text _, hNone.1, hNone.2, ?_, Or.inl rfl⟩
      rwa [withoutCurrencySign_currency, String.toList_ofList, ← hNone.1, ← hNone.2]
  | int n =>
      have hSpells := spellsDecimal_intText n
      have hShort : isOverlong n = false := (isUnshowable_int n).symm.trans hShown
      refine ⟨_, n.natAbs, 0, 0, 0, standardConverter_int hShort, hNone.1, hNone.2, ?_, Or.inl rfl⟩
      rwa [withoutCurrencySign_of_spells hSpells, String.toList_ofList, ← hNone.1, ← hNone.2]
  | float hFinite h =>
      rename_i x
      cases x with
      | infinite negative => cases hFinite
      | nan => cases hFinite
      | finite negative' m q canonical =>
          -- the price denotes what its shortest text spells; its other text spells as much
          obtain ⟨⟨j, hShort⟩, j', hFixed, hBound⟩ := exists_spells_float negative' m q canonical
          obtain ⟨rfl, rfl, rfl⟩ := h.unique hShort
          have hText := withoutCurrencySign_of_spells hFixed
          rw [String.ofList_toList] at hText
          refine ⟨_, _, _, j, j', standardConverter_text _, rfl, rfl, ?_, hBound⟩
          rw [hText]
          exact hFixed

theorem Price.Denotes.isMoney {price : Price} {negative : Bool} {c : Nat} {e : Int}
    (h : price.Denotes negative c e) : price.isMoney = true := by
  cases h <;> rfl

/-- An integer of 28 digits can be shown, and so can all other prices in money. -/
theorem Price.Denotes.isUnshowable_of_few {price : Price} {negative : Bool} {c : Nat} {e : Int}
    (h : price.Denotes negative c e) (hFew : digitCount c ≤ Decimal.precision) :
    price.isUnshowable = false := by
  cases h with
  | int n =>
      have hLimit : Decimal.precision ≤ digitLimit := by decide
      rw [isUnshowable_int]
      exact isOverlong_eq_false_iff_digitCount.mpr (Nat.le_trans hFew hLimit)
  | _ => rfl

/-- **Every price in money is handed over as a text of the same worth.** -/
theorem exists_spelling {price : Price} {negative : Bool} {c : Nat} {e : Int}
    (h : price.Denotes negative c e) (hFew : digitCount c ≤ Decimal.precision) :
    ∃ s : Spelling price, s.worth = Decimal.worth negative c e := by
  have hShown := isUnshowable_forConversion (h.isUnshowable_of_few hFew)
  obtain ⟨text, digits, x, j, j', hConverted, rfl, rfl, hSpells, hBound⟩ := exists_handed h hShown
  have hMoney := (isMoney_forConversion price).trans h.isMoney
  exact ⟨⟨text, negative, digits, x, j', hConverted, hShown, hMoney,
    (digitCount_le_padded digits j).trans hFew, hSpells, hBound⟩,
    (Decimal.worth_padded negative digits j x).symm⟩

/-! ## Amounts -/

theorem resolveNetwork_name (network : Network) : resolveNetwork network.name = .ok network := by
  cases network <;> rfl

/-- An amount of the stablecoin of a network. -/
def inStablecoin (network : Network) (units : Int) : Conversion :=
  ⟨.text (String.ofList (intText units)), .text network.stablecoin,
    .object (domainMembers network.stablecoinDomain)⟩

theorem isAmount_inStablecoin (network : Network) {units : Int} (h : isOverlong units = false) :
    IsAmount (inStablecoin network units).amount units (String.ofList (intText units)) :=
  .text (readInteger_intText h)

section Units

variable {price : Price} (s : Spelling price)

theorem Spelling.unitsOf_worth : unitsOf s.worth =
    signed s.negative (Decimal.wholePart s.coefficient (s.exponent + stablecoinPlaces)) :=
  Decimal.truncated_worth _ _ _ _

/-- A decimal whose exponent is beyond the bounds of what is read comes to nothing, or to more
than can be written. -/
theorem Spelling.units_of_not_isReadable (h : Decimal.isReadable
    (s.coefficient * Nat.pow 10 s.zeros) (s.exponent - s.zeros) = false) :
    unitsOf s.worth = 0 ∨ isOverlong (unitsOf s.worth) = true := by
  have hFew : digitCount s.coefficient ≤ 28 := s.few
  have hBounded := s.bounded
  rw [s.unitsOf_worth]
  by_cases hZero : s.coefficient = 0
  · left
    rw [hZero, Decimal.wholePart_zero]
    cases s.negative <;> rfl
  have hLeading := Decimal.leadingExponent_padded hZero s.zeros s.exponent
  have hPlaces : Decimal.leadingExponent s.coefficient (s.exponent + stablecoinPlaces) =
      Decimal.leadingExponent s.coefficient s.exponent + 6 := by
    unfold Decimal.leadingExponent stablecoinPlaces
    omega
  unfold Decimal.isReadable at h
  rw [Bool.and_eq_false_iff, decide_eq_false_iff_not, decide_eq_false_iff_not, hLeading] at h
  rcases h with hLow | hHigh
  · -- there are no zeros below the point, so the number itself is tiny
    left
    have hTiny : Decimal.leadingExponent s.coefficient (s.exponent + stablecoinPlaces) < 0 := by
      rw [hPlaces]
      unfold Decimal.minReadExponent at hLow
      unfold Decimal.leadingExponent
      omega
    rw [Decimal.wholePart_eq_zero hTiny]
    cases s.negative <;> rfl
  · right
    have hLimit : (digitLimit : Int) ≤ Decimal.maxReadExponent := by decide
    have hMany := Decimal.pow_le_wholePart (n := digitLimit) hZero
      (e := s.exponent + stablecoinPlaces) (by rw [hPlaces]; omega)
    exact (isOverlong_signed _ _).mpr hMany

/-- **The amount of a price in money** is its worth in units, if they can be written. -/
theorem Spelling.convertMoney_outcome (network : Network) :
    (convertMoney s.text network.name = .ok (inStablecoin network (unitsOf s.worth)) ∧
        isOverlong (unitsOf s.worth) = false) ∨
      ((∃ fault, convertMoney s.text network.name = .error fault) ∧
        (unitsOf s.worth = 0 ∨ isOverlong (unitsOf s.worth) = true)) := by
  have hRead := ofText?_of_spells s.spells
  have hUnits := stablecoinUnits_of_padded (withoutCurrencySign s.text) s.negative s.few s.zeros
    s.exponent s.unitsOf_worth
  unfold convertMoney
  simp only [resolveNetwork_name]
  by_cases hReadable : Decimal.isReadable (s.coefficient * Nat.pow 10 s.zeros)
      (s.exponent - s.zeros) = true
  · rw [if_pos hReadable] at hRead
    rw [hRead]
    simp only
    by_cases hOverlong : isOverlong (unitsOf s.worth) = true
    · obtain ⟨fault, hFault⟩ := hUnits.2 hOverlong
      rw [hFault]
      exact Or.inr ⟨⟨fault, rfl⟩, Or.inr hOverlong⟩
    · have hShort := Bool.eq_false_iff.mpr hOverlong
      rw [hUnits.1 hShort]
      exact Or.inl ⟨rfl, hShort⟩
  · rw [if_neg hReadable] at hRead
    rw [hRead]
    exact Or.inr ⟨⟨_, rfl⟩, s.units_of_not_isReadable (Bool.eq_false_iff.mpr hReadable)⟩

end Units

/-! ## Outcomes -/

/-- What is charged on a network for a price in money. -/
def stablecoinAmount (network : Network) (units : Nat) : AtomicAmount :=
  ⟨String.ofList (natText units), .text network.stablecoin,
    .object (domainMembers network.stablecoinDomain)⟩

theorem intText_of_pos {n : Int} (h : 1 ≤ n) : intText n = natText n.toNat := by
  have hNotNegative : ¬ n < 0 := by omega
  have hAbs : n.natAbs = n.toNat := by omega
  unfold intText
  rw [if_neg hNotNegative, hAbs]

theorem isOverlong_iff_of_pos {n : Int} (h : 1 ≤ n) :
    isOverlong n = false ↔ n < 10 ^ digitLimit := by
  have hPow : ((10 ^ digitLimit : ℕ) : Int) = 10 ^ digitLimit := Nat.cast_pow 10 digitLimit
  rw [isOverlong_eq_false_iff, Nat.pow_eq, ← hPow]
  -- the limit stays a letter, or the power would be computed
  generalize 10 ^ digitLimit = limit
  omega

/-- Whatever keeps the standard converter from converting a price is told as a setup error. -/
theorem exists_setup_of_unconverted {handed : Price} (hShown : handed.isUnshowable = false)
    (fault : ConversionFault) :
    ∃ error, converterError handed (.unconverted fault) = .setup error := by
  by_cases hArithmetic : (Failure.unconverted fault).isArithmetic = true
  · exact ⟨_, converterError_of_isArithmetic hShown hArithmetic⟩
  · have hValue : (Failure.unconverted fault).isValueFault = true := by
      cases fault with
      | arithmetic => exact absurd rfl hArithmetic
      | _ => rfl
    exact ⟨_, converterError_of_isValueFault hShown (Bool.eq_false_iff.mpr hArithmetic) hValue⟩

theorem Spelling.atomicAmount_outcome {price : Price} (s : Spelling price) (network : Network) :
    (1 ≤ unitsOf s.worth ∧ unitsOf s.worth < 10 ^ digitLimit →
        atomicAmount standardConverter price network.name =
          .ok (stablecoinAmount network (unitsOf s.worth).toNat)) ∧
      (¬ (1 ≤ unitsOf s.worth ∧ unitsOf s.worth < 10 ^ digitLimit) →
        ∃ error, atomicAmount standardConverter price network.name = .error (.setup error)) := by
  rw [atomicAmount_eq, s.converted]
  rcases s.convertMoney_outcome network with ⟨hConvert, hShort⟩ | ⟨⟨fault, hConvert⟩, hNone⟩
  · have hAmount := isAmount_inStablecoin network hShort
    rw [hConvert]
    constructor
    · rintro ⟨hPositive, -⟩
      have hTaken := concludeConversion_of_positive hAmount
        (fun _ : price.forConversion.isMoney = true => hPositive)
      rw [intText_of_pos hPositive] at hTaken
      exact hTaken
    · intro hRange
      have hNot : unitsOf s.worth ≤ 0 := by
        by_contra hPositive
        have hOne : 1 ≤ unitsOf s.worth := by omega
        exact hRange ⟨hOne, (isOverlong_iff_of_pos hOne).mp hShort⟩
      exact ⟨_, concludeConversion_of_not_positive s.shown s.money hAmount hNot⟩
  · rw [hConvert]
    constructor
    · rintro ⟨hPositive, hLimit⟩
      rcases hNone with hZero | hOverlong
      · omega
      · rw [(isOverlong_iff_of_pos hPositive).mpr hLimit] at hOverlong
        cases hOverlong
    · intro _
      obtain ⟨error, hError⟩ := exists_setup_of_unconverted s.shown fault
      exact ⟨error, congrArg Except.error hError⟩

theorem atomicAmount_of_denotes (network : Network) {price : Price} {negative : Bool} {c : Nat}
    {e : Int} (hDenotes : price.Denotes negative c e) (hFew : digitCount c ≤ Decimal.precision) :
    (1 ≤ unitsOf (Decimal.worth negative c e) ∧
        unitsOf (Decimal.worth negative c e) < 10 ^ digitLimit →
      atomicAmount standardConverter price network.name =
        .ok (stablecoinAmount network (unitsOf (Decimal.worth negative c e)).toNat)) ∧
      (¬ (1 ≤ unitsOf (Decimal.worth negative c e) ∧
          unitsOf (Decimal.worth negative c e) < 10 ^ digitLimit) →
        ∃ error, atomicAmount standardConverter price network.name = .error (.setup error)) := by
  obtain ⟨s, hWorth⟩ := exists_spelling hDenotes hFew
  rw [← hWorth]
  exact s.atomicAmount_outcome network

/-! ## Positive amounts -/

/-- Units are the whole part of a product, and they can be written. -/
theorem exists_product {text : String} {d : Decimal} {units : Int}
    (h : stablecoinUnits text d = .ok units) :
    isOverlong units = false ∧ ∃ negative c e,
      d.timesPowerOfTen stablecoinPlaces = .ok (.finite negative c e) ∧
        units = signed negative (Decimal.wholePart c e) := by
  unfold stablecoinUnits at h
  split at h
  · cases h
  · cases h
  · cases h
  · rename_i hProduct
    simp only at h
    split at h
    · cases h
    · rename_i hShort
      cases h
      exact ⟨Bool.eq_false_iff.mpr hShort, _, _, _, hProduct, rfl⟩

/-- Money is converted to units of the stablecoin of some network. -/
theorem exists_inStablecoin {text network : String} {conversion : Conversion}
    (h : convertMoney text network = .ok conversion) :
    ∃ amount n units, Decimal.ofText? (withoutCurrencySign text) = some amount ∧
      stablecoinUnits (withoutCurrencySign text) amount = .ok units ∧
      conversion = inStablecoin n units := by
  unfold convertMoney at h
  cases hAmount : Decimal.ofText? (withoutCurrencySign text) with
  | none =>
      simp only [hAmount] at h
      cases h
  | some amount =>
      simp only [hAmount] at h
      cases hNetwork : resolveNetwork network with
      | error fault =>
          rw [hNetwork] at h
          cases fault <;> cases h
      | ok n =>
          rw [hNetwork] at h
          obtain ⟨units, hUnits, hRest⟩ := bind_eq_ok_iff.mp h
          cases hRest
          exact ⟨amount, n, units, rfl, hUnits, rfl⟩

/-- A price in money that is converted can be shown. -/
theorem exists_convertMoney {price : Price} (hMoney : price.isMoney = true) {network : String}
    {conversion : Conversion} (h : standardConverter price network = .ok conversion) :
    price.isUnshowable = false ∧ ∃ text, convertMoney text network = .ok conversion := by
  have hConverted := mapError_eq_ok_iff.mp h
  cases price with
  | token t => cases hMoney
  | text t =>
      cases t with
      | whole s => exact ⟨rfl, s, hConverted⟩
      | broken points => cases hConverted
  | int n =>
      simp only at hConverted
      split at hConverted
      · cases hConverted
      · rename_i hShort
        exact ⟨(isUnshowable_int n).trans (Bool.eq_false_iff.mpr hShort), _, hConverted⟩
  | float x => cases hConverted
  | other v => cases v <;> cases hConverted

theorem exists_inStablecoin_of_isMoney {price : Price} (hMoney : price.isMoney = true)
    {network : String} {conversion : Conversion}
    (h : standardConverter price network = .ok conversion) :
    ∃ n units, isOverlong units = false ∧ conversion = inStablecoin n units := by
  obtain ⟨-, text, hText⟩ := exists_convertMoney hMoney h
  obtain ⟨amount, n, units, -, hUnits, hConversion⟩ := exists_inStablecoin hText
  exact ⟨n, units, (exists_product hUnits).1, hConversion⟩

/-- Of the units that can be written, the positive ones are charged. -/
theorem charged_of_concludeConversion {handed : Price} (hMoney : handed.isMoney = true)
    {n : Network} {units : Int} (hShort : isOverlong units = false) {a : AtomicAmount}
    (h : concludeConversion handed (.ok (inStablecoin n units)) = .ok a) :
    1 ≤ units ∧ a = stablecoinAmount n units.toNat := by
  have hAmount := isAmount_inStablecoin n hShort
  have hPositive : 1 ≤ units := pos_of_concludeConversion hMoney hAmount h
  have hTaken := concludeConversion_of_positive hAmount
    (fun _ : handed.isMoney = true => hPositive)
  rw [hTaken, intText_of_pos hPositive] at h
  exact ⟨hPositive, (Except.ok.inj h).symm⟩

/-- **No price in money comes to nothing or less**, on whatever network. -/
theorem positive_of_atomicAmount {price : Price} (hMoney : price.isMoney = true) {network : String}
    {a : AtomicAmount} (h : atomicAmount standardConverter price network = .ok a) :
    ∃ units : Nat, 0 < units ∧ a.amount = String.ofList (natText units) := by
  have hHanded := (isMoney_forConversion price).trans hMoney
  rw [atomicAmount_eq] at h
  cases hConvert : standardConverter price.forConversion network with
  | error f =>
      rw [hConvert] at h
      cases h
  | ok conversion =>
      obtain ⟨n, units, hShort, rfl⟩ := exists_inStablecoin_of_isMoney hHanded hConvert
      rw [hConvert] at h
      obtain ⟨hPositive, rfl⟩ := charged_of_concludeConversion hHanded hShort h
      exact ⟨units.toNat, by omega, rfl⟩

/-- **The amount of a price in money is exact.** A price that denotes a decimal of 28 digits at
most is charged its worth in units of the stablecoin, cut off after the point, if that is at least
one unit and can be written; every other one is a setup error. So prices of different types that
are worth the same are charged the same. And no price comes to nothing or less. -/
theorem atomicAmount_of_money (network : Network) :
    (∀ (price : Price) (negative : Bool) (c : Nat) (e : Int), price.Denotes negative c e →
      digitCount c ≤ Decimal.precision →
        (atomicAmount standardConverter price network.name =
            .ok (stablecoinAmount network (unitsOf (Decimal.worth negative c e)).toNat) ↔
          1 ≤ unitsOf (Decimal.worth negative c e) ∧
            unitsOf (Decimal.worth negative c e) < 10 ^ digitLimit) ∧
        (¬ (1 ≤ unitsOf (Decimal.worth negative c e) ∧
            unitsOf (Decimal.worth negative c e) < 10 ^ digitLimit) →
          ∃ error, atomicAmount standardConverter price network.name = .error (.setup error))) ∧
    (∀ (price price' : Price) (negative negative' : Bool) (c c' : Nat) (e e' : Int),
      price.Denotes negative c e → price'.Denotes negative' c' e' →
      digitCount c ≤ Decimal.precision → digitCount c' ≤ Decimal.precision →
      Decimal.worth negative c e = Decimal.worth negative' c' e' →
        (atomicAmount standardConverter price network.name).toOption =
          (atomicAmount standardConverter price' network.name).toOption) ∧
    (∀ (price : Price) (a : AtomicAmount), price.isMoney = true →
      atomicAmount standardConverter price network.name = .ok a →
        ∃ units : Nat, 0 < units ∧ a.amount = String.ofList (natText units)) := by
  refine ⟨?exact, ?same, ?positive⟩
  case exact =>
    intro price negative c e hDenotes hFew
    obtain ⟨hTaken, hRefused⟩ := atomicAmount_of_denotes network hDenotes hFew
    refine ⟨⟨fun hAmount => ?_, hTaken⟩, hRefused⟩
    by_contra hRange
    obtain ⟨error, hError⟩ := hRefused hRange
    rw [hError] at hAmount
    cases hAmount
  case same =>
    intro price price' negative negative' c c' e e' hDenotes hDenotes' hFew hFew' hWorth
    obtain ⟨hTaken, hRefused⟩ := atomicAmount_of_denotes network hDenotes hFew
    obtain ⟨hTaken', hRefused'⟩ := atomicAmount_of_denotes network hDenotes' hFew'
    rw [← hWorth] at hTaken' hRefused'
    by_cases hRange : 1 ≤ unitsOf (Decimal.worth negative c e) ∧
        unitsOf (Decimal.worth negative c e) < 10 ^ digitLimit
    · rw [hTaken hRange, hTaken' hRange]
    · obtain ⟨error, hError⟩ := hRefused hRange
      obtain ⟨error', hError'⟩ := hRefused' hRange
      rw [hError, hError']
      rfl
  case positive =>
    intro price a hMoney hAmount
    exact positive_of_atomicAmount hMoney hAmount

theorem atomicAmount_of_money_cent :
    (Price.text "$0.01").Denotes false 1 (-2) ∧ digitCount 1 ≤ Decimal.precision ∧
      atomicAmount standardConverter (.text "$0.01") Network.base.name =
        .ok (stablecoinAmount .base 10000) := by
  have hRead : Decimal.ofText? (String.ofList ['0', '.', '0', '1']) =
      some (.finite false 1 (-2)) := by decide +kernel
  have hSpells := (ofText?_eq_finite_iff.mp hRead).1
  rw [String.toList_ofList] at hSpells
  have hDenotes : (Price.text "$0.01").Denotes false 1 (-2) := .currency hSpells
  have hFew : digitCount 1 ≤ Decimal.precision := by decide
  have hWorth : Decimal.worth false 1 (-2) * 10 ^ stablecoinPlaces = 10000 := by
    unfold Decimal.worth stablecoinPlaces
    norm_num
  have hUnits : unitsOf (Decimal.worth false 1 (-2)) = 10000 := by
    unfold unitsOf truncated
    rw [hWorth]
    norm_num
  have hLimit : (10000 : Int) < 10 ^ digitLimit := by
    have hPower : 5 ≤ digitLimit := by decide
    calc (10000 : Int) < 10 ^ 5 := by norm_num
      _ ≤ 10 ^ digitLimit := pow_le_pow_right₀ (by norm_num) hPower
  have hExact := ((atomicAmount_of_money .base).1 _ _ _ _ hDenotes hFew).1
  rw [hUnits] at hExact
  exact ⟨hDenotes, hFew, hExact.mpr ⟨by norm_num, hLimit⟩⟩

end Payment

end Tollgate
