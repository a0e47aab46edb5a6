import Tollgate.Proofs.Money

set_option autoImplicit false

/-! # The order of prices

A price may have more digits than a product keeps. The product is then rounded, up or down, and what
is charged is no longer the exact worth in units. Still a higher price never costs less
(`atomicAmount_mono`). Zeros that are written behind a coefficient are kept by the rounding
(`kept_padded`), so two numbers can be brought to one exponent; there the rounding keeps the order
of the coefficients, also of one that has more digits than the other (`kept_le_kept`).
-/

namespace Tollgate

namespace Number

/-! ## Rounding -/

/-- For one denominator, rounding keeps the order. -/
theorem roundDiv_le_roundDiv {num num' : Nat} (h : num ≤ num') (den : Nat) :
    roundDiv num den ≤ roundDiv num' den := by
  rcases Nat.lt_or_eq_of_le (Nat.div_le_div_right (c := den) h) with hLess | hSame
  · calc roundDiv num den
        ≤ num / den + 1 := roundDiv_le_div_succ num den
      _ ≤ num' / den := hLess
      _ ≤ roundDiv num' den := div_le_roundDiv num' den
  · -- for one quotient the remainders decide, and a half goes the same way in both
    have hRemainders : num % den ≤ num' % den := by
      have hSplit := Nat.div_add_mod num den
      have hSplit' := Nat.div_add_mod num' den
      rw [← hSame] at hSplit'
      omega
    simp only [roundDiv, ← hSame]
    generalize num / den = quotient
    split_ifs <;> omega

theorem digitCount_le_digitCount {c c' : Nat} (h : c ≤ c') : digitCount c ≤ digitCount c' :=
  (Nat.length_toDigits_le_iff (by decide) (digitCount_pos c')).mpr
    (h.trans_lt (lt_pow_digitCount c'))

namespace Decimal

/-- A coefficient of which 28 digits are kept, the last of them rounded, with zeros in place of
all others. -/
def kept (c : Nat) : Nat :=
  (roundCoefficient c 0).1 * Nat.pow 10 (excessDigits c)

theorem kept_of_few {c : Nat} (hc : digitCount c ≤ precision) : kept c = c := by
  have hNone : excessDigits c = 0 := Nat.sub_eq_zero_of_le hc
  have hRound : roundDiv (c * 1) 1 = c := roundDiv_mul_self (by decide) c
  rw [Nat.mul_one] at hRound
  unfold kept roundCoefficient
  simp only [hNone]
  show roundDiv c 1 * 1 = c
  rw [hRound, Nat.mul_one]

/-- Zeros that are written behind a coefficient are kept. -/
theorem kept_padded (c j : Nat) : kept (c * Nat.pow 10 j) = kept c * Nat.pow 10 j := by
  have hSplit : ∀ i k, Nat.pow 10 (i + k) = Nat.pow 10 i * Nat.pow 10 k :=
    fun i k => Nat.pow_add 10 i k
  by_cases hFew : digitCount c ≤ precision
  · -- nothing but zeros is cut off
    obtain ⟨i, hRound⟩ := roundCoefficient_exact hFew j 0
    obtain ⟨hCoefficient, hExponent⟩ := Prod.mk.inj hRound
    have hPlaces : i + excessDigits (c * Nat.pow 10 j) = j := by omega
    rw [kept_of_few hFew]
    calc kept (c * Nat.pow 10 j)
        = c * Nat.pow 10 i * Nat.pow 10 (excessDigits (c * Nat.pow 10 j)) :=
          congrArg (· * Nat.pow 10 (excessDigits (c * Nat.pow 10 j))) hCoefficient
      _ = c * Nat.pow 10 j := by rw [Nat.mul_assoc, ← hSplit, hPlaces]
  · -- the same digits are cut off, and the zeros behind them
    have hSome : c ≠ 0 := by
      rintro rfl
      exact hFew (by decide)
    have hExcess : excessDigits (c * Nat.pow 10 j) = excessDigits c + j := by
      unfold excessDigits
      rw [digitCount_mul_pow hSome]
      omega
    unfold kept roundCoefficient
    simp only [hExcess, hSplit]
    have hPos : 0 < Nat.pow 10 j := Nat.pow_pos (by decide)
    rw [roundDiv_mul_right _ _ hPos, Nat.mul_assoc]

theorem kept_le_pow (c : Nat) : kept c ≤ 10 ^ (precision + excessDigits c) := by
  have hDigits : digitCount c ≤ precision + excessDigits c := le_add_tsub
  have hBelow : c / 10 ^ excessDigits c < 10 ^ precision := by
    rw [Nat.div_lt_iff_lt_mul (Nat.pow_pos (by decide)), ← Nat.pow_add]
    exact (lt_pow_digitCount c).trans_le (Nat.pow_le_pow_right (by decide) hDigits)
  rw [Nat.pow_add]
  exact Nat.mul_le_mul_right _ ((roundDiv_le_div_succ _ _).trans hBelow)

theorem pow_le_kept {c : Nat} (h : 0 < excessDigits c) :
    10 ^ (precision - 1 + excessDigits c) ≤ kept c := by
  have hDigits : digitCount c - 1 = precision - 1 + excessDigits c := by
    unfold excessDigits precision at h ⊢
    omega
  have hSome : c ≠ 0 := by
    rintro rfl
    exact absurd h (by decide)
  have hAbove : 10 ^ (precision - 1) ≤ c / 10 ^ excessDigits c := by
    rw [Nat.le_div_iff_mul_le (Nat.pow_pos (by decide)), ← Nat.pow_add, ← hDigits]
    exact pow_digitCount_le hSome
  rw [Nat.pow_add]
  exact Nat.mul_le_mul_right _ (hAbove.trans (div_le_roundDiv _ _))

/-- Keeping 28 digits keeps the order. -/
theorem kept_le_kept {c c' : Nat} (h : c ≤ c') : kept c ≤ kept c' := by
  have hExcess : excessDigits c ≤ excessDigits c' :=
    Nat.sub_le_sub_right (digitCount_le_digitCount h) precision
  rcases Nat.lt_or_eq_of_le hExcess with hMore | hSame
  · -- a power of ten stands between the two
    calc kept c
        ≤ 10 ^ (precision + excessDigits c) := kept_le_pow c
      _ ≤ 10 ^ (precision - 1 + excessDigits c') :=
          Nat.pow_le_pow_right (by decide) (by unfold precision; omega)
      _ ≤ kept c' := pow_le_kept (Nat.zero_lt_of_lt hMore)
  · unfold kept roundCoefficient
    simp only
    rw [hSame]
    exact Nat.mul_le_mul_right _ (roundDiv_le_roundDiv h _)

theorem magnitude_roundCoefficient (c : Nat) (e : Int) :
    ((roundCoefficient c e).1 : ℚ) * 10 ^ (roundCoefficient c e).2 = kept c * 10 ^ e := by
  have hExponent : (roundCoefficient c e).2 - excessDigits c = e := Int.add_sub_cancel e _
  rw [← magnitude_padded _ (excessDigits c), hExponent]
  rfl

/-- A product is the kept digits of the coefficient, moved by the places. -/
theorem magnitude_of_timesPowerOfTen {negative negative' : Bool} {c c' places : Nat} {e e' : Int}
    (h : timesPowerOfTen (.finite negative c e) places = .ok (.finite negative' c' e')) :
    negative' = negative ∧ (c' : ℚ) * 10 ^ e' = kept c * 10 ^ (e + places) := by
  have hMoved : (kept (c * Nat.pow 10 places) : ℚ) * 10 ^ e = kept c * 10 ^ (e + places) := by
    rw [kept_padded, ← magnitude_padded (kept c) places, Int.add_sub_cancel]
  unfold timesPowerOfTen at h
  simp only at h
  split at h
  · cases h
  · cases h
    exact ⟨rfl, (magnitude_roundCoefficient _ e).trans hMoved⟩

/-- Numbers of any exponents keep their order. -/
theorem magnitude_kept_le {c c' : Nat} {e e' : Int} (h : (c : ℚ) * 10 ^ e ≤ c' * 10 ^ e') :
    (kept c : ℚ) * 10 ^ e ≤ kept c' * 10 ^ e' := by
  have hCommon : e - (e - e').toNat = e' - (e' - e).toNat := by omega
  generalize (e - e').toNat = j at hCommon
  generalize (e' - e).toNat = j' at hCommon
  have hUnit := ten_zpow_pos (e' - j')
  rw [← magnitude_padded c j, ← magnitude_padded c' j', hCommon, mul_le_mul_iff_left₀ hUnit,
    Nat.cast_le] at h
  rw [← magnitude_padded (kept c) j, ← magnitude_padded (kept c') j', hCommon,
    mul_le_mul_iff_left₀ hUnit, Nat.cast_le, ← kept_padded, ← kept_padded]
  exact kept_le_kept h

end Decimal

end Number

namespace Payment

open Tollgate.Number

/-! ## Units -/

/-- The units of the stablecoin that are charged for `c · 10 ^ e`. -/
def chargedUnits (c : Nat) (e : Int) : Nat :=
  ⌊(Decimal.kept c : ℚ) * 10 ^ (e + stablecoinPlaces)⌋₊

theorem chargedUnits_le {c c' : Nat} {e e' : Int} (h : (c : ℚ) * 10 ^ e ≤ c' * 10 ^ e') :
    chargedUnits c e ≤ chargedUnits c' e' := by
  have hTen : (10 : ℚ) ≠ 0 := by norm_num
  apply Nat.floor_le_floor
  rw [zpow_add₀ hTen, zpow_add₀ hTen, ← mul_assoc, ← mul_assoc]
  exact mul_le_mul_of_nonneg_right (Decimal.magnitude_kept_le h) (ten_zpow_pos _).le

/-- Zeros behind the digits do not change what is charged. -/
theorem chargedUnits_padded (c j : Nat) (e : Int) :
    chargedUnits (c * Nat.pow 10 j) (e - j) = chargedUnits c e :=
  le_antisymm (chargedUnits_le (magnitude_padded c j e).le)
    (chargedUnits_le (magnitude_padded c j e).ge)

/-- The units that a decimal comes to. -/
theorem units_eq_chargedUnits {text : String} {negative : Bool} {c : Nat} {e units : Int}
    (h : stablecoinUnits text (.finite negative c e) = .ok units) :
    units = signed negative (chargedUnits c e) := by
  obtain ⟨-, negative', c', e', hProduct, rfl⟩ := exists_product h
  obtain ⟨rfl, hMagnitude⟩ := Decimal.magnitude_of_timesPowerOfTen hProduct
  rw [Decimal.wholePart_eq_floor, hMagnitude]
  rfl

/-- Whatever is converted from a text that spells a decimal has the units of the decimal. -/
theorem units_of_convertMoney {text network : String} {negative : Bool} {c : Nat} {e : Int}
    (hSpells : SpellsDecimal (withoutCurrencySign text).toList negative c e)
    {conversion : Conversion} (h : convertMoney text network = .ok conversion) :
    ∃ n units, isOverlong units = false ∧ conversion = inStablecoin n units ∧
      units = signed negative (chargedUnits c e) := by
  obtain ⟨amount, n, units, hAmount, hUnits, hConversion⟩ := exists_inStablecoin h
  have hRead := ofText?_of_spells hSpells
  rw [hAmount] at hRead
  split at hRead
  · cases hRead
    exact ⟨n, units, (exists_product hUnits).1, hConversion, units_eq_chargedUnits hUnits⟩
  · cases hRead

/-- **What is charged for a price in money**, of however many digits. Only a price that is worth
something is accepted. -/
theorem charged_of_atomicAmount {price : Price} {negative : Bool} {c : Nat} {e : Int}
    (hDenotes : price.Denotes negative c e) {network : String} {a : AtomicAmount}
    (h : atomicAmount standardConverter price network = .ok a) :
    negative = false ∧ 0 < chargedUnits c e ∧
      a.amount = String.ofList (natText (chargedUnits c e)) := by
  have hMoney := (isMoney_forConversion price).trans hDenotes.isMoney
  rw [atomicAmount_eq] at h
  cases hConvert : standardConverter price.forConversion network with
  | error f =>
      rw [hConvert] at h
      cases h
  | ok conversion =>
      obtain ⟨hShown, -⟩ := exists_convertMoney hMoney hConvert
      obtain ⟨text, digits, x, j, j', hHanded, rfl, rfl, hSpells, -⟩ :=
        exists_handed hDenotes hShown
      have hText := mapError_eq_ok_iff.mp ((hHanded network).symm.trans hConvert)
      obtain ⟨n, units, hShort, rfl, hUnits⟩ := units_of_convertMoney hSpells hText
      rw [hConvert] at h
      obtain ⟨hPositive, rfl⟩ := charged_of_concludeConversion hMoney hShort h
      rw [chargedUnits_padded] at hUnits ⊢
      cases negative with
      | true =>
          unfold signed at hUnits
          simp only [if_true] at hUnits
          omega
      | false =>
          have hSame : units = (chargedUnits digits x : Int) := hUnits
          refine ⟨rfl, by omega, ?_⟩
          rw [hSame]
          rfl

/-! ## Order -/

/-- **A higher price never costs less**, whatever the network, the types of the prices and the
number of their digits. What is charged for a price is at least one unit, and at most what is
charged for another price that is worth as much or more. -/
theorem atomicAmount_mono {price price' : Price} {negative negative' : Bool} {c c' : Nat}
    {e e' : Int} (hDenotes : price.Denotes negative c e)
    (hDenotes' : price'.Denotes negative' c' e')
    (hWorth : Decimal.worth negative c e ≤ Decimal.worth negative' c' e') {network : String}
    {a a' : AtomicAmount} (h : atomicAmount standardConverter price network = .ok a)
    (h' : atomicAmount standardConverter price' network = .ok a') :
    ∃ units units' : Nat, a.amount = String.ofList (natText units) ∧
      a'.amount = String.ofList (natText units') ∧ 0 < units ∧ units ≤ units' := by
  obtain ⟨rfl, hPositive, hAmount⟩ := charged_of_atomicAmount hDenotes h
  obtain ⟨rfl, -, hAmount'⟩ := charged_of_atomicAmount hDenotes' h'
  have hMagnitude : (c : ℚ) * 10 ^ e ≤ c' * 10 ^ e' := by
    simpa only [Decimal.worth, Bool.false_eq_true, if_false, one_mul] using hWorth
  exact ⟨_, _, hAmount, hAmount', hPositive, chargedUnits_le hMagnitude⟩

/-- A price of 32 digits that is worth a little less than one. The product rounds it up. -/
def nines : String :=
  "0.99999999999999999999999999999999"

theorem atomicAmount_mono_nines :
    (Price.text nines).Denotes false 99999999999999999999999999999999 (-32) ∧
      (Price.int 1).Denotes false 1 0 ∧
      Decimal.worth false 99999999999999999999999999999999 (-32) ≤ Decimal.worth false 1 0 ∧
      ∃ a a', atomicAmount standardConverter (.text nines) "base" = .ok a ∧
        atomicAmount standardConverter (.int 1) "base" = .ok a' ∧
        a.amount = "1000000" ∧ a'.amount = "1000000" ∧
        ∃ units units' : Nat, a.amount = String.ofList (natText units) ∧
          a'.amount = String.ofList (natText units') ∧ 0 < units ∧ units ≤ units' := by
  have hRead : Decimal.ofText? nines =
      some (.finite false 99999999999999999999999999999999 (-32)) := by decide +kernel
  have hDenotes : (Price.text nines).Denotes false 99999999999999999999999999999999 (-32) := by
    rw [← String.ofList_toList (s := nines)]
    exact .text (ofText?_eq_finite_iff.mp hRead).1
  have hWorth : Decimal.worth false 99999999999999999999999999999999 (-32) ≤
      Decimal.worth false 1 0 := by
    unfold Decimal.worth
    norm_num
  have hUnits : (atomicAmount standardConverter (.text nines) "base").toOption.map
      AtomicAmount.amount = some "1000000" := by decide +kernel
  have hUnits' : (atomicAmount standardConverter (.int 1) "base").toOption.map
      AtomicAmount.amount = some "1000000" := by decide +kernel
  obtain ⟨a, hTaken, hAmount⟩ := Option.map_eq_some_iff.mp hUnits
  obtain ⟨a', hTaken', hAmount'⟩ := Option.map_eq_some_iff.mp hUnits'
  have h := toOption_eq_some_iff.mp hTaken
  have h' := toOption_eq_some_iff.mp hTaken'
  exact ⟨hDenotes, .int 1, hWorth, a, a', h, h', hAmount, hAmount',
    atomicAmount_mono hDenotes (.int 1) hWorth h h'⟩

end Payment

end Tollgate
