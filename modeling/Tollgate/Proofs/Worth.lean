import Mathlib.Algebra.Order.Floor.Semifield
import Mathlib.Data.Rat.Floor
import Tollgate.Payment.Conversion
import Tollgate.Proofs.Numeral

set_option autoImplicit false

/-! # What decimals are worth

The rational number that a decimal stands for (`Decimal.worth`), and what becomes of it on the way
to the smallest units of the stablecoin. A product with a power of ten is rounded to 28 digits. It
is exact where the digits beyond the first 28 are zeros, as they are when a number of 28 digits at
most is written out (`roundCoefficient_exact`). So the units are the worth in millionths, cut off
after the point (`stablecoinUnits_of_padded`).
-/

namespace Tollgate

namespace Number

/-! ## Worth -/

/-- The rational number `± c · 10 ^ e`. -/
def Decimal.worth (negative : Bool) (c : Nat) (e : Int) : ℚ :=
  (if negative then -1 else 1) * (c * 10 ^ e)

/-- A rational number without its fraction. -/
def truncated (x : ℚ) : ℤ :=
  if 0 ≤ x then ⌊x⌋ else ⌈x⌉

theorem truncated_of_sign (negative : Bool) {x : ℚ} (hx : 0 ≤ x) :
    truncated ((if negative then -1 else 1) * x) = signed negative ⌊x⌋₊ := by
  have hFloor : ((⌊x⌋₊ : ℕ) : ℤ) = ⌊x⌋ := Int.natCast_floor_eq_floor hx
  cases negative with
  | false => simp [truncated, signed, hx, hFloor]
  | true =>
      by_cases hZero : x = 0
      · simp [truncated, signed, hZero]
      · have hNegative : ¬ 0 ≤ -x := by
          intro h
          exact hZero (le_antisymm (neg_nonneg.mp h) hx)
        simp [truncated, signed, hNegative, Int.ceil_neg, hFloor]

theorem ten_zpow_pos (e : Int) : (0 : ℚ) < 10 ^ e :=
  zpow_pos (by norm_num) e

theorem magnitude_nonneg (c : Nat) (e : Int) : (0 : ℚ) ≤ c * 10 ^ e :=
  mul_nonneg (Nat.cast_nonneg c) (ten_zpow_pos e).le

/-- Zeros that are written out do not change a magnitude. -/
theorem magnitude_padded (c j : Nat) (e : Int) :
    ((c * Nat.pow 10 j : ℕ) : ℚ) * 10 ^ (e - j) = c * 10 ^ e := by
  have hTen : (10 : ℚ) ≠ 0 := by norm_num
  have hPow : ((Nat.pow 10 j : ℕ) : ℚ) = 10 ^ (j : Int) := by
    rw [Nat.pow_eq, Nat.cast_pow, zpow_natCast]
    rfl
  rw [Nat.cast_mul, hPow, mul_assoc, ← zpow_add₀ hTen, add_sub_cancel]

theorem Decimal.worth_padded (negative : Bool) (c j : Nat) (e : Int) :
    Decimal.worth negative (c * Nat.pow 10 j) (e - j) = Decimal.worth negative c e := by
  unfold Decimal.worth
  rw [magnitude_padded]

/-! ## Digits -/

theorem digitCount_pos (c : Nat) : 0 < digitCount c :=
  List.length_pos_of_ne_nil (natText_ne_nil c)

theorem lt_pow_digitCount (c : Nat) : c < 10 ^ digitCount c :=
  (Nat.length_toDigits_le_iff (by decide) (digitCount_pos c)).mp (Nat.le_refl _)

theorem pow_digitCount_le {c : Nat} (hc : c ≠ 0) : 10 ^ (digitCount c - 1) ≤ c := by
  by_contra hLarge
  have hSmall : c < 10 ^ (digitCount c - 1) := Nat.not_le.mp hLarge
  by_cases hOne : digitCount c - 1 = 0
  · rw [hOne] at hSmall
    exact hc (Nat.lt_one_iff.mp hSmall)
  · have hFewer : digitCount c ≤ digitCount c - 1 :=
      (Nat.length_toDigits_le_iff (by decide) (Nat.pos_of_ne_zero hOne)).mpr hSmall
    omega

theorem digitCount_le_padded (c j : Nat) : digitCount c ≤ digitCount (c * Nat.pow 10 j) := by
  by_cases hc : c = 0
  · rw [hc, Nat.zero_mul]
  · rw [digitCount_mul_pow hc]
    exact Nat.le_add_right _ j

namespace Decimal

theorem leadingExponent_padded {c : Nat} (hc : c ≠ 0) (j : Nat) (e : Int) :
    leadingExponent (c * Nat.pow 10 j) (e - j) = leadingExponent c e := by
  unfold leadingExponent
  rw [digitCount_mul_pow hc]
  omega

theorem pow_leadingExponent_le {c : Nat} (hc : c ≠ 0) (e : Int) :
    (10 : ℚ) ^ leadingExponent c e ≤ c * 10 ^ e := by
  have hTen : (10 : ℚ) ≠ 0 := by norm_num
  have hDigits := digitCount_pos c
  have hSplit : leadingExponent c e = ((digitCount c - 1 : ℕ) : Int) + e := by
    unfold leadingExponent
    omega
  have hLead : (10 : ℚ) ^ (digitCount c - 1) ≤ c := by exact_mod_cast pow_digitCount_le hc
  rw [hSplit, zpow_add₀ hTen, zpow_natCast]
  exact mul_le_mul_of_nonneg_right hLead (ten_zpow_pos e).le

theorem lt_pow_leadingExponent (c : Nat) (e : Int) :
    (c : ℚ) * 10 ^ e < 10 ^ (leadingExponent c e + 1) := by
  have hTen : (10 : ℚ) ≠ 0 := by norm_num
  have hSplit : leadingExponent c e + 1 = (digitCount c : Int) + e := by
    unfold leadingExponent
    omega
  have hBound : (c : ℚ) < 10 ^ digitCount c := by exact_mod_cast lt_pow_digitCount c
  rw [hSplit, zpow_add₀ hTen, zpow_natCast]
  exact mul_lt_mul_of_pos_right hBound (ten_zpow_pos e)

/-! ## Whole parts -/

/-- The whole part is the magnitude, rounded down. -/
theorem wholePart_eq_floor (c : Nat) (e : Int) : wholePart c e = ⌊(c : ℚ) * 10 ^ e⌋₊ := by
  cases e with
  | ofNat k =>
      have hValue : (c : ℚ) * 10 ^ (Int.ofNat k) = ((c * Nat.pow 10 k : ℕ) : ℚ) := by
        rw [Int.ofNat_eq_natCast, zpow_natCast, Nat.cast_mul, Nat.pow_eq, Nat.cast_pow]
        rfl
      rw [hValue, Nat.floor_natCast]
      unfold wholePart
      by_cases hc : c = 0
      · simp [hc]
      · simp [hc]
  | negSucc k =>
      have hValue : (c : ℚ) * 10 ^ (Int.negSucc k) = c / ((Nat.pow 10 (k + 1) : ℕ) : ℚ) := by
        rw [zpow_negSucc, ← div_eq_mul_inv, Nat.pow_eq, Nat.cast_pow]
        rfl
      rw [hValue, Nat.floor_div_eq_div]
      show (if digitCount c ≤ k + 1 then 0 else c / Nat.pow 10 (k + 1)) = c / Nat.pow 10 (k + 1)
      by_cases hFew : digitCount c ≤ k + 1
      · have hSmall : c < Nat.pow 10 (k + 1) :=
          Nat.lt_of_lt_of_le (lt_pow_digitCount c) (Nat.pow_le_pow_right (by decide) hFew)
        rw [if_pos hFew, Nat.div_eq_of_lt hSmall]
      · rw [if_neg hFew]

theorem wholePart_padded (c j : Nat) (e : Int) :
    wholePart (c * Nat.pow 10 j) (e - j) = wholePart c e := by
  rw [wholePart_eq_floor, wholePart_eq_floor, magnitude_padded]

theorem wholePart_zero (e : Int) : wholePart 0 e = 0 := by
  rw [wholePart_eq_floor]
  simp

theorem pow_le_wholePart {c : Nat} (hc : c ≠ 0) {e : Int} {n : Nat}
    (h : (n : Int) ≤ leadingExponent c e) : 10 ^ n ≤ wholePart c e := by
  rw [wholePart_eq_floor]
  apply Nat.le_floor
  calc ((10 ^ n : ℕ) : ℚ)
      = 10 ^ (n : Int) := by rw [Nat.cast_pow, zpow_natCast]; rfl
    _ ≤ 10 ^ leadingExponent c e := zpow_le_zpow_right₀ (by norm_num) h
    _ ≤ c * 10 ^ e := pow_leadingExponent_le hc e

theorem wholePart_eq_zero {c : Nat} {e : Int} (h : leadingExponent c e < 0) :
    wholePart c e = 0 := by
  rw [wholePart_eq_floor, Nat.floor_eq_zero]
  calc (c : ℚ) * 10 ^ e
      < 10 ^ (leadingExponent c e + 1) := lt_pow_leadingExponent c e
    _ ≤ 10 ^ (0 : Int) := zpow_le_zpow_right₀ (by norm_num) (by omega)
    _ = 1 := zpow_zero 10

/-- The worth in units of `10 ^ -places`, without its fraction. -/
theorem truncated_worth (negative : Bool) (c places : Nat) (e : Int) :
    truncated (worth negative c e * 10 ^ places) = signed negative (wholePart c (e + places)) := by
  have hTen : (10 : ℚ) ≠ 0 := by norm_num
  have hScale : worth negative c e * 10 ^ places =
      (if negative then -1 else 1) * (c * 10 ^ (e + places)) := by
    unfold worth
    rw [mul_assoc, mul_assoc, zpow_add₀ hTen, zpow_natCast]
  rw [hScale, truncated_of_sign negative (magnitude_nonneg c (e + places)), wholePart_eq_floor]

/-! ## Products -/

/-- Rounding a coefficient of 28 digits at most, with zeros written behind it, cuts off nothing
but zeros. -/
theorem roundCoefficient_exact {c : Nat} (hc : digitCount c ≤ precision) (j : Nat) (e : Int) :
    ∃ i : Nat, roundCoefficient (c * Nat.pow 10 j) (e - j) = (c * Nat.pow 10 i, e - i) := by
  have hExcess : excessDigits (c * Nat.pow 10 j) ≤ j := by
    unfold excessDigits
    by_cases hZero : c = 0
    · have hNone : digitCount (0 * Nat.pow 10 j) = 1 := by rw [Nat.zero_mul]; rfl
      rw [hZero, hNone]
      exact Nat.zero_le j
    · rw [digitCount_mul_pow hZero]
      omega
  refine ⟨j - excessDigits (c * Nat.pow 10 j), ?_⟩
  unfold roundCoefficient
  generalize excessDigits (c * Nat.pow 10 j) = k at hExcess
  have hSplit : c * Nat.pow 10 j = c * Nat.pow 10 (j - k) * Nat.pow 10 k := by
    rw [Nat.mul_assoc, Nat.pow_eq, Nat.pow_eq, Nat.pow_eq, ← Nat.pow_add,
      Nat.sub_add_cancel hExcess]
  have hExponent : e - j + k = e - ((j - k : ℕ) : Int) := by omega
  have hPos : 0 < Nat.pow 10 k := Nat.pow_pos (by decide)
  simp only
  rw [hSplit, roundDiv_mul_self hPos, hExponent]

/-- The product of such a number with a power of ten. -/
theorem timesPowerOfTen_padded (negative : Bool) {c : Nat} (hc : digitCount c ≤ precision)
    (j places : Nat) (e : Int) :
    (timesPowerOfTen (.finite negative (c * Nat.pow 10 j) (e - j)) places = .error .overflow ∧
        c ≠ 0 ∧ maxExponent < leadingExponent c (e + places)) ∨
      ∃ i : Nat, timesPowerOfTen (.finite negative (c * Nat.pow 10 j) (e - j)) places =
        .ok (.finite negative (c * Nat.pow 10 i) (e + places - i)) := by
  -- the power of ten puts its own zeros behind those that are there, and all are rounded at once
  obtain ⟨i, hRound⟩ := roundCoefficient_exact hc (j + places) (e + places)
  have hProduct : c * Nat.pow 10 j * Nat.pow 10 places = c * Nat.pow 10 (j + places) := by
    rw [Nat.mul_assoc, Nat.pow_eq, Nat.pow_eq, Nat.pow_eq, ← Nat.pow_add]
  have hExponent : e - j = e + places - ((j + places : ℕ) : Int) := by omega
  unfold timesPowerOfTen
  simp only
  rw [hProduct, hExponent, hRound]
  simp only
  split
  · rename_i hOverflow
    obtain ⟨hProductSome, hLarge⟩ := hOverflow
    have hSome : c ≠ 0 := by
      rintro rfl
      exact hProductSome (Nat.zero_mul _)
    rw [leadingExponent_padded hSome] at hLarge
    exact Or.inl ⟨rfl, hSome, hLarge⟩
  · exact Or.inr ⟨i, rfl⟩

end Decimal

/-! ## Overlong numbers -/

theorem isOverlong_signed (negative : Bool) (n : Nat) :
    isOverlong (signed negative n) = true ↔ 10 ^ digitLimit ≤ n := by
  have hAbs : (signed negative n).natAbs = n := by
    cases negative <;> simp [signed]
  unfold isOverlong
  rw [hAbs, decide_eq_true_eq, Nat.pow_eq]

end Number

/-! ## Units of the stablecoin -/

namespace Payment

open Tollgate.Number

theorem stablecoinUnits_of_error (price : String) {d : Decimal} {fault : Decimal.Fault}
    (h : d.timesPowerOfTen stablecoinPlaces = .error fault) :
    stablecoinUnits price d = .error .arithmetic := by
  simp only [stablecoinUnits, h]

theorem stablecoinUnits_of_finite (price : String) {d : Decimal} {negative : Bool} {c : Nat}
    {e : Int} (h : d.timesPowerOfTen stablecoinPlaces = .ok (.finite negative c e)) :
    stablecoinUnits price d =
      if isOverlong (signed negative (Decimal.wholePart c e)) then
        .error (.format price overlongMessage)
      else .ok (signed negative (Decimal.wholePart c e)) := by
  simp only [stablecoinUnits, h]

/-- **The units of the stablecoin are exact** for numbers of 28 digits at most, zeros not counted
that are written behind them. Only too many units are refused. -/
theorem stablecoinUnits_of_padded (price : String) (negative : Bool) {c : Nat}
    (hc : digitCount c ≤ Decimal.precision) (j : Nat) (e : Int) {units : Int}
    (hUnits : units = signed negative (Decimal.wholePart c (e + stablecoinPlaces))) :
    (isOverlong units = false → stablecoinUnits price
        (.finite negative (c * Nat.pow 10 j) (e - j)) = .ok units) ∧
      (isOverlong units = true → ∃ fault, stablecoinUnits price
        (.finite negative (c * Nat.pow 10 j) (e - j)) = .error fault) := by
  rcases Decimal.timesPowerOfTen_padded negative hc j stablecoinPlaces e with
    ⟨hProduct, hSome, hLarge⟩ | ⟨i, hProduct⟩
  · -- what arithmetic refuses has far more digits than can be written
    have hLimit : (digitLimit : Int) ≤ Decimal.maxExponent := by decide
    have hMany : 10 ^ digitLimit ≤ Decimal.wholePart c (e + stablecoinPlaces) :=
      Decimal.pow_le_wholePart hSome (hLimit.trans hLarge.le)
    have hOverlong : isOverlong units = true := by
      rw [hUnits]
      exact (isOverlong_signed _ _).mpr hMany
    constructor
    · intro h
      rw [hOverlong] at h
      cases h
    · intro _
      exact ⟨_, stablecoinUnits_of_error price hProduct⟩
  · have hWhole :
        signed negative (Decimal.wholePart (c * Nat.pow 10 i) (e + stablecoinPlaces - i)) =
          units := by
      rw [hUnits, Decimal.wholePart_padded]
    have hResult := stablecoinUnits_of_finite price hProduct
    rw [hWhole] at hResult
    constructor
    · intro h
      rw [hResult, if_neg (Bool.eq_false_iff.mp h)]
    · intro h
      rw [hResult, if_pos h]
      exact ⟨_, rfl⟩

end Payment

end Tollgate
