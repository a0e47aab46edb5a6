import Mathlib.Tactic.Linarith
import Tollgate.Proofs.Worth

set_option autoImplicit false

/-! # The shortest digits

The digits that a floating-point number is shown with are those of a multiple of a power of ten that
rounds to the number. Everything that does (`RoundsTo`) is read as the number, also where the number
is a power of two and the next one below is half as far away (`ofQuotient_of_roundsTo`). Seventeen
digits are enough to find a multiple that rounds to the number (`exists_onGrid?`), so what is shown
is always read back (`reread_eq`).
-/

namespace Tollgate.Number

/-! ## Exponents of quotients -/

/-- The exponent of a quotient in some base, computed with a whole logarithm. A quotient below one
is turned upside down. -/
theorem exponent_bounds {base : Nat} (hBase : 0 < base) {log : Nat → Nat}
    (hLog : ∀ n, n ≠ 0 → base ^ log n ≤ n ∧ n < base ^ (log n + 1)) {num den : Nat}
    (hNum : 0 < num) (hDen : 0 < den) {l : Int}
    (hl : l = if den ≤ num then (log (num / den) : Int)
      else -((log ((den + num - 1) / num - 1) : Int) + 1)) :
    (base : ℚ) ^ l ≤ num / den ∧ (num / den : ℚ) < base ^ (l + 1) := by
  have hDenQ : (0 : ℚ) < den := by exact_mod_cast hDen
  have hBaseQ : (0 : ℚ) < base := by exact_mod_cast hBase
  rw [le_div_iff₀ hDenQ, div_lt_iff₀ hDenQ]
  split at hl
  · rename_i hLarge
    obtain ⟨hLow, hHigh⟩ := hLog (num / den) (Nat.pos_iff_ne_zero.mp (Nat.div_pos hLarge hDen))
    rw [hl, ← Nat.cast_succ, zpow_natCast, zpow_natCast]
    constructor
    · exact_mod_cast (Nat.le_div_iff_mul_le hDen).mp hLow
    · exact_mod_cast (Nat.div_lt_iff_lt_mul hDen).mp hHigh
  · -- the inverse is rounded up to the next whole number, which is one more than `(den - 1) / num`
    rename_i hSmall
    have hCeiling : (den + num - 1) / num - 1 = (den - 1) / num := by
      have hSum : den + num - 1 = den - 1 + num := by omega
      rw [hSum, Nat.add_div_right _ hNum, Nat.add_sub_cancel]
    have hSome : (den - 1) / num ≠ 0 :=
      Nat.pos_iff_ne_zero.mp (Nat.div_pos (by omega) hNum)
    obtain ⟨hLow, hHigh⟩ := hLog _ hSome
    rw [hCeiling] at hl
    generalize log ((den - 1) / num) = k at hl hLow hHigh
    have hAbove : den ≤ num * base ^ (k + 1) := by
      have hLess : den - 1 < base ^ (k + 1) * num := (Nat.div_lt_iff_lt_mul hNum).mp hHigh
      rw [Nat.mul_comm num]
      omega
    have hBelow : num * base ^ k < den := by
      calc num * base ^ k ≤ num * ((den - 1) / num) := Nat.mul_le_mul_left num hLow
        _ ≤ den - 1 := Nat.mul_div_le _ _
        _ < den := Nat.sub_lt hDen Nat.one_pos
    have hNext : l + 1 = -(k : Int) := by omega
    have hExp : l = -((k + 1 : ℕ) : Int) := by omega
    rw [hNext, hExp, zpow_neg, zpow_neg, zpow_natCast, zpow_natCast]
    constructor
    · rw [inv_mul_le_iff₀ (pow_pos hBaseQ _), mul_comm]
      exact_mod_cast hAbove
    · rw [← div_eq_inv_mul, lt_div_iff₀ (pow_pos hBaseQ _)]
      exact_mod_cast hBelow

/-- Only two whole numbers lie at most half a unit off. -/
theorem eq_or_eq_succ_of_near {num den n : Nat} (hDen : 0 < den)
    (hLow : 2 * n * den ≤ 2 * num + den) (hHigh : 2 * num ≤ (2 * n + 1) * den) :
    n = num / den ∨ n = num / den + 1 := by
  have hSplit := Nat.div_add_mod num den
  have hRest := Nat.mod_lt num hDen
  generalize num / den = s at hSplit ⊢
  generalize num % den = r at hSplit hRest
  have hLower : s ≤ n := by
    by_contra hLess
    have hTimes := Nat.mul_le_mul_right den (show 2 * n + 2 ≤ 2 * s by omega)
    nlinarith
  have hUpper : n ≤ s + 1 := by
    by_contra hMore
    have hTimes := Nat.mul_le_mul_right den (show 2 * s + 4 ≤ 2 * n by omega)
    nlinarith
  omega

/-- A whole number that lies at most half a unit off is what is rounded to, if it is even or does
not lie that far off. -/
theorem roundDiv_eq_of_near {num den n : Nat} (hLow : 2 * n * den ≤ 2 * num + den)
    (hHigh : 2 * num ≤ (2 * n + 1) * den)
    (hTie : n % 2 = 0 ∨ (2 * n * den < 2 * num + den ∧ 2 * num < (2 * n + 1) * den))
    (hDen : 0 < den) : roundDiv num den = n := by
  have hSplit := Nat.div_add_mod num den
  have hNear := eq_or_eq_succ_of_near hDen hLow hHigh
  unfold roundDiv
  simp only
  generalize num / den = s at hSplit hNear ⊢
  generalize num % den = r at hSplit ⊢
  -- the remainder tells on which side of the half the quotient lies
  rcases hNear with rfl | rfl
  · have hHalf : 2 * r ≤ den := by nlinarith
    have hUneven : n % 2 ≠ 0 → 2 * r < den := by
      intro hOdd
      have hStrict := (hTie.resolve_left hOdd).2
      nlinarith
    split
    · rfl
    · rw [if_neg (by omega), if_pos (by omega)]
  · have hHalf : den ≤ 2 * r := by nlinarith
    have hUneven : (s + 1) % 2 ≠ 0 → den < 2 * r := by
      intro hOdd
      have hStrict := (hTie.resolve_left hOdd).1
      nlinarith
    rw [if_neg (by omega)]
    split
    · rfl
    · rw [if_neg (by omega)]

namespace Binary64

theorem leadingBit_bounds {num den : Nat} (hNum : 0 < num) (hDen : 0 < den) :
    (2 : ℚ) ^ leadingBit num den ≤ num / den ∧ (num / den : ℚ) < 2 ^ (leadingBit num den + 1) := by
  have hLog : ∀ n : Nat, n ≠ 0 → 2 ^ n.log2 ≤ n ∧ n < 2 ^ (n.log2 + 1) :=
    fun n hn => ⟨Nat.log2_self_le hn, Nat.lt_log2_self⟩
  exact exponent_bounds (by decide) hLog hNum hDen rfl

theorem pow_wholeDigits_le {num den : Nat} (hNum : 0 < num) (hDen : 0 < den) :
    (10 : ℚ) ^ (wholeDigits num den - 1) ≤ num / den := by
  have hLog : ∀ n : Nat, n ≠ 0 → 10 ^ (digitCount n - 1) ≤ n ∧ n < 10 ^ (digitCount n - 1 + 1) := by
    intro n hn
    rw [Nat.sub_add_cancel (digitCount_pos n)]
    exact ⟨pow_digitCount_le hn, lt_pow_digitCount n⟩
  refine (exponent_bounds (by decide) hLog hNum hDen ?_).1
  unfold wholeDigits
  split
  · have hDigits := digitCount_pos (num / den)
    omega
  · have hDigits := digitCount_pos ((den + num - 1) / num - 1)
    simp only
    omega

theorem powerQuotient_eq (base : Nat) (e : Int) :
    ((powerQuotient base e).1 : ℚ) / (powerQuotient base e).2 = (base : ℚ) ^ e := by
  cases e with
  | ofNat k => simp [powerQuotient]
  | negSucc k => simp [powerQuotient, zpow_negSucc]

variable {m : Nat} {q : Int} {x : ℚ}

/-- The last bit of a number between `2 ^ (q + 52)` and the next power of two. Below, it stays where
it is when it cannot go further down. -/
theorem lastBit_eq {num den : Nat} (hNum : 0 < num) (hDen : 0 < den) (hq : -1074 ≤ q)
    (hHigh : (num / den : ℚ) < 2 ^ (q + 53))
    (hLow : (2 : ℚ) ^ (q + 52) ≤ num / den ∨ q = -1074) : lastBit num den = q := by
  have hTwo : (1 : ℚ) < 2 := by norm_num
  obtain ⟨hLead, hNext⟩ := leadingBit_bounds hNum hDen
  have hUpper := (zpow_lt_zpow_iff_right₀ hTwo).mp (hLead.trans_lt hHigh)
  unfold lastBit
  rcases hLow with hLow | rfl
  · have hLower := (zpow_lt_zpow_iff_right₀ hTwo).mp (hLow.trans_lt hNext)
    omega
  · omega

/-- The quotient in units of `2 ^ q` is rounded to a whole number that lies at most half a unit
off. -/
theorem scaled_eq_of_near {num den n : Nat} (hDen : 0 < den)
    (hLow : (4 * n - 2 : ℚ) * 2 ^ (q - 2) ≤ num / den)
    (hHigh : (num / den : ℚ) ≤ (4 * n + 2) * 2 ^ (q - 2))
    (hTie : n % 2 = 0 ∨ ((4 * n - 2 : ℚ) * 2 ^ (q - 2) < num / den ∧
      (num / den : ℚ) < (4 * n + 2) * 2 ^ (q - 2))) : scaled num den q = n := by
  obtain ⟨hUnitNum, hUnitDen⟩ := powerQuotient_pos 2 (by decide) q
  have hUnit := powerQuotient_eq 2 q
  have hQuarter : (2 : ℚ) ^ q = 4 * 2 ^ (q - 2) := by
    rw [show q = 2 + (q - 2) by omega, zpow_add₀ (by norm_num)]
    norm_num
  rw [Nat.cast_ofNat, hQuarter] at hUnit
  unfold scaled
  generalize powerQuotient 2 q = unit at hUnitNum hUnitDen hUnit
  obtain ⟨unitNum, unitDen⟩ := unit
  simp only at hUnitNum hUnitDen hUnit ⊢
  have hDenQ : (0 : ℚ) < den := by exact_mod_cast hDen
  have hUnitDenQ : (0 : ℚ) < unitDen := by exact_mod_cast hUnitDen
  have hScale : (0 : ℚ) < den * unitDen := mul_pos hDenQ hUnitDenQ
  generalize (2 : ℚ) ^ (q - 2) = u at hLow hHigh hTie hUnit
  have hUnitEq : (unitNum : ℚ) = 4 * u * unitDen := (div_eq_iff hUnitDenQ.ne').mp hUnit
  obtain ⟨x, hx⟩ : ∃ x : ℚ, (num / den : ℚ) = x := ⟨_, rfl⟩
  have hNumEq : (num : ℚ) = x * den := (div_eq_iff hDenQ.ne').mp hx
  rw [hx] at hLow hHigh hTie
  have hCastLow : ((2 * (num * unitDen) + den * unitNum : ℕ) : ℚ) - (2 * n * (den * unitNum) : ℕ) =
      den * unitDen * (2 * (x - (4 * n - 2) * u)) := by
    push_cast
    rw [hNumEq, hUnitEq]
    ring
  have hCastHigh : (((2 * n + 1) * (den * unitNum) : ℕ) : ℚ) - (2 * (num * unitDen) : ℕ) =
      den * unitDen * (2 * ((4 * n + 2) * u - x)) := by
    push_cast
    rw [hNumEq, hUnitEq]
    ring
  refine roundDiv_eq_of_near ?_ ?_ (hTie.imp_right fun hStrict => ⟨?_, ?_⟩)
    (Nat.mul_pos hDen hUnitNum)
  · rw [← Nat.cast_le (α := ℚ), ← sub_nonneg, hCastLow]
    exact mul_nonneg hScale.le (by linarith)
  · rw [← Nat.cast_le (α := ℚ), ← sub_nonneg, hCastHigh]
    exact mul_nonneg hScale.le (by linarith)
  · rw [← Nat.cast_lt (α := ℚ), ← sub_pos, hCastLow]
    exact mul_pos hScale (by linarith [hStrict.1])
  · rw [← Nat.cast_lt (α := ℚ), ← sub_pos, hCastHigh]
    exact mul_pos hScale (by linarith [hStrict.2])

/-! ## What rounds to a number -/

/-- A rational number rounds to `m · 2 ^ q`. The ends of the interval do if `m` is even. -/
def RoundsTo (m : Nat) (q : Int) (x : ℚ) : Prop :=
  if m % 2 = 0 then lowerQuarter m q * 2 ^ (q - 2) ≤ x ∧ x ≤ (4 * m + 2) * 2 ^ (q - 2)
  else lowerQuarter m q * 2 ^ (q - 2) < x ∧ x < (4 * m + 2) * 2 ^ (q - 2)

theorem roundsTo_of_lt (hLow : lowerQuarter m q * (2 : ℚ) ^ (q - 2) < x)
    (hHigh : x < (4 * m + 2) * (2 : ℚ) ^ (q - 2)) : RoundsTo m q x := by
  unfold RoundsTo
  split
  · exact ⟨hLow.le, hHigh.le⟩
  · exact ⟨hLow, hHigh⟩

theorem RoundsTo.low (h : RoundsTo m q x) : lowerQuarter m q * (2 : ℚ) ^ (q - 2) ≤ x := by
  unfold RoundsTo at h
  split at h
  · exact h.1
  · exact h.1.le

theorem RoundsTo.high (h : RoundsTo m q x) : x ≤ (4 * m + 2) * (2 : ℚ) ^ (q - 2) := by
  unfold RoundsTo at h
  split at h
  · exact h.2
  · exact h.2.le

theorem two_zpow_pos (e : Int) : (0 : ℚ) < 2 ^ e :=
  zpow_pos (by norm_num) e

theorem RoundsTo.pos (h : RoundsTo m q x) (hm : m ≠ 0) : 0 < x := by
  have hLower : (0 : ℚ) < lowerQuarter m q := by exact_mod_cast lowerQuarter_pos hm q
  exact (mul_pos hLower (two_zpow_pos _)).trans_le h.low

theorem four_mul_sub_two_le_lowerQuarter (m : Nat) (q : Int) :
    (4 * m - 2 : ℚ) ≤ lowerQuarter m q := by
  have hNat : 4 * m ≤ lowerQuarter m q + 2 := by
    unfold lowerQuarter
    split <;> omega
  have hCast : (4 * m : ℚ) ≤ lowerQuarter m q + 2 := by exact_mod_cast hNat
  linarith

/-- In units of its last bit, what rounds to a number lies at most half a unit off. -/
theorem RoundsTo.near (h : RoundsTo m q x) : (4 * m - 2 : ℚ) * 2 ^ (q - 2) ≤ x ∧
    (m % 2 = 0 ∨ ((4 * m - 2 : ℚ) * 2 ^ (q - 2) < x ∧ x < (4 * m + 2) * 2 ^ (q - 2))) := by
  have hLower := mul_le_mul_of_nonneg_right (four_mul_sub_two_le_lowerQuarter m q)
    (two_zpow_pos (q - 2)).le
  refine ⟨hLower.trans h.low, ?_⟩
  unfold RoundsTo at h
  split at h
  · rename_i hEven
    exact Or.inl hEven
  · exact Or.inr ⟨hLower.trans_lt h.1, h.2⟩

theorem two_zpow_scale (q : Int) (j : Nat) : (2 : ℚ) ^ (q - 2 + j) = 2 ^ j * 2 ^ (q - 2) := by
  rw [zpow_add₀ (by norm_num), zpow_natCast, mul_comm]

/-- Half a unit above a number is below the next power of two. -/
theorem RoundsTo.lt_pow (h : RoundsTo m q x) (hm : m < 2 ^ 53) : x < 2 ^ (q + 53) := by
  have hCount : (4 * m + 2 : ℚ) < 2 ^ 55 := by
    have hNat : 4 * m + 2 < 2 ^ 55 := by omega
    exact_mod_cast hNat
  calc x ≤ (4 * m + 2) * 2 ^ (q - 2) := h.high
    _ < 2 ^ 55 * 2 ^ (q - 2) := mul_lt_mul_of_pos_right hCount (two_zpow_pos _)
    _ = 2 ^ (q + 53) := by
        rw [← two_zpow_scale]
        congr 1
        omega

/-- Only what rounds to a power of two can lie below it. -/
theorem RoundsTo.eq_pow_of_lt (h : RoundsTo m q x) (hm : 2 ^ 52 ≤ m) (hx : x < 2 ^ (q + 52)) :
    m = 2 ^ 52 := by
  by_contra hne
  have hCount : (2 ^ 54 : ℚ) ≤ 4 * m - 2 := by
    have hNat : 2 ^ 54 + 2 ≤ 4 * m := by omega
    have hCast : (2 ^ 54 + 2 : ℚ) ≤ 4 * m := by exact_mod_cast hNat
    linarith
  have hLarge : (2 : ℚ) ^ (q + 52) ≤ x := by
    calc (2 : ℚ) ^ (q + 52) = 2 ^ 54 * 2 ^ (q - 2) := by
          rw [← two_zpow_scale]
          congr 1
          omega
      _ ≤ (4 * m - 2) * 2 ^ (q - 2) := mul_le_mul_of_nonneg_right hCount (two_zpow_pos _).le
      _ ≤ x := h.near.1
  exact absurd hx (not_lt.mpr hLarge)

/-- Below a power of two the last bit stands one place further down, and what rounds to the power is
rounded up to it. -/
theorem scaled_below_pow {num den : Nat} (hNum : 0 < num) (hDen : 0 < den) (hq : -1074 < q)
    (h : RoundsTo (2 ^ 52) q (num / den)) (hBelow : (num / den : ℚ) < 2 ^ (q + 52)) :
    lastBit num den = q - 1 ∧ scaled num den (q - 1) = 2 ^ 53 := by
  have hLower : lowerQuarter (2 ^ 52) q = 4 * 2 ^ 52 - 1 := if_pos ⟨rfl, hq⟩
  have hUnit : (2 : ℚ) ^ (q - 2) = 2 * 2 ^ (q - 1 - 2) := by
    rw [show q - 2 = 1 + (q - 1 - 2) by omega, zpow_add₀ (by norm_num), zpow_one]
  have hPos := two_zpow_pos (q - 1 - 2)
  have hLow : (4 * 2 ^ 53 - 2 : ℚ) * 2 ^ (q - 1 - 2) ≤ num / den := by
    have hFrom := h.low
    rw [hLower, hUnit] at hFrom
    norm_num at hFrom ⊢
    linarith
  have hHigh : (num / den : ℚ) < 2 ^ (q - 1 + 53) := by
    rw [show q - 1 + 53 = q + 52 by omega]
    exact hBelow
  have hLarge : (2 : ℚ) ^ (q - 1 + 52) ≤ num / den := by
    refine le_trans ?_ hLow
    rw [show q - 1 + 52 = q - 1 - 2 + (54 : ℕ) by omega, two_zpow_scale (q - 1)]
    exact mul_le_mul_of_nonneg_right (by norm_num) hPos.le
  have hBound : (num / den : ℚ) ≤ (4 * 2 ^ 53 + 2) * 2 ^ (q - 1 - 2) := by
    refine hHigh.le.trans ?_
    rw [show q - 1 + 53 = q - 1 - 2 + (55 : ℕ) by omega, two_zpow_scale (q - 1)]
    exact mul_le_mul_of_nonneg_right (by norm_num) hPos.le
  exact ⟨lastBit_eq hNum hDen (by omega) hHigh (Or.inl hLarge),
    scaled_eq_of_near hDen (by exact_mod_cast hLow) (by exact_mod_cast hBound)
      (Or.inl (by norm_num))⟩

theorem ofParts_eq (hCanonical : IsCanonical m q) (negative : Bool) :
    ofParts negative m q = .finite negative m q hCanonical :=
  dif_pos hCanonical

/-- **What rounds to a number is read as the number.** -/
theorem ofQuotient_of_roundsTo (hCanonical : IsCanonical m q) (hm : m ≠ 0) {num den : Nat}
    (hDen : 0 < den) (h : RoundsTo m q (num / den)) (negative : Bool) :
    ofQuotient negative num den = .finite negative m q hCanonical := by
  have ⟨hBits, hBottom, _, hFull⟩ := hCanonical
  have hNum : num ≠ 0 := by
    rintro rfl
    have hPos := h.pos hm
    rw [Nat.cast_zero, zero_div] at hPos
    exact lt_irrefl 0 hPos
  have hNumPos := Nat.pos_of_ne_zero hNum
  unfold ofQuotient
  rw [if_neg hNum, ← ofParts_eq hCanonical negative]
  by_cases hNormal : (2 : ℚ) ^ (q + 52) ≤ num / den ∨ q = -1074
  · have hLast := lastBit_eq hNumPos hDen hBottom (h.lt_pow hBits) hNormal
    have hScaled := scaled_eq_of_near hDen h.near.1 h.high h.near.2
    simp only [hLast, hScaled]
    exact if_neg hBits.ne
  · rw [not_or, not_le] at hNormal
    obtain rfl := h.eq_pow_of_lt (hFull.resolve_right hNormal.2) hNormal.1
    have hAbove : -1074 < q := lt_of_le_of_ne hBottom (Ne.symm hNormal.2)
    obtain ⟨hLast, hScaled⟩ := scaled_below_pow hNumPos hDen hAbove h hNormal.1
    have hUp : q - 1 + 1 = q := by omega
    simp only [hLast, hScaled, hUp]
    exact if_pos rfl

/-! ## Digits that round to a number -/

/-- The multiple `c` of `10 ^ k` lies inside, as it is checked in whole numbers. -/
def isInside (m : Nat) (q k : Int) (c : Nat) : Bool :=
  let (unitNum, unitDen) := powerQuotient 2 (q - 2)
  let (gridNum, gridDen) := powerQuotient 10 k
  let a := unitNum * gridDen
  let b := gridNum * unitDen
  if m % 2 = 0 then lowerQuarter m q * a ≤ c * b && c * b ≤ (4 * m + 2) * a
  else lowerQuarter m q * a < c * b && c * b < (4 * m + 2) * a

/-- The number `m · 2 ^ q` in units of `10 ^ k`, as a quotient. -/
def gridQuotient (m : Nat) (q k : Int) : Nat × Nat :=
  let (unitNum, unitDen) := powerQuotient 2 (q - 2)
  let (gridNum, gridDen) := powerQuotient 10 k
  (4 * m * (unitNum * gridDen), gridNum * unitDen)

theorem onGrid?_eq (m : Nat) (q k : Int) : onGrid? m q k =
    let (value, unit) := gridQuotient m q k
    match isInside m q k (value / unit), isInside m q k (value / unit + 1) with
    | true, true => some (roundDiv value unit)
    | true, false => some (value / unit)
    | false, true => some (value / unit + 1)
    | false, false => none :=
  rfl

/-- The whole numbers that are compared, over a common denominator. -/
theorem grid_le_iff (q k : Int) (n c : Nat) :
    (n * ((powerQuotient 2 (q - 2)).1 * (powerQuotient 10 k).2) ≤
        c * ((powerQuotient 10 k).1 * (powerQuotient 2 (q - 2)).2) ↔
      (n : ℚ) * 2 ^ (q - 2) ≤ c * 10 ^ k) ∧
    (c * ((powerQuotient 10 k).1 * (powerQuotient 2 (q - 2)).2) ≤
        n * ((powerQuotient 2 (q - 2)).1 * (powerQuotient 10 k).2) ↔
      (c : ℚ) * 10 ^ k ≤ n * 2 ^ (q - 2)) := by
  obtain ⟨-, hUnitDen⟩ := powerQuotient_pos 2 (by decide) (q - 2)
  obtain ⟨-, hGridDen⟩ := powerQuotient_pos 10 (by decide) k
  have hUnit := powerQuotient_eq 2 (q - 2)
  have hGrid := powerQuotient_eq 10 k
  generalize powerQuotient 2 (q - 2) = unit at *
  generalize powerQuotient 10 k = grid at *
  have hUnitQ : (0 : ℚ) < unit.2 := by exact_mod_cast hUnitDen
  have hGridQ : (0 : ℚ) < grid.2 := by exact_mod_cast hGridDen
  have hScale : (0 : ℚ) < unit.2 * grid.2 := mul_pos hUnitQ hGridQ
  have hLeft : ((n * (unit.1 * grid.2) : ℕ) : ℚ) = unit.2 * grid.2 * (n * 2 ^ (q - 2)) := by
    push_cast
    rw [← Nat.cast_ofNat, ← hUnit]
    field_simp
  have hRight : ((c * (grid.1 * unit.2) : ℕ) : ℚ) = unit.2 * grid.2 * (c * 10 ^ k) := by
    push_cast
    rw [← Nat.cast_ofNat, ← hGrid]
    field_simp
  rw [← Nat.cast_le (α := ℚ), ← Nat.cast_le (α := ℚ), hLeft, hRight, mul_le_mul_iff_right₀ hScale,
    mul_le_mul_iff_right₀ hScale]
  exact ⟨Iff.rfl, Iff.rfl⟩

theorem isInside_iff {k : Int} {c : Nat} :
    isInside m q k c = true ↔ RoundsTo m q (c * 10 ^ k) := by
  obtain ⟨hLowLe, hLowGe⟩ := grid_le_iff q k (lowerQuarter m q) c
  obtain ⟨hHighLe, hHighGe⟩ := grid_le_iff q k (4 * m + 2) c
  have hCast : ((4 * m + 2 : ℕ) : ℚ) = 4 * m + 2 := by push_cast; ring
  rw [hCast] at hHighLe hHighGe
  unfold isInside RoundsTo
  simp only
  split
  · rw [Bool.and_eq_true, decide_eq_true_eq, decide_eq_true_eq, hLowLe, hHighGe]
  · rw [Bool.and_eq_true, decide_eq_true_eq, decide_eq_true_eq, ← not_le, ← not_le, hLowGe, hHighLe,
      not_le, not_le]

/-- A multiple that is found rounds to the number. -/
theorem roundsTo_of_onGrid? {k : Int} {c : Nat} (h : onGrid? m q k = some c) :
    RoundsTo m q (c * 10 ^ k) := by
  rw [onGrid?_eq] at h
  simp only at h
  rw [← isInside_iff]
  split at h
  · rename_i hBelow hAbove
    obtain rfl := Option.some.inj h
    rcases roundDiv_eq_or (gridQuotient m q k).1 (gridQuotient m q k).2 with hRound | hRound
    · rw [hRound]
      exact hBelow
    · rw [hRound]
      exact hAbove
  · rename_i hBelow _
    exact Option.some.inj h ▸ hBelow
  · rename_i hAbove
    exact Option.some.inj h ▸ hAbove
  · cases h

theorem quarter_eq (m : Nat) (q : Int) : (m : ℚ) * 2 ^ q = 4 * m * 2 ^ (q - 2) := by
  have hUnit : (2 : ℚ) ^ q = 2 ^ 2 * 2 ^ (q - 2) := by
    rw [← two_zpow_scale]
    congr 1
    omega
  rw [hUnit]
  ring

/-- The multiples around a number. -/
theorem gridQuotient_near (m : Nat) (q k : Int) {below : Nat}
    (h : below = (gridQuotient m q k).1 / (gridQuotient m q k).2) :
    (below : ℚ) * 10 ^ k ≤ 4 * m * 2 ^ (q - 2) ∧
      (4 * m * 2 ^ (q - 2) : ℚ) < (below + 1) * 10 ^ k := by
  have hUnit : 0 < (gridQuotient m q k).2 :=
    Nat.mul_pos (powerQuotient_pos 10 (by decide) k).1 (powerQuotient_pos 2 (by decide) _).2
  have hLow := (grid_le_iff q k (4 * m) below).2.mp (h ▸ Nat.div_mul_le_self _ _)
  have hHigh := mt (grid_le_iff q k (4 * m) (below + 1)).2.mpr
    (not_le.mpr ((Nat.div_lt_iff_lt_mul hUnit).mp (h ▸ Nat.lt_succ_self below)))
  push_cast at hLow hHigh
  exact ⟨hLow, not_le.mp hHigh⟩

/-- Seventeen digits are closer together than the numbers. -/
theorem lt_interval (hBits : m < 2 ^ 53) (q : Int) :
    (4 * m : ℚ) < 10 ^ 16 * (4 * m + 2 - lowerQuarter m q) := by
  have hNat : 4 * m + 10 ^ 16 * lowerQuarter m q < 10 ^ 16 * (4 * m + 2) := by
    unfold lowerQuarter
    split
    · -- the interval is narrower here, but so is the number smaller
      rename_i hPower
      have hSmall : m = 2 ^ 52 := hPower.1
      omega
    · omega
  have hCast : (4 * m + 10 ^ 16 * lowerQuarter m q : ℚ) < 10 ^ 16 * (4 * m + 2) := by
    exact_mod_cast hNat
  linarith

theorem lowerQuarter_lt (hm : m ≠ 0) (q : Int) :
    lowerQuarter m q * (2 : ℚ) ^ (q - 2) < 4 * m * 2 ^ (q - 2) := by
  have hNat : lowerQuarter m q < 4 * m := by
    unfold lowerQuarter
    split <;> omega
  exact mul_lt_mul_of_pos_right (by exact_mod_cast hNat) (two_zpow_pos _)

/-- Of two points around a number one rounds to it, if they lie closer together than the ends of the
interval. -/
theorem roundsTo_or_roundsTo (hm : m ≠ 0) (hBits : m < 2 ^ 53) {below unit : ℚ}
    (hLow : below * unit ≤ 4 * m * 2 ^ (q - 2)) (hHigh : 4 * m * 2 ^ (q - 2) < (below + 1) * unit)
    (hFine : 10 ^ 16 * unit ≤ 4 * m * 2 ^ (q - 2)) :
    RoundsTo m q (below * unit) ∨ RoundsTo m q ((below + 1) * unit) := by
  by_contra hNeither
  rw [not_or] at hNeither
  have hQuarter := two_zpow_pos (q - 2)
  have hFirst : below * unit ≤ lowerQuarter m q * 2 ^ (q - 2) := by
    by_contra hlt
    refine hNeither.1 (roundsTo_of_lt (not_le.mp hlt) (hLow.trans_lt ?_))
    exact mul_lt_mul_of_pos_right (by linarith) hQuarter
  have hSecond : (4 * m + 2 : ℚ) * 2 ^ (q - 2) ≤ (below + 1) * unit := by
    by_contra hlt
    exact hNeither.2 (roundsTo_of_lt ((lowerQuarter_lt hm q).trans hHigh) (not_le.mp hlt))
  -- so the interval lies between the points
  have hWide : (4 * m + 2 - lowerQuarter m q : ℚ) * 2 ^ (q - 2) ≤ unit := by linarith
  have hNarrow : (10 ^ 16 * unit : ℚ) < 10 ^ 16 * unit := by
    calc (10 ^ 16 * unit : ℚ) ≤ 4 * m * 2 ^ (q - 2) := hFine
      _ < 10 ^ 16 * (4 * m + 2 - lowerQuarter m q) * 2 ^ (q - 2) :=
          mul_lt_mul_of_pos_right (lt_interval hBits q) hQuarter
      _ = 10 ^ 16 * ((4 * m + 2 - lowerQuarter m q) * 2 ^ (q - 2)) := mul_assoc _ _ _
      _ ≤ 10 ^ 16 * unit := mul_le_mul_of_nonneg_left hWide (by norm_num)
  exact lt_irrefl _ hNarrow

/-- Multiples that lie closer together than the interval is wide do not miss it. -/
theorem exists_onGrid? {k : Int} (hm : m ≠ 0) (hBits : m < 2 ^ 53)
    (hk : (10 : ℚ) ^ (k + 16) ≤ m * 2 ^ q) : ∃ c, onGrid? m q k = some c := by
  obtain ⟨below, hBelow⟩ : ∃ n, n = (gridQuotient m q k).1 / (gridQuotient m q k).2 := ⟨_, rfl⟩
  obtain ⟨hLow, hHigh⟩ := gridQuotient_near m q k hBelow
  have hFine : (10 : ℚ) ^ 16 * 10 ^ k ≤ 4 * m * 2 ^ (q - 2) := by
    calc (10 : ℚ) ^ 16 * 10 ^ k = 10 ^ (k + 16) := by
          rw [zpow_add₀ (by norm_num), mul_comm]
          norm_num
      _ ≤ m * 2 ^ q := hk
      _ = 4 * m * 2 ^ (q - 2) := quarter_eq m q
  have hInside : isInside m q k below = true ∨ isInside m q k (below + 1) = true := by
    rw [isInside_iff, isInside_iff, Nat.cast_add, Nat.cast_one]
    exact roundsTo_or_roundsTo hm hBits hLow hHigh hFine
  rw [onGrid?_eq]
  simp only [← hBelow]
  split
  · exact ⟨_, rfl⟩
  · exact ⟨_, rfl⟩
  · exact ⟨_, rfl⟩
  · rename_i hFirst hSecond
    rw [hFirst, hSecond] at hInside
    simp at hInside

/-! ## Reading back -/

theorem dropZeros_eq (fuel c : Nat) (e : Int) :
    ((dropZeros fuel c e).1 : ℚ) * 10 ^ (dropZeros fuel c e).2 = c * 10 ^ e := by
  induction fuel generalizing c e with
  | zero => rfl
  | succ fuel ih =>
      unfold dropZeros
      split
      · rename_i hZero
        have hTens : c = c / 10 * Nat.pow 10 1 := by
          show c = c / 10 * 10
          omega
        rw [ih, ← magnitude_padded (c / 10) 1, ← hTens]
        congr 2
        omega
      · rfl

theorem pow_wholeDigits_unit_le (hm : m ≠ 0) (q : Int) :
    (10 : ℚ) ^ (wholeDigits (m * (powerQuotient 2 q).1) (powerQuotient 2 q).2 - 1) ≤ m * 2 ^ q := by
  obtain ⟨hUnitNum, hUnitDen⟩ := powerQuotient_pos 2 (by decide) q
  have hLead := pow_wholeDigits_le (Nat.mul_pos (Nat.pos_of_ne_zero hm) hUnitNum) hUnitDen
  have hUnit := powerQuotient_eq 2 q
  rwa [Nat.cast_mul, mul_div_assoc, hUnit, Nat.cast_ofNat] at hLead

/-- The shortest digits are those of a multiple of a power of ten that rounds to the number. -/
theorem roundsTo_shortestDigits (hCanonical : IsCanonical m q) (hm : m ≠ 0) :
    RoundsTo m q ((shortestDigits m q).1 * 10 ^ (shortestDigits m q).2) := by
  have hLead := pow_wholeDigits_unit_le hm q
  unfold shortestDigits
  rw [if_neg hm]
  simp only
  split
  · rename_i c k hHit
    obtain ⟨i, -, hGrid⟩ := List.exists_of_findSome?_eq_some hHit
    obtain ⟨c', hPoint, hSame⟩ := Option.map_eq_some_iff.mp hGrid
    obtain ⟨rfl, rfl⟩ := Prod.mk.inj hSame
    rw [dropZeros_eq]
    exact roundsTo_of_onGrid? hPoint
  · -- with seventeen digits one was found
    rename_i hNone
    have hLast := List.findSome?_eq_none_iff.mp hNone 16 (by decide)
    rw [Option.map_eq_none_iff] at hLast
    generalize wholeDigits (m * (powerQuotient 2 q).1) (powerQuotient 2 q).2 = e at hLead hLast
    have hFine : (10 : ℚ) ^ (e - (16 + 1 : ℕ) + 16) ≤ m * 2 ^ q := by
      rw [show e - (16 + 1 : ℕ) + 16 = e - 1 by omega]
      exact hLead
    obtain ⟨c, hSome⟩ := exists_onGrid? hm hCanonical.1 hFine
    rw [hSome] at hLast
    cases hLast

/-- What rounds to a number is far from the ends of what is read by computing. -/
theorem RoundsTo.leadingExponent_bounds (hCanonical : IsCanonical m q) (hm : m ≠ 0) {c : Nat}
    {e : Int} (hc : c ≠ 0) (h : RoundsTo m q (c * 10 ^ e)) :
    -400 ≤ Decimal.leadingExponent c e ∧ Decimal.leadingExponent c e ≤ 400 := by
  have hTen : (1 : ℚ) < 10 := by norm_num
  have hPower : (2 : ℚ) ^ (3 * 400 : Int) < 10 ^ (400 : Int) := by
    have hBase : (2 : ℚ) ^ (3 : Int) < 10 := by norm_num
    rw [zpow_mul]
    exact zpow_lt_zpow_left₀ (by norm_num) (by norm_num) hBase
  obtain ⟨hBits, hBottom, hTop, -⟩ := hCanonical
  have hLead := Decimal.pow_leadingExponent_le hc e
  have hNext := Decimal.lt_pow_leadingExponent c e
  have hSmall : (10 : ℚ) ^ (-400 : Int) < c * 10 ^ e := by
    have hLower : (1 : ℚ) ≤ lowerQuarter m q := by exact_mod_cast lowerQuarter_pos hm q
    calc (10 : ℚ) ^ (-400 : Int) < 2 ^ (-(3 * 400) : Int) := by
          rw [zpow_neg, zpow_neg]
          exact inv_strictAnti₀ (two_zpow_pos _) hPower
      _ ≤ 2 ^ (q - 2) := zpow_le_zpow_right₀ (by norm_num) (by omega)
      _ ≤ lowerQuarter m q * 2 ^ (q - 2) := le_mul_of_one_le_left (two_zpow_pos _).le hLower
      _ ≤ c * 10 ^ e := h.low
  have hLarge : (c : ℚ) * 10 ^ e < 10 ^ (400 : Int) := by
    calc (c : ℚ) * 10 ^ e < 2 ^ (q + 53) := h.lt_pow hBits
      _ ≤ 2 ^ (3 * 400 : Int) := zpow_le_zpow_right₀ (by norm_num) (by omega)
      _ < 10 ^ (400 : Int) := hPower
  have hFirst := (zpow_lt_zpow_iff_right₀ hTen).mp (hSmall.trans hNext)
  have hSecond := (zpow_lt_zpow_iff_right₀ hTen).mp (hLead.trans_lt hLarge)
  omega

theorem ofDecimal_eq_ofQuotient (negative : Bool) {c : Nat} {e : Int} (hc : c ≠ 0)
    (hLow : -400 ≤ Decimal.leadingExponent c e) (hHigh : Decimal.leadingExponent c e ≤ 400) :
    ofDecimal negative c e =
      ofQuotient negative (c * (powerQuotient 10 e).1) (powerQuotient 10 e).2 := by
  unfold ofDecimal
  rw [if_neg (not_or.mpr ⟨hc, not_lt.mpr hLow⟩), if_neg (not_lt.mpr hHigh)]

/-- What rounds to a number is read as the number also where it is written as a decimal. -/
theorem ofDecimal_of_roundsTo (hCanonical : IsCanonical m q) (hm : m ≠ 0) {c : Nat} {e : Int}
    (h : RoundsTo m q (c * 10 ^ e)) (negative : Bool) :
    ofDecimal negative c e = .finite negative m q hCanonical := by
  have hSome : c ≠ 0 := by
    rintro rfl
    have hPos := h.pos hm
    rw [Nat.cast_zero, zero_mul] at hPos
    exact lt_irrefl 0 hPos
  obtain ⟨hLow, hHigh⟩ := h.leadingExponent_bounds hCanonical hm hSome
  rw [ofDecimal_eq_ofQuotient negative hSome hLow hHigh]
  refine ofQuotient_of_roundsTo hCanonical hm (powerQuotient_pos 10 (by decide) e).2 ?_ negative
  rw [Nat.cast_mul, mul_div_assoc, powerQuotient_eq 10 e, Nat.cast_ofNat]
  exact h

/-- The last bit of zero stands as far down as it can. -/
theorem exponent_of_zero (hCanonical : IsCanonical 0 q) : q = -1074 := by
  obtain ⟨-, -, -, hFull⟩ := hCanonical
  exact hFull.resolve_left (by decide)

/-- **The shortest digits are read back** as the number that they show. -/
theorem reread_eq (x : Binary64) : x.reread = x := by
  cases x with
  | infinite negative => rfl
  | nan => rfl
  | finite negative m q hCanonical =>
      by_cases hm : m = 0
      · subst hm
        obtain rfl := exponent_of_zero hCanonical
        rfl
      · exact ofDecimal_of_roundsTo hCanonical hm (roundsTo_shortestDigits hCanonical hm) negative

end Binary64

end Tollgate.Number
