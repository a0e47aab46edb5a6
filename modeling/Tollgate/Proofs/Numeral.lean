import Tollgate.Json.Reader
import Tollgate.Json.Writer

set_option autoImplicit false

/-! # Numbers that are read back

Reading a number takes the longest numeral at the front of a text. So it takes all of a number
that was written if nothing behind it could go on with one (`EndsNumber`). An integer is read back
as it was (`readNumber_intText`), and the text of a finite floating-point number as the number
nearest to the decimal that its digits spell (`readNumber_shortText`).
-/

namespace Tollgate

/-! ## Digits -/

namespace Number

open Tollgate.Text

theorem asciiDigitValue?_of_isDigit {c : Char} (h : c.isDigit = true) :
    asciiDigitValue? c = some (c.toNat - '0'.toNat) := by
  have hBounds : '0' ≤ c ∧ c ≤ '9' := by
    simp only [Char.isDigit, Bool.and_eq_true, decide_eq_true_eq] at h
    exact h
  exact if_pos hBounds

theorem isDigit_of_mem_natText {n : Nat} : ∀ c ∈ natText n, c.isDigit = true :=
  fun _ hc => Nat.isDigit_of_mem_toDigits (by decide) (by decide) hc

theorem natText_ne_nil (n : Nat) : natText n ≠ [] :=
  Nat.toDigits_ne_nil

/-- A numeral begins with a zero only if it is that of zero. -/
theorem head?_natText {n : Nat} (hn : n ≠ 0) : (natText n).head? ≠ some '0' := by
  induction n using Nat.strongRecOn with
  | ind n ih =>
      unfold natText at ih ⊢
      rw [Nat.toDigits_eq_if (by decide)]
      split
      · rename_i hSmall
        have key : ∀ m : Fin 10, m.val ≠ 0 → [m.val.digitChar].head? ≠ some '0' := by decide
        exact key ⟨n, hSmall⟩ hn
      · rename_i hLarge
        have hFront := ih (n / 10) (by omega) (by omega)
        rw [List.head?_append]
        cases hDigits : Nat.toDigits 10 (n / 10) with
        | nil => exact absurd hDigits Nat.toDigits_ne_nil
        | cons d ds => rwa [hDigits] at hFront

/-- The value of the digits of a text, in the two ways of folding it. -/
theorem ofDigits_filterMap {cs : List Char} (h : ∀ c ∈ cs, c.isDigit = true) :
    ofDigits (cs.filterMap asciiDigitValue?) = Nat.ofDigitChars 10 cs 0 := by
  unfold ofDigits
  generalize 0 = init
  induction cs generalizing init with
  | nil => rfl
  | cons c cs ih =>
      obtain ⟨hc, hcs⟩ := List.forall_mem_cons.mp h
      rw [List.filterMap_cons_some (asciiDigitValue?_of_isDigit hc), List.foldl_cons, ih hcs,
        Nat.ofDigitChars_cons]

theorem length_filterMap {cs : List Char} (h : ∀ c ∈ cs, c.isDigit = true) :
    (cs.filterMap asciiDigitValue?).length = cs.length := by
  induction cs with
  | nil => rfl
  | cons c cs ih =>
      obtain ⟨hc, hcs⟩ := List.forall_mem_cons.mp h
      rw [List.filterMap_cons_some (asciiDigitValue?_of_isDigit hc), List.length_cons, ih hcs,
        List.length_cons]

theorem ofDigitChars_natText (n : Nat) : Nat.ofDigitChars 10 (natText n) 0 = n :=
  Nat.ofDigitChars_ten_toDigits

theorem isOverlong_eq_false_iff {n : Int} :
    isOverlong n = false ↔ n.natAbs < Nat.pow 10 digitLimit := by
  unfold isOverlong
  rw [decide_eq_false_iff_not, Nat.not_le]

/-- An integer may be written if it has no more digits than may be read. -/
theorem isOverlong_eq_false_iff_digitCount {n : Int} :
    isOverlong n = false ↔ digitCount n.natAbs ≤ digitLimit := by
  unfold digitCount natText
  rw [Nat.length_toDigits_le_iff (by decide) (by decide), isOverlong_eq_false_iff, Nat.pow_eq]

/-- An integer of few digits is not too long. -/
theorem isOverlong_of_lt {n : Int} (h : n.natAbs < 1000) : isOverlong n = false := by
  have hLimit : 3 ≤ digitLimit := by decide
  rw [isOverlong_eq_false_iff]
  calc n.natAbs < Nat.pow 10 3 := h
    _ ≤ Nat.pow 10 digitLimit := Nat.pow_le_pow_right (by decide) hLimit

end Number

/-! ## Decimals as floating-point numbers

A decimal may be written with more digits and a smaller exponent. What is nearest to it does not
change. -/

namespace Number

theorem digitCount_mul_pow {c : Nat} (hc : c ≠ 0) (j : Nat) :
    digitCount (c * Nat.pow 10 j) = digitCount c + j := by
  induction j with
  | zero => exact congrArg digitCount (Nat.mul_one c)
  | succ j ih =>
      have hPos : 0 < c * Nat.pow 10 j :=
        Nat.mul_pos (Nat.pos_of_ne_zero hc) (Nat.pow_pos (by decide))
      have hNext : c * Nat.pow 10 (j + 1) = 10 * (c * Nat.pow 10 j) + 0 := by
        show c * (Nat.pow 10 j * 10) = 10 * (c * Nat.pow 10 j)
        ac_rfl
      have hDigits : natText (c * Nat.pow 10 (j + 1)) = natText (c * Nat.pow 10 j) ++ ['0'] := by
        unfold natText
        rw [hNext, ← Nat.toDigits_append_toDigits (by decide) hPos (by decide)]
        rfl
      unfold digitCount at ih ⊢
      rw [hDigits, List.length_append, ih]
      rfl

theorem roundDiv_mul_right (num den : Nat) {k : Nat} (hk : 0 < k) :
    roundDiv (num * k) (den * k) = roundDiv num den := by
  have hDiv : num * k / (den * k) = num / den := Nat.mul_div_mul_right num den hk
  have hMod : num * k % (den * k) = num % den * k := Nat.mul_mod_mul_right k num den
  have hBelow : 2 * (num % den * k) < den * k ↔ 2 * (num % den) < den := by
    rw [← Nat.mul_assoc]
    exact Nat.mul_lt_mul_right hk
  have hAbove : den * k < 2 * (num % den * k) ↔ den < 2 * (num % den) := by
    rw [← Nat.mul_assoc]
    exact Nat.mul_lt_mul_right hk
  simp only [roundDiv, hDiv, hMod, hBelow, hAbove]

/-- Rounding goes to the quotient or to the next number. -/
theorem roundDiv_eq_or (num den : Nat) :
    roundDiv num den = num / den ∨ roundDiv num den = num / den + 1 := by
  unfold roundDiv
  simp only
  split
  · exact Or.inl rfl
  split
  · exact Or.inr rfl
  split
  · exact Or.inl rfl
  · exact Or.inr rfl

theorem div_le_roundDiv (num den : Nat) : num / den ≤ roundDiv num den := by
  rcases roundDiv_eq_or num den with hRound | hRound
  · exact Nat.le_of_eq hRound.symm
  · exact hRound ▸ Nat.le_succ _

theorem roundDiv_le_div_succ (num den : Nat) : roundDiv num den ≤ num / den + 1 := by
  rcases roundDiv_eq_or num den with hRound | hRound
  · exact hRound ▸ Nat.le_succ _
  · exact Nat.le_of_eq hRound

namespace Binary64

theorem leadingBit_mul_right (num den : Nat) {k : Nat} (hk : 0 < k) (hnum : 0 < num) :
    leadingBit (num * k) (den * k) = leadingBit num den := by
  have hLe : den * k ≤ num * k ↔ den ≤ num := Nat.mul_le_mul_right_iff hk
  have hDiv : num * k / (den * k) = num / den := Nat.mul_div_mul_right num den hk
  have hCeiling : (den * k + num * k - 1) / (num * k) = (den + num - 1) / num := by
    have hOne : den * k + num * k - 1 = k * (den + num - 1) + (k - 1) := by
      have hSum : den + num = (den + num - 1) + 1 := by omega
      rw [← Nat.add_mul, hSum, Nat.add_sub_cancel, Nat.add_mul, Nat.one_mul, Nat.mul_comm k]
      omega
    calc (den * k + num * k - 1) / (num * k)
        = (k * (den + num - 1) + (k - 1)) / k / num := by
          rw [hOne, Nat.mul_comm num k, Nat.div_div_eq_div_mul]
      _ = (den + num - 1) / num := by
          have hRest : (k - 1) / k = 0 := Nat.div_eq_of_lt (by omega)
          rw [Nat.mul_add_div hk, hRest, Nat.add_zero]
  simp only [leadingBit, hLe, hDiv, hCeiling]

theorem ofQuotient_mul_right (negative : Bool) (num den : Nat) {k : Nat} (hk : 0 < k) :
    ofQuotient negative (num * k) (den * k) = ofQuotient negative num den := by
  by_cases hnum : num = 0
  · simp [ofQuotient, hnum]
  have hProduct : num * k ≠ 0 := Nat.mul_ne_zero hnum (Nat.pos_iff_ne_zero.mp hk)
  have hLast : lastBit (num * k) (den * k) = lastBit num den := by
    simp only [lastBit, leadingBit_mul_right num den hk (Nat.pos_of_ne_zero hnum)]
  have hScaled : ∀ q, scaled (num * k) (den * k) q = scaled num den q := by
    intro q
    simp only [scaled]
    rw [Nat.mul_right_comm num, Nat.mul_right_comm den, roundDiv_mul_right _ _ hk]
  simp only [ofQuotient, if_neg hnum, if_neg hProduct, hLast, hScaled]

/-- A whole decimal with a zero behind the point. -/
theorem ofDecimal_mul_pow (negative : Bool) (c k : Nat) :
    ofDecimal negative (c * Nat.pow 10 (k + 1)) (-1) = ofDecimal negative c k := by
  by_cases hc : c = 0
  · simp [ofDecimal, hc]
  have hProduct : c * Nat.pow 10 (k + 1) ≠ 0 :=
    Nat.mul_ne_zero hc (Nat.pos_iff_ne_zero.mp (Nat.pow_pos (by decide)))
  have hLeading : Decimal.leadingExponent (c * Nat.pow 10 (k + 1)) (-1) =
      Decimal.leadingExponent c k := by
    simp only [Decimal.leadingExponent, digitCount_mul_pow hc]
    omega
  have hOne : powerQuotient 10 (-1) = (1, 10) := rfl
  have hMany : powerQuotient 10 (k : Int) = (Nat.pow 10 k, 1) := rfl
  have hScale : c * Nat.pow 10 (k + 1) * 1 = c * Nat.pow 10 k * 10 := by
    rw [Nat.mul_one]
    exact (Nat.mul_assoc c (Nat.pow 10 k) 10).symm
  simp only [ofDecimal, hc, hProduct, false_or, hLeading, hOne, hMany, hScale]
  have hQuotient := ofQuotient_mul_right negative (c * Nat.pow 10 k) 1 (k := 10) (by decide)
  rw [Nat.one_mul] at hQuotient
  rw [hQuotient]

/-- The number that is nearest to the decimal of the shortest digits. -/
def reread : Binary64 → Binary64
  | .finite negative m q _ => ofDecimal negative (shortestDigits m q).1 (shortestDigits m q).2
  | x => x

theorem powerQuotient_pos (base : Nat) (h : 0 < base) (e : Int) :
    0 < (powerQuotient base e).1 ∧ 0 < (powerQuotient base e).2 := by
  cases e with
  | ofNat k => exact ⟨Nat.pow_pos h, Nat.one_pos⟩
  | negSucc k => exact ⟨Nat.one_pos, Nat.pow_pos h⟩

theorem lowerQuarter_pos {m : Nat} (hm : m ≠ 0) (q : Int) : 0 < lowerQuarter m q := by
  unfold lowerQuarter
  split <;> omega

/-- A number other than zero is not rounded to from zero. -/
theorem ne_zero_of_onGrid? {m : Nat} (hm : m ≠ 0) {q k : Int} {c : Nat}
    (h : onGrid? m q k = some c) : c ≠ 0 := by
  have hUnit := powerQuotient_pos 2 (by decide) (q - 2)
  have hGrid := powerQuotient_pos 10 (by decide) k
  unfold onGrid? at h
  generalize powerQuotient 2 (q - 2) = unit at h hUnit
  generalize powerQuotient 10 k = grid at h hGrid
  obtain ⟨unitNum, unitDen⟩ := unit
  obtain ⟨gridNum, gridDen⟩ := grid
  have hLow : 0 < lowerQuarter m q * (unitNum * gridDen) :=
    Nat.mul_pos (lowerQuarter_pos hm q) (Nat.mul_pos hUnit.1 hGrid.2)
  simp only at h
  generalize lowerQuarter m q * (unitNum * gridDen) = low at h hLow
  generalize (4 * m + 2) * (unitNum * gridDen) = high at h
  generalize 4 * m * (unitNum * gridDen) = value at h
  generalize gridNum * unitDen = b at h
  have hZero : (if m % 2 = 0 then decide (low ≤ 0 * b) && decide (0 * b ≤ high)
      else decide (low < 0 * b) && decide (0 * b < high)) = false := by
    rw [Nat.zero_mul]
    split <;> simp only [Bool.and_eq_false_iff, decide_eq_false_iff_not] <;> omega
  have hRound : value / b ≤ roundDiv value b := div_le_roundDiv value b
  generalize value / b = below at h hRound
  generalize roundDiv value b = nearest at h hRound
  -- only the neighbour below could be zero, and zero lies outside
  by_cases hBelow : below = 0
  · rw [hBelow, hZero] at h
    split at h
    · rename_i hInside _
      cases hInside
    · rename_i hInside _
      cases hInside
    · cases h
      decide
    · cases h
  · split at h
    · cases h
      omega
    · cases h
      exact hBelow
    · cases h
      omega
    · cases h

theorem dropZeros_ne_zero (fuel : Nat) {c : Nat} (hc : c ≠ 0) (e : Int) :
    (dropZeros fuel c e).1 ≠ 0 := by
  induction fuel generalizing c e with
  | zero => exact hc
  | succ fuel ih =>
      unfold dropZeros
      split
      · exact ih (by omega) _
      · exact hc

theorem shortestDigits_zero (q : Int) : shortestDigits 0 q = (0, 0) :=
  rfl

theorem shortestDigits_ne_zero {m : Nat} (hm : m ≠ 0) (q : Int) :
    (shortestDigits m q).1 ≠ 0 := by
  unfold shortestDigits
  rw [if_neg hm]
  simp only
  split
  · rename_i c k hHit
    obtain ⟨i, -, hGrid⟩ := List.exists_of_findSome?_eq_some hHit
    obtain ⟨c', hPoint, hSame⟩ := Option.map_eq_some_iff.mp hGrid
    obtain ⟨rfl, -⟩ := Prod.mk.inj hSame
    exact dropZeros_ne_zero 17 (ne_zero_of_onGrid? hm hPoint) _
  · exact hm

/-- Zero is written without an exponent. -/
theorem exponent_shortestDigits (m : Nat) (q : Int) (h : (shortestDigits m q).1 = 0) :
    (shortestDigits m q).2 = 0 := by
  by_cases hm : m = 0
  · rw [hm, shortestDigits_zero]
  · exact absurd h (shortestDigits_ne_zero hm q)

end Binary64

end Number

/-! ## The parts of a numeral -/

namespace Json

open Tollgate.Number Tollgate.Text

/-- No numeral goes on with what follows. -/
def EndsNumber (rest : List Char) : Prop :=
  ∀ c ∈ rest.head?, c.isDigit = false ∧ c ≠ '.' ∧ c ≠ 'e' ∧ c ≠ 'E'

theorem endsNumber_nil : EndsNumber [] := by
  intro c hc
  cases hc

theorem digitsAhead_append {ds rest : List Char} (hds : ∀ c ∈ ds, c.isDigit = true)
    (hrest : ∀ c ∈ rest.head?, c.isDigit = false) : digitsAhead (ds ++ rest) = (ds, rest) := by
  unfold digitsAhead
  rw [List.takeWhile_append_of_pos hds, List.dropWhile_append_of_pos hds]
  cases rest with
  | nil => simp
  | cons c rest =>
      have hc : ¬ c.isDigit = true := by simp [hrest c rfl]
      rw [List.takeWhile_cons_of_neg hc, List.dropWhile_cons_of_neg hc, List.append_nil]

theorem EndsNumber.not_isDigit {rest : List Char} (h : EndsNumber rest) :
    ∀ c ∈ rest.head?, c.isDigit = false :=
  fun c hc => (h c hc).1

theorem EndsNumber.digitsAhead {ds rest : List Char} (hrest : EndsNumber rest)
    (hds : ∀ c ∈ ds, c.isDigit = true) : digitsAhead (ds ++ rest) = (ds, rest) :=
  digitsAhead_append hds hrest.not_isDigit

theorem EndsNumber.fractionAhead {rest : List Char} (h : EndsNumber rest) :
    fractionAhead rest = ([], rest) := by
  unfold Json.fractionAhead
  split
  · rename_i rest'
    exact absurd rfl (h '.' rfl).2.1
  · rfl

theorem EndsNumber.exponentAhead {rest : List Char} (h : EndsNumber rest) :
    exponentAhead rest = (none, rest) := by
  cases rest with
  | nil => rfl
  | cons c rest =>
      obtain ⟨-, -, he, hE⟩ := h c rfl
      simp [Json.exponentAhead, he, hE]

theorem fractionAhead_cons {ds rest : List Char} (hne : ds ≠ [])
    (hds : ∀ c ∈ ds, c.isDigit = true) (hrest : ∀ c ∈ rest.head?, c.isDigit = false) :
    fractionAhead ('.' :: (ds ++ rest)) = (ds, rest) := by
  unfold fractionAhead
  simp only [digitsAhead_append hds hrest]
  cases ds with
  | nil => exact absurd rfl hne
  | cons d ds => rfl

theorem exponentAhead_cons (negative : Bool) {ds rest : List Char} (hne : ds ≠ [])
    (hds : ∀ c ∈ ds, c.isDigit = true) (hrest : EndsNumber rest) :
    exponentAhead ('e' :: (if negative then '-' else '+') :: (ds ++ rest)) =
      (some (signed negative (Nat.ofDigitChars 10 ds 0)), rest) := by
  have hSign : splitSign ((if negative then '-' else '+') :: (ds ++ rest)) =
      (negative, ds ++ rest) := by
    cases negative <;> rfl
  unfold exponentAhead
  simp only [hSign, hrest.digitsAhead hds, ← ofDigits_filterMap hds]
  cases ds with
  | nil => exact absurd rfl hne
  | cons d ds => rfl

/-- The digits in front of a point: a zero in front stands alone. -/
def IsWhole (ds : List Char) : Prop :=
  ds ≠ [] ∧ (∀ c ∈ ds, c.isDigit = true) ∧ (ds.head? = some '0' → ds = ['0'])

theorem isWhole_zero : IsWhole ['0'] :=
  ⟨by decide, List.forall_mem_singleton.mpr rfl, fun _ => rfl⟩

theorem isWhole_of_head?_ne {ds : List Char} (hne : ds ≠ []) (hds : ∀ c ∈ ds, c.isDigit = true)
    (h : ds.head? ≠ some '0') : IsWhole ds :=
  ⟨hne, hds, fun hZero => absurd hZero h⟩

/-- The digits spell a number, without zeros in front. -/
structure Spells (ds : List Char) (n : Nat) : Prop where
  ne_nil : ds ≠ []
  digits : ∀ d ∈ ds, d.isDigit = true
  value : Nat.ofDigitChars 10 ds 0 = n
  zero : n = 0 → ds = ['0']
  head : n ≠ 0 → ds.head? ≠ some '0'

theorem spells_natText (n : Nat) : Spells (natText n) n where
  ne_nil := natText_ne_nil n
  digits := isDigit_of_mem_natText
  value := ofDigitChars_natText n
  zero := by
    rintro rfl
    rfl
  head := head?_natText

theorem Spells.isWhole {ds : List Char} {n : Nat} (h : Spells ds n) : IsWhole ds := by
  by_cases hn : n = 0
  · rw [h.zero hn]
    exact isWhole_zero
  · exact isWhole_of_head?_ne h.ne_nil h.digits (h.head hn)

/-- The digits in front of the point at the front of a text, and what follows. A zero in front is
taken alone. -/
def wholeAhead (cs : List Char) : List Char × List Char :=
  match cs with
  | '0' :: rest => (['0'], rest)
  | _ => digitsAhead cs

theorem wholeAhead_append {ds rest : List Char} (h : IsWhole ds)
    (hrest : ∀ c ∈ rest.head?, c.isDigit = false) : wholeAhead (ds ++ rest) = (ds, rest) := by
  obtain ⟨hne, hds, hZero⟩ := h
  cases ds with
  | nil => exact absurd rfl hne
  | cons d ds =>
      by_cases hd : d = '0'
      · subst hd
        have hTail : ds = [] := (List.cons.inj (hZero rfl)).2
        subst hTail
        rfl
      · rw [← digitsAhead_append hds hrest]
        unfold wholeAhead
        split
        · rename_i heq
          exact absurd (List.cons.inj heq).1 hd
        · rfl

/-- A sign is found in front of digits. -/
theorem splitMinus_append (negative : Bool) {cs : List Char} (h : cs.head? ≠ some '-') :
    splitMinus (Binary64.signText negative ++ cs) = (negative, cs) := by
  cases negative with
  | true => rfl
  | false =>
      show splitMinus cs = (false, cs)
      unfold splitMinus
      split
      · exact absurd rfl h
      · rfl

/-- The reading of a number by its parts. -/
theorem readNumber_eq (limits : Limits) (cs : List Char) :
    readNumber limits cs =
      let (negative, body) := splitMinus cs
      let (whole, afterWhole) := wholeAhead body
      let (fraction, afterFraction) := fractionAhead afterWhole
      let (exponent, rest) := exponentAhead afterFraction
      let digits := (whole ++ fraction).filterMap asciiDigitValue?
      if whole.isEmpty then .error (.before .expectingValue cs)
      else if fraction.isEmpty && exponent.isNone then
        if limits.digits < digits.length then .error (.overlong digits.length)
        else .ok (.int (signed negative (ofDigits digits)), rest)
      else .ok (.float (Binary64.ofDecimal negative (ofDigits digits)
        (exponent.getD 0 - fraction.length)), rest) := by
  unfold readNumber
  cases cs with
  | nil => rfl
  | cons c cs =>
      by_cases hc : c = '-'
      · subst hc
        rfl
      · have hMinus : splitMinus (c :: cs) = (false, c :: cs) :=
          splitMinus_append false (fun h => hc (Option.some.inj h))
        rw [hMinus]
        split
        rename_i heq
        split at heq
        · rename_i h
          exact absurd (List.cons.inj h).1 hc
        · cases heq
          rfl

/-- A number whose parts are known is read from them. -/
theorem readNumber_of_parts (limits : Limits) (negative : Bool)
    {whole afterWhole fraction afterFraction rest : List Char} {exponent : Option Int}
    (hWhole : IsWhole whole) (hAfter : ∀ c ∈ afterWhole.head?, c.isDigit = false)
    (hFraction : fractionAhead afterWhole = (fraction, afterFraction))
    (hExponent : exponentAhead afterFraction = (exponent, rest)) :
    readNumber limits (Binary64.signText negative ++ (whole ++ afterWhole)) =
      let digits := (whole ++ fraction).filterMap asciiDigitValue?
      if fraction.isEmpty && exponent.isNone then
        if limits.digits < digits.length then .error (.overlong digits.length)
        else .ok (.int (signed negative (ofDigits digits)), rest)
      else .ok (.float (Binary64.ofDecimal negative (ofDigits digits)
        (exponent.getD 0 - fraction.length)), rest) := by
  obtain ⟨hne, hDigits, -⟩ := id hWhole
  have hHead : (whole ++ afterWhole).head? ≠ some '-' := by
    cases whole with
    | nil => exact absurd rfl hne
    | cons d ds =>
        intro h
        have hd : d = '-' := Option.some.inj h
        have := hDigits d List.mem_cons_self
        rw [hd] at this
        exact absurd this (by decide)
  have hEmpty : whole.isEmpty = false := by
    cases whole with
    | nil => exact absurd rfl hne
    | cons d ds => rfl
  rw [readNumber_eq, splitMinus_append negative hHead]
  simp only [wholeAhead_append hWhole hAfter, hFraction, hExponent, hEmpty, Bool.false_eq_true,
    if_false]

/-! ## Integers -/

theorem signed_natAbs (n : Int) : signed (decide (n < 0)) n.natAbs = n := by
  unfold signed
  by_cases hn : n < 0
  · simp only [hn, decide_true, if_true]
    omega
  · simp only [hn, decide_false, Bool.false_eq_true, if_false]
    omega

theorem intText_eq (n : Int) :
    intText n = Binary64.signText (decide (n < 0)) ++ natText n.natAbs := by
  unfold intText
  by_cases h : n < 0
  · simp [h, Binary64.signText]
  · simp [h, Binary64.signText]

/-- **An integer is read back.** -/
theorem readNumber_intText {limits : Limits} {n : Int} (h : digitCount n.natAbs ≤ limits.digits)
    {rest : List Char} (hrest : EndsNumber rest) :
    readNumber limits (intText n ++ rest) = .ok (.int n, rest) := by
  have hLength : ¬ limits.digits < ((natText n.natAbs).filterMap asciiDigitValue?).length := by
    rw [length_filterMap isDigit_of_mem_natText]
    exact Nat.not_lt.mpr h
  rw [intText_eq, List.append_assoc, readNumber_of_parts limits _ (spells_natText n.natAbs).isWhole
    hrest.not_isDigit hrest.fractionAhead hrest.exponentAhead]
  simp only [List.isEmpty_nil, Option.isNone_none, Bool.and_self, if_true, List.append_nil,
    if_neg hLength, ofDigits_filterMap isDigit_of_mem_natText, ofDigitChars_natText,
    signed_natAbs]

/-! ## Floating-point numbers -/

/-- A number with a fraction or an exponent is the decimal that its parts spell. -/
theorem readNumber_of_decimal (limits : Limits) (negative : Bool)
    {whole afterWhole fraction afterFraction rest : List Char} {exponent : Option Int}
    (hWhole : IsWhole whole) (hAfter : ∀ c ∈ afterWhole.head?, c.isDigit = false)
    (hDigits : ∀ c ∈ fraction, c.isDigit = true)
    (hFraction : fractionAhead afterWhole = (fraction, afterFraction))
    (hExponent : exponentAhead afterFraction = (exponent, rest))
    (hMarked : fraction ≠ [] ∨ exponent ≠ none) :
    readNumber limits (Binary64.signText negative ++ (whole ++ afterWhole)) =
      .ok (.float (Binary64.ofDecimal negative (Nat.ofDigitChars 10 (whole ++ fraction) 0)
        (exponent.getD 0 - fraction.length)), rest) := by
  have hAll : ∀ c ∈ whole ++ fraction, c.isDigit = true :=
    List.forall_mem_append.mpr ⟨hWhole.2.1, hDigits⟩
  have hPlain : (fraction.isEmpty && exponent.isNone) = false := by
    rcases hMarked with h | h
    · cases fraction with
      | nil => exact absurd rfl h
      | cons d ds => rfl
    · cases exponent with
      | none => exact absurd rfl h
      | some e => simp
  rw [readNumber_of_parts limits negative hWhole hAfter hFraction hExponent]
  simp only [hPlain, Bool.false_eq_true, if_false, ofDigits_filterMap hAll]

theorem isDigit_of_mem_replicate {k : Nat} : ∀ c ∈ List.replicate k '0', c.isDigit = true := by
  intro c hc
  rw [(List.mem_replicate.mp hc).2]
  rfl

/-- No digits stand in front of a point. -/
theorem not_isDigit_head_point (cs : List Char) : ∀ c ∈ ('.' :: cs).head?, c.isDigit = false := by
  intro c hc
  cases hc
  rfl

section Positional

variable (limits : Limits) (negative : Bool) {c : Nat} {e : Int} {ds rest : List Char}

/-- Zeros stand between the point and the digits. -/
theorem readNumber_behind_zeros (h : Spells ds c) (hPoint : e + ds.length ≤ 0)
    (hrest : EndsNumber rest) :
    readNumber limits (Binary64.signText negative ++
        ('0' :: '.' :: List.replicate (-(e + ds.length)).toNat '0' ++ ds ++ rest)) =
      .ok (.float (Binary64.ofDecimal negative c e), rest) := by
  have hne : List.replicate (-(e + ds.length)).toNat '0' ++ ds ≠ [] :=
    List.append_ne_nil_of_right_ne_nil _ h.ne_nil
  have hFraction : ∀ d ∈ List.replicate (-(e + ds.length)).toNat '0' ++ ds, d.isDigit = true :=
    List.forall_mem_append.mpr ⟨isDigit_of_mem_replicate, h.digits⟩
  have hDigits : Nat.ofDigitChars 10
      (['0'] ++ (List.replicate (-(e + ds.length)).toNat '0' ++ ds)) 0 = c := by
    rw [List.singleton_append, Nat.ofDigitChars_cons, Nat.ofDigitChars_append,
      Nat.ofDigitChars_replicate_zero, ← h.value]
    simp
  have hExponent : (none : Option Int).getD 0 -
      ((List.replicate (-(e + ds.length)).toNat '0' ++ ds).length : Int) = e := by
    simp only [Option.getD_none, List.length_append, List.length_replicate]
    omega
  have hRead := readNumber_of_decimal limits negative isWhole_zero (not_isDigit_head_point _)
    hFraction (fractionAhead_cons hne hFraction hrest.not_isDigit) hrest.exponentAhead (Or.inl hne)
  rw [hExponent, hDigits] at hRead
  simpa only [List.cons_append, List.nil_append, List.append_assoc] using hRead

/-- Zeros stand between the digits and the point. -/
theorem readNumber_before_zeros (h : Spells ds c) {k : Nat} (hk : c = 0 → k = 0)
    (hrest : EndsNumber rest) :
    readNumber limits (Binary64.signText negative ++
        (ds ++ List.replicate k '0' ++ ['.', '0'] ++ rest)) =
      .ok (.float (Binary64.ofDecimal negative c k), rest) := by
  have hWhole : IsWhole (ds ++ List.replicate k '0') := by
    by_cases hc : c = 0
    · rw [h.zero hc, hk hc]
      exact isWhole_zero
    · refine isWhole_of_head?_ne (List.append_ne_nil_of_left_ne_nil h.ne_nil _)
        (List.forall_mem_append.mpr ⟨h.digits, isDigit_of_mem_replicate⟩) ?_
      rw [List.head?_append, Option.or_of_isSome (List.isSome_head?.mpr h.ne_nil)]
      exact h.head hc
  have hDigits : Nat.ofDigitChars 10 (ds ++ List.replicate k '0' ++ ['0']) 0 =
      c * Nat.pow 10 (k + 1) := by
    rw [List.append_assoc, ← List.replicate_succ', Nat.ofDigitChars_append, h.value,
      Nat.ofDigitChars_replicate_zero, Nat.mul_comm, Nat.pow_eq]
  have hExponent : (none : Option Int).getD 0 - ((['0'] : List Char).length : Int) = -1 := rfl
  have hRead := readNumber_of_decimal limits negative hWhole (not_isDigit_head_point _)
    isWhole_zero.2.1 (fractionAhead_cons (by simp) isWhole_zero.2.1 hrest.not_isDigit)
    hrest.exponentAhead (Or.inl (by simp))
  rw [hExponent, hDigits, Binary64.ofDecimal_mul_pow] at hRead
  simpa only [List.singleton_append, List.cons_append, List.append_assoc] using hRead

/-- The point stands among the digits. -/
theorem readNumber_among_digits (h : Spells ds c) (hc : c ≠ 0) {p : Nat}
    (hPoint : e + ds.length = p) (hFirst : 0 < p) (hLast : p < ds.length)
    (hrest : EndsNumber rest) :
    readNumber limits (Binary64.signText negative ++
        (ds.take p ++ '.' :: ds.drop p ++ rest)) =
      .ok (.float (Binary64.ofDecimal negative c e), rest) := by
  have hFront : ds.take p ≠ [] := List.ne_nil_of_length_pos (by rw [List.length_take]; omega)
  have hBack : ds.drop p ≠ [] := List.ne_nil_of_length_pos (by rw [List.length_drop]; omega)
  have hHead : (ds.take p).head? ≠ some '0' := by
    rw [List.head?_take, if_neg (Nat.pos_iff_ne_zero.mp hFirst)]
    exact h.head hc
  have hWhole : IsWhole (ds.take p) :=
    isWhole_of_head?_ne hFront (fun d hd => h.digits d (List.mem_of_mem_take hd)) hHead
  have hFraction : ∀ d ∈ ds.drop p, d.isDigit = true :=
    fun d hd => h.digits d (List.mem_of_mem_drop hd)
  have hExponent : (none : Option Int).getD 0 - ((ds.drop p).length : Int) = e := by
    simp only [Option.getD_none, List.length_drop]
    omega
  have hRead := readNumber_of_decimal limits negative hWhole (not_isDigit_head_point _) hFraction
    (fractionAhead_cons hBack hFraction hrest.not_isDigit) hrest.exponentAhead (Or.inl hBack)
  rw [hExponent, List.take_append_drop, h.value] at hRead
  simpa only [List.cons_append, List.append_assoc] using hRead

/-- A decimal that is written without exponent is read as what it stands for. -/
theorem readNumber_positional (h : Spells ds c) (hZero : c = 0 → e = 0)
    (hrest : EndsNumber rest) :
    readNumber limits (Binary64.signText negative ++
        (Binary64.positional ds (e + ds.length) ['.', '0'] ++ rest)) =
      .ok (.float (Binary64.ofDecimal negative c e), rest) := by
  unfold Binary64.positional
  split
  · rename_i hSmall
    exact readNumber_behind_zeros limits negative h hSmall hrest
  split
  · rename_i hSmall hLarge
    obtain ⟨k, rfl⟩ : ∃ k : Nat, e = k := ⟨e.toNat, by omega⟩
    have hCount : ((k : Int) + ds.length - ds.length).toNat = k := by omega
    rw [hCount]
    exact readNumber_before_zeros limits negative h (fun hc => by exact_mod_cast hZero hc) hrest
  · rename_i hSmall hLarge
    obtain ⟨p, hp⟩ : ∃ p : Nat, e + ds.length = p := ⟨(e + ds.length).toNat, by omega⟩
    have hc : c ≠ 0 := fun hc => hLarge (by rw [hZero hc]; omega)
    rw [hp] at hSmall hLarge ⊢
    rw [Int.toNat_natCast]
    exact readNumber_among_digits limits negative h hc hp (by omega) (by omega) hrest

end Positional

/-- The exponent of a number as it is written. -/
def exponentText (x : Int) : List Char :=
  'e' :: (if x < 0 then '-' else '+') ::
    if (natText x.natAbs).length < 2 then '0' :: natText x.natAbs else natText x.natAbs

theorem not_isDigit_head_exponentText (x : Int) (cs : List Char) :
    ∀ c ∈ (exponentText x ++ cs).head?, c.isDigit = false := by
  intro c hc
  cases hc
  rfl

theorem exponentAhead_exponentText (x : Int) {rest : List Char} (hrest : EndsNumber rest) :
    exponentAhead (exponentText x ++ rest) = (some x, rest) := by
  have hSign : (if x < 0 then '-' else '+') = if decide (x < 0) = true then '-' else '+' := by
    simp only [decide_eq_true_eq]
  unfold exponentText
  by_cases hShort : (natText x.natAbs).length < 2
  · rw [hSign, if_pos hShort]
    have hDigits : ∀ c ∈ '0' :: natText x.natAbs, c.isDigit = true :=
      List.forall_mem_cons.mpr ⟨by decide, isDigit_of_mem_natText⟩
    have hValue : Nat.ofDigitChars 10 ('0' :: natText x.natAbs) 0 = x.natAbs := by
      rw [Nat.ofDigitChars_cons]
      exact ofDigitChars_natText _
    have h := exponentAhead_cons (decide (x < 0)) (by simp) hDigits hrest
    rwa [hValue, signed_natAbs] at h
  · rw [hSign, if_neg hShort]
    have h := exponentAhead_cons (decide (x < 0)) (natText_ne_nil x.natAbs)
      isDigit_of_mem_natText hrest
    rwa [ofDigitChars_natText, signed_natAbs] at h

/-- A decimal that is written with an exponent is read as what it stands for. -/
theorem readNumber_scientific (limits : Limits) (negative : Bool) {c : Nat} {e : Int}
    {ds rest : List Char} (h : Spells ds c) (hc : c ≠ 0) (hrest : EndsNumber rest) :
    readNumber limits (Binary64.signText negative ++
        (Binary64.scientific ds (e + ds.length - 1) ++ rest)) =
      .ok (.float (Binary64.ofDecimal negative c e), rest) := by
  obtain ⟨hne, hDigits, hValue, -, hHead⟩ := h
  have hExponent := exponentAhead_exponentText (e + ds.length - 1) hrest
  have hMark := not_isDigit_head_exponentText (e + ds.length - 1) rest
  cases ds with
  | nil => exact absurd rfl hne
  | cons d ds =>
      have hWhole : IsWhole [d] :=
        isWhole_of_head?_ne (List.cons_ne_nil d [])
          (List.forall_mem_singleton.mpr (hDigits d List.mem_cons_self)) (hHead hc)
      cases ds with
      | nil =>
          have hLength : (some (e + ([d] : List Char).length - 1)).getD 0 -
              (([] : List Char).length : Int) = e := by
            simp only [Option.getD_some, List.length_nil, List.length_singleton]
            omega
          have hRead := readNumber_of_decimal limits negative hWhole hMark (by simp)
            (show fractionAhead (exponentText _ ++ rest) = ([], _) from rfl) hExponent
            (Or.inr (by simp))
          rwa [hLength, List.append_nil, hValue] at hRead
      | cons d' ds =>
          have hFraction : ∀ c ∈ d' :: ds, c.isDigit = true :=
            fun c hc => hDigits c (List.mem_cons_of_mem d hc)
          have hLength : (some (e + (d :: d' :: ds).length - 1)).getD 0 -
              ((d' :: ds).length : Int) = e := by
            simp only [Option.getD_some, List.length_cons]
            omega
          have hSpelled : Nat.ofDigitChars 10 ([d] ++ d' :: ds) 0 = c := hValue
          have hText : Binary64.scientific (d :: d' :: ds) (e + (d :: d' :: ds).length - 1) ++
              rest = [d] ++ '.' :: (d' :: ds ++ (exponentText _ ++ rest)) :=
            List.append_assoc (d :: '.' :: d' :: ds) _ rest
          have hRead := readNumber_of_decimal limits negative hWhole (not_isDigit_head_point _)
            hFraction (fractionAhead_cons (by simp) hFraction hMark) hExponent (Or.inl (by simp))
          rw [hLength, hSpelled] at hRead
          rw [hText]
          exact hRead

theorem writeFloat_finite (negative : Bool) (m : Nat) (q : Int) (h : IsCanonical m q) :
    writeFloat (.finite negative m q h) =
      Binary64.signText negative ++
        if Binary64.isPositional ((Binary64.shortestDigits m q).2 +
            (natText (Binary64.shortestDigits m q).1).length) then
          Binary64.positional (natText (Binary64.shortestDigits m q).1)
            ((Binary64.shortestDigits m q).2 + (natText (Binary64.shortestDigits m q).1).length)
            ['.', '0']
        else
          Binary64.scientific (natText (Binary64.shortestDigits m q).1)
            ((Binary64.shortestDigits m q).2 +
              (natText (Binary64.shortestDigits m q).1).length - 1) := by
  unfold writeFloat Binary64.shortText
  simp only [String.toList_ofList]

/-- **A finite number is read back** as the number nearest to its shortest digits. -/
theorem readNumber_writeFloat (limits : Limits) {x : Binary64} (hFinite : x.isFinite = true)
    {rest : List Char} (hrest : EndsNumber rest) :
    readNumber limits (writeFloat x ++ rest) = .ok (.float x.reread, rest) := by
  cases x with
  | infinite negative => cases hFinite
  | nan => cases hFinite
  | finite negative m q canonical =>
      have hZero := Binary64.exponent_shortestDigits m q
      rw [writeFloat_finite, Binary64.reread, List.append_assoc]
      generalize Binary64.shortestDigits m q = digits at hZero ⊢
      obtain ⟨c, e⟩ := digits
      by_cases hPositional : Binary64.isPositional (e + (natText c).length) = true
      · rw [if_pos hPositional]
        exact readNumber_positional limits negative (spells_natText c) hZero hrest
      · have hc : c ≠ 0 := by
          intro hc
          have he : e = 0 := hZero hc
          rw [hc, he] at hPositional
          exact hPositional (by decide)
        rw [if_neg hPositional]
        exact readNumber_scientific limits negative (spells_natText c) hc hrest

end Json

end Tollgate
