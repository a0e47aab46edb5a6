import Tollgate.Proofs.Decimals

set_option autoImplicit false

/-! # Numbers that are written

The texts of numbers are texts of the grammar of decimals. An integer spells itself
(`spellsDecimal_intText`). A floating-point number spells its shortest digits, in its shortest text
and in its text without exponent, where up to 308 zeros may stand behind them
(`exists_spells_float`). An integer is also read back as an integer (`readInteger_intText`).
-/

namespace Tollgate

namespace Number

open Tollgate.Text Tollgate.Json

theorem spellsDigits_of_isDigit {cs : List Char} (h : ∀ c ∈ cs, c.isDigit = true) :
    ∃ ds, SpellsDigits cs ds ∧ ofDigits ds = Nat.ofDigitChars 10 cs 0 := by
  refine ⟨cs.map fun c => c.toNat - '0'.toNat, ?_, ?_⟩
  · unfold SpellsDigits
    rw [List.map_map]
    exact List.map_congr_left fun c hc => digitValue?_of_isDigit (h c hc)
  · unfold ofDigits
    generalize 0 = init
    induction cs generalizing init with
    | nil => rfl
    | cons c cs ih =>
        obtain ⟨-, hcs⟩ := List.forall_mem_cons.mp h
        rw [List.map_cons, List.foldl_cons, ih hcs, Nat.ofDigitChars_cons]

/-! ## Numerals -/

theorem spellsNumeral_whole {cs tail : List Char} {x : Int} (h : ∀ c ∈ cs, c.isDigit = true)
    (hne : cs ≠ []) (hTail : SpellsExponent tail x) :
    SpellsNumeral (cs ++ tail) (Nat.ofDigitChars 10 cs 0) x := by
  obtain ⟨ds, hDigits, hValue⟩ := spellsDigits_of_isDigit h
  rw [← hValue]
  exact .whole hDigits (hDigits.ne_nil_iff.mpr hne) hTail

theorem spellsNumeral_pointed {cs cs' tail : List Char} {x : Int}
    (h : ∀ c ∈ cs, c.isDigit = true) (h' : ∀ c ∈ cs', c.isDigit = true) (hne : cs ≠ [])
    (hTail : SpellsExponent tail x) :
    SpellsNumeral (cs ++ '.' :: (cs' ++ tail)) (Nat.ofDigitChars 10 (cs ++ cs') 0)
      (x - cs'.length) := by
  obtain ⟨ds, hDigits, -⟩ := spellsDigits_of_isDigit h
  obtain ⟨ds', hFraction, -⟩ := spellsDigits_of_isDigit h'
  obtain ⟨all, hAll, hValue⟩ := spellsDigits_of_isDigit (List.forall_mem_append.mpr ⟨h, h'⟩)
  have hSame : all = ds ++ ds' := by
    have hMaps : all.map some = (ds ++ ds').map some := hAll.symm.trans (hDigits.append hFraction)
    exact (List.map_inj_right fun _ _ => Option.some.inj).mp hMaps
  have hSome : ds ++ ds' ≠ [] :=
    List.append_ne_nil_of_left_ne_nil (hDigits.ne_nil_iff.mpr hne) ds'
  rw [← hValue, hSame, ← hFraction.length_eq]
  exact .pointed hDigits hFraction hSome hTail

/-- No zeros stand behind the digits. -/
theorem SpellsNumeral.unpadded {cs : List Char} {c : Nat} {e : Int} (h : SpellsNumeral cs c e) :
    ∃ j : Nat, SpellsNumeral cs (c * Nat.pow 10 j) (e - j) ∧ (j = 0 ∨ -1 ≤ e - j) := by
  have hSame : c * Nat.pow 10 0 = c := Nat.mul_one c
  refine ⟨0, ?_, Or.inl rfl⟩
  rw [hSame, Int.natCast_zero, Int.sub_zero]
  exact h

section Positional

variable {c : Nat} {e : Int} {ds : List Char}

/-- Zeros stand between the point and the digits. -/
theorem spellsNumeral_leading (h : Spells ds c) {zeros : Nat}
    (hPlaces : (zeros : Int) + ds.length = -e) :
    SpellsNumeral ('0' :: '.' :: List.replicate zeros '0' ++ ds) c e := by
  have hFraction : ∀ d ∈ List.replicate zeros '0' ++ ds, d.isDigit = true :=
    List.forall_mem_append.mpr ⟨isDigit_of_mem_replicate, h.digits⟩
  have hDigits : Nat.ofDigitChars 10 (['0'] ++ (List.replicate zeros '0' ++ ds)) 0 = c := by
    rw [List.singleton_append, Nat.ofDigitChars_cons, Nat.ofDigitChars_append,
      Nat.ofDigitChars_replicate_zero, ← h.value]
    simp
  have hExponent : 0 - ((List.replicate zeros '0' ++ ds).length : Int) = e := by
    rw [List.length_append, List.length_replicate]
    omega
  have hNumeral := spellsNumeral_pointed isWhole_zero.2.1 hFraction isWhole_zero.1
    SpellsExponent.absent
  rwa [hDigits, hExponent, List.append_nil] at hNumeral

/-- The point stands behind the first digits. -/
theorem spellsNumeral_inner (h : Spells ds c) {point : Nat} (hFirst : 0 < point)
    (hPlaces : (point : Int) - ds.length = e) (hInner : point ≤ ds.length) :
    SpellsNumeral (ds.take point ++ '.' :: ds.drop point) c e := by
  have hne : ds.take point ≠ [] := by
    apply List.ne_nil_of_length_pos
    rw [List.length_take, Nat.min_eq_left hInner]
    exact hFirst
  have hExponent : 0 - ((ds.drop point).length : Int) = e := by
    rw [List.length_drop]
    omega
  have hWhole : ∀ d ∈ ds.take point, d.isDigit = true :=
    fun d hd => h.digits d (List.mem_of_mem_take hd)
  have hFraction : ∀ d ∈ ds.drop point, d.isDigit = true :=
    fun d hd => h.digits d (List.mem_of_mem_drop hd)
  have hNumeral := spellsNumeral_pointed hWhole hFraction hne SpellsExponent.absent
  rwa [List.take_append_drop, h.value, hExponent, List.append_nil] at hNumeral

/-- Zeros stand between the digits and the point, and one may stand behind it. -/
theorem spellsNumeral_trailing (h : Spells ds c) (zeros : Nat) {tail : List Char}
    (hTail : tail = [] ∨ tail = ['.', '0']) :
    ∃ j : Nat, SpellsNumeral (ds ++ List.replicate zeros '0' ++ tail) (c * Nat.pow 10 j)
      ((zeros : Int) - j) ∧ -1 ≤ (zeros : Int) - j := by
  have hDigits : ∀ d ∈ ds ++ List.replicate zeros '0', d.isDigit = true :=
    List.forall_mem_append.mpr ⟨h.digits, isDigit_of_mem_replicate⟩
  have hne : ds ++ List.replicate zeros '0' ≠ [] := List.append_ne_nil_of_left_ne_nil h.ne_nil _
  have hValue : ∀ j : Nat, Nat.ofDigitChars 10 (ds ++ List.replicate j '0') 0 =
      c * Nat.pow 10 j := by
    intro j
    rw [Nat.ofDigitChars_append, h.value, Nat.ofDigitChars_replicate_zero, Nat.mul_comm,
      Nat.pow_eq]
  rcases hTail with rfl | rfl
  · have hNumeral := spellsNumeral_whole hDigits hne SpellsExponent.absent
    rw [hValue] at hNumeral
    refine ⟨zeros, ?_, by omega⟩
    rw [Int.sub_self]
    exact hNumeral
  · have hNumeral := spellsNumeral_pointed hDigits isWhole_zero.2.1 hne SpellsExponent.absent
    have hMore : ds ++ List.replicate zeros '0' ++ ['0'] =
        ds ++ List.replicate (zeros + 1) '0' := by
      rw [List.append_assoc, List.replicate_succ']
    have hExponent : (zeros : Int) - ((zeros + 1 : Nat) : Int) =
        0 - ((['0'] : List Char).length : Int) := by
      rw [List.length_singleton]
      omega
    rw [hMore, hValue] at hNumeral
    refine ⟨zeros + 1, ?_, by omega⟩
    rw [hExponent]
    simpa only [List.singleton_append, List.append_nil] using hNumeral

/-- A number written without exponent has zeros behind its digits, if any, down to the point or
to the first place behind it. -/
theorem spellsNumeral_positional (h : Spells ds c) {tail : List Char}
    (hTail : tail = [] ∨ tail = ['.', '0']) :
    ∃ j : Nat, SpellsNumeral (Binary64.positional ds (e + ds.length) tail)
      (c * Nat.pow 10 j) (e - j) ∧ (j = 0 ∨ -1 ≤ e - j) := by
  unfold Binary64.positional
  split
  · rename_i hSmall
    exact (spellsNumeral_leading h (by omega)).unpadded
  split
  · rename_i hSmall hLarge
    obtain ⟨zeros, rfl⟩ : ∃ zeros : Nat, e = zeros := ⟨e.toNat, by omega⟩
    have hCount : ((zeros : Int) + ds.length - ds.length).toNat = zeros := by omega
    obtain ⟨j, hNumeral, hBound⟩ := spellsNumeral_trailing h zeros hTail
    rw [hCount]
    exact ⟨j, hNumeral, Or.inr hBound⟩
  · rename_i hSmall hLarge
    exact (spellsNumeral_inner h (by omega) (by omega) (by omega)).unpadded

/-- The digits of a number, with a zero in front of them or without. -/
theorem spellsDigits_of_natText {n : Nat} {cs : List Char}
    (hcs : cs = natText n ∨ cs = '0' :: natText n) :
    ∃ ds, SpellsDigits cs ds ∧ ds ≠ [] ∧ ofDigits ds = n := by
  have hDigits : ∀ c ∈ cs, c.isDigit = true := by
    rcases hcs with rfl | rfl
    · exact isDigit_of_mem_natText
    · exact List.forall_mem_cons.mpr ⟨by decide, isDigit_of_mem_natText⟩
  have hne : cs ≠ [] := by
    rcases hcs with rfl | rfl
    · exact natText_ne_nil n
    · exact List.cons_ne_nil _ _
  have hValue : Nat.ofDigitChars 10 cs 0 = n := by
    rcases hcs with rfl | rfl
    · exact ofDigitChars_natText n
    · rw [Nat.ofDigitChars_cons]
      exact ofDigitChars_natText n
  obtain ⟨ds, hSpells, hSame⟩ := spellsDigits_of_isDigit hDigits
  exact ⟨ds, hSpells, hSpells.ne_nil_iff.mpr hne, hSame.trans hValue⟩

theorem spellsExponent_exponentText (x : Int) : SpellsExponent (exponentText x) x := by
  have hPadded : (if (natText x.natAbs).length < 2 then '0' :: natText x.natAbs
      else natText x.natAbs) = natText x.natAbs ∨
      (if (natText x.natAbs).length < 2 then '0' :: natText x.natAbs
        else natText x.natAbs) = '0' :: natText x.natAbs := by
    split
    · exact Or.inr rfl
    · exact Or.inl rfl
  obtain ⟨ds, hSpells, hSome, hMagnitude⟩ := spellsDigits_of_natText hPadded
  unfold exponentText
  by_cases hx : x < 0
  · have h := SpellsExponent.marked (Or.inl rfl) .minus hSpells hSome
    rw [hMagnitude, ← decide_eq_true hx, signed_natAbs] at h
    rw [if_pos hx]
    exact h
  · have h := SpellsExponent.marked (Or.inl rfl) .plus hSpells hSome
    rw [hMagnitude, ← decide_eq_false hx, signed_natAbs] at h
    rw [if_neg hx]
    exact h

theorem spellsNumeral_scientific (h : Spells ds c) :
    SpellsNumeral (Binary64.scientific ds (e + ds.length - 1)) c e := by
  have hTail := spellsExponent_exponentText (e + ds.length - 1)
  obtain ⟨hne, hDigits, hValue, -, -⟩ := h
  cases ds with
  | nil => exact absurd rfl hne
  | cons d ds =>
      have hFirst : ∀ c ∈ [d], c.isDigit = true :=
        List.forall_mem_singleton.mpr (hDigits d List.mem_cons_self)
      cases ds with
      | nil =>
          have hNumeral := spellsNumeral_whole hFirst (List.cons_ne_nil d []) hTail
          have hExponent : e + (([d] : List Char).length : Int) - 1 = e := by simp
          rw [hValue] at hNumeral
          rw [hExponent] at hNumeral ⊢
          exact hNumeral
      | cons d' ds =>
          have hFraction : ∀ c ∈ d' :: ds, c.isDigit = true :=
            fun c hc => hDigits c (List.mem_cons_of_mem d hc)
          have hNumeral := spellsNumeral_pointed hFirst hFraction (List.cons_ne_nil d []) hTail
          have hExponent :
              e + ((d :: d' :: ds).length : Int) - 1 - ((d' :: ds).length : Int) = e := by
            simp only [List.length_cons]
            omega
          have hSpelled : Nat.ofDigitChars 10 ([d] ++ d' :: ds) 0 = c := hValue
          rw [hSpelled, hExponent] at hNumeral
          exact hNumeral

end Positional

/-! ## Numbers with a sign -/

theorem spellsSign_signText (negative : Bool) :
    SpellsSign (Binary64.signText negative) negative := by
  cases negative with
  | false => exact .absent
  | true => exact .minus

/-- A sign in front of a numeral, with nothing around them. -/
theorem SpellsNumeral.withSign {body : List Char} {c : Nat} {e : Int} (h : SpellsNumeral body c e)
    (negative : Bool) : SpellsDecimal (Binary64.signText negative ++ body) negative c e := by
  have hSign := spellsSign_signText negative
  have hKept : (Binary64.signText negative ++ body).filter (· != '_') =
      Binary64.signText negative ++ body := by
    rw [List.filter_eq_self]
    intro c hc
    have hChar := List.forall_mem_append.mpr ⟨hSign.chars, h.chars⟩ c hc
    have hOther : c ≠ '_' := by
      rintro rfl
      exact not_isNumeralChar (by decide) (by decide) hChar
    simpa using hOther
  have hNone : ∀ c ∈ ([] : List Char), isBlank c = true := by simp
  have hSpells := SpellsDecimal.mk hNone hNone hKept hSign h
  rwa [List.nil_append, List.append_nil] at hSpells

theorem spellsDecimal_intText (n : Int) :
    SpellsDecimal (intText n) (decide (n < 0)) n.natAbs 0 := by
  have hNumeral := spellsNumeral_whole (isDigit_of_mem_natText (n := n.natAbs))
    (natText_ne_nil n.natAbs) SpellsExponent.absent
  rw [ofDigitChars_natText, List.append_nil] at hNumeral
  rw [intText_eq]
  exact hNumeral.withSign _

/-- The decimal text of a finite floating-point number, and its text without exponent, spell the
same digits; zeros may stand behind them. -/
theorem exists_spells_float (negative : Bool) (m : Nat) (q : Int) (canonical : IsCanonical m q) :
    (∃ j : Nat, SpellsDecimal (Binary64.finite negative m q canonical).shortText.toList negative
        ((Binary64.shortestDigits m q).1 * Nat.pow 10 j) ((Binary64.shortestDigits m q).2 - j)) ∧
      ∃ j : Nat, SpellsDecimal (Binary64.finite negative m q canonical).fixedText.toList negative
          ((Binary64.shortestDigits m q).1 * Nat.pow 10 j) ((Binary64.shortestDigits m q).2 - j) ∧
        (j = 0 ∨ -1 ≤ (Binary64.shortestDigits m q).2 - j) := by
  unfold Binary64.shortText Binary64.fixedText
  simp only [String.toList_ofList]
  generalize Binary64.shortestDigits m q = digits
  obtain ⟨c, e⟩ := digits
  simp only
  by_cases hPositional : Binary64.isPositional (e + (natText c).length) = true
  · simp only [hPositional, if_true]
    obtain ⟨j, hNumeral, hBound⟩ :=
      spellsNumeral_positional (e := e) (spells_natText c) (Or.inr (Eq.refl ['.', '0']))
    exact ⟨⟨j, hNumeral.withSign negative⟩, j, hNumeral.withSign negative, hBound⟩
  · simp only [hPositional, if_false, Bool.false_eq_true]
    constructor
    · obtain ⟨j, hNumeral, -⟩ :=
        (spellsNumeral_scientific (e := e) (spells_natText c)).unpadded
      exact ⟨j, hNumeral.withSign negative⟩
    · obtain ⟨j, hNumeral, hBound⟩ :=
        spellsNumeral_positional (e := e) (spells_natText c) (Or.inl (Eq.refl []))
      exact ⟨j, hNumeral.withSign negative, hBound⟩

/-! ## Integers that are read -/

theorem SpellsDigits.digitRun {cs : List Char} {ds : List Nat} (h : SpellsDigits cs ds)
    (joins : Bool) : digitRun digitValue? joins cs = (ds, []) := by
  induction cs generalizing ds joins with
  | nil =>
      rw [List.map_eq_nil_iff.mp (Eq.symm h)]
      rfl
  | cons c cs ih =>
      obtain ⟨d, rest, rfl, hd, hRest⟩ := spellsDigits_cons_iff.mp h
      simp only [Number.digitRun, hd, ih hRest]

theorem isWhiteSpace_of_isNumeralChar {c : Char} (h : IsNumeralChar c) :
    isWhiteSpace c = false := by
  apply Bool.eq_false_iff.mpr
  intro hSpace
  have hBlank := isBlank_of_isWhiteSpace hSpace
  rw [h.isBlank] at hBlank
  cases hBlank

/-- There is nothing to trim around an integer. -/
theorem trimBy_intText (n : Int) : trimBy isWhiteSpace (intText n) = intText n := by
  have hInner : ∀ c ∈ intText n, isWhiteSpace c = false := by
    intro c hc
    rw [intText_eq] at hc
    rcases List.mem_append.mp hc with hSign | hDigit
    · exact isWhiteSpace_of_isNumeralChar ((spellsSign_signText _).chars c hSign)
    · obtain ⟨ds, hDigits, -⟩ := spellsDigits_of_natText (n := n.natAbs) (Or.inl rfl)
      exact isWhiteSpace_of_isNumeralChar (hDigits.chars c hDigit)
  have hSome : intText n ≠ [] := by
    rw [intText_eq]
    exact List.append_ne_nil_of_right_ne_nil _ (natText_ne_nil _)
  have hNone : ∀ c ∈ ([] : List Char), isWhiteSpace c = true := by simp
  have hTrimmed := trimBy_append hNone hNone hSome hInner
  rwa [List.nil_append, List.append_nil] at hTrimmed

/-- **An integer that may be written is read back.** -/
theorem readInteger_intText {n : Int} (h : isOverlong n = false) :
    readInteger (String.ofList (intText n)) = .ok n := by
  obtain ⟨ds, hDigits, hSome, hMagnitude⟩ := spellsDigits_of_natText (n := n.natAbs) (Or.inl rfl)
  have hSplit : splitSign (intText n) = (decide (n < 0), natText n.natAbs) := by
    rw [intText_eq]
    exact (spellsSign_signText _).splitSign hDigits.head_not_sign
  have hFew : ¬ digitLimit < ds.length := by
    rw [hDigits.length_eq]
    exact Nat.not_lt.mpr (isOverlong_eq_false_iff_digitCount.mp h)
  unfold readInteger
  simp only [String.toList_ofList, trimBy_intText, hSplit, hDigits.digitRun]
  cases ds with
  | nil => exact absurd rfl hSome
  | cons d ds =>
      simp only [if_neg hFew, List.isEmpty_nil, if_true, hMagnitude, signed_natAbs]

end Number

end Tollgate
