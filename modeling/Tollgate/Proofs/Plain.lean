import Tollgate.Proofs.Conversion
import Tollgate.Proofs.Shortest
import Tollgate.Proofs.Spelled

set_option autoImplicit false

/-! # Plain notation

The shortest text of a floating-point number has an exponent where the number is very large or very
small, and a converter is not asked to understand it. It is handed the same digits in plain notation
(`IsPlainNotation`): the point is moved to where the exponent says, over up to 323 places, and zeros
fill the gap. The value does not change, so the text is read as the number from which it was
written, a zero with its sign (`handed_float`).
-/

namespace Tollgate

namespace Number

open Tollgate.Text Tollgate.Json

/-! ## Notation -/

/-- A text is a number in plain notation: a minus sign or none, digits, and perhaps a point with
digits behind it. -/
inductive IsPlainNotation : List Char → Prop
  | whole (negative : Bool) {digits : List Char} (hDigits : ∀ c ∈ digits, c.isDigit = true)
      (hSome : digits ≠ []) : IsPlainNotation (Binary64.signText negative ++ digits)
  | pointed (negative : Bool) {digits fraction : List Char}
      (hDigits : ∀ c ∈ digits, c.isDigit = true) (hSome : digits ≠ [])
      (hFraction : ∀ c ∈ fraction, c.isDigit = true) (hSomeBehind : fraction ≠ []) :
      IsPlainNotation (Binary64.signText negative ++ (digits ++ '.' :: fraction))

/-- Digits are in plain notation wherever the point is put. -/
theorem isPlainNotation_positional {ds : List Char} {n : Nat} (h : Spells ds n) (negative : Bool)
    (point : Int) {tail : List Char} (hTail : tail = [] ∨ tail = ['.', '0']) :
    IsPlainNotation (Binary64.signText negative ++ Binary64.positional ds point tail) := by
  have hZero : ∀ c ∈ ['0'], c.isDigit = true := isWhole_zero.2.1
  have hZeroSome : ['0'] ≠ [] := List.cons_ne_nil _ _
  unfold Binary64.positional
  split
  · -- the point stands in front of the digits
    have hFraction : ∀ c ∈ List.replicate (-point).toNat '0' ++ ds, c.isDigit = true :=
      List.forall_mem_append.mpr ⟨isDigit_of_mem_replicate, h.digits⟩
    exact .pointed negative hZero hZeroSome hFraction
      (List.append_ne_nil_of_right_ne_nil _ h.ne_nil)
  split
  · -- it stands behind them
    have hDigits : ∀ c ∈ ds ++ List.replicate (point - ds.length).toNat '0', c.isDigit = true :=
      List.forall_mem_append.mpr ⟨h.digits, isDigit_of_mem_replicate⟩
    have hSome := List.append_ne_nil_of_left_ne_nil h.ne_nil
      (List.replicate (point - ds.length).toNat '0')
    rcases hTail with rfl | rfl
    · rw [List.append_nil]
      exact .whole negative hDigits hSome
    · exact .pointed negative hDigits hSome hZero hZeroSome
  · -- it stands among them
    rename_i hBehind hBefore
    have hTake : ds.take point.toNat ≠ [] := by
      apply List.ne_nil_of_length_pos
      rw [List.length_take]
      omega
    have hDrop : ds.drop point.toNat ≠ [] := by
      apply List.ne_nil_of_length_pos
      rw [List.length_drop]
      omega
    exact .pointed negative (fun c hc => h.digits c (List.mem_of_mem_take hc)) hTake
      (fun c hc => h.digits c (List.mem_of_mem_drop hc)) hDrop

/-! ## Characters -/

/-- The characters of plain notation. -/
def IsPlainChar (c : Char) : Prop :=
  c.isDigit = true ∨ c = '-' ∨ c = '.'

instance (c : Char) : Decidable (IsPlainChar c) :=
  inferInstanceAs (Decidable (_ ∨ _))

theorem IsPlainChar.isNumeralChar {c : Char} (h : IsPlainChar c) : IsNumeralChar c := by
  rcases h with hDigit | rfl | rfl
  · exact Or.inl ⟨_, digitValue?_of_isDigit hDigit⟩
  · exact Or.inr (by decide)
  · exact Or.inr (by decide)

theorem IsPlainChar.toLower_eq {c : Char} (h : IsPlainChar c) : c.toLower = c := by
  rcases h with hDigit | rfl | rfl
  · unfold Char.toLower
    rw [dif_neg]
    simp only [Char.isDigit, Bool.and_eq_true, decide_eq_true_eq, ge_iff_le] at hDigit ⊢
    intro hUpper
    exact absurd (UInt32.le_trans hUpper.1 hDigit.2) (by decide)
  · rfl
  · rfl

theorem IsPlainNotation.chars {cs : List Char} (h : IsPlainNotation cs) :
    ∀ c ∈ cs, IsPlainChar c := by
  have hSign : ∀ negative, ∀ c ∈ Binary64.signText negative, IsPlainChar c := by
    intro negative c hc
    cases negative with
    | false => cases hc
    | true => exact Or.inr (Or.inl (List.mem_singleton.mp hc))
  cases h with
  | whole negative hDigits hSome =>
      exact List.forall_mem_append.mpr ⟨hSign negative, fun c hc => Or.inl (hDigits c hc)⟩
  | pointed negative hDigits hSome hFraction hSomeBehind =>
      have hPoint : IsPlainChar '.' := Or.inr (Or.inr rfl)
      exact List.forall_mem_append.mpr ⟨hSign negative, List.forall_mem_append.mpr
        ⟨fun c hc => Or.inl (hDigits c hc), List.forall_mem_cons.mpr
          ⟨hPoint, fun c hc => Or.inl (hFraction c hc)⟩⟩⟩

theorem IsPlainNotation.ne_nil {cs : List Char} (h : IsPlainNotation cs) : cs ≠ [] := by
  cases h with
  | whole negative hDigits hSome => exact List.append_ne_nil_of_right_ne_nil _ hSome
  | pointed negative hDigits hSome hFraction hSomeBehind =>
      exact List.append_ne_nil_of_right_ne_nil _ (List.append_ne_nil_of_left_ne_nil hSome _)

/-- Nothing is trimmed of plain notation. -/
theorem IsPlainNotation.trimBy_eq {cs : List Char} (h : IsPlainNotation cs) {p : Char → Bool}
    (hNone : ∀ c, IsNumeralChar c → p c = false) : trimBy p cs = cs := by
  have hEmpty : ∀ c ∈ ([] : List Char), p c = true := by simp
  have hTrimmed := trimBy_append hEmpty hEmpty h.ne_nil
    (fun c hc => hNone c (h.chars c hc).isNumeralChar)
  rwa [List.nil_append, List.append_nil] at hTrimmed

section Chars

variable {cs : List Char} (h : ∀ c ∈ cs, IsPlainChar c)

include h

theorem filter_plainChars : cs.filter (· != '_') = cs := by
  rw [List.filter_eq_self]
  intro c hc
  have hOther : c ≠ '_' := by
    rintro rfl
    exact absurd (h '_' hc) (by decide)
  simpa using hOther

theorem joinsDigits_plainChars : Binary64.joinsDigits cs = true := by
  have hOther : ∀ c ∈ cs, (c != '_') = true := List.filter_eq_self.mp (filter_plainChars h)
  clear h
  induction cs using Binary64.joinsDigits.induct with
  | case1 => rfl
  | case2 c => exact hOther c List.mem_cons_self
  | case3 c d rest ih =>
      obtain ⟨hc, hRest⟩ := List.forall_mem_cons.mp hOther
      unfold Binary64.joinsDigits
      rw [hc, (List.forall_mem_cons.mp hRest).1, Bool.true_or, Bool.true_or, ih hRest]
      rfl

/-- There are no letters for a word. -/
theorem asciiLower_ne_of_plainChars (word : List Char) (hWord : ∃ c ∈ word, ¬ IsPlainChar c) :
    asciiLower cs ≠ word := by
  have hSame : asciiLower cs = cs := by
    unfold asciiLower
    exact (List.map_congr_left fun c hc => (h c hc).toLower_eq).trans (List.map_id cs)
  rintro rfl
  obtain ⟨c, hc, hLetter⟩ := hWord
  rw [hSame] at hc
  exact hLetter (h c hc)

end Chars

/-! ## Reading -/

/-- A floating-point number is read from plain notation as the number nearest to the decimal that
the text spells. -/
theorem IsPlainNotation.ofText? {text : String} (h : IsPlainNotation text.toList) {negative : Bool}
    {c : Nat} {e : Int} (hSpells : SpellsDecimal text.toList negative c e) :
    Binary64.ofText? text = some (Binary64.ofDecimal negative c e) := by
  obtain ⟨body, hSplit, hRead⟩ := hSpells.read
  obtain ⟨sign, hText, -⟩ := exists_splitSign text.toList
  rw [h.trimBy_eq fun c hc => hc.isBlank, filter_plainChars h.chars] at hSplit
  rw [hSplit] at hText
  have hBody : ∀ c ∈ body, IsPlainChar c :=
    fun c hc => h.chars c (hText ▸ List.mem_append_right sign hc)
  have hPoint : ∀ c ∈ '.' :: body, IsPlainChar c :=
    List.forall_mem_cons.mpr ⟨Or.inr (Or.inr rfl), hBody⟩
  have hInf := asciiLower_ne_of_plainChars hBody "inf".toList ⟨'i', by decide, by decide⟩
  have hInfinity := asciiLower_ne_of_plainChars hBody "infinity".toList
    ⟨'i', by decide, by decide⟩
  have hNan := asciiLower_ne_of_plainChars hBody "nan".toList ⟨'n', by decide, by decide⟩
  unfold Binary64.ofText?
  rw [h.trimBy_eq fun c hc => isWhiteSpace_of_isNumeralChar hc, hSplit]
  simp only [hInf, hInfinity, hNan, or_self, if_false, joinsDigits_plainChars hPoint, if_true,
    filter_plainChars hBody, hRead, Option.map_some]

namespace Binary64

/-- The text without exponent is in plain notation. -/
theorem isPlainNotation_fixedText (negative : Bool) (m : Nat) (q : Int)
    (canonical : IsCanonical m q) :
    IsPlainNotation (Binary64.finite negative m q canonical).fixedText.toList := by
  have hTail : (if isPositional ((shortestDigits m q).2 + (natText (shortestDigits m q).1).length)
      then ['.', '0'] else []) = [] ∨
      (if isPositional ((shortestDigits m q).2 + (natText (shortestDigits m q).1).length)
        then ['.', '0'] else []) = ['.', '0'] := by
    split
    · exact Or.inr rfl
    · exact Or.inl rfl
  unfold fixedText
  rw [String.toList_ofList]
  exact isPlainNotation_positional (spells_natText _) negative _ hTail

/-- The shortest digits are read as the number, however many zeros are written behind them. -/
theorem ofDecimal_padded (negative : Bool) {m : Nat} {q : Int} (canonical : IsCanonical m q)
    (j : Nat) : ofDecimal negative ((shortestDigits m q).1 * Nat.pow 10 j)
      ((shortestDigits m q).2 - j) = .finite negative m q canonical := by
  by_cases hm : m = 0
  · subst hm
    obtain rfl := exponent_of_zero canonical
    rw [shortestDigits_zero, Nat.zero_mul]
    rfl
  · apply ofDecimal_of_roundsTo canonical hm
    rw [magnitude_padded]
    exact roundsTo_shortestDigits canonical hm

end Binary64

end Number

/-! ## Prices -/

namespace Payment

open Tollgate.Number

/-- **How a floating-point price is handed over.** Whatever else a converter does, it is called with
a text in plain notation. The text spells a decimal that is worth as much as the one that the
shortest text of the price spells, and the price is read from it again. -/
theorem handed_float {x : Binary64} (hFinite : x.isFinite = true) :
    ∃ text : String,
      (∀ {m : Type → Type} [Monad m] [LawfulMonad m]
        (convert : Price → String → m (Except Failure Conversion)) (network : String),
        atomicAmountM convert (.float x) network =
          concludeConversion (.text text) <$> convert (.text text) network) ∧
      IsPlainNotation text.toList ∧
      (∃ negative c e c' e', SpellsDecimal x.shortText.toList negative c e ∧
        SpellsDecimal text.toList negative c' e' ∧
        Decimal.worth negative c' e' = Decimal.worth negative c e) ∧
      Binary64.ofText? text = some x := by
  cases x with
  | infinite negative => cases hFinite
  | nan => cases hFinite
  | finite negative m q canonical =>
      obtain ⟨⟨j, hShort⟩, j', hFixed, -⟩ := exists_spells_float negative m q canonical
      have hPlain := Binary64.isPlainNotation_fixedText negative m q canonical
      refine ⟨_, fun convert network => atomicAmountM_eq convert _ network, hPlain,
        ⟨negative, _, _, _, _, hShort, hFixed, ?_⟩, ?_⟩
      · rw [Decimal.worth_padded, Decimal.worth_padded]
      · rw [hPlain.ofText? hFixed, Binary64.ofDecimal_padded]

/-- Minus one ten-millionth, whose shortest text has an exponent. -/
def tenMillionth : Binary64 :=
  .finite true 7555786372591432 (-76) (by decide)

theorem handed_float_tenMillionth :
    tenMillionth.isFinite = true ∧ tenMillionth.shortText = "-1e-07" ∧
      ((atomicAmountM noting (.float tenMillionth) "base").run []).2 =
        [(.text "-0.0000001", "base")] ∧
      IsPlainNotation "-0.0000001".toList ∧
      Binary64.ofText? "-0.0000001" = some tenMillionth := by
  have hShort : tenMillionth.shortText = "-1e-07" := by decide +kernel
  have hFixed : tenMillionth.fixedText = "-0.0000001" := by decide +kernel
  obtain ⟨text, hHanded, hPlain, -, hBack⟩ := handed_float (x := tenMillionth) rfl
  -- the converter notes what it is handed
  have hText : text = "-0.0000001" := by
    have hNoted := congrArg (fun run => (run.run []).2) (hHanded noting "base")
    have hPrice : (Price.text tenMillionth.fixedText, "base") = (Price.text text, "base") :=
      List.singleton_inj.mp hNoted
    rw [hFixed] at hPrice
    cases hPrice
    rfl
  subst hText
  refine ⟨rfl, hShort, ?_, hPlain, hBack⟩
  rw [hHanded]
  rfl

end Payment

end Tollgate
