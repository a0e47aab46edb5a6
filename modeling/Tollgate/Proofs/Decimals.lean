import Mathlib.Data.List.TakeWhile
import Tollgate.Number.Decimal
import Tollgate.Proofs.Numeral

set_option autoImplicit false

/-! # Decimals that a text spells

A grammar of decimals: blanks around a signed numeral, digits of any script with a point among
them, an exponent, and underscores anywhere (`SpellsDecimal`). The reader of decimals takes the
texts of this grammar, as far as their exponents are within its bounds, and finds the coefficient
and the exponent that the grammar gives them (`ofText?_of_spells`, `ofText?_eq_finite_iff`). Each
production has a lemma of its own, with both directions where the reader is one function.
-/

namespace Tollgate

/-! ## Trimming -/

namespace Text

theorem dropWhile_eq_self_of_head? {α : Type} {p : α → Bool} {xs : List α}
    (h : ∀ x ∈ xs.head?, p x = false) : xs.dropWhile p = xs := by
  cases xs with
  | nil => rfl
  | cons x xs =>
      have hx : ¬ p x = true := by simp [h x rfl]
      exact List.dropWhile_cons_of_neg hx

/-- What stands between two runs of a class is what trimming leaves, if its own ends are outside
the class. -/
theorem trimBy_append {p : Char → Bool} {front core back : List Char}
    (hFront : ∀ c ∈ front, p c = true) (hBack : ∀ c ∈ back, p c = true) (hSome : core ≠ [])
    (hCore : ∀ c ∈ core, p c = false) : trimBy p (front ++ core ++ back) = core := by
  have hHead : ∀ c ∈ (core ++ back).head?, p c = false := by
    intro c hc
    rw [List.head?_append, Option.or_of_isSome (List.isSome_head?.mpr hSome)] at hc
    exact hCore c (List.mem_of_mem_head? hc)
  have hLast : ∀ c ∈ core.reverse.head?, p c = false := by
    intro c hc
    exact hCore c (List.mem_reverse.mp (List.mem_of_mem_head? hc))
  have hBackReversed : ∀ c ∈ back.reverse, p c = true :=
    fun c hc => hBack c (List.mem_reverse.mp hc)
  unfold trimBy
  rw [List.append_assoc, List.dropWhile_append_of_pos hFront, dropWhile_eq_self_of_head? hHead,
    List.reverse_append, List.dropWhile_append_of_pos hBackReversed,
    dropWhile_eq_self_of_head? hLast, List.reverse_reverse]

/-- Trimming cuts off two runs of the class. -/
theorem exists_trimBy (p : Char → Bool) (cs : List Char) :
    ∃ front back, cs = front ++ trimBy p cs ++ back ∧ (∀ c ∈ front, p c = true) ∧
      ∀ c ∈ back, p c = true := by
  have hSplit : cs.takeWhile p ++ cs.dropWhile p = cs := List.takeWhile_append_dropWhile
  generalize hMiddle : cs.dropWhile p = middle at hSplit
  have hEnd : middle.reverse.takeWhile p ++ middle.reverse.dropWhile p = middle.reverse :=
    List.takeWhile_append_dropWhile
  have hMiddleSplit : middle =
      (middle.reverse.dropWhile p).reverse ++ (middle.reverse.takeWhile p).reverse := by
    rw [← List.reverse_append, hEnd, List.reverse_reverse]
  -- the back is what is dropped from the reversed middle, turned around again
  refine ⟨cs.takeWhile p, (middle.reverse.takeWhile p).reverse, ?_, ?_, ?_⟩
  · unfold trimBy
    rw [hMiddle, List.append_assoc, ← hMiddleSplit, hSplit]
  · intro c hc
    exact List.mem_takeWhile_imp hc
  · intro c hc
    exact List.mem_takeWhile_imp (List.mem_reverse.mp hc)

/-! ## Digits of any script -/

/-- No digit is blank. -/
theorem isBlank_of_digitValue? {c : Char} {d : Nat} (h : digitValue? c = some d) :
    isBlank c = false := by
  obtain ⟨first, hFirst, -⟩ := Option.map_eq_some_iff.mp h
  have hMem := List.mem_of_find?_eq_some hFirst
  have hRange := List.find?_some hFirst
  simp only [Bool.and_eq_true, decide_eq_true_eq] at hRange
  have key : ∀ z ∈ zeroPoints, ∀ i < 10, isBlank (Char.ofNat (z + i)) = false := by
    decide +kernel
  have hPoint := key first hMem (c.toNat - first) (by omega)
  rwa [Nat.add_sub_cancel' hRange.1, Char.ofNat_toNat] at hPoint

theorem digitValue?_of_isDigit {c : Char} (h : c.isDigit = true) :
    digitValue? c = some (c.toNat - '0'.toNat) := by
  have hRange : 0x30 ≤ c.toNat ∧ c.toNat < 0x30 + 10 := by
    simp only [Char.isDigit, Bool.and_eq_true, decide_eq_true_eq] at h
    have hLow : '0'.toNat ≤ c.toNat := h.1
    have hHigh : c.toNat ≤ '9'.toNat := h.2
    have hZero : '0'.toNat = 0x30 := rfl
    have hNine : '9'.toNat = 0x39 := rfl
    omega
  unfold digitValue? zeroPoints
  rw [List.find?_cons_of_pos (by simp [hRange])]
  rfl

end Text

namespace Number

open Tollgate.Text

/-! ## The grammar -/

/-- The characters are digits of the given values, each of any script. -/
def SpellsDigits (cs : List Char) (ds : List Nat) : Prop :=
  cs.map digitValue? = ds.map some

/-- A sign, or none. -/
inductive SpellsSign : List Char → Bool → Prop
  | absent : SpellsSign [] false
  | plus : SpellsSign ['+'] false
  | minus : SpellsSign ['-'] true

/-- An exponent, or none. -/
inductive SpellsExponent : List Char → Int → Prop
  | absent : SpellsExponent [] 0
  | marked {mark : Char} {sign cs : List Char} {negative : Bool} {ds : List Nat}
      (hMark : mark = 'e' ∨ mark = 'E') (hSign : SpellsSign sign negative)
      (hDigits : SpellsDigits cs ds) (hSome : ds ≠ []) :
      SpellsExponent (mark :: (sign ++ cs)) (signed negative (ofDigits ds))

/-- A numeral without a sign. There may be digits on one side of the point only. -/
inductive SpellsNumeral : List Char → Nat → Int → Prop
  | whole {cs tail : List Char} {ds : List Nat} {x : Int} (hDigits : SpellsDigits cs ds)
      (hSome : ds ≠ []) (hExponent : SpellsExponent tail x) :
      SpellsNumeral (cs ++ tail) (ofDigits ds) x
  | pointed {cs cs' tail : List Char} {ds ds' : List Nat} {x : Int} (hDigits : SpellsDigits cs ds)
      (hFraction : SpellsDigits cs' ds') (hSome : ds ++ ds' ≠ [])
      (hExponent : SpellsExponent tail x) :
      SpellsNumeral (cs ++ '.' :: (cs' ++ tail)) (ofDigits (ds ++ ds')) (x - ds'.length)

/-- A text spells the decimal `± c · 10 ^ e`. -/
inductive SpellsDecimal : List Char → Bool → Nat → Int → Prop
  | mk {front core back sign body : List Char} {negative : Bool} {c : Nat} {e : Int}
      (hFront : ∀ c ∈ front, isBlank c = true) (hBack : ∀ c ∈ back, isBlank c = true)
      (hCore : core.filter (· != '_') = sign ++ body) (hSign : SpellsSign sign negative)
      (hBody : SpellsNumeral body c e) : SpellsDecimal (front ++ core ++ back) negative c e

/-! ## Reading digits -/

theorem SpellsDigits.nil : SpellsDigits [] [] :=
  rfl

theorem SpellsDigits.append {cs cs' : List Char} {ds ds' : List Nat} (h : SpellsDigits cs ds)
    (h' : SpellsDigits cs' ds') : SpellsDigits (cs ++ cs') (ds ++ ds') := by
  unfold SpellsDigits at h h' ⊢
  rw [List.map_append, List.map_append, h, h']

theorem spellsDigits_cons_iff {c : Char} {cs : List Char} {ds : List Nat} :
    SpellsDigits (c :: cs) ds ↔
      ∃ d rest, ds = d :: rest ∧ digitValue? c = some d ∧ SpellsDigits cs rest := by
  unfold SpellsDigits
  cases ds with
  | nil => simp
  | cons d ds => simp [and_assoc]

theorem SpellsDigits.exists_digit {cs : List Char} {ds : List Nat} (h : SpellsDigits cs ds) :
    ∀ c ∈ cs, ∃ d, digitValue? c = some d := by
  intro c hc
  have hMem : digitValue? c ∈ ds.map some := h ▸ List.mem_map_of_mem hc
  obtain ⟨d, -, hd⟩ := List.mem_map.mp hMem
  exact ⟨d, hd.symm⟩

/-- As many digits as characters. -/
theorem SpellsDigits.length_eq {cs : List Char} {ds : List Nat} (h : SpellsDigits cs ds) :
    ds.length = cs.length := by
  calc ds.length
      = (ds.map some).length := (List.length_map some).symm
    _ = (cs.map digitValue?).length := by rw [h]
    _ = cs.length := List.length_map digitValue?

theorem SpellsDigits.ne_nil_iff {cs : List Char} {ds : List Nat} (h : SpellsDigits cs ds) :
    ds ≠ [] ↔ cs ≠ [] := by
  rw [← List.length_pos_iff, ← List.length_pos_iff, h.length_eq]

/-- Digits that nothing but a digit could go on with are taken as a whole. -/
theorem SpellsDigits.digitsOf {cs rest : List Char} {ds : List Nat} (h : SpellsDigits cs ds)
    (hrest : ∀ c ∈ rest.head?, digitValue? c = none) :
    Decimal.digitsOf (cs ++ rest) = (ds, rest) := by
  have hAll : ∀ c ∈ cs, (digitValue? c).isSome = true := by
    intro c hc
    obtain ⟨d, hd⟩ := h.exists_digit c hc
    simp [hd]
  have hStop : ∀ c ∈ rest.head?, (digitValue? c).isSome = false := by
    intro c hc
    simp [hrest c hc]
  have hTake : rest.takeWhile (fun c => (digitValue? c).isSome) = [] := by
    cases rest with
    | nil => rfl
    | cons c rest => exact List.takeWhile_cons_of_neg (by simp [hStop c rfl])
  have hValues : cs.filterMap digitValue? = ds := by
    calc cs.filterMap digitValue?
        = (cs.map digitValue?).filterMap id := by rw [List.filterMap_map]; rfl
      _ = (ds.map some).filterMap id := by rw [h]
      _ = ds := by rw [List.filterMap_map]; exact List.filterMap_some
  unfold Decimal.digitsOf
  rw [List.takeWhile_append_of_pos hAll, List.dropWhile_append_of_pos hAll, hTake,
    dropWhile_eq_self_of_head? hStop, List.append_nil, hValues]

/-- What is taken from the front of a text are digits. -/
theorem exists_digitsOf (cs : List Char) :
    ∃ front, cs = front ++ (Decimal.digitsOf cs).2 ∧
      SpellsDigits front (Decimal.digitsOf cs).1 := by
  refine ⟨cs.takeWhile fun c => (digitValue? c).isSome, ?_, ?_⟩
  · exact List.takeWhile_append_dropWhile.symm
  · show SpellsDigits _ ((cs.takeWhile fun c => (digitValue? c).isSome).filterMap digitValue?)
    have hAll : ∀ c ∈ cs.takeWhile (fun c => (digitValue? c).isSome),
        (digitValue? c).isSome = true := by
      intro c hc
      exact List.mem_takeWhile_imp (p := fun c => (digitValue? c).isSome) hc
    generalize cs.takeWhile (fun c => (digitValue? c).isSome) = front at hAll ⊢
    induction front with
    | nil => rfl
    | cons c front ih =>
        obtain ⟨hc, hFront⟩ := List.forall_mem_cons.mp hAll
        obtain ⟨d, hd⟩ := Option.isSome_iff_exists.mp hc
        rw [List.filterMap_cons_some hd]
        exact spellsDigits_cons_iff.mpr ⟨d, _, rfl, hd, ih hFront⟩

/-! ## Reading signs -/

theorem SpellsSign.splitSign {sign cs : List Char} {negative : Bool}
    (h : SpellsSign sign negative) (hcs : ∀ c ∈ cs.head?, c ≠ '+' ∧ c ≠ '-') :
    splitSign (sign ++ cs) = (negative, cs) := by
  cases h with
  | plus => rfl
  | minus => rfl
  | absent =>
      show Number.splitSign cs = (false, cs)
      unfold Number.splitSign
      split
      · exact absurd rfl (hcs '-' rfl).2
      · exact absurd rfl (hcs '+' rfl).1
      · rfl

theorem exists_splitSign (cs : List Char) :
    ∃ sign, cs = sign ++ (splitSign cs).2 ∧ SpellsSign sign (splitSign cs).1 := by
  unfold splitSign
  split
  · exact ⟨['-'], rfl, .minus⟩
  · exact ⟨['+'], rfl, .plus⟩
  · exact ⟨[], rfl, .absent⟩

/-! ## Characters of a numeral -/

/-- The characters of which numerals consist. -/
def IsNumeralChar (c : Char) : Prop :=
  (∃ d, digitValue? c = some d) ∨ c ∈ ['.', 'e', 'E', '+', '-']

theorem SpellsDigits.chars {cs : List Char} {ds : List Nat} (h : SpellsDigits cs ds) :
    ∀ c ∈ cs, IsNumeralChar c :=
  fun c hc => Or.inl (h.exists_digit c hc)

theorem SpellsSign.chars {sign : List Char} {negative : Bool} (h : SpellsSign sign negative) :
    ∀ c ∈ sign, IsNumeralChar c := by
  intro c hc
  cases h with
  | absent => cases hc
  | plus =>
      rw [List.mem_singleton.mp hc]
      exact Or.inr (by decide)
  | minus =>
      rw [List.mem_singleton.mp hc]
      exact Or.inr (by decide)

theorem SpellsExponent.chars {cs : List Char} {x : Int} (h : SpellsExponent cs x) :
    ∀ c ∈ cs, IsNumeralChar c := by
  cases h with
  | absent => exact fun c hc => absurd hc List.not_mem_nil
  | marked hMark hSign hDigits hSome =>
      refine List.forall_mem_cons.mpr ⟨Or.inr ?_, List.forall_mem_append.mpr
        ⟨hSign.chars, hDigits.chars⟩⟩
      rcases hMark with rfl | rfl <;> decide

theorem SpellsNumeral.chars {cs : List Char} {c : Nat} {e : Int} (h : SpellsNumeral cs c e) :
    ∀ c ∈ cs, IsNumeralChar c := by
  cases h with
  | whole hDigits hSome hExponent =>
      exact List.forall_mem_append.mpr ⟨hDigits.chars, hExponent.chars⟩
  | pointed hDigits hFraction hSome hExponent =>
      have hTail := List.forall_mem_append.mpr ⟨hFraction.chars, hExponent.chars⟩
      exact List.forall_mem_append.mpr
        ⟨hDigits.chars, List.forall_mem_cons.mpr ⟨Or.inr (by decide), hTail⟩⟩

/-- A character that is neither a digit nor one of the marks occurs in no numeral. -/
theorem not_isNumeralChar {c : Char} (hDigit : digitValue? c = none)
    (hMark : c ∉ ['.', 'e', 'E', '+', '-']) : ¬ IsNumeralChar c := by
  rintro (⟨d, hd⟩ | hc)
  · rw [hDigit] at hd
    cases hd
  · exact hMark hc

theorem IsNumeralChar.isBlank {c : Char} (h : IsNumeralChar c) : isBlank c = false := by
  rcases h with ⟨d, hd⟩ | hc
  · exact isBlank_of_digitValue? hd
  · simp only [List.mem_cons, List.not_mem_nil, or_false] at hc
    rcases hc with rfl | rfl | rfl | rfl | rfl <;> rfl

/-! ## Reading numerals -/

theorem not_digit_of_mark {c : Char} (hMark : c ∈ ['.', 'e', 'E', '+', '-']) :
    digitValue? c = none := by
  simp only [List.mem_cons, List.not_mem_nil, or_false] at hMark
  rcases hMark with rfl | rfl | rfl | rfl | rfl <;> rfl

/-- Digits do not begin with a sign. -/
theorem SpellsDigits.head_not_sign {cs : List Char} {ds : List Nat} (h : SpellsDigits cs ds) :
    ∀ c ∈ cs.head?, c ≠ '+' ∧ c ≠ '-' := by
  intro c hc
  obtain ⟨d, hd⟩ := h.exists_digit c (List.mem_of_mem_head? hc)
  constructor
  · rintro rfl
    rw [not_digit_of_mark (by decide)] at hd
    cases hd
  · rintro rfl
    rw [not_digit_of_mark (by decide)] at hd
    cases hd

theorem SpellsExponent.head {cs : List Char} {x : Int} (h : SpellsExponent cs x) :
    ∀ c ∈ cs.head?, c = 'e' ∨ c = 'E' := by
  intro c hc
  cases h with
  | absent => cases hc
  | marked hMark hSign hDigits hSome =>
      cases hc
      exact hMark

theorem SpellsExponent.head_not_digit {cs : List Char} {x : Int} (h : SpellsExponent cs x) :
    ∀ c ∈ cs.head?, digitValue? c = none := by
  intro c hc
  rcases h.head c hc with rfl | rfl <;> exact not_digit_of_mark (by decide)

theorem SpellsExponent.readExponent {cs : List Char} {x : Int} (h : SpellsExponent cs x) :
    Decimal.readExponent cs = some x := by
  cases h with
  | absent => rfl
  | marked hMark hSign hDigits hSome =>
      rename_i mark sign cs negative ds
      have hLetter : (mark == 'e' || mark == 'E') = true := by
        rcases hMark with rfl | rfl <;> decide
      have hRead : Decimal.digitsOf cs = (ds, []) := by
        rw [← List.append_nil cs]
        exact hDigits.digitsOf (fun c hc => by cases hc)
      unfold Decimal.readExponent
      simp only [hLetter, if_true, hSign.splitSign hDigits.head_not_sign, hRead]

theorem spellsExponent_of_readExponent {cs : List Char} {x : Int}
    (h : Decimal.readExponent cs = some x) : SpellsExponent cs x := by
  cases cs with
  | nil =>
      cases h
      exact .absent
  | cons mark rest =>
      unfold Decimal.readExponent at h
      simp only at h
      split at h
      · rename_i hLetter
        have hMark : mark = 'e' ∨ mark = 'E' := by simpa using hLetter
        obtain ⟨sign, hRest, hSign⟩ := exists_splitSign rest
        generalize splitSign rest = parts at h hRest hSign
        obtain ⟨negative, body⟩ := parts
        obtain ⟨front, hBody, hDigits⟩ := exists_digitsOf body
        generalize Decimal.digitsOf body = run at h hBody hDigits
        obtain ⟨ds, after⟩ := run
        cases ds with
        | nil => cases h
        | cons d ds =>
            cases after with
            | cons c after => cases h
            | nil =>
                cases h
                rw [List.append_nil] at hBody
                rw [hRest, hBody]
                exact .marked hMark hSign hDigits (List.cons_ne_nil d ds)
      · cases h

/-- The exponents that are read are the ones of the grammar. -/
theorem readExponent_eq_some_iff {cs : List Char} {x : Int} :
    Decimal.readExponent cs = some x ↔ SpellsExponent cs x :=
  ⟨spellsExponent_of_readExponent, SpellsExponent.readExponent⟩

/-- The digits behind a point at the front of a text, and what follows them. -/
def fractionOf : List Char → List Nat × List Char
  | '.' :: rest => Decimal.digitsOf rest
  | rest => ([], rest)

theorem SpellsExponent.fractionOf {tail : List Char} {x : Int} (h : SpellsExponent tail x) :
    fractionOf tail = ([], tail) := by
  unfold Number.fractionOf
  split
  · rcases h.head '.' rfl with hDot | hDot <;> cases hDot
  · rfl

/-- A point and the digits behind it, or neither. -/
theorem exists_fractionOf (cs : List Char) :
    cs = (fractionOf cs).2 ∧ (fractionOf cs).1 = [] ∨
      ∃ front, cs = '.' :: (front ++ (fractionOf cs).2) ∧ SpellsDigits front (fractionOf cs).1 := by
  unfold fractionOf
  split
  · rename_i rest
    obtain ⟨front, hRest, hDigits⟩ := exists_digitsOf rest
    exact Or.inr ⟨front, congrArg ('.' :: ·) hRest, hDigits⟩
  · exact Or.inl ⟨rfl, rfl⟩

/-- The reading of a numeral by its parts. -/
theorem readNumeral_eq (cs : List Char) :
    Decimal.readNumeral cs =
      match (Decimal.digitsOf cs).1 ++ (fractionOf (Decimal.digitsOf cs).2).1,
        Decimal.readExponent (fractionOf (Decimal.digitsOf cs).2).2 with
      | [], _ => none
      | _, none => none
      | ds, some x =>
          some (ofDigits ds, x - (fractionOf (Decimal.digitsOf cs).2).1.length) :=
  rfl

theorem readNumeral_eq_some {cs afterWhole afterFraction : List Char} {whole fraction : List Nat}
    (hWhole : Decimal.digitsOf cs = (whole, afterWhole))
    (hFraction : fractionOf afterWhole = (fraction, afterFraction)) {c : Nat} {e : Int} :
    Decimal.readNumeral cs = some (c, e) ↔
      whole ++ fraction ≠ [] ∧ ∃ x, Decimal.readExponent afterFraction = some x ∧
        c = ofDigits (whole ++ fraction) ∧ e = x - fraction.length := by
  rw [readNumeral_eq, hWhole, hFraction]
  simp only
  cases whole ++ fraction with
  | nil => simp
  | cons d ds =>
      cases Decimal.readExponent afterFraction with
      | none => simp
      | some x => simp [eq_comm]

theorem SpellsNumeral.readNumeral {cs : List Char} {c : Nat} {e : Int}
    (h : SpellsNumeral cs c e) : Decimal.readNumeral cs = some (c, e) := by
  cases h with
  | whole hDigits hSome hExponent =>
      rename_i cs tail ds
      have hWhole := hDigits.digitsOf hExponent.head_not_digit
      refine (readNumeral_eq_some hWhole hExponent.fractionOf).mpr
        ⟨?_, e, hExponent.readExponent, ?_, (Int.sub_zero e).symm⟩
      · rwa [List.append_nil]
      · rw [List.append_nil]
  | pointed hDigits hFraction hSome hExponent =>
      rename_i cs cs' tail ds ds' x
      have hPoint : ∀ c ∈ ('.' :: (cs' ++ tail)).head?, digitValue? c = none := by
        intro c hc
        cases hc
        exact not_digit_of_mark (by decide)
      have hAfter : Number.fractionOf ('.' :: (cs' ++ tail)) = (ds', tail) :=
        hFraction.digitsOf hExponent.head_not_digit
      exact (readNumeral_eq_some (hDigits.digitsOf hPoint) hAfter).mpr
        ⟨hSome, x, hExponent.readExponent, rfl, rfl⟩

theorem spellsNumeral_of_readNumeral {cs : List Char} {c : Nat} {e : Int}
    (h : Decimal.readNumeral cs = some (c, e)) : SpellsNumeral cs c e := by
  obtain ⟨front, hFront, hDigits⟩ := exists_digitsOf cs
  generalize hWhole : Decimal.digitsOf cs = run at hFront hDigits
  obtain ⟨whole, afterWhole⟩ := run
  have hParts := exists_fractionOf afterWhole
  generalize hFraction : fractionOf afterWhole = run at hParts
  obtain ⟨fraction, afterFraction⟩ := run
  obtain ⟨hSome, x, hExponent, rfl, rfl⟩ := (readNumeral_eq_some hWhole hFraction).mp h
  have hTail := readExponent_eq_some_iff.mp hExponent
  rcases hParts with ⟨hSame, hNone⟩ | ⟨behind, hPoint, hBehind⟩
  · simp only at hSame hNone
    subst hSame hNone
    rw [List.append_nil] at hSome ⊢
    rw [hFront, List.length_nil, Int.natCast_zero, Int.sub_zero]
    exact .whole hDigits hSome hTail
  · simp only at hPoint hBehind hFront hDigits
    rw [hFront, hPoint]
    exact .pointed hDigits hBehind hSome hTail

/-- The numerals that are read are the ones of the grammar. -/
theorem readNumeral_eq_some_iff {cs : List Char} {c : Nat} {e : Int} :
    Decimal.readNumeral cs = some (c, e) ↔ SpellsNumeral cs c e :=
  ⟨spellsNumeral_of_readNumeral, SpellsNumeral.readNumeral⟩

/-! ## Reading decimals -/

/-- A numeral begins with a digit or with a point. -/
theorem SpellsNumeral.head_not_sign {cs : List Char} {c : Nat} {e : Int}
    (h : SpellsNumeral cs c e) : ∀ c ∈ cs.head?, c ≠ '+' ∧ c ≠ '-' := by
  cases h with
  | whole hDigits hSome hExponent =>
      have hFirst := List.isSome_head?.mpr (hDigits.ne_nil_iff.mp hSome)
      rw [List.head?_append, Option.or_of_isSome hFirst]
      exact hDigits.head_not_sign
  | pointed hDigits hFraction hSome hExponent =>
      rename_i cs cs' tail ds ds' x
      cases cs with
      | nil =>
          intro c hc
          cases hc
          decide
      | cons c cs => exact hDigits.head_not_sign

theorem SpellsNumeral.ne_nil {cs : List Char} {c : Nat} {e : Int} (h : SpellsNumeral cs c e) :
    cs ≠ [] := by
  cases h with
  | whole hDigits hSome hExponent =>
      exact List.append_ne_nil_of_left_ne_nil (hDigits.ne_nil_iff.mp hSome) _
  | pointed hDigits hFraction hSome hExponent =>
      exact List.append_ne_nil_of_right_ne_nil _ (List.cons_ne_nil _ _)

/-- A text from which a numeral is left without its underscores has no other characters. -/
theorem chars_of_filter {core kept : List Char} (hCore : core.filter (· != '_') = kept)
    (hKept : ∀ c ∈ kept, IsNumeralChar c) : ∀ c ∈ core, c = '_' ∨ IsNumeralChar c := by
  intro c hc
  by_cases hUnderscore : c = '_'
  · exact Or.inl hUnderscore
  · have hMem : c ∈ kept := by
      rw [← hCore]
      exact List.mem_filter.mpr ⟨hc, by simp [hUnderscore]⟩
    exact Or.inr (hKept c hMem)

/-- The characters of a decimal besides the blanks around it and its underscores are those of its
sign and its numeral. -/
theorem SpellsDecimal.chars {cs : List Char} {negative : Bool} {c : Nat} {e : Int}
    (h : SpellsDecimal cs negative c e) :
    ∀ c ∈ cs, isBlank c = true ∨ c = '_' ∨ IsNumeralChar c := by
  cases h with
  | mk hFront hBack hCore hSign hBody =>
      rename_i front core back sign body
      have hInner := chars_of_filter hCore (List.forall_mem_append.mpr ⟨hSign.chars, hBody.chars⟩)
      intro c hc
      rcases List.mem_append.mp hc with hc | hc
      · rcases List.mem_append.mp hc with hc | hc
        · exact Or.inl (hFront c hc)
        · exact Or.inr (hInner c hc)
      · exact Or.inl (hBack c hc)

/-- What the reader makes of a decimal of the grammar. -/
theorem SpellsDecimal.read {cs : List Char} {negative : Bool} {c : Nat} {e : Int}
    (h : SpellsDecimal cs negative c e) :
    ∃ body, splitSign ((trimBy isBlank cs).filter (· != '_')) = (negative, body) ∧
      Decimal.readNumeral body = some (c, e) := by
  cases h with
  | mk hFront hBack hCore hSign hBody =>
      rename_i front core back sign body
      have hSome : core ≠ [] := by
        rintro rfl
        exact List.append_ne_nil_of_right_ne_nil sign hBody.ne_nil hCore.symm
      have hInner : ∀ c ∈ core, isBlank c = false := by
        intro c hc
        have hChars := List.forall_mem_append.mpr ⟨hSign.chars, hBody.chars⟩
        rcases chars_of_filter hCore hChars c hc with rfl | hNumeral
        · decide
        · exact hNumeral.isBlank
      refine ⟨body, ?_, hBody.readNumeral⟩
      rw [trimBy_append hFront hBack hSome hInner, hCore]
      exact hSign.splitSign hBody.head_not_sign

/-- A text spells one decimal at most. -/
theorem SpellsDecimal.unique {cs : List Char} {negative negative' : Bool} {c c' : Nat}
    {e e' : Int} (h : SpellsDecimal cs negative c e) (h' : SpellsDecimal cs negative' c' e') :
    negative = negative' ∧ c = c' ∧ e = e' := by
  obtain ⟨body, hSplit, hRead⟩ := h.read
  obtain ⟨body', hSplit', hRead'⟩ := h'.read
  obtain ⟨rfl, rfl⟩ := Prod.mk.inj (hSplit.symm.trans hSplit')
  obtain ⟨rfl, rfl⟩ := Prod.mk.inj (Option.some.inj (hRead.symm.trans hRead'))
  exact ⟨rfl, rfl, rfl⟩

/-- A decimal of the grammar is read, unless its exponent is out of bounds. -/
theorem ofText?_of_spells {text : String} {negative : Bool} {c : Nat} {e : Int}
    (h : SpellsDecimal text.toList negative c e) :
    Decimal.ofText? text =
      if Decimal.isReadable c e then some (.finite negative c e) else none := by
  obtain ⟨body, hSplit, hRead⟩ := h.read
  unfold Decimal.ofText?
  simp only [hSplit, hRead]

/-- The words for infinities and for what is no number name no finite decimal. -/
theorem readWord_ne_finite (sign : Bool) (cs : List Char) {negative : Bool} {c : Nat} {e : Int} :
    Decimal.readWord sign cs ≠ some (.finite negative c e) := by
  intro h
  unfold Decimal.readWord at h
  simp only at h
  split at h
  · split at h <;> cases h
  split at h
  · split at h <;> cases h
  split at h
  · split at h <;> cases h
  · cases h

/-- **The finite decimals that are read are those of the grammar within the bounds.** -/
theorem ofText?_eq_finite_iff {text : String} {negative : Bool} {c : Nat} {e : Int} :
    Decimal.ofText? text = some (.finite negative c e) ↔
      SpellsDecimal text.toList negative c e ∧ Decimal.isReadable c e = true := by
  constructor
  · intro h
    obtain ⟨front, back, hText, hFront, hBack⟩ := exists_trimBy isBlank text.toList
    obtain ⟨sign, hCore, hSign⟩ := exists_splitSign ((trimBy isBlank text.toList).filter (· != '_'))
    unfold Decimal.ofText? at h
    generalize splitSign ((trimBy isBlank text.toList).filter (· != '_')) = parts at h hCore hSign
    obtain ⟨negative', body⟩ := parts
    simp only at h hCore hSign
    split at h
    · rename_i c' e' hRead
      split at h
      · rename_i hBounds
        cases h
        rw [hText]
        exact ⟨.mk hFront hBack hCore hSign (readNumeral_eq_some_iff.mp hRead), hBounds⟩
      · cases h
    · exact absurd h (readWord_ne_finite negative' body)
  · rintro ⟨hSpells, hBounds⟩
    rw [ofText?_of_spells hSpells, if_pos hBounds]

end Number

end Tollgate
