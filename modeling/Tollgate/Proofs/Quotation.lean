import Tollgate.Json.Reader
import Tollgate.Json.Writer

set_option autoImplicit false

/-! # Texts between quotes

A text is written between quotes with escapes, and reading what stands between the quotes gives
the text back (`exists_readPoints`). The escape of a character beyond the first 65536 is a pair of
surrogates, so that more code points may be read than characters were written (`spelled`); joining
the pairs restores the characters (`joinPairs_flatMap_spelled`).
-/

namespace Tollgate.Text

/-! ## Hexadecimal numbers -/

theorem hexValue?_hexDigit_mod (n : Nat) : hexValue? (hexDigit n) = some (n % 16) := by
  have hSame : hexDigit n = hexDigit (n % 16) := by
    unfold hexDigit
    rw [Nat.mod_mod]
  rw [hSame]
  exact hexValue?_hexDigit (Nat.mod_lt n (by decide))

/-- A number is read back from enough hexadecimal digits. -/
theorem hexNumber?_hexText {width n : Nat} (h : n < Nat.pow 16 width) :
    hexNumber? (hexText width n) = some n := by
  induction width generalizing n with
  | zero =>
      have hn : n = 0 := Nat.lt_one_iff.mp h
      rw [hn]
      rfl
  | succ width ih =>
      have hFront : n / 16 < Nat.pow 16 width :=
        Nat.div_lt_of_lt_mul (Nat.mul_comm 16 (Nat.pow 16 width) ▸ h)
      have hWhole : 16 * (n / 16) + n % 16 = n := Nat.div_add_mod n 16
      have hNumber := ih hFront
      unfold hexNumber? at hNumber ⊢
      rw [hexText, List.foldlM_append, hNumber]
      simp [hexValue?_hexDigit_mod, hWhole]

/-! ## Surrogate pairs -/

theorem joinPairs_cons {n : Nat} (h : isHighSurrogate n = false) (ns : List Nat) :
    joinPairs (n :: ns) = n :: joinPairs ns := by
  cases ns with
  | nil => rfl
  | cons m ns => simp [joinPairs, h]

theorem toNat_lt (c : Char) : c.toNat < 0x110000 := by
  have h := c.valid
  simp only [UInt32.isValidChar, Nat.isValidChar, Char.toNat] at h ⊢
  omega

/-- The code points that a character is read as when it is spelled by an escape: itself, or the
two surrogates that stand for it. -/
def halves (n : Nat) : List Nat :=
  if n < 0x10000 then [n] else [0xd800 + (n - 0x10000) / 0x400, 0xdc00 + (n - 0x10000) % 0x400]

/-- The surrogates that stand for a character are joined to it. -/
theorem joinPairs_halves (c : Char) (ns : List Nat) :
    joinPairs (halves c.toNat ++ ns) = c.toNat :: joinPairs ns := by
  have hSingle := (Bool.or_eq_false_iff.mp (LooseText.isSurrogate_toNat c)).1
  unfold halves
  split
  · exact joinPairs_cons hSingle ns
  · rename_i hLarge
    have hLast := toNat_lt c
    generalize c.toNat = n at hLarge hLast ⊢
    have hHigh : isHighSurrogate (0xd800 + (n - 0x10000) / 0x400) = true := by
      simp only [isHighSurrogate, Bool.and_eq_true, decide_eq_true_eq]
      omega
    have hLow : isLowSurrogate (0xdc00 + (n - 0x10000) % 0x400) = true := by
      simp only [isLowSurrogate, Bool.and_eq_true, decide_eq_true_eq]
      omega
    have hJoined : joinSurrogates (0xd800 + (n - 0x10000) / 0x400)
        (0xdc00 + (n - 0x10000) % 0x400) = n := by
      unfold joinSurrogates
      omega
    show joinPairs (_ :: _ :: ns) = _
    rw [joinPairs, hHigh, hLow, hJoined]
    rfl

end Tollgate.Text

namespace Tollgate.Json

open Tollgate.Text

/-! ## Characters -/

/-- An escape by code point is read where another character follows. -/
theorem readPoints_unit {n : Nat} (hn : n < 0x10000) (left : Nat) (points : List Nat)
    {rest : List Char} (hrest : rest ≠ []) :
    readPoints left points ('\\' :: 'u' :: hexText 4 n ++ rest) =
      readPoints left (n :: points) rest := by
  have hNumber : hexNumber? (hexText 4 n) = some n := hexNumber?_hexText hn
  have hFour : hexText 4 n = [hexDigit (n / 16 / 16 / 16), hexDigit (n / 16 / 16),
      hexDigit (n / 16), hexDigit n] := rfl
  cases rest with
  | nil => exact absurd rfl hrest
  | cons c rest =>
      rw [hFour] at hNumber ⊢
      simp only [List.cons_append, List.nil_append]
      rw [readPoints.eq_def]
      simp only [hNumber]

theorem readPoints_pointEscape {n : Nat} (hn : n < 0x110000) (left : Nat) (points : List Nat)
    {rest : List Char} (hrest : rest ≠ []) :
    readPoints left points (pointEscape n ++ rest) =
      readPoints left ((halves n).reverse ++ points) rest := by
  unfold pointEscape halves
  split
  · rename_i hSmall
    exact readPoints_unit hSmall left points hrest
  · rename_i hLarge
    have hHigh : 0xd800 + (n - 0x10000) / 0x400 < 0x10000 := by omega
    have hLow : 0xdc00 + (n - 0x10000) % 0x400 < 0x10000 := by omega
    simp only
    rw [List.append_assoc, readPoints_unit hHigh left points (by simp),
      readPoints_unit hLow left _ hrest]
    rfl

/-- The code points that a character between quotes is read as. -/
def spelled (style : Style) (c : Char) : List Nat :=
  if style.isAscii && 0x7f ≤ c.toNat then halves c.toNat else [c.toNat]

/-- The characters whose escape is one letter. -/
def lettered : List Char :=
  ['"', '\\', '\n', '\r', '\t', '\x08', '\x0c']

theorem readPoints_lettered {style : Style} {c : Char} (h : c ∈ lettered) (left : Nat)
    (points : List Nat) (rest : List Char) :
    readPoints left points (escapeChar style c ++ rest) =
      readPoints left (c.toNat :: points) rest := by
  simp only [lettered, List.mem_cons, List.not_mem_nil, or_false] at h
  rcases h with rfl | rfl | rfl | rfl | rfl | rfl | rfl <;> rfl

theorem escapeChar_of_not_mem {style : Style} {c : Char} (h : c ∉ lettered) :
    escapeChar style c =
      if c.toNat < 0x20 || (style.isAscii && 0x7f ≤ c.toNat) then pointEscape c.toNat
      else [c] := by
  simp only [lettered, List.mem_cons, List.not_mem_nil, or_false, not_or] at h
  obtain ⟨hQuote, hEscape, hFeed, hReturn, hTab, hBack, hForm⟩ := h
  simp only [escapeChar, beq_iff_eq, Bool.or_eq_true, hQuote, hEscape, hFeed, hReturn, hTab,
    hBack, hForm, or_self, if_false]

/-- A character is read from the way it is written. -/
theorem readPoints_escapeChar (style : Style) (c : Char) (left : Nat) (points : List Nat)
    {rest : List Char} (hrest : rest ≠ []) :
    readPoints left points (escapeChar style c ++ rest) =
      readPoints left ((spelled style c).reverse ++ points) rest := by
  by_cases hLetter : c ∈ lettered
  · -- such a character belongs to ASCII, and is its own code point in either style
    have hAll : lettered.all (fun d => d.toNat < 0x7f) = true := by decide
    have hSmall : c.toNat < 0x7f := of_decide_eq_true (List.all_eq_true.mp hAll c hLetter)
    have hSelf : spelled style c = [c.toNat] := by simp [spelled, Nat.not_le.mpr hSmall]
    rw [readPoints_lettered hLetter, hSelf]
    rfl
  rw [escapeChar_of_not_mem hLetter]
  split
  · rename_i hEscaped
    have hHalves : spelled style c = halves c.toNat := by
      unfold spelled
      split
      · rfl
      · rename_i hPlain
        -- a control character has one code point, however it is written
        rcases Bool.or_eq_true_iff.mp hEscaped with h | h
        · have hControl : c.toNat < 0x20 := of_decide_eq_true h
          rw [halves, if_pos (by omega)]
        · exact absurd h hPlain
    rw [hHalves]
    exact readPoints_pointEscape (toNat_lt c) left points hrest
  · rename_i hPlain
    simp only [Bool.or_eq_true, not_or, decide_eq_true_eq] at hPlain
    have hSelf : spelled style c = [c.toNat] := if_neg hPlain.2
    have hQuote : c ≠ '"' := fun h => hLetter (h ▸ by decide)
    have hEscape : c ≠ '\\' := fun h => hLetter (h ▸ by decide)
    rw [hSelf, List.singleton_append, readPoints.eq_def]
    split
    · rename_i heq
      cases heq
    · rename_i heq
      exact absurd (List.cons.inj heq).1 hQuote
    · rename_i heq
      exact absurd (List.cons.inj heq).1 hEscape
    · rename_i heq
      obtain ⟨rfl, rfl⟩ := List.cons.inj heq
      rw [if_neg hPlain.1]
      rfl

/-! ## Texts -/

theorem readPoints_flatMap_escapeChar (style : Style) (cs : List Char) (left : Nat)
    (points : List Nat) (rest : List Char) :
    readPoints left points (cs.flatMap (escapeChar style) ++ '"' :: rest) =
      .ok (points.reverse ++ cs.flatMap (spelled style), rest) := by
  induction cs generalizing points with
  | nil =>
      rw [List.flatMap_nil, List.flatMap_nil, List.nil_append, List.append_nil, readPoints]
  | cons c cs ih =>
      rw [List.flatMap_cons, List.append_assoc, readPoints_escapeChar style c left points
        (by simp), ih, List.flatMap_cons, List.reverse_append, List.reverse_reverse,
        List.append_assoc]

/-- The pairs of surrogates among the code points of a text are joined to its characters. -/
theorem joinPairs_flatMap_spelled (style : Style) (cs : List Char) :
    joinPairs (cs.flatMap (spelled style)) = cs.map Char.toNat := by
  induction cs with
  | nil => rfl
  | cons c cs ih =>
      rw [List.flatMap_cons, List.map_cons, ← ih]
      unfold spelled
      split
      · exact joinPairs_halves c _
      · exact joinPairs_cons (Bool.or_eq_false_iff.mp (LooseText.isSurrogate_toNat c)).1 _

/-- **What stands between the quotes of a text is read back** as the text. -/
theorem exists_readPoints (style : Style) (s : String) (left : Nat) (rest : List Char) :
    ∃ points, readPoints left [] (s.toList.flatMap (escapeChar style) ++ '"' :: rest) =
      .ok (points, rest) ∧ LooseText.ofPoints (joinPairs points) = .whole s := by
  refine ⟨s.toList.flatMap (spelled style), readPoints_flatMap_escapeChar style _ left [] rest, ?_⟩
  rw [joinPairs_flatMap_spelled]
  exact LooseText.ofPoints_points s

end Tollgate.Json
