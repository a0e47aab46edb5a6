import Tollgate.Codec.Base64
import Tollgate.Codec.Utf8

set_option autoImplicit false

/-! # Texts as bytes and bytes as text

A text travels in a header as its UTF-8 bytes in base 64. Both ways of writing can be undone:
`Base64.decode_encode` for every number of bytes, so for all three ways in which the last group
may be filled up, and `Utf8.decode_encode` for every text, so for sequences of all four lengths.
What base 64 writes is described by `Base64.IsLetter` and comes in groups of four.
-/

namespace Tollgate.Codec

/-! ## Base 64 -/

namespace Base64

/-- A character that text in base 64 may consist of: a letter or a digit of ASCII, one of two
further signs, or the padding. -/
def IsLetter (c : Char) : Prop :=
  c.isAlphanum = true ∨ c = '+' ∨ c = '/' ∨ c = pad

instance (c : Char) : Decidable (IsLetter c) :=
  inferInstanceAs (Decidable (_ ∨ _))

theorem sextet?_sextetChar {n : Nat} (h : n < 64) : sextet? (sextetChar n) = some n := by
  have key : ∀ m : Fin 64, sextet? (sextetChar m.val) = some m.val := by decide
  exact key ⟨n, h⟩

theorem sextetChar_ne_pad {n : Nat} (h : n < 64) : sextetChar n ≠ pad := by
  have key : ∀ m : Fin 64, sextetChar m.val ≠ pad := by decide
  exact key ⟨n, h⟩

theorem isLetter_sextetChar {n : Nat} (h : n < 64) : IsLetter (sextetChar n) := by
  have key : ∀ m : Fin 64, IsLetter (sextetChar m.val) := by decide
  exact key ⟨n, h⟩

theorem isLetter_pad : IsLetter pad :=
  Or.inr (Or.inr (Or.inr rfl))

/-- The letters of base 64 belong to ASCII. -/
theorem IsLetter.toNat_lt {c : Char} (h : IsLetter c) : c.toNat < 0x80 := by
  rcases h with h | rfl | rfl | rfl
  · have hKind : (c.isAlpha || c.isDigit) = true := h
    rcases Bool.or_eq_true_iff.mp hKind with hAlpha | hDigit
    · have hCase : (c.isUpper || c.isLower) = true := hAlpha
      rcases Bool.or_eq_true_iff.mp hCase with hUpper | hLower
      · have hRange : 'A'.val ≤ c.val ∧ c.val ≤ 'Z'.val := of_decide_eq_true hUpper
        have hLast : c.toNat ≤ 90 := hRange.2
        omega
      · have hLast : c.toNat ≤ 122 := of_decide_eq_true (Bool.and_eq_true_iff.mp hLower).2
        omega
    · have hLast : c.toNat ≤ 57 := of_decide_eq_true (Bool.and_eq_true_iff.mp hDigit).2
      omega
  · decide
  · decide
  · decide

theorem forall_mem_encode (bytes : List UInt8) : ∀ c ∈ encode bytes, IsLetter c := by
  induction bytes using encode.induct with
  | case1 => simp [encode]
  | case2 a =>
      have ha := a.toNat_lt
      simp only [encode, List.forall_mem_cons, isLetter_pad, List.not_mem_nil, true_and]
      exact ⟨isLetter_sextetChar (by omega), isLetter_sextetChar (by omega), fun _ h => h.elim⟩
  | case3 a b =>
      have ha := a.toNat_lt
      have hb := b.toNat_lt
      simp only [encode, List.forall_mem_cons, isLetter_pad, List.not_mem_nil, true_and]
      exact ⟨isLetter_sextetChar (by omega), isLetter_sextetChar (by omega),
        isLetter_sextetChar (by omega), fun _ h => h.elim⟩
  | case4 a b c rest ih =>
      have ha := a.toNat_lt
      have hb := b.toNat_lt
      have hc := c.toNat_lt
      simp only [encode, List.forall_mem_cons]
      exact ⟨isLetter_sextetChar (by omega), isLetter_sextetChar (by omega),
        isLetter_sextetChar (by omega), isLetter_sextetChar (by omega), ih⟩

theorem four_dvd_length_encode (bytes : List UInt8) : 4 ∣ (encode bytes).length := by
  induction bytes using encode.induct with
  | case1 => simp [encode]
  | case2 a => simp [encode]
  | case3 a b => simp [encode]
  | case4 a b c rest ih =>
      simp only [encode, List.length_cons]
      omega

/-- The numbers below 64 that the bytes are cut into; what is missing in the last group is filled
up with zeros. -/
def cutSextets : List UInt8 → List Nat
  | [] => []
  | [a] => [a.toNat / 4, a.toNat % 4 * 16]
  | [a, b] => [a.toNat / 4, a.toNat % 4 * 16 + b.toNat / 16, b.toNat % 16 * 4]
  | a :: b :: c :: rest =>
    a.toNat / 4 :: (a.toNat % 4 * 16 + b.toNat / 16) ::
      (b.toNat % 16 * 4 + c.toNat / 64) :: c.toNat % 64 :: cutSextets rest

theorem joinSextets_cutSextets (bytes : List UInt8) :
    joinSextets (cutSextets bytes) = bytes := by
  have hByte : ∀ (n : Nat) (a : UInt8), n % 256 = a.toNat → UInt8.ofNat n = a := by
    intro n a h
    rw [← UInt8.toNat_inj, UInt8.toNat_ofNat']
    exact h
  induction bytes using cutSextets.induct with
  | case1 => rfl
  | case2 a =>
      have ha := a.toNat_lt
      simp only [cutSextets, joinSextets]
      rw [hByte _ a (by omega)]
  | case3 a b =>
      have ha := a.toNat_lt
      have hb := b.toNat_lt
      simp only [cutSextets, joinSextets]
      rw [hByte _ a (by omega), hByte _ b (by omega)]
  | case4 a b c rest ih =>
      have ha := a.toNat_lt
      have hb := b.toNat_lt
      have hc := c.toNat_lt
      simp only [cutSextets, joinSextets, ih]
      rw [hByte _ a (by omega), hByte _ b (by omega), hByte _ c (by omega)]

theorem sextets_sextetChar (seen pads : Nat) {n : Nat} (h : n < 64) (rest : List Char) :
    sextets seen pads (sextetChar n :: rest) =
      (n :: (sextets (seen + 1) 0 rest).1, (sextets (seen + 1) 0 rest).2) := by
  rw [sextets, if_neg (sextetChar_ne_pad h), sextet?_sextetChar h]

/-- The padding is complete unless the bytes fill their last group. -/
theorem sextets_encode (bytes : List UInt8) {seen : Nat} (hSeen : seen % 4 = 0) :
    sextets seen 0 (encode bytes) = (cutSextets bytes, decide (bytes.length % 3 ≠ 0)) := by
  induction bytes using encode.induct generalizing seen with
  | case1 => rfl
  | case2 a =>
      have ha := a.toNat_lt
      have hTwo : (seen + 1 + 1) % 4 = 2 := by omega
      rw [encode, sextets_sextetChar seen 0 (by omega), sextets_sextetChar _ 0 (by omega)]
      simp [sextets, hTwo, cutSextets]
  | case3 a b =>
      have ha := a.toNat_lt
      have hb := b.toNat_lt
      have hThree : (seen + 1 + 1 + 1) % 4 = 3 := by omega
      rw [encode, sextets_sextetChar seen 0 (by omega), sextets_sextetChar _ 0 (by omega),
        sextets_sextetChar _ 0 (by omega)]
      simp [sextets, hThree, cutSextets]
  | case4 a b c rest ih =>
      have ha := a.toNat_lt
      have hb := b.toNat_lt
      have hc := c.toNat_lt
      have hLength : (a :: b :: c :: rest).length % 3 = rest.length % 3 := by
        simp only [List.length_cons]
        omega
      rw [encode, sextets_sextetChar seen 0 (by omega), sextets_sextetChar _ 0 (by omega),
        sextets_sextetChar _ 0 (by omega), sextets_sextetChar _ 0 (by omega),
        ih (by omega), hLength, cutSextets]

/-- Bytes that fill their last group are cut into groups of four. -/
theorem length_cutSextets (bytes : List UInt8) (h : bytes.length % 3 = 0) :
    (cutSextets bytes).length % 4 = 0 := by
  induction bytes using cutSextets.induct with
  | case1 => rfl
  | case2 a => simp at h
  | case3 a b => simp at h
  | case4 a b c rest ih =>
      simp only [List.length_cons] at h
      have hRest := ih (by omega)
      simp only [cutSextets, List.length_cons]
      omega

/-- **Bytes are read back from base 64.** -/
theorem decode_encode (bytes : List UInt8) : decode (encode bytes) = .ok bytes := by
  have hAscii : (encode bytes).any (fun c => decide (0x80 ≤ c.toNat)) = false := by
    rw [List.any_eq_false]
    intro c hc
    have := (forall_mem_encode bytes c hc).toNat_lt
    simp only [decide_eq_true_eq]
    omega
  unfold decode
  rw [hAscii]
  simp only [Bool.false_eq_true, if_false, sextets_encode bytes (Nat.zero_mod 4),
    joinSextets_cutSextets]
  by_cases h : bytes.length % 3 = 0
  · simp [length_cutSextets bytes h]
  · simp [h]

end Base64

/-! ## UTF-8 -/

namespace Utf8

/-! The four lengths of a sequence, each with what its bytes must be. -/

section Sequences

variable {position : Nat} {done : List Char} {a b c d : UInt8} {rest : List UInt8}

theorem decodeFrom_one (ha : a.toNat < 0x80) :
    decodeFrom position done (a :: rest) =
      decodeFrom (position + 1) (Char.ofNat a.toNat :: done) rest := by
  rw [decodeFrom.eq_def]
  simp only [if_pos ha]

theorem decodeFrom_two (ha : 0xc2 ≤ a.toNat ∧ a.toNat < 0xe0) (hb : isSecond a b = true) :
    decodeFrom position done (a :: b :: rest) =
      decodeFrom (position + 2) (Char.ofNat (a.toNat % 32 * 64 + payload b) :: done) rest := by
  have h₁ : ¬ a.toNat < 0x80 := by omega
  have h₂ : ¬ (a.toNat < 0xc2 ∨ 0xf5 ≤ a.toNat) := by omega
  rw [decodeFrom.eq_def]
  simp only [if_neg h₁, if_neg h₂, hb, Bool.not_true, Bool.false_eq_true, if_false, if_pos ha.2]

theorem decodeFrom_three (ha : 0xe0 ≤ a.toNat ∧ a.toNat < 0xf0) (hb : isSecond a b = true)
    (hc : isContinuation c = true) :
    decodeFrom position done (a :: b :: c :: rest) =
      decodeFrom (position + 3)
        (Char.ofNat (a.toNat % 16 * 4096 + payload b * 64 + payload c) :: done) rest := by
  have h₁ : ¬ a.toNat < 0x80 := by omega
  have h₂ : ¬ (a.toNat < 0xc2 ∨ 0xf5 ≤ a.toNat) := by omega
  have h₃ : ¬ a.toNat < 0xe0 := by omega
  rw [decodeFrom.eq_def]
  simp only [if_neg h₁, if_neg h₂, hb, Bool.not_true, Bool.false_eq_true, if_false, if_neg h₃, hc,
    if_pos ha.2]

theorem decodeFrom_four (ha : 0xf0 ≤ a.toNat ∧ a.toNat < 0xf5) (hb : isSecond a b = true)
    (hc : isContinuation c = true) (hd : isContinuation d = true) :
    decodeFrom position done (a :: b :: c :: d :: rest) =
      decodeFrom (position + 4)
        (Char.ofNat (a.toNat % 8 * 262144 + payload b * 4096 + payload c * 64 + payload d) ::
          done) rest := by
  have h₁ : ¬ a.toNat < 0x80 := by omega
  have h₂ : ¬ (a.toNat < 0xc2 ∨ 0xf5 ≤ a.toNat) := by omega
  have h₃ : ¬ a.toNat < 0xe0 := by omega
  have h₄ : ¬ a.toNat < 0xf0 := by omega
  rw [decodeFrom.eq_def]
  simp only [if_neg h₁, if_neg h₂, hb, Bool.not_true, Bool.false_eq_true, if_false, if_neg h₃, hc,
    if_neg h₄, hd]

end Sequences

theorem toNat_ofNat {n : Nat} (h : n < 256) : (UInt8.ofNat n).toNat = n := by
  rw [UInt8.toNat_ofNat']
  exact Nat.mod_eq_of_lt h

/-- Six bits in a byte that continues a sequence. -/
theorem isContinuation_ofNat {n : Nat} (h : n < 64) :
    isContinuation (UInt8.ofNat (n + 128)) = true := by
  have hByte : (UInt8.ofNat (n + 128)).toNat = n + 128 := toNat_ofNat (by omega)
  simp only [isContinuation, hByte, Bool.and_eq_true, decide_eq_true_eq]
  omega

theorem payload_ofNat {n : Nat} (h : n < 64) : payload (UInt8.ofNat (n + 128)) = n := by
  have hByte : (UInt8.ofNat (n + 128)).toNat = n + 128 := toNat_ofNat (by omega)
  rw [payload, hByte]
  omega

/-- Six bits in the second byte of a sequence, if the code point is in the range of its length. -/
theorem isSecond_ofNat {lead n : Nat} (hLead : lead < 256) (hn : n < 64)
    (hThree : lead = 0xe0 → 0x20 ≤ n) (hSurrogate : lead = 0xed → n < 0x20)
    (hFour : lead = 0xf0 → 0x10 ≤ n) (hLast : lead = 0xf4 → n < 0x10) :
    isSecond (UInt8.ofNat lead) (UInt8.ofNat (n + 128)) = true := by
  have hByte : (UInt8.ofNat (n + 128)).toNat = n + 128 := toNat_ofNat (by omega)
  simp only [isSecond, isContinuation_ofNat hn, toNat_ofNat hLead, hByte]
  simp only [Bool.true_and, Bool.and_eq_true, Bool.or_eq_true, bne_iff_ne, decide_eq_true_eq]
  omega

/-- A character is read back from its bytes, whatever stands behind them. -/
theorem decodeFrom_encodeChar (c : Char) (rest : List UInt8) (position : Nat)
    (done : List Char) : ∃ position',
      decodeFrom position done (String.utf8EncodeChar c ++ rest) =
        decodeFrom position' (c :: done) rest := by
  have hValid : c.toNat < 0xd800 ∨ (0xdfff < c.toNat ∧ c.toNat < 0x110000) := c.valid
  have hBack : ∀ n, n = c.toNat → Char.ofNat n = c := by
    rintro n rfl
    exact Char.ofNat_toNat c
  have hNat : c.val.toNat = c.toNat := rfl
  unfold String.utf8EncodeChar
  rw [hNat]
  -- from here on the character is a number in its two ranges, as `omega` needs it
  generalize c.toNat = n at hValid hBack
  have hSix : ∀ m, m % 64 < 64 := fun m => Nat.mod_lt m (by decide)
  simp only
  split
  · refine ⟨position + 1, ?_⟩
    have ha := toNat_ofNat (show n < 256 by omega)
    rw [List.singleton_append, decodeFrom_one (by omega), ha, hBack n rfl]
  split
  · refine ⟨position + 2, ?_⟩
    have ha := toNat_ofNat (show n / 64 % 32 + 192 < 256 by omega)
    have hSecond : isSecond (UInt8.ofNat (n / 64 % 32 + 192)) (UInt8.ofNat (n % 64 + 128)) =
        true := by
      apply isSecond_ofNat <;> omega
    simp only [List.cons_append, List.nil_append]
    rw [decodeFrom_two (by omega) hSecond, ha, payload_ofNat (hSix n), hBack _ (by omega)]
  split
  · refine ⟨position + 3, ?_⟩
    have ha := toNat_ofNat (show n / 4096 % 16 + 224 < 256 by omega)
    have hSecond : isSecond (UInt8.ofNat (n / 4096 % 16 + 224))
        (UInt8.ofNat (n / 64 % 64 + 128)) = true := by
      apply isSecond_ofNat <;> omega
    simp only [List.cons_append, List.nil_append]
    rw [decodeFrom_three (by omega) hSecond (isContinuation_ofNat (hSix n)), ha,
      payload_ofNat (hSix _), payload_ofNat (hSix n), hBack _ (by omega)]
  · refine ⟨position + 4, ?_⟩
    have ha := toNat_ofNat (show n / 262144 % 8 + 240 < 256 by omega)
    have hSecond : isSecond (UInt8.ofNat (n / 262144 % 8 + 240))
        (UInt8.ofNat (n / 4096 % 64 + 128)) = true := by
      apply isSecond_ofNat <;> omega
    simp only [List.cons_append, List.nil_append]
    rw [decodeFrom_four (by omega) hSecond (isContinuation_ofNat (hSix _))
      (isContinuation_ofNat (hSix n)), ha, payload_ofNat (hSix _), payload_ofNat (hSix _),
      payload_ofNat (hSix n), hBack _ (by omega)]

theorem decodeFrom_encode (cs : List Char) (position : Nat) (done : List Char) :
    decodeFrom position done (encode cs) = .ok (done.reverse ++ cs) := by
  induction cs generalizing position done with
  | nil =>
      show decodeFrom position done [] = _
      rw [decodeFrom.eq_def, List.append_nil]
  | cons c cs ih =>
      have hEncode : encode (c :: cs) = String.utf8EncodeChar c ++ encode cs := rfl
      obtain ⟨position', hChar⟩ := decodeFrom_encodeChar c (encode cs) position done
      rw [hEncode, hChar, ih, List.reverse_cons, List.append_assoc, List.singleton_append]

/-- **Text is read back from UTF-8.** -/
theorem decode_encode (cs : List Char) : decode (encode cs) = .ok cs :=
  decodeFrom_encode cs 0 []

end Utf8

end Tollgate.Codec
