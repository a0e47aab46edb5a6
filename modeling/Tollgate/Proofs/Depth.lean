import Mathlib.Data.List.TakeWhile
import Tollgate.Proofs.Acquiring
import Tollgate.Proofs.Authority
import Tollgate.Proofs.Conversion
import Tollgate.Proofs.Header

set_option autoImplicit false

/-! # The limit on nesting

JSON is read only down to a certain depth. How deep a text is can be seen without reading it:
`textDepth` counts the brackets and braces that stand open, and passes over what is quoted. A text
that is read is no deeper than the limit (`textDepth_le_of_readWhole`), the reader stops for the
depth only where the limit is exceeded (`lt_textDepth_of_readWhole`), and where it did not stop
a greater limit makes no difference (`readWhole_steady`). `Follows` says the three things of a
reader in the middle of a text; it holds of one reader after another, and so, by induction on the
fuel, of values, members and items alike (`follows_readers`). The text of a value is as deep as the
value is nested (`textDepth_textOf`).

Whatever is wrong with a payment header is therefore a faulty value, unless its text is nested too
deeply, which is a failure of another kind (`Payload.ofHeader_outcome`).
-/

namespace Tollgate

namespace Json

open Tollgate.Number Tollgate.Text

/-! ## The depth of a text -/

/-- Where a place in a text is: outside of quotes, between them, or between them behind a
backslash. -/
inductive Place where
  | outside
  | quoted
  | escaped

/-- The greatest number of brackets and braces that are open at once in a text, in front of which
some are `opened`. Between quotes they do not count. -/
def depthFrom : Place → (opened : Nat) → List Char → Nat
  | _, opened, [] => opened
  | .escaped, opened, _ :: rest => depthFrom .quoted opened rest
  | .quoted, opened, c :: rest =>
    if c = '"' then depthFrom .outside opened rest
    else if c = '\\' then depthFrom .escaped opened rest
    else depthFrom .quoted opened rest
  | .outside, opened, c :: rest =>
    if c = '"' then depthFrom .quoted opened rest
    else if c = '[' ∨ c = '\x7b' then depthFrom .outside (opened + 1) rest
    else if c = ']' ∨ c = '\x7d' then max opened (depthFrom .outside (opened - 1) rest)
    else depthFrom .outside opened rest

/-- The depth of a text. -/
def textDepth (cs : List Char) : Nat :=
  depthFrom .outside 0 cs

theorem depthFrom_opening {c : Char} (h : c = '[' ∨ c = '\x7b') (opened : Nat) (cs : List Char) :
    depthFrom .outside opened (c :: cs) = depthFrom .outside (opened + 1) cs := by
  rcases h with rfl | rfl <;> rfl

theorem depthFrom_closing {c : Char} (h : c = ']' ∨ c = '\x7d') (opened : Nat) (cs : List Char) :
    depthFrom .outside (opened + 1) (c :: cs) =
      max (opened + 1) (depthFrom .outside opened cs) := by
  rcases h with rfl | rfl <;> rfl

theorem le_depthFrom (place : Place) (opened : Nat) (cs : List Char) :
    opened ≤ depthFrom place opened cs := by
  induction cs generalizing place opened with
  | nil => cases place <;> exact Nat.le_refl _
  | cons c cs ih =>
      cases place with
      | escaped => exact ih _ _
      | quoted =>
          unfold depthFrom
          split
          · exact ih _ _
          split <;> exact ih _ _
      | outside =>
          unfold depthFrom
          split
          · exact ih _ _
          split
          · exact Nat.le_trans (Nat.le_succ opened) (ih _ _)
          split
          · exact Nat.le_max_left _ _
          · exact ih _ _

/-! ## What has no depth -/

/-- A character neither opens nor closes anything. -/
def IsInert (c : Char) : Prop :=
  c ∉ ['"', '[', ']', '\x7b', '\x7d']

instance (c : Char) : Decidable (IsInert c) :=
  inferInstanceAs (Decidable (c ∉ _))

/-- The rest of a text stands behind characters that neither open nor close anything. -/
def Passes (cs rest : List Char) : Prop :=
  ∃ front, cs = front ++ rest ∧ ∀ c ∈ front, IsInert c

theorem Passes.refl (cs : List Char) : Passes cs cs :=
  ⟨[], rfl, fun _ h => absurd h List.not_mem_nil⟩

theorem Passes.trans {cs cs' cs'' : List Char} (h : Passes cs cs') (h' : Passes cs' cs'') :
    Passes cs cs'' := by
  obtain ⟨front, rfl, hFront⟩ := h
  obtain ⟨front', rfl, hFront'⟩ := h'
  exact ⟨front ++ front', (List.append_assoc _ _ _).symm,
    List.forall_mem_append.mpr ⟨hFront, hFront'⟩⟩

theorem Passes.cons {c : Char} (h : IsInert c) (cs : List Char) : Passes (c :: cs) cs :=
  ⟨[c], rfl, List.forall_mem_singleton.mpr h⟩

theorem passes_dropWhile {p : Char → Bool} (h : ∀ c, p c = true → IsInert c) (cs : List Char) :
    Passes cs (cs.dropWhile p) :=
  ⟨cs.takeWhile p, List.takeWhile_append_dropWhile.symm,
    fun c hc => h c (List.mem_takeWhile_imp hc)⟩

/-- Inert characters leave the depth as it is. -/
theorem Passes.depthFrom_eq {cs rest : List Char} (h : Passes cs rest) (opened : Nat) :
    depthFrom .outside opened cs = depthFrom .outside opened rest := by
  obtain ⟨front, rfl, hFront⟩ := h
  induction front with
  | nil => rfl
  | cons c front ih =>
      obtain ⟨hc, hRest⟩ := List.forall_mem_cons.mp hFront
      simp only [IsInert, List.mem_cons, List.not_mem_nil, or_false, not_or] at hc
      obtain ⟨hQuote, hBracket, hBracket', hBrace, hBrace'⟩ := hc
      rw [List.cons_append, depthFrom, if_neg hQuote, if_neg (not_or.mpr ⟨hBracket, hBrace⟩),
        if_neg (not_or.mpr ⟨hBracket', hBrace'⟩), ih hRest]

theorem isInert_of_isSpace {c : Char} (h : isSpace c = true) : IsInert c := by
  simp only [isSpace, Bool.or_eq_true, beq_iff_eq] at h
  rcases h with ((rfl | rfl) | rfl) | rfl <;> decide

theorem isInert_of_isDigit {c : Char} (h : c.isDigit = true) : IsInert c := by
  intro hMark
  simp only [List.mem_cons, List.not_mem_nil, or_false] at hMark
  rcases hMark with rfl | rfl | rfl | rfl | rfl <;> exact absurd h (by decide)

theorem passes_skipSpace (cs : List Char) : Passes cs (skipSpace cs) :=
  passes_dropWhile (fun _ => isInert_of_isSpace) cs

theorem passes_mark {c : Char} (h : IsInert c) (cs : List Char) : Passes (c :: cs) (skipSpace cs) :=
  (Passes.cons h cs).trans (passes_skipSpace cs)

theorem passes_digitsAhead (cs : List Char) : Passes cs (digitsAhead cs).2 :=
  passes_dropWhile (fun _ => isInert_of_isDigit) cs

theorem passes_fractionAhead (cs : List Char) : Passes cs (fractionAhead cs).2 := by
  unfold fractionAhead
  split
  · rename_i rest
    split
    · exact .refl _
    · exact (Passes.cons (by decide) rest).trans (passes_digitsAhead rest)
  · exact .refl _

theorem passes_splitSign (cs : List Char) : Passes cs (splitSign cs).2 := by
  unfold splitSign
  split
  · exact .cons (by decide) _
  · exact .cons (by decide) _
  · exact .refl _

theorem passes_exponentAhead (cs : List Char) : Passes cs (exponentAhead cs).2 := by
  unfold exponentAhead
  split
  · rename_i c rest
    split
    · rename_i hMark
      have hc : IsInert c := by
        rw [Bool.or_eq_true, beq_iff_eq, beq_iff_eq] at hMark
        rcases hMark with rfl | rfl <;> decide
      have hBody := (Passes.cons hc rest).trans (passes_splitSign rest)
      simp only
      split
      · exact .refl _
      · rename_i ds after _ hDigits
        have hAfter := passes_digitsAhead (splitSign rest).2
        rw [hDigits] at hAfter
        exact hBody.trans hAfter
    · exact .refl _
  · exact .refl _

/-! ## Readers without depth -/

/-- A reader does not stop for the depth, and the text that it takes has none. -/
structure IsFlat {α : Type} (place : Place) (cs : List Char)
    (result : Except Stop (α × List Char)) : Prop where
  taken : ∀ a rest, result = .ok (a, rest) → ∀ opened,
    depthFrom place opened cs = depthFrom .outside opened rest
  reached : ∀ container, result ≠ .error (.tooDeep container)

section Flat

variable {α : Type} {place place' : Place} {cs cs' : List Char}
  {result : Except Stop (α × List Char)}

theorem IsFlat.ok {a : α} {rest : List Char}
    (h : ∀ opened, depthFrom place opened cs = depthFrom .outside opened rest) :
    IsFlat place cs (.ok (a, rest)) where
  taken := by
    rintro a' rest' hSame
    cases hSame
    exact h
  reached := fun _ hSame => by cases hSame

theorem IsFlat.problem (p : Problem) (left : Nat) :
    IsFlat place cs (.error (.problem p left) : Except Stop (α × List Char)) where
  taken := fun _ _ hSame => by cases hSame
  reached := fun _ hSame => by cases hSame

theorem IsFlat.overlong (digits : Nat) :
    IsFlat place cs (.error (.overlong digits) : Except Stop (α × List Char)) where
  taken := fun _ _ hSame => by cases hSame
  reached := fun _ hSame => by cases hSame

theorem IsFlat.congr (h : IsFlat place' cs' result)
    (hSame : ∀ opened, depthFrom place opened cs = depthFrom place' opened cs') :
    IsFlat place cs result where
  taken := fun a rest hTaken opened => (hSame opened).trans (h.taken a rest hTaken opened)
  reached := h.reached

end Flat

theorem depthFrom_quoted {c : Char} (h : c ≠ '"') (h' : c ≠ '\\') (opened : Nat)
    (cs : List Char) : depthFrom .quoted opened (c :: cs) = depthFrom .quoted opened cs := by
  rw [depthFrom, if_neg h, if_neg h']

/-- The digits of a code point stand between the quotes. -/
theorem depthFrom_quoted_of_hex {digits : List Char} {n : Nat} (h : hexNumber? digits = some n)
    (opened : Nat) (cs : List Char) :
    depthFrom .quoted opened (digits ++ cs) = depthFrom .quoted opened cs := by
  have hDigits := isHexDigit_of_hexNumber? h
  clear h
  induction digits with
  | nil => rfl
  | cons c digits ih =>
      obtain ⟨hc, hRest⟩ := List.forall_mem_cons.mp hDigits
      have hQuote : c ≠ '"' := by
        rintro rfl
        exact absurd hc (by decide)
      have hSlash : c ≠ '\\' := by
        rintro rfl
        exact absurd hc (by decide)
      rw [List.cons_append, depthFrom_quoted hQuote hSlash, ih hRest]

theorem isFlat_readPoints (left : Nat) (points : List Nat) (cs : List Char) :
    IsFlat .quoted cs (readPoints left points cs) := by
  fun_induction readPoints left points cs with
  | case2 points rest => exact .ok fun _ => rfl
  | case4 points a b c d n head tail hNumber ih =>
      exact ih.congr fun opened => depthFrom_quoted_of_hex hNumber opened (head :: tail)
  | case7 points c after hOther e hEscape ih => exact ih.congr fun _ => rfl
  | case10 points c rest hQuote hSlash hControl ih =>
      exact ih.congr fun opened => depthFrom_quoted hQuote hSlash opened rest
  | _ => exact .problem _ _

/-- A text with its opening quote. -/
theorem isFlat_quote (body : List Char) :
    IsFlat .outside ('"' :: body) (readPoints ('"' :: body).length [] body) :=
  (isFlat_readPoints _ _ body).congr fun _ => rfl

theorem isFlat_readNumber (limits : Limits) (cs : List Char) :
    IsFlat .outside cs (readNumber limits cs) := by
  unfold readNumber
  split
  rename_i negative body hSign
  have hBody : Passes cs body := by
    split at hSign <;> cases hSign
    · exact .cons (by decide) _
    · exact .refl _
  split
  rename_i whole afterWhole hWhole
  have hAfterWhole : Passes body afterWhole := by
    split at hWhole
    · cases hWhole
      exact .cons (by decide) _
    · have hDigits := passes_digitsAhead body
      rwa [hWhole] at hDigits
  have hAfterFraction := passes_fractionAhead afterWhole
  have hRest := passes_exponentAhead (fractionAhead afterWhole).2
  have hPasses := ((hBody.trans hAfterWhole).trans hAfterFraction).trans hRest
  simp only
  split
  · exact .problem _ _
  split
  · split
    · exact .overlong _
    · exact .ok hPasses.depthFrom_eq
  · exact .ok hPasses.depthFrom_eq

/-! ## Readers with a limit -/

/-- What a reader makes of the depth of a text. It closes as many brackets as `closing` says that
are open in front of the text, and is given limits and how many more may be opened. -/
structure Follows (closing : Nat) (cs : List Char)
    (read : Limits → Nat → Except Stop (Value × List Char)) : Prop where
  /-- What is taken stays within the depth that is allowed, and leaves the depth of the rest. -/
  taken : ∀ {limits depth v rest}, read limits depth = .ok (v, rest) → ∀ opened,
    depthFrom .outside opened rest ≤ depthFrom .outside (opened + closing) cs ∧
      depthFrom .outside (opened + closing) cs ≤
        max (opened + closing + depth) (depthFrom .outside opened rest)
  /-- The reader stops for the depth only where it is exceeded. -/
  tooDeep : ∀ {limits depth container}, read limits depth = .error (.tooDeep container) →
    ∀ opened, opened + depth < depthFrom .outside opened cs
  /-- A greater depth makes no difference where the reader did not stop for it. -/
  steady : ∀ {limits limits' depth depth'}, limits.digits = limits'.digits → depth ≤ depth' →
    (∀ container, read limits depth ≠ .error (.tooDeep container)) →
      read limits' depth' = read limits depth

namespace Follows

variable {closing : Nat} {cs cs' rest : List Char}
  {read : Limits → Nat → Except Stop (Value × List Char)}

theorem congr (h : Follows closing cs' read)
    (hSame : ∀ opened, depthFrom .outside opened cs = depthFrom .outside opened cs') :
    Follows closing cs read where
  taken := by
    intro limits depth v rest hTaken opened
    rw [hSame]
    exact h.taken hTaken opened
  tooDeep := by
    intro limits depth container hStopped opened
    rw [hSame]
    exact h.tooDeep hStopped opened
  steady := h.steady

theorem behind (hPasses : Passes cs cs') (h : Follows closing cs' read) :
    Follows closing cs read :=
  h.congr hPasses.depthFrom_eq

/-- A reader that heeds no depth. -/
theorem of_flat (h : ∀ limits depth, IsFlat .outside cs (read limits depth))
    (hSame : ∀ limits limits' depth depth', limits.digits = limits'.digits →
      read limits' depth' = read limits depth) : Follows 0 cs read where
  taken := by
    intro limits depth v rest hTaken opened
    rw [Nat.add_zero, (h limits depth).taken v rest hTaken opened]
    exact ⟨Nat.le_refl _, Nat.le_max_right _ _⟩
  tooDeep := fun hStopped => absurd hStopped ((h _ _).reached _)
  steady := fun hDigits _ _ => hSame _ _ _ _ hDigits

theorem failed {stop : Stop} (h : ∀ container, stop ≠ .tooDeep container) :
    Follows closing cs fun _ _ => .error stop where
  taken := fun hTaken => by cases hTaken
  tooDeep := fun hStopped => absurd (Except.error.inj hStopped) (h _)
  steady := fun _ _ _ => rfl

theorem problem (p : Problem) (rest : List Char) :
    Follows closing cs fun _ _ => .error (.before p rest) :=
  failed fun _ hSame => by cases hSame

/-- A reader that only has to close a bracket. -/
theorem closed {c : Char} (hc : c = ']' ∨ c = '\x7d') (v : Value) (rest : List Char) :
    Follows 1 (c :: rest) fun _ _ => .ok (v, rest) where
  taken := by
    intro limits depth v' rest' hTaken opened
    cases hTaken
    rw [depthFrom_closing hc]
    omega
  tooDeep := fun hStopped => by cases hStopped
  steady := fun _ _ _ => rfl

/-- One reader after another. -/
theorem bind {next : Value × List Char → Limits → Nat → Except Stop (Value × List Char)}
    (h : Follows 0 cs read) (hNext : ∀ taken, Follows closing taken.2 (next taken)) :
    Follows closing cs fun limits depth =>
      read limits depth >>= fun taken => next taken limits depth where
  taken := by
    intro limits depth v rest hTaken opened
    obtain ⟨taken, hFirst, hSecond⟩ := bind_eq_ok_iff.mp hTaken
    -- the bracket that the second reader closes is open all the while the first one reads
    have hFront := h.taken hFirst (opened + closing)
    have hBack := (hNext taken).taken hSecond opened
    rw [Nat.add_zero] at hFront
    omega
  tooDeep := by
    intro limits depth container hStopped opened
    rcases bind_eq_error_iff.mp hStopped with hFirst | ⟨taken, hFirst, hSecond⟩
    · exact h.tooDeep hFirst opened
    · have hFront := (h.taken hFirst opened).1
      have hBack := (hNext taken).tooDeep hSecond opened
      rw [Nat.add_zero] at hFront
      omega
  steady := by
    intro limits limits' depth depth' hDigits hDepth hReached
    have hFirst : ∀ container, read limits depth ≠ .error (.tooDeep container) :=
      fun container hStopped => hReached container (bind_eq_error_iff.mpr (Or.inl hStopped))
    simp only [h.steady hDigits hDepth hFirst]
    cases hTaken : read limits depth with
    | error stop => rfl
    | ok taken =>
        refine (hNext taken).steady hDigits hDepth fun container hStopped => ?_
        exact hReached container (bind_eq_error_iff.mpr (Or.inr ⟨taken, hTaken, hStopped⟩))

/-- A reader after one that heeds no depth. -/
theorem after {α : Type} {result : Except Stop (α × List Char)}
    {next : α × List Char → Limits → Nat → Except Stop (Value × List Char)}
    (h : IsFlat .outside cs result) (hNext : ∀ taken, Follows closing taken.2 (next taken)) :
    Follows closing cs fun limits depth =>
      result >>= fun taken => next taken limits depth := by
  cases result with
  | error stop => exact failed fun container hSame => h.reached container (congrArg _ hSame)
  | ok taken => exact (hNext taken).congr (h.taken taken.1 taken.2 rfl)

/-- A reader that opens a bracket first, if the depth allows it. -/
theorem opened {c : Char} (hc : c = '[' ∨ c = '\x7b') (container : Container)
    (h : Follows 1 rest read) :
    Follows 0 (c :: rest) fun limits depth =>
      match depth with
      | 0 => .error (.tooDeep container)
      | depth + 1 => read limits depth where
  taken := by
    intro limits depth v rest' hTaken opened
    cases depth with
    | zero => cases hTaken
    | succ depth =>
        have hInner := h.taken hTaken opened
        rw [Nat.add_zero, depthFrom_opening hc]
        omega
  tooDeep := by
    intro limits depth container' hStopped opened
    rw [depthFrom_opening hc]
    cases depth with
    | zero => exact le_depthFrom .outside (opened + 1) rest
    | succ depth =>
        have hInner := h.tooDeep hStopped (opened + 1)
        omega
  steady := by
    intro limits limits' depth depth' hDigits hDepth hReached
    cases depth with
    | zero => exact absurd rfl (hReached container)
    | succ depth =>
        obtain ⟨depth', rfl⟩ : ∃ inner, depth' = inner + 1 := ⟨depth' - 1, by omega⟩
        exact h.steady hDigits (Nat.le_of_succ_le_succ hDepth) hReached

end Follows

/-! ## Reading within a limit -/

section Readers

variable {fuel : Nat}

theorem follows_readItems
    (hValue : ∀ cs, Follows 0 cs fun limits depth => readValue limits fuel depth cs)
    (hItems : ∀ items cs, Follows 1 cs fun limits depth => readItems limits fuel depth items cs)
    (items : List Value) (cs : List Char) :
    Follows 1 cs fun limits depth => readItems limits (fuel + 1) depth items cs := by
  simp only [readItems]
  refine (hValue cs).bind fun taken => ?_
  refine .behind (passes_skipSpace taken.2) ?_
  split
  · rename_i after hClose
    rw [hClose]
    exact .closed (Or.inl rfl) _ _
  · rename_i after hComma
    rw [hComma]
    exact .behind (passes_mark (by decide) after) (hItems _ _)
  · exact .problem _ _

theorem follows_readMembers
    (hValue : ∀ cs, Follows 0 cs fun limits depth => readValue limits fuel depth cs)
    (hMembers : ∀ members cs,
      Follows 1 cs fun limits depth => readMembers limits fuel depth members cs)
    (members : Members) (cs : List Char) :
    Follows 1 cs fun limits depth => readMembers limits (fuel + 1) depth members cs := by
  simp only [readMembers]
  split
  · rename_i body
    refine .after (isFlat_quote body) fun name => ?_
    refine .behind (passes_skipSpace name.2) ?_
    split
    · rename_i back hColon
      rw [hColon]
      refine .behind (passes_mark (by decide) back) ?_
      refine (hValue _).bind fun taken => ?_
      refine .behind (passes_skipSpace taken.2) ?_
      split
      · rename_i rest hClose
        rw [hClose]
        exact .closed (Or.inr rfl) _ _
      · rename_i rest hComma
        rw [hComma]
        exact .behind (passes_mark (by decide) rest) (hMembers _ _)
      · exact .problem _ _
    · exact .problem _ _
  · exact .problem _ _

theorem follows_readValue
    (hMembers : ∀ members cs,
      Follows 1 cs fun limits depth => readMembers limits fuel depth members cs)
    (hItems : ∀ items cs, Follows 1 cs fun limits depth => readItems limits fuel depth items cs)
    (cs : List Char) :
    Follows 0 cs fun limits depth => readValue limits (fuel + 1) depth cs := by
  have hWord : ∀ (v : Value) {cs rest : List Char},
      (∀ opened, depthFrom .outside opened cs = depthFrom .outside opened rest) →
        Follows 0 cs fun _ _ => .ok (v, rest) :=
    fun v _ _ hSame => .of_flat (fun _ _ => .ok hSame) fun _ _ _ _ _ => rfl
  simp only [readValue]
  split
  · rename_i body
    exact .after (isFlat_quote body) fun name => hWord _ fun _ => rfl
  · rename_i body
    refine .opened (Or.inr rfl) .object ?_
    refine .behind (passes_skipSpace body) ?_
    split
    · rename_i rest hClose
      rw [hClose]
      exact .closed (Or.inr rfl) _ _
    · exact hMembers _ _
  · rename_i body
    refine .opened (Or.inl rfl) .array ?_
    refine .behind (passes_skipSpace body) ?_
    split
    · rename_i rest hClose
      rw [hClose]
      exact .closed (Or.inl rfl) _ _
    · exact hItems _ _
  · exact hWord _ fun _ => rfl
  · exact hWord _ fun _ => rfl
  · exact hWord _ fun _ => rfl
  · exact hWord _ fun _ => rfl
  · exact hWord _ fun _ => rfl
  · exact hWord _ fun _ => rfl
  · refine .of_flat (fun limits _ => isFlat_readNumber limits cs) ?_
    intro limits limits' _ _ hDigits
    simp only [readNumber, hDigits]

/-- All readers follow the depth of the text. -/
theorem follows_readers (fuel : Nat) :
    (∀ cs, Follows 0 cs fun limits depth => readValue limits fuel depth cs) ∧
    (∀ members cs, Follows 1 cs fun limits depth => readMembers limits fuel depth members cs) ∧
    ∀ items cs, Follows 1 cs fun limits depth => readItems limits fuel depth items cs := by
  induction fuel with
  | zero => exact ⟨fun _ => .problem _ _, fun _ _ => .problem _ _, fun _ _ => .problem _ _⟩
  | succ fuel ih =>
      obtain ⟨hValue, hMembers, hItems⟩ := ih
      exact ⟨follows_readValue hMembers hItems, follows_readMembers hValue hMembers,
        follows_readItems hValue hItems⟩

end Readers

/-! ## Whole texts -/

section Whole

variable {limits limits' : Limits} {cs : List Char} {text : String} {v : Value}
  {container : Container}

/-- A text that is read is no deeper than the limit. -/
theorem textDepth_le_of_readWhole (h : readWhole limits cs = .ok v) :
    textDepth cs ≤ limits.depth := by
  obtain ⟨⟨value, rest⟩, hValue, hEnd⟩ := bind_eq_ok_iff.mp h
  have hRest : skipSpace rest = [] := by
    simp only at hEnd
    split at hEnd
    · assumption
    · cases hEnd
  have hTaken := (((follows_readers _).1 _).taken hValue 0).2
  rw [Nat.add_zero] at hTaken
  have hNone : depthFrom .outside 0 rest = 0 := by
    rw [(passes_skipSpace rest).depthFrom_eq, hRest]
    rfl
  unfold textDepth
  rw [(passes_skipSpace cs).depthFrom_eq]
  omega

/-- Reading stops for the depth only in a text that is deeper than the limit. -/
theorem lt_textDepth_of_readWhole (h : readWhole limits cs = .error (.tooDeep container)) :
    limits.depth < textDepth cs := by
  unfold textDepth
  rw [(passes_skipSpace cs).depthFrom_eq]
  rcases bind_eq_error_iff.mp h with hValue | ⟨⟨value, rest⟩, -, hEnd⟩
  · have hStopped := ((follows_readers _).1 _).tooDeep hValue 0
    omega
  · simp only at hEnd
    split at hEnd <;> cases hEnd

/-- Where reading did not stop for the depth, a greater limit makes no difference. -/
theorem readWhole_steady (hDigits : limits.digits = limits'.digits)
    (hDepth : limits.depth ≤ limits'.depth)
    (h : ∀ container, readWhole limits cs ≠ .error (.tooDeep container)) :
    readWhole limits' cs = readWhole limits cs := by
  have hReached : ∀ container, readValue limits (2 * cs.length + 2) limits.depth (skipSpace cs) ≠
      .error (.tooDeep container) :=
    fun container hStopped => h container (bind_eq_error_iff.mpr (Or.inl hStopped))
  unfold readWhole
  rw [((follows_readers _).1 _).steady hDigits hDepth hReached]

/-- A text that could be read under another limit is not read if it is deeper than the limit. -/
theorem exists_tooDeep_of_readWhole (hDigits : limits.digits = limits'.digits)
    (hDeep : limits.depth < textDepth cs) (h : readWhole limits' cs = .ok v) :
    ∃ container, readWhole limits cs = .error (.tooDeep container) := by
  by_contra hNone
  have hReached : ∀ container, readWhole limits cs ≠ .error (.tooDeep container) :=
    fun container hStopped => hNone ⟨container, hStopped⟩
  -- the greater limit gives the same value, and then the lesser one bounds the depth as well
  have hOther := textDepth_le_of_readWhole h
  rw [readWhole_steady hDigits (by omega) hReached] at h
  have hWithin := textDepth_le_of_readWhole h
  omega

theorem lt_textDepth_of_read (h : read limits text = .error (.tooDeep container)) :
    limits.depth < textDepth text.toList := by
  unfold read readDecoded at h
  simp only at h
  split at h
  · cases h
  · obtain ⟨stop, hStop, hError⟩ := mapError_eq_error_iff.mp h
    cases stop with
    | problem p left => cases hError
    | overlong digits => cases hError
    | tooDeep container => exact lt_textDepth_of_readWhole hStop

theorem exists_tooDeep_of_read (hDigits : limits.digits = limits'.digits)
    (hDeep : limits.depth < textDepth text.toList) (h : read limits' text = .ok v) :
    ∃ container, read limits text = .error (.tooDeep container) := by
  unfold read readDecoded at h ⊢
  simp only at h ⊢
  split at h
  · cases h
  · rename_i hMark
    obtain ⟨container, hStop⟩ :=
      exists_tooDeep_of_readWhole hDigits hDeep (mapError_eq_ok_iff.mp h)
    rw [if_neg hMark, hStop]
    exact ⟨container, rfl⟩

end Whole

/-! ## The text of a value -/

section Values

variable {limits : Limits} {style : Style}

theorem depthFrom_writeLoose (style : Style) {t : LooseText} (h : t.IsClean) (opened : Nat)
    (rest : List Char) :
    depthFrom .outside opened (writeLoose style t ++ rest) = depthFrom .outside opened rest := by
  obtain ⟨points, body, hText, hTaken, -⟩ := exists_readName style h rest
  rw [hText]
  exact (isFlat_quote body).taken points rest hTaken opened

theorem IsMarked.passes {mark : Char} {cs : List Char} (h : IsMarked mark cs)
    (hMark : IsInert mark) (rest : List Char) : Passes (cs ++ rest) rest := by
  obtain ⟨front, back, rfl, hFront, hBack⟩ := h
  refine ⟨_, rfl, List.forall_mem_append.mpr ⟨fun c hc => isInert_of_isSpace (hFront c hc), ?_⟩⟩
  exact List.forall_mem_cons.mpr ⟨hMark, fun c hc => isInert_of_isSpace (hBack c hc)⟩

/-- What is read at depth zero has no depth. -/
theorem depthFrom_scalar {v : Value} (hLegible : v.IsLegible limits.digits) (hFlat : v.nesting = 0)
    (opened : Nat) {rest : List Char} (hRest : EndsNumber rest) :
    depthFrom .outside opened (textOf style v ++ rest) =
      max (opened + v.nesting) (depthFrom .outside opened rest) := by
  have hRead : readValue limits 1 0 (textOf style v ++ rest) = .ok (v.reread, rest) :=
    readValue_scalar hLegible hFlat 0 0 hRest
  have hTaken := ((follows_readers 1).1 _).taken hRead opened
  have hOpened := le_depthFrom .outside opened rest
  simp only [Nat.add_zero] at hTaken
  rw [hFlat]
  omega

/-- Between a bracket and the one that closes it, everything stands one deeper. -/
theorem depthFrom_enclosed {opening closing : Char} (hOpening : opening = '[' ∨ opening = '\x7b')
    (hClosing : closing = ']' ∨ closing = '\x7d') {opened nesting : Nat} {body rest : List Char}
    (hBody : depthFrom .outside (opened + 1) (body ++ closing :: rest) =
      max (opened + 1 + nesting) (depthFrom .outside (opened + 1) (closing :: rest))) :
    depthFrom .outside opened (opening :: body ++ [closing] ++ rest) =
      max (opened + (nesting + 1)) (depthFrom .outside opened rest) := by
  have hText : opening :: body ++ [closing] ++ rest = opening :: (body ++ closing :: rest) := by
    simp
  rw [hText, depthFrom_opening hOpening, hBody, depthFrom_closing hClosing]
  omega

mutual

/-- In front of a text, the text of a value counts as deep as the value is nested. -/
theorem depthFrom_textOf (hs : style.IsLegible) : ∀ (v : Value), v.IsLegible limits.digits →
    ∀ (opened : Nat) {rest : List Char}, EndsNumber rest →
      depthFrom .outside opened (textOf style v ++ rest) =
        max (opened + v.nesting) (depthFrom .outside opened rest)
  | .null, hLegible, opened, _, hRest => depthFrom_scalar hLegible rfl opened hRest
  | .bool _, hLegible, opened, _, hRest => depthFrom_scalar hLegible rfl opened hRest
  | .int _, hLegible, opened, _, hRest => depthFrom_scalar hLegible rfl opened hRest
  | .float _, hLegible, opened, _, hRest => depthFrom_scalar hLegible rfl opened hRest
  | .text _, hLegible, opened, _, hRest => depthFrom_scalar hLegible rfl opened hRest
  | .broken _, hLegible, opened, _, hRest => depthFrom_scalar hLegible rfl opened hRest
  | .array items, hLegible, opened, rest, _ =>
      depthFrom_enclosed (Or.inl rfl) (Or.inl rfl)
        (depthFrom_itemsText hs items hLegible (opened + 1) (endsNumber_cons (by decide) rest))
  | .object members, hLegible, opened, rest, _ =>
      depthFrom_enclosed (Or.inr rfl) (Or.inr rfl)
        (depthFrom_membersText hs members hLegible (opened + 1) (endsNumber_cons (by decide) rest))
  | .record _ _ members, hLegible, opened, rest, _ =>
      depthFrom_enclosed (Or.inr rfl) (Or.inr rfl)
        (depthFrom_membersText hs members hLegible (opened + 1) (endsNumber_cons (by decide) rest))

theorem depthFrom_itemsText (hs : style.IsLegible) : ∀ (items : List Value),
    Value.ItemsLegible limits.digits items → ∀ (opened : Nat) {rest : List Char},
      EndsNumber rest → depthFrom .outside opened (itemsText style items ++ rest) =
        max (opened + Value.itemsNesting items) (depthFrom .outside opened rest)
  | [], _, opened, rest, _ => (Nat.max_eq_right (le_depthFrom .outside opened rest)).symm
  | item :: items, hLegible, opened, rest, hRest => by
      obtain ⟨hItem, hItems⟩ := hLegible
      by_cases hLast : items = []
      · subst hLast
        rw [itemsText_singleton, depthFrom_textOf hs item hItem opened hRest, Value.itemsNesting,
          Value.itemsNesting, Nat.max_zero]
      · rw [itemsText_cons style item hLast, List.append_assoc, List.append_assoc,
          depthFrom_textOf hs item hItem opened (hs.comma.endsNumber _),
          (hs.comma.passes (by decide) _).depthFrom_eq,
          depthFrom_itemsText hs items hItems opened hRest, Value.itemsNesting]
        omega

theorem depthFrom_membersText (hs : style.IsLegible) : ∀ (members : Members),
    Value.MembersLegible limits.digits members → ∀ (opened : Nat) {rest : List Char},
      EndsNumber rest → depthFrom .outside opened (membersText style members ++ rest) =
        max (opened + Value.membersNesting members) (depthFrom .outside opened rest)
  | [], _, opened, rest, _ => (Nat.max_eq_right (le_depthFrom .outside opened rest)).symm
  | (name, value) :: members, hLegible, opened, rest, hRest => by
      obtain ⟨hName, hMember, hMembers⟩ := hLegible
      by_cases hLast : members = []
      · subst hLast
        rw [membersText_singleton, List.append_assoc, List.append_assoc,
          depthFrom_writeLoose style hName, (hs.colon.passes (by decide) _).depthFrom_eq,
          depthFrom_textOf hs value hMember opened hRest, Value.membersNesting,
          Value.membersNesting, Nat.max_zero]
      · rw [membersText_cons style name value hLast]
        simp only [List.append_assoc]
        rw [depthFrom_writeLoose style hName, (hs.colon.passes (by decide) _).depthFrom_eq,
          depthFrom_textOf hs value hMember opened (hs.comma.endsNumber _),
          (hs.comma.passes (by decide) _).depthFrom_eq,
          depthFrom_membersText hs members hMembers opened hRest, Value.membersNesting]
        omega

end

/-- **The text of a value is as deep as the value is nested.** -/
theorem textDepth_textOf (hs : style.IsLegible) {v : Value}
    (hLegible : v.IsLegible limits.digits) : textDepth (textOf style v) = v.nesting := by
  have hDepth := depthFrom_textOf hs v hLegible 0 endsNumber_nil
  rw [List.append_nil, Nat.zero_add] at hDepth
  exact hDepth.trans (Nat.max_eq_left (Nat.zero_le _))

/-- The text of a value that is nested deeper than the limit is not read. -/
theorem exists_tooDeep_of_textOf (hs : style.IsLegible) {v : Value}
    (hLegible : v.IsLegible limits.digits) (hDeep : limits.depth < v.nesting) :
    ∃ container, read limits (String.ofList (textOf style v)) = .error (.tooDeep container) := by
  have hRead : read ⟨v.nesting, limits.digits⟩ (String.ofList (textOf style v)) = .ok v.reread :=
    read_textOf hs hLegible (Nat.le_refl _)
  have hTextDeep : limits.depth < textDepth (String.ofList (textOf style v)).toList := by
    rwa [String.toList_ofList, textDepth_textOf hs hLegible]
  exact exists_tooDeep_of_read (by rfl) hTextDeep hRead

end Values

/-! ## A tower of arrays -/

/-- Arrays that stand one inside the other, with nothing in the innermost. -/
def tower : Nat → Value
  | 0 => .array []
  | n + 1 => .array [tower n]

theorem nesting_tower (n : Nat) : (tower n).nesting = n + 1 := by
  induction n with
  | zero => rfl
  | succ n ih =>
      rw [tower, Value.nesting, Value.itemsNesting, Value.itemsNesting, Nat.max_zero, ih]

theorem isLegible_tower (digits n : Nat) : (tower n).IsLegible digits := by
  induction n with
  | zero => trivial
  | succ n ih => exact ⟨ih, trivial⟩

end Json

namespace Payment

open Tollgate.Number Tollgate.Json Tollgate.Codec Tollgate.Schema Tollgate.Http

/-! ## Headers -/

/-- What reading a payment header comes to, where values may be nested so deeply. -/
structure HeaderOutcome (depth : Nat) (header : String) (outcome : Except Failure Payload) :
    Prop where
  /-- A failure is a faulty value, or the text was too deep to be read. -/
  failed : ∀ f, outcome = .error f → HeaderFailure f ∧
    (f.IsA .value ∨ ∃ container, f = .unreadable (.tooDeep container))
  /-- In a text that is no deeper than the limit, every failure is a faulty value. -/
  shallow : (∀ cs, headerText header = .ok cs → textDepth cs ≤ depth) →
    ∀ f, outcome = .error f → f.IsA .value
  /-- A text that is deeper, and could be read under another limit, fails because of the depth, and
  that is no faulty value. -/
  deep : ∀ cs limits v, headerText header = .ok cs → depth < textDepth cs →
    limits.digits = digitLimit → Json.read limits (String.ofList cs) = .ok v →
      ∃ f, outcome = .error f ∧ ¬ f.IsA .value

/-- To be too deep is not the fault of a value. -/
theorem not_isA_value_tooDeep (container : Container) :
    ¬ (Failure.unreadable (.tooDeep container)).IsA .value :=
  fun h => Bool.false_ne_true (Failure.isValueFault_iff.mpr h)

/-- A header that is not too deep fails because of its value. -/
theorem isA_value_of_headerFailure {f : Failure} (h : HeaderFailure f)
    (hShallow : ∀ container, f ≠ .unreadable (.tooDeep container)) : f.IsA .value := by
  rw [← Failure.isValueFault_iff]
  cases h with
  | undecodable fault => rfl
  | rejected rejection => rfl
  | unreadable error =>
      cases error with
      | malformed problem position => rfl
      | overlong digits => rfl
      | tooDeep container => exact absurd rfl (hShallow container)

/-- A header fails because of the depth if its text does. -/
theorem ofHeader_of_text {depth : Nat} {header : String} {cs : List Char} {error : ReadError}
    (hText : headerText header = .ok cs)
    (hRead : Json.read (outsideLimits depth) (String.ofList cs) = .error error) :
    Payload.ofHeader depth header = .error (.unreadable error) := by
  unfold Payload.ofHeader
  rw [hText]
  simp only [Except.mapError, bind, Except.bind, hRead]

theorem exists_text_of_tooDeep {depth : Nat} {header : String} {container : Container}
    (h : Payload.ofHeader depth header = .error (.unreadable (.tooDeep container))) :
    ∃ cs, headerText header = .ok cs ∧ depth < textDepth cs := by
  unfold Payload.ofHeader at h
  rcases bind_eq_error_iff.mp h with hText | ⟨cs, hText, h⟩
  · obtain ⟨fault, -, hFault⟩ := mapError_eq_error_iff.mp hText
    cases hFault
  rcases bind_eq_error_iff.mp h with hRead | ⟨value, -, h⟩
  · obtain ⟨error, hError, hSame⟩ := mapError_eq_error_iff.mp hRead
    obtain rfl := Failure.unreadable.inj hSame
    have hDeep := lt_textDepth_of_read hError
    rw [String.toList_ofList] at hDeep
    exact ⟨cs, mapError_eq_ok_iff.mp hText, hDeep⟩
  · obtain ⟨rejection, -, hRejection⟩ := mapError_eq_error_iff.mp h
    cases hRejection

/-- **What a payment header fails with.** Whatever the header and the limit on nesting, a payment is
read from it, or it is a faulty value, or its text is nested too deeply. The last is no faulty
value, and it happens in texts that are deeper than the limit, and in every such text that could be
read otherwise. -/
theorem Payload.ofHeader_outcome (depth : Nat) (header : String) :
    HeaderOutcome depth header (Payload.ofHeader depth header) := by
  refine ⟨?failed, ?shallow, ?deep⟩
  case failed =>
    intro f hFailed
    have hFailure := headerFailure_of_ofHeader hFailed
    refine ⟨hFailure, ?_⟩
    by_cases hDeep : ∃ container, f = .unreadable (.tooDeep container)
    · exact Or.inr hDeep
    · exact Or.inl (isA_value_of_headerFailure hFailure fun container hSame =>
        hDeep ⟨container, hSame⟩)
  case shallow =>
    intro hDepth f hFailed
    refine isA_value_of_headerFailure (headerFailure_of_ofHeader hFailed) ?_
    rintro container rfl
    obtain ⟨cs, hText, hDeep⟩ := exists_text_of_tooDeep hFailed
    exact absurd (hDepth cs hText) (Nat.not_le.mpr hDeep)
  case deep =>
    intro cs limits v hText hDeep hDigits hRead
    rw [← String.toList_ofList (l := cs)] at hDeep
    have hSame : (outsideLimits depth).digits = limits.digits := hDigits.symm
    obtain ⟨container, hStop⟩ := exists_tooDeep_of_read hSame hDeep hRead
    exact ⟨_, ofHeader_of_text hText hStop, not_isA_value_tooDeep container⟩

/-- A value that is nested deeper than the limit cannot be sent, and this is no faulty value. -/
theorem exists_ofHeader_textOf {style : Style} (hs : style.IsLegible) {depth : Nat} {v : Value}
    (hLegible : v.IsLegible digitLimit) (hDeep : depth < v.nesting) :
    ∃ f, Payload.ofHeader depth (String.ofList (Base64.encode (Utf8.encode (textOf style v)))) =
        .error f ∧ ¬ f.IsA .value := by
  have hStopped : ∃ container, Json.read (outsideLimits depth) (String.ofList (textOf style v)) =
      .error (.tooDeep container) := exists_tooDeep_of_textOf hs hLegible hDeep
  obtain ⟨container, hStop⟩ := hStopped
  have hSome : textOf style v ≠ [] := List.ne_nil_of_length_pos (textOf_length_pos style v)
  exact ⟨_, ofHeader_of_text (headerText_encode hSome) hStop, not_isA_value_tooDeep container⟩

/-- **A header that fails otherwise.** Twenty thousand arrays one inside the other are JSON, though
no payment, and where there is not room for all of them the failure is no faulty value. -/
theorem Payload.ofHeader_tower : (tower 19999).nesting = 20000 ∧ ∀ depth < 20000,
    ∃ f, Payload.ofHeader depth
        (String.ofList (Base64.encode (Utf8.encode (textOf .compact (tower 19999))))) =
      .error f ∧ ¬ f.IsA .value := by
  have hNesting : (tower 19999).nesting = 20000 := nesting_tower 19999
  refine ⟨hNesting, fun depth hDepth => ?_⟩
  exact exists_ofHeader_textOf isLegible_compact (isLegible_tower _ 19999) (hNesting ▸ hDepth)

end Payment

end Tollgate
