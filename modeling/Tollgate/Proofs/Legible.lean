import Tollgate.Proofs.Numeral
import Tollgate.Proofs.Quotation

set_option autoImplicit false

/-! # Values that are read back

The text of a value is read as the value that it shows (`read_textOf`). Three things are needed:
the style puts nothing but white space around its commas and colons, the integers and the nesting
stay within the limits of the reader, and no text holds a surrogate. What the value shows is the
value itself but for three points (`Value.reread`): a finite number is shown by its shortest
digits, records are shown as objects, and an object has one member for each name.

The proof follows the reader. A value is read in front of anything that does not go on with a
number, and the fuel is bounded by the length of the text, of which every step takes something.
-/

namespace Tollgate.Text.LooseText

/-- No code point of the text is a surrogate. -/
def IsClean (t : LooseText) : Prop :=
  ∀ n ∈ t.points, isSurrogate n = false

theorem isClean_whole (s : String) : (LooseText.whole s).IsClean := by
  intro n hn
  obtain ⟨c, -, rfl⟩ := List.mem_map.mp hn
  exact isSurrogate_toNat c

/-- The text that is read where a clean text is shown. -/
def reread (t : LooseText) : LooseText :=
  .whole (String.ofList t.chars)

@[simp] theorem reread_whole (s : String) : (LooseText.whole s).reread = .whole s := by
  simp [reread, chars]

end Tollgate.Text.LooseText

namespace Tollgate.Json

open Tollgate.Number Tollgate.Text

/-! ## Styles -/

/-- A mark with white space around it. -/
def IsMarked (mark : Char) (cs : List Char) : Prop :=
  ∃ front back, cs = front ++ mark :: back ∧ (∀ c ∈ front, isSpace c = true) ∧
    ∀ c ∈ back, isSpace c = true

/-- The marks of a style have only white space around them. -/
structure Style.IsLegible (style : Style) : Prop where
  comma : IsMarked ',' style.comma
  colon : IsMarked ':' style.colon

theorem isMarked_singleton (mark : Char) : IsMarked mark [mark] :=
  ⟨[], [], rfl, by simp, by simp⟩

theorem isMarked_blank (mark : Char) : IsMarked mark [mark, ' '] :=
  ⟨[], [' '], rfl, by simp, List.forall_mem_singleton.mpr rfl⟩

theorem isLegible_spaced : Style.spaced.IsLegible :=
  ⟨isMarked_blank ',', isMarked_blank ':'⟩

theorem isLegible_compact : Style.compact.IsLegible :=
  ⟨isMarked_singleton ',', isMarked_singleton ':'⟩

theorem skipSpace_append {front : List Char} (hFront : ∀ c ∈ front, isSpace c = true)
    (cs : List Char) : skipSpace (front ++ cs) = skipSpace cs :=
  List.dropWhile_append_of_pos hFront

theorem skipSpace_cons {c : Char} (hc : isSpace c = false) (cs : List Char) :
    skipSpace (c :: cs) = c :: cs :=
  List.dropWhile_cons_of_neg (by simp [hc])

/-- What follows a mark is found behind the white space on both sides of it. -/
theorem IsMarked.skipSpace {mark : Char} {cs : List Char} (h : IsMarked mark cs)
    (hMark : isSpace mark = false) (rest : List Char) :
    ∃ back, skipSpace (cs ++ rest) = mark :: back ∧ skipSpace back = skipSpace rest := by
  obtain ⟨front, back, rfl, hFront, hBack⟩ := h
  refine ⟨back ++ rest, ?_, skipSpace_append hBack rest⟩
  rw [List.append_assoc, skipSpace_append hFront, List.cons_append, skipSpace_cons hMark]

theorem IsMarked.length_pos {mark : Char} {cs : List Char} (h : IsMarked mark cs) :
    0 < cs.length := by
  obtain ⟨front, back, rfl, -⟩ := h
  simp only [List.length_append, List.length_cons]
  omega

/-- The characters that stand between the parts of an array or an object. -/
def separators : List Char :=
  [' ', '\t', '\n', '\r', ',', ']', '\x7d']

theorem mem_separators_of_isSpace {c : Char} (h : isSpace c = true) : c ∈ separators := by
  simp only [isSpace, Bool.or_eq_true, beq_iff_eq] at h
  rcases h with ((rfl | rfl) | rfl) | rfl <;> decide

/-- No number goes on with what stands between the parts of an array or an object. -/
theorem endsNumber_cons {c : Char} (h : c ∈ separators) (rest : List Char) :
    EndsNumber (c :: rest) := by
  have hAll : separators.all
      (fun d => d.isDigit = false ∧ d ≠ '.' ∧ d ≠ 'e' ∧ d ≠ 'E') = true := by decide
  intro d hd
  cases hd
  exact of_decide_eq_true (List.all_eq_true.mp hAll c h)

theorem IsMarked.endsNumber {cs : List Char} (h : IsMarked ',' cs) (rest : List Char) :
    EndsNumber (cs ++ rest) := by
  obtain ⟨front, back, rfl, hFront, -⟩ := h
  cases front with
  | nil => exact endsNumber_cons (by decide) _
  | cons c front =>
      exact endsNumber_cons (mem_separators_of_isSpace (hFront c List.mem_cons_self)) _

/-! ## What a value shows -/

namespace Value

mutual

/-- The value that the text of a value shows. -/
def reread : Value → Value
  | .float x => .float x.reread
  | .broken points => .text (String.ofList (points.map Char.ofNat))
  | .array items => .array (rereadItems items)
  | .object members => .object (Members.putAll [] (rereadMembers members))
  | .record _ _ members => .object (Members.putAll [] (rereadMembers members))
  | v => v

/-- The values that the text of some items shows. -/
def rereadItems : List Value → List Value
  | [] => []
  | item :: rest => reread item :: rereadItems rest

/-- The members that the text of some members shows, one after the other. -/
def rereadMembers : List (LooseText × Value) → List (LooseText × Value)
  | [] => []
  | (name, value) :: rest => (name.reread, reread value) :: rereadMembers rest

end

mutual

/-- How deeply arrays and objects are nested in a value. -/
def nesting : Value → Nat
  | .array items => itemsNesting items + 1
  | .object members => membersNesting members + 1
  | .record _ _ members => membersNesting members + 1
  | _ => 0

/-- How deeply arrays and objects are nested in some items. -/
def itemsNesting : List Value → Nat
  | [] => 0
  | item :: rest => max (nesting item) (itemsNesting rest)

/-- How deeply arrays and objects are nested in some members. -/
def membersNesting : List (LooseText × Value) → Nat
  | [] => 0
  | (_, value) :: rest => max (nesting value) (membersNesting rest)

end

@[simp] theorem nesting_ofLoose (t : LooseText) : (ofLoose t).nesting = 0 := by
  cases t <;> rfl

mutual

/-- The integers of a value have at most so many digits, and its texts hold no surrogates. -/
def IsLegible (digits : Nat) : Value → Prop
  | .int n => digitCount n.natAbs ≤ digits
  | .broken points => ∀ n ∈ points, isSurrogate n = false
  | .array items => ItemsLegible digits items
  | .object members => MembersLegible digits members
  | .record _ _ members => MembersLegible digits members
  | _ => True

/-- All of some items are legible. -/
def ItemsLegible (digits : Nat) : List Value → Prop
  | [] => True
  | item :: rest => IsLegible digits item ∧ ItemsLegible digits rest

/-- All of some members are legible, and their names hold no surrogates. -/
def MembersLegible (digits : Nat) : List (LooseText × Value) → Prop
  | [] => True
  | (name, value) :: rest =>
    name.IsClean ∧ IsLegible digits value ∧ MembersLegible digits rest

end

end Value

/-! ## The front of a text -/

/-- The characters that the text of a value may begin with. -/
def openers : List Char :=
  "\"\x7b[ntfNI-0123456789".toList

theorem mem_digits {c : Char} (h : c.isDigit = true) : c ∈ "0123456789".toList := by
  have hValue : c.toNat - 48 < 10 ∧ 48 ≤ c.toNat := by
    simp only [Char.isDigit, Bool.and_eq_true, decide_eq_true_eq] at h
    have h₁ : (48 : Nat) ≤ c.toNat := h.1
    have h₂ : c.toNat ≤ 57 := h.2
    omega
  have hAll : ∀ m : Fin 10, Char.ofNat (48 + m.val) ∈ "0123456789".toList := by decide
  have hSelf : Char.ofNat (48 + (c.toNat - 48)) = c := by
    rw [Nat.add_sub_cancel' hValue.2, Char.ofNat_toNat]
  rw [← hSelf]
  exact hAll ⟨c.toNat - 48, hValue.1⟩

theorem mem_openers_of_isDigit {c : Char} (h : c.isDigit = true) : c ∈ openers := by
  have hAll : "0123456789".toList.all (fun d => d ∈ openers) = true := by decide
  exact of_decide_eq_true (List.all_eq_true.mp hAll c (mem_digits h))

/-- No text begins with white space, with what closes an array, or with a byte order mark. -/
theorem openers_spec : ∀ c ∈ openers,
    isSpace c = false ∧ c ≠ ']' ∧ c ≠ '\ufeff' := by
  have hAll : openers.all (fun c => isSpace c = false ∧ c ≠ ']' ∧ c ≠ '\ufeff') = true := by
    decide
  exact fun c hc => of_decide_eq_true (List.all_eq_true.mp hAll c hc)

/-- A number begins with a digit behind its sign. -/
theorem exists_writeFloat {x : Binary64} (hFinite : x.isFinite = true) :
    ∃ negative c cs, writeFloat x = Binary64.signText negative ++ c :: cs ∧ c.isDigit = true := by
  cases x with
  | infinite negative => cases hFinite
  | nan => cases hFinite
  | finite negative m q canonical =>
      rw [writeFloat_finite]
      generalize Binary64.shortestDigits m q = found
      obtain ⟨d, ds, hDigits⟩ := List.exists_cons_of_ne_nil (natText_ne_nil found.1)
      have hd : d.isDigit = true :=
        isDigit_of_mem_natText d (hDigits ▸ List.mem_cons_self)
      rw [hDigits]
      generalize found.2 + ((d :: ds).length : Int) = point
      split
      · unfold Binary64.positional
        split
        · exact ⟨negative, '0', _, rfl, rfl⟩
        split
        · exact ⟨negative, d, _, rfl, hd⟩
        · rename_i hSmall hLarge
          obtain ⟨p, rfl⟩ : ∃ p : Nat, point = (p + 1 : Nat) := ⟨point.toNat - 1, by omega⟩
          exact ⟨negative, d, _, rfl, hd⟩
      · cases ds with
        | nil => exact ⟨negative, d, _, rfl, hd⟩
        | cons d' ds => exact ⟨negative, d, _, rfl, hd⟩

theorem exists_intText (n : Int) :
    ∃ negative c cs, intText n = Binary64.signText negative ++ c :: cs ∧ c.isDigit = true := by
  obtain ⟨d, ds, hDigits⟩ := List.exists_cons_of_ne_nil (natText_ne_nil n.natAbs)
  refine ⟨decide (n < 0), d, ds, ?_, isDigit_of_mem_natText d (hDigits ▸ List.mem_cons_self)⟩
  rw [intText_eq, hDigits]

/-- A text that begins like a number is read as one. -/
theorem readValue_number (limits : Limits) (fuel depth : Nat) (negative : Bool) {c : Char}
    (hc : c.isDigit = true) (cs : List Char) :
    readValue limits (fuel + 1) depth (Binary64.signText negative ++ c :: cs) =
      readNumber limits (Binary64.signText negative ++ c :: cs) := by
  have hDigit : c ∈ ['0', '1', '2', '3', '4', '5', '6', '7', '8', '9'] := mem_digits hc
  simp only [List.mem_cons, List.not_mem_nil, or_false] at hDigit
  cases negative <;>
    rcases hDigit with rfl | rfl | rfl | rfl | rfl | rfl | rfl | rfl | rfl | rfl <;> rfl

/-- The text of a value begins with one of the characters of which it may. -/
theorem exists_textOf (style : Style) (v : Value) :
    ∃ c cs, textOf style v = c :: cs ∧ c ∈ openers := by
  have hNumber : ∀ {text : List Char}, (∃ negative c cs,
      text = Binary64.signText negative ++ c :: cs ∧ c.isDigit = true) →
      ∃ c cs, text = c :: cs ∧ c ∈ openers := by
    rintro text ⟨negative, c, cs, rfl, hc⟩
    cases negative with
    | false => exact ⟨c, cs, rfl, mem_openers_of_isDigit hc⟩
    | true => exact ⟨'-', c :: cs, rfl, by decide⟩
  cases v with
  | null => exact ⟨'n', _, rfl, by decide⟩
  | bool b => cases b <;> exact ⟨_, _, rfl, by decide⟩
  | int n => exact hNumber (exists_intText n)
  | float x =>
      cases x with
      | finite negative m q canonical =>
          exact hNumber (exists_writeFloat (x := .finite negative m q canonical) rfl)
      | infinite negative => cases negative <;> exact ⟨_, _, rfl, by decide⟩
      | nan => exact ⟨'N', _, rfl, by decide⟩
  | text s => exact ⟨'"', _, rfl, by decide⟩
  | broken points => exact ⟨'"', _, rfl, by decide⟩
  | array items => exact ⟨'[', _, rfl, by decide⟩
  | object members => exact ⟨'\x7b', _, rfl, by decide⟩
  | record type attributes members => exact ⟨'\x7b', _, rfl, by decide⟩

/-! ## Reading one step -/

section Steps

variable (limits : Limits) (fuel depth : Nat)

theorem readValue_writeText (style : Style) (s : String) (rest : List Char) :
    readValue limits (fuel + 1) depth (writeText style s ++ rest) = .ok (.text s, rest) := by
  obtain ⟨points, hPoints, hText⟩ :=
    exists_readPoints style s (writeText style s ++ rest).length rest
  have hSpelled : writeText style s ++ rest =
      '"' :: (s.toList.flatMap (escapeChar style) ++ '"' :: rest) := by
    simp [writeText]
  rw [hSpelled] at hPoints ⊢
  rw [readValue, hPoints]
  simp only [bind, Except.bind, pure, Except.pure, hText, Value.ofLoose]

/-- An array that does not begin with its closing bracket has items. -/
theorem readValue_bracket {c : Char} (hc : c ∈ openers) (cs : List Char) :
    readValue limits (fuel + 1) (depth + 1) ('[' :: c :: cs) =
      readItems limits fuel depth [] (c :: cs) := by
  obtain ⟨hSpace, hClose, -⟩ := openers_spec c hc
  rw [readValue]
  simp only [skipSpace_cons hSpace]
  split
  · rename_i heq
    exact absurd (List.cons.inj heq).1 hClose
  · rfl

/-- An object that does not begin with its closing brace has members. -/
theorem readValue_brace (cs : List Char) :
    readValue limits (fuel + 1) (depth + 1) ('\x7b' :: '"' :: cs) =
      readMembers limits fuel depth [] ('"' :: cs) :=
  rfl

variable {limits fuel depth}

theorem readItems_last {cs rest after : List Char} {v : Value} (acc : List Value)
    (hValue : readValue limits fuel depth cs = .ok (v, rest))
    (hRest : skipSpace rest = ']' :: after) :
    readItems limits (fuel + 1) depth acc cs = .ok (.array (v :: acc).reverse, after) := by
  rw [readItems, hValue]
  simp only [bind, Except.bind, hRest]

theorem readItems_more {cs rest after : List Char} {v : Value} (acc : List Value)
    (hValue : readValue limits fuel depth cs = .ok (v, rest))
    (hRest : skipSpace rest = ',' :: after) :
    readItems limits (fuel + 1) depth acc cs =
      readItems limits fuel depth (v :: acc) (skipSpace after) := by
  rw [readItems, hValue]
  simp only [bind, Except.bind, hRest]

/-- A text without surrogates is written as the ordinary text of its characters. -/
theorem writeLoose_of_isClean (style : Style) {t : LooseText} (h : t.IsClean) :
    writeLoose style t = writeText style (String.ofList t.chars) := by
  cases t with
  | whole s => simp [writeLoose, LooseText.chars]
  | broken points =>
      have hEach : points.flatMap (escapePoint style) =
          points.flatMap (fun n => escapeChar style (Char.ofNat n)) := by
        simp only [List.flatMap_def]
        refine congrArg List.flatten (List.map_congr_left fun n hn => ?_)
        simp only [escapePoint, h n hn, Bool.false_eq_true, if_false]
      simp only [writeLoose, writeText, LooseText.chars, hEach, String.toList_ofList,
        List.flatMap_map]

/-- The name of a member is read up to the colon. -/
theorem exists_readName (style : Style) {name : LooseText} (hName : name.IsClean)
    (cs : List Char) :
    ∃ points body, writeLoose style name ++ cs = '"' :: body ∧
      readPoints ('"' :: body).length [] body = .ok (points, cs) ∧
      ∀ (acc : Members) (v : Value), putPoints acc points v = acc.put name.reread v := by
  rw [writeLoose_of_isClean style hName]
  obtain ⟨points, hPoints, hText⟩ :=
    exists_readPoints style (String.ofList name.chars)
      ('"' :: ((String.ofList name.chars).toList.flatMap (escapeChar style) ++ '"' :: cs)).length
      cs
  refine ⟨points, _, ?_, hPoints, ?_⟩
  · simp [writeText]
  · intro acc v
    simp only [putPoints, hText, LooseText.reread]

theorem readMembers_last {style : Style} {name : LooseText} (hClean : name.IsClean)
    {cs back rest after : List Char} {v : Value} (acc : Members)
    (hColon : skipSpace cs = ':' :: back)
    (hValue : readValue limits fuel depth (skipSpace back) = .ok (v, rest))
    (hRest : skipSpace rest = '\x7d' :: after) :
    readMembers limits (fuel + 1) depth acc (writeLoose style name ++ cs) =
      .ok (.object (acc.put name.reread v), after) := by
  obtain ⟨points, body, hText, hName, hPut⟩ := exists_readName style hClean cs
  rw [hText, readMembers, hName]
  simp only [bind, Except.bind, hColon, hValue, hRest, hPut]

theorem readMembers_more {style : Style} {name : LooseText} (hClean : name.IsClean)
    {cs back rest after : List Char} {v : Value} (acc : Members)
    (hColon : skipSpace cs = ':' :: back)
    (hValue : readValue limits fuel depth (skipSpace back) = .ok (v, rest))
    (hRest : skipSpace rest = ',' :: after) :
    readMembers limits (fuel + 1) depth acc (writeLoose style name ++ cs) =
      readMembers limits fuel depth (acc.put name.reread v) (skipSpace after) := by
  obtain ⟨points, body, hText, hName, hPut⟩ := exists_readName style hClean cs
  rw [hText, readMembers, hName]
  simp only [bind, Except.bind, hColon, hValue, hRest, hPut]

end Steps

/-! ## Reading a value -/

section Values

variable {limits : Limits} {style : Style}

/-- A value without arrays and objects is read back. -/
theorem readValue_scalar {v : Value} (hLegible : v.IsLegible limits.digits)
    (hFlat : v.nesting = 0) (fuel depth : Nat) {rest : List Char} (hrest : EndsNumber rest) :
    readValue limits (fuel + 1) depth (textOf style v ++ rest) = .ok (v.reread, rest) := by
  cases v with
  | null => rfl
  | bool b => cases b <;> rfl
  | int n =>
      obtain ⟨negative, c, cs, hText, hc⟩ := exists_intText n
      have hNumber : readNumber limits (intText n ++ rest) = .ok (.int n, rest) :=
        readNumber_intText hLegible hrest
      show readValue limits (fuel + 1) depth (intText n ++ rest) = _
      rw [hText, List.append_assoc, List.cons_append] at hNumber ⊢
      rw [readValue_number limits fuel depth negative hc, hNumber]
      rfl
  | float x =>
      show readValue limits (fuel + 1) depth (writeFloat x ++ rest) = _
      cases x with
      | infinite negative => cases negative <;> rfl
      | nan => rfl
      | finite negative m q canonical =>
          have hFinite : (Binary64.finite negative m q canonical).isFinite = true := rfl
          have hNumber := readNumber_writeFloat limits hFinite hrest
          obtain ⟨sign, c, cs, hText, hc⟩ := exists_writeFloat hFinite
          rw [hText, List.append_assoc, List.cons_append] at hNumber ⊢
          rw [readValue_number limits fuel depth sign hc, hNumber]
          rfl
  | text s => exact readValue_writeText limits fuel depth style s rest
  | broken points =>
      have hWhole : textOf style (.broken points) =
          writeText style (String.ofList (points.map Char.ofNat)) :=
        writeLoose_of_isClean style (t := .broken points) hLegible
      rw [hWhole]
      exact readValue_writeText limits fuel depth style _ rest
  | array items => simp [Value.nesting] at hFlat
  | object members => simp [Value.nesting] at hFlat
  | record type attributes members => simp [Value.nesting] at hFlat

/-- Members begin with the quote of a name. -/
theorem exists_membersText (style : Style) (member : LooseText × Value)
    (members : List (LooseText × Value)) :
    ∃ cs, membersText style (member :: members) = '"' :: cs := by
  obtain ⟨name, value⟩ := member
  cases name <;> exact ⟨_, rfl⟩

/-- An object is read back if its members are. -/
theorem readValue_braces {members : List (LooseText × Value)} {fuel depth : Nat} {rest : List Char}
    (hDepth : Value.membersNesting members + 1 ≤ depth)
    (hFuel : ('\x7b' :: membersText style members ++ ['\x7d']).length ≤ fuel + 1)
    (h : members ≠ [] → ∀ inner, Value.membersNesting members ≤ inner →
      (membersText style members).length < fuel →
      readMembers limits fuel inner [] (membersText style members ++ '\x7d' :: rest) =
        .ok (.object (Members.putAll [] (Value.rereadMembers members)), rest)) :
    readValue limits (fuel + 1) depth
        ('\x7b' :: membersText style members ++ ['\x7d'] ++ rest) =
      .ok (.object (Members.putAll [] (Value.rereadMembers members)), rest) := by
  obtain ⟨inner, rfl⟩ : ∃ inner, depth = inner + 1 := ⟨depth - 1, by omega⟩
  have hLength : (membersText style members).length < fuel := by
    simp only [List.length_append, List.length_cons, List.length_nil] at hFuel
    omega
  cases members with
  | nil => rfl
  | cons member members =>
      have hMembers := h (List.cons_ne_nil _ _) inner (by omega) hLength
      obtain ⟨cs, hText⟩ : ∃ cs, membersText style (member :: members) ++ '\x7d' :: rest =
          '"' :: cs := by
        obtain ⟨cs, hText⟩ := exists_membersText style member members
        exact ⟨_, congrArg (· ++ '\x7d' :: rest) hText⟩
      have hSpelled : '\x7b' :: membersText style (member :: members) ++ ['\x7d'] ++ rest =
          '\x7b' :: (membersText style (member :: members) ++ '\x7d' :: rest) := by
        simp
      rw [hSpelled, hText, readValue_brace, ← hText]
      exact hMembers

/-- An array is read back if its items are. -/
theorem readValue_brackets {items : List Value} {fuel depth : Nat} {rest : List Char}
    (hDepth : Value.itemsNesting items + 1 ≤ depth)
    (hFuel : ('[' :: itemsText style items ++ [']']).length ≤ fuel + 1)
    (h : items ≠ [] → ∀ inner, Value.itemsNesting items ≤ inner →
      (itemsText style items).length < fuel →
      readItems limits fuel inner [] (itemsText style items ++ ']' :: rest) =
        .ok (.array (Value.rereadItems items), rest)) :
    readValue limits (fuel + 1) depth ('[' :: itemsText style items ++ [']'] ++ rest) =
      .ok (.array (Value.rereadItems items), rest) := by
  obtain ⟨inner, rfl⟩ : ∃ inner, depth = inner + 1 := ⟨depth - 1, by omega⟩
  have hLength : (itemsText style items).length < fuel := by
    simp only [List.length_append, List.length_cons, List.length_nil] at hFuel
    omega
  cases items with
  | nil => rfl
  | cons item items =>
      have hItems := h (List.cons_ne_nil _ _) inner (by omega) hLength
      obtain ⟨c, cs, hText, hc⟩ := exists_textOf style item
      have hSpelled : '[' :: itemsText style (item :: items) ++ [']'] ++ rest =
          '[' :: (itemsText style (item :: items) ++ ']' :: rest) := by
        simp
      rw [hSpelled]
      simp only [itemsText, hText, List.cons_append] at hItems ⊢
      rw [readValue_bracket limits fuel inner hc, hItems]

theorem textOf_length_pos (style : Style) (v : Value) : 0 < (textOf style v).length := by
  obtain ⟨c, cs, hText, -⟩ := exists_textOf style v
  simp [hText]

/-- The text of a value has no white space in front. -/
theorem skipSpace_textOf (style : Style) (v : Value) (rest : List Char) :
    skipSpace (textOf style v ++ rest) = textOf style v ++ rest := by
  obtain ⟨c, cs, hText, hc⟩ := exists_textOf style v
  rw [hText]
  exact skipSpace_cons (openers_spec c hc).1 _

theorem itemsText_singleton (style : Style) (item : Value) :
    itemsText style [item] = textOf style item :=
  List.append_nil _

theorem itemsText_cons (style : Style) (item : Value) {items : List Value} (h : items ≠ []) :
    itemsText style (item :: items) =
      textOf style item ++ (style.comma ++ itemsText style items) := by
  simp [itemsText, h]

theorem skipSpace_itemsText {items : List Value} (h : items ≠ []) (rest : List Char) :
    skipSpace (itemsText style items ++ rest) = itemsText style items ++ rest := by
  cases items with
  | nil => exact absurd rfl h
  | cons item items =>
      rw [itemsText, List.append_assoc]
      exact skipSpace_textOf style item _

theorem membersText_singleton (style : Style) (name : LooseText) (value : Value) :
    membersText style [(name, value)] =
      writeLoose style name ++ style.colon ++ textOf style value :=
  List.append_nil _

theorem membersText_cons (style : Style) (name : LooseText) (value : Value)
    {members : List (LooseText × Value)} (h : members ≠ []) :
    membersText style ((name, value) :: members) =
      writeLoose style name ++ style.colon ++ textOf style value ++
        (style.comma ++ membersText style members) := by
  simp [membersText, h]

theorem skipSpace_membersText {members : List (LooseText × Value)} (h : members ≠ [])
    (rest : List Char) :
    skipSpace (membersText style members ++ rest) = membersText style members ++ rest := by
  cases members with
  | nil => exact absurd rfl h
  | cons member members =>
      obtain ⟨cs, hText⟩ := exists_membersText style member members
      rw [hText]
      exact skipSpace_cons (c := '"') rfl _

mutual

/-- A value is read back in front of anything that no number goes on with. -/
theorem readValue_textOf (hs : style.IsLegible) : ∀ (v : Value) {fuel depth : Nat},
    v.IsLegible limits.digits → v.nesting ≤ depth → (textOf style v).length ≤ fuel →
    ∀ {rest : List Char}, EndsNumber rest →
      readValue limits fuel depth (textOf style v ++ rest) = .ok (v.reread, rest)
  | v, 0, _, _, _, hFuel, _, _ => by
      -- no text is empty
      have := textOf_length_pos style v
      omega
  | .null, fuel + 1, depth, hLegible, _, _, _, hrest =>
      readValue_scalar hLegible rfl fuel depth hrest
  | .bool _, fuel + 1, depth, hLegible, _, _, _, hrest =>
      readValue_scalar hLegible rfl fuel depth hrest
  | .int _, fuel + 1, depth, hLegible, _, _, _, hrest =>
      readValue_scalar hLegible rfl fuel depth hrest
  | .float _, fuel + 1, depth, hLegible, _, _, _, hrest =>
      readValue_scalar hLegible rfl fuel depth hrest
  | .text _, fuel + 1, depth, hLegible, _, _, _, hrest =>
      readValue_scalar hLegible rfl fuel depth hrest
  | .broken _, fuel + 1, depth, hLegible, _, _, _, hrest =>
      readValue_scalar hLegible rfl fuel depth hrest
  | .array items, _ + 1, _, hLegible, hDepth, hFuel, rest, _ =>
      readValue_brackets hDepth hFuel fun hne _ hInner hLength =>
        readItems_itemsText hs items hne hLegible hInner hLength [] rest
  | .object members, _ + 1, _, hLegible, hDepth, hFuel, rest, _ =>
      readValue_braces hDepth hFuel fun hne _ hInner hLength =>
        readMembers_membersText hs members hne hLegible hInner hLength [] rest
  | .record _ _ members, _ + 1, _, hLegible, hDepth, hFuel, rest, _ =>
      readValue_braces hDepth hFuel fun hne _ hInner hLength =>
        readMembers_membersText hs members hne hLegible hInner hLength [] rest

/-- The items of an array are read up to its closing bracket. -/
theorem readItems_itemsText (hs : style.IsLegible) : ∀ (items : List Value) {fuel depth : Nat},
    items ≠ [] → Value.ItemsLegible limits.digits items → Value.itemsNesting items ≤ depth →
    (itemsText style items).length < fuel → ∀ (acc : List Value) (rest : List Char),
      readItems limits fuel depth acc (itemsText style items ++ ']' :: rest) =
        .ok (.array (acc.reverse ++ Value.rereadItems items), rest)
  | [], _, _, hne, _, _, _, _, _ => absurd rfl hne
  | _, 0, _, _, _, _, hFuel, _, _ => absurd hFuel (Nat.not_lt_zero _)
  | item :: items, fuel + 1, depth, _, hLegible, hDepth, hFuel, acc, rest => by
      obtain ⟨hItem, hItems⟩ := hLegible
      obtain ⟨hItemDepth, hItemsDepth⟩ := Nat.max_le.mp hDepth
      by_cases hLast : items = []
      · rw [hLast, itemsText_singleton] at hFuel ⊢
        have hValue := readValue_textOf hs item hItem hItemDepth (Nat.le_of_lt_succ hFuel)
          (endsNumber_cons (c := ']') (by decide) rest)
        rw [readItems_last acc hValue (skipSpace_cons (by decide) rest)]
        simp [Value.rereadItems]
      · rw [itemsText_cons style item hLast] at hFuel ⊢
        have hComma := hs.comma.length_pos
        simp only [List.length_append] at hFuel
        rw [List.append_assoc, List.append_assoc]
        have hFits : (textOf style item).length ≤ fuel := by omega
        have hValue := readValue_textOf hs item hItem hItemDepth hFits
          (hs.comma.endsNumber (itemsText style items ++ ']' :: rest))
        obtain ⟨back, hBack, hNext⟩ := hs.comma.skipSpace (by decide)
          (itemsText style items ++ ']' :: rest)
        rw [readItems_more acc hValue hBack, hNext, skipSpace_itemsText hLast,
          readItems_itemsText hs items hLast hItems hItemsDepth (by omega)]
        simp [Value.rereadItems]

/-- The members of an object are read up to its closing brace. -/
theorem readMembers_membersText (hs : style.IsLegible) :
    ∀ (members : List (LooseText × Value)) {fuel depth : Nat},
    members ≠ [] → Value.MembersLegible limits.digits members →
    Value.membersNesting members ≤ depth → (membersText style members).length < fuel →
    ∀ (acc : Members) (rest : List Char),
      readMembers limits fuel depth acc (membersText style members ++ '\x7d' :: rest) =
        .ok (.object (acc.putAll (Value.rereadMembers members)), rest)
  | [], _, _, hne, _, _, _, _, _ => absurd rfl hne
  | _, 0, _, _, _, _, hFuel, _, _ => absurd hFuel (Nat.not_lt_zero _)
  | (name, value) :: members, fuel + 1, depth, _, hLegible, hDepth, hFuel, acc, rest => by
      obtain ⟨hName, hMember, hMembers⟩ := hLegible
      obtain ⟨hMemberDepth, hMembersDepth⟩ := Nat.max_le.mp hDepth
      by_cases hLast : members = []
      · rw [hLast, membersText_singleton] at hFuel ⊢
        simp only [List.length_append] at hFuel
        simp only [List.append_assoc]
        have hFits : (textOf style value).length ≤ fuel := by omega
        have hValue := readValue_textOf hs value hMember hMemberDepth hFits
          (endsNumber_cons (c := '\x7d') (by decide) rest)
        obtain ⟨back, hBack, hNext⟩ := hs.colon.skipSpace (by decide)
          (textOf style value ++ '\x7d' :: rest)
        rw [← skipSpace_textOf, ← hNext] at hValue
        rw [readMembers_last hName acc hBack hValue (skipSpace_cons (by decide) rest)]
        rfl
      · rw [membersText_cons style name value hLast] at hFuel ⊢
        have hComma := hs.comma.length_pos
        simp only [List.length_append] at hFuel
        simp only [List.append_assoc]
        have hFits : (textOf style value).length ≤ fuel := by omega
        have hValue := readValue_textOf hs value hMember hMemberDepth hFits
          (hs.comma.endsNumber (membersText style members ++ '\x7d' :: rest))
        obtain ⟨back, hBack, hNext⟩ := hs.colon.skipSpace (by decide)
          (textOf style value ++ (style.comma ++ (membersText style members ++ '\x7d' :: rest)))
        rw [← skipSpace_textOf, ← hNext] at hValue
        obtain ⟨front, hFront, hOthers⟩ := hs.comma.skipSpace (by decide)
          (membersText style members ++ '\x7d' :: rest)
        rw [readMembers_more hName acc hBack hValue hFront, hOthers, skipSpace_membersText hLast,
          readMembers_membersText hs members hLast hMembers hMembersDepth (by omega)]
        rfl

end

/-- **The text of a value is read** as the value that it shows. -/
theorem read_textOf (hs : style.IsLegible) {v : Value} (hLegible : v.IsLegible limits.digits)
    (hDepth : v.nesting ≤ limits.depth) :
    read limits (String.ofList (textOf style v)) = .ok v.reread := by
  have hFuel : (textOf style v).length ≤ 2 * (textOf style v).length + 2 := by omega
  have hValue := readValue_textOf hs v hLegible hDepth hFuel endsNumber_nil
  have hSkip := skipSpace_textOf style v []
  rw [List.append_nil] at hValue hSkip
  have hMark : (textOf style v).head? ≠ some '\ufeff' := by
    obtain ⟨c, cs, hText, hc⟩ := exists_textOf style v
    rw [hText]
    exact fun h => (openers_spec c hc).2.2 (Option.some.inj h)
  have hWhole : readWhole limits (textOf style v) = .ok v.reread := by
    unfold readWhole
    rw [hSkip, hValue]
    rfl
  unfold read
  simp only [String.toList_ofList, if_neg hMark]
  unfold readDecoded
  rw [hWhole]
  rfl

end Values

end Tollgate.Json
