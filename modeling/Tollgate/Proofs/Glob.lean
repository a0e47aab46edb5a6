import Mathlib.Data.List.Forall2
import Tollgate.Route.Glob

set_option autoImplicit false

/-! # What a glob describes

The language of globs, said without the functions that cut a glob and match a path. `Tokens` is the
relation of a glob to its tokens: a star or a group in brackets is taken wherever one fits first
from the left, and what stands between two of them is a literal run. `Token.Takes` says which part
of a path a token takes, and `Describes` that a path falls into parts for the tokens, one for each.

Both relations are met: a glob has tokens of exactly one kind (`exists_tokens`, `Tokens.unique`),
its pieces are theirs (`Tokens.cut_eq`), and the matcher, which tries the parts one after another,
accepts a path exactly when it falls into parts (`acceptsAll_iff`).
-/

namespace Tollgate.Route

open Tollgate.Text

/-! ## Tokens -/

/-- A token of a glob. -/
inductive Token where
  | star
  | group (name : List Char)
  | run (cs : List Char)
deriving Repr, DecidableEq

namespace Token

/-- How a token is written. -/
def text : Token → List Char
  | .star => ['*']
  | .group name => '[' :: (name ++ [']'])
  | .run cs => cs

/-- A star, or brackets around one or more characters other than a closing bracket. -/
inductive IsSpecial : Token → Prop
  | star : IsSpecial .star
  | group {name : List Char} (hName : name ≠ []) (hClose : ']' ∉ name) : IsSpecial (.group name)

/-- Whether a literal run begins with an opening and ends with a closing bracket. -/
def IsBracketed (cs : List Char) : Prop :=
  cs.head? = some '[' ∧ cs.getLast? = some ']'

/-- The part of a path that a token takes. -/
inductive Takes : Token → List Char → Prop
  | star {part : List Char} (hLine : '\n' ∉ part) : Takes .star part
  | group {name part : List Char} (hSome : part ≠ []) (hSlash : '/' ∉ part) :
      Takes (.group name) part
  | bracketed {cs part : List Char} (hBrackets : IsBracketed cs) (hSome : part ≠ [])
      (hSlash : '/' ∉ part) : Takes (.run cs) part
  | literal {cs part : List Char} (hBrackets : ¬ IsBracketed cs)
      (hSame : List.Forall₂ SameLetter cs part) : Takes (.run cs) part

end Token

/-- A star or a group stands at the front of a text. -/
def SpecialFits (cs : List Char) : Prop :=
  ∃ (t : Token) (rest : List Char), t.IsSpecial ∧ cs = t.text ++ rest

/-- At no place of a run does a star or a group begin, where `rest` follows the run. -/
def IsLiteral (run rest : List Char) : Prop :=
  ∀ front back, run = front ++ back → back ≠ [] → ¬ SpecialFits (back ++ rest)

/-- A literal run as a token; an empty one is none. -/
def runTokens (run : List Char) : List Token :=
  if run = [] then [] else [.run run]

/-- The tokens of a glob, from left to right. -/
inductive Tokens : List Char → List Token → Prop
  | last {run : List Char} (hRun : IsLiteral run []) : Tokens run (runTokens run)
  | special {run rest : List Char} {t : Token} {ts : List Token} (hSpecial : t.IsSpecial)
      (hRun : IsLiteral run (t.text ++ rest)) (hRest : Tokens rest ts) :
      Tokens (run ++ (t.text ++ rest)) (runTokens run ++ t :: ts)

/-- A path falls into parts, one for each token of a glob. -/
def Describes (glob path : List Char) : Prop :=
  ∃ tokens parts, Tokens glob tokens ∧ List.Forall₂ Token.Takes tokens parts ∧
    path = parts.flatten

/-! ## Where stars and groups fit -/

theorem Token.text_group_append (name rest : List Char) :
    (Token.group name).text ++ rest = '[' :: (name ++ ']' :: rest) := by
  simp [Token.text]

theorem Token.IsSpecial.text_ne_nil {t : Token} (h : t.IsSpecial) : t.text ≠ [] := by
  cases h with
  | star => simp [Token.text]
  | group => simp [Token.text]

/-- A name without a closing bracket ends where the bracket first stands. -/
theorem append_close_inj {name name' rest rest' : List Char} (h : ']' ∉ name) (h' : ']' ∉ name')
    (hSame : name ++ ']' :: rest = name' ++ ']' :: rest') : name = name' ∧ rest = rest' := by
  induction name generalizing name' with
  | nil =>
      cases name' with
      | nil => exact ⟨rfl, (List.cons.inj hSame).2⟩
      | cons c name' =>
          have hc : ']' = c := (List.cons.inj hSame).1
          exact absurd (hc ▸ List.mem_cons_self) h'
  | cons c name ih =>
      cases name' with
      | nil =>
          have hc : c = ']' := (List.cons.inj hSame).1
          exact absurd (hc ▸ List.mem_cons_self) h
      | cons c' name' =>
          obtain ⟨hc, hTail⟩ := List.cons.inj hSame
          obtain ⟨hName, hRest⟩ := ih (fun hMem => h (List.mem_cons_of_mem _ hMem))
            (fun hMem => h' (List.mem_cons_of_mem _ hMem)) hTail
          exact ⟨by rw [hc, hName], hRest⟩

/-- At one place there is one star or group. -/
theorem Token.IsSpecial.unique {t t' : Token} {rest rest' : List Char} (h : t.IsSpecial)
    (h' : t'.IsSpecial) (hSame : t.text ++ rest = t'.text ++ rest') : t = t' ∧ rest = rest' := by
  cases h with
  | star =>
      cases h' with
      | star => exact ⟨rfl, (List.cons.inj hSame).2⟩
      | group => exact absurd (List.cons.inj hSame).1 (by decide)
  | group hName hClose =>
      cases h' with
      | star => exact absurd (List.cons.inj hSame).1 (by decide)
      | group hName' hClose' =>
          rw [Token.text_group_append, Token.text_group_append] at hSame
          obtain ⟨rfl, hRest⟩ := append_close_inj hClose hClose' (List.cons.inj hSame).2
          exact ⟨rfl, hRest⟩

/-- What opens a group is a name that is not empty, and a closing bracket behind it. -/
theorem opensGroup_iff {cs : List Char} :
    opensGroup cs = true ↔
      ∃ name rest, name ≠ [] ∧ ']' ∉ name ∧ cs = name ++ ']' :: rest := by
  unfold opensGroup
  rw [Bool.and_eq_true, bne_iff_ne, List.contains_iff_mem]
  constructor
  · rintro ⟨hHead, hMem⟩
    obtain ⟨name, rest, rfl, hName⟩ := List.eq_append_cons_of_mem hMem
    refine ⟨name, rest, ?_, hName, rfl⟩
    rintro rfl
    exact hHead rfl
  · rintro ⟨name, rest, hSome, hName, rfl⟩
    refine ⟨?_, by simp⟩
    cases name with
    | nil => exact absurd rfl hSome
    | cons c name =>
        intro hHead
        have hc : c = ']' := Option.some.inj hHead
        exact hName (hc ▸ List.mem_cons_self)

theorem specialFits_cons_iff {c : Char} {cs : List Char} :
    SpecialFits (c :: cs) ↔ c = '*' ∨ (c = '[' ∧ opensGroup cs = true) := by
  rw [opensGroup_iff]
  constructor
  · rintro ⟨t, rest, hSpecial, hText⟩
    cases hSpecial with
    | star => exact Or.inl (List.cons.inj hText).1
    | @group name hName hClose =>
        rw [Token.text_group_append] at hText
        obtain ⟨hc, hTail⟩ := List.cons.inj hText
        exact Or.inr ⟨hc, name, rest, hName, hClose, hTail⟩
  · rintro (rfl | ⟨rfl, name, rest, hName, hClose, rfl⟩)
    · exact ⟨.star, cs, .star, rfl⟩
    · exact ⟨.group name, rest, .group hName hClose, (Token.text_group_append name rest).symm⟩

theorem isLiteral_nil (rest : List Char) : IsLiteral [] rest := by
  intro front back hSplit hBack
  exact absurd (List.append_eq_nil_iff.mp hSplit.symm).2 hBack

theorem isLiteral_cons_iff {c : Char} {run rest : List Char} :
    IsLiteral (c :: run) rest ↔ ¬ SpecialFits (c :: (run ++ rest)) ∧ IsLiteral run rest := by
  constructor
  · intro h
    refine ⟨h [] (c :: run) rfl (List.cons_ne_nil c run), ?_⟩
    rintro front back rfl hBack
    exact h (c :: front) back rfl hBack
  · rintro ⟨hHead, hTail⟩ front back hSplit hBack
    cases front with
    | nil =>
        rw [List.nil_append] at hSplit
        rw [← hSplit]
        exact hHead
    | cons d front =>
        obtain ⟨-, rfl⟩ := List.cons.inj hSplit
        exact hTail front back rfl hBack

/-! ## A glob has one list of tokens -/

/-- A text is a literal run, or a first star or group stands in it. -/
theorem isLiteral_or_exists_special (cs : List Char) :
    IsLiteral cs [] ∨ ∃ (run rest : List Char) (t : Token), t.IsSpecial ∧
      IsLiteral run (t.text ++ rest) ∧ cs = run ++ (t.text ++ rest) := by
  induction cs with
  | nil => exact Or.inl (isLiteral_nil [])
  | cons c cs ih =>
      by_cases hFits : SpecialFits (c :: cs)
      · obtain ⟨t, rest, hSpecial, hText⟩ := hFits
        exact Or.inr ⟨[], rest, t, hSpecial, isLiteral_nil _, hText⟩
      · rcases ih with hLiteral | ⟨run, rest, t, hSpecial, hLiteral, rfl⟩
        · refine Or.inl (isLiteral_cons_iff.mpr ⟨?_, hLiteral⟩)
          rw [List.append_nil]
          exact hFits
        · exact Or.inr ⟨c :: run, rest, t, hSpecial, isLiteral_cons_iff.mpr ⟨hFits, hLiteral⟩, rfl⟩

theorem exists_tokens (cs : List Char) : ∃ tokens, Tokens cs tokens := by
  -- on the length, since what follows a star or a group is shorter by more than one character
  induction hLength : cs.length using Nat.strongRecOn generalizing cs with
  | ind n ih =>
      rcases isLiteral_or_exists_special cs with hLiteral | ⟨run, rest, t, hSpecial, hRun, rfl⟩
      · exact ⟨_, .last hLiteral⟩
      · have hText : 0 < t.text.length := List.length_pos_iff.mpr hSpecial.text_ne_nil
        have hShorter : rest.length < n := by
          rw [List.length_append, List.length_append] at hLength
          omega
        obtain ⟨tokens, hTokens⟩ := ih rest.length hShorter rest rfl
        exact ⟨_, .special hSpecial hRun hTokens⟩

/-- A literal run is not longer than another one where a star or a group follows the other. -/
theorem IsLiteral.isPrefix {run run' rest rest' : List Char} {t' : Token} (hSpecial : t'.IsSpecial)
    (h : IsLiteral run rest) (hSame : run ++ rest = run' ++ (t'.text ++ rest')) : run <+: run' := by
  rcases List.append_eq_append_iff.mp hSame with ⟨back, hRun, -⟩ | ⟨back, hRun, hRest⟩
  · exact ⟨back, hRun.symm⟩
  · by_cases hBack : back = []
    · have hSameRun : run' = run := by rw [hRun, hBack, List.append_nil]
      exact hSameRun ▸ List.prefix_refl run'
    · refine absurd ?_ (h run' back hRun hBack)
      exact ⟨t', rest', hSpecial, hRest.symm⟩

/-- The first star or group of a text is at one place. -/
theorem IsLiteral.unique {run run' rest rest' : List Char} {t t' : Token} (hSpecial : t.IsSpecial)
    (hSpecial' : t'.IsSpecial) (h : IsLiteral run (t.text ++ rest))
    (h' : IsLiteral run' (t'.text ++ rest'))
    (hSame : run ++ (t.text ++ rest) = run' ++ (t'.text ++ rest')) :
    run = run' ∧ t = t' ∧ rest = rest' := by
  have hRun : run = run' :=
    (h.isPrefix hSpecial' hSame).eq_of_length_le (h'.isPrefix hSpecial hSame.symm).length_le
  subst hRun
  obtain ⟨hToken, hRest⟩ := hSpecial.unique hSpecial' (List.append_cancel_left hSame)
  exact ⟨rfl, hToken, hRest⟩

/-- A literal text holds neither a star nor a group. -/
theorem IsLiteral.no_special {run rest : List Char} {t : Token} (hSpecial : t.IsSpecial) :
    ¬ IsLiteral (run ++ (t.text ++ rest)) [] := by
  intro h
  refine h run (t.text ++ rest) rfl ?_ ⟨t, rest, hSpecial, List.append_nil _⟩
  exact fun hNil => hSpecial.text_ne_nil (List.append_eq_nil_iff.mp hNil).1

theorem Tokens.unique {cs : List Char} {ts ts' : List Token} (h : Tokens cs ts)
    (h' : Tokens cs ts') : ts = ts' := by
  induction h generalizing ts' with
  | @last run hRun =>
      cases h' with
      | last => rfl
      | special hSpecial => exact absurd hRun (IsLiteral.no_special hSpecial)
  | @special run rest t ts hSpecial hRun _ ih =>
      -- the other list is told by its text, which the constructors do not show
      generalize hText : run ++ (t.text ++ rest) = text at h'
      cases h' with
      | last hRun' =>
          rw [← hText] at hRun'
          exact absurd hRun' (IsLiteral.no_special hSpecial)
      | special hSpecial' hRun' hRest' =>
          obtain ⟨rfl, rfl, rfl⟩ := IsLiteral.unique hSpecial hSpecial' hRun hRun' hText
          rw [ih hRest']

/-- The tokens of a glob spell it. -/
theorem Tokens.spelled {cs : List Char} {ts : List Token} (h : Tokens cs ts) :
    ts.flatMap Token.text = cs := by
  have hRun : ∀ run, (runTokens run).flatMap Token.text = run := by
    intro run
    unfold runTokens
    split
    · rename_i hNil
      rw [hNil, List.flatMap_nil]
    · rw [List.flatMap_singleton]
      rfl
  induction h with
  | last => exact hRun _
  | special _ _ _ ih => rw [List.flatMap_append, List.flatMap_cons, hRun, ih]

/-! ## Pieces are those of the tokens -/

instance (cs : List Char) : Decidable (Token.IsBracketed cs) :=
  inferInstanceAs (Decidable (_ ∧ _))

/-- The piece of a token. -/
def Token.piece : Token → Piece
  | .star => .anyRun
  | .group _ => .segment
  | .run cs => if IsBracketed cs then .segment else .literal cs

theorem runPieces_eq (run : List Char) : runPieces run = (runTokens run).map Token.piece := by
  by_cases hRun : run = []
  · rw [hRun]
    rfl
  have hBrackets : (run.head? == some '[' && run.getLast? == some ']') =
      decide (Token.IsBracketed run) := by
    rw [Bool.eq_iff_iff, decide_eq_true_iff, Bool.and_eq_true, beq_iff_eq, beq_iff_eq]
    exact Iff.rfl
  have hEmpty : run.isEmpty = false := List.isEmpty_eq_false_iff.mpr hRun
  unfold runPieces runTokens
  rw [hEmpty, hBrackets, if_neg hRun, if_neg Bool.false_ne_true, List.map_singleton, Token.piece]
  by_cases h : Token.IsBracketed run
  · rw [if_pos h, if_pos (decide_eq_true h)]
  · rw [if_neg h, if_neg (fun hTrue => h (of_decide_eq_true hTrue))]

/-- Within a group everything up to the closing bracket is passed over. -/
theorem cut_inGroup {name : List Char} (hClose : ']' ∉ name) (run rest : List Char) :
    cut true run (name ++ ']' :: rest) = .segment :: cut false [] rest := by
  induction name with
  | nil => simp [cut]
  | cons c name ih =>
      rw [List.mem_cons, not_or] at hClose
      obtain ⟨hc, hName⟩ := hClose
      rw [List.cons_append, cut, if_neg (Ne.symm hc)]
      exact ih hName

/-- Where a star or a group stands, the run before it is closed. -/
theorem cut_special {t : Token} (hSpecial : t.IsSpecial) (run rest : List Char) :
    cut false run (t.text ++ rest) = runPieces run.reverse ++ t.piece :: cut false [] rest := by
  cases hSpecial with
  | star => simp [Token.text, Token.piece, cut]
  | @group name hName hClose =>
      have hOpens : opensGroup (name ++ ']' :: rest) = true :=
        opensGroup_iff.mpr ⟨name, rest, hName, hClose, rfl⟩
      rw [Token.text_group_append, cut, if_neg (by decide), if_pos ⟨rfl, hOpens⟩,
        cut_inGroup hClose]
      rfl

/-- Where neither begins, a character joins the run. -/
theorem cut_literal {c : Char} {cs : List Char} (h : ¬ SpecialFits (c :: cs)) (run : List Char) :
    cut false run (c :: cs) = cut false (c :: run) cs := by
  rw [specialFits_cons_iff, not_or] at h
  rw [cut, if_neg h.1, if_neg h.2]

/-- A literal run is passed over as a whole. -/
theorem cut_run {run rest : List Char} (h : IsLiteral run rest) (before : List Char) :
    cut false before (run ++ rest) = cut false (run.reverse ++ before) rest := by
  induction run generalizing before with
  | nil => rfl
  | cons c run ih =>
      obtain ⟨hHead, hTail⟩ := isLiteral_cons_iff.mp h
      rw [List.cons_append, cut_literal hHead, ih hTail, List.reverse_cons, List.append_assoc,
        List.singleton_append]

theorem Tokens.cut_eq {cs : List Char} {ts : List Token} (h : Tokens cs ts) :
    cut false [] cs = ts.map Token.piece := by
  induction h with
  | @last run hRun =>
      have hCut := cut_run hRun []
      rw [List.append_nil, List.append_nil] at hCut
      rw [hCut, cut, List.reverse_reverse, runPieces_eq]
  | @special run rest t ts hSpecial hRun _ ih =>
      rw [cut_run hRun [], List.append_nil, cut_special hSpecial, List.reverse_reverse,
        runPieces_eq, ih, List.map_append, List.map_cons]

/-! ## Parts of a path -/

namespace Token

theorem takes_star_iff {part : List Char} : Takes .star part ↔ ∀ c ∈ part, (c != '\n') = true := by
  constructor
  · rintro ⟨hLine⟩ c hMem
    exact bne_iff_ne.mpr (fun hc => hLine (hc ▸ hMem))
  · intro h
    exact .star (fun hMem => bne_iff_ne.mp (h _ hMem) rfl)

theorem takes_group_iff {name part : List Char} :
    Takes (.group name) part ↔ part ≠ [] ∧ '/' ∉ part := by
  constructor
  · intro h
    cases h with
    | group hSome hSlash => exact ⟨hSome, hSlash⟩
  · rintro ⟨hSome, hSlash⟩
    exact .group hSome hSlash

theorem takes_bracketed_iff {cs part : List Char} (hBrackets : IsBracketed cs) :
    Takes (.run cs) part ↔ part ≠ [] ∧ '/' ∉ part := by
  constructor
  · intro h
    cases h with
    | bracketed _ hSome hSlash => exact ⟨hSome, hSlash⟩
    | literal hPlain => exact absurd hBrackets hPlain
  · rintro ⟨hSome, hSlash⟩
    exact .bracketed hBrackets hSome hSlash

theorem takes_literal_iff {cs part : List Char} (hBrackets : ¬ IsBracketed cs) :
    Takes (.run cs) part ↔ List.Forall₂ SameLetter cs part := by
  constructor
  · intro h
    cases h with
    | bracketed hOther => exact absurd hOther hBrackets
    | literal _ hSame => exact hSame
  · intro hSame
    exact .literal hBrackets hSame

end Token

/-- A run of characters of a class is found where there is one that leaves what the test wants,
whichever of them is tried first. -/
theorem acceptsRun_iff {p : Char → Bool} {test : List Char → Bool} {cs : List Char} :
    acceptsRun p test cs = true ↔
      ∃ part rest, cs = part ++ rest ∧ (∀ c ∈ part, p c = true) ∧ test rest = true := by
  induction cs with
  | nil =>
      rw [acceptsRun]
      constructor
      · intro h
        exact ⟨[], [], rfl, fun c hMem => absurd hMem List.not_mem_nil, h⟩
      · rintro ⟨part, rest, hSplit, -, h⟩
        rw [(List.append_eq_nil_iff.mp hSplit.symm).2] at h
        exact h
  | cons c cs ih =>
      rw [acceptsRun, Bool.or_eq_true, Bool.and_eq_true, ih]
      constructor
      · rintro (h | ⟨hc, part, rest, rfl, hPart, h⟩)
        · exact ⟨[], c :: cs, rfl, fun d hMem => absurd hMem List.not_mem_nil, h⟩
        · exact ⟨c :: part, rest, rfl, List.forall_mem_cons.mpr ⟨hc, hPart⟩, h⟩
      · rintro ⟨part, rest, hSplit, hPart, h⟩
        cases part with
        | nil =>
            rw [List.nil_append] at hSplit
            rw [hSplit]
            exact Or.inl h
        | cons d part =>
            obtain ⟨rfl, rfl⟩ := List.cons.inj hSplit
            obtain ⟨hc, hPart⟩ := List.forall_mem_cons.mp hPart
            exact Or.inr ⟨hc, part, rest, rfl, hPart, h⟩

/-- A run of given characters is followed by what is left behind a part that is the same up to
letter case. -/
theorem afterLiteral?_eq_some_iff {run cs rest : List Char} :
    afterLiteral? run cs = some rest ↔
      ∃ part, cs = part ++ rest ∧ List.Forall₂ SameLetter run part := by
  induction run generalizing cs with
  | nil =>
      rw [afterLiteral?, Option.some.injEq]
      constructor
      · rintro rfl
        exact ⟨[], rfl, .nil⟩
      · rintro ⟨part, rfl, hSame⟩
        rw [List.forall₂_nil_left_iff.mp hSame, List.nil_append]
  | cons l run ih =>
      cases cs with
      | nil =>
          rw [afterLiteral?]
          constructor
          · intro h
            cases h
          rintro ⟨part, hSplit, hSame⟩
          rw [(List.append_eq_nil_iff.mp hSplit.symm).1] at hSame
          cases hSame
      | cons c cs =>
          rw [afterLiteral?]
          constructor
          · intro h
            split at h
            · rename_i hc
              obtain ⟨part, rfl, hSame⟩ := ih.mp h
              exact ⟨c :: part, rfl, .cons hc hSame⟩
            · cases h
          · rintro ⟨part, hSplit, hSame⟩
            cases hSame with
            | cons hc hSame =>
                obtain ⟨rfl, rfl⟩ := List.cons.inj hSplit
                rw [if_pos hc]
                exact ih.mpr ⟨_, rfl, hSame⟩

/-- One or more characters other than a slash. -/
theorem accepts_segment_iff {test : List Char → Bool} {cs : List Char} :
    Piece.segment.accepts test cs = true ↔
      ∃ part rest, cs = part ++ rest ∧ (part ≠ [] ∧ '/' ∉ part) ∧ test rest = true := by
  cases cs with
  | nil =>
      rw [Piece.accepts]
      constructor
      · intro h
        cases h
      rintro ⟨part, rest, hSplit, ⟨hSome, -⟩, -⟩
      exact absurd (List.append_eq_nil_iff.mp hSplit.symm).1 hSome
  | cons c cs =>
      rw [Piece.accepts, Bool.and_eq_true, bne_iff_ne, acceptsRun_iff]
      constructor
      · rintro ⟨hc, part, rest, rfl, hPart, h⟩
        refine ⟨c :: part, rest, rfl, ⟨List.cons_ne_nil c part, ?_⟩, h⟩
        rw [List.mem_cons, not_or]
        refine ⟨Ne.symm hc, fun hMem => ?_⟩
        exact bne_iff_ne.mp (hPart _ hMem) rfl
      · rintro ⟨part, rest, hSplit, ⟨hSome, hSlash⟩, h⟩
        cases part with
        | nil => exact absurd rfl hSome
        | cons d part =>
            obtain ⟨rfl, rfl⟩ := List.cons.inj hSplit
            rw [List.mem_cons, not_or] at hSlash
            obtain ⟨hc, hPart⟩ := hSlash
            refine ⟨Ne.symm hc, part, rest, rfl, fun d hMem => bne_iff_ne.mpr ?_, h⟩
            rintro rfl
            exact hPart hMem

/-- What the piece of a token accepts is a part that the token takes, and something that the test
accepts. -/
theorem accepts_piece_iff {t : Token} {test : List Char → Bool} {cs : List Char} :
    t.piece.accepts test cs = true ↔
      ∃ part rest, cs = part ++ rest ∧ t.Takes part ∧ test rest = true := by
  cases t with
  | star =>
      simp only [Token.takes_star_iff]
      exact acceptsRun_iff
  | group name =>
      simp only [Token.takes_group_iff]
      exact accepts_segment_iff
  | run run =>
      by_cases hBrackets : Token.IsBracketed run
      · simp only [Token.takes_bracketed_iff hBrackets, Token.piece, if_pos hBrackets]
        exact accepts_segment_iff
      · simp only [Token.takes_literal_iff hBrackets, Token.piece, if_neg hBrackets, Piece.accepts]
        constructor
        · intro h
          split at h
          · rename_i rest hAfter
            obtain ⟨part, hSplit, hSame⟩ := afterLiteral?_eq_some_iff.mp hAfter
            exact ⟨part, rest, hSplit, hSame, h⟩
          · cases h
        · rintro ⟨part, rest, hSplit, hSame, h⟩
          rw [afterLiteral?_eq_some_iff.mpr ⟨part, hSplit, hSame⟩]
          exact h

/-- A text is accepted for the pieces of tokens exactly when it falls into parts for the tokens. -/
theorem acceptsAll_iff {ts : List Token} {cs : List Char} :
    acceptsAll (ts.map Token.piece) cs = true ↔
      ∃ parts, List.Forall₂ Token.Takes ts parts ∧ cs = parts.flatten := by
  induction ts generalizing cs with
  | nil =>
      rw [List.map_nil, acceptsAll, List.isEmpty_iff]
      constructor
      · rintro rfl
        exact ⟨[], .nil, rfl⟩
      · rintro ⟨parts, hParts, rfl⟩
        rw [List.forall₂_nil_left_iff.mp hParts, List.flatten_nil]
  | cons t ts ih =>
      rw [List.map_cons, acceptsAll, accepts_piece_iff]
      constructor
      · rintro ⟨part, rest, rfl, hPart, hRest⟩
        obtain ⟨parts, hParts, rfl⟩ := ih.mp hRest
        exact ⟨part :: parts, .cons hPart hParts, rfl⟩
      · rintro ⟨parts, hParts, rfl⟩
        cases hParts with
        | cons hPart hParts => exact ⟨_, _, rfl, hPart, ih.mpr ⟨_, hParts, rfl⟩⟩

/-! ## Globs and paths -/

theorem Tokens.accepts_iff {cs : List Char} {ts : List Token} (h : Tokens cs ts) {path : String} :
    (Glob.ofText cs).accepts path = true ↔
      ∃ parts, List.Forall₂ Token.Takes ts parts ∧ path.toList = parts.flatten := by
  unfold Glob.accepts Glob.ofText
  rw [h.cut_eq]
  exact acceptsAll_iff

theorem accepts_iff_describes {cs : List Char} {path : String} :
    (Glob.ofText cs).accepts path = true ↔ Describes cs path.toList := by
  constructor
  · intro h
    obtain ⟨ts, hTokens⟩ := exists_tokens cs
    obtain ⟨parts, hParts, hPath⟩ := hTokens.accepts_iff.mp h
    exact ⟨ts, parts, hTokens, hParts, hPath⟩
  · rintro ⟨ts, parts, hTokens, hParts, hPath⟩
    exact hTokens.accepts_iff.mpr ⟨parts, hParts, hPath⟩

/-- **What a glob matches.** A glob has one list of tokens, which spell it, and it matches the
paths that fall into consecutive parts, one for each token in order, and no others. -/
theorem glob_accepts_iff (glob : String) :
    ∃ tokens, (∀ ts, Tokens glob.toList ts ↔ ts = tokens) ∧
      tokens.flatMap Token.text = glob.toList ∧
      ∀ path, (Glob.ofText glob.toList).accepts path = true ↔
        ∃ parts, List.Forall₂ Token.Takes tokens parts ∧ path.toList = parts.flatten := by
  obtain ⟨tokens, hTokens⟩ := exists_tokens glob.toList
  refine ⟨tokens, ?_, hTokens.spelled, fun path => hTokens.accepts_iff⟩
  intro ts
  constructor
  · intro h
    exact h.unique hTokens
  · rintro rfl
    exact hTokens

/-- A star in brackets belongs to the group, and brackets without a name stand for themselves. -/
example : (Glob.ofText "/[*]/[]/*".toList).pieces =
    [.literal ['/'], .segment, .literal ['/', '[', ']', '/'], .anyRun] := by decide

end Tollgate.Route
