import Tollgate.Proofs.Glob

set_option autoImplicit false

/-! # Which runs are literal

A glob is to mean: a star for characters on one line, a group for one segment, and every other run
for itself up to letter case (`Token.Means`). What matches is not quite that. A run is told from a
group by its first and its last character, and that is not how groups are found: brackets without a
name open no group, so a run may begin with `[]` and end with `]`. Such a run is hollow
(`IsHollow`) and is taken for a group. No other run is, since a run that begins with an opening
bracket and has a closing one further on would begin with a group (`IsLiteral.isBracketed_iff`).
With this one exception a glob matches what it means (`glob_literal`).
-/

namespace Tollgate.Route

open Tollgate.Text

/-! ## Hollow runs -/

/-- A run begins with brackets that hold nothing, and ends with a closing bracket. -/
def IsHollow (run : List Char) : Prop :=
  ['[', ']'] <+: run ∧ run.getLast? = some ']'

instance (run : List Char) : Decidable (IsHollow run) :=
  inferInstanceAs (Decidable (_ ∧ _))

/-- A literal run begins and ends with a bracket exactly if it is hollow. -/
theorem IsLiteral.isBracketed_iff {run rest : List Char} (h : IsLiteral run rest) :
    Token.IsBracketed run ↔ IsHollow run := by
  constructor
  · rintro ⟨hHead, hLast⟩
    obtain ⟨tail, rfl⟩ := List.head?_eq_some_iff.mp hHead
    obtain ⟨hFits, -⟩ := isLiteral_cons_iff.mp h
    rw [specialFits_cons_iff, not_or] at hFits
    have hOpens : ¬ opensGroup (tail ++ rest) = true := fun hOpens => hFits.2 ⟨rfl, hOpens⟩
    cases tail with
    | nil => exact absurd hLast (by decide)
    | cons c tail =>
        -- the last character closes a group, unless the closing bracket comes at once
        have hClose : ']' ∈ c :: tail := by
          rw [List.getLast?_cons_cons] at hLast
          exact List.mem_of_getLast? hLast
        by_cases hc : c = ']'
        · rw [hc] at hLast ⊢
          exact ⟨List.prefix_append ['[', ']'] tail, hLast⟩
        · refine absurd ?_ hOpens
          rw [opensGroup, Bool.and_eq_true, bne_iff_ne, List.contains_iff_mem]
          exact ⟨fun hSame => hc (Option.some.inj hSame), List.mem_append_left _ hClose⟩
  · rintro ⟨⟨tail, rfl⟩, hLast⟩
    exact ⟨rfl, hLast⟩

/-- Whether a run is literal is seen at each of its places. -/
instance decidableIsLiteral (run rest : List Char) : Decidable (IsLiteral run rest) :=
  match run with
  | [] => .isTrue (isLiteral_nil rest)
  | c :: run =>
    have := decidableIsLiteral run rest
    decidable_of_iff
      (¬ (c = '*' ∨ (c = '[' ∧ opensGroup (run ++ rest) = true)) ∧ IsLiteral run rest)
      (by rw [isLiteral_cons_iff, specialFits_cons_iff])

theorem mem_runTokens_iff {run : List Char} {t : Token} :
    t ∈ runTokens run ↔ run ≠ [] ∧ t = .run run := by
  unfold runTokens
  split
  · rename_i hNil
    exact ⟨fun hMem => absurd hMem List.not_mem_nil, fun hRun => absurd hNil hRun.1⟩
  · rename_i hSome
    rw [List.mem_singleton]
    exact (and_iff_right hSome).symm

/-- The runs among the tokens of a glob are literal where they stand. -/
theorem Tokens.isLiteral_of_mem {cs run : List Char} {ts : List Token} (h : Tokens cs ts)
    (hMem : .run run ∈ ts) : ∃ rest, IsLiteral run rest := by
  induction h with
  | last hRun =>
      obtain ⟨-, hSame⟩ := mem_runTokens_iff.mp hMem
      cases hSame
      exact ⟨[], hRun⟩
  | @special _ rest t _ hSpecial hRun _ ih =>
      rcases List.mem_append.mp hMem with hMem | hMem
      · obtain ⟨-, hSame⟩ := mem_runTokens_iff.mp hMem
        cases hSame
        exact ⟨t.text ++ rest, hRun⟩
      · rcases List.mem_cons.mp hMem with rfl | hMem
        · cases hSpecial
        · exact ih hMem

/-! ## What tokens mean -/

namespace Token

/-- What a token is to stand for. -/
inductive Means : Token → List Char → Prop
  | star {part : List Char} (hLine : '\n' ∉ part) : Means .star part
  | group {name part : List Char} (hSome : part ≠ []) (hSlash : '/' ∉ part) :
      Means (.group name) part
  | run {cs part : List Char} (hSame : List.Forall₂ SameLetter cs part) : Means (.run cs) part

/-- What a token stands for: what it means, but for a hollow run, which stands for a segment. -/
inductive Stands : Token → List Char → Prop
  | meant {t : Token} {part : List Char} (hPlain : ∀ cs, t = .run cs → ¬ IsHollow cs)
      (hMeans : t.Means part) : Stands t part
  | hollow {cs part : List Char} (hHollow : IsHollow cs) (hSome : part ≠ []) (hSlash : '/' ∉ part) :
      Stands (.run cs) part

theorem stands_hollow_iff {cs part : List Char} (h : IsHollow cs) :
    Stands (.run cs) part ↔ part ≠ [] ∧ '/' ∉ part := by
  constructor
  · intro hStands
    cases hStands with
    | meant hPlain => exact absurd h (hPlain cs rfl)
    | hollow _ hSome hSlash => exact ⟨hSome, hSlash⟩
  · rintro ⟨hSome, hSlash⟩
    exact .hollow h hSome hSlash

theorem stands_literal_iff {cs part : List Char} (h : ¬ IsHollow cs) :
    Stands (.run cs) part ↔ List.Forall₂ SameLetter cs part := by
  constructor
  · intro hStands
    cases hStands with
    | meant _ hMeans =>
        cases hMeans with
        | run hSame => exact hSame
    | hollow hHollow => exact absurd hHollow h
  · intro hSame
    refine .meant (fun cs' hRun => ?_) (.run hSame)
    cases hRun
    exact h

end Token

/-- A token of a glob takes what it stands for. -/
theorem Tokens.takes_iff_stands {cs part : List Char} {ts : List Token} {t : Token}
    (h : Tokens cs ts) (hMem : t ∈ ts) : t.Takes part ↔ t.Stands part := by
  cases t with
  | star =>
      constructor
      · rintro ⟨hLine⟩
        exact .meant (fun cs hRun => by cases hRun) (.star hLine)
      · rintro ⟨-, ⟨hLine⟩⟩
        exact .star hLine
  | group name =>
      constructor
      · intro hTakes
        obtain ⟨hSome, hSlash⟩ := Token.takes_group_iff.mp hTakes
        exact .meant (fun cs hRun => by cases hRun) (.group hSome hSlash)
      · rintro ⟨-, hMeans⟩
        cases hMeans with
        | group hSome hSlash => exact .group hSome hSlash
  | run run =>
      obtain ⟨rest, hLiteral⟩ := h.isLiteral_of_mem hMem
      have hBrackets := hLiteral.isBracketed_iff
      by_cases hHollow : IsHollow run
      · rw [Token.takes_bracketed_iff (hBrackets.mpr hHollow), Token.stands_hollow_iff hHollow]
      · rw [Token.takes_literal_iff (fun hBoth => hHollow (hBrackets.mp hBoth)),
          Token.stands_literal_iff hHollow]

/-! ## Globs -/

/-- Two relations that agree on the elements of a list relate it to the same lists. -/
theorem forall₂_congr_of_mem {α β : Type} {R S : α → β → Prop} {xs : List α} {ys : List β}
    (h : ∀ x ∈ xs, ∀ y, R x y ↔ S x y) : List.Forall₂ R xs ys ↔ List.Forall₂ S xs ys := by
  induction xs generalizing ys with
  | nil => rw [List.forall₂_nil_left_iff, List.forall₂_nil_left_iff]
  | cons x xs ih =>
      obtain ⟨hHead, hTail⟩ := List.forall_mem_cons.mp h
      simp only [List.forall₂_cons_left_iff, hHead, ih hTail]

theorem Tokens.accepts_iff_stands {cs : List Char} {ts : List Token} (h : Tokens cs ts)
    {path : String} : (Glob.ofText cs).accepts path = true ↔
      ∃ parts, List.Forall₂ Token.Stands ts parts ∧ path.toList = parts.flatten := by
  rw [h.accepts_iff]
  simp only [forall₂_congr_of_mem fun t hMem part => h.takes_iff_stands hMem]

/-- A run by itself falls into one part. -/
theorem exists_parts_runTokens_iff {run cs : List Char} (hRun : run ≠ []) :
    (∃ parts, List.Forall₂ Token.Stands (runTokens run) parts ∧ cs = parts.flatten) ↔
      Token.Stands (.run run) cs := by
  rw [runTokens, if_neg hRun]
  constructor
  · rintro ⟨parts, hParts, rfl⟩
    cases hParts with
    | cons hPart hRest =>
        cases hRest
        rw [List.flatten_singleton]
        exact hPart
  · intro h
    exact ⟨[cs], .cons h .nil, List.flatten_singleton.symm⟩

/-- A glob without stars and groups is a run by itself. -/
theorem accepts_literal_iff {cs : List Char} (h : IsLiteral cs []) {path : String} :
    (Glob.ofText cs).accepts path = true ↔
      if IsHollow cs then path.toList ≠ [] ∧ '/' ∉ path.toList
      else List.Forall₂ SameLetter cs path.toList := by
  rw [(Tokens.last h).accepts_iff_stands]
  by_cases hRun : cs = []
  · rw [hRun, if_neg (by decide), List.forall₂_nil_left_iff]
    constructor
    · rintro ⟨parts, hParts, hPath⟩
      cases hParts
      exact hPath
    · intro hPath
      exact ⟨[], .nil, hPath⟩
  · rw [exists_parts_runTokens_iff hRun]
    by_cases hHollow : IsHollow cs
    · rw [if_pos hHollow, Token.stands_hollow_iff hHollow]
    · rw [if_neg hHollow, Token.stands_literal_iff hHollow]

/-- **What is literal.** A glob has one list of tokens, and it matches the paths that fall into
parts that the tokens stand for: every literal run stands for the texts that are equal to it up to
letter case and for nothing else, unless it is hollow. So a glob without stars and groups matches
itself up to letter case, or, if it is hollow, every segment. -/
theorem glob_literal (glob : String) :
    (∃ tokens, (∀ ts, Tokens glob.toList ts ↔ ts = tokens) ∧
      ∀ path, (Glob.ofText glob.toList).accepts path = true ↔
        ∃ parts, List.Forall₂ Token.Stands tokens parts ∧ path.toList = parts.flatten) ∧
    (IsLiteral glob.toList [] → ∀ path, (Glob.ofText glob.toList).accepts path = true ↔
      if IsHollow glob.toList then path.toList ≠ [] ∧ '/' ∉ path.toList
      else List.Forall₂ SameLetter glob.toList path.toList) := by
  obtain ⟨tokens, hTokens⟩ := exists_tokens glob.toList
  refine ⟨⟨tokens, fun ts => ⟨fun h => h.unique hTokens, ?_⟩, ?_⟩, ?_⟩
  · rintro rfl
    exact hTokens
  · exact fun path => hTokens.accepts_iff_stands
  · exact fun hLiteral path => accepts_literal_iff hLiteral

theorem glob_literal_file : IsLiteral "/price(1).json".toList [] ∧
    (Glob.ofText "/price(1).json".toList).accepts "/Price(1).JSON" = true ∧
    (Glob.ofText "/price(1).json".toList).accepts "/price1xjson" = false := by
  have hLiteral : IsLiteral "/price(1).json".toList [] := by decide
  have hPlain : ¬ IsHollow "/price(1).json".toList := by decide
  have hGlob := (glob_literal "/price(1).json").2 hLiteral
  simp only [if_neg hPlain] at hGlob
  refine ⟨hLiteral, (hGlob _).mpr (by decide), ?_⟩
  rw [Bool.eq_false_iff, Ne, hGlob]
  decide

/-- **A glob that is not literal.** Empty brackets are neither a star nor a group, and they match
other texts than themselves; with a slash behind them they do not even match themselves. -/
theorem glob_emptyBrackets :
    IsLiteral "[]".toList [] ∧ (Glob.ofText "[]".toList).accepts "x" = true ∧
      ¬ List.Forall₂ SameLetter "[]".toList "x".toList ∧
    IsLiteral "[]/]".toList [] ∧ (Glob.ofText "[]/]".toList).accepts "[]/]" = false := by
  decide

end Tollgate.Route
