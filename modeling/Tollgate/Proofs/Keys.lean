import Tollgate.Proofs.Rows

set_option autoImplicit false

/-! # What a key protects

Every pattern comes from a key (`Routes.patterns_of_compile`), and a key is to protect something:
there should be a request that its pattern fits. Every glob matches some path
(`exists_path_of_glob`), so all hangs on the verb. A key that begins with a blank has nothing in
front of its first run of blanks, and its verb is the empty text. Setting up refuses an empty glob
but not an empty verb, and only the empty method is the empty text in upper case. These keys are
the only ones that protect nothing (`compile_protects`).
-/

namespace Tollgate

namespace Text

/-! ## Upper case -/

theorem upperChar_ne_nil (c : Char) : upperChar c ≠ [] := by
  have hSpellings : ∀ p ∈ upperSpellings, p.2 ≠ [] := by decide
  unfold upperChar
  split
  · exact List.cons_ne_nil _ _
  · split
    · rename_i spelling hFound
      rw [Ne, List.map_eq_nil_iff]
      exact hSpellings _ (List.mem_of_find?_eq_some hFound)
    · split <;> exact List.cons_ne_nil _ _

/-- Upper case loses no character. -/
theorem upper_eq_empty_iff {s : String} : upper s = "" ↔ s = "" := by
  rw [← String.toList_eq_nil_iff, ← String.toList_eq_nil_iff, upper, String.toList_ofList,
    List.flatMap_eq_nil_iff]
  constructor
  · intro h
    exact List.eq_nil_iff_forall_not_mem.mpr (fun c hMem => upperChar_ne_nil c (h c hMem))
  · intro h
    rw [h]
    exact fun c hMem => absurd hMem List.not_mem_nil

end Text

namespace Route

open Tollgate.Text Tollgate.Json

/-! ## A path for every glob -/

/-- A part of a path that is as short as a token allows. -/
def Token.sample : Token → List Char
  | .star => []
  | .group _ => ['a']
  | .run cs => if IsBracketed cs then ['a'] else cs

theorem Token.takes_sample (t : Token) : t.Takes t.sample := by
  cases t with
  | star => exact .star List.not_mem_nil
  | group name => exact .group (List.cons_ne_nil _ _) (by simp [sample])
  | run cs =>
      by_cases hBrackets : IsBracketed cs
      · rw [sample, if_pos hBrackets]
        exact .bracketed hBrackets (by decide) (by decide)
      · rw [sample, if_neg hBrackets]
        exact .literal hBrackets (List.forall₂_same.mpr fun _ _ => SameLetter.rfl)

theorem exists_path_of_glob (glob : List Char) :
    ∃ path, (Glob.ofText glob).accepts path = true := by
  obtain ⟨ts, hTokens⟩ := exists_tokens glob
  refine ⟨String.ofList (ts.map Token.sample).flatten, ?_⟩
  rw [hTokens.accepts_iff, String.toList_ofList]
  refine ⟨ts.map Token.sample, ?_, rfl⟩
  rw [List.forall₂_map_right_iff, List.forall₂_same]
  exact fun t _ => t.takes_sample

/-! ## The keys of routes -/

/-- A table has a row `price`, and so is one configuration for all routes. -/
def IsOneConfig (rows : List Row) : Prop :=
  ∃ row ∈ rows, row.1 = "price"

instance (rows : List Row) : Decidable (IsOneConfig rows) :=
  inferInstanceAs (Decidable (∃ row ∈ rows, row.1 = "price"))

theorem not_isOneConfig_iff {rows : List Row} :
    ¬ IsOneConfig rows ↔ ∀ row ∈ rows, row.1 ≠ "price" := by
  simp only [IsOneConfig, not_exists, not_and, Ne]

/-- The members of the configuration that a table with a row `price` is. -/
def configMembers (rows : List Row) : Value :=
  .object (rows.map fun (name, entry) => (name, entry.fieldValue))

/-- The keys of routes. One configuration for all routes stands under the mark of all methods and
paths. -/
def Routes.keys : Routes → List String
  | .single _ => [anyMark]
  | .table rows => if IsOneConfig rows then [anyMark] else rows.map Prod.fst

theorem Routes.keys_oneConfig {rows : List Row} (h : IsOneConfig rows) :
    (Routes.table rows).keys = [anyMark] :=
  if_pos h

theorem Routes.keys_table {rows : List Row} (h : ¬ IsOneConfig rows) :
    (Routes.table rows).keys = rows.map Prod.fst :=
  if_neg h

theorem Routes.normalize_oneConfig {rows : List Row} (h : IsOneConfig rows) :
    (Routes.table rows).normalize =
      (readConfig anyMark (configMembers rows)).map (fun c => [(anyMark, c)]) := by
  obtain ⟨row, hMem, hKey⟩ := h
  have hAny : rows.any (·.1 = "price") = true :=
    List.any_eq_true.mpr ⟨row, hMem, decide_eq_true hKey⟩
  simp only [Routes.normalize]
  rw [if_pos hAny]
  rfl

variable {routes : Routes} {patterns : List Pattern}

theorem Routes.keys_of_normalize {named : List (String × Config)}
    (h : routes.normalize = .ok named) : named.map Prod.fst = routes.keys := by
  cases routes with
  | single c =>
      cases h
      rfl
  | table rows =>
      by_cases hOne : IsOneConfig rows
      · rw [Routes.normalize_oneConfig hOne] at h
        obtain ⟨c, -, rfl⟩ := map_eq_ok_iff.mp h
        exact (Routes.keys_oneConfig hOne).symm
      · rw [Routes.normalize_table (not_isOneConfig_iff.mp hOne)] at h
        have hSame : List.Forall₂ (fun row entry => row.1 = entry.1) rows named := by
          refine (mapM_eq_ok_iff.mp h).imp fun row entry hRow => ?_
          obtain ⟨c, -, rfl⟩ := map_eq_ok_iff.mp hRow
          rfl
        rw [Routes.keys_table hOne, eq_comm, ← List.forall₂_eq_eq_eq, List.forall₂_map_left_iff,
          List.forall₂_map_right_iff]
        exact hSame

/-- The pattern of a key, under some configuration. -/
def IsPatternOf (key : String) (p : Pattern) : Prop :=
  ∃ verb glob c, KeyParts key.toList verb glob ∧ glob ≠ [] ∧ p = ⟨.named verb, Glob.ofText glob, c⟩

theorem isPatternOf_of_compileRow {key : String} {c : Config} {p : Pattern}
    (h : compileRow key c = .ok p) : IsPatternOf key p := by
  obtain ⟨verb, glob, hParts⟩ := exists_keyParts key.toList
  rw [compileRow_of_parts hParts] at h
  split at h
  · cases h
  · rename_i hGlob
    exact ⟨verb, glob, c, hParts, hGlob, (Except.ok.inj h).symm⟩

/-- Routes have one pattern for each key, in the order of the keys. -/
theorem Routes.patterns_of_compile (h : routes.compile = .ok patterns) :
    List.Forall₂ IsPatternOf routes.keys patterns := by
  obtain ⟨named, hNormalize, hPatterns⟩ := bind_eq_ok_iff.mp h
  rw [← Routes.keys_of_normalize hNormalize, List.forall₂_map_left_iff]
  exact (mapM_eq_ok_iff.mp hPatterns).imp fun _ _ hRow => isPatternOf_of_compileRow hRow

/-! ## Keys that protect nothing -/

/-- A key begins with a blank. -/
def BeginsBlank (key : String) : Prop :=
  ∃ c ∈ key.toList.head?, isBlank c = true

/-- What the pattern of a key protects. It fits some request that has a method, unless the key
begins with a blank: then the verb is empty, and the pattern fits no request that has one. -/
structure Protects (key : String) (p : Pattern) : Prop where
  verb : p.verb.text = "" ↔ BeginsBlank key
  reached : ¬ BeginsBlank key → ∃ path method, method ≠ "" ∧ p.fits path method = true
  unreached : BeginsBlank key → ∀ path method, method ≠ "" → p.fits path method = false

theorem Verb.text_named (name : String) : (Verb.named name).text = name := by
  unfold Verb.named
  split
  · rename_i h
    exact h.symm
  · rfl

/-- The verb of a key is empty where nothing stands in front of the blanks. -/
theorem KeyParts.verb_eq_empty_iff {key verb : String} {glob : List Char}
    (h : KeyParts key.toList verb glob) : verb = "" ↔ BeginsBlank key := by
  unfold BeginsBlank
  generalize key.toList = cs at h
  cases h with
  | bare hGlob =>
      -- the verb is the mark, and no blank stands anywhere
      refine iff_of_false (by decide) ?_
      rintro ⟨c, hHead, hc⟩
      rw [hGlob c (List.mem_of_mem_head? hHead)] at hc
      cases hc
  | @spaced verb gap glob hVerb hSome hGap _ =>
      rw [upper_eq_empty_iff]
      cases verb with
      | nil =>
          obtain ⟨c, gap, rfl⟩ := List.exists_cons_of_ne_nil hSome
          exact iff_of_true rfl ⟨c, rfl, hGap c List.mem_cons_self⟩
      | cons d verb =>
          refine iff_of_false (fun hEmpty => ?_) ?_
          · have hNil := congrArg String.toList hEmpty
            rw [String.toList_ofList] at hNil
            cases hNil
          · rintro ⟨c, hHead, hc⟩
            cases hHead
            rw [hVerb d List.mem_cons_self] at hc
            cases hc

/-- The verb of a key admits some method, which is empty only if the verb is. -/
theorem KeyParts.exists_method {key verb : String} {glob : List Char}
    (h : KeyParts key.toList verb glob) (hVerb : verb ≠ "") :
    ∃ method, method ≠ "" ∧ (Verb.named verb).admits (upper method) = true := by
  generalize key.toList = cs at h
  cases h with
  | bare => exact ⟨"GET", by decide, Verb.admits_named_iff.mpr (Or.inl rfl)⟩
  | @spaced name =>
      refine ⟨String.ofList name, ?_, Verb.admits_named_iff.mpr (Or.inr rfl)⟩
      exact fun hEmpty => hVerb (upper_eq_empty_iff.mpr hEmpty)

theorem IsPatternOf.protects {key : String} {p : Pattern} (h : IsPatternOf key p) :
    Protects key p := by
  obtain ⟨verb, glob, c, hParts, -, rfl⟩ := h
  have hVerb : verb = "" ↔ BeginsBlank key := hParts.verb_eq_empty_iff
  refine ⟨by rw [Verb.text_named, hVerb], fun hBegins => ?_, fun hBegins path method hMethod => ?_⟩
  · obtain ⟨method, hMethod, hAdmits⟩ :=
      hParts.exists_method (fun hEmpty => hBegins (hVerb.mp hEmpty))
    obtain ⟨path, hPath⟩ := exists_path_of_glob glob
    refine ⟨path, method, hMethod, ?_⟩
    rw [Pattern.fits, Bool.and_eq_true]
    exact ⟨hAdmits, hPath⟩
  · have hRefused : (Verb.named verb).admits (upper method) = false := by
      rw [Bool.eq_false_iff, Ne, Verb.admits_named_iff, hVerb.mpr hBegins]
      rintro (hMark | hSame)
      · exact absurd hMark (by decide)
      · exact hMethod (upper_eq_empty_iff.mp hSame.symm)
    rw [Pattern.fits, hRefused, Bool.false_and]

/-- **What accepted keys protect.** Routes that compile have one pattern for each key, in their
order. The pattern of a key that begins with a blank has the empty verb, and no request with a
method fits it; every other pattern has a verb, and some request with a method fits it. -/
theorem compile_protects (h : routes.compile = .ok patterns) :
    List.Forall₂ Protects routes.keys patterns :=
  (Routes.patterns_of_compile h).imp fun _ _ hKey => hKey.protects

/-! ## A key that is indented -/

namespace Indented

/-- A table in which the second key is indented. -/
def rows : List Row :=
  [("GET /report", .value (.text "$0.05")), (" /weather", .value (.text "$0.01"))]

/-- The patterns of the table. -/
def compiled : List Pattern :=
  ((Routes.table rows).compile.toOption).getD []

theorem compile_eq : (Routes.table rows).compile = .ok compiled :=
  eq_ok_of_isOk (by decide +kernel) _

theorem keys_eq : (Routes.table rows).keys = ["GET /report", " /weather"] := by decide

theorem not_beginsBlank_report : ¬ BeginsBlank "GET /report" := by
  rintro ⟨c, hHead, hc⟩
  cases hHead
  exact absurd hc (by decide)

theorem beginsBlank_weather : BeginsBlank " /weather" := ⟨' ', rfl, by decide⟩

end Indented

theorem compile_protects_indented : (Routes.table Indented.rows).compile = .ok Indented.compiled ∧
    List.Forall₂ Protects ["GET /report", " /weather"] Indented.compiled ∧
    ∃ p ∈ Indented.compiled, ∃ path method, method ≠ "" ∧ p.fits path method = true := by
  have hProtects := compile_protects Indented.compile_eq
  rw [Indented.keys_eq] at hProtects
  refine ⟨Indented.compile_eq, hProtects, ?_⟩
  cases hProtects with
  | cons hReport _ => exact ⟨_, List.mem_cons_self, hReport.reached Indented.not_beginsBlank_report⟩

/-- **A key that protects nothing.** The table compiles, and the pattern of its second key has an
empty verb: whatever path and method a request has, that pattern does not fit it. -/
theorem compile_indented : (Routes.table Indented.rows).compile = .ok Indented.compiled ∧
    ∃ p ∈ Indented.compiled, p.verb.text = "" ∧
      ∀ path method, method ≠ "" → p.fits path method = false := by
  refine ⟨Indented.compile_eq, ?_⟩
  have hPatterns := Routes.patterns_of_compile Indented.compile_eq
  rw [Indented.keys_eq] at hPatterns
  cases hPatterns with
  | cons _ hRest =>
      cases hRest with
      | cons hWeather _ =>
          have hProtects := hWeather.protects
          exact ⟨_, List.mem_cons_of_mem _ List.mem_cons_self,
            hProtects.verb.mpr Indented.beginsBlank_weather,
            hProtects.unreached Indented.beginsBlank_weather⟩

end Route

end Tollgate
