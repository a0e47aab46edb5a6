import Tollgate.Proofs.Keys
import Tollgate.Proofs.Reading

set_option autoImplicit false

/-! # Routes for every path

Routes that are meant to protect every path: one configuration for all routes, a table that is one,
and a table whose last key is the mark `*` (`CatchesAll`). All of them compile to patterns of which
the last is for every method and has the star as its glob. The star takes a run of characters on one
line, so this pattern fits every path without a line feed and no other. A path with a line feed
finds a pattern only if one in front of the last fits it, and none is in front of the only one
(`findPattern_catchesAll`).
-/

namespace Tollgate.Route

open Tollgate.Text Tollgate.Schema

/-! ## The star alone -/

theorem tokens_star : Tokens anyMark.toList [.star] :=
  @Tokens.special [] [] .star [] .star (isLiteral_nil _) (.last (isLiteral_nil _))

/-- A star by itself matches the paths on one line. -/
theorem accepts_star_iff {path : String} :
    (Glob.ofText anyMark.toList).accepts path = true ↔ '\n' ∉ path.toList := by
  rw [tokens_star.accepts_iff]
  constructor
  · rintro ⟨parts, hParts, hPath⟩
    cases hParts with
    | cons hPart hRest =>
        cases hRest
        cases hPart with
        | star hLine =>
            rw [hPath, List.flatten_singleton]
            exact hLine
  · intro hLine
    exact ⟨[path.toList], .cons (.star hLine) .nil, List.flatten_singleton.symm⟩

theorem keyParts_anyMark : KeyParts anyMark.toList anyMark anyMark.toList := by
  have hMark : isBlank '*' = false := by decide
  exact .bare (List.forall_mem_singleton.mpr hMark)

/-- The pattern under the mark fits the paths on one line, whatever the method. -/
theorem IsPatternOf.fits_anyMark_iff {p : Pattern} (h : IsPatternOf anyMark p)
    {path method : String} : p.fits path method = true ↔ '\n' ∉ path.toList := by
  obtain ⟨verb, glob, c, hParts, -, rfl⟩ := h
  obtain ⟨rfl, rfl⟩ := hParts.unique keyParts_anyMark
  rw [Pattern.fits, Bool.and_eq_true, Verb.admits_named_iff, accepts_star_iff]
  exact and_iff_right (Or.inl rfl)

/-! ## Routes that end in the mark -/

/-- Routes that are to protect every path. -/
inductive CatchesAll : Routes → Prop
  | single (c : Config) : CatchesAll (.single c)
  | oneConfig {rows : List Row} {c : Config} (hOne : IsOneConfig rows)
      (hRead : Config.read (configMembers rows) = .valid c) : CatchesAll (.table rows)
  | lastStar {rows : List Row} {row : Row} {patterns : List Pattern}
      (hLast : rows.getLast? = some row) (hKey : row.1 = anyMark)
      (hCompile : (Routes.table rows).compile = .ok patterns) : CatchesAll (.table rows)

variable {routes : Routes} {patterns : List Pattern} {path method : String}

theorem CatchesAll.getLast?_keys (h : CatchesAll routes) :
    routes.keys.getLast? = some anyMark := by
  cases h with
  | single c => rfl
  | oneConfig hOne =>
      rw [Routes.keys_oneConfig hOne]
      rfl
  | @lastStar rows row _ hLast hKey =>
      by_cases hOne : IsOneConfig rows
      · rw [Routes.keys_oneConfig hOne]
        rfl
      · rw [Routes.keys_table hOne, List.getLast?_map, hLast, ← hKey]
        rfl

theorem Routes.compile_oneConfig {rows : List Row} (hOne : IsOneConfig rows) {c : Config}
    (hRead : Config.read (configMembers rows) = .valid c) :
    (Routes.table rows).compile = .ok [⟨.any, Glob.ofText anyMark.toList, c⟩] := by
  have hConfig : readConfig anyMark (configMembers rows) = .ok c :=
    mapError_eq_ok_iff.mpr (Validated.orReject_eq_ok_iff.mpr hRead)
  unfold Routes.compile
  rw [Routes.normalize_oneConfig hOne, hConfig]
  rfl

theorem CatchesAll.exists_compile (h : CatchesAll routes) :
    ∃ patterns, routes.compile = .ok patterns := by
  cases h with
  | single c => exact ⟨[⟨.any, Glob.ofText anyMark.toList, c⟩], rfl⟩
  | oneConfig hOne hRead => exact ⟨_, Routes.compile_oneConfig hOne hRead⟩
  | lastStar _ _ hCompile => exact ⟨_, hCompile⟩

/-- Of two lists that go together element by element, the last elements do. -/
theorem exists_last_of_forall₂ {α β : Type} {R : α → β → Prop} {xs : List α} {ys : List β} {x : α}
    (h : List.Forall₂ R xs ys) (hLast : xs.getLast? = some x) :
    ∃ y, ys = ys.dropLast ++ [y] ∧ R x y := by
  -- read from behind, the last elements are the first
  obtain ⟨front, rfl⟩ := List.getLast?_eq_some_iff.mp hLast
  have hReverse := List.forall₂_reverse_iff.mpr h
  rw [List.reverse_append, List.reverse_singleton, List.singleton_append] at hReverse
  obtain ⟨y, rest, hEnd, -, hSame⟩ := List.forall₂_cons_left_iff.mp hReverse
  have hSplit : ys = rest.reverse ++ [y] := by
    rw [← List.reverse_cons, ← hSame, List.reverse_reverse]
  refine ⟨y, ?_, hEnd⟩
  rw [hSplit, List.dropLast_concat]

/-- No pattern is found where none fits. -/
theorem findPattern_eq_none_iff :
    findPattern patterns path method = none ↔ ∀ p ∈ patterns, p.fits path method = false :=
  List.findIdx?_eq_none_iff

/-- **What gets past a route for every path.** Routes that are meant to protect every path compile.
A path and a method find no pattern exactly when a line feed is in the path and no pattern in front
of the last fits them. One configuration for all routes has only that last pattern. -/
theorem findPattern_catchesAll (h : CatchesAll routes) :
    ∃ patterns, routes.compile = .ok patterns ∧
      (routes.keys = [anyMark] → patterns.dropLast = []) ∧
      ∀ path method, findPattern patterns path method = none ↔
        '\n' ∈ path.toList ∧ ∀ p ∈ patterns.dropLast, p.fits path method = false := by
  obtain ⟨patterns, hCompile⟩ := h.exists_compile
  have hKeys := Routes.patterns_of_compile hCompile
  obtain ⟨last, hSplit, hPattern⟩ := exists_last_of_forall₂ hKeys h.getLast?_keys
  refine ⟨patterns, hCompile, fun hOnly => ?_, fun path method => ?_⟩
  · apply List.eq_nil_of_length_eq_zero
    rw [List.length_dropLast, ← hKeys.length_eq, hOnly]
    rfl
  · have hLast : last.fits path method = false ↔ '\n' ∈ path.toList := by
      rw [Bool.eq_false_iff, Ne, hPattern.fits_anyMark_iff, not_not]
    rw [findPattern_eq_none_iff, hSplit, List.forall_mem_append, List.forall_mem_singleton, hLast,
      List.dropLast_concat, and_comm]

/-! ## A table that ends in the mark -/

namespace Fallback

/-- A table with a price for reports, and one for everything else. -/
def rows : List Row :=
  [("GET /report/*", .value (.text "$0.05")), ("*", .value (.text "$0.01"))]

/-- The patterns of the table. -/
def compiled : List Pattern :=
  ((Routes.table rows).compile.toOption).getD []

theorem compile_eq : (Routes.table rows).compile = .ok compiled :=
  eq_ok_of_isOk (by decide +kernel) _

theorem catchesAll : CatchesAll (.table rows) :=
  .lastStar rfl rfl compile_eq

end Fallback

theorem findPattern_catchesAll_fallback : CatchesAll (.table Fallback.rows) ∧
    ∃ patterns, (Routes.table Fallback.rows).compile = .ok patterns ∧
      findPattern patterns "/weather/today" "GET" ≠ none := by
  obtain ⟨patterns, hCompile, -, hFind⟩ := findPattern_catchesAll Fallback.catchesAll
  refine ⟨Fallback.catchesAll, patterns, hCompile, fun hNone => ?_⟩
  exact absurd ((hFind _ _).mp hNone).1 (by decide)

/-- A cent for everything. -/
def centConfig : Config :=
  ⟨.text "$0.01", .baseSepolia, none⟩

/-- **A path that gets past.** Everything is to be protected by one configuration, and a path with a
line feed finds no pattern. -/
theorem findPattern_lineFeed : CatchesAll (.single centConfig) ∧
    ∃ patterns, (Routes.single centConfig).compile = .ok patterns ∧
      findPattern patterns "/report\n" "GET" = none := by
  refine ⟨.single centConfig, _, rfl, ?_⟩
  decide

end Tollgate.Route
