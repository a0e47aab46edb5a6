import Mathlib.Data.List.TakeWhile
import Tollgate.Proofs.Glob
import Tollgate.Proofs.Setup

set_option autoImplicit false

/-! # Rows and their gates

What a row of a table says, and the gate that is built from it. `KeyParts` divides a key into verb
and glob at its first run of blanks, and `BuiltFrom` ties a row to its gate and its pattern. Setting
up goes through the rows three times (`Gates.build_table`): for the configurations, for the
patterns, and for the gates. What comes of it is one gate for each row, in the order of the table
(`Gates.build_table_eq_ok_iff`).
-/

namespace Tollgate

namespace Route

open Tollgate.Text

/-! ## Keys -/

/-- The verb and the glob text of a key: what stands before the first run of blanks, in upper case,
and what stands behind it. A key without blanks is a glob for every method. -/
inductive KeyParts : List Char → String → List Char → Prop
  | bare {glob : List Char} (hGlob : ∀ c ∈ glob, isBlank c = false) : KeyParts glob anyMark glob
  | spaced {verb gap glob : List Char} (hVerb : ∀ c ∈ verb, isBlank c = false) (hSome : gap ≠ [])
      (hGap : ∀ c ∈ gap, isBlank c = true) (hGlob : ∀ c ∈ glob.head?, isBlank c = false) :
      KeyParts (verb ++ (gap ++ glob)) (upper (String.ofList verb)) glob

/-- The verb of a name in upper case. -/
def Verb.named (name : String) : Verb :=
  if name = anyMark then .any else .only name

theorem Verb.ofText_eq (text : String) : Verb.ofText text = .named (upper text) := rfl

/-- A verb admits every method, or the one that it names. -/
theorem Verb.admits_named_iff {name method : String} :
    (Verb.named name).admits method = true ↔ name = anyMark ∨ name = method := by
  unfold Verb.named
  by_cases h : name = anyMark
  · rw [if_pos h]
    exact ⟨fun _ => Or.inl h, fun _ => rfl⟩
  · rw [if_neg h]
    simp [Verb.admits, h]

theorem Verb.method?_named (name : String) :
    (Verb.named name).method? = if name = anyMark then none else some name := by
  unfold Verb.named
  split <;> rfl

theorem Verb.named_injective {name name' : String} (h : Verb.named name = .named name') :
    name = name' := by
  unfold Verb.named at h
  by_cases hName : name = anyMark
  · by_cases hName' : name' = anyMark
    · rw [hName, hName']
    · rw [if_pos hName, if_neg hName'] at h
      cases h
  · by_cases hName' : name' = anyMark
    · rw [if_neg hName, if_pos hName'] at h
      cases h
    · rw [if_neg hName, if_neg hName'] at h
      exact Verb.only.inj h

theorem splitKey_of_parts {key verb : String} {glob : List Char}
    (h : KeyParts key.toList verb glob) : splitKey key = (.named verb, glob) := by
  unfold splitKey
  generalize key.toList = cs at h
  cases h with
  | @bare glob hGlob =>
      have hNone : glob.dropWhile (!isBlank ·) = [] :=
        List.dropWhile_eq_nil_iff.mpr (fun c hMem => by rw [hGlob c hMem]; rfl)
      simp only [hNone]
      rfl
  | @spaced verb gap glob hVerb hSome hGap hGlob =>
      have hWord : ∀ c ∈ verb, (!isBlank c) = true := fun c hMem => by rw [hVerb c hMem]; rfl
      cases gap with
      | nil => exact absurd rfl hSome
      | cons c gap =>
          obtain ⟨hc, hGap⟩ := List.forall_mem_cons.mp hGap
          have hStop : (!isBlank c) = false := by rw [hc]; rfl
          have hDrop :
              (verb ++ (c :: gap ++ glob)).dropWhile (!isBlank ·) = c :: (gap ++ glob) := by
            rw [List.dropWhile_append_of_pos hWord, List.cons_append,
              List.dropWhile_cons_of_neg (by rw [hStop]; exact Bool.false_ne_true)]
          have hTake : (verb ++ (c :: gap ++ glob)).takeWhile (!isBlank ·) = verb := by
            rw [List.takeWhile_append_of_pos hWord, List.cons_append,
              List.takeWhile_cons_of_neg (by rw [hStop]; exact Bool.false_ne_true),
              List.append_nil]
          have hRest : (c :: (gap ++ glob)).dropWhile isBlank = glob := by
            rw [List.dropWhile_cons_of_pos hc, List.dropWhile_append_of_pos hGap]
            cases glob with
            | nil => rfl
            | cons d glob =>
                exact List.dropWhile_cons_of_neg (by rw [hGlob d rfl]; exact Bool.false_ne_true)
          simp only [hDrop, hTake, hRest, Verb.ofText_eq]

/-- A key has one verb and one glob. -/
theorem KeyParts.unique {key verb verb' : String} {glob glob' : List Char}
    (h : KeyParts key.toList verb glob) (h' : KeyParts key.toList verb' glob') :
    verb = verb' ∧ glob = glob' := by
  have hSame := (splitKey_of_parts h).symm.trans (splitKey_of_parts h')
  obtain ⟨hVerb, hGlob⟩ := Prod.mk.inj hSame
  exact ⟨Verb.named_injective hVerb, hGlob⟩

theorem exists_keyParts (key : List Char) : ∃ verb glob, KeyParts key verb glob := by
  by_cases h : ∀ c ∈ key, isBlank c = false
  · exact ⟨anyMark, key, .bare h⟩
  -- the key falls into the characters before the first blank, that run of blanks, and the rest
  have hVerb : ∀ c ∈ key.takeWhile (!isBlank ·), isBlank c = false := by
    intro c hMem
    simpa using List.mem_takeWhile_imp hMem
  cases hDrop : key.dropWhile (!isBlank ·) with
  | nil =>
      rw [List.dropWhile_eq_nil_iff] at hDrop
      exact absurd (fun c hMem => by simpa using hDrop c hMem) h
  | cons c rest =>
      have hc : isBlank c = true := by
        have hNot := List.head?_dropWhile_not (!isBlank ·) key
        rw [hDrop] at hNot
        simpa using hNot
      have hGap : ∀ d ∈ c :: rest.takeWhile isBlank, isBlank d = true :=
        List.forall_mem_cons.mpr ⟨hc, fun d hMem => List.mem_takeWhile_imp hMem⟩
      have hGlob : ∀ d ∈ (rest.dropWhile isBlank).head?, isBlank d = false := by
        intro d hHead
        have hNot := List.head?_dropWhile_not isBlank rest
        rw [Option.mem_def.mp hHead] at hNot
        simpa using hNot
      have hParts := KeyParts.spaced hVerb (List.cons_ne_nil c _) hGap hGlob
      rw [List.cons_append, List.takeWhile_append_dropWhile, ← hDrop,
        List.takeWhile_append_dropWhile] at hParts
      exact ⟨_, _, hParts⟩

theorem compileRow_of_parts {key verb : String} {glob : List Char} {c : Config}
    (h : KeyParts key.toList verb glob) :
    compileRow key c =
      if glob = [] then .error (.invalidPattern key)
      else .ok ⟨.named verb, Glob.ofText glob, c⟩ := by
  unfold compileRow
  rw [splitKey_of_parts h]
  simp only [List.isEmpty_iff]

/-! ## The passes over the rows -/

/-- A row has a configuration. -/
def HasConfig (row : Row) : Prop :=
  ∃ c, row.2.toConfig row.1 = .ok c

/-- The key of a row has a glob that is not empty. -/
def HasGlob (row : Row) : Prop :=
  ∃ verb glob, KeyParts row.1.toList verb glob ∧ glob ≠ []

/-- The configuration of a row, under its key. -/
def rowConfig (row : Row) : Except SetupError (String × Config) :=
  (row.2.toConfig row.1).map (fun c => (row.1, c))

/-- The pattern of a row. -/
def rowPattern (row : Row) : Except SetupError Pattern :=
  rowConfig row >>= fun (key, c) => compileRow key c

theorem exists_rowConfig_iff {row : Row} :
    (∃ named, rowConfig row = .ok named) ↔ HasConfig row := by
  constructor
  · rintro ⟨named, h⟩
    obtain ⟨c, hc, -⟩ := map_eq_ok_iff.mp h
    exact ⟨c, hc⟩
  · rintro ⟨c, hc⟩
    exact ⟨(row.1, c), map_eq_ok_iff.mpr ⟨c, hc, rfl⟩⟩

/-- A row with a configuration has a pattern unless the glob of its key is empty. -/
theorem rowPattern_of_parts {row : Row} {c : Config} {verb : String} {glob : List Char}
    (hConfig : row.2.toConfig row.1 = .ok c) (hParts : KeyParts row.1.toList verb glob) :
    rowPattern row =
      if glob = [] then .error (.invalidPattern row.1)
      else .ok ⟨.named verb, Glob.ofText glob, c⟩ := by
  have hNamed : rowConfig row = .ok (row.1, c) := map_eq_ok_iff.mpr ⟨c, hConfig, rfl⟩
  rw [← compileRow_of_parts hParts]
  unfold rowPattern
  rw [hNamed]
  rfl

theorem rowPattern_eq_ok_iff {row : Row} {p : Pattern} :
    rowPattern row = .ok p ↔ ∃ c verb glob, row.2.toConfig row.1 = .ok c ∧
      KeyParts row.1.toList verb glob ∧ glob ≠ [] ∧ p = ⟨.named verb, Glob.ofText glob, c⟩ := by
  constructor
  · intro h
    obtain ⟨named, hNamed, -⟩ := bind_eq_ok_iff.mp h
    obtain ⟨c, hConfig⟩ := exists_rowConfig_iff.mp ⟨named, hNamed⟩
    obtain ⟨verb, glob, hParts⟩ := exists_keyParts row.1.toList
    rw [rowPattern_of_parts hConfig hParts] at h
    split at h
    · cases h
    · rename_i hGlob
      exact ⟨c, verb, glob, hConfig, hParts, hGlob, (Except.ok.inj h).symm⟩
  · rintro ⟨c, verb, glob, hConfig, hParts, hGlob, rfl⟩
    rw [rowPattern_of_parts hConfig hParts, if_neg hGlob]

theorem exists_rowPattern_iff {row : Row} :
    (∃ p, rowPattern row = .ok p) ↔ HasConfig row ∧ HasGlob row := by
  constructor
  · rintro ⟨p, h⟩
    obtain ⟨c, verb, glob, hConfig, hParts, hGlob, -⟩ := rowPattern_eq_ok_iff.mp h
    exact ⟨⟨c, hConfig⟩, verb, glob, hParts, hGlob⟩
  · rintro ⟨⟨c, hConfig⟩, verb, glob, hParts, hGlob⟩
    exact ⟨_, rowPattern_eq_ok_iff.mpr ⟨c, verb, glob, hConfig, hParts, hGlob, rfl⟩⟩

variable {rows : List Row}

/-- A table without a row `price` has a configuration for each row. -/
theorem Routes.normalize_table (hTable : ∀ row ∈ rows, row.1 ≠ "price") :
    (Routes.table rows).normalize = rows.mapM rowConfig := by
  have hNone : ¬ rows.any (·.1 = "price") = true := by
    rw [List.any_eq_true]
    rintro ⟨row, hMem, hKey⟩
    exact hTable row hMem (of_decide_eq_true hKey)
  simp only [Routes.normalize]
  rw [if_neg hNone]
  rfl

/-- A table is compiled in two passes: all rows are read before any key is looked at. -/
theorem Routes.compile_table (hTable : ∀ row ∈ rows, row.1 ≠ "price") :
    (Routes.table rows).compile = (do let _ ← rows.mapM rowConfig; rows.mapM rowPattern) := by
  unfold Routes.compile
  rw [Routes.normalize_table hTable]
  cases h : rows.mapM rowConfig with
  | error e => rfl
  | ok named => exact mapM_of_forall₂ (mapM_eq_ok_iff.mp h) _

end Route

/-! ## Gates of rows -/

namespace Gate

open Tollgate.Route Tollgate.Payment

variable {Request : Type} {hooks : Hooks Request} {payTo : String} {rows : List Row}

/-- A pattern and a gate are those of a row: they hold its configuration, the pattern is that of
its key, and the template of the gate is restricted to the method that the key names, if it names
one. -/
structure BuiltFrom (hooks : Hooks Request) (payTo : String) (row : Row)
    (entry : Pattern × Gate Request) : Prop where
  config : row.2.toConfig row.1 = .ok entry.2.config
  template : ∃ verb glob, KeyParts row.1.toList verb glob ∧ glob ≠ [] ∧
    entry.1 = ⟨.named verb, Glob.ofText glob, entry.2.config⟩ ∧
    requirement hooks.convert payTo entry.2.config (entry.2.config.staticResource?.getD "")
      (if verb = anyMark then none else some verb) = .ok entry.2.template
  source : Gate.sourceOf? hooks entry.2.config = some entry.2.source
  hooks : entry.2.hooks = hooks

/-- The pattern and the gate of a row. -/
def rowEntry (hooks : Hooks Request) (payTo : String) (row : Row) :
    Except Failure (Pattern × Gate Request) :=
  (rowPattern row).mapError Failure.setup >>= Gates.buildEntry hooks payTo

/-- A gate is built where there is a resource and the requirement can be told. -/
theorem build_eq_ok_iff {c : Config} {method : Option String} {g : Gate Request} :
    Gate.build hooks payTo c method = .ok g ↔
      Gate.sourceOf? hooks c = some g.source ∧
        requirement hooks.convert payTo c (c.staticResource?.getD "") method = .ok g.template ∧
        g.config = c ∧ g.hooks = hooks := by
  unfold Gate.build
  cases hSource : Gate.sourceOf? hooks c with
  | none => simp
  | some source =>
      simp only [map_eq_ok_iff, Option.some.injEq]
      constructor
      · rintro ⟨template, hTemplate, rfl⟩
        exact ⟨rfl, hTemplate, rfl, rfl⟩
      · rintro ⟨rfl, hTemplate, rfl, rfl⟩
        exact ⟨g.template, hTemplate, rfl⟩

theorem rowEntry_eq_ok_iff {row : Row} {entry : Pattern × Gate Request} :
    rowEntry hooks payTo row = .ok entry ↔ BuiltFrom hooks payTo row entry := by
  obtain ⟨p, g⟩ := entry
  unfold rowEntry
  rw [bind_eq_ok_iff]
  simp only [mapError_eq_ok_iff, rowPattern_eq_ok_iff, Gates.buildEntry, map_eq_ok_iff,
    Prod.mk.injEq]
  constructor
  · rintro ⟨p, ⟨c, verb, glob, hConfig, hParts, hGlob, rfl⟩, g, hBuild, rfl, rfl⟩
    obtain ⟨hSource, hTemplate, rfl, hHooks⟩ := build_eq_ok_iff.mp hBuild
    rw [Verb.method?_named] at hTemplate
    exact ⟨hConfig, ⟨verb, glob, hParts, hGlob, rfl, hTemplate⟩, hSource, hHooks⟩
  · rintro ⟨hConfig, ⟨verb, glob, hParts, hGlob, hPattern, hTemplate⟩, hSource, hHooks⟩
    simp only at hConfig hPattern hTemplate hSource hHooks
    refine ⟨p, ⟨g.config, verb, glob, hConfig, hParts, hGlob, hPattern⟩, g, ?_, rfl, rfl⟩
    rw [hPattern, build_eq_ok_iff, Verb.method?_named]
    exact ⟨hSource, hTemplate, rfl, hHooks⟩

/-- The gates of a table are built in three passes over its rows. -/
theorem Gates.build_table (hTable : ∀ row ∈ rows, row.1 ≠ "price") :
    Gates.build hooks payTo (.table rows) = (do
      let _ ← (rows.mapM rowConfig).mapError Failure.setup
      let _ ← (rows.mapM rowPattern).mapError Failure.setup
      let entries ← rows.mapM (rowEntry hooks payTo)
      return ⟨entries⟩) := by
  unfold Gates.build
  rw [Routes.compile_table hTable]
  cases hConfigs : rows.mapM rowConfig with
  | error e => rfl
  | ok named =>
      cases hPatterns : rows.mapM rowPattern with
      | error e => rfl
      | ok patterns =>
          have hEach : List.Forall₂
              (fun row p => (rowPattern row).mapError Failure.setup = .ok p) rows patterns :=
            (mapM_eq_ok_iff.mp hPatterns).imp (fun _ _ h => mapError_eq_ok_iff.mpr h)
          have hEntries := mapM_of_forall₂ hEach (Gates.buildEntry hooks payTo)
          show (patterns.mapM (Gates.buildEntry hooks payTo) >>= _) = _
          rw [hEntries]
          rfl

/-- The gates of a table are those of its rows, one for each and in their order. -/
theorem Gates.build_table_eq_ok_iff (hTable : ∀ row ∈ rows, row.1 ≠ "price")
    {gates : Gates Request} :
    Gates.build hooks payTo (.table rows) = .ok gates ↔
      List.Forall₂ (BuiltFrom hooks payTo) rows gates.entries := by
  have hRows : List.Forall₂ (BuiltFrom hooks payTo) rows gates.entries ↔
      rows.mapM (rowEntry hooks payTo) = .ok gates.entries := by
    rw [mapM_eq_ok_iff]
    simp only [rowEntry_eq_ok_iff]
  rw [hRows, Gates.build_table hTable]
  constructor
  · intro h
    obtain ⟨_, -, h⟩ := bind_eq_ok_iff.mp h
    obtain ⟨_, -, h⟩ := bind_eq_ok_iff.mp h
    obtain ⟨entries, hEntries, h⟩ := bind_eq_ok_iff.mp h
    cases h
    exact hEntries
  · intro hEntries
    -- a row that has a gate has a pattern, and before that a configuration
    have hPattern : ∀ row ∈ rows, HasConfig row ∧ HasGlob row := by
      intro row hMem
      obtain ⟨entry, hEntry⟩ := exists_mapM_eq_ok_iff.mp ⟨_, hEntries⟩ row hMem
      obtain ⟨p, hp, -⟩ := bind_eq_ok_iff.mp hEntry
      exact exists_rowPattern_iff.mp ⟨p, mapError_eq_ok_iff.mp hp⟩
    obtain ⟨named, hConfigs⟩ := exists_mapM_eq_ok_iff.mpr
      (fun row hMem => exists_rowConfig_iff.mpr (hPattern row hMem).1)
    obtain ⟨patterns, hPatterns⟩ := exists_mapM_eq_ok_iff.mpr
      (fun row hMem => exists_rowPattern_iff.mpr (hPattern row hMem))
    rw [hConfigs, hPatterns, hEntries]
    rfl

end Gate

end Tollgate
