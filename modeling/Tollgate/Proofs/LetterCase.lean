import Mathlib
import Tollgate.Proofs.Keys

set_option autoImplicit false

/-! # Letter case and routes

Two runs over the same routes, or over routes whose keys are spelled with other capitals, find the
same pattern if nothing but the case of ASCII letters sets the requests and the keys apart. The
relation of twins is carried through every step: twins are blank together, stand together for a
character that is no letter, are the same letter up to case and have the same upper case
(`Twin.upperChar_eq`); so twin keys have the same verb and twin globs (`KeyParts.twins`), twin globs
are cut into twin pieces (`cut_twins`), and twin pieces accept twin paths (`acceptsAll_twins`). The
result is stated for whole tables in `findPattern_recased`.
-/

namespace Tollgate

namespace Text

/-! ## Twins -/

/-- Two characters are the same but for the case of an ASCII letter. -/
def Twin (a b : Char) : Prop :=
  a.toLower = b.toLower

/-- Two texts are the same but for the case of ASCII letters. -/
def SameButCase (s t : String) : Prop :=
  asciiLower s.toList = asciiLower t.toList

instance (s t : String) : Decidable (SameButCase s t) :=
  inferInstanceAs (Decidable (_ = _))

theorem SameButCase.rfl {s : String} : SameButCase s s :=
  Eq.refl (asciiLower s.toList)

theorem asciiLower_eq_iff {cs ds : List Char} :
    asciiLower cs = asciiLower ds ↔ List.Forall₂ Twin cs ds := by
  unfold asciiLower
  rw [← List.forall₂_eq_eq_eq, List.forall₂_map_left_iff, List.forall₂_map_right_iff]
  exact Iff.rfl

section Twins

variable {a b : Char}

/-- Twins that are not the same character are letters. -/
theorem Twin.eq_or_isAlpha (h : Twin a b) : a = b ∨ (a.isAlpha = true ∧ b.isAlpha = true) := by
  -- lower case keeps what is a letter, and only capitals are changed by it
  have hSame : a.isAlpha = b.isAlpha := by
    rw [← Char.isAlpha_toLower_eq_isAlpha a, h, Char.isAlpha_toLower_eq_isAlpha]
  by_cases ha : a.isAlpha = true
  · exact Or.inr ⟨ha, hSame ▸ ha⟩
  · have hUpper : ∀ c : Char, ¬ c.isAlpha = true → ¬ c.isUpper = true := by
      intro c hc hUpper
      exact hc (by rw [Char.isAlpha, hUpper, Bool.true_or])
    have hb : ¬ b.isAlpha = true := hSame ▸ ha
    rw [Twin, Char.toLower_eq_of_not_isUpper (hUpper a ha),
      Char.toLower_eq_of_not_isUpper (hUpper b hb)] at h
    exact Or.inl h

/-- Of twins, both or none are a given character that is no letter. -/
theorem Twin.eq_iff (h : Twin a b) {d : Char} (hd : d.isAlpha = false) : a = d ↔ b = d := by
  rcases h.eq_or_isAlpha with rfl | ⟨ha, hb⟩
  · exact Iff.rfl
  · refine iff_of_false ?_ ?_
    · rintro rfl
      exact Bool.false_ne_true (hd.symm.trans ha)
    · rintro rfl
      exact Bool.false_ne_true (hd.symm.trans hb)

theorem Twin.bne_eq (h : Twin a b) {d : Char} (hd : d.isAlpha = false) : (a != d) = (b != d) := by
  rw [Bool.eq_iff_iff, bne_iff_ne, bne_iff_ne, Ne, Ne, h.eq_iff hd]

theorem Twin.sameLetter (h : Twin a b) : SameLetter a b := by
  rcases h.eq_or_isAlpha with rfl | ⟨ha, hb⟩
  · exact SameLetter.rfl
  · have ha := toNat_of_isAlpha ha
    have hb := toNat_of_isAlpha hb
    unfold SameLetter fold
    rw [if_pos (by omega), if_pos (by omega)]
    exact h

theorem Twin.upperChar_eq (h : Twin a b) : upperChar a = upperChar b := by
  rcases h.eq_or_isAlpha with rfl | ⟨ha, hb⟩
  · rfl
  · have ha := toNat_of_isAlpha ha
    have hb := toNat_of_isAlpha hb
    unfold upperChar
    rw [if_pos (by omega), if_pos (by omega), ← Char.toUpper_toLower_eq_toUpper a, h,
      Char.toUpper_toLower_eq_toUpper]

theorem Twin.isBlank_eq (h : Twin a b) : isBlank a = isBlank b := by
  have hLetter : ∀ {c : Char}, c.isAlpha = true → isBlank c = false := by
    intro c hc
    have hc := toNat_of_isAlpha hc
    simp only [isBlank, isWhiteSpace, Bool.or_eq_false_iff, Bool.and_eq_false_iff,
      decide_eq_false_iff_not, beq_eq_false_iff_ne]
    omega
  rcases h.eq_or_isAlpha with rfl | ⟨ha, hb⟩
  · rfl
  · rw [hLetter ha, hLetter hb]

end Twins

section TwinTexts

variable {cs ds : List Char}

theorem flatMap_upperChar_eq (h : List.Forall₂ Twin cs ds) :
    cs.flatMap upperChar = ds.flatMap upperChar := by
  induction h with
  | nil => rfl
  | cons hHead _ ih => rw [List.flatMap_cons, List.flatMap_cons, hHead.upperChar_eq, ih]

theorem SameButCase.upper_eq {s t : String} (h : SameButCase s t) : upper s = upper t := by
  unfold upper
  rw [flatMap_upperChar_eq (asciiLower_eq_iff.mp h)]

/-- Twin texts begin with the same character if one of them begins with a character that is no
letter. -/
theorem head?_eq_iff (h : List.Forall₂ Twin cs ds) {d : Char} (hd : d.isAlpha = false) :
    cs.head? = some d ↔ ds.head? = some d := by
  cases h with
  | nil => exact Iff.rfl
  | cons hHead _ => rw [List.head?_cons, List.head?_cons, Option.some.injEq, Option.some.injEq,
      hHead.eq_iff hd]

theorem getLast?_eq_iff (h : List.Forall₂ Twin cs ds) {d : Char} (hd : d.isAlpha = false) :
    cs.getLast? = some d ↔ ds.getLast? = some d := by
  rw [List.getLast?_eq_head?_reverse, List.getLast?_eq_head?_reverse]
  exact head?_eq_iff (List.forall₂_reverse_iff.mpr h) hd

theorem mem_iff_of_twins (h : List.Forall₂ Twin cs ds) {d : Char} (hd : d.isAlpha = false) :
    d ∈ cs ↔ d ∈ ds := by
  induction h with
  | nil => exact Iff.rfl
  | cons hHead _ ih => rw [List.mem_cons, List.mem_cons, eq_comm, hHead.eq_iff hd, ih, eq_comm]

/-- Blanks stand at the same places of twin texts. -/
theorem forall_isBlank_of_twins (h : List.Forall₂ Twin cs ds) {blank : Bool}
    (hBlank : ∀ c ∈ cs, isBlank c = blank) : ∀ d ∈ ds, isBlank d = blank := by
  induction h with
  | nil => exact fun d hMem => absurd hMem List.not_mem_nil
  | cons hHead _ ih =>
      obtain ⟨hc, hRest⟩ := List.forall_mem_cons.mp hBlank
      exact List.forall_mem_cons.mpr ⟨hHead.isBlank_eq ▸ hc, ih hRest⟩

/-- A text in two parts has its twins in two parts. -/
theorem exists_append_of_twins {front back : List Char} (h : List.Forall₂ Twin (front ++ back) ds) :
    ∃ front' back', ds = front' ++ back' ∧ List.Forall₂ Twin front front' ∧
      List.Forall₂ Twin back back' := by
  have hLower := asciiLower_eq_iff.mpr h
  rw [asciiLower, List.map_append, eq_comm] at hLower
  obtain ⟨front', back', rfl, hFront, hBack⟩ := List.map_eq_append_iff.mp hLower
  exact ⟨front', back', rfl, asciiLower_eq_iff.mp hFront.symm, asciiLower_eq_iff.mp hBack.symm⟩

end TwinTexts

end Text

namespace Route

open Tollgate.Text

/-! ## Keys -/

/-- Twin keys have the same verb, and their globs are twins. -/
theorem KeyParts.twins {key key' : List Char} {verb : String} {glob : List Char}
    (h : KeyParts key verb glob) (hKeys : List.Forall₂ Twin key key') :
    ∃ glob', KeyParts key' verb glob' ∧ List.Forall₂ Twin glob glob' := by
  cases h with
  | bare hGlob => exact ⟨key', .bare (forall_isBlank_of_twins hKeys hGlob), hKeys⟩
  | @spaced verb gap glob hVerb hSome hGap hGlob =>
      -- the twin key is divided at the same places, where its blanks stand as well
      obtain ⟨verb', rest, rfl, hVerbs, hRest⟩ := exists_append_of_twins hKeys
      obtain ⟨gap', glob', rfl, hGaps, hGlobs⟩ := exists_append_of_twins hRest
      refine ⟨glob', ?_, hGlobs⟩
      have hUpper : upper (String.ofList verb) = upper (String.ofList verb') := by
        apply SameButCase.upper_eq
        rw [SameButCase, String.toList_ofList, String.toList_ofList]
        exact asciiLower_eq_iff.mpr hVerbs
      rw [hUpper]
      refine .spaced (forall_isBlank_of_twins hVerbs hVerb) ?_
        (forall_isBlank_of_twins hGaps hGap) ?_
      · rintro rfl
        exact hSome (List.forall₂_nil_right_iff.mp hGaps)
      · cases hGlobs with
        | nil => exact fun c hHead => by cases hHead
        | cons hHead _ =>
            intro c hFirst
            cases hFirst
            rw [← hHead.isBlank_eq]
            exact hGlob _ rfl

/-! ## Globs -/

/-- Two pieces are the same but for the case of letters in a literal run. -/
inductive PieceTwins : Piece → Piece → Prop
  | anyRun : PieceTwins .anyRun .anyRun
  | segment : PieceTwins .segment .segment
  | literal {run run' : List Char} (hRun : List.Forall₂ Twin run run') :
      PieceTwins (.literal run) (.literal run')

section Cutting

variable {cs ds run run' : List Char}

theorem opensGroup_twins (h : List.Forall₂ Twin cs ds) : opensGroup cs = opensGroup ds := by
  have hHead := head?_eq_iff h (d := ']') rfl
  have hMem := mem_iff_of_twins h (d := ']') rfl
  rw [Bool.eq_iff_iff]
  simp only [opensGroup, Bool.and_eq_true, bne_iff_ne, List.contains_iff_mem, Ne, hHead, hMem]

theorem runPieces_twins (h : List.Forall₂ Twin run run') :
    List.Forall₂ PieceTwins (runPieces run) (runPieces run') := by
  have hBrackets : Token.IsBracketed run ↔ Token.IsBracketed run' :=
    and_congr (head?_eq_iff h rfl) (getLast?_eq_iff h rfl)
  rw [runPieces_eq, runPieces_eq]
  cases h with
  | nil => exact .nil
  | @cons c d cs ds hHead hTail =>
      rw [runTokens, runTokens, if_neg (List.cons_ne_nil c cs), if_neg (List.cons_ne_nil d ds),
        List.map_singleton, List.map_singleton, Token.piece, Token.piece]
      refine .cons ?_ .nil
      by_cases hBoth : Token.IsBracketed (c :: cs)
      · rw [if_pos hBoth, if_pos (hBrackets.mp hBoth)]
        exact .segment
      · rw [if_neg hBoth, if_neg (fun hBoth' => hBoth (hBrackets.mpr hBoth'))]
        exact .literal (.cons hHead hTail)

/-- Twin globs are cut at the same places. -/
theorem cut_twins (h : List.Forall₂ Twin cs ds) (inGroup : Bool)
    (hRun : List.Forall₂ Twin run run') :
    List.Forall₂ PieceTwins (cut inGroup run cs) (cut inGroup run' ds) := by
  -- the literal run so far differs between the two keys, so it is generalized with its twin
  induction h generalizing inGroup run run' with
  | nil =>
      rw [cut, cut]
      exact runPieces_twins (List.forall₂_reverse_iff.mpr hRun)
  | @cons c d cs ds hHead hTail ih =>
      have hClosed : List.Forall₂ PieceTwins (runPieces run.reverse) (runPieces run'.reverse) :=
        runPieces_twins (List.forall₂_reverse_iff.mpr hRun)
      cases inGroup with
      | true =>
          have hClose := hHead.eq_iff (d := ']') rfl
          rw [cut, cut]
          by_cases hc : c = ']'
          · rw [if_pos hc, if_pos (hClose.mp hc)]
            exact .cons .segment (ih false .nil)
          · rw [if_neg hc, if_neg (fun hd => hc (hClose.mpr hd))]
            exact ih true hRun
      | false =>
          have hStar := hHead.eq_iff (d := '*') rfl
          have hOpen : (c = '[' ∧ opensGroup cs = true) ↔ (d = '[' ∧ opensGroup ds = true) := by
            rw [hHead.eq_iff rfl, opensGroup_twins hTail]
          rw [cut, cut]
          by_cases hc : c = '*'
          · rw [if_pos hc, if_pos (hStar.mp hc)]
            exact List.rel_append hClosed (.cons .anyRun (ih false .nil))
          · rw [if_neg hc, if_neg (fun hd => hc (hStar.mpr hd))]
            by_cases hGroup : c = '[' ∧ opensGroup cs = true
            · rw [if_pos hGroup, if_pos (hOpen.mp hGroup)]
              exact List.rel_append hClosed (ih true .nil)
            · rw [if_neg hGroup, if_neg (fun hGroup' => hGroup (hOpen.mpr hGroup'))]
              exact ih false (.cons hHead hRun)

end Cutting

/-! ## Paths -/

section Matching

variable {test test' : List Char → Bool} {cs ds : List Char}

/-- Two tests give the same answer for twins. -/
def Agree (test test' : List Char → Bool) : Prop :=
  ∀ cs ds, List.Forall₂ Twin cs ds → test cs = test' ds

theorem acceptsRun_twins {p : Char → Bool} (hp : ∀ a b, Twin a b → p a = p b)
    (hTest : Agree test test') : Agree (acceptsRun p test) (acceptsRun p test') := by
  intro cs ds h
  induction h with
  | nil => exact hTest [] [] .nil
  | cons hHead hTail ih =>
      rw [acceptsRun, acceptsRun, hTest _ _ (.cons hHead hTail), hp _ _ hHead, ih]

/-- Behind twin runs twin texts are left. -/
theorem afterLiteral?_twins {run run' : List Char} (hRun : List.Forall₂ Twin run run')
    (h : List.Forall₂ Twin cs ds) :
    Option.Rel (List.Forall₂ Twin) (afterLiteral? run cs) (afterLiteral? run' ds) := by
  induction hRun generalizing cs ds with
  | nil => exact .some h
  | @cons l l' run run' hLetter _ ih =>
      cases h with
      | nil => exact .none
      | @cons c d cs ds hHead hTail =>
          have hSame : SameLetter l c ↔ SameLetter l' d := by
            constructor
            · intro hc
              exact hLetter.sameLetter.symm.trans (hc.trans hHead.sameLetter)
            · intro hd
              exact hLetter.sameLetter.trans (hd.trans hHead.sameLetter.symm)
          rw [afterLiteral?, afterLiteral?]
          by_cases hc : SameLetter l c
          · rw [if_pos hc, if_pos (hSame.mp hc)]
            exact ih hTail
          · rw [if_neg hc, if_neg (fun hd => hc (hSame.mpr hd))]
            exact .none

/-- A piece and its twin accept the same paths up to the case of letters. -/
theorem PieceTwins.accepts {piece piece' : Piece} (h : PieceTwins piece piece')
    (hTest : Agree test test') : Agree (piece.accepts test) (piece'.accepts test') := by
  intro cs ds hTexts
  cases h with
  | anyRun =>
      exact acceptsRun_twins (fun a b hTwin => hTwin.bne_eq rfl) hTest cs ds hTexts
  | segment =>
      cases hTexts with
      | nil => rfl
      | cons hHead hTail =>
          have hRest := acceptsRun_twins (p := (· != '/')) (fun a b hTwin => hTwin.bne_eq rfl) hTest
          rw [Piece.accepts, Piece.accepts, hHead.bne_eq rfl, hRest _ _ hTail]
  | literal hRun =>
      have hAfter := afterLiteral?_twins hRun hTexts
      rw [Piece.accepts, Piece.accepts]
      -- only what is left behind the two runs matters from here on
      revert hAfter
      generalize afterLiteral? _ cs = rest
      generalize afterLiteral? _ ds = rest'
      rintro (hRest | _)
      · exact hTest _ _ hRest
      · rfl

theorem acceptsAll_twins {pieces pieces' : List Piece}
    (h : List.Forall₂ PieceTwins pieces pieces') :
    Agree (acceptsAll pieces) (acceptsAll pieces') := by
  induction h with
  | nil =>
      intro cs ds hTexts
      cases hTexts <;> rfl
  | cons hPiece _ ih => exact hPiece.accepts ih

end Matching

/-- A path and a method fit a pattern of a key if their twins fit a pattern of a twin key. -/
theorem IsPatternOf.fits_twins {key key' : String} {p p' : Pattern} (h : IsPatternOf key p)
    (h' : IsPatternOf key' p') (hKeys : SameButCase key key') {path path' method method' : String}
    (hPaths : SameButCase path path') (hMethods : SameButCase method method') :
    p'.fits path' method' = p.fits path method := by
  obtain ⟨verb, glob, c, hParts, -, rfl⟩ := h
  obtain ⟨verb', glob', c', hParts', -, rfl⟩ := h'
  obtain ⟨twin, hTwin, hGlobs⟩ := hParts.twins (asciiLower_eq_iff.mp hKeys)
  -- the twin key has one verb and one glob, so they are those of its pattern
  obtain ⟨rfl, rfl⟩ := hTwin.unique hParts'
  have hPieces := cut_twins hGlobs false .nil
  have hAccepts : (Glob.ofText glob).accepts path = (Glob.ofText twin).accepts path' :=
    acceptsAll_twins hPieces _ _ (asciiLower_eq_iff.mp hPaths)
  rw [Pattern.fits, Pattern.fits, hMethods.upper_eq, hAccepts]

/-- Patterns of twin keys are found at the same place. -/
theorem findPattern_twins {keys keys' : List String} {patterns patterns' : List Pattern}
    (h : List.Forall₂ IsPatternOf keys patterns) (h' : List.Forall₂ IsPatternOf keys' patterns')
    (hKeys : List.Forall₂ SameButCase keys keys') {path path' method method' : String}
    (hPaths : SameButCase path path') (hMethods : SameButCase method method') :
    findPattern patterns' path' method' = findPattern patterns path method := by
  induction hKeys generalizing patterns patterns' with
  | nil =>
      cases h
      cases h'
      rfl
  | cons hKey _ ih =>
      cases h with
      | cons hHead hTail =>
          cases h' with
          | cons hHead' hTail' =>
              have hRest := ih hTail hTail'
              unfold findPattern at hRest ⊢
              rw [List.findIdx?_cons, List.findIdx?_cons, hRest,
                hHead.fits_twins hHead' hKey hPaths hMethods]

/-! ## Tables whose keys are spelled with other capitals -/

/-- A row with its key spelled with other capitals. -/
structure RowRecased (row row' : Row) : Prop where
  key : SameButCase row.1 row'.1
  entry : row'.2 = row.2

/-- Routes with their keys spelled with other capitals. A table with a row `price` is one
configuration, whose members have no verb and no glob; it stays one, and it is to stay well-formed.
A table without one does not get one, and nothing else is asked of it. -/
inductive Routes.Recased : Routes → Routes → Prop
  | single (c : Config) : Recased (.single c) (.single c)
  | oneConfig {rows rows' : List Row} {patterns' : List Pattern}
      (hRows : List.Forall₂ RowRecased rows rows') (hOne : IsOneConfig rows)
      (hOne' : IsOneConfig rows') (hCompile' : (Routes.table rows').compile = .ok patterns') :
      Recased (.table rows) (.table rows')
  | table {rows rows' : List Row} (hRows : List.Forall₂ RowRecased rows rows')
      (hTable : ¬ IsOneConfig rows) (hTable' : ¬ IsOneConfig rows') :
      Recased (.table rows) (.table rows')

theorem Routes.Recased.keys {routes routes' : Routes} (h : Routes.Recased routes routes') :
    List.Forall₂ SameButCase routes.keys routes'.keys := by
  cases h with
  | single c => exact .cons SameButCase.rfl .nil
  | oneConfig _ hOne hOne' =>
      rw [Routes.keys_oneConfig hOne, Routes.keys_oneConfig hOne']
      exact .cons SameButCase.rfl .nil
  | table hRows hTable hTable' =>
      rw [Routes.keys_table hTable, Routes.keys_table hTable', List.forall₂_map_left_iff,
        List.forall₂_map_right_iff]
      exact hRows.imp fun _ _ hRow => hRow.key

/-- What is read from an entry does not depend on its key. -/
theorem Entry.toConfig_eq_ok_iff {entry : Entry} {key key' : String} {c : Config} :
    entry.toConfig key = .ok c ↔ entry.toConfig key' = .ok c := by
  cases entry with
  | config c' => exact Iff.rfl
  | value v => rw [Entry.toConfig, Entry.toConfig, readConfig, readConfig, mapError_eq_ok_iff,
      mapError_eq_ok_iff]

theorem RowRecased.hasConfig {row row' : Row} (h : RowRecased row row') (hConfig : HasConfig row) :
    HasConfig row' := by
  obtain ⟨c, hc⟩ := hConfig
  refine ⟨c, ?_⟩
  rw [h.entry]
  exact Entry.toConfig_eq_ok_iff.mp hc

theorem RowRecased.hasGlob {row row' : Row} (h : RowRecased row row') (hGlob : HasGlob row) :
    HasGlob row' := by
  obtain ⟨verb, glob, hParts, hSome⟩ := hGlob
  obtain ⟨glob', hParts', hGlobs⟩ := hParts.twins (asciiLower_eq_iff.mp h.key)
  refine ⟨verb, glob', hParts', ?_⟩
  rintro rfl
  exact hSome (List.forall₂_nil_right_iff.mp hGlobs)

theorem forall_ready_of_recased {rows rows' : List Row} (hRows : List.Forall₂ RowRecased rows rows')
    (h : ∀ row ∈ rows, HasConfig row ∧ HasGlob row) :
    ∀ row ∈ rows', HasConfig row ∧ HasGlob row := by
  induction hRows with
  | nil => exact h
  | cons hHead _ ih =>
      obtain ⟨⟨hConfig, hGlob⟩, hRest⟩ := List.forall_mem_cons.mp h
      exact List.forall_mem_cons.mpr ⟨⟨hHead.hasConfig hConfig, hHead.hasGlob hGlob⟩, ih hRest⟩

/-- A table compiles if every row has a configuration and a glob. -/
theorem Routes.exists_compile_table_iff {rows : List Row} (hTable : ¬ IsOneConfig rows) :
    (∃ patterns, (Routes.table rows).compile = .ok patterns) ↔
      ∀ row ∈ rows, HasConfig row ∧ HasGlob row := by
  rw [Routes.compile_table (not_isOneConfig_iff.mp hTable)]
  constructor
  · rintro ⟨patterns, h⟩
    obtain ⟨_, -, hPatterns⟩ := bind_eq_ok_iff.mp h
    exact fun row hMem =>
      exists_rowPattern_iff.mp (exists_mapM_eq_ok_iff.mp ⟨_, hPatterns⟩ row hMem)
  · intro h
    obtain ⟨named, hNamed⟩ := exists_mapM_eq_ok_iff.mpr
      (fun row hMem => exists_rowConfig_iff.mpr (h row hMem).1)
    obtain ⟨patterns, hPatterns⟩ := exists_mapM_eq_ok_iff.mpr
      (fun row hMem => exists_rowPattern_iff.mpr (h row hMem))
    exact ⟨patterns, bind_eq_ok_iff.mpr ⟨named, hNamed, hPatterns⟩⟩

/-- Routes that compile do so with other capitals in their keys. -/
theorem Routes.Recased.exists_compile {routes routes' : Routes} {patterns : List Pattern}
    (h : Routes.Recased routes routes') (hCompile : routes.compile = .ok patterns) :
    ∃ patterns', routes'.compile = .ok patterns' := by
  cases h with
  | single c => exact ⟨patterns, hCompile⟩
  | oneConfig _ _ _ hCompile' => exact ⟨_, hCompile'⟩
  | table hRows hTable hTable' =>
      have hReady := (Routes.exists_compile_table_iff hTable).mp ⟨patterns, hCompile⟩
      exact (Routes.exists_compile_table_iff hTable').mpr (forall_ready_of_recased hRows hReady)

/-- **Case never changes the route of a request.** In routes that compile, paths and methods that
are the same but for the case of ASCII letters find the same pattern or none. If the keys of the
routes are spelled with other capitals, the routes compile as well, and every path and method finds
the pattern at the place where it was, or again none. -/
theorem findPattern_recased {routes : Routes} {patterns : List Pattern}
    (hCompile : routes.compile = .ok patterns) :
    (∀ {path path' method method' : String}, SameButCase path path' → SameButCase method method' →
      findPattern patterns path' method' = findPattern patterns path method) ∧
    ∀ routes', Routes.Recased routes routes' → ∃ patterns', routes'.compile = .ok patterns' ∧
      ∀ {path path' method method' : String}, SameButCase path path' → SameButCase method method' →
        findPattern patterns' path' method' = findPattern patterns path method := by
  have hKeys := Routes.patterns_of_compile hCompile
  refine ⟨fun hPaths hMethods => ?_, fun routes' hRecased => ?_⟩
  · have hSame : List.Forall₂ SameButCase routes.keys routes.keys :=
      List.forall₂_same.mpr fun _ _ => SameButCase.rfl
    exact findPattern_twins hKeys hKeys hSame hPaths hMethods
  · obtain ⟨patterns', hCompile'⟩ := hRecased.exists_compile hCompile
    refine ⟨patterns', hCompile', fun hPaths hMethods => ?_⟩
    exact findPattern_twins hKeys (Routes.patterns_of_compile hCompile') hRecased.keys hPaths
      hMethods

/-! ## A table with other capitals -/

namespace Capitals

/-- A table with a verb, a name and a star. -/
def rows : List Row :=
  [("Get /report/[id]", .value (.text "$0.05")), ("/Weather/*", .value (.text "$0.01"))]

/-- The table with other capitals in its keys. -/
def recased : List Row :=
  [("gET /REPORT/[Id]", .value (.text "$0.05")), ("/wEATHER/*", .value (.text "$0.01"))]

/-- The patterns of the table. -/
def compiled : List Pattern :=
  ((Routes.table rows).compile.toOption).getD []

theorem compile_eq : (Routes.table rows).compile = .ok compiled :=
  eq_ok_of_isOk (by decide +kernel) _

theorem recased_rows : Routes.Recased (.table rows) (.table recased) :=
  .table (.cons ⟨by decide, rfl⟩ (.cons ⟨by decide, rfl⟩ .nil)) (by decide) (by decide)

end Capitals

theorem findPattern_recased_capitals :
    (Routes.table Capitals.rows).compile = .ok Capitals.compiled ∧
      Routes.Recased (.table Capitals.rows) (.table Capitals.recased) ∧
      ∃ patterns', (Routes.table Capitals.recased).compile = .ok patterns' ∧
        findPattern patterns' "/rePORT/x" "get" = some 0 ∧
        findPattern patterns' "/weather/X/y" "PUT" = some 1 := by
  obtain ⟨-, hRecased⟩ := findPattern_recased Capitals.compile_eq
  obtain ⟨patterns', hCompile', hSame⟩ := hRecased _ Capitals.recased_rows
  have hReport : findPattern Capitals.compiled "/report/x" "GET" = some 0 := by decide +kernel
  have hWeather : findPattern Capitals.compiled "/Weather/X/y" "put" = some 1 := by decide +kernel
  refine ⟨Capitals.compile_eq, Capitals.recased_rows, patterns', hCompile', ?_, ?_⟩
  · rw [← hReport]
    exact hSame (by decide) (by decide)
  · rw [← hWeather]
    exact hSame (by decide) (by decide)

end Route

end Tollgate
