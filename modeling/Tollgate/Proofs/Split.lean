import Tollgate.Proofs.Authority
import Tollgate.Proofs.Decimals
import Tollgate.Url.Split

set_option autoImplicit false

/-! # Taking a URL apart

Behind the scheme of a URL stand an authority, a path, and a query or a fragment. Every text has
these parts, and they are no others (`exists_parts`, `Parts.unique`). Tabs and line breaks count for
nothing, so it is the text without them that is taken apart: its path is found if the authority is
faultless (`pathOf_eq_ok_iff`). Nothing is said here of how a URL was put together.
-/

namespace Tollgate.Url

open Tollgate.Text

/-! ## Characters -/

/-- A character that counts in a URL: any but tabs and line breaks. -/
def isVisible (c : Char) : Bool :=
  c != '\t' && c != '\n' && c != '\r'

/-- A character that does not end a path. -/
def isInPath (c : Char) : Bool :=
  c != '?' && c != '#'

/-- What stands in an authority does not end a path. What ends an authority and not a path is a
slash. -/
theorem isInside_eq (c : Char) : isInside c = (c != '/' && isInPath c) := by
  simp only [isInside, isInPath, Bool.and_assoc]

/-- A character that the name of a scheme may hold. -/
def isSchemeChar (c : Char) : Bool :=
  c.isAlphanum || c == '+' || c == '-' || c == '.'

/-- Whether a text can be the name of a scheme, which begins with a letter. -/
def isScheme (cs : List Char) : Bool :=
  cs.head?.any Char.isAlpha && cs.all isSchemeChar

theorem ne_of_isSchemeChar {c d : Char} (h : isSchemeChar c = true)
    (hd : isSchemeChar d = false) : c ≠ d := by
  rintro rfl
  rw [hd] at h
  cases h

theorem isVisible_of_isSchemeChar {c : Char} (h : isSchemeChar c = true) : isVisible c = true := by
  unfold isVisible
  simp only [Bool.and_eq_true, bne_iff_ne]
  exact ⟨⟨ne_of_isSchemeChar h (by decide), ne_of_isSchemeChar h (by decide)⟩,
    ne_of_isSchemeChar h (by decide)⟩

/-! ## Schemes -/

/-- A run of a class that ends where the class does is what is taken and dropped. -/
theorem takeWhile_and_dropWhile_append {p : Char → Bool} {front back : List Char}
    (hFront : ∀ c ∈ front, p c = true) (hBack : ∀ c ∈ back.head?, p c = false) :
    (front ++ back).takeWhile p = front ∧ (front ++ back).dropWhile p = back := by
  have hDrop : (front ++ back).dropWhile p = back := by
    rw [List.dropWhile_append_of_pos hFront, dropWhile_eq_self_of_head? hBack]
  have hBoth := List.takeWhile_append_dropWhile (p := p) (l := front ++ back)
  rw [hDrop] at hBoth
  exact ⟨List.append_cancel_right hBoth, hDrop⟩

section Scheme

variable {scheme : List Char}

theorem exists_cons_of_isScheme (h : isScheme scheme = true) :
    ∃ c rest, scheme = c :: rest ∧ c.isAlpha = true := by
  unfold isScheme at h
  rw [Bool.and_eq_true] at h
  cases scheme with
  | nil => exact absurd h.1 (by decide)
  | cons c rest => exact ⟨c, rest, rfl, h.1⟩

theorem forall_mem_of_isScheme (h : isScheme scheme = true) :
    ∀ c ∈ scheme, isSchemeChar c = true := by
  unfold isScheme at h
  rw [Bool.and_eq_true] at h
  exact List.all_eq_true.mp h.2

/-- A scheme is cut off in front of the first colon. -/
theorem cutTargetScheme_append (h : isScheme scheme = true) (rest : List Char) :
    cutTargetScheme (scheme ++ ':' :: rest) = (asciiLower scheme, rest) := by
  have hName : ∀ c ∈ scheme, (c != ':') = true := fun c hMem =>
    bne_iff_ne.mpr (ne_of_isSchemeChar (forall_mem_of_isScheme h c hMem) (by decide))
  have hColon : ∀ c ∈ (':' :: rest).head?, (c != ':') = false := by
    intro c hc
    rw [← Option.some.inj hc]
    rfl
  obtain ⟨hTake, hDrop⟩ := takeWhile_and_dropWhile_append hName hColon
  have hCut : cutScheme (scheme ++ ':' :: rest) = some (asciiLower scheme, rest) := by
    obtain ⟨c, others, rfl, -⟩ := exists_cons_of_isScheme h
    unfold cutScheme
    simp only [hTake, hDrop]
    exact if_pos h
  unfold cutTargetScheme
  rw [hCut]
  rfl

end Scheme

/-- A text whose first character is known and kept begins with it after others were left out. -/
theorem head?_filter_eq {p : Char → Bool} {cs : List Char} {d : Char} (hKept : p d = true)
    (h : ∀ c ∈ cs.head?, c = d) : ∀ c ∈ (cs.filter p).head?, c = d := by
  cases cs with
  | nil => exact fun c hc => by cases hc
  | cons c rest =>
      obtain rfl := h c rfl
      rw [List.filter_cons_of_pos hKept]
      exact fun b hb => (Option.some.inj hb).symm

/-! ## Parts -/

/-- The parts of what stands behind the scheme of a URL: an authority, a path that is empty or
begins with a slash, and a query or a fragment. -/
structure Parts (text authority path back : List Char) : Prop where
  joined : text = authority ++ (path ++ back)
  inside : ∀ c ∈ authority, isInside c = true
  slash : ∀ c ∈ path.head?, c = '/'
  inPath : ∀ c ∈ path, isInPath c = true
  ended : ∀ c ∈ back.head?, isInPath c = false

section Parts

variable {text authority path back : List Char}

theorem exists_parts (text : List Char) :
    ∃ back, Parts text (text.takeWhile isInside) ((text.dropWhile isInside).takeWhile isInPath)
      back := by
  have hInPath : ∀ c ∈ (text.dropWhile isInside).takeWhile isInPath, isInPath c = true :=
    fun c hMem => List.all_eq_true.mp List.all_takeWhile c hMem
  refine ⟨(text.dropWhile isInside).dropWhile isInPath, ?_, ?_, ?_, hInPath, ?_⟩
  · rw [List.takeWhile_append_dropWhile, List.takeWhile_append_dropWhile]
  · exact fun c hMem => List.all_eq_true.mp List.all_takeWhile c hMem
  · -- the path begins where the authority ends, and no question mark or hash is in it
    intro c hc
    have hMem : isInPath c = true := hInPath c (List.mem_of_mem_head? hc)
    have hHead : (text.dropWhile isInside).head? = some c := by
      rw [List.head?_takeWhile] at hc
      exact (Option.mem_filter_iff.mp hc).1
    have hEnd : isInside c = false := by
      simpa [hHead] using List.head?_dropWhile_not isInside text
    rw [isInside_eq, hMem, Bool.and_true] at hEnd
    exact bne_eq_false_iff_eq.mp hEnd
  · intro c hc
    simpa [Option.mem_def.mp hc] using
      List.head?_dropWhile_not isInPath (text.dropWhile isInside)

/-- A text has its parts in one way only. -/
theorem Parts.unique (h : Parts text authority path back) :
    authority = text.takeWhile isInside ∧
      path = (text.dropWhile isInside).takeWhile isInPath := by
  -- what stands behind the authority begins with a slash, a question mark or a hash
  have hStart : ∀ c ∈ (path ++ back).head?, isInside c = false := by
    intro c hc
    rw [isInside_eq]
    cases path with
    | nil => rw [h.ended c hc, Bool.and_false]
    | cons d rest =>
        rw [← h.slash d rfl, Option.some.inj hc]
        simp
  obtain ⟨hAuthority, hRest⟩ := takeWhile_and_dropWhile_append h.inside hStart
  obtain ⟨hPath, -⟩ := takeWhile_and_dropWhile_append h.inPath h.ended
  rw [h.joined, hAuthority, hRest, hPath]
  exact ⟨rfl, rfl⟩

end Parts

/-! ## The path of a URL -/

section Path

variable {scheme rest authority path back : List Char}

/-- Behind a scheme the visible text is taken apart. -/
theorem pathOf_of_parts (hScheme : isScheme scheme = true)
    (h : Parts (rest.filter isVisible) authority path back) :
    pathOf (scheme ++ ':' :: '/' :: '/' :: rest) =
      match authorityFault? authority with
      | some fault => .error fault
      | none => .ok path := by
  obtain ⟨hAuthority, hPath⟩ := h.unique
  -- a scheme begins with a letter, so nothing is dropped in front of it
  have hLetter : ∀ c ∈ (scheme ++ ':' :: '/' :: '/' :: rest).head?,
      decide (c.toNat ≤ 0x20) = false := by
    obtain ⟨c, others, rfl, hAlpha⟩ := exists_cons_of_isScheme hScheme
    intro d hd
    rw [← Option.some.inj hd, decide_eq_false_iff_not]
    have hRange := toNat_of_isAlpha hAlpha
    omega
  have hVisible : scheme.filter isVisible = scheme :=
    List.filter_eq_self.mpr (fun c hMem =>
      isVisible_of_isSchemeChar (forall_mem_of_isScheme hScheme c hMem))
  have hText : ((scheme ++ ':' :: '/' :: '/' :: rest).dropWhile (·.toNat ≤ 0x20)).filter
      (fun c => c != '\t' && c != '\n' && c != '\r') =
        scheme ++ ':' :: '/' :: '/' :: rest.filter isVisible := by
    rw [dropWhile_eq_self_of_head? hLetter, List.filter_append]
    exact congrArg (· ++ (':' :: '/' :: '/' :: rest).filter isVisible) hVisible
  unfold pathOf
  simp only [hText, cutTargetScheme_append hScheme]
  rw [hAuthority, hPath]
  rfl

/-- The path of a URL is found if and only if the authority in front of it is faultless. -/
theorem pathOf_eq_ok_iff (hScheme : isScheme scheme = true) :
    pathOf (scheme ++ ':' :: '/' :: '/' :: rest) = .ok path ↔
      ∃ authority back, Parts (rest.filter isVisible) authority path back ∧
        authorityFault? authority = none := by
  constructor
  · intro h
    obtain ⟨back, hParts⟩ := exists_parts (rest.filter isVisible)
    rw [pathOf_of_parts hScheme hParts] at h
    split at h
    · cases h
    · rename_i hFault
      cases h
      exact ⟨_, back, hParts, hFault⟩
  · rintro ⟨authority, back, hParts, hFault⟩
    rw [pathOf_of_parts hScheme hParts, hFault]

end Path

end Tollgate.Url
