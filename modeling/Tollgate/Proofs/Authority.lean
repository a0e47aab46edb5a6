import Tollgate.Http.Request

set_option autoImplicit false

/-! # What an authority holds

The authority of a URL ends at the first slash, question mark or hash. A host that a request names
is taken into the URL only if it is valid, and what is valid holds none of the three
(`forall_mem_of_isAuthority`): names are made of host characters, addresses of digits, dots and
colons between brackets, and ports of digits.
-/

namespace Tollgate

/-! ## Parts of a text -/

namespace Text

theorem mem_join {separator c : Char} {parts : List (List Char)} (h : c ∈ join separator parts) :
    c = separator ∨ ∃ part ∈ parts, c ∈ part := by
  induction parts with
  | nil => cases h
  | cons part parts ih =>
      cases parts with
      | nil => exact Or.inr ⟨part, List.mem_cons_self, h⟩
      | cons second others =>
          have hMem : c ∈ part ++ separator :: join separator (second :: others) := h
          rcases List.mem_append.mp hMem with hPart | hRest
          · exact Or.inr ⟨part, List.mem_cons_self, hPart⟩
          · rcases List.mem_cons.mp hRest with rfl | hRest
            · exact Or.inl rfl
            · rcases ih hRest with hSep | ⟨part', hPart', hc⟩
              · exact Or.inl hSep
              · exact Or.inr ⟨part', List.mem_cons_of_mem _ hPart', hc⟩

/-- What holds of the separator and of all parts of a text holds of the text. -/
theorem forall_mem_of_split {p : Char → Prop} {cs : List Char} (separator : Char)
    (hSeparator : p separator) (hParts : ∀ part ∈ split separator cs, ∀ c ∈ part, p c) :
    ∀ c ∈ cs, p c := by
  intro c hMem
  rw [← join_split separator cs] at hMem
  rcases mem_join hMem with rfl | ⟨part, hPart, hc⟩
  · exact hSeparator
  · exact hParts part hPart c hc

theorem isHexDigit_of_foldlM {cs : List Char} {m n : Nat}
    (h : cs.foldlM (fun n c => (hexValue? c).map (16 * n + ·)) m = some n) :
    ∀ c ∈ cs, isHexDigit c = true := by
  induction cs generalizing m with
  | nil => exact fun c hMem => by cases hMem
  | cons d cs ih =>
      rw [List.foldlM_cons, Option.bind_eq_bind, Option.bind_eq_some_iff] at h
      obtain ⟨next, hNext, hRest⟩ := h
      obtain ⟨value, hValue, -⟩ := Option.map_eq_some_iff.mp hNext
      have hd : isHexDigit d = true := by
        unfold isHexDigit
        rw [hValue]
        rfl
      exact List.forall_mem_cons.mpr ⟨hd, ih hRest⟩

theorem isHexDigit_of_hexNumber? {cs : List Char} {n : Nat} (h : hexNumber? cs = some n) :
    ∀ c ∈ cs, isHexDigit c = true :=
  isHexDigit_of_foldlM h

end Text

theorem forall_of_mapM_eq_some {α β : Type} {f : α → Option β} {xs : List α} {ys : List β}
    (h : xs.mapM f = some ys) : ∀ x ∈ xs, ∃ y, f x = some y := by
  induction xs generalizing ys with
  | nil => exact fun x hMem => by cases hMem
  | cons x xs ih =>
      rw [List.mapM_cons, Option.bind_eq_bind, Option.bind_eq_some_iff] at h
      obtain ⟨y, hy, h⟩ := h
      obtain ⟨rest, hRest, -⟩ := Option.bind_eq_some_iff.mp h
      exact List.forall_mem_cons.mpr ⟨⟨y, hy⟩, ih hRest⟩

/-! ## Addresses -/

namespace Url

open Tollgate.Text

/-- A character that does not end an authority. -/
def isInside (c : Char) : Bool :=
  c != '/' && c != '?' && c != '#'

theorem isInside_iff {c : Char} : isInside c = true ↔ c ≠ '/' ∧ c ≠ '?' ∧ c ≠ '#' := by
  unfold isInside
  simp only [Bool.and_eq_true, bne_iff_ne, and_assoc]

/-- Characters of a kind to which none of the three ends belongs do not end an authority. -/
theorem isInside_of {p : Char → Bool} (hSlash : p '/' = false) (hQuestion : p '?' = false)
    (hHash : p '#' = false) {c : Char} (h : p c = true) : isInside c = true := by
  rw [isInside_iff]
  refine ⟨?_, ?_, ?_⟩
  · rintro rfl
    rw [hSlash] at h
    cases h
  · rintro rfl
    rw [hQuestion] at h
    cases h
  · rintro rfl
    rw [hHash] at h
    cases h

theorem isInside_of_isHexDigit {c : Char} (h : isHexDigit c = true) : isInside c = true :=
  isInside_of (p := isHexDigit) (by decide) (by decide) (by decide) h

theorem isInside_of_isDigit {c : Char} (h : c.isDigit = true) : isInside c = true :=
  isInside_of (p := Char.isDigit) (by decide) (by decide) (by decide) h

theorem forall_mem_of_readGroup {cs : List Char} {n : Nat} (h : readGroup cs = some n) :
    ∀ c ∈ cs, isInside c = true := by
  unfold readGroup at h
  split at h
  · cases h
  · exact fun c hMem => isInside_of_isHexDigit (isHexDigit_of_hexNumber? h c hMem)

theorem forall_mem_of_readOctet {cs : List Char} {n : Nat} (h : readOctet cs = some n) :
    ∀ c ∈ cs, isInside c = true := by
  unfold readOctet at h
  split at h
  · cases h
  · rename_i hShape
    simp only [Bool.or_eq_true, Bool.not_eq_true', not_or, Bool.not_eq_false] at hShape
    exact fun c hMem => isInside_of_isDigit (List.all_eq_true.mp hShape.2 c hMem)

theorem forall_mem_of_readDotted {cs : List Char} {groups : List Nat}
    (h : readDotted cs = some groups) : ∀ c ∈ cs, isInside c = true := by
  unfold readDotted at h
  cases hOctets : (split '.' cs).mapM readOctet with
  | none =>
      rw [hOctets] at h
      cases h
  | some octets =>
      refine forall_mem_of_split '.' (by decide) (fun part hPart => ?_)
      obtain ⟨n, hn⟩ := forall_of_mapM_eq_some hOctets part hPart
      exact forall_mem_of_readOctet hn

theorem forall_mem_of_readGroups {cs : List Char} {groups : List Nat}
    (h : readGroups cs = some groups) : ∀ c ∈ cs, isInside c = true := by
  unfold readGroups at h
  split at h
  · rename_i hEmpty
    rw [List.isEmpty_iff] at hEmpty
    rw [hEmpty]
    exact fun c hMem => by cases hMem
  · refine forall_mem_of_split ':' (by decide) ?_
    have hSome : split ':' cs ≠ [] := split_ne_nil ':' cs
    cases hGroups : (split ':' cs).mapM readGroup with
    | some found =>
        intro part hPart
        obtain ⟨n, hn⟩ := forall_of_mapM_eq_some hGroups part hPart
        exact forall_mem_of_readGroup hn
    | none =>
        -- all parts but the last are groups, and the last is dotted
        simp only [hGroups, Option.bind_eq_bind] at h
        obtain ⟨front, hFront, h⟩ := Option.bind_eq_some_iff.mp h
        obtain ⟨back, hBack, -⟩ := Option.bind_eq_some_iff.mp h
        rw [List.getLast?_eq_some_getLast hSome, Option.getD_some] at hBack
        intro part hPart
        rw [← List.dropLast_concat_getLast hSome] at hPart
        rcases List.mem_append.mp hPart with hFirst | hLast
        · obtain ⟨n, hn⟩ := forall_of_mapM_eq_some hFront part hFirst
          exact forall_mem_of_readGroup hn
        · rw [List.mem_singleton.mp hLast]
          exact forall_mem_of_readDotted hBack

theorem eq_of_cutAtGap {cs front back : List Char} (h : cutAtGap cs = some (front, back)) :
    cs = front ++ ':' :: ':' :: back := by
  fun_induction cutAtGap cs generalizing front back with
  | case1 rest =>
      cases h
      rfl
  | case2 c rest _ ih =>
      obtain ⟨⟨f, b⟩, hCut, hSame⟩ := Option.map_eq_some_iff.mp h
      cases hSame
      rw [ih hCut]
      rfl
  | case3 => cases h

/-- An address of version 6 ends no authority. -/
theorem forall_mem_of_readIpv6 {cs : List Char} (h : (readIpv6 cs).isSome = true) :
    ∀ c ∈ cs, isInside c = true := by
  unfold readIpv6 at h
  cases hCut : cutAtGap cs with
  | none =>
      rw [hCut] at h
      simp only at h
      cases hGroups : readGroups cs with
      | none =>
          rw [hGroups] at h
          cases h
      | some groups => exact forall_mem_of_readGroups hGroups
  | some cut =>
      obtain ⟨front, back⟩ := cut
      rw [hCut] at h
      simp only at h
      rw [eq_of_cutAtGap hCut]
      cases hFront : readGroups front with
      | none =>
          rw [hFront] at h
          cases h
      | some f =>
          cases hBack : readGroups back with
          | none =>
              rw [hFront, hBack] at h
              cases h
          | some b =>
              simp only [List.forall_mem_append, List.forall_mem_cons]
              exact ⟨forall_mem_of_readGroups hFront, by decide, by decide,
                forall_mem_of_readGroups hBack⟩

end Url

/-! ## Authorities -/

namespace Http

open Tollgate.Text Tollgate.Url

theorem isInside_of_isHostChar {c : Char} (h : isHostChar c = true) : isInside c = true :=
  isInside_of (p := isHostChar) (by decide) (by decide) (by decide) h

theorem forall_mem_of_isFutureAddress {cs : List Char} (h : isFutureAddress cs = true) :
    ∀ c ∈ cs, isInside c = true := by
  unfold isFutureAddress at h
  split at h
  · rename_i rest
    simp only [Bool.and_eq_true] at h
    obtain ⟨⟨⟨-, hDot⟩, -⟩, hAddress⟩ := h
    -- behind the letter stand hexadecimal digits, a dot, and the address
    have hHex : ∀ c ∈ rest.takeWhile isHexDigit, isInside c = true := fun c hMem =>
      isInside_of_isHexDigit (List.all_eq_true.mp List.all_takeWhile c hMem)
    refine List.forall_mem_cons.mpr ⟨by decide, ?_⟩
    rw [← List.takeWhile_append_dropWhile (p := isHexDigit) (l := rest)]
    refine List.forall_mem_append.mpr ⟨hHex, ?_⟩
    cases hDrop : rest.dropWhile isHexDigit with
    | nil => exact fun c hMem => by cases hMem
    | cons d address =>
        rw [hDrop] at hDot hAddress
        have hd : d = '.' := by simpa using hDot
        rw [hd]
        refine List.forall_mem_cons.mpr ⟨by decide, fun c hMem => ?_⟩
        have hc := List.all_eq_true.mp hAddress c hMem
        exact isInside_of (p := fun c => (isHostChar c && c != '%') || c == ':')
          (by decide) (by decide) (by decide) hc
  · cases h

theorem forall_mem_of_isHost {cs : List Char} (h : isHost cs = true) :
    ∀ c ∈ cs, isInside c = true := by
  unfold isHost at h
  split at h
  · rename_i rest
    rw [Bool.and_eq_true, Bool.or_eq_true] at h
    obtain ⟨hClose, hAddress⟩ := h
    have hLast : rest.getLast? = some ']' := by simpa using hClose
    have hInner : ∀ c ∈ rest.dropLast, isInside c = true :=
      hAddress.elim forall_mem_of_readIpv6 forall_mem_of_isFutureAddress
    obtain ⟨inner, rfl⟩ := List.getLast?_eq_some_iff.mp hLast
    rw [List.dropLast_concat] at hInner
    refine List.forall_mem_cons.mpr ⟨by decide, List.forall_mem_append.mpr ⟨hInner, ?_⟩⟩
    exact List.forall_mem_singleton.mpr (by decide)
  · rw [Bool.and_eq_true] at h
    exact fun c hMem => isInside_of_isHostChar (List.all_eq_true.mp h.2 c hMem)

theorem forall_mem_of_isPort {cs : List Char} (h : isPort cs = true) :
    ∀ c ∈ cs, isInside c = true := by
  unfold isPort at h
  split at h
  · rename_i digits
    simp only [Bool.and_eq_true] at h
    refine List.forall_mem_cons.mpr ⟨by decide, fun c hMem => ?_⟩
    exact isInside_of_isDigit (List.all_eq_true.mp h.1.2 c hMem)
  · cases h

/-- A valid authority holds none of the characters that would end it. -/
theorem forall_mem_of_isAuthority {cs : List Char} (h : isAuthority cs = true) :
    ∀ c ∈ cs, isInside c = true := by
  unfold isAuthority at h
  simp only at h
  generalize hHost : (if cs.head? == some '[' then
    cs.takeWhile (· != ']') ++ (cs.dropWhile (· != ']')).take 1
    else cs.takeWhile (· != ':')) = host at h
  have hPrefix : host <+: cs := by
    rw [← hHost]
    split
    · refine ⟨(cs.dropWhile (· != ']')).drop 1, ?_⟩
      rw [List.append_assoc, List.take_append_drop, List.takeWhile_append_dropWhile]
    · exact List.takeWhile_prefix _
  obtain ⟨port, hSplit⟩ := hPrefix
  have hPort : cs.drop host.length = port := by rw [← hSplit, List.drop_left]
  rw [hPort, Bool.and_eq_true, Bool.or_eq_true, List.isEmpty_iff] at h
  rw [← hSplit]
  refine List.forall_mem_append.mpr ⟨forall_mem_of_isHost h.1, ?_⟩
  rcases h.2 with rfl | hDigits
  · exact fun c hMem => by cases hMem
  · exact forall_mem_of_isPort hDigits

end Http

end Tollgate
