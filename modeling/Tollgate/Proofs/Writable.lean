import Tollgate.Proofs.Legible

set_option autoImplicit false

/-! # Values that are not refused

The compact style refuses numbers that JSON does not have, integers that are too long, and
surrogates, in texts as well as in names; and no style opens more containers one inside the other
than there is room for. `refusal?_eq_none_iff` says so of whole values: what is not refused is what
is made of writable parts and is not nested too deeply. A value that is not refused is read back
from its text (`exists_write`).
-/

namespace Tollgate.Json

open Tollgate.Number Tollgate.Text

namespace Value

mutual

/-- The numbers of a value are finite and not too long, and its texts hold no surrogates. -/
def IsWritable : Value → Prop
  | .int n => isOverlong n = false
  | .float x => x.isFinite = true
  | .broken points => ∀ n ∈ points, isSurrogate n = false
  | .array items => ItemsWritable items
  | .object members => MembersWritable members
  | .record _ _ members => MembersWritable members
  | _ => True

/-- All of some items are writable. -/
def ItemsWritable : List Value → Prop
  | [] => True
  | item :: rest => IsWritable item ∧ ItemsWritable rest

/-- All of some members are writable, and their names hold no surrogates. -/
def MembersWritable : List (LooseText × Value) → Prop
  | [] => True
  | (name, value) :: rest => name.IsClean ∧ IsWritable value ∧ MembersWritable rest

end

theorem itemsWritable_iff {items : List Value} :
    ItemsWritable items ↔ ∀ item ∈ items, item.IsWritable := by
  induction items with
  | nil => simp [ItemsWritable]
  | cons item items ih => rw [ItemsWritable, ih, List.forall_mem_cons]

theorem membersWritable_iff {members : Members} :
    MembersWritable members ↔ ∀ member ∈ members, member.1.IsClean ∧ member.2.IsWritable := by
  induction members with
  | nil => simp [MembersWritable]
  | cons member members ih => rw [MembersWritable, ih, List.forall_mem_cons, and_assoc]

theorem isWritable_ofLoose {t : LooseText} : (ofLoose t).IsWritable ↔ t.IsClean := by
  cases t with
  | whole s => exact iff_of_true trivial (LooseText.isClean_whole s)
  | broken points => exact Iff.rfl

/-! ## Members that are left out -/

/-- No member is deeper than all of them. -/
theorem nesting_le_of_mem {members : Members} {m : LooseText × Value} (h : m ∈ members) :
    m.2.nesting ≤ membersNesting members := by
  induction members with
  | nil => cases h
  | cons member members ih =>
      rw [membersNesting]
      rcases List.mem_cons.mp h with rfl | h
      · exact Nat.le_max_left _ _
      · exact Nat.le_trans (ih h) (Nat.le_max_right _ _)

/-- A null member is no deeper than nothing. -/
theorem membersNesting_dropNulls (members : Members) :
    membersNesting members.dropNulls = membersNesting members := by
  induction members with
  | nil => rfl
  | cons member members ih =>
      obtain ⟨name, value⟩ := member
      unfold Members.dropNulls at ih ⊢
      cases value with
      | null => simpa [membersNesting, nesting] using ih
      | _ => simp [membersNesting, ih]

/-- Leaving out null members makes no difference if their names hold no surrogates. -/
theorem membersWritable_dropNulls {members : Members}
    (hNames : ∀ member ∈ members, member.1.IsClean) :
    MembersWritable members.dropNulls ↔ MembersWritable members := by
  rw [membersWritable_iff, membersWritable_iff]
  constructor
  · intro h member hMem
    refine ⟨hNames member hMem, ?_⟩
    obtain ⟨name, value⟩ := member
    cases value with
    | null => trivial
    | _ => exact (h _ (List.mem_filter.mpr ⟨hMem, rfl⟩)).2
  · intro h member hMem
    exact h member (List.mem_filter.mp hMem).1

mutual

/-- Leaving out null members does not make a value less deep. -/
theorem nesting_sparse : ∀ v : Value, v.sparse.nesting = v.nesting
  | .array items => congrArg (· + 1) (itemsNesting_sparse items)
  | .object members => congrArg (· + 1) (membersNesting_sparse members)
  | .record _ _ members =>
      congrArg (· + 1) ((membersNesting_dropNulls _).trans (membersNesting_sparse members))
  | .null | .bool _ | .int _ | .float _ | .text _ | .broken _ => rfl

theorem itemsNesting_sparse : ∀ items : List Value,
    itemsNesting (sparseItems items) = itemsNesting items
  | [] => rfl
  | item :: items => by
      rw [sparseItems, itemsNesting, itemsNesting, nesting_sparse item, itemsNesting_sparse items]

theorem membersNesting_sparse : ∀ members : Members,
    membersNesting (sparseMembers members) = membersNesting members
  | [] => rfl
  | (_, value) :: members => by
      rw [sparseMembers, membersNesting, membersNesting, nesting_sparse value,
        membersNesting_sparse members]

end

mutual

/-- What is writable stays so when null members are left out. -/
theorem IsWritable.sparse : ∀ {v : Value}, v.IsWritable → v.sparse.IsWritable
  | .array items, h => itemsWritable_sparse items h
  | .object members, h => membersWritable_sparse members h
  | .record _ _ members, h => by
      have hLeft := membersWritable_sparse members h
      have hNames := fun member hMem => (membersWritable_iff.mp hLeft member hMem).1
      exact (membersWritable_dropNulls hNames).mpr hLeft
  | .null, _ | .bool _, _ | .text _, _ => trivial
  | .int _, h | .float _, h | .broken _, h => h

theorem itemsWritable_sparse : ∀ items : List Value,
    ItemsWritable items → ItemsWritable (sparseItems items)
  | [], _ => trivial
  | _ :: items, h => ⟨IsWritable.sparse h.1, itemsWritable_sparse items h.2⟩

theorem membersWritable_sparse : ∀ members : Members,
    MembersWritable members → MembersWritable (sparseMembers members)
  | [], _ => trivial
  | _ :: members, h => ⟨h.1, IsWritable.sparse h.2.1, membersWritable_sparse members h.2.2⟩

end

/-! ## Legibility -/

mutual

/-- What is writable can be read. -/
theorem IsWritable.isLegible {digits : Nat} (hDigits : digitLimit ≤ digits) : ∀ {v : Value},
    v.IsWritable → v.IsLegible digits
  | .int _, h => Nat.le_trans (isOverlong_eq_false_iff_digitCount.mp h) hDigits
  | .broken _, h => h
  | .array items, h => itemsLegible_of_itemsWritable hDigits items h
  | .object members, h => membersLegible_of_membersWritable hDigits members h
  | .record _ _ members, h => membersLegible_of_membersWritable hDigits members h
  | .null, _ | .bool _, _ | .float _, _ | .text _, _ => trivial

theorem itemsLegible_of_itemsWritable {digits : Nat} (hDigits : digitLimit ≤ digits) :
    ∀ items : List Value, ItemsWritable items → ItemsLegible digits items
  | [], _ => trivial
  | _ :: items, h =>
      ⟨IsWritable.isLegible hDigits h.1, itemsLegible_of_itemsWritable hDigits items h.2⟩

theorem membersLegible_of_membersWritable {digits : Nat} (hDigits : digitLimit ≤ digits) :
    ∀ members : Members, MembersWritable members → MembersLegible digits members
  | [], _ => trivial
  | _ :: members, h =>
      ⟨h.1, IsWritable.isLegible hDigits h.2.1,
        membersLegible_of_membersWritable hDigits members h.2.2⟩

end

end Value

/-! ## Surrogates -/

theorem drop_takeWhile_eq_nil_iff {p : Nat → Bool} {ns : List Nat} :
    ns.drop (ns.takeWhile p).length = [] ↔ ∀ n ∈ ns, p n = true := by
  induction ns with
  | nil => simp
  | cons n ns ih =>
      rw [List.forall_mem_cons]
      by_cases hn : p n = true
      · rw [List.takeWhile_cons_of_pos hn, List.length_cons, List.drop_succ_cons, ih]
        simp [hn]
      · rw [List.takeWhile_cons_of_neg hn]
        simp [hn]

/-- There is a run of surrogates unless there are none. -/
theorem runFault?_eq_none_iff {spell : Nat → List Char} {points : List Nat} :
    runFault? spell points = none ↔ ∀ n ∈ points, isSurrogate n = false := by
  have hClean : (∀ n ∈ points, isSurrogate n = false) ↔
      ∀ n ∈ points, (!isSurrogate n) = true := by
    simp only [Bool.not_eq_true']
  rw [hClean, ← drop_takeWhile_eq_nil_iff]
  unfold runFault?
  simp only
  split
  · rename_i hNone
    exact iff_of_true rfl hNone
  · rename_i hSome
    rw [hSome]
    exact iff_of_false (by simp) (by simp)

theorem looseFault?_eq_none_iff {style : Style} {t : LooseText} :
    looseFault? style t = none ↔ t.IsClean := by
  cases t with
  | whole s => exact iff_of_true rfl (LooseText.isClean_whole s)
  | broken points =>
      unfold looseFault?
      rw [Option.map_eq_none_iff]
      exact runFault?_eq_none_iff

mutual

theorem surrogateFault?_of_isWritable (style : Style) : ∀ {v : Value}, v.IsWritable →
    surrogateFault? style v = none
  | .broken points, h => looseFault?_eq_none_iff (t := .broken points).mpr h
  | .array items, h => by
      rw [surrogateFault?, itemsSurrogateFault?_of_itemsWritable style items h, Option.map_none]
  | .object members, h => by
      rw [surrogateFault?, membersSurrogateFault?_of_membersWritable style members h,
        Option.map_none]
  | .record _ _ members, h => by
      rw [surrogateFault?, membersSurrogateFault?_of_membersWritable style members h,
        Option.map_none]
  | .null, _ | .bool _, _ | .int _, _ | .float _, _ | .text _, _ => rfl

theorem itemsSurrogateFault?_of_itemsWritable (style : Style) : ∀ items : List Value,
    Value.ItemsWritable items → itemsSurrogateFault? style items = none
  | [], _ => rfl
  | item :: items, h => by
      simp only [itemsSurrogateFault?, surrogateFault?_of_isWritable style h.1,
        itemsSurrogateFault?_of_itemsWritable style items h.2, Option.map_none]

theorem membersSurrogateFault?_of_membersWritable (style : Style) : ∀ members : Members,
    Value.MembersWritable members → membersSurrogateFault? style members = none
  | [], _ => rfl
  | (name, value) :: members, h => by
      simp only [membersSurrogateFault?, looseFault?_eq_none_iff.mpr h.1,
        surrogateFault?_of_isWritable style h.2.1,
        membersSurrogateFault?_of_membersWritable style members h.2.2, Option.map_none]

end

/-! ## Numbers and containers -/

/-- Of two parts the first that is refused counts, here where both lack nothing but room. -/
theorem or_tooDeep {m n depth : Nat} :
    ((if m ≤ depth then none else some WriteFault.tooDeep).or
        (if n ≤ depth then none else some WriteFault.tooDeep)) =
      if max m n ≤ depth then none else some WriteFault.tooDeep := by
  by_cases hm : m ≤ depth
  · simp only [Nat.max_le, hm, if_true, true_and, Option.none_or]
  · simp only [Nat.max_le, hm, if_false, false_and, Option.some_or]

mutual

/-- Of what is writable, no style refuses anything but containers for which there is no room. -/
theorem partFault?_of_isWritable (style : Style) : ∀ {v : Value} {depth : Nat}, v.IsWritable →
    partFault? style depth v = if v.nesting ≤ depth then none else some .tooDeep
  | .int n, depth, h => by
      simp [partFault?, Value.nesting, show isOverlong n = false from h]
  | .float x, depth, h => by
      simp [partFault?, Value.nesting, show x.isFinite = true from h]
  | .array items, 0, _ | .object members, 0, _ | .record _ _ members, 0, _ => by
      simp [partFault?, Value.nesting]
  | .array items, depth + 1, h => by
      simp [partFault?, Value.nesting, itemsPartFault?_of_itemsWritable style items h]
  | .object members, depth + 1, h => by
      simp [partFault?, Value.nesting, membersPartFault?_of_membersWritable style members h]
  | .record _ _ members, depth + 1, h => by
      simp [partFault?, Value.nesting, membersPartFault?_of_membersWritable style members h]
  | .null, _, _ | .bool _, _, _ | .text _, _, _ | .broken _, _, _ => by
      simp [partFault?, Value.nesting]

theorem itemsPartFault?_of_itemsWritable (style : Style) : ∀ (items : List Value) {depth : Nat},
    Value.ItemsWritable items → itemsPartFault? style depth items =
      if Value.itemsNesting items ≤ depth then none else some .tooDeep
  | [], depth, _ => (if_pos (Nat.zero_le depth)).symm
  | item :: items, depth, h => by
      rw [itemsPartFault?, partFault?_of_isWritable style h.1,
        itemsPartFault?_of_itemsWritable style items h.2, or_tooDeep, Value.itemsNesting]

theorem membersPartFault?_of_membersWritable (style : Style) : ∀ (members : Members) {depth : Nat},
    Value.MembersWritable members → membersPartFault? style depth members =
      if Value.membersNesting members ≤ depth then none else some .tooDeep
  | [], depth, _ => (if_pos (Nat.zero_le depth)).symm
  | (name, value) :: members, depth, h => by
      rw [membersPartFault?, partFault?_of_isWritable style h.2.1,
        membersPartFault?_of_membersWritable style members h.2.2, or_tooDeep,
        Value.membersNesting]

end

/-- Where all members that are refused are refused for one reason, this is the reason. -/
theorem membersPartFault?_eq {style : Style} {depth : Nat} {members : Members} {f : WriteFault}
    (hAll : ∀ m ∈ members,
      partFault? style depth m.2 = none ∨ partFault? style depth m.2 = some f)
    (hSome : ∃ m ∈ members, partFault? style depth m.2 = some f) :
    membersPartFault? style depth members = some f := by
  induction members with
  | nil =>
      obtain ⟨m, hMem, -⟩ := hSome
      cases hMem
  | cons m members ih =>
      rw [membersPartFault?]
      rcases hAll m List.mem_cons_self with hNone | hFault
      · -- the first member is passed over, so the refused one is among the others
        rw [hNone, Option.none_or]
        refine ih (fun m' hMem => hAll m' (List.mem_cons_of_mem _ hMem)) ?_
        obtain ⟨m', hMem, hFault⟩ := hSome
        rcases List.mem_cons.mp hMem with rfl | hMem
        · rw [hNone] at hFault
          cases hFault
        · exact ⟨m', hMem, hFault⟩
      · rw [hFault, Option.some_or]

/-- A member that is refused is a reason to refuse them all. -/
theorem membersPartFault?_ne_none {style : Style} {depth : Nat} {members : Members}
    {m : LooseText × Value} (hMem : m ∈ members) (h : partFault? style depth m.2 ≠ none) :
    membersPartFault? style depth members ≠ none := by
  induction members with
  | nil => cases hMem
  | cons m' members ih =>
      rw [membersPartFault?, Ne, Option.or_eq_none_iff]
      rcases List.mem_cons.mp hMem with rfl | hMem
      · exact fun hNone => h hNone.1
      · exact fun hNone => ih hMem hNone.2

/-! ## What is refused -/

/-- A value with numbers and room is written if its texts hold no surrogates. -/
theorem refusal?_of_isWritable (style : Style) {v : Value} {depth : Nat} (h : v.IsWritable) :
    refusal? depth style v = if v.nesting ≤ depth then none else some .tooDeep := by
  unfold refusal?
  rw [partFault?_of_isWritable style h, surrogateFault?_of_isWritable style h]
  by_cases hRoom : v.nesting ≤ depth
  · simp [hRoom]
  · simp [hRoom]

mutual

/-- The compact style takes writable parts only. -/
theorem isWritable_of_faults : ∀ (v : Value) (depth : Nat),
    partFault? .compact depth v = none → surrogateFault? .compact v = none → v.IsWritable
  | .null, _ | .bool _, _ | .text _, _ => fun _ _ => trivial
  | .int n, depth => fun hPart _ => by
      have hShort : ¬ (isOverlong n && !Style.compact.writesOverlong) = true := fun hLong => by
        rw [partFault?, if_pos hLong] at hPart
        cases hPart
      simpa [Style.compact, Value.IsWritable] using hShort
  | .float x, depth => fun hPart _ => by
      have hFinite : (x.isFinite || Style.compact.writesNonFinite) = true := by
        by_cases h : (x.isFinite || Style.compact.writesNonFinite) = true
        · exact h
        · rw [partFault?, if_neg h] at hPart
          cases hPart
      simpa [Style.compact, Value.IsWritable] using hFinite
  | .broken points, _ => fun _ hText => looseFault?_eq_none_iff (t := .broken points).mp hText
  -- without room a container is refused, whatever is in it
  | .array _, 0 | .object _, 0 | .record .., 0 => fun hPart => by cases hPart
  | .array items, depth + 1 => fun hPart hText =>
      itemsWritable_of_faults items depth hPart (Option.map_eq_none_iff.mp hText)
  | .object members, depth + 1 => fun hPart hText =>
      membersWritable_of_faults members depth hPart (Option.map_eq_none_iff.mp hText)
  | .record _ _ members, depth + 1 => fun hPart hText =>
      membersWritable_of_faults members depth hPart (Option.map_eq_none_iff.mp hText)

theorem itemsWritable_of_faults : ∀ (items : List Value) (depth : Nat),
    itemsPartFault? .compact depth items = none →
      itemsSurrogateFault? .compact items = none → Value.ItemsWritable items
  | [], _ => fun _ _ => trivial
  | item :: items, depth => fun hPart hText => by
      obtain ⟨hItem, hItems⟩ := Option.or_eq_none_iff.mp hPart
      unfold itemsSurrogateFault? at hText
      split at hText
      · cases hText
      · rename_i hClean
        exact ⟨isWritable_of_faults item depth hItem hClean,
          itemsWritable_of_faults items depth hItems (Option.map_eq_none_iff.mp hText)⟩

theorem membersWritable_of_faults : ∀ (members : Members) (depth : Nat),
    membersPartFault? .compact depth members = none →
      membersSurrogateFault? .compact members = none → Value.MembersWritable members
  | [], _ => fun _ _ => trivial
  | (name, value) :: members, depth => fun hPart hText => by
      obtain ⟨hValue, hMembers⟩ := Option.or_eq_none_iff.mp hPart
      unfold membersSurrogateFault? at hText
      simp only at hText
      split at hText
      · cases hText
      · cases hText
      · rename_i hName hClean
        exact ⟨looseFault?_eq_none_iff.mp hName, isWritable_of_faults value depth hValue hClean,
          membersWritable_of_faults members depth hMembers (Option.map_eq_none_iff.mp hText)⟩

end

/-- **The compact style refuses just what is not writable** and what there is no room for. -/
theorem refusal?_eq_none_iff {v : Value} {depth : Nat} :
    refusal? depth .compact v = none ↔ v.IsWritable ∧ v.nesting ≤ depth := by
  constructor
  · intro h
    have hParts : partFault? .compact depth v = none ∧ surrogateFault? .compact v = none := by
      unfold refusal? at h
      split at h
      · cases h
      · rename_i hPart
        exact ⟨hPart, h⟩
    -- what is writable is refused for its depth alone, and here it is not refused
    have hWritable := isWritable_of_faults v depth hParts.1 hParts.2
    rw [refusal?_of_isWritable .compact hWritable] at h
    refine ⟨hWritable, Nat.le_of_not_lt fun hDeep => ?_⟩
    rw [if_neg (Nat.not_le_of_lt hDeep)] at h
    cases h
  · rintro ⟨hWritable, hRoom⟩
    rw [refusal?_of_isWritable .compact hWritable, if_pos hRoom]

/-- In every style a writable value for which there is room is written, and read back from its
text. -/
theorem exists_write {style : Style} (hs : style.IsLegible) {v : Value} {depth : Nat}
    (h : v.IsWritable) (hRoom : v.nesting ≤ depth) :
    ∃ text, write depth style v = .ok text ∧ ∀ limits : Limits, v.nesting ≤ limits.depth →
      digitLimit ≤ limits.digits → read limits text = .ok v.reread := by
  refine ⟨String.ofList (textOf style v), ?_, ?_⟩
  · unfold write
    rw [refusal?_of_isWritable style h, if_pos hRoom]
  · intro limits hDepth hDigits
    exact read_textOf hs (Value.IsWritable.isLegible hDigits h) hDepth

/-- What is not writable, or has no room, is refused. -/
theorem exists_fault {v : Value} {depth : Nat} (h : ¬ (v.IsWritable ∧ v.nesting ≤ depth)) :
    ∃ fault, write depth .compact v = .error fault := by
  unfold write
  cases hRefusal : refusal? depth .compact v with
  | none => exact absurd (refusal?_eq_none_iff.mp hRefusal) h
  | some fault => exact ⟨fault, rfl⟩

end Tollgate.Json
