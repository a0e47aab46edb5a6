import Tollgate.Proofs.Reading

set_option autoImplicit false

/-! # Entries of a refusal

A refusal lists an entry for each requirement that may be met. The entry has the fields of the
requirement under their names in camel case, and what is null at the top is left out: a schema that
is null, and details that there are none of. Nulls further down stay (`Requirement.Shows`). Only
where a configuration holds a record that was built already, this leaves out its own null members
(`Value.sparse`).
-/

namespace Tollgate

/-! ## Values without records -/

namespace Json

open Tollgate.Text

namespace Value

mutual

/-- No record stands in a value. -/
def IsBare : Value → Prop
  | .array items => ItemsBare items
  | .object members => MembersBare members
  | .record .. => False
  | _ => True

/-- No record stands in some items. -/
def ItemsBare : List Value → Prop
  | [] => True
  | item :: rest => IsBare item ∧ ItemsBare rest

/-- No record stands in some members. -/
def MembersBare : List (LooseText × Value) → Prop
  | [] => True
  | (_, value) :: rest => IsBare value ∧ MembersBare rest

end

mutual

/-- Without records, nothing is left out. -/
theorem IsBare.sparse_eq : ∀ {v : Value}, v.IsBare → v.sparse = v
  | .array items, h => congrArg Value.array (sparseItems_eq items h)
  | .object members, h => congrArg Value.object (sparseMembers_eq members h)
  | .null, _ | .bool _, _ | .int _, _ | .float _, _ | .text _, _ | .broken _, _ => rfl

theorem sparseItems_eq : ∀ items : List Value, ItemsBare items → sparseItems items = items
  | [], _ => rfl
  | item :: items, h => by
      rw [sparseItems, IsBare.sparse_eq h.1, sparseItems_eq items h.2]

theorem sparseMembers_eq : ∀ members : Members,
    MembersBare members → sparseMembers members = members
  | [], _ => rfl
  | (name, value) :: members, h => by
      rw [sparseMembers, IsBare.sparse_eq h.1, sparseMembers_eq members h.2]

end

@[simp] theorem sparse_ofLoose (t : LooseText) : (ofLoose t).sparse = ofLoose t := by
  cases t <;> rfl

@[simp] theorem ofLoose_ne_null (t : LooseText) : ofLoose t ≠ .null := by
  cases t <;> simp [ofLoose]

/-- Nothing becomes null by leaving out members. -/
theorem sparse_eq_null_iff {v : Value} : v.sparse = .null ↔ v = .null := by
  cases v <;> simp [sparse]

theorem map_fst_sparseMembers (members : Members) :
    (sparseMembers members).map Prod.fst = members.map Prod.fst := by
  induction members with
  | nil => rfl
  | cons member members ih => rw [sparseMembers, List.map_cons, List.map_cons, ih]

/-- A value stands in an entry as another one: as it is, nulls included, if there is no record in
it, and with its records written without their null members otherwise. -/
structure StandsAs (v shown : Value) : Prop where
  sparse : shown = v.sparse
  bare : v.IsBare → shown = v

theorem standsAs_iff {v shown : Value} : v.StandsAs shown ↔ shown = v.sparse :=
  ⟨StandsAs.sparse, fun h => ⟨h, fun hBare => h.trans hBare.sparse_eq⟩⟩

end Value

/-- The members that are left are those that are not null. -/
theorem Members.get?_dropNulls {members : Members} (hNames : (members.map Prod.fst).Nodup)
    {name : LooseText} {v : Value} :
    members.dropNulls.get? name = some v ↔ (name, v) ∈ members ∧ v ≠ .null := by
  have hLeft : (members.dropNulls.map Prod.fst).Nodup :=
    hNames.sublist (List.filter_sublist.map Prod.fst)
  have hMem : (name, v) ∈ members.dropNulls ↔ (name, v) ∈ members ∧ v ≠ .null := by
    unfold Members.dropNulls
    rw [List.mem_filter]
    cases v <;> simp
  rw [← hMem]
  exact ⟨Members.mem_of_get?, Members.get?_of_mem hLeft⟩

end Json

/-! ## Requirements -/

namespace Payment

open Tollgate.Text Tollgate.Json

namespace Requirement

/-- The names that an entry may have, in their order. -/
def shownNames : List LooseText :=
  ["scheme", "network", "maxAmountRequired", "resource", "description", "mimeType",
    "outputSchema", "payTo", "maxTimeoutSeconds", "asset", "extra"]

/-- The members of an entry show a requirement. Of its fields, only a schema that is null and
details that there are none of are missing. -/
structure Shows (r : Requirement) (entry : Members) : Prop where
  names : (entry.map Prod.fst).Sublist shownNames
  scheme : entry.get? "scheme" = some (.ofLoose r.scheme)
  network : entry.get? "network" = some (.text r.network.name)
  amount : entry.get? "maxAmountRequired" = some (.text r.maxAmountRequired)
  resource : entry.get? "resource" = some (.ofLoose r.resource)
  description : entry.get? "description" = some (.ofLoose r.description)
  mimeType : entry.get? "mimeType" = some (.ofLoose r.mimeType)
  outputSchema : ∀ v, entry.get? "outputSchema" = some v ↔
    r.outputSchema ≠ .null ∧ r.outputSchema.StandsAs v
  payTo : entry.get? "payTo" = some (.ofLoose r.payTo)
  time : entry.get? "maxTimeoutSeconds" = some (.int r.maxTimeoutSeconds)
  asset : entry.get? "asset" = some (.ofLoose r.asset)
  extra : ∀ v, entry.get? "extra" = some v ↔
    ∃ details, r.extra = some details ∧ (Value.object details).StandsAs v

theorem map_fst_sparseMembers (r : Requirement) :
    (Value.sparseMembers r.members).map Prod.fst = shownNames :=
  Value.map_fst_sparseMembers r.members

theorem nodup_shownNames : shownNames.Nodup := by
  decide

/-- The members of the entry of a requirement. -/
def entry (r : Requirement) : Members :=
  Members.dropNulls (Value.sparseMembers r.members)

/-- A member of an entry is one of the requirement that is not null. -/
theorem get?_entry {r : Requirement} {name : LooseText} {v : Value} :
    r.entry.get? name = some v ↔ (name, v) ∈ Value.sparseMembers r.members ∧ v ≠ .null := by
  refine Members.get?_dropNulls ?_
  rw [map_fst_sparseMembers]
  exact nodup_shownNames

theorem get?_entry_outputSchema {r : Requirement} {v : Value} :
    r.entry.get? "outputSchema" = some v ↔
      r.outputSchema ≠ .null ∧ r.outputSchema.StandsAs v := by
  have hMem : (("outputSchema" : LooseText), v) ∈ Value.sparseMembers r.members ↔
      v = r.outputSchema.sparse := by
    simp [members, Value.sparseMembers]
  rw [get?_entry, hMem, Value.standsAs_iff]
  -- a schema is null in the entry just if it is null in the requirement
  constructor
  · rintro ⟨rfl, hv⟩
    exact ⟨mt Value.sparse_eq_null_iff.mpr hv, rfl⟩
  · rintro ⟨hSchema, rfl⟩
    exact ⟨rfl, mt Value.sparse_eq_null_iff.mp hSchema⟩

theorem get?_entry_extra {r : Requirement} {v : Value} : r.entry.get? "extra" = some v ↔
    ∃ details, r.extra = some details ∧ (Value.object details).StandsAs v := by
  have hMem : (("extra" : LooseText), v) ∈ Value.sparseMembers r.members ↔
      v = (Value.orNull (r.extra.map .object)).sparse := by
    simp [members, Value.sparseMembers]
  rw [get?_entry, hMem]
  simp only [Value.standsAs_iff]
  cases r.extra with
  | none => simp [Value.orNull, Value.sparse]
  | some details =>
      constructor
      · rintro ⟨rfl, -⟩
        exact ⟨details, rfl, rfl⟩
      · rintro ⟨_, hDetails, rfl⟩
        cases hDetails
        exact ⟨rfl, by simp [Value.sparse]⟩

/-- **A requirement is shown by its entry.** -/
theorem shows_entry (r : Requirement) : r.Shows r.entry where
  names := by
    rw [← map_fst_sparseMembers r]
    exact List.filter_sublist.map Prod.fst
  scheme := get?_entry.mpr (by simp [members, Value.sparseMembers])
  network := get?_entry.mpr (by simp [members, Value.sparseMembers, Value.sparse])
  amount := get?_entry.mpr (by simp [members, Value.sparseMembers, Value.sparse])
  resource := get?_entry.mpr (by simp [members, Value.sparseMembers])
  description := get?_entry.mpr (by simp [members, Value.sparseMembers])
  mimeType := get?_entry.mpr (by simp [members, Value.sparseMembers])
  outputSchema := fun _ => get?_entry_outputSchema
  payTo := get?_entry.mpr (by simp [members, Value.sparseMembers])
  time := get?_entry.mpr (by simp [members, Value.sparseMembers, Value.sparse])
  asset := get?_entry.mpr (by simp [members, Value.sparseMembers])
  extra := fun _ => get?_entry_extra

/-- Requirements are shown by their entries, one by one. -/
theorem exists_entries (rs : List Requirement) : ∃ entries : List Members,
    rs.map toSparseValue = entries.map .object ∧ List.Forall₂ Shows rs entries := by
  refine ⟨rs.map entry, (List.map_map).symm, ?_⟩
  rw [List.forall₂_map_right_iff, List.forall₂_same]
  exact fun r _ => shows_entry r

end Requirement

end Payment

end Tollgate
