import Tollgate.Proofs.CatchAll
import Tollgate.Proofs.Template

set_option autoImplicit false

/-! # Spellings of routes

Routes can be written in several ways. A bare amount of money is short for a configuration, a table
with a row `price` is one configuration for all routes, and each field of the details has a name in
snake and one in camel case. What is read through a field depends on the value that is found there
and not on the spelling that finds it, as long as the members give the field once at most
(`FieldName.member?_eq_head?`, `required_congr`, `optional_congr`), and the members that no field
takes stay the same (`Details.extrasOf_eq`). So routes of which one is the other in another spelling
compile to the same patterns, and the same gates are built for them (`compile_spellings`).
-/

namespace Tollgate

/-! ## Fields -/

namespace Schema

open Tollgate.Text Tollgate.Json

variable {α : Type} {field : FieldName} {members members' : Members}

/-- A name is one of the spellings of a field. -/
def FieldName.Spells (field : FieldName) (name : LooseText) : Prop :=
  name = field.snake ∨ name = field.camel

instance (field : FieldName) (name : LooseText) : Decidable (field.Spells name) :=
  inferInstanceAs (Decidable (name = field.snake ∨ name = field.camel))

/-- The members that give a field, in either spelling. -/
def FieldName.given (field : FieldName) (members : Members) : Members :=
  members.filter (fun m => field.Spells m.1)

/-- The member that a field finds. -/
def FieldName.member? (field : FieldName) (members : Members) : Option (LooseText × Value) :=
  (field.find? members).map (fun (spelling, v) => (.whole spelling, v))

/-- What a field finds is one of the members that give it. -/
theorem FieldName.mem_given_of_member? {m : LooseText × Value}
    (h : field.member? members = some m) : m ∈ field.given members := by
  have hGiven : ∀ {name v}, field.Spells name → members.get? name = some v →
      (name, v) ∈ field.given members := fun hSpells hGet =>
    List.mem_filter.mpr ⟨Members.mem_of_get? hGet, decide_eq_true hSpells⟩
  obtain ⟨found, hFound, rfl⟩ := Option.map_eq_some_iff.mp h
  unfold FieldName.find? at hFound
  split at hFound
  · rename_i v hCamel
    cases hFound
    exact hGiven (Or.inr rfl) hCamel
  · obtain ⟨v, hSnake, rfl⟩ := Option.map_eq_some_iff.mp hFound
    exact hGiven (Or.inl rfl) hSnake

theorem FieldName.given_eq_nil_of_member? (h : field.member? members = none) :
    field.given members = [] := by
  have hFound := Option.map_eq_none_iff.mp h
  unfold FieldName.find? at hFound
  split at hFound
  · cases hFound
  · rename_i hCamel
    have hSnake := Option.map_eq_none_iff.mp hFound
    refine List.filter_eq_nil_iff.mpr fun m hMem hSpells => ?_
    rcases of_decide_eq_true hSpells with hName | hName
    · exact Members.get?_eq_none_iff.mp hSnake m hMem hName
    · exact Members.get?_eq_none_iff.mp hCamel m hMem hName

theorem head?_eq_some_of_mem {x : α} {xs : List α} (hOne : xs.length ≤ 1) (h : x ∈ xs) :
    xs.head? = some x := by
  match xs, hOne, h with
  | [y], _, h => rw [List.mem_singleton.mp h, List.head?_cons]

/-- A field that is given once at most finds the member that gives it. -/
theorem FieldName.member?_eq_head? (h : (field.given members).length ≤ 1) :
    field.member? members = (field.given members).head? := by
  cases hFound : field.member? members with
  | none => rw [FieldName.given_eq_nil_of_member? hFound, List.head?_nil]
  | some m => rw [head?_eq_some_of_mem h (FieldName.mem_given_of_member? hFound)]

/-- The value that a field finds. -/
def FieldName.value? (field : FieldName) (members : Members) : Option Value :=
  (field.find? members).map Prod.snd

theorem FieldName.value?_eq_member? : field.value? members =
    (field.member? members).map Prod.snd := by
  unfold FieldName.value? FieldName.member?
  rw [Option.map_map]
  rfl

/-- A reader yields the same for two values, if it yields anything. The faults that it finds may
differ. -/
def ReadsAlike (read : Value → Validated α) (v v' : Value) : Prop :=
  ∀ a, read v = .valid a ↔ read v' = .valid a

variable {read : Value → Validated α} {a : α}

theorem required_iff_value? : required members field read = .valid a ↔
    (field.value? members).elim False (fun v => read v = .valid a) := by
  unfold required FieldName.value?
  cases field.find? members with
  | none => simp [Validated.fault, Validated.under]
  | some m => exact Validated.under_eq_valid_iff

theorem optional_iff_value? {default : α} : optional members field default read = .valid a ↔
    (field.value? members).elim (default = a) (fun v => read v = .valid a) := by
  unfold optional FieldName.value?
  cases field.find? members with
  | none => exact Validated.valid.injEq default a ▸ Iff.rfl
  | some m => exact Validated.under_eq_valid_iff

theorem elim_congr {found found' : Option Value} (h : Option.Rel (ReadsAlike read) found found')
    (absent : Prop) : found.elim absent (fun v => read v = .valid a) ↔
      found'.elim absent (fun v => read v = .valid a) := by
  cases h with
  | none => exact Iff.rfl
  | some hAlike => exact hAlike a

theorem required_congr
    (h : Option.Rel (ReadsAlike read) (field.value? members) (field.value? members')) :
    required members field read = .valid a ↔ required members' field read = .valid a := by
  rw [required_iff_value?, required_iff_value?, elim_congr h]

theorem optional_congr {default : α}
    (h : Option.Rel (ReadsAlike read) (field.value? members) (field.value? members')) :
    optional members field default read = .valid a ↔
      optional members' field default read = .valid a := by
  rw [optional_iff_value?, optional_iff_value?, elim_congr h]

/-- Members under the same names, with values that a reader cannot tell apart where it counts. -/
theorem value?_same {name : String} (h : List.Forall₂
      (fun m m' => m.1 = m'.1 ∧ (m.1 = .whole name → ReadsAlike read m.2 m'.2)) members members') :
    Option.Rel (ReadsAlike read) ((FieldName.same name).value? members)
      ((FieldName.same name).value? members') := by
  have hGet : ∀ ms : Members, (FieldName.same name).value? ms = ms.get? name := by
    intro ms
    unfold FieldName.value? FieldName.find? FieldName.same
    cases ms.get? name <;> rfl
  rw [hGet, hGet]
  induction h with
  | nil => exact .none
  | @cons m m' rest rest' hHead _ ih =>
      obtain ⟨n, v⟩ := m
      obtain ⟨n', v'⟩ := m'
      obtain ⟨rfl, hAlike⟩ : n = n' ∧ (n = .whole name → ReadsAlike read v v') := hHead
      simp only [Members.get?, List.lookup_cons] at ih ⊢
      by_cases hName : .whole name = n
      · rw [beq_iff_eq.mpr hName]
        exact .some (hAlike hName.symm)
      · rw [beq_false_of_ne hName]
        exact ih

end Schema

/-! ## Details -/

namespace Route

open Tollgate.Text Tollgate.Json Tollgate.Schema Tollgate.Chain Tollgate.Payment Tollgate.Gate

namespace Details

variable {members members' : Members}

/-- No two fields share a spelling. -/
theorem eq_of_spells {field field' : FieldName} (hField : field ∈ fieldNames)
    (hField' : field' ∈ fieldNames) {name : LooseText} (h : field.Spells name)
    (h' : field'.Spells name) : field = field' := by
  have hAll : ∀ field ∈ fieldNames, ∀ field' ∈ fieldNames,
      (field'.Spells field.snake ∨ field'.Spells field.camel) → field = field' := by
    decide
  refine hAll field hField field' hField' ?_
  rcases h with rfl | rfl
  · exact Or.inl h'
  · exact Or.inr h'

/-- Two members of which one is the other, perhaps with the other spelling of its field. -/
def SameMember (m m' : LooseText × Value) : Prop :=
  m.2 = m'.2 ∧ (m.1 = m'.1 ∨ ∃ field ∈ fieldNames, field.Spells m.1 ∧ field.Spells m'.1)

/-- Members that give no field more than once. -/
def GivesOnce (members : Members) : Prop :=
  ∀ field ∈ fieldNames, (field.given members).length ≤ 1

instance (members : Members) : Decidable (GivesOnce members) :=
  inferInstanceAs (Decidable (∀ field ∈ fieldNames, (field.given members).length ≤ 1))

theorem SameMember.spells_iff {m m' : LooseText × Value} (h : SameMember m m') {field : FieldName}
    (hField : field ∈ fieldNames) : field.Spells m.1 ↔ field.Spells m'.1 := by
  obtain ⟨-, hName | ⟨other, hOther, hSpells, hSpells'⟩⟩ := h
  · rw [hName]
  · constructor
    · intro hOwn
      rw [eq_of_spells hField hOther hOwn hSpells]
      exact hSpells'
    · intro hOwn
      rw [eq_of_spells hField hOther hOwn hSpells']
      exact hSpells

theorem forall₂_given (h : List.Forall₂ SameMember members members') {field : FieldName}
    (hField : field ∈ fieldNames) :
    List.Forall₂ SameMember (field.given members) (field.given members') := by
  refine List.rel_filter (fun m m' hSame => ?_) h
  simpa only [decide_eq_true_eq] using hSame.spells_iff hField

theorem GivesOnce.of_same (hOnce : GivesOnce members)
    (h : List.Forall₂ SameMember members members') : GivesOnce members' :=
  fun field hField => (forall₂_given h hField).length_eq ▸ hOnce field hField

theorem map_snd_head?_eq (h : List.Forall₂ SameMember members members') :
    members.head?.map Prod.snd = members'.head?.map Prod.snd := by
  cases h with
  | nil => rfl
  | cons hHead _ => exact congrArg some hHead.1

/-- A field finds the same value under either of its names. -/
theorem value?_eq (hOnce : GivesOnce members) (h : List.Forall₂ SameMember members members')
    {field : FieldName} (hField : field ∈ fieldNames) :
    field.value? members = field.value? members' := by
  rw [FieldName.value?_eq_member?, FieldName.value?_eq_member?,
    FieldName.member?_eq_head? (hOnce field hField),
    FieldName.member?_eq_head? (hOnce.of_same h field hField)]
  exact map_snd_head?_eq (forall₂_given h hField)

/-- A name is one of the spellings of some field. -/
def IsSpelling (name : LooseText) : Prop :=
  ∃ field ∈ fieldNames, field.Spells name

instance (name : LooseText) : Decidable (IsSpelling name) :=
  inferInstanceAs (Decidable (∃ field ∈ fieldNames, field.Spells name))

theorem SameMember.isSpelling_iff {m m' : LooseText × Value} (h : SameMember m m') :
    IsSpelling m.1 ↔ IsSpelling m'.1 := by
  refine exists_congr fun field => and_congr_right fun hField => ?_
  exact h.spells_iff hField

theorem SameMember.eq_of_not_isSpelling {m m' : LooseText × Value} (h : SameMember m m')
    (hOther : ¬ IsSpelling m.1) : m = m' := by
  obtain ⟨hValue, hName | ⟨field, hField, hSpells, -⟩⟩ := h
  · exact Prod.ext hName hValue
  · exact absurd ⟨field, hField, hSpells⟩ hOther

/-- A member is taken if a field finds it. -/
theorem isTaken_iff_member? {name : LooseText} : isTaken members name = true ↔
    ∃ field ∈ fieldNames, (field.member? members).map Prod.fst = some name := by
  unfold isTaken
  rw [List.any_eq_true]
  refine exists_congr fun field => and_congr_right fun _ => ?_
  unfold FieldName.member?
  cases field.find? members with
  | none => simp
  | some m => simp

/-- Where no field is given twice, every member that could be taken is. -/
theorem isTaken_iff (hOnce : GivesOnce members) {m : LooseText × Value} (hMem : m ∈ members) :
    isTaken members m.1 = true ↔ IsSpelling m.1 := by
  rw [isTaken_iff_member?]
  refine exists_congr fun field => and_congr_right fun hField => ?_
  constructor
  · intro hTaken
    obtain ⟨found, hFound, hName⟩ := Option.map_eq_some_iff.mp hTaken
    have hGiven := FieldName.mem_given_of_member? hFound
    exact hName ▸ of_decide_eq_true (List.mem_filter.mp hGiven).2
  · intro hSpells
    have hGiven : m ∈ field.given members := List.mem_filter.mpr ⟨hMem, decide_eq_true hSpells⟩
    rw [FieldName.member?_eq_head? (hOnce field hField),
      head?_eq_some_of_mem (hOnce field hField) hGiven, Option.map_some]

/-- The members that no field takes are those under other names. -/
theorem extrasOf_eq_filter (hOnce : GivesOnce members) :
    extrasOf members = members.filter (fun m => ¬ IsSpelling m.1) := by
  refine List.filter_congr fun m hMem => ?_
  rw [Bool.eq_iff_iff, Bool.not_eq_true', decide_eq_true_eq, ← isTaken_iff hOnce hMem,
    Bool.not_eq_true]

theorem extrasOf_eq (hOnce : GivesOnce members) (h : List.Forall₂ SameMember members members') :
    extrasOf members = extrasOf members' := by
  rw [extrasOf_eq_filter hOnce, extrasOf_eq_filter (hOnce.of_same h)]
  -- what is kept is the same, one member after the other
  clear hOnce
  induction h with
  | nil => rfl
  | @cons m m' _ _ hHead _ ih =>
      rw [List.filter_cons, List.filter_cons, ih, decide_not, decide_not,
        decide_eq_decide.mpr hHead.isSpelling_iff]
      by_cases hSpelling : IsSpelling m'.1
      · simp [hSpelling]
      · rw [hHead.eq_of_not_isSpelling (fun h => hSpelling (hHead.isSpelling_iff.mp h))]

/-- Details are read alike in either spelling. -/
theorem read_congr (hOnce : GivesOnce members) (h : List.Forall₂ SameMember members members') :
    ReadsAlike read (.object members) (.object members') := by
  intro d
  -- field by field, and the extras are the same
  have hAlike : ∀ {α : Type} {field : FieldName} {default : α} {reader : Value → Validated α}
      {a : α}, field ∈ fieldNames → (optional members field default reader = .valid a ↔
        optional members' field default reader = .valid a) := by
    intro α field default reader a hField
    refine optional_congr ?_
    rw [value?_eq hOnce h hField]
    cases field.value? members' with
    | none => exact .none
    | some v => exact .some fun a => Iff.rfl
  simp (disch := decide) only [read, record, Validated.seq_eq_valid_iff,
    Validated.map_eq_valid_iff, extrasOf_eq hOnce h, hAlike]

end Details

/-! ## Configurations -/

/-- Values of which the details in one are those in the other, with names in either spelling. -/
inductive SameDetails : Value → Value → Prop
  | object {members members' : Members} (hOnce : Details.GivesOnce members)
      (hSame : List.Forall₂ Details.SameMember members members') :
      SameDetails (.object members) (.object members')

theorem SameDetails.readsAlike {v v' : Value} (h : SameDetails v v') :
    ReadsAlike (nullable Details.read) v v' := by
  cases h with
  | object hOnce hSame =>
      intro d
      show (Details.read _).map some = _ ↔ (Details.read _).map some = _
      have hAlike := Details.read_congr hOnce hSame
      simp only [show ∀ x : Validated Details, x.map some = some <$> x from fun _ => rfl,
        Validated.map_eq_valid_iff, hAlike _]

/-- Two members that the reader of a configuration cannot tell apart. -/
structure ReadAsSame (m m' : LooseText × Value) : Prop where
  name : m.1 = m'.1
  price : m.1 = "price" → ReadsAlike Price.read m.2 m'.2
  network : m.1 = "network" → ReadsAlike readNetwork m.2 m'.2
  details : m.1 = "config" → ReadsAlike (nullable Details.read) m.2 m'.2

theorem Config.read_congr {members members' : Members}
    (h : List.Forall₂ ReadAsSame members members') :
    ReadsAlike Config.read (.object members) (.object members') := by
  intro c
  have hPrice := value?_same (h.imp fun _ _ hSame => ⟨hSame.name, hSame.price⟩)
  have hNetwork := value?_same (h.imp fun _ _ hSame => ⟨hSame.name, hSame.network⟩)
  have hDetails := value?_same (h.imp fun _ _ hSame => ⟨hSame.name, hSame.details⟩)
  simp only [Config.read, record, Validated.seq_eq_valid_iff, Validated.map_eq_valid_iff,
    required_congr hPrice, optional_congr hNetwork, optional_congr hDetails]

/-- Values of which the configuration in one is that in the other, with details in another
spelling. -/
inductive SameConfig : Value → Value → Prop
  | object {members members' : Members}
      (hSame : List.Forall₂ (fun m m' => m.1 = m'.1 ∧
        (m.2 = m'.2 ∨ m.1 = .whole "config" ∧ SameDetails m.2 m'.2)) members members') :
      SameConfig (.object members) (.object members')

theorem SameConfig.readsAlike {v v' : Value} (h : SameConfig v v') :
    ReadsAlike Config.read v v' := by
  cases h with
  | object hSame =>
      refine Config.read_congr (hSame.imp ?_)
      rintro ⟨n, v⟩ ⟨n', v'⟩ ⟨rfl, rfl | ⟨rfl, hDetails⟩⟩
      · exact ⟨rfl, fun _ _ => Iff.rfl, fun _ _ => Iff.rfl, fun _ _ => Iff.rfl⟩
      · have hPrice : (.whole "config" : LooseText) ≠ "price" := by decide
        have hNetwork : (.whole "config" : LooseText) ≠ "network" := by decide
        exact ⟨rfl, fun h => absurd h hPrice, fun h => absurd h hNetwork,
          fun _ => hDetails.readsAlike⟩

theorem readConfig_eq_ok_iff {key : String} {v : Value} {c : Config} :
    readConfig key v = .ok c ↔ Config.read v = .valid c := by
  unfold readConfig
  rw [mapError_eq_ok_iff, Validated.orReject_eq_ok_iff]

/-! ## Tables -/

/-- The value of an entry. A configuration that is ready is a record. -/
def Entry.toValue : Entry → Value
  | .config c => c.toRecord
  | .value v => v

/-- A table as a value. -/
def tableValue (rows : List Row) : Value :=
  .object (rows.map fun row => (row.1, row.2.toValue))

/-- A configuration that is ready is not read as any part of another. -/
theorem read_tableValue (rows : List Row) :
    ReadsAlike Config.read (tableValue rows) (configMembers rows) := by
  refine Config.read_congr ?_
  rw [List.forall₂_map_left_iff, List.forall₂_map_right_iff, List.forall₂_same]
  rintro ⟨name, c | v⟩ -
  · -- as a record and as an array alike, it is no price, no network and no details
    have hNeither : ∀ {α : Type} {read : Value → Validated α} {faults faults' : List Fault},
        read c.toRecord = .faulty faults → read (.array []) = .faulty faults' →
        ReadsAlike read c.toRecord (.array []) := by
      intro α read faults faults' h h' a
      rw [h, h']
      exact ⟨fun h => (by cases h), fun h => (by cases h)⟩
    exact ⟨rfl, fun _ => hNeither rfl rfl, fun _ => hNeither rfl rfl, fun _ => hNeither rfl rfl⟩
  · exact ⟨rfl, fun _ _ => Iff.rfl, fun _ _ => Iff.rfl, fun _ _ => Iff.rfl⟩

/-- Going through lists that go together element by element yields the same. -/
theorem mapM_congr {ε α β : Type} {f : α → Except ε β} {xs xs' : List α}
    (h : List.Forall₂ (fun x x' => ∀ y, f x = .ok y ↔ f x' = .ok y) xs xs') (ys : List β) :
    xs.mapM f = .ok ys ↔ xs'.mapM f = .ok ys := by
  induction h generalizing ys with
  | nil => exact Iff.rfl
  | cons hHead _ ih =>
      rw [mapM_eq_ok_iff, mapM_eq_ok_iff, List.forall₂_cons_left_iff, List.forall₂_cons_left_iff]
      simp only [← mapM_eq_ok_iff, hHead _, ih _]

/-- Rows of which the configuration in one is that in the other. -/
def SameRow (row row' : Row) : Prop :=
  row.1 = row'.1 ∧
    (row.2 = row'.2 ∨ ∃ v v', row.2 = .value v ∧ row'.2 = .value v' ∧ SameConfig v v')

/-- Routes of which one is the other, with the fields of details in either spelling. A table with a
row `price` has the details in a row of its own. -/
inductive SameRoutes : Routes → Routes → Prop
  | table {rows rows' : List Row} (hTable : ¬ IsOneConfig rows)
      (hSame : List.Forall₂ SameRow rows rows') : SameRoutes (.table rows) (.table rows')
  | oneConfig {rows rows' : List Row} (hOne : IsOneConfig rows)
      (hSame : SameConfig (tableValue rows) (tableValue rows')) :
      SameRoutes (.table rows) (.table rows')

theorem map_fst_eq_of_forall₂ {α β : Type} {xs ys : List (α × β)}
    (h : List.Forall₂ (fun x y => x.1 = y.1) xs ys) : xs.map Prod.fst = ys.map Prod.fst := by
  rw [← List.forall₂_eq_eq_eq, List.forall₂_map_left_iff, List.forall₂_map_right_iff]
  exact h

theorem isOneConfig_congr {rows rows' : List Row} (h : rows.map Prod.fst = rows'.map Prod.fst) :
    IsOneConfig rows ↔ IsOneConfig rows' := by
  have hKeys : ∀ rows : List Row, IsOneConfig rows ↔ "price" ∈ rows.map Prod.fst :=
    fun _ => List.mem_map.symm
  rw [hKeys, hKeys, h]

theorem SameConfig.isOneConfig {rows rows' : List Row}
    (h : SameConfig (tableValue rows) (tableValue rows')) (hOne : IsOneConfig rows) :
    IsOneConfig rows' := by
  refine (isOneConfig_congr ?_).mp hOne
  unfold tableValue at h
  generalize hMembers : rows.map (fun row => (LooseText.whole row.1, row.2.toValue)) = members at h
  generalize hMembers' : rows'.map (fun row => (LooseText.whole row.1, row.2.toValue)) =
    members' at h
  cases h with
  | object hSame =>
      have hNames := map_fst_eq_of_forall₂ (hSame.imp fun _ _ h => h.1)
      rw [← hMembers, ← hMembers', List.map_map, List.map_map] at hNames
      have hInjective : Function.Injective LooseText.whole := fun _ _ => LooseText.whole.inj
      refine List.map_injective_iff.mpr hInjective ?_
      rw [List.map_map, List.map_map]
      exact hNames

theorem SameRow.rowConfig_iff {row row' : Row} (h : SameRow row row') (named : String × Config) :
    rowConfig row = .ok named ↔ rowConfig row' = .ok named := by
  obtain ⟨key, entry⟩ := row
  obtain ⟨key', entry'⟩ := row'
  obtain ⟨rfl, rfl | ⟨v, v', rfl, rfl, hSame⟩⟩ := h
  · exact Iff.rfl
  · have hAlike := hSame.readsAlike
    cases hSame with
    | object _ =>
        simp only [rowConfig, map_eq_ok_iff, Entry.toConfig, shorthand, readConfig_eq_ok_iff,
          hAlike _]

variable {routes routes' : Routes}

theorem SameRoutes.normalize_iff (h : SameRoutes routes routes') (named : List (String × Config)) :
    routes.normalize = .ok named ↔ routes'.normalize = .ok named := by
  cases h with
  | table hTable hSame =>
      have hKeys := map_fst_eq_of_forall₂ (hSame.imp fun _ _ hRow => hRow.1)
      have hTable' := mt (isOneConfig_congr hKeys).mpr hTable
      rw [Routes.normalize_table (not_isOneConfig_iff.mp hTable),
        Routes.normalize_table (not_isOneConfig_iff.mp hTable')]
      exact mapM_congr (hSame.imp fun _ _ hRow => hRow.rowConfig_iff) named
  | oneConfig hOne hSame =>
      have hOne' := hSame.isOneConfig hOne
      simp only [Routes.normalize_oneConfig hOne, Routes.normalize_oneConfig hOne', map_eq_ok_iff,
        readConfig_eq_ok_iff, ← read_tableValue _ _, hSame.readsAlike _]

theorem SameRoutes.compile_iff (h : SameRoutes routes routes') (patterns : List Pattern) :
    routes.compile = .ok patterns ↔ routes'.compile = .ok patterns := by
  unfold Routes.compile
  simp only [bind_eq_ok_iff, h.normalize_iff _]

/-! ## Bare amounts of money -/

/-- A value is a bare amount of money: a text, broken or not, a number, or a truth value. -/
def IsBare : Value → Prop
  | .text _ | .broken _ | .int _ | .float _ | .bool _ => True
  | _ => False

/-- The price that a bare amount of money is. A truth value counts as zero or one. -/
inductive IsMoney : Value → Price → Prop
  | text (s : String) : IsMoney (.text s) (.text s)
  | int (n : Int) : IsMoney (.int n) (.int n)
  | float (x : Number.Binary64) : IsMoney (.float x) (.float x)
  | bool (b : Bool) : IsMoney (.bool b) (.int (if b then 1 else 0))

/-- A price without a network, as a configuration. -/
def priced (v : Value) : Value :=
  .object [("price", v)]

/-- A price on the default network, as a configuration. -/
def pricedOnDefault (v : Value) : Value :=
  .object [("price", v), ("network", .text "base-sepolia")]

theorem read_priced (v : Value) : Config.read (priced v) = Config.read (pricedOnDefault v) := rfl

theorem read_pricedOnDefault {v : Value} {price : Price} (h : IsMoney v price) :
    Config.read (pricedOnDefault v) = .valid ⟨price, .baseSepolia, none⟩ := by
  cases h <;> rfl

theorem IsBare.shorthand_eq {v : Value} (h : IsBare v) : shorthand v = pricedOnDefault v := by
  cases v with
  | text _ | broken _ | int _ | float _ | bool _ => rfl
  | _ => cases h

/-- A table with one row, of a key that is not `price`. -/
theorem Routes.compile_row {key : String} (hKey : key ≠ "price") (entry : Entry) :
    (Routes.table [(key, entry)]).compile =
      entry.toConfig key >>= fun c => (compileRow key c).map ([·]) := by
  have hTable : ∀ row ∈ [(key, entry)], row.1 ≠ "price" := List.forall_mem_singleton.mpr hKey
  have hOne : ∀ {α : Type} (f : Row → Except SetupError α),
      [(key, entry)].mapM f = (f (key, entry)).map ([·]) := by
    intro α f
    rw [List.mapM_cons, List.mapM_nil]
    cases f (key, entry) <;> rfl
  rw [Routes.compile_table hTable, hOne, hOne]
  unfold rowPattern rowConfig
  cases entry.toConfig key <;> rfl

/-- Of the value in a row nothing counts but what is read from it. -/
theorem Routes.compile_row_congr {key : String} (hKey : key ≠ "price") {v v' : Value}
    (hRead : Config.read (shorthand v) = Config.read (shorthand v')) :
    (Routes.table [(key, .value v)]).compile = (Routes.table [(key, .value v')]).compile := by
  have hConfig : (Entry.value v).toConfig key = (Entry.value v').toConfig key := by
    show readConfig key (shorthand v) = readConfig key (shorthand v')
    unfold readConfig
    rw [hRead]
  rw [Routes.compile_row hKey, Routes.compile_row hKey, hConfig]

theorem Routes.compile_row_of_read {key : String} (hKey : key ≠ "price") {v : Value} {c : Config}
    (hRead : Config.read (shorthand v) = .valid c) :
    (Routes.table [(key, .value v)]).compile = (compileRow key c).map ([·]) := by
  have hConfig : (Entry.value v).toConfig key = .ok c := readConfig_eq_ok_iff.mpr hRead
  rw [Routes.compile_row hKey, hConfig]
  rfl

/-- **Spellings agree.** A bare amount of money stands for a configuration with this price, whether
the network, which is the default, is written or not. A table that is one configuration compiles to
the one pattern for every method and path, and so does the configuration that it is read as, and the
table under the mark. Routes whose details have their fields, each given once, in another spelling
compile when the routes do, to the same patterns, and the same gates are built for them. -/
theorem compile_spellings {Request : Type} (hooks : Hooks Request) (payTo : String) :
    (∀ key v, key ≠ "price" → IsBare v →
      (Routes.table [(key, .value (priced v))]).compile = (Routes.table [(key, .value v)]).compile ∧
      (Routes.table [(key, .value (pricedOnDefault v))]).compile =
        (Routes.table [(key, .value v)]).compile ∧
      ∀ price, IsMoney v price → (Routes.table [(key, .value v)]).compile =
        (compileRow key ⟨price, .baseSepolia, none⟩).map ([·])) ∧
    (∀ rows c, IsOneConfig rows → Config.read (tableValue rows) = .valid c →
      ∀ routes ∈ [Routes.table rows, .single c, .table [(anyMark, .value (tableValue rows))]],
        routes.compile = .ok [⟨.any, Glob.ofText anyMark.toList, c⟩]) ∧
    ∀ routes routes', SameRoutes routes routes' →
      (∀ patterns, routes.compile = .ok patterns ↔ routes'.compile = .ok patterns) ∧
      ∀ gates, Gates.build hooks payTo routes = .ok gates ↔
        Gates.build hooks payTo routes' = .ok gates := by
  refine ⟨fun key v hKey hBare => ⟨?_, ?_, fun price hMoney => ?_⟩, ?_,
    fun routes routes' hSame => ?_⟩
  · refine Routes.compile_row_congr hKey ?_
    rw [hBare.shorthand_eq]
    exact read_priced v
  · refine Routes.compile_row_congr hKey ?_
    rw [hBare.shorthand_eq]
    rfl
  · refine Routes.compile_row_of_read hKey ?_
    rw [hBare.shorthand_eq, read_pricedOnDefault hMoney]
  · intro rows c hOne hRead routes hRoutes
    -- under the mark the table is a configuration like any other
    have hMark : anyMark ≠ "price" := by decide
    rcases List.mem_cons.mp hRoutes with rfl | hRoutes
    · exact Routes.compile_oneConfig hOne ((read_tableValue rows c).mp hRead)
    · rcases List.mem_cons.mp hRoutes with rfl | hRoutes
      · rfl
      · have hNested : Config.read (shorthand (tableValue rows)) = .valid c := hRead
        rw [List.mem_singleton.mp hRoutes, Routes.compile_row_of_read hMark hNested]
        rfl
  · refine ⟨hSame.compile_iff, fun gates => ?_⟩
    simp only [Gates.build_ok_iff, hSame.compile_iff _]

/-! ## A menu -/

namespace Menu

/-- Details of the menu, with a theme that is no field. -/
def details (time : String) : Members :=
  [("mime_type", .text "text/html"), (time, .int 30), ("theme", .text "dark")]

/-- A table with the menu, in whose details the time has the given name. -/
def rows (time : String) : List Row :=
  [("GET /menu", .value (.object
    [("price", .text "$0.01"), ("config", .object (details time))]))]

/-- A table that is one configuration. -/
def whole : List Row :=
  [("price", .value (.bool true)), ("network", .value (.text "base"))]

theorem sameRoutes :
    SameRoutes (.table (rows "max_timeout_seconds")) (.table (rows "maxTimeoutSeconds")) := by
  have hOnce : Details.GivesOnce (details "max_timeout_seconds") := by decide
  have hTime : Details.SameMember ("max_timeout_seconds", .int 30) ("maxTimeoutSeconds", .int 30) :=
    ⟨rfl, Or.inr ⟨⟨"max_timeout_seconds", "maxTimeoutSeconds"⟩, by decide, Or.inl rfl, Or.inr rfl⟩⟩
  have hDetails : SameDetails (.object (details "max_timeout_seconds"))
      (.object (details "maxTimeoutSeconds")) :=
    .object hOnce (.cons ⟨rfl, Or.inl rfl⟩ (.cons hTime (.cons ⟨rfl, Or.inl rfl⟩ .nil)))
  refine .table (by decide) (.cons ⟨rfl, Or.inr ⟨_, _, rfl, rfl, .object ?_⟩⟩ .nil)
  exact .cons ⟨rfl, Or.inl rfl⟩ (.cons ⟨rfl, Or.inr ⟨rfl, hDetails⟩⟩ .nil)

end Menu

theorem compile_spellings_menu :
    (Routes.table [("/menu", .value (priced (.bool true)))]).compile =
        (compileRow "/menu" ⟨.int 1, .baseSepolia, none⟩).map ([·]) ∧
      (Routes.table [(anyMark, .value (tableValue Menu.whole))]).compile =
        (Routes.single ⟨.int 1, .base, none⟩).compile ∧
      ∃ gates,
        Gates.build Pages.framework payee (.table (Menu.rows "max_timeout_seconds")) = .ok gates ∧
        Gates.build Pages.framework payee (.table (Menu.rows "maxTimeoutSeconds")) = .ok gates := by
  obtain ⟨hBare, hWhole, hRespelled⟩ := compile_spellings Pages.framework payee
  refine ⟨?_, ?_, ?_⟩
  · obtain ⟨hPriced, -, hMoney⟩ := hBare "/menu" (.bool true) (by decide) trivial
    rw [hPriced]
    exact hMoney _ (.bool true)
  · have hAll := hWhole Menu.whole ⟨.int 1, .base, none⟩ (by decide) rfl
    rw [hAll _ (List.mem_cons_of_mem _ (List.mem_cons_of_mem _ List.mem_cons_self)),
      hAll _ (List.mem_cons_of_mem _ List.mem_cons_self)]
  · have hOk : (Gates.build Pages.framework payee
        (.table (Menu.rows "max_timeout_seconds"))).isOk = true := by
      decide +kernel
    obtain ⟨gates, hGates⟩ := exists_ok_of_isOk hOk
    exact ⟨gates, hGates, ((hRespelled _ _ Menu.sameRoutes).2 gates).mp hGates⟩

end Route

end Tollgate
