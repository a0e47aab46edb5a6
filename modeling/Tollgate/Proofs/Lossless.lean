import Tollgate.Proofs.Asking
import Tollgate.Proofs.Header
import Tollgate.Proofs.Shortest

set_option autoImplicit false

/-! # Requirements without loss

A refusal lists an entry for each requirement. A requirement that holds no other values than JSON
text can (`Requirement.IsJson`) is read again from the text of its entry. The values in it are read
back as they are (`Value.IsJson.reread_eq`), floating-point numbers among them
(`Binary64.reread_eq`), and what the entry leaves out is what a reader takes for null anyway
(`Requirement.read_of_shows`). A writer refuses the entry for a time that has too many digits, and
where it has no room for how deep the entry is nested (`read_accepts`).
-/

namespace Tollgate

/-! ## Values that are read back -/

namespace Json

open Tollgate.Number Tollgate.Text

namespace Value

mutual

/-- A value that JSON text shows as it is: its numbers are finite and not too long, its texts and
names are not broken, the names in an object differ, and no record is in it. -/
def IsJson : Value → Prop
  | .int n => isOverlong n = false
  | .float x => x.isFinite = true
  | .broken _ => False
  | .array items => ItemsJson items
  | .object members => (members.map Prod.fst).Nodup ∧ MembersJson members
  | .record .. => False
  | _ => True

/-- All of some items are. -/
def ItemsJson : List Value → Prop
  | [] => True
  | item :: rest => IsJson item ∧ ItemsJson rest

/-- All of some members are. -/
def MembersJson : List (LooseText × Value) → Prop
  | [] => True
  | (name, value) :: rest => name.IsWhole ∧ IsJson value ∧ MembersJson rest

end

theorem membersJson_iff {members : Members} :
    MembersJson members ↔ ∀ member ∈ members, member.1.IsWhole ∧ member.2.IsJson := by
  induction members with
  | nil => simp [MembersJson]
  | cons member members ih => rw [MembersJson, ih, List.forall_mem_cons, and_assoc]

theorem isJson_ofLoose {t : LooseText} (h : t.IsWhole) : (ofLoose t).IsJson := by
  obtain ⟨s, rfl⟩ := h
  trivial

mutual

theorem IsJson.isWritable : ∀ {v : Value}, v.IsJson → v.IsWritable
  | .int _, h | .float _, h => h
  | .array items, h => itemsWritable_of_itemsJson items h
  | .object members, h => membersWritable_of_membersJson members h.2
  | .null, _ | .bool _, _ | .text _, _ => trivial

theorem itemsWritable_of_itemsJson : ∀ items : List Value, ItemsJson items → ItemsWritable items
  | [], _ => trivial
  | _ :: items, h => ⟨IsJson.isWritable h.1, itemsWritable_of_itemsJson items h.2⟩

theorem membersWritable_of_membersJson : ∀ members : Members,
    MembersJson members → MembersWritable members
  | [], _ => trivial
  | _ :: members, h =>
      ⟨h.1.isClean, IsJson.isWritable h.2.1, membersWritable_of_membersJson members h.2.2⟩

end

mutual

theorem IsJson.isBare : ∀ {v : Value}, v.IsJson → v.IsBare
  | .array items, h => itemsBare_of_itemsJson items h
  | .object members, h => membersBare_of_membersJson members h.2
  | .null, _ | .bool _, _ | .int _, _ | .float _, _ | .text _, _ => trivial

theorem itemsBare_of_itemsJson : ∀ items : List Value, ItemsJson items → ItemsBare items
  | [], _ => trivial
  | _ :: items, h => ⟨IsJson.isBare h.1, itemsBare_of_itemsJson items h.2⟩

theorem membersBare_of_membersJson : ∀ members : Members,
    MembersJson members → MembersBare members
  | [], _ => trivial
  | _ :: members, h => ⟨IsJson.isBare h.2.1, membersBare_of_membersJson members h.2.2⟩

end

mutual

/-- Such a value is what its text shows. -/
theorem IsJson.reread_eq : ∀ {v : Value}, v.IsJson → v.reread = v
  | .float x, _ => congrArg Value.float (Binary64.reread_eq x)
  | .array items, h => congrArg Value.array (rereadItems_eq items h)
  | .object members, h => by
      have hNames := fun m hMem => (membersJson_iff.mp h.2 m hMem).1
      rw [reread_object h.1 hNames, rereadMembers_eq members h.2]
  | .null, _ | .bool _, _ | .int _, _ | .text _, _ => rfl

theorem rereadItems_eq : ∀ items : List Value, ItemsJson items → rereadItems items = items
  | [], _ => rfl
  | item :: items, h => by
      rw [rereadItems, IsJson.reread_eq h.1, rereadItems_eq items h.2]

theorem rereadMembers_eq : ∀ members : Members,
    MembersJson members → rereadMembers members = members
  | [], _ => rfl
  | (name, value) :: members, h => by
      obtain ⟨⟨s, rfl⟩, hValue, hMembers⟩ := h
      rw [rereadMembers, LooseText.reread_whole, IsJson.reread_eq hValue,
        rereadMembers_eq members hMembers]

end

end Value

end Json

/-! ## Entries of a refusal -/

namespace Payment

open Tollgate.Number Tollgate.Text Tollgate.Json Tollgate.Schema Tollgate.Chain Tollgate.Gate

namespace Requirement

variable {r : Requirement}

/-- A requirement that was read, without broken texts, and with a schema and details that JSON text
can hold. -/
structure IsJson (r : Requirement) : Prop where
  wasRead : ∃ v, Requirement.read v = .valid r
  texts : ∀ t ∈ [r.scheme, r.resource, r.description, r.mimeType, r.payTo, r.asset], t.IsWhole
  schema : r.outputSchema.IsJson
  extra : ∀ extra, r.extra = some extra → (Value.object extra).IsJson

/-- The amount of a requirement that was read is a numeral. -/
theorem isInteger_of_read {v : Value} (h : Requirement.read v = .valid r) :
    isInteger r.maxAmountRequired = true := by
  -- the fields come off from the last to the first, as far as the amount
  obtain ⟨members, hMembers⟩ := exists_of_recordOrAttributes h
  obtain ⟨_, extra, hTen, -, rfl⟩ := Validated.seq_eq_valid_iff.mp hMembers
  obtain ⟨_, asset, hNine, -, rfl⟩ := Validated.seq_eq_valid_iff.mp hTen
  obtain ⟨_, time, hEight, -, rfl⟩ := Validated.seq_eq_valid_iff.mp hNine
  obtain ⟨_, payTo, hSeven, -, rfl⟩ := Validated.seq_eq_valid_iff.mp hEight
  obtain ⟨_, schema, hSix, -, rfl⟩ := Validated.seq_eq_valid_iff.mp hSeven
  obtain ⟨_, mimeType, hFive, -, rfl⟩ := Validated.seq_eq_valid_iff.mp hSix
  obtain ⟨_, description, hFour, -, rfl⟩ := Validated.seq_eq_valid_iff.mp hFive
  obtain ⟨_, resource, hThree, -, rfl⟩ := Validated.seq_eq_valid_iff.mp hFour
  obtain ⟨_, amount, hTwo, hAmount, rfl⟩ := Validated.seq_eq_valid_iff.mp hThree
  obtain ⟨_, network, hOne, -, rfl⟩ := Validated.seq_eq_valid_iff.mp hTwo
  obtain ⟨scheme, -, rfl⟩ := Validated.map_eq_valid_iff.mp hOne
  obtain ⟨_, _, -, hAmount⟩ := required_eq_valid_iff.mp hAmount
  exact (integerText_eq_valid_iff.mp hAmount).2

/-- A field that no member gives takes its default. -/
theorem optional_of_missing {α : Type} {members : Members} {field : FieldName} {default : α}
    {read : Value → Validated α} (hCamel : members.get? field.camel = none)
    (hSnake : members.get? field.snake = none) :
    optional members field default read = .valid default := by
  unfold Schema.optional FieldName.find?
  rw [hCamel, hSnake]
  rfl

theorem get?_eq_none_of_shows {entry : Members} (h : r.Shows entry) {name : LooseText}
    (hName : name ∉ shownNames) : entry.get? name = none := by
  refine Members.get?_eq_none_iff.mpr fun m hMem hSame => hName ?_
  rw [← hSame]
  exact h.names.subset (List.mem_map_of_mem hMem)

theorem optional_schema_of_shows {entry : Members} (h : r.Shows entry)
    (hSchema : r.outputSchema.IsBare) :
    optional entry ⟨"output_schema", "outputSchema"⟩ .null anything = .valid r.outputSchema := by
  by_cases hNull : r.outputSchema = .null
  · have hCamel : entry.get? "outputSchema" = none :=
      Option.eq_none_iff_forall_ne_some.mpr fun v hv => ((h.outputSchema v).mp hv).1 hNull
    rw [hNull]
    exact optional_of_missing hCamel (get?_eq_none_of_shows h (by decide))
  · have hGet := (h.outputSchema r.outputSchema).mpr
      ⟨hNull, Value.standsAs_iff.mpr hSchema.sparse_eq.symm⟩
    exact optional_of_get? hGet rfl

theorem optional_extra_of_shows {entry : Members} (h : r.Shows entry)
    (hExtra : ∀ details, r.extra = some details → (Value.object details).IsBare) :
    optional entry (.same "extra") none (nullable object) = .valid r.extra := by
  cases hDetails : r.extra with
  | none =>
      have hNone : entry.get? "extra" = none := by
        refine Option.eq_none_iff_forall_ne_some.mpr fun v hv => ?_
        obtain ⟨details, hSome, -⟩ := (h.extra v).mp hv
        rw [hDetails] at hSome
        cases hSome
      exact optional_of_missing hNone hNone
  | some details =>
      have hBare := hExtra details hDetails
      have hGet := (h.extra (.object details)).mpr
        ⟨details, hDetails, Value.standsAs_iff.mpr hBare.sparse_eq.symm⟩
      exact optional_of_get? hGet rfl

/-- A requirement is read from the members that show it, if no records are in it. -/
theorem read_of_shows {entry : Members} (h : r.Shows entry)
    (hAmount : isInteger r.maxAmountRequired = true) (hSchema : r.outputSchema.IsBare)
    (hExtra : ∀ details, r.extra = some details → (Value.object details).IsBare) :
    Requirement.read (.object entry) = .valid r := by
  have hNetwork : readNetwork (.text r.network.name) = .valid r.network := by
    simp only [readNetwork, choice, Network.ofName?_name]
  have hInteger : integerText (.text r.maxAmountRequired) = .valid r.maxAmountRequired :=
    integerText_eq_valid_iff.mpr ⟨rfl, hAmount⟩
  have hTime : integer (.int r.maxTimeoutSeconds) = .valid r.maxTimeoutSeconds := rfl
  unfold Requirement.read recordOrAttributes
  simp only
  rw [required_of_get? h.scheme (text_ofLoose _), required_of_get? h.network hNetwork,
    required_of_get? h.amount hInteger, required_of_get? h.resource (text_ofLoose _),
    required_of_get? h.description (text_ofLoose _), required_of_get? h.mimeType (text_ofLoose _),
    optional_schema_of_shows h hSchema, required_of_get? h.payTo (text_ofLoose _),
    required_of_get? h.time hTime, required_of_get? h.asset (text_ofLoose _),
    optional_extra_of_shows h hExtra]
  rfl

/-- Such a requirement is read from some value. -/
theorem exists_read (hAmount : isInteger r.maxAmountRequired = true)
    (hSchema : r.outputSchema.IsBare)
    (hExtra : ∀ details, r.extra = some details → (Value.object details).IsBare) :
    ∃ v, Requirement.read v = .valid r :=
  ⟨_, read_of_shows (shows_entry r) hAmount hSchema hExtra⟩

/-- A requirement without records is read from its entry. -/
theorem IsJson.read_toSparseValue (h : r.IsJson) :
    Requirement.read r.toSparseValue = .valid r := by
  obtain ⟨v, hRead⟩ := h.wasRead
  exact read_of_shows (shows_entry r) (isInteger_of_read hRead) h.schema.isBare
    fun details hSome => (h.extra details hSome).isBare

/-- The entry of a requirement without records is made of its members. -/
theorem IsJson.entry_eq (h : r.IsJson) : r.entry = r.members.dropNulls := by
  have hExtra : (Value.orNull (r.extra.map .object)).sparse =
      Value.orNull (r.extra.map .object) := by
    cases hExtra : r.extra with
    | none => rfl
    | some extra => exact (h.extra extra hExtra).isBare.sparse_eq
  unfold entry
  rw [show Value.sparseMembers r.members = r.members by
    simp only [members, Value.sparseMembers, h.schema.isBare.sparse_eq, hExtra, Value.sparse,
      Value.sparse_ofLoose]]

/-- Of the members of such a requirement, only the time is perhaps none that JSON text can hold. -/
theorem IsJson.isJson_member (h : r.IsJson) {m : LooseText × Value} (hMem : m ∈ r.entry) :
    m.1.IsWhole ∧ (m.2.IsJson ∨ m.2 = .int r.maxTimeoutSeconds) := by
  have hExtra : (Value.orNull (r.extra.map .object)).IsJson := by
    cases hExtra : r.extra with
    | none => trivial
    | some extra => exact h.extra extra hExtra
  have hTexts := h.texts
  simp only [List.forall_mem_cons] at hTexts
  obtain ⟨hScheme, hResource, hDescription, hMimeType, hPayTo, hAsset, -⟩ := hTexts
  rw [h.entry_eq] at hMem
  have hMember := (List.mem_filter.mp hMem).1
  -- but for the schema, the time and the details, the members are texts
  unfold members at hMember
  simp only [List.mem_cons, List.not_mem_nil, or_false] at hMember
  rcases hMember with rfl | rfl | rfl | rfl | rfl | rfl | rfl | rfl | rfl | rfl | rfl
  · exact ⟨⟨_, rfl⟩, Or.inl (Value.isJson_ofLoose hScheme)⟩
  · exact ⟨⟨_, rfl⟩, Or.inl trivial⟩
  · exact ⟨⟨_, rfl⟩, Or.inl trivial⟩
  · exact ⟨⟨_, rfl⟩, Or.inl (Value.isJson_ofLoose hResource)⟩
  · exact ⟨⟨_, rfl⟩, Or.inl (Value.isJson_ofLoose hDescription)⟩
  · exact ⟨⟨_, rfl⟩, Or.inl (Value.isJson_ofLoose hMimeType)⟩
  · exact ⟨⟨_, rfl⟩, Or.inl h.schema⟩
  · exact ⟨⟨_, rfl⟩, Or.inl (Value.isJson_ofLoose hPayTo)⟩
  · exact ⟨⟨_, rfl⟩, Or.inr rfl⟩
  · exact ⟨⟨_, rfl⟩, Or.inl (Value.isJson_ofLoose hAsset)⟩
  · exact ⟨⟨_, rfl⟩, Or.inl hExtra⟩

/-- With a time that is not too long, the whole entry can be held by JSON text. -/
theorem IsJson.isJson_toSparseValue (h : r.IsJson)
    (hTime : isOverlong r.maxTimeoutSeconds = false) : r.toSparseValue.IsJson := by
  refine ⟨nodup_shownNames.sublist (shows_entry r).names,
    Value.membersJson_iff.mpr fun m hMem => ?_⟩
  obtain ⟨hName, hJson | hValue⟩ := h.isJson_member hMem
  · exact ⟨hName, hJson⟩
  · rw [hValue]
    exact ⟨hName, hTime⟩

/-- With a time that is too long, the entry is refused, and for the time if there is room. -/
theorem IsJson.write_overlong (h : r.IsJson) (hTime : isOverlong r.maxTimeoutSeconds = true)
    {style : Style} (hStyle : style.writesOverlong = false) (depth : Nat) :
    ∃ fault, write depth style r.toSparseValue = .error fault ∧
      (r.toSparseValue.nesting ≤ depth → fault = .overlong) := by
  have hOverlong : ∀ room, partFault? style room (.int r.maxTimeoutSeconds) = some .overlong := by
    intro room
    simp [partFault?, hTime, hStyle]
  have hMember := Members.mem_of_get? (shows_entry r).time
  have hWrite : ∀ fault, partFault? style depth r.toSparseValue = some fault →
      write depth style r.toSparseValue = .error fault := by
    intro fault hFault
    unfold write refusal?
    rw [hFault]
  cases depth with
  | zero => exact ⟨.tooDeep, hWrite _ rfl, fun hRoom => absurd hRoom (Nat.not_succ_le_zero _)⟩
  | succ room =>
      by_cases hRoom : r.toSparseValue.nesting ≤ room + 1
      · -- no member in front of the time is refused for another reason
        refine ⟨.overlong, hWrite _ ?_, fun _ => rfl⟩
        refine membersPartFault?_eq (fun m hMem => ?_) ⟨_, hMember, hOverlong room⟩
        rcases (h.isJson_member hMem).2 with hJson | hValue
        · have hInner := Nat.le_trans (Value.nesting_le_of_mem hMem) (Nat.le_of_succ_le_succ hRoom)
          rw [partFault?_of_isWritable style hJson.isWritable, if_pos hInner]
          exact Or.inl rfl
        · rw [hValue]
          exact Or.inr (hOverlong room)
      · have hSome : membersPartFault? style room r.entry ≠ none :=
          membersPartFault?_ne_none hMember (by rw [hOverlong room]; exact Option.some_ne_none _)
        obtain ⟨fault, hFault⟩ := Option.ne_none_iff_exists'.mp hSome
        exact ⟨fault, hWrite fault hFault, fun hIs => absurd hIs hRoom⟩

end Requirement

/-- **An entry of a refusal is read as its requirement.** A refusal lists an entry for each of its
requirements. The entry of a requirement that was read, without broken texts and with a schema and
details that JSON text can hold, is written in every style if there is room for how deep it is
nested, and the requirement is read from the text by every reader that has room for it. It is
refused where there is no room, and for a time that has too many digits. -/
theorem read_accepts {r : Requirement} (hr : r.IsJson) {accepts : List Requirement} {i : Nat}
    (hAt : accepts[i]? = some r) (message : LooseText) (payer : Option LooseText) :
    ∃ items entry, (refusalMembers message accepts payer).get? "accepts" = some (.array items) ∧
      items[i]? = some entry ∧
      entry.nesting =
        max r.outputSchema.nesting (Value.orNull (r.extra.map .object)).nesting + 1 ∧
      ∀ (style : Style) (depth : Nat), style.IsLegible →
        (isOverlong r.maxTimeoutSeconds = false → entry.nesting ≤ depth →
          ∃ text, write depth style entry = .ok text ∧ ∀ limits : Limits,
            entry.nesting ≤ limits.depth → digitLimit ≤ limits.digits →
              ∃ v, Json.read limits text = .ok v ∧ Requirement.read v = .valid r) ∧
        (isOverlong r.maxTimeoutSeconds = false → depth < entry.nesting →
          write depth style entry = .error .tooDeep) ∧
        (isOverlong r.maxTimeoutSeconds = true → style.writesOverlong = false →
          ∃ fault, write depth style entry = .error fault ∧
            (entry.nesting ≤ depth → fault = .overlong)) := by
  refine ⟨accepts.map Requirement.toSparseValue, r.toSparseValue, rfl, ?_,
    Requirement.nesting_toSparseValue r, fun style depth hStyle => ⟨?_, ?_, ?_⟩⟩
  · rw [List.getElem?_map, hAt, Option.map_some]
  · intro hTime hRoom
    have hJson := hr.isJson_toSparseValue hTime
    obtain ⟨text, hText, hBack⟩ := exists_write hStyle hJson.isWritable hRoom
    refine ⟨text, hText, fun limits hDepth hDigits => ⟨r.toSparseValue, ?_, hr.read_toSparseValue⟩⟩
    rw [hBack limits hDepth hDigits, hJson.reread_eq]
  · -- nothing but the depth can be refused here
    intro hTime hDeep
    have hJson := hr.isJson_toSparseValue hTime
    unfold write
    rw [refusal?_of_isWritable style hJson.isWritable, if_neg (Nat.not_le_of_lt hDeep)]
  · intro hTime hRefuses
    exact hr.write_overlong hTime hRefuses depth

namespace Weather

/-- A report on the weather with a schema that holds nulls. -/
def report : Requirement where
  scheme := "exact"
  network := .baseSepolia
  maxAmountRequired := "10000"
  resource := "https://example.com/weather"
  description := ""
  mimeType := "application/json"
  outputSchema := .object
    [("chance", .float (.finite false 7205759403792794 (-56) (by decide))),
     ("wind", .object [("gusts", .null), ("knots", .array [.null, .int (-3)])])]
  payTo := "0xBAc675C310721717Cd4A37F6cbeA1F081b1C2a07"
  maxTimeoutSeconds := 300
  asset := "0x036CbD53842c5426634e7929541eC2318f3dCF7e"
  extra := none

theorem isJson_outputSchema : report.outputSchema.IsJson := by
  have hKnots : (Value.array [.null, .int (-3)]).IsJson :=
    ⟨trivial, isOverlong_of_lt (by decide), trivial⟩
  have hWind : (Value.object [("gusts", .null), ("knots", .array [.null, .int (-3)])]).IsJson :=
    ⟨by decide, ⟨_, rfl⟩, trivial, ⟨_, rfl⟩, hKnots, trivial⟩
  exact ⟨by decide, ⟨_, rfl⟩, rfl, ⟨_, rfl⟩, hWind, trivial⟩

theorem isWhole_texts : ∀ t ∈ [report.scheme, report.resource, report.description,
    report.mimeType, report.payTo, report.asset], t.IsWhole := by
  simp only [report, List.forall_mem_cons]
  exact ⟨⟨_, rfl⟩, ⟨_, rfl⟩, ⟨_, rfl⟩, ⟨_, rfl⟩, ⟨_, rfl⟩, ⟨_, rfl⟩, by simp⟩

theorem isJson_report : report.IsJson where
  wasRead := Requirement.exists_read (show isInteger "10000" = true by decide)
    isJson_outputSchema.isBare (fun _ h => by cases h)
  texts := isWhole_texts
  schema := isJson_outputSchema
  extra := fun _ h => by cases h

end Weather

theorem read_accepts_report : ∃ text v,
    write 990 .compact Weather.report.toSparseValue = .ok text ∧
      Json.read ⟨960, digitLimit⟩ text = .ok v ∧ Requirement.read v = .valid Weather.report := by
  have hAt : [Weather.report][0]? = some Weather.report := rfl
  have hNesting : Weather.report.toSparseValue.nesting = 4 := by decide
  obtain ⟨items, entry, hItems, hEntry, -, hAll⟩ :=
    read_accepts Weather.isJson_report hAt "X-PAYMENT header is required" none
  cases hItems
  cases hEntry
  obtain ⟨hWritten, -, -⟩ := hAll .compact 990 isLegible_compact
  obtain ⟨text, hText, hBack⟩ := hWritten (isOverlong_of_lt (by decide)) (by rw [hNesting]; decide)
  obtain ⟨v, hValue, hRead⟩ :=
    hBack ⟨960, digitLimit⟩ (by rw [hNesting]; decide) (Nat.le_refl digitLimit)
  exact ⟨text, v, hText, hValue, hRead⟩

namespace Weather

/-- The report without a schema, and with another time that a payment may take. -/
def patient (time : Int) : Requirement :=
  { report with outputSchema := .null, maxTimeoutSeconds := time }

theorem isJson_patient (time : Int) : (patient time).IsJson where
  wasRead := Requirement.exists_read (show isInteger "10000" = true by decide)
    (show Value.IsBare .null from trivial) (fun _ h => by cases h)
  texts := isWhole_texts
  schema := trivial
  extra := fun _ h => by cases h

end Weather

/-- **A time with one digit too many is lost.** The entry of a requirement with such a time is
refused, however much room there is, although its schema and its details are null. -/
theorem read_accepts_patient : (Weather.patient ((10 ^ digitLimit : Nat) : Int)).IsJson ∧
    ∃ items entry, (refusalMembers "X-PAYMENT header is required"
        [Weather.patient ((10 ^ digitLimit : Nat) : Int)] none).get? "accepts" =
          some (.array items) ∧
      items[0]? = some entry ∧ ∀ depth text, write depth .compact entry ≠ .ok text := by
  have hLong : isOverlong ((10 ^ digitLimit : Nat) : Int) = true :=
    (isOverlong_signed false _).mpr (Nat.le_refl _)
  generalize ((10 ^ digitLimit : Nat) : Int) = time at hLong ⊢
  refine ⟨Weather.isJson_patient time, _, _, rfl, rfl, fun depth text hText => ?_⟩
  obtain ⟨fault, hFault, -⟩ :=
    (Weather.isJson_patient time).write_overlong hLong
      (show Style.compact.writesOverlong = false from rfl) depth
  rw [hFault] at hText
  cases hText

end Payment

end Tollgate
