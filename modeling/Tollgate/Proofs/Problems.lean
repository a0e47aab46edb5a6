import Tollgate.Proofs.Reading
import Tollgate.Proofs.Rows

set_option autoImplicit false

/-! # The first problem

Setting up a table either yields all of its gates or fails with one problem. `Gate.Problem` lists
what can be wrong with a single gate, in the order in which it is looked at: the resource, the
price, the payee, the asset. `FirstProblem` says which problem of a table is told: one with a
configuration comes before one with a key, one with a key before one with a gate, and among problems
of a kind the first row counts. Nothing else goes wrong: what the standard converter returns always
fits into a requirement (`amount_of_atomicAmount`).
-/

namespace Tollgate

/-! ## Amounts -/

namespace Payment

open Tollgate.Number Tollgate.Text Tollgate.Json Tollgate.Chain

/-- Money is converted to the stablecoin of a network. -/
theorem parts_of_convertMoney {text network : String} {conversion : Conversion}
    (h : convertMoney text network = .ok conversion) :
    ∃ amount n, conversion =
      ⟨.text amount, .text (Network.stablecoin n), .object (domainMembers n.stablecoinDomain)⟩ := by
  unfold convertMoney at h
  cases hAmount : Decimal.ofText? (withoutCurrencySign text) with
  | none =>
      simp only [hAmount] at h
      cases h
  | some amount =>
      simp only [hAmount] at h
      cases hNetwork : resolveNetwork network with
      | error fault =>
          rw [hNetwork] at h
          cases fault <;> cases h
      | ok n =>
          rw [hNetwork] at h
          obtain ⟨units, -, hUnits⟩ := bind_eq_ok_iff.mp h
          cases hUnits
          exact ⟨_, n, rfl⟩

/-- The standard converter returns what the price says of a token, or an amount of the stablecoin of
a network. -/
theorem parts_of_standardConverter {price : Price} {network : String} {conversion : Conversion}
    (h : standardConverter price network = .ok conversion) :
    (∃ t, price = .token t ∧ conversion =
      ⟨.text t.amount, .ofLoose t.asset.address, .object (domainMembers t.asset.domain)⟩) ∨
    price.isMoney = true ∧ ∃ amount n, conversion =
      ⟨.text amount, .text (Network.stablecoin n), .object (domainMembers n.stablecoinDomain)⟩ := by
  have hConverted := mapError_eq_ok_iff.mp h
  cases price with
  | token t => exact Or.inl ⟨t, rfl, (Except.ok.inj hConverted).symm⟩
  | text t =>
      cases t with
      | whole s => exact Or.inr ⟨rfl, parts_of_convertMoney hConverted⟩
      | broken points => cases hConverted
  | int n =>
      simp only at hConverted
      split at hConverted
      · cases hConverted
      · exact Or.inr ⟨rfl, parts_of_convertMoney hConverted⟩
  | float x => cases hConverted
  | other v => cases v <;> cases hConverted

theorem isInteger_of_checkPositive {price : Price} {amount : String} (hMoney : price.isMoney = true)
    (h : checkPositive price (.text amount) = .ok ()) : isInteger amount = true := by
  unfold checkPositive at h
  rw [if_pos hMoney] at h
  obtain ⟨n, hn, -⟩ := bind_eq_ok_iff.mp h
  have hRead : readInteger amount = .ok n := mapError_eq_ok_iff.mp hn
  unfold isInteger
  rw [hRead]
  rfl

theorem Price.forConversion_eq_token_iff {price : Price} {t : TokenAmount} :
    price.forConversion = .token t ↔ price = .token t := by
  cases price <;> simp [Price.forConversion]

theorem Price.isMoney_or_token (price : Price) :
    price.isMoney = true ∨ ∃ t, price = .token t := by
  cases price with
  | token t => exact Or.inr ⟨t, rfl⟩
  | _ => exact Or.inl rfl

/-- An amount that comes of the standard converter is a numeral, and its domain is an object. The
numeral of money was read when the amount was compared with zero. -/
theorem amount_of_atomicAmount {price : Price} {network : String} {a : AtomicAmount}
    (hToken : ∀ t, price = .token t → isInteger t.amount = true)
    (h : atomicAmount standardConverter price network = .ok a) :
    (∃ amount, a.amount = .whole amount ∧ isInteger amount = true) ∧
      ∃ domain, a.domain = .object domain := by
  unfold atomicAmount at h
  simp only at h
  split at h
  · cases h
  · rename_i conversion hConvert
    rcases parts_of_standardConverter hConvert with ⟨t, ht, rfl⟩ | ⟨hMoney, amount, n, rfl⟩
    all_goals
      obtain ⟨_, hPositive, hRest⟩ := bind_eq_ok_iff.mp h
      cases hRest
    · exact ⟨⟨_, rfl, hToken t (Price.forConversion_eq_token_iff.mp ht)⟩, _, rfl⟩
    · exact ⟨⟨_, rfl, isInteger_of_checkPositive hMoney hPositive⟩, _, rfl⟩

end Payment

/-! ## Problems of a gate -/

namespace Route

open Tollgate.Number Tollgate.Text Tollgate.Json Tollgate.Schema Tollgate.Chain Tollgate.Payment

/-- What a requirement is made of: what became of the price and of the two addresses, the resource,
and what the configuration says. -/
structure Parts (convert : Converter) (payTo : String) (c : Config) (resource : LooseText)
    (method : Option String) (r : Requirement) (atomic : AtomicAmount) : Prop where
  amount : atomicAmount convert c.price c.network.name = .ok atomic
  payTo : ∃ payee, canonicalAddress payTo = .ok payee ∧ r.payTo = .whole payee
  asset : ∃ address, assetAddress atomic.asset = .ok address ∧ r.asset = .whole address
  extra : readExtra atomic.domain = .valid r.extra
  scheme : r.scheme = .whole paymentScheme
  resource : r.resource = resource
  description : r.description = c.description
  mimeType : r.mimeType = c.mimeType
  outputSchema : r.outputSchema = c.outputSchema method
  time : r.maxTimeoutSeconds = c.maxTimeoutSeconds

theorem exists_parts_of_requirement {convert : Converter} {payTo : String} {resource : LooseText}
    {c : Config} {method : Option String} {r : Requirement}
    (h : requirement convert payTo c resource method = .ok r) :
    ∃ atomic, Parts convert payTo c resource method r atomic := by
  obtain ⟨atomic, hAmount, h⟩ := bind_eq_ok_iff.mp h
  obtain ⟨payee, hPayee, h⟩ := bind_eq_ok_iff.mp h
  obtain ⟨asset, hAsset, h⟩ := bind_eq_ok_iff.mp h
  have hRead := Validated.orReject_eq_ok_iff.mp (mapError_eq_ok_iff.mp h)
  obtain ⟨_, extra, hFirst, hExtra, rfl⟩ := Validated.seq_eq_valid_iff.mp hRead
  obtain ⟨amount, -, rfl⟩ := Validated.map_eq_valid_iff.mp hFirst
  exact ⟨atomic,
    { amount := hAmount
      payTo := ⟨payee, mapError_eq_ok_iff.mp hPayee, rfl⟩
      asset := ⟨asset, hAsset, rfl⟩
      extra := hExtra
      scheme := rfl
      resource := rfl
      description := rfl
      mimeType := rfl
      outputSchema := rfl
      time := rfl }⟩

/-- The requirement of a route is not told if its price, the payee or the asset is wrong, and of
these the first counts. -/
theorem requirement_eq_error_iff {payTo : String} {resource : LooseText} {c : Config}
    {method : Option String} {f : Failure} (hc : c.WasRead) :
    requirement standardConverter payTo c resource method = .error f ↔
      atomicAmount standardConverter c.price c.network.name = .error f ∨
      ∃ a, atomicAmount standardConverter c.price c.network.name = .ok a ∧
        ((∃ fault, canonicalAddress payTo = .error fault ∧ Failure.badAddress fault = f) ∨
        ∃ payee, canonicalAddress payTo = .ok payee ∧ assetAddress a.asset = .error f) := by
  unfold requirement
  rw [bind_eq_error_iff]
  refine or_congr_right (exists_congr fun a => and_congr_right fun hAmount => ?_)
  rw [bind_eq_error_iff, mapError_eq_error_iff]
  simp only [mapError_eq_ok_iff]
  refine or_congr_right (exists_congr fun payee => and_congr_right fun _ => ?_)
  -- what is left after the asset reads a numeral and an object, so it does not fail
  obtain ⟨⟨amount, hText, hNumeral⟩, domain, hDomain⟩ :=
    amount_of_atomicAmount (fun _ => hc.isInteger) hAmount
  have hRead : readAmount a.amount = .valid amount := by
    unfold readAmount
    rw [hText, Validated.under_eq_valid_iff, integerText_eq_valid_iff]
    exact ⟨rfl, hNumeral⟩
  rw [bind_eq_error_iff]
  constructor
  · rintro (hAsset | ⟨asset, -, hRest⟩)
    · exact hAsset
    · rw [hRead, hDomain] at hRest
      cases hRest
  · intro hAsset
    exact Or.inl hAsset

end Route

namespace Gate

open Tollgate.Route Tollgate.Payment Tollgate.Chain

section Build

variable {Request : Type}

/-- The resource of a route is given by its configuration, or is told by a request. -/
def HasResource (hooks : Hooks Request) (c : Config) : Prop :=
  c.staticResource? ≠ none ∨ hooks.resource? ≠ none

/-- What is wrong with the gate of a configuration. Each problem is told only where none of those
before it is there. -/
inductive Problem (hooks : Hooks Request) (payTo : String) (c : Config) : Failure → Prop
  | resource (hResource : ¬ HasResource hooks c) : Problem hooks payTo c (.setup .missingResource)
  | price {f : Failure} (hResource : HasResource hooks c)
      (hPrice : atomicAmount hooks.convert c.price c.network.name = .error f) :
      Problem hooks payTo c f
  | payee {a : AtomicAmount} {fault : AddressFault} (hResource : HasResource hooks c)
      (hPrice : atomicAmount hooks.convert c.price c.network.name = .ok a)
      (hPayee : canonicalAddress payTo = .error fault) : Problem hooks payTo c (.badAddress fault)
  | asset {a : AtomicAmount} {payee : String} {f : Failure} (hResource : HasResource hooks c)
      (hPrice : atomicAmount hooks.convert c.price c.network.name = .ok a)
      (hPayee : canonicalAddress payTo = .ok payee) (hAsset : assetAddress a.asset = .error f) :
      Problem hooks payTo c f

theorem sourceOf?_eq_none_iff {hooks : Hooks Request} {c : Config} :
    Gate.sourceOf? hooks c = none ↔ ¬ HasResource hooks c := by
  unfold Gate.sourceOf? HasResource
  cases c.staticResource? <;> simp

variable {hooks : Hooks Request} {payTo : String}

/-- A gate is built unless there is a problem with it. -/
theorem build_eq_error_iff {c : Config} {method : Option String} {f : Failure}
    (hConvert : hooks.convert = standardConverter) (hc : c.WasRead) :
    Gate.build hooks payTo c method = .error f ↔ Problem hooks payTo c f := by
  unfold Gate.build
  cases hSource : Gate.sourceOf? hooks c with
  | none =>
      have hResource := sourceOf?_eq_none_iff.mp hSource
      constructor
      · intro h
        cases h
        exact .resource hResource
      · rintro (_ | h | h | h)
        · rfl
        all_goals exact absurd h hResource
  | some source =>
      have hResource : HasResource hooks c := by
        by_contra hNot
        rw [sourceOf?_eq_none_iff.mpr hNot] at hSource
        cases hSource
      simp only
      rw [map_eq_error_iff, hConvert, requirement_eq_error_iff hc, ← hConvert]
      constructor
      · rintro (hPrice | ⟨a, hPrice, ⟨fault, hPayee, rfl⟩ | ⟨payee, hPayee, hAsset⟩⟩)
        · exact .price hResource hPrice
        · exact .payee hResource hPrice hPayee
        · exact .asset hResource hPrice hPayee hAsset
      · intro h
        cases h with
        | resource hNot => exact absurd hResource hNot
        | price _ hPrice => exact Or.inl hPrice
        | payee _ hPrice hPayee => exact Or.inr ⟨_, hPrice, Or.inl ⟨_, hPayee, rfl⟩⟩
        | asset _ hPrice hPayee hAsset => exact Or.inr ⟨_, hPrice, Or.inr ⟨_, hPayee, hAsset⟩⟩

/-! ## Problems of a table -/

/-- The configuration of a row has a gate. -/
def HasGate (hooks : Hooks Request) (payTo : String) (row : Row) : Prop :=
  ∃ c verb glob g, row.2.toConfig row.1 = .ok c ∧ KeyParts row.1.toList verb glob ∧
    Gate.build hooks payTo c (if verb = anyMark then none else some verb) = .ok g

/-- The problem that setting up a table tells. A problem with a configuration is told where the rows
before it have one; a problem with a key, where all rows have a configuration and those before it a
glob; a problem with a gate, where all rows have both and those before it a gate. -/
inductive FirstProblem (hooks : Hooks Request) (payTo : String) (rows : List Row) : Failure → Prop
  | config {e : SetupError}
      (hFirst : FirstAt HasConfig (fun row => row.2.toConfig row.1 = .error e) rows) :
      FirstProblem hooks payTo rows (.setup e)
  | key {e : SetupError} (hConfigs : ∀ row ∈ rows, HasConfig row)
      (hFirst : FirstAt HasGlob (fun row => ¬ HasGlob row ∧ e = .invalidPattern row.1) rows) :
      FirstProblem hooks payTo rows (.setup e)
  | gate {f : Failure} (hConfigs : ∀ row ∈ rows, HasConfig row) (hGlobs : ∀ row ∈ rows, HasGlob row)
      (hFirst : FirstAt (HasGate hooks payTo)
        (fun row => ∃ c, row.2.toConfig row.1 = .ok c ∧ Problem hooks payTo c f) rows) :
      FirstProblem hooks payTo rows f

theorem rowConfig_eq_error_iff {row : Row} {e : SetupError} :
    rowConfig row = .error e ↔ row.2.toConfig row.1 = .error e :=
  map_eq_error_iff

/-- A row with a configuration has no pattern if the glob of its key is empty. -/
theorem rowPattern_eq_error_iff {row : Row} {e : SetupError} (h : HasConfig row) :
    rowPattern row = .error e ↔ ¬ HasGlob row ∧ e = .invalidPattern row.1 := by
  obtain ⟨c, hConfig⟩ := h
  obtain ⟨verb, glob, hParts⟩ := exists_keyParts row.1.toList
  rw [rowPattern_of_parts hConfig hParts]
  by_cases hGlob : glob = []
  · rw [if_pos hGlob]
    have hNone : ¬ HasGlob row := by
      rintro ⟨verb', glob', hParts', hSome⟩
      exact hSome ((hParts.unique hParts').2.symm.trans hGlob)
    constructor
    · intro h
      exact ⟨hNone, (Except.error.inj h).symm⟩
    · rintro ⟨-, rfl⟩
      rfl
  · rw [if_neg hGlob]
    constructor
    · intro h
      cases h
    · rintro ⟨hNone, -⟩
      exact absurd ⟨verb, glob, hParts, hGlob⟩ hNone

/-- The gate of a row with a configuration and a glob is that of its configuration. -/
theorem rowEntry_of_parts {row : Row} {c : Config} {verb : String} {glob : List Char}
    (hConfig : row.2.toConfig row.1 = .ok c) (hParts : KeyParts row.1.toList verb glob)
    (hGlob : glob ≠ []) :
    rowEntry hooks payTo row =
      (Gate.build hooks payTo c (if verb = anyMark then none else some verb)).map
        (fun g => (⟨.named verb, Glob.ofText glob, c⟩, g)) := by
  unfold rowEntry
  rw [rowPattern_of_parts hConfig hParts, if_neg hGlob, ← Verb.method?_named]
  rfl

theorem exists_rowEntry_iff {row : Row} :
    (∃ entry, rowEntry hooks payTo row = .ok entry) ↔
      HasConfig row ∧ HasGlob row ∧ HasGate hooks payTo row := by
  constructor
  · rintro ⟨entry, hEntry⟩
    obtain ⟨p, hp, -⟩ := bind_eq_ok_iff.mp hEntry
    obtain ⟨⟨c, hConfig⟩, verb, glob, hParts, hGlob⟩ :=
      exists_rowPattern_iff.mp ⟨p, mapError_eq_ok_iff.mp hp⟩
    rw [rowEntry_of_parts hConfig hParts hGlob] at hEntry
    obtain ⟨g, hg, -⟩ := map_eq_ok_iff.mp hEntry
    exact ⟨⟨c, hConfig⟩, ⟨verb, glob, hParts, hGlob⟩, c, verb, glob, g, hConfig, hParts, hg⟩
  · rintro ⟨-, ⟨verb, glob, hParts, hGlob⟩, c, verb', glob', g, hConfig, hParts', hg⟩
    obtain ⟨rfl, rfl⟩ := hParts.unique hParts'
    rw [rowEntry_of_parts hConfig hParts hGlob]
    exact ⟨_, map_eq_ok_iff.mpr ⟨g, hg, rfl⟩⟩

theorem rowEntry_eq_error_iff {row : Row} {f : Failure}
    (hConvert : hooks.convert = standardConverter)
    (hReady : ∀ c, row.2 = .config c → c.WasRead) (hConfig : HasConfig row) (hGlob : HasGlob row) :
    rowEntry hooks payTo row = .error f ↔
      ∃ c, row.2.toConfig row.1 = .ok c ∧ Problem hooks payTo c f := by
  obtain ⟨c, hc⟩ := hConfig
  obtain ⟨verb, glob, hParts, hSome⟩ := hGlob
  have hRead : c.WasRead := (Entry.wasRead_of_toConfig hc).elim id (hReady c)
  rw [rowEntry_of_parts hc hParts hSome, map_eq_error_iff, build_eq_error_iff hConvert hRead]
  constructor
  · intro h
    exact ⟨c, hc, h⟩
  · rintro ⟨c', hc', h⟩
    cases hc.symm.trans hc'
    exact h

variable {rows : List Row}

theorem configs_eq_error_iff {e : SetupError} :
    rows.mapM rowConfig = .error e ↔
      FirstAt HasConfig (fun row => row.2.toConfig row.1 = .error e) rows := by
  rw [mapM_eq_error_iff]
  exact FirstAt.congr (fun _ _ => exists_rowConfig_iff) (fun _ _ => rowConfig_eq_error_iff)

theorem patterns_eq_error_iff {e : SetupError} (hConfigs : ∀ row ∈ rows, HasConfig row) :
    rows.mapM rowPattern = .error e ↔
      FirstAt HasGlob (fun row => ¬ HasGlob row ∧ e = .invalidPattern row.1) rows := by
  rw [mapM_eq_error_iff]
  refine FirstAt.congr (fun row hMem => ?_) (fun row hMem => ?_)
  · rw [exists_rowPattern_iff, and_iff_right (hConfigs row hMem)]
  · exact rowPattern_eq_error_iff (hConfigs row hMem)

theorem entries_eq_error_iff {f : Failure} (hConvert : hooks.convert = standardConverter)
    (hReady : ∀ key c, (key, Entry.config c) ∈ rows → c.WasRead)
    (hConfigs : ∀ row ∈ rows, HasConfig row) (hGlobs : ∀ row ∈ rows, HasGlob row) :
    rows.mapM (rowEntry hooks payTo) = .error f ↔
      FirstAt (HasGate hooks payTo)
        (fun row => ∃ c, row.2.toConfig row.1 = .ok c ∧ Problem hooks payTo c f) rows := by
  rw [mapM_eq_error_iff]
  refine FirstAt.congr (fun row hMem => ?_) (fun row hMem => ?_)
  · rw [exists_rowEntry_iff, and_iff_right (hConfigs row hMem), and_iff_right (hGlobs row hMem)]
  · refine rowEntry_eq_error_iff hConvert (fun c hEntry => ?_) (hConfigs row hMem) (hGlobs row hMem)
    refine hReady row.1 c ?_
    rw [← hEntry]
    exact hMem

theorem Gates.exists_build_table_iff (hTable : ∀ row ∈ rows, row.1 ≠ "price") :
    (∃ gates, Gates.build hooks payTo (.table rows) = .ok gates) ↔
      ∀ row ∈ rows, HasConfig row ∧ HasGlob row ∧ HasGate hooks payTo row := by
  have hEach : (∃ entries, rows.mapM (rowEntry hooks payTo) = .ok entries) ↔
      ∀ row ∈ rows, HasConfig row ∧ HasGlob row ∧ HasGate hooks payTo row := by
    simp only [exists_mapM_eq_ok_iff, exists_rowEntry_iff]
  rw [← hEach]
  simp only [Gates.build_table_eq_ok_iff hTable, mapM_eq_ok_iff, rowEntry_eq_ok_iff]
  constructor
  · rintro ⟨gates, h⟩
    exact ⟨gates.entries, h⟩
  · rintro ⟨entries, h⟩
    exact ⟨⟨entries⟩, h⟩

/-- Setting up fails in one of its passes, after those before it have succeeded. -/
theorem Gates.build_table_eq_error_iff (hTable : ∀ row ∈ rows, row.1 ≠ "price") {f : Failure} :
    Gates.build hooks payTo (.table rows) = .error f ↔
      (∃ e, rows.mapM rowConfig = .error e ∧ Failure.setup e = f) ∨
      (∀ row ∈ rows, HasConfig row) ∧
        ((∃ e, rows.mapM rowPattern = .error e ∧ Failure.setup e = f) ∨
        (∀ row ∈ rows, HasGlob row) ∧ rows.mapM (rowEntry hooks payTo) = .error f) := by
  have hConfigs : (∃ named, rows.mapM rowConfig = .ok named) ↔ ∀ row ∈ rows, HasConfig row := by
    simp only [exists_mapM_eq_ok_iff, exists_rowConfig_iff]
  have hPatterns : (∃ patterns, rows.mapM rowPattern = .ok patterns) ↔
      ∀ row ∈ rows, HasConfig row ∧ HasGlob row := by
    simp only [exists_mapM_eq_ok_iff, exists_rowPattern_iff]
  rw [Gates.build_table hTable, bind_eq_error_iff, mapError_eq_error_iff]
  refine or_congr_right ?_
  simp only [bind_eq_error_iff, mapError_eq_error_iff, mapError_eq_ok_iff]
  constructor
  · rintro ⟨named, hNamed, hRest⟩
    refine ⟨hConfigs.mp ⟨named, hNamed⟩, hRest.imp_right ?_⟩
    rintro ⟨patterns, hEach, hEntries | ⟨entries, -, hNot⟩⟩
    · exact ⟨fun row hMem => (hPatterns.mp ⟨patterns, hEach⟩ row hMem).2, hEntries⟩
    · cases hNot
  · rintro ⟨hEach, hRest⟩
    obtain ⟨named, hNamed⟩ := hConfigs.mpr hEach
    refine ⟨named, hNamed, hRest.imp_right ?_⟩
    rintro ⟨hGlobs, hEntries⟩
    obtain ⟨patterns, hp⟩ := hPatterns.mpr (fun row hMem => ⟨hEach row hMem, hGlobs row hMem⟩)
    exact ⟨patterns, hp, Or.inl hEntries⟩

/-- **Setting up a table.** Either every row has a configuration, a glob and a gate, and there is
one gate for each row in the order of the table; or setting up fails, and it tells the first
problem. -/
theorem Gates.build_table_outcome (hConvert : hooks.convert = standardConverter)
    (hTable : ∀ row ∈ rows, row.1 ≠ "price")
    (hReady : ∀ key c, (key, Entry.config c) ∈ rows → c.WasRead) :
    ((∃ gates, Gates.build hooks payTo (.table rows) = .ok gates) ↔
      ∀ row ∈ rows, HasConfig row ∧ HasGlob row ∧ HasGate hooks payTo row) ∧
    (∀ gates, Gates.build hooks payTo (.table rows) = .ok gates →
      List.Forall₂ (BuiltFrom hooks payTo) rows gates.entries) ∧
    ∀ f, Gates.build hooks payTo (.table rows) = .error f ↔ FirstProblem hooks payTo rows f := by
  refine ⟨Gates.exists_build_table_iff hTable,
    fun gates => (Gates.build_table_eq_ok_iff hTable).mp, fun f => ?_⟩
  rw [Gates.build_table_eq_error_iff hTable]
  -- each pass that may fail goes with one kind of problem
  constructor
  · rintro (⟨e, hError, rfl⟩ | ⟨hConfigs, ⟨e, hError, rfl⟩ | ⟨hGlobs, hError⟩⟩)
    · exact .config (configs_eq_error_iff.mp hError)
    · exact .key hConfigs ((patterns_eq_error_iff hConfigs).mp hError)
    · exact .gate hConfigs hGlobs
        ((entries_eq_error_iff hConvert hReady hConfigs hGlobs).mp hError)
  · intro h
    cases h with
    | config hFirst => exact Or.inl ⟨_, configs_eq_error_iff.mpr hFirst, rfl⟩
    | key hConfigs hFirst =>
        exact Or.inr ⟨hConfigs, Or.inl ⟨_, (patterns_eq_error_iff hConfigs).mpr hFirst, rfl⟩⟩
    | gate hConfigs hGlobs hFirst =>
        have hError := (entries_eq_error_iff hConvert hReady hConfigs hGlobs).mpr hFirst
        exact Or.inr ⟨hConfigs, Or.inr ⟨hGlobs, hError⟩⟩

end Build

/-! ## A table with two problems

The key in front has no glob, and what stands at the last key is no configuration. -/

namespace Flawed

/-- Who is paid. -/
def payTo : String := "0x209693Bc6afc0C5328bA36FaF03C514EF312287C"

/-- A configuration that is ready. -/
def ready : Config := ⟨.text "$1", .base, none⟩

/-- The table. -/
def rows : List Row :=
  [("GET ", .value (.text "$0.01")), ("/a", .config ready), ("/b", .value .null)]

theorem ready_wasRead : ready.WasRead :=
  ⟨.object [("price", .text "$1"), ("network", .text "base")], rfl⟩

end Flawed

/-- The last row is what setting up fails with. -/
theorem build_table_outcome_flawed :
    (Http.requestHooks .plain).convert = standardConverter ∧
      (∀ row ∈ Flawed.rows, row.1 ≠ "price") ∧
      (∀ key c, (key, Entry.config c) ∈ Flawed.rows → c.WasRead) ∧
      ¬ HasGlob ("GET ", .value (.text "$0.01")) ∧
      Gates.build (Http.requestHooks .plain) Flawed.payTo (.table Flawed.rows) =
        .error (.setup (.invalidConfig "/b" ⟨"RouteConfig", [⟨[], .notRecord⟩]⟩)) := by
  have hTable : ∀ row ∈ Flawed.rows, row.1 ≠ "price" := by decide
  have hReady : ∀ key c, (key, Entry.config c) ∈ Flawed.rows → c.WasRead := by
    intro key c hMem
    simp only [Flawed.rows, List.mem_cons, Prod.mk.injEq, reduceCtorEq, and_false, false_or,
      or_false, List.not_mem_nil, Entry.config.injEq] at hMem
    rw [hMem.2]
    exact Flawed.ready_wasRead
  have hConfigs : ∀ row ∈ Flawed.rows.take 2, HasConfig row := by
    show ∀ row ∈ [("GET ", Entry.value (.text "$0.01")), ("/a", .config Flawed.ready)], _
    simp only [List.forall_mem_cons]
    exact ⟨⟨⟨.text "$0.01", .baseSepolia, none⟩, rfl⟩, ⟨Flawed.ready, rfl⟩, by simp⟩
  refine ⟨rfl, hTable, hReady, ?_, ?_⟩
  · rintro ⟨verb, glob, hParts, hSome⟩
    have hSplit := splitKey_of_parts hParts
    exact hSome (Prod.mk.inj hSplit).2.symm
  · have hError : ∀ f,
        Gates.build (Http.requestHooks .plain) Flawed.payTo (.table Flawed.rows) = .error f ↔
        FirstProblem (Http.requestHooks .plain) Flawed.payTo Flawed.rows f :=
      (Gates.build_table_outcome rfl hTable hReady).2.2
    exact (hError _).mpr (.config ⟨Flawed.rows.take 2, _, [], rfl, hConfigs, rfl⟩)

end Gate

end Tollgate
