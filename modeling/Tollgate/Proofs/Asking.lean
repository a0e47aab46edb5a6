import Tollgate.Proofs.Problems
import Tollgate.Proofs.Refusal
import Tollgate.Proofs.Writable

set_option autoImplicit false

/-! # Asking for payment

A refused request is answered with JSON text, and a value may be one that has none. Nothing of
this kind is looked at when a table is set up: the schemas of a configuration may hold any number
and be nested to any depth, the time that a payment may take may have any number of digits, and any
text may hold a surrogate. `serve_asks` gives the exact condition under which a route asks for
payment (`Asks`), for every platform, as it depends on the platform how deep a value may be. Where
the condition does not hold, the request fails instead (`serve_asks_nan`).
-/

namespace Tollgate

open Tollgate.Text

namespace Json

theorem Members.membersWritable_put {members : Members} {name : LooseText} {v : Value}
    (h : Value.MembersWritable members) (hName : name.IsClean) (hv : v.IsWritable) :
    Value.MembersWritable (members.put name v) := by
  induction members with
  | nil => exact ⟨hName, hv, trivial⟩
  | cons member members ih =>
      unfold Members.put
      split
      · exact ⟨hName, hv, h.2.2⟩
      · exact ⟨h.1, h.2.1, ih h.2.2⟩

theorem Members.membersWritable_putAll {members others : Members}
    (h : Value.MembersWritable members) (hOthers : Value.MembersWritable others) :
    Value.MembersWritable (members.putAll others) := by
  induction others generalizing members with
  | nil => exact h
  | cons other others ih =>
      exact ih (membersWritable_put h hOthers.1 hOthers.2.1) hOthers.2.2

end Json

/-! ## The body of a refusal -/

namespace Chain

/-- The texts of a signing domain hold no surrogates. -/
structure SigningDomain.IsClean (d : SigningDomain) : Prop where
  name : d.name.IsClean
  version : d.version.IsClean

theorem Network.isClean_stablecoinDomain (n : Network) : n.stablecoinDomain.IsClean := by
  cases n <;> exact ⟨LooseText.isClean_whole _, LooseText.isClean_whole _⟩

end Chain

namespace Payment

open Tollgate.Number Tollgate.Json Tollgate.Schema Tollgate.Chain

/-- The parts of a requirement can be written. -/
structure Requirement.IsWritable (r : Requirement) : Prop where
  texts : ∀ t ∈ [r.scheme, r.resource, r.description, r.mimeType, r.payTo, r.asset], t.IsClean
  schema : r.outputSchema.sparse.IsWritable
  time : isOverlong r.maxTimeoutSeconds = false
  extra : ∀ details, r.extra = some details → (Value.object details).sparse.IsWritable

/-- A requirement can be written if its parts can. -/
theorem Requirement.isWritable_toSparseValue {r : Requirement} :
    r.toSparseValue.IsWritable ↔ r.IsWritable := by
  have hNames : ∀ member ∈ Value.sparseMembers r.members, member.1.IsClean := by
    have hAll : ∀ name ∈ shownNames, name.IsClean := by
      simp only [shownNames, List.forall_mem_cons, LooseText.isClean_whole, true_and,
        List.not_mem_nil, false_implies, implies_true]
    intro member hMem
    refine hAll _ ?_
    rw [← map_fst_sparseMembers r]
    exact List.mem_map_of_mem hMem
  have hExtra : (Value.orNull (r.extra.map .object)).sparse.IsWritable ↔
      ∀ extra, r.extra = some extra → (Value.object extra).sparse.IsWritable := by
    cases r.extra with
    | none => exact iff_of_true trivial (fun _ h => by cases h)
    | some extra => simp [Value.orNull]
  unfold toSparseValue
  rw [Value.IsWritable, Value.membersWritable_dropNulls hNames]
  simp only [members, Value.sparseMembers, Value.MembersWritable, LooseText.isClean_whole,
    Value.sparse_ofLoose, Value.isWritable_ofLoose, hExtra, true_and, and_true]
  constructor
  · rintro ⟨hScheme, -, -, hResource, hDescription, hMimeType, hSchema, hPayTo, hTime, hAsset,
      hDetails⟩
    refine ⟨?_, hSchema, hTime, hDetails⟩
    simp only [List.forall_mem_cons]
    exact ⟨hScheme, hResource, hDescription, hMimeType, hPayTo, hAsset, by simp⟩
  · rintro ⟨hTexts, hSchema, hTime, hDetails⟩
    simp only [List.forall_mem_cons] at hTexts
    obtain ⟨hScheme, hResource, hDescription, hMimeType, hPayTo, hAsset, -⟩ := hTexts
    exact ⟨hScheme, trivial, trivial, hResource, hDescription, hMimeType, hSchema, hPayTo, hTime,
      hAsset, hDetails⟩

theorem isWritable_domainMembers {d : SigningDomain} :
    (Value.object (domainMembers d)).sparse.IsWritable ↔ d.IsClean := by
  simp only [domainMembers, Value.sparse, Value.sparseMembers, Value.sparse_ofLoose,
    Value.IsWritable, Value.MembersWritable, LooseText.isClean_whole, Value.isWritable_ofLoose,
    true_and, and_true]
  exact ⟨fun h => ⟨h.1, h.2⟩, fun h => ⟨h.name, h.version⟩⟩

theorem nesting_domainMembers (d : SigningDomain) :
    (Value.object (domainMembers d)).nesting = 1 := by
  simp [domainMembers, Value.nesting, Value.membersNesting]

/-- An entry is as deep as the deeper one of its schema and its details, and one more. -/
theorem Requirement.nesting_toSparseValue (r : Requirement) : r.toSparseValue.nesting =
    max r.outputSchema.nesting (Value.orNull (r.extra.map .object)).nesting + 1 := by
  unfold toSparseValue
  rw [Value.nesting, Value.membersNesting_dropNulls, Value.membersNesting_sparse]
  simp only [members, Value.membersNesting, Value.nesting_ofLoose, Value.nesting, Nat.zero_max,
    Nat.max_zero]

/-- The body of a refusal can be written if its message, its payer and its requirements can. -/
theorem Refusal.isWritable_body {r : Refusal Failure} :
    r.body.IsWritable ↔ r.message.IsClean ∧ (∀ p, r.payer = some p → p.IsClean) ∧
      ∀ requirement ∈ r.accepts, requirement.IsWritable := by
  have hVersion : (Value.int protocolVersion).IsWritable :=
    isOverlong_of_lt (by decide)
  have hAccepts : (Value.array (r.accepts.map Requirement.toSparseValue)).IsWritable ↔
      ∀ requirement ∈ r.accepts, requirement.IsWritable := by
    rw [Value.IsWritable, Value.itemsWritable_iff, List.forall_mem_map]
    simp only [Requirement.isWritable_toSparseValue]
  have hPayer : (∀ p, r.payer = some p → p.IsClean) ↔
      ∀ p, r.payer = some p → (Value.ofLoose p).IsWritable := by
    simp only [Value.isWritable_ofLoose]
  rw [← hAccepts, ← Value.isWritable_ofLoose, hPayer]
  show Value.MembersWritable (refusalMembers r.message r.accepts r.payer) ↔ _
  unfold refusalMembers
  rw [Value.membersWritable_iff]
  cases r.payer with
  | none =>
      simp only [List.append_nil, List.forall_mem_cons, LooseText.isClean_whole, hVersion, true_and,
        reduceCtorEq, false_implies, implies_true, List.not_mem_nil, and_true]
  | some p =>
      simp only [List.cons_append, List.nil_append, List.forall_mem_cons, LooseText.isClean_whole,
        hVersion, true_and, List.not_mem_nil, false_implies, implies_true, and_true,
        Option.some.injEq, forall_eq']
      exact and_congr_right fun _ => And.comm

/-- A body with one requirement is three containers deep, and deeper with a schema of its own. -/
theorem Refusal.nesting_body {r : Refusal Failure} {requirement : Requirement}
    (h : r.accepts = [requirement]) : r.body.nesting = requirement.toSparseValue.nesting + 2 := by
  show Value.membersNesting (refusalMembers r.message r.accepts r.payer) + 1 = _
  unfold refusalMembers
  rw [h]
  cases r.payer <;>
    simp [Value.membersNesting, Value.nesting, Value.itemsNesting, Value.nesting_ofLoose]

/-! ## What a gate advertises -/

/-- An amount of the standard converter comes with a signing domain: that of the token, or that of
a stablecoin. -/
theorem exists_domain_of_atomicAmount {price : Price} {network : String} {a : AtomicAmount}
    (h : atomicAmount standardConverter price network = .ok a) :
    ∃ d, a.domain = .object (domainMembers d) ∧
      ((∀ t, price = .token t → t.asset.domain.IsClean) → d.IsClean) := by
  unfold atomicAmount at h
  simp only at h
  split at h
  · cases h
  · rename_i conversion hConvert
    rcases parts_of_standardConverter hConvert with ⟨t, ht, rfl⟩ | ⟨-, amount, n, rfl⟩
    all_goals
      obtain ⟨_, -, hRest⟩ := bind_eq_ok_iff.mp h
      cases hRest
    · exact ⟨_, rfl, fun hClean => hClean t (Price.forConversion_eq_token_iff.mp ht)⟩
    · exact ⟨_, rfl, fun _ => n.isClean_stablecoinDomain⟩

end Payment

namespace Route

open Tollgate.Number Tollgate.Json Tollgate.Schema Tollgate.Payment

/-- The details of a requirement are the signing domain that the standard converter returned. -/
theorem Parts.exists_domain {payTo : String} {resource : LooseText} {c : Config}
    {method : Option String} {r : Requirement} {atomic : AtomicAmount}
    (h : Parts standardConverter payTo c resource method r atomic) :
    ∃ d, r.extra = some (domainMembers d) ∧
      ((∀ t, c.price = .token t → t.asset.domain.IsClean) → d.IsClean) := by
  obtain ⟨d, hDomain, hClean⟩ := exists_domain_of_atomicAmount h.amount
  have hExtra := h.extra
  rw [hDomain] at hExtra
  exact ⟨d, (Validated.valid.inj hExtra).symm, hClean⟩

/-- What a configuration gives to be advertised can be written: its schemas, the time that a payment
may take, and its texts. -/
structure Config.IsWritable (c : Config) : Prop where
  output : ∀ d, c.details = some d → d.outputSchema.IsWritable
  input : ∀ d members, c.details = some d → d.inputSchema = some members →
    Value.MembersWritable members
  time : isOverlong c.maxTimeoutSeconds = false
  description : c.description.IsClean
  mimeType : c.mimeType.IsClean
  resource : ∀ resource, c.staticResource? = some resource → resource.IsClean
  domain : ∀ t, c.price = .token t → t.asset.domain.IsClean

/-- The schema that is advertised for a method can be written if those that are configured can. -/
theorem Config.IsWritable.outputSchema {c : Config} (h : c.IsWritable) (method : Option String) :
    (c.outputSchema method).IsWritable := by
  unfold Config.outputSchema
  cases hDetails : c.details with
  | none => trivial
  | some d =>
      have hOutput := h.output d hDetails
      have hInput : Value.MembersWritable (d.inputSchema.getD []) := by
        cases hInput : d.inputSchema with
        | none => trivial
        | some members => exact h.input d members hDetails hInput
      simp only [advertisedSchema]
      split
      · exact hOutput
      · have hOwn : Value.MembersWritable (httpInput d.inputSchema d.discoverable method) := by
          refine Members.membersWritable_putAll ?_ hInput
          -- the members in front of the input schema are texts and a truth value
          rw [Value.membersWritable_iff]
          cases method with
          | none => simp [LooseText.isClean_whole, Value.IsWritable]
          | some m =>
              by_cases hm : m = ""
              · simp [hm, LooseText.isClean_whole, Value.IsWritable]
              · simp [hm, LooseText.isClean_whole, Value.IsWritable]
        exact ⟨LooseText.isClean_whole _, hOwn, LooseText.isClean_whole _, hOutput, trivial⟩

end Route

namespace Http

open Tollgate.Number Tollgate.Chain Tollgate.Json Tollgate.Payment Tollgate.Route Tollgate.Gate

/-- A gate asks for payment with a refusal that lists some requirements: what the route advertises
can be written, there is room for its schema inside of the body, and no words of others hold a
surrogate. -/
structure Asks (p : Platform) (g : Gate Request) (rs : List Requirement) (r : Refusal Failure) :
    Prop where
  schema : g.template.outputSchema.sparse.IsWritable
  /-- The schema stands in an entry, the entry in a list, and the list in the body. The details of
  an entry are an object as well. -/
  depth : max 1 g.template.outputSchema.nesting + 3 ≤ p.writingDepth
  time : isOverlong g.template.maxTimeoutSeconds = false
  description : g.template.description.IsClean
  mimeType : g.template.mimeType.IsClean
  resource : ∀ requirement ∈ rs, requirement.resource.IsClean
  domain : ∃ d, g.template.extra = some (domainMembers d) ∧ d.IsClean
  message : r.message.IsClean
  payer : ∀ p, r.payer = some p → p.IsClean

namespace Shop

/-- The report for a cent, of which NaN is told. -/
def nanRoutes : Routes :=
  .ofRows [("GET /report", .value (.object
    [("price", .text "$0.01"),
     ("config", .object [("outputSchema", .object [("x", .float .nan)])])]))]

/-- The gates of the shop with NaN. -/
def nanEnforcement : Enforcement :=
  ((Enforcement.build .plain payTo nanRoutes {}).toOption).getD ⟨.plain, ⟨[]⟩, {}⟩

/-- A request for the report, without payment. -/
def bareRequest : Request :=
  { request with headers := [("Host", "shop.example")] }

end Shop

variable {platform : Platform} {payTo : String} {routes : Routes} {branding : Branding}
  {e : Enforcement} {request : Request} {events : List (Event Response)}
  {outcome : Except Failure Response}

/-- A body that can be written and has room is sent as JSON text, from which it is read. -/
theorem exists_refusalResponse {r : Refusal Failure} (h : r.body.IsWritable)
    (hRoom : r.body.nesting ≤ platform.writingDepth) :
    ∃ text, refusalResponse platform r =
        .ok (Response.ofText paymentRequired Response.jsonType text) ∧
      ∀ limits : Limits, r.body.nesting ≤ limits.depth → digitLimit ≤ limits.digits →
        Json.read limits text = .ok r.body.reread := by
  obtain ⟨text, hText, hRead⟩ := exists_write isLegible_compact h hRoom
  refine ⟨text, ?_, hRead⟩
  unfold refusalResponse Response.ofJson
  rw [hText]
  rfl

/-- A body that cannot be written, or has no room, is an error in the place of an answer. -/
theorem exists_unwritable {r : Refusal Failure}
    (h : ¬ (r.body.IsWritable ∧ r.body.nesting ≤ platform.writingDepth)) :
    ∃ fault, refusalResponse platform r = .error (.unwritable fault) := by
  obtain ⟨fault, hFault⟩ := exists_fault h
  refine ⟨fault, ?_⟩
  unfold refusalResponse Response.ofJson
  rw [hFault]
  rfl

/-- The template of a gate that is found is made of a configuration. -/
theorem exists_parts_of_gate? (he : Enforcement.build platform payTo routes branding = .ok e)
    {g : Gate Request} (hg : e.gate? request = some g) :
    ∃ method resource atomic,
      Parts standardConverter payTo g.config resource method g.template atomic := by
  obtain ⟨c, method, hBuild⟩ := Enforcement.exists_build_of_gate? he hg
  obtain ⟨-, hTemplate, rfl, -⟩ := build_eq_ok_iff.mp hBuild
  exact ⟨method, _, exists_parts_of_requirement hTemplate⟩

/-- The body of a refusal can be written just if the gate asks with it. -/
theorem isWritable_body_iff (he : Enforcement.build platform payTo routes branding = .ok e)
    {g : Gate Request} (hg : e.gate? request = some g) {rs : List Requirement}
    (hRs : g.requirements request = .ok rs) {r : Refusal Failure} (hAccepts : r.accepts = rs) :
    (r.body.IsWritable ∧ r.body.nesting ≤ e.platform.writingDepth) ↔ Asks e.platform g rs r := by
  obtain ⟨method, resource, atomic, hParts⟩ := exists_parts_of_gate? he hg
  obtain ⟨payee, -, hPayTo⟩ := hParts.payTo
  obtain ⟨address, -, hAsset⟩ := hParts.asset
  obtain ⟨d, hExtra, -⟩ := hParts.exists_domain
  obtain ⟨told, -, rfl⟩ := map_eq_ok_iff.mp hRs
  -- the signing domain is one object, so the schema decides how deep the entry is
  have hNesting : (Value.orNull (g.template.extra.map .object)).nesting = 1 := by
    rw [hExtra]
    exact nesting_domainMembers d
  have hRoom : r.body.nesting = max 1 g.template.outputSchema.nesting + 3 := by
    rw [Refusal.nesting_body hAccepts, Requirement.nesting_toSparseValue, hNesting, Nat.max_comm]
  rw [Refusal.isWritable_body, hAccepts, List.forall_mem_singleton, hRoom]
  constructor
  · rintro ⟨⟨hMessage, hPayer, hRequirement⟩, hDepth⟩
    exact
      { schema := hRequirement.schema
        depth := hDepth
        time := hRequirement.time
        description := hRequirement.texts _ (by simp)
        mimeType := hRequirement.texts _ (by simp)
        resource := List.forall_mem_singleton.mpr (hRequirement.texts _ (by simp))
        domain := ⟨d, hExtra, isWritable_domainMembers.mp (hRequirement.extra _ hExtra)⟩
        message := hMessage
        payer := hPayer }
  · intro h
    refine ⟨⟨h.message, h.payer, ?_⟩, h.depth⟩
    refine ⟨?_, h.schema, h.time, ?_⟩
    · simp only [hParts.scheme, hPayTo, hAsset, List.forall_mem_cons, LooseText.isClean_whole]
      exact ⟨trivial, h.resource _ (List.mem_singleton.mpr rfl), h.description, h.mimeType, trivial,
        trivial, by simp⟩
    · intro details hSome
      obtain ⟨d', hDomain, hClean⟩ := h.domain
      rw [hDomain] at hSome
      cases hSome
      exact isWritable_domainMembers.mpr hClean

/-- The resource that is named for a request is the configured one or the URL of the request, which
is a text without surrogates. -/
theorem isClean_resource (he : Enforcement.build platform payTo routes branding = .ok e)
    {g : Gate Request} (hg : e.gate? request = some g) (hConfig : g.config.IsWritable)
    {resource : LooseText} (hTold : g.source.resource request = .ok resource) :
    resource.IsClean := by
  obtain ⟨c, method, hBuild⟩ := Enforcement.exists_build_of_gate? he hg
  obtain ⟨hSource, -, rfl, -⟩ := build_eq_ok_iff.mp hBuild
  unfold Gate.sourceOf? at hSource
  split at hSource
  · rename_i given hGiven
    rw [← Option.some.inj hSource] at hTold
    cases hTold
    exact hConfig.resource _ hGiven
  · rw [← Option.some.inj hSource] at hTold
    obtain ⟨url, -, rfl⟩ := map_eq_ok_iff.mp hTold
    exact LooseText.isClean_whole url

/-- A route with a writable configuration asks for payment whatever happens, as long as there is
room for its schema and no words of others hold a surrogate. -/
theorem asks_of_config (he : Enforcement.build platform payTo routes branding = .ok e)
    {g : Gate Request} (hg : e.gate? request = some g) {rs : List Requirement}
    (hRs : g.requirements request = .ok rs) (hConfig : g.config.IsWritable)
    (hRoom : max 1 g.template.outputSchema.nesting + 3 ≤ e.platform.writingDepth)
    {r : Refusal Failure} (hMessage : r.message.IsClean)
    (hPayer : ∀ p, r.payer = some p → p.IsClean) : Asks e.platform g rs r := by
  obtain ⟨method, resource, atomic, hParts⟩ := exists_parts_of_gate? he hg
  obtain ⟨d, hExtra, hDomain⟩ := hParts.exists_domain
  have hResource : ∀ requirement ∈ rs, requirement.resource.IsClean := by
    obtain ⟨told, hTold, rfl⟩ := map_eq_ok_iff.mp hRs
    exact List.forall_mem_singleton.mpr (isClean_resource he hg hConfig hTold)
  exact
    { schema := by
        rw [hParts.outputSchema]
        exact (hConfig.outputSchema method).sparse
      depth := hRoom
      time := by
        rw [hParts.time]
        exact hConfig.time
      description := by
        rw [hParts.description]
        exact hConfig.description
      mimeType := by
        rw [hParts.mimeType]
        exact hConfig.mimeType
      resource := hResource
      domain := ⟨d, hExtra, hDomain hConfig.domain⟩
      message := hMessage
      payer := hPayer }

/-- **When a route asks for payment.** A refusal that the gate of a protected route raises is
answered with JSON text of its body, from which every reader whose limits allow it reads what the
body shows, if the gate asks with it; otherwise the request fails, and nothing is answered. -/
theorem serve_asks (he : Enforcement.build platform payTo routes branding = .ok e)
    {g : Gate Request} (hg : e.gate? request = some g)
    (hc : (e.serve request).Course events (.done outcome)) :
    ∃ rs, g.requirements request = .ok rs ∧ ∀ r, Raised g request rs events r →
      ¬ IsForeign events r →
      (Asks e.platform g rs r →
        ∃ text, outcome = .ok (Response.ofText paymentRequired Response.jsonType text) ∧
          ∀ limits : Limits, r.body.nesting ≤ limits.depth → digitLimit ≤ limits.digits →
            Json.read limits text = .ok r.body.reread) ∧
      (¬ Asks e.platform g rs r → ∃ fault, outcome = .error (.unwritable fault)) := by
  obtain ⟨rs, hRs⟩ := Enforcement.exists_requirements he hg
  rw [Enforcement.serve_of_gate? hg] at hc
  refine ⟨rs, hRs, fun r hRaised hOwn => ?_⟩
  -- a refusal of the gate's own lists the requirements of this request
  have hBody := isWritable_body_iff he hg hRs (hRaised.parts hOwn).1
  rw [outcome_of_raised hRs hc hRaised]
  constructor
  · intro hAsks
    obtain ⟨hWritable, hRoom⟩ := hBody.mpr hAsks
    exact exists_refusalResponse hWritable hRoom
  · intro hAsks
    exact exists_unwritable (mt hBody.mp hAsks)

/-- The route of the shop has no details that could not be written. -/
theorem Shop.isWritable_config {g : Gate Request}
    (hg : Shop.enforcement.gate? Shop.request = some g) : g.config.IsWritable := by
  have hConfig : (Shop.enforcement.gate? Shop.request).map
      (fun g => (g.config.details.isNone, g.config.price.isMoney)) = some (true, true) := by
    decide +kernel
  rw [hg] at hConfig
  obtain ⟨hNone, hMoney⟩ := Prod.mk.inj (Option.some.inj hConfig)
  have hDetails : g.config.details = none := Option.isNone_iff_eq_none.mp hNone
  exact
    { output := by simp [hDetails]
      input := by simp [hDetails]
      time := by
        simp only [Config.maxTimeoutSeconds, hDetails]
        exact isOverlong_of_lt (by decide)
      description := by
        simp only [Config.description, hDetails]
        exact LooseText.isClean_whole _
      mimeType := by
        simp only [Config.mimeType, hDetails]
        exact LooseText.isClean_whole _
      resource := by simp [Config.staticResource?, hDetails]
      domain := by
        intro t hToken
        rw [hToken] at hMoney
        cases hMoney }

/-- In the shop, whose route has no further details, the refusal of a settlement that is denied is
answered with JSON text. -/
theorem serve_asks_shop : ∃ g rs call r text,
    Shop.enforcement.gate? Shop.request = some g ∧
    Raised g Shop.request rs (Shop.events call Shop.denied) r ∧
    ¬ IsForeign (Shop.events call Shop.denied) r ∧ Asks .plain g rs r ∧
    (Shop.enforcement.serve Shop.request).Course (Shop.events call Shop.denied)
      (.done (.ok (Response.ofText paymentRequired Response.jsonType text))) ∧
    Json.read ⟨r.body.nesting, digitLimit⟩ text = .ok r.body.reread := by
  obtain ⟨g, rs, call, hg, hRs, hc, hRaised⟩ := Shop.exists_raised
  have hOwn := Shop.not_isForeign_denied call (settlementRefusal rs (.ok Shop.denied))
  have hConfig : g.config.IsWritable := Shop.isWritable_config hg
  have hRoom :
      max 1 g.template.outputSchema.nesting + 3 ≤ Shop.enforcement.platform.writingDepth := by
    have hNesting : (Shop.enforcement.gate? Shop.request).map
        (fun g => g.template.outputSchema.nesting) = some 0 := by
      decide +kernel
    rw [hg] at hNesting
    have hFlat : g.template.outputSchema.nesting = 0 := Option.some.inj hNesting
    rw [hFlat, Shop.platform_eq]
    decide
  have hAsks : Asks .plain g rs (settlementRefusal rs (.ok Shop.denied)) := by
    refine Shop.platform_eq ▸
      asks_of_config Shop.build_eq hg hRs hConfig hRoom (LooseText.isClean_whole _) ?_
    intro p hp
    cases hp
    exact LooseText.isClean_whole _
  obtain ⟨rs', hRs', hAll⟩ := serve_asks Shop.build_eq hg hc
  obtain rfl := Except.ok.inj (hRs.symm.trans hRs')
  obtain ⟨text, hOutcome, hRead⟩ := (hAll _ hRaised hOwn).1 (Shop.platform_eq ▸ hAsks)
  rw [hOutcome] at hc
  exact ⟨g, rs, call, _, text, hg, hRaised, hOwn, hAsks, hc,
    hRead _ (Nat.le_refl _) (Nat.le_refl _)⟩

/-- A table with a route that advertises NaN is set up, but a request for the route that brings no
payment is not asked for one: it fails instead. -/
theorem serve_asks_nan : ∃ g rs r fault,
    Enforcement.build .plain Shop.payTo Shop.nanRoutes {} = .ok Shop.nanEnforcement ∧
    Shop.nanEnforcement.gate? Shop.bareRequest = some g ∧
    Raised g Shop.bareRequest rs ([] : List (Event Response)) r ∧
    ¬ IsForeign ([] : List (Event Response)) r ∧
    (Shop.nanEnforcement.serve Shop.bareRequest).Course []
      (.done (.error (.unwritable fault))) := by
  have hBuild : Enforcement.build .plain Shop.payTo Shop.nanRoutes {} = .ok Shop.nanEnforcement :=
    eq_ok_of_isOk (by decide +kernel) _
  have hGate : (Shop.nanEnforcement.gate? Shop.bareRequest).map
      (fun g => partFault? .compact 1 g.template.outputSchema.sparse) = some (some .nonFinite) := by
    decide +kernel
  obtain ⟨g, hg, hFault⟩ := Option.map_eq_some_iff.mp hGate
  obtain ⟨rs, hRs⟩ := Enforcement.exists_requirements hBuild hg
  have hHooks := Enforcement.gate?_hooks hBuild hg
  have hExtract : g.hooks.extract Shop.bareRequest = .ok none := by
    rw [hHooks]
    rfl
  have hPaywall : g.showsPaywall Shop.bareRequest = false := by
    unfold Gate.showsPaywall
    rw [hHooks]
    decide
  have hAcquired : Acquisition g Shop.bareRequest rs ([] : List (Event Response))
      (.error (.refused ⟨.paymentMissing, rs, none⟩)) := .missing hExtract hPaywall
  have hEnding : Ending Shop.nanEnforcement.platform g Shop.nanEnforcement.branding Shop.bareRequest
      rs [] (answerFailure Shop.nanEnforcement.platform (.refused ⟨.paymentMissing, rs, none⟩)) :=
    .unpaid hAcquired
  -- a body that could be sent would hold a schema without NaN
  have hRefused : ¬ ((Refusal.body ⟨.paymentMissing, rs, none⟩).IsWritable ∧
      (Refusal.body ⟨.paymentMissing, rs, none⟩).nesting ≤
        Shop.nanEnforcement.platform.writingDepth) := by
    intro hWritable
    have hAsks := (isWritable_body_iff hBuild hg hRs rfl).mp hWritable
    rw [partFault?_of_isWritable .compact hAsks.schema] at hFault
    split at hFault <;> cases hFault
  obtain ⟨fault, hResponse⟩ := exists_unwritable hRefused
  refine ⟨g, rs, _, fault, hBuild, hg, .acquiring (course_of_acquisition hAcquired), ?_, ?_⟩
  · simp [IsForeign]
  · have hCourse := guarded_of_ending hRs hEnding
    rw [Enforcement.serve_of_gate? hg, ← hResponse]
    exact hCourse

end Http

end Tollgate
