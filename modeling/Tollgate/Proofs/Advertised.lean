import Tollgate.Proofs.Keys
import Tollgate.Proofs.Lookup
import Tollgate.Proofs.Problems

set_option autoImplicit false

/-! # What a route advertises

A requirement tells how its route is called. The input that it advertises is merged from members of
its own and from the input schema of the configuration, which has the last word for every name
(`InputHas`, `Advertises`). The method among these members is the one of the route's key. A request
that finds the route has no other method, so what is advertised agrees with what is enforced
(`Gates.find?_advertises`).
-/

namespace Tollgate

/-! ## Members that are merged -/

namespace Json.Members

open Tollgate.Text

variable {members others : Members} {name : LooseText}

/-- Members of other names leave a member as it is. -/
theorem get?_putAll_of_absent (h : ∀ m ∈ others, m.1 ≠ name) :
    (members.putAll others).get? name = members.get? name := by
  induction others generalizing members with
  | nil => rfl
  | cons other others ih =>
      obtain ⟨hName, hRest⟩ := List.forall_mem_cons.mp h
      exact (ih hRest).trans (get?_put_of_ne members other.2 hName.symm)

/-- Of several members with one name, the last is left. -/
theorem get?_putAll_of_last {front back : Members} {v : Value} (h : ∀ m ∈ back, m.1 ≠ name) :
    (members.putAll (front ++ (name, v) :: back)).get? name = some v := by
  have hSplit : members.putAll (front ++ (name, v) :: back) =
      ((members.putAll front).put name v).putAll back := List.foldl_append
  rw [hSplit, get?_putAll_of_absent h, get?_put_self]

/-- A name that occurs has a last member. -/
theorem exists_last (h : ¬ ∀ m ∈ members, m.1 ≠ name) :
    ∃ front v back, members = front ++ (name, v) :: back ∧ ∀ m ∈ back, m.1 ≠ name := by
  induction members with
  | nil => exact absurd (fun m hm => absurd hm List.not_mem_nil) h
  | cons m members ih =>
      by_cases hRest : ∀ m ∈ members, m.1 ≠ name
      · have hName : m.1 = name := by
          by_contra hOther
          exact h (List.forall_mem_cons.mpr ⟨hOther, hRest⟩)
        exact ⟨[], m.2, members, by rw [← hName]; rfl, hRest⟩
      · obtain ⟨front, v, back, rfl, hBack⟩ := ih hRest
        exact ⟨m :: front, v, back, rfl, hBack⟩

theorem mem_names_put {v : Value} {other : LooseText} :
    other ∈ (members.put name v).map Prod.fst ↔ other = name ∨ other ∈ members.map Prod.fst := by
  induction members with
  | nil => simp [put]
  | cons m members ih =>
      unfold put
      split
      · rename_i hSame
        simp [hSame]
      · rw [List.map_cons, List.map_cons, List.mem_cons, List.mem_cons, ih]
        exact or_left_comm

theorem nodup_put {v : Value} (h : (members.map Prod.fst).Nodup) :
    ((members.put name v).map Prod.fst).Nodup := by
  induction members with
  | nil => exact List.nodup_singleton name
  | cons m members ih =>
      obtain ⟨hHead, hRest⟩ := List.nodup_cons.mp h
      unfold put
      split
      · rename_i hSame
        rw [List.map_cons, ← hSame]
        exact h
      · rename_i hOther
        rw [List.map_cons, List.nodup_cons, mem_names_put, not_or]
        exact ⟨⟨hOther, hHead⟩, ih hRest⟩

theorem nodup_putAll (h : (members.map Prod.fst).Nodup) :
    ((members.putAll others).map Prod.fst).Nodup := by
  induction others generalizing members with
  | nil => exact h
  | cons other others ih => exact ih (nodup_put h)

end Json.Members

/-! ## The input -/

namespace Route

open Tollgate.Text Tollgate.Json Tollgate.Payment

/-- The input schema of a route, if there is one, has no member of a name. -/
def Details.LeavesOpen (d : Details) (name : LooseText) : Prop :=
  ∀ members, d.inputSchema = some members → ∀ m ∈ members, m.1 ≠ name

/-- The members of the advertised input, for the verb of a route and the method of a request. What
the input schema says counts, and the last of what it says under one name. Only where it says
nothing, the three members that a route has of its own are there: the kind of the input, whether the
route may be listed, and the method if the route is restricted to one. -/
inductive InputHas (d : Details) (verb method : String) : LooseText → Value → Prop
  | given {front back : Members} {name : LooseText} {v : Value}
      (hGiven : d.inputSchema = some (front ++ (name, v) :: back))
      (hLast : ∀ m ∈ back, m.1 ≠ name) : InputHas d verb method name v
  | type (hOpen : d.LeavesOpen "type") : InputHas d verb method "type" (.text "http")
  | discoverable (hOpen : d.LeavesOpen "discoverable") :
      InputHas d verb method "discoverable" (.bool (d.discoverable.getD true))
  | method (hOpen : d.LeavesOpen "method") (hVerb : verb ≠ anyMark) :
      InputHas d verb method "method" (.text (upper method))

/-- What a route advertises. -/
inductive Advertises (c : Config) (verb method : String) : Value → Prop
  /-- There are no details. -/
  | nothing (hDetails : c.details = none) : Advertises c verb method .null
  /-- Neither an input schema is given, nor whether the route may be listed. -/
  | output {d : Details} (hDetails : c.details = some d) (hInput : d.inputSchema = none)
      (hListed : d.discoverable = none) : Advertises c verb method d.outputSchema
  | both {d : Details} {input : Members} (hDetails : c.details = some d)
      (hGiven : d.inputSchema ≠ none ∨ d.discoverable ≠ none)
      (hNames : (input.map Prod.fst).Nodup)
      (hInput : ∀ name v, input.get? name = some v ↔ InputHas d verb method name v) :
      Advertises c verb method (.object [("input", .object input), ("output", d.outputSchema)])

section Input

variable {c : Config} {d : Details} {verb method : String}

/-- The members of the input that a route has of its own. -/
def ownMembers (d : Details) (verb method : String) : Members :=
  let typeMember : Members := [("type", .text "http")]
  let methodMember : Members := if verb = anyMark then [] else [("method", .text (upper method))]
  let listing : Members := [("discoverable", .bool (d.discoverable.getD true))]
  typeMember ++ methodMember ++ listing

theorem nodup_ownMembers : ((ownMembers d verb method).map Prod.fst).Nodup := by
  unfold ownMembers
  split
  · exact (by decide : (["type", "discoverable"] : List LooseText).Nodup)
  · exact (by decide : (["type", "method", "discoverable"] : List LooseText).Nodup)

theorem mem_ownMembers_iff {name : LooseText} {v : Value} :
    (name, v) ∈ ownMembers d verb method ↔
      (name = "type" ∧ v = .text "http") ∨
      (verb ≠ anyMark ∧ name = "method" ∧ v = .text (upper method)) ∨
      (name = "discoverable" ∧ v = .bool (d.discoverable.getD true)) := by
  unfold ownMembers
  by_cases hVerb : verb = anyMark
  · simp [hVerb]
  · simp [hVerb]

/-- The verb of a route and the method of a request that finds it give the same input. -/
theorem httpInput_eq (hMethod : method ≠ "") (hVerb : verb = anyMark ∨ verb = upper method) :
    httpInput d.inputSchema d.discoverable (if verb = anyMark then none else some verb) =
      (ownMembers d verb method).putAll (d.inputSchema.getD []) := by
  unfold httpInput ownMembers
  by_cases hAny : verb = anyMark
  · simp only [hAny, if_true]
  · obtain rfl := hVerb.resolve_left hAny
    have hSome : upper method ≠ "" := mt upper_eq_empty_iff.mp hMethod
    simp only [hAny, if_false, hSome]

theorem get?_input_iff {name : LooseText} {v : Value} :
    ((ownMembers d verb method).putAll (d.inputSchema.getD [])).get? name = some v ↔
      InputHas d verb method name v := by
  -- a name that the schema leaves open is that of an own member
  have hOwn : d.LeavesOpen name →
      (((ownMembers d verb method).putAll (d.inputSchema.getD [])).get? name = some v ↔
        (name, v) ∈ ownMembers d verb method) := by
    intro hOpen
    have hAbsent : ∀ m ∈ d.inputSchema.getD [], m.1 ≠ name := by
      cases hInput : d.inputSchema with
      | none => exact fun m hm => absurd hm List.not_mem_nil
      | some members => exact hOpen members hInput
    rw [Members.get?_putAll_of_absent hAbsent]
    exact ⟨Members.mem_of_get?, Members.get?_of_mem nodup_ownMembers⟩
  constructor
  · intro h
    by_cases hOpen : d.LeavesOpen name
    · rcases mem_ownMembers_iff.mp ((hOwn hOpen).mp h) with
        ⟨rfl, rfl⟩ | ⟨hVerb, rfl, rfl⟩ | ⟨rfl, rfl⟩
      · exact .type hOpen
      · exact .method hOpen hVerb
      · exact .discoverable hOpen
    · unfold Details.LeavesOpen at hOpen
      push Not at hOpen
      obtain ⟨members, hInput, m, hm, hName⟩ := hOpen
      obtain ⟨front, w, back, rfl, hLast⟩ := Members.exists_last (fun hNone => hNone m hm hName)
      rw [hInput, Option.getD_some, Members.get?_putAll_of_last hLast] at h
      obtain rfl := Option.some.inj h
      exact .given hInput hLast
  · intro h
    cases h with
    | given hGiven hLast =>
        rw [hGiven]
        exact Members.get?_putAll_of_last hLast
    | type hOpen => exact (hOwn hOpen).mpr (mem_ownMembers_iff.mpr (Or.inl ⟨rfl, rfl⟩))
    | method hOpen hVerb =>
        exact (hOwn hOpen).mpr (mem_ownMembers_iff.mpr (Or.inr (Or.inl ⟨hVerb, rfl, rfl⟩)))
    | discoverable hOpen =>
        exact (hOwn hOpen).mpr (mem_ownMembers_iff.mpr (Or.inr (Or.inr ⟨rfl, rfl⟩)))

theorem Config.advertises_outputSchema (hMethod : method ≠ "")
    (hVerb : verb = anyMark ∨ verb = upper method) :
    Advertises c verb method (c.outputSchema (if verb = anyMark then none else some verb)) := by
  unfold Config.outputSchema
  cases hDetails : c.details with
  | none => exact .nothing hDetails
  | some d =>
      simp only [advertisedSchema, Bool.and_eq_true, Option.isNone_iff_eq_none]
      split
      · rename_i hNone
        exact .output hDetails hNone.1 hNone.2
      · rename_i hSome
        rw [httpInput_eq hMethod hVerb]
        exact .both hDetails (not_and_or.mp hSome) (Members.nodup_putAll nodup_ownMembers)
          fun _ _ => get?_input_iff

end Input

/-! ## Configurations that are ready -/

/-- A table of configurations that were read. -/
def readyRows (named : List (String × Config)) : List Row :=
  named.map fun (key, c) => (key, .config c)

variable {routes : Routes} {named : List (String × Config)}

theorem Routes.key_ne_price (h : routes.normalize = .ok named) :
    ∀ row ∈ readyRows named, row.1 ≠ "price" := by
  have hKeys : ∀ key ∈ routes.keys, key ≠ "price" := by
    cases routes with
    | single c => exact fun key hKey => by rw [List.mem_singleton.mp hKey]; decide
    | table rows =>
        by_cases hOne : IsOneConfig rows
        · rw [Routes.keys_oneConfig hOne]
          exact fun key hKey => by rw [List.mem_singleton.mp hKey]; decide
        · rw [Routes.keys_table hOne, List.forall_mem_map]
          exact not_isOneConfig_iff.mp hOne
  rw [← Routes.keys_of_normalize h, List.forall_mem_map] at hKeys
  exact List.forall_mem_map.mpr hKeys

/-- To read the configurations of a table in advance changes nothing. -/
theorem Routes.compile_readyRows (h : routes.normalize = .ok named) :
    (Routes.table (readyRows named)).compile = routes.compile := by
  have hReady : (Routes.table (readyRows named)).normalize = .ok named := by
    rw [Routes.normalize_table (Routes.key_ne_price h), mapM_eq_ok_iff, readyRows,
      List.forall₂_map_left_iff, List.forall₂_same]
    exact fun _ _ => rfl
  unfold Routes.compile
  rw [hReady, h]

end Route

namespace Gate

open Tollgate.Text Tollgate.Json Tollgate.Route Tollgate.Payment

section Find

variable {Request : Type} {hooks : Hooks Request} {payTo : String} {routes : Routes}
  {gates : Gates Request} {g : Gate Request} {path method : String}

/-- Routes of every kind have the gates of their configurations, one for each and in their order. -/
theorem Gates.exists_builtFrom (h : Gates.build hooks payTo routes = .ok gates) :
    ∃ named, routes.normalize = .ok named ∧
      List.Forall₂ (BuiltFrom hooks payTo) (readyRows named) gates.entries := by
  obtain ⟨patterns, hCompile, -⟩ := bind_eq_ok_iff.mp h
  obtain ⟨named, hNamed, -⟩ := bind_eq_ok_iff.mp (mapError_eq_ok_iff.mp hCompile)
  refine ⟨named, hNamed, (Gates.build_table_eq_ok_iff (Routes.key_ne_price hNamed)).mp ?_⟩
  unfold Gates.build at h ⊢
  rwa [Routes.compile_readyRows hNamed]

/-- **What is advertised agrees with what is enforced.** A request with a method finds a gate at the
place of the first pattern that fits it, and a configuration stands there under a key. Whatever the
request, the gate asks for one requirement, which differs in the resource only. Its output schema is
what the configuration advertises, with the method of the request if the key has a verb. -/
theorem Gates.find?_advertises (hBuild : Gates.build hooks payTo routes = .ok gates)
    (hMethod : method ≠ "") (hFind : gates.find? path method = some g) :
    ∃ (named : List (String × Config)) (i : Nat) (key verb : String) (glob : List Char)
      (r : Requirement), routes.normalize = .ok named ∧
      findPattern gates.patterns path method = some i ∧ named[i]? = some (key, g.config) ∧
      KeyParts key.toList verb glob ∧ (verb = anyMark ∨ verb = upper method) ∧
      Describes glob path.toList ∧ Advertises g.config verb method r.outputSchema ∧
      ∀ request, g.requirements request =
        (g.source.resource request).map fun resource => [{ r with resource := resource }] := by
  obtain ⟨named, hNamed, hRows⟩ := Gates.exists_builtFrom hBuild
  obtain ⟨⟨p, g⟩, hEntry, rfl⟩ := Option.map_eq_some_iff.mp hFind
  obtain ⟨i, hIndex, hPlace⟩ := find?_eq_some_iff_findIdx?.mp hEntry
  obtain ⟨row, hRow, hBuilt⟩ := exists_getElem?_of_forall₂ hRows hPlace
  rw [readyRows, List.getElem?_map] at hRow
  obtain ⟨⟨key, c⟩, hNamedRow, rfl⟩ := Option.map_eq_some_iff.mp hRow
  obtain rfl := Except.ok.inj hBuilt.config
  obtain ⟨verb, glob, hParts, -, -, hTemplate⟩ := hBuilt.template
  -- the pattern fits, so the verb is the mark or the method of the request
  have hFits : p.fits path method = true := by simpa using List.find?_some hEntry
  obtain ⟨verb', glob', hParts', hVerb, hPath⟩ := hBuilt.fits_iff.mp hFits
  obtain ⟨rfl, rfl⟩ := hParts.unique hParts'
  obtain ⟨atomic, hRequirement⟩ := exists_parts_of_requirement hTemplate
  refine ⟨named, i, key, verb, glob, g.template, hNamed, ?_, hNamedRow, hParts, hVerb, hPath, ?_,
    fun _ => rfl⟩
  · rw [findPattern_patterns]
    exact hIndex
  · rw [hRequirement.outputSchema]
    exact Config.advertises_outputSchema hMethod hVerb

end Find

/-! ## A search -/

namespace Search

/-- The details of a search whose input schema has a word of its own on the type. -/
def details : Details :=
  { resource := none
    description := none
    mimeType := none
    maxTimeoutSeconds := none
    inputSchema := some [("type", .text "json"), ("query", .text "string")]
    outputSchema := .object [("hits", .text "array")]
    discoverable := none
    customPaywallHtml := none
    extras := [] }

/-- A table in which a search is posted. -/
def rows : List Row :=
  [("POST /search", .config ⟨.text "$0.01", .base, some details⟩)]

/-- The gates of the table. -/
def gates : Gates Http.Request :=
  ((Gates.build (Http.requestHooks .plain) Twins.payTo (.table rows)).toOption).getD ⟨[]⟩

theorem build_eq : Gates.build (Http.requestHooks .plain) Twins.payTo (.table rows) = .ok gates :=
  eq_ok_of_isOk (by decide +kernel) _

theorem leavesOpen {name : LooseText} (h : name ≠ "type" ∧ name ≠ "query") :
    details.LeavesOpen name := by
  intro members hInput
  obtain rfl := Option.some.inj hInput
  simpa [eq_comm] using h

theorem ne_body {name : LooseText} {v : Value} (h : InputHas details "POST" "post" name v) :
    name ≠ "body" := by
  cases h with
  | given hGiven hLast =>
      have hMem : (name, v) ∈ details.inputSchema.getD [] := by
        rw [hGiven]
        exact List.mem_append_right _ List.mem_cons_self
      rintro rfl
      simp [details] at hMem
  | type hOpen => decide
  | method hOpen hVerb => decide
  | discoverable hOpen => decide

end Search

/-- What the schema says of the type counts, and the method is that of the key. -/
theorem Gates.find?_advertises_search : ∃ (g : Gate Http.Request) (r : Requirement),
    Gates.build (Http.requestHooks .plain) Twins.payTo (.table Search.rows) = .ok Search.gates ∧
    Search.gates.find? "/search" "post" = some g ∧
    (∀ request, g.requirements request =
      (g.source.resource request).map fun resource => [{ r with resource := resource }]) ∧
    ∃ input : Members,
      r.outputSchema = .object [("input", .object input), ("output", Search.details.outputSchema)] ∧
      input.get? "type" = some (.text "json") ∧ input.get? "query" = some (.text "string") ∧
      input.get? "method" = some (.text "POST") ∧
      input.get? "discoverable" = some (.bool true) ∧ input.get? "body" = none := by
  have hSome : (Search.gates.find? "/search" "post").isSome = true := by decide +kernel
  obtain ⟨g, hFind⟩ := Option.isSome_iff_exists.mp hSome
  obtain ⟨named, i, key, verb, glob, r, hNamed, -, hRow, hParts, hVerb, -, hSchema, hAll⟩ :=
    Gates.find?_advertises Search.build_eq (by decide) hFind
  refine ⟨g, r, Search.build_eq, hFind, hAll, ?_⟩
  -- the only row is found
  obtain rfl := Except.ok.inj hNamed
  obtain ⟨rfl, hConfig⟩ := Prod.mk.inj (List.mem_singleton.mp (List.mem_of_getElem? hRow))
  have hKey : splitKey "POST /search" = (.named "POST", "/search".toList) := by decide
  obtain ⟨hMethod, rfl⟩ := Prod.mk.inj ((splitKey_of_parts hParts).symm.trans hKey)
  obtain rfl := Verb.named_injective hMethod
  have hDetails : g.config.details = some Search.details := by rw [hConfig]
  generalize r.outputSchema = advertised at hSchema ⊢
  cases hSchema with
  | nothing hNone => simp [hDetails] at hNone
  | output hSome hNone =>
      obtain rfl := Option.some.inj (hDetails.symm.trans hSome)
      cases hNone
  | both hSome hGiven hNames hInput =>
      obtain rfl := Option.some.inj (hDetails.symm.trans hSome)
      refine ⟨_, rfl, ?type, ?query, ?method, ?discoverable, ?body⟩
      case type => exact (hInput _ _).mpr (@InputHas.given _ _ _ [] _ _ _ rfl (by decide))
      case query => exact (hInput _ _).mpr (@InputHas.given _ _ _ [_] _ _ _ rfl (by decide))
      case method => exact (hInput _ _).mpr (.method (Search.leavesOpen (by decide)) (by decide))
      case discoverable => exact (hInput _ _).mpr (.discoverable (Search.leavesOpen (by decide)))
      case body =>
        by_contra hBody
        obtain ⟨v, hv⟩ := Option.ne_none_iff_exists'.mp hBody
        exact Search.ne_body ((hInput _ _).mp hv) rfl

end Gate

end Tollgate
