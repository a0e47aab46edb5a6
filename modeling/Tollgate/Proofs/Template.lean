import Tollgate.Proofs.Rows
import Tollgate.Proofs.Terms

set_option autoImplicit false

/-! # Requirements from a template

A gate builds one requirement, when it is set up, and for a request puts a resource into a copy of
it. Nothing is read or checked again. This is right because the resource is the one part that
building a requirement does not look at (`requirement_resource`): it neither decides whether the
requirement can be told nor changes another part of it. So what a gate asks for a request is what
would be built for that request alone, whatever was asked for others (`requirements_rebuilt`).
-/

namespace Tollgate

namespace Route

open Tollgate.Text Tollgate.Payment

/-- The requirements of a route for two resources are the same but for the resource. -/
theorem requirement_resource (convert : Converter) (payTo : String) (c : Config)
    (method : Option String) (before after : LooseText) :
    requirement convert payTo c after method =
      (requirement convert payTo c before method).map (fun r => { r with resource := after }) := by
  unfold requirement
  cases atomicAmount convert c.price c.network.name with
  | error f => rfl
  | ok atomic =>
      cases (Chain.canonicalAddress payTo).mapError Failure.badAddress with
      | error f => rfl
      | ok payee =>
          show (assetAddress atomic.asset >>= _) = (assetAddress atomic.asset >>= _).map _
          cases assetAddress atomic.asset with
          | error f => rfl
          | ok asset =>
              -- the amount and the details were converted; the resource is kept as it is given
              cases readAmount atomic.amount <;> cases readExtra atomic.domain <;> rfl

end Route

namespace Gate

open Tollgate.Text Tollgate.Payment Tollgate.Route

variable {Request : Type} {hooks : Hooks Request} {payTo : String} {c : Config}
  {method : Option String} {g : Gate Request} {request : Request}

/-- The resource that is to be named for a request: the one that is configured, unless there is
none or an empty one, and then the one that the request tells. -/
inductive Names (hooks : Hooks Request) (c : Config) (request : Request) :
    Except Failure LooseText → Prop
  | configured {d : Details} {resource : LooseText} (hDetails : c.details = some d)
      (hResource : d.resource = some resource) (hne : resource ≠ "") :
      Names hooks c request (.ok resource)
  | told {tell : Request → Except Failure LooseText}
      (hNone : ∀ d resource, c.details = some d → d.resource = some resource → resource = "")
      (hTell : hooks.resource? = some tell) : Names hooks c request (tell request)

/-- A gate takes its resource from the right place. -/
theorem names_of_sourceOf? {source : ResourceSource Request}
    (h : Gate.sourceOf? hooks c = some source) (request : Request) :
    Names hooks c request (source.resource request) := by
  unfold Gate.sourceOf? at h
  split at h
  · rename_i resource hStatic
    obtain rfl := Option.some.inj h
    unfold Config.staticResource? at hStatic
    split at hStatic
    · rename_i given hGiven
      split at hStatic
      · cases hStatic
      · rename_i hne
        obtain rfl := Option.some.inj hStatic
        obtain ⟨d, hDetails, hResource⟩ := Option.bind_eq_some_iff.mp hGiven
        exact .configured hDetails hResource hne
    · cases hStatic
  · rename_i hStatic
    obtain ⟨tell, hTell, rfl⟩ := Option.map_eq_some_iff.mp h
    refine .told (fun d resource hDetails hResource => ?_) hTell
    by_contra hne
    simp [Config.staticResource?, hDetails, hResource, hne] at hStatic

/-- **The template is as good as a requirement of its own.** The answers of a gate to any requests,
one after the other, differ in the resource only. If the resource of a request can be told, the
answer is one requirement, the one that is built for this resource from nothing but the
configuration; if it cannot, the answer is the failure to tell it. -/
theorem requirements_rebuilt (h : Gate.build hooks payTo c method = .ok g) :
    ∃ template : Requirement, ∀ (requests : List Request) (i : Nat) (request : Request),
      requests[i]? = some request → ∃ resource, Names hooks c request resource ∧
        (∀ f, resource = .error f → (requests.map g.requirements)[i]? = some (.error f)) ∧
        ∀ r, resource = .ok r →
          (requests.map g.requirements)[i]? = some (.ok [{ template with resource := r }]) ∧
          requirement hooks.convert payTo c r method = .ok { template with resource := r } := by
  obtain ⟨hSource, hTemplate, -, -⟩ := build_eq_ok_iff.mp h
  refine ⟨g.template, fun requests i request hRequest => ?_⟩
  refine ⟨g.source.resource request, names_of_sourceOf? hSource request, ?_, ?_⟩
  · intro f hFailed
    rw [List.getElem?_map, hRequest, Option.map_some, Gate.requirements, hFailed]
    rfl
  · intro r hTold
    constructor
    · rw [List.getElem?_map, hRequest, Option.map_some, Gate.requirements, hTold]
      rfl
    · rw [requirement_resource, hTemplate]
      rfl

namespace Pages

/-- Pages that cost a cent each, with an empty resource. -/
def config : Config :=
  { price := .text "$0.01"
    network := .base
    details := some ⟨some "", none, none, none, none, .null, some true, none, []⟩ }

/-- What is needed from a framework whose requests are their own resources. -/
def framework : Hooks String where
  extract := fun _ => .ok none
  paywall? := none
  resource? := some (fun page => .ok (.whole page))

/-- Pages that are asked for one after the other. -/
def visited : List String :=
  ["/a", "/b", "/a"]

end Pages

theorem requirements_rebuilt_pages : ∃ (g : Gate String) (template : Requirement),
    Gate.build Pages.framework payee Pages.config (some "GET") = .ok g ∧
      Pages.visited.map g.requirements =
        Pages.visited.map (fun page => .ok [{ template with resource := page }]) ∧
      requirement standardConverter payee Pages.config "/b" (some "GET") =
        .ok { template with resource := "/b" } := by
  have hOk : (Gate.build Pages.framework payee Pages.config (some "GET")).isOk = true := by
    decide +kernel
  obtain ⟨g, hBuild⟩ := exists_ok_of_isOk hOk
  obtain ⟨template, hAll⟩ := requirements_rebuilt hBuild
  -- the configured resource is empty, so it is the request that tells it
  have hTold : ∀ {request resource}, Names Pages.framework Pages.config request resource →
      resource = .ok request := by
    intro request resource hNames
    cases hNames with
    | configured hDetails hResource hne =>
        cases hDetails
        cases hResource
        exact absurd rfl hne
    | told _ hTell =>
        cases hTell
        rfl
  have hEach : ∀ (i : Nat) (request : String), Pages.visited[i]? = some request →
      (Pages.visited.map g.requirements)[i]? =
          some (.ok [{ template with resource := request }]) ∧
        requirement standardConverter payee Pages.config request (some "GET") =
          .ok { template with resource := request } := by
    intro i request hRequest
    obtain ⟨resource, hNames, -, hResource⟩ := hAll _ i request hRequest
    exact hResource request (hTold hNames)
  refine ⟨g, template, hBuild, List.ext_getElem? fun i => ?_, (hEach 1 "/b" rfl).2⟩
  cases hRequest : Pages.visited[i]? with
  | none => rw [List.getElem?_map, List.getElem?_map, hRequest, Option.map_none, Option.map_none]
  | some request => rw [(hEach i request hRequest).1, List.getElem?_map, hRequest, Option.map_some]

end Gate

end Tollgate
