import Tollgate.Proofs.Entry
import Tollgate.Proofs.Protection

set_option autoImplicit false

/-! # Refused requests

Whenever the payment of a request is refused, be it while it is acquired or while it is settled,
the answer is made of the refusal. `serve_refuses` says what the body tells the client: all that
may be paid for this request, one entry for each requirement (`Requirement.Shows`), and who pays if
the facilitator named someone as it denied the payment.

A facilitator may also raise a refusal of its own in the place of an answer. It is answered like
the others, but what it tells is its own matter (`IsForeign`).
-/

namespace Tollgate

/-! ## Denied payments -/

namespace Gate

open Tollgate.Text Tollgate.Payment

variable {ρ : Type}

/-- The facilitator denied a payment, which is not valid or was not settled, and named who
pays. -/
def Denies (events : List (Event ρ)) (payer : LooseText) : Prop :=
  (∃ call v, .verified call (.ok v) ∈ events ∧ v.isValid = false ∧ v.payer = some payer) ∨
    ∃ call reply, .settled call (.ok reply) ∈ events ∧ reply.success = false ∧
      reply.payer = some payer

/-- The facilitator raised the refusal itself when it was asked to verify a payment. -/
def IsForeign (events : List (Event ρ)) (r : Refusal Failure) : Prop :=
  ∃ call, .verified call (.error (.refused r)) ∈ events

/-- A refusal is raised where a payment is acquired, or where it is settled after the request was
handled. -/
inductive Raised {Request : Type} (g : Gate Request) (request : Request) (rs : List Requirement)
    (events : List (Event ρ)) (r : Refusal Failure) : Prop
  | acquiring (hAcquire : (g.acquire request rs).Course events (.done (.error (.refused r))))
  | settling {front back : List (Event ρ)} {a : Acquired} {own : ρ}
      (hEvents : events = front ++ .handled (.ok own) :: back)
      (hAcquire : (g.acquire request rs).Course front (.done (.ok (some a))))
      (hSettle : a.settle.Course back (.done (.error (.refused r))))

/-- A report of success may be rejected for what it leaves out, but it is no refusal. -/
theorem settlementOf_ne_refused (report : SettlementReply) (r : Refusal Failure) :
    Acquired.settlementOf report ≠ .error (.refused r) := by
  have hRejected : ∀ x : Except Schema.Rejection Settlement,
      x.mapError Failure.rejected ≠ .error (.refused r) := by
    intro x h
    cases x with
    | error rejection => cases h
    | ok s => cases h
  exact hRejected _

/-- A settlement is refused unless it succeeded. -/
theorem conclude_eq_refused_iff {rs : List Requirement} {reply : Except Failure SettlementReply}
    {r : Refusal Failure} :
    Acquired.conclude rs reply = .error (.refused r) ↔
      ¬ Succeeds reply ∧ r = settlementRefusal rs reply := by
  constructor
  · intro h
    have hFailed : ¬ Succeeds reply := by
      rintro ⟨report, rfl, hSuccess⟩
      have hConclude : Acquired.conclude rs (.ok report) = Acquired.settlementOf report := by
        simp only [Acquired.conclude, hSuccess, if_true]
      exact settlementOf_ne_refused report r (hConclude ▸ h)
    rw [conclude_of_not_succeeds hFailed] at h
    cases h
    exact ⟨hFailed, rfl⟩
  · rintro ⟨hFailed, rfl⟩
    exact conclude_of_not_succeeds hFailed

/-- What a refusal lists and whom it names, if it was not raised by the facilitator: everything
that may be paid for the request, and who was named when the payment was denied. -/
theorem Raised.parts {Request : Type} {g : Gate Request} {request : Request}
    {rs : List Requirement} {events : List (Event ρ)} {r : Refusal Failure}
    (h : Raised g request rs events r) (hOwn : ¬ IsForeign events r) :
    r.accepts = rs ∧ ∀ p, r.payer = some p ↔ Denies events p := by
  cases h with
  | acquiring hAcquire =>
      cases acquisition_of_course hAcquire with
      | unreadable | missing | unmatched => exact ⟨rfl, fun p => by simp [Denies]⟩
      -- the one refusal that is not the gate's own
      | unanswered => exact absurd ⟨_, List.mem_singleton.mpr rfl⟩ hOwn
      | unverified _ hInvalid => exact ⟨rfl, fun p => by simp [Denies, hInvalid]⟩
  | settling hEvents hAcquire hSettle =>
      obtain ⟨call, v, -, hValid, rfl, rfl⟩ := (acquisition_of_course hAcquire).of_acquired
      obtain ⟨reply, rfl, hConclude⟩ := course_settle hSettle
      obtain ⟨hFailed, rfl⟩ := conclude_eq_refused_iff.mp hConclude.symm
      subst hEvents
      cases reply with
      | error f => exact ⟨rfl, fun p => by simp [Denies, settlementRefusal, hValid]⟩
      | ok reply =>
          have hSuccess : reply.success = false :=
            Bool.eq_false_iff.mpr fun hSuccess => hFailed ⟨reply, rfl, hSuccess⟩
          exact ⟨rfl, fun p => by simp [Denies, settlementRefusal, hValid, hSuccess]⟩

end Gate

/-! ## What is told -/

namespace Http

open Tollgate.Text Tollgate.Json Tollgate.Payment Tollgate.Route Tollgate.Gate

/-- The members of an answer tell a client why its request was refused and everything that it may
pay, an entry for each requirement in their order, and name a payer if the facilitator did so as it
denied the payment. -/
structure Tells (members : Members) (message : LooseText) (rs : List Requirement)
    (events : List (Event Response)) : Prop where
  names : (members.map Prod.fst).Sublist ["x402Version", "error", "accepts", "payer"]
  version : members.get? "x402Version" = some (.int 1)
  error : members.get? "error" = some (.ofLoose message)
  accepts : ∃ entries : List Members,
    members.get? "accepts" = some (.array (entries.map .object)) ∧
      List.Forall₂ Requirement.Shows rs entries
  payer : ∀ v, members.get? "payer" = some v ↔ ∃ p, v = .ofLoose p ∧ Denies events p

theorem get?_payer_refusalMembers (message : LooseText) (rs : List Requirement)
    (payer : Option LooseText) :
    (refusalMembers message rs payer).get? "payer" = payer.map Value.ofLoose := by
  cases payer <;> rfl

theorem names_refusalMembers (message : LooseText) (rs : List Requirement)
    (payer : Option LooseText) : ((refusalMembers message rs payer).map Prod.fst).Sublist
      ["x402Version", "error", "accepts", "payer"] := by
  cases payer with
  | none =>
      exact List.sublist_append_left
        (["x402Version", "error", "accepts"] : List LooseText) ["payer"]
  | some p => exact List.Sublist.refl _

namespace Shop

/-- The answer to a settlement that is denied, with the one who was to pay. -/
def denied : SettlementReply := ⟨false, some "nonce used", none, none, some "0xd0"⟩

/-- The request is verified and handled, and its settlement is refused. -/
theorem exists_raised : ∃ g rs call, enforcement.gate? request = some g ∧
    g.requirements request = .ok rs ∧
    (enforcement.serve request).Course (events call denied)
      (.done (refusalResponse .plain (settlementRefusal rs (.ok denied)))) ∧
    Raised g request rs (events call denied) (settlementRefusal rs (.ok denied)) := by
  obtain ⟨g, rs, r, hg, hRs, hSelected⟩ := exists_call
  have hAcquired := Acquisition.verified (ρ := Response) (v := ⟨true, none, none⟩) hSelected rfl
  have hEnding : Ending .plain g enforcement.branding request rs (events ⟨payment, r⟩ denied)
      (afterSettlement .plain report (Acquired.conclude rs (.ok denied))) :=
    .concluded hAcquired (show report.status < failedFrom by decide)
  refine ⟨g, rs, ⟨payment, r⟩, hg, hRs, ?_, ?_⟩
  · rw [Enforcement.serve_of_gate? hg, platform_eq]
    exact guarded_of_ending hRs hEnding
  · exact .settling rfl (course_of_acquisition hAcquired) (.cons (.settle _ _ _) (.nil _))

theorem not_isForeign_denied (call : Call) (r : Refusal Failure) :
    ¬ IsForeign (events call denied) r := by
  simp [IsForeign, events]

end Shop

variable {platform : Platform} {payTo : String} {routes : Routes} {branding : Branding}
  {e : Enforcement} {request : Request} {events : List (Event Response)}
  {outcome : Except Failure Response}

/-- What is raised is what the request is answered with. -/
theorem outcome_of_raised {g : Gate Request} {rs : List Requirement} {r : Refusal Failure}
    (hRs : g.requirements request = .ok rs)
    (hc : (guarded platform g branding request).Course events (.done outcome))
    (h : Raised g request rs events r) : outcome = refusalResponse platform r := by
  cases h with
  | acquiring hAcquire =>
      have hCourse : (guarded platform g branding request).Course events
          (.done (refusalResponse platform r)) := by
        unfold guarded
        rw [hRs]
        exact hAcquire.bind (afterAcquisition platform g rs branding)
      exact Session.done.inj (hc.unique hCourse)
  | settling hEvents hAcquire hSettle =>
      obtain ⟨call, _, -, -, -, rfl⟩ := (acquisition_of_course hAcquire).of_acquired
      obtain ⟨reply, rfl, hConclude⟩ := course_settle hSettle
      have hMem : .settled call reply ∈ events := by
        rw [hEvents]
        simp
      obtain ⟨_, own, -, -, -, -, hOutcome⟩ := (ending_of_guarded hRs hc).of_settled hMem
      rw [hOutcome, ← hConclude]
      rfl

/-- **A refusal tells what may be paid.** Whatever is refused to a request for a protected route,
while its payment is acquired or settled, is what the request is answered with. Unless the
facilitator raised it, the body lists the requirements of this request, whether or not the
handler ran in between. -/
theorem serve_refuses (he : Enforcement.build platform payTo routes branding = .ok e)
    {g : Gate Request} (hg : e.gate? request = some g)
    (hc : (e.serve request).Course events (.done outcome)) :
    ∃ rs, g.requirements request = .ok rs ∧ ∀ r, Raised g request rs events r →
      outcome = refusalResponse e.platform r ∧
      (¬ IsForeign events r →
        ∃ members, r.body = .object members ∧ Tells members r.message rs events) := by
  obtain ⟨rs, hRs⟩ := Enforcement.exists_requirements he hg
  rw [Enforcement.serve_of_gate? hg] at hc
  refine ⟨rs, hRs, fun r hRaised => ⟨outcome_of_raised hRs hc hRaised, fun hOwn => ?_⟩⟩
  obtain ⟨hAccepts, hPayer⟩ := hRaised.parts hOwn
  obtain ⟨entries, hEntries, hShown⟩ := Requirement.exists_entries rs
  refine ⟨_, rfl, ?_⟩
  rw [hAccepts]
  exact
    { names := names_refusalMembers _ _ _
      version := rfl
      error := rfl
      accepts := by
        refine ⟨entries, ?_, hShown⟩
        rw [← hEntries]
        rfl
      payer := by
        intro v
        rw [get?_payer_refusalMembers, Option.map_eq_some_iff]
        constructor
        · rintro ⟨p, hp, rfl⟩
          exact ⟨p, rfl, (hPayer p).mp hp⟩
        · rintro ⟨p, rfl, hp⟩
          exact ⟨p, (hPayer p).mpr hp, rfl⟩ }

/-- In the shop the settlement is refused with one entry, which asks for a cent in the smallest
units of the asset, and with the payer whom the facilitator named. -/
theorem serve_refuses_shop : ∃ g rs call r, ∃ members entry : Members,
    Shop.enforcement.gate? Shop.request = some g ∧
    (Shop.enforcement.serve Shop.request).Course (Shop.events call Shop.denied)
      (.done (refusalResponse .plain r)) ∧
    Raised g Shop.request rs (Shop.events call Shop.denied) r ∧
    ¬ IsForeign (Shop.events call Shop.denied) r ∧
    r.body = .object members ∧
    Tells members r.message rs (Shop.events call Shop.denied) ∧
    members.get? "accepts" = some (.array [.object entry]) ∧
    entry.get? "maxAmountRequired" = some (.text "10000") ∧ entry.get? "price" = none ∧
    members.get? "payer" = some (.text "0xd0") := by
  obtain ⟨g, rs, call, hg, hRs, hc, hRaised⟩ := Shop.exists_raised
  have hOwn := Shop.not_isForeign_denied call (settlementRefusal rs (.ok Shop.denied))
  obtain ⟨rs', hRs', hAll⟩ := serve_refuses Shop.build_eq hg hc
  obtain rfl := Except.ok.inj (hRs.symm.trans hRs')
  obtain ⟨-, hBody⟩ := hAll _ hRaised
  obtain ⟨members, hMembers, hTells⟩ := hBody hOwn
  have hDenies : Denies (Shop.events call Shop.denied) "0xd0" :=
    Or.inr ⟨call, Shop.denied, by simp [Shop.events], rfl, rfl⟩
  have hAmount : (Shop.enforcement.gate? Shop.request).map (fun g => g.template.maxAmountRequired) =
      some "10000" := by
    decide +kernel
  rw [hg] at hAmount
  obtain ⟨resource, -, rfl⟩ := map_eq_ok_iff.mp hRs
  obtain ⟨entries, hEntries, hShown⟩ := hTells.accepts
  obtain ⟨entry, _, hEntry, hNone, rfl⟩ := List.forall₂_cons_left_iff.mp hShown
  obtain rfl := List.forall₂_nil_left_iff.mp hNone
  refine ⟨g, _, call, _, members, entry, hg, hc, hRaised, hOwn, hMembers, hTells, hEntries, ?_, ?_,
    (hTells.payer _).mpr ⟨"0xd0", rfl, hDenies⟩⟩
  · rw [hEntry.amount]
    exact congrArg (fun s => some (Value.text s)) (Option.some.inj hAmount)
  · refine Members.get?_eq_none_iff.mpr fun m hMem hName => ?_
    have hShownName := hEntry.names.subset (List.mem_map_of_mem hMem)
    rw [hName] at hShownName
    exact absurd hShownName (by decide)

end Http

end Tollgate
