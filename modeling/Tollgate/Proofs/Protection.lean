import Tollgate.Proofs.Answer

set_option autoImplicit false

/-! # What protection does

Three statements about every finished course of a request, whatever its collaborators answer.
`serve_effects` gives the effects that there may be, their order, and what each of them depends
on. `serve_delivers` says what is handed out on a protected route: below 400 nothing but the
handler's own answer with the report of a settlement, and of an answer whose payment was not
settled nothing at all. `serve_settled` says when a settled payment is answered: when the
facilitator names the transaction and the network, and only then.
-/

namespace Tollgate.Http

open Tollgate.Text Tollgate.Json Tollgate.Schema Tollgate.Payment Tollgate.Route Tollgate.Gate

/-! ## A shop

A table with one protected route, a request that pays for it, and collaborators that accept the
payment, serve the request and settle the payment. -/

namespace Shop

/-- Who is paid. -/
def payTo : String := "0x209693Bc6afc0C5328bA36FaF03C514EF312287C"

/-- A report for a cent. -/
def routes : Routes := .ofRows [("GET /report", .value (.text "$0.01"))]

/-- The gates of the shop. -/
def enforcement : Enforcement :=
  ((Enforcement.build .plain payTo routes {}).toOption).getD ⟨.plain, ⟨[]⟩, {}⟩

theorem build_eq : Enforcement.build .plain payTo routes {} = .ok enforcement :=
  eq_ok_of_isOk (by decide +kernel) _

theorem platform_eq : enforcement.platform = .plain :=
  Enforcement.platform_of_build build_eq

/-- A payment. -/
def payment : Payload where
  version := 1
  scheme := "exact"
  network := "base-sepolia"
  signed :=
    { signature := "0x1b"
      authorization :=
        { sender := "0x857b06519E91e3A54538791bDbb0E22373e36b66"
          recipient := payTo
          amount := "10000"
          validAfter := "0"
          validBefore := "1"
          nonce := "0x01" } }

/-- A request for the report, with the payment. -/
def request : Request where
  method := "GET"
  scheme := "https"
  path := "/report"
  query := ""
  headers := [("X-PAYMENT", payment.header), ("Host", "shop.example")]
  serverName := "shop.example"
  serverPort := 443

theorem payment_of_request :
    request.payment Platform.plain.readingDepth = .ok (some payment) := by
  have hRead : (Payload.ofHeader Platform.plain.readingDepth payment.header).toOption =
      some payment := by
    -- the long header is never taken apart as a text
    simp only [Payload.ofHeader, headerText, Payload.header, String.toList_ofList, Json.read]
    decide +kernel
  have hSome : payment.header ≠ "" := by
    intro h
    rw [h] at hRead
    exact absurd hRead (by decide +kernel)
  have hHeader : request.headers.get? "X-PAYMENT" = some payment.header := by
    simp [request, Headers.get?, sameName_self]
  unfold Request.payment
  rw [hHeader]
  simp only [if_neg hSome]
  rw [toOption_eq_some_iff.mp hRead]
  rfl

/-- The payment is matched with what the gate of the request demands. -/
theorem exists_call : ∃ g rs r, enforcement.gate? request = some g ∧
    g.requirements request = .ok rs ∧ Selected g request rs ⟨payment, r⟩ := by
  have hTerms : (enforcement.gate? request).map (fun g => (g.template.scheme, g.template.network))
      = some (.whole "exact", .baseSepolia) := by decide +kernel
  obtain ⟨g, hg, hTerms⟩ := Option.map_eq_some_iff.mp hTerms
  obtain ⟨hScheme, hNetwork⟩ := Prod.mk.inj hTerms
  obtain ⟨rs, hRs⟩ := Enforcement.exists_requirements build_eq hg
  obtain ⟨resource, -, rfl⟩ := map_eq_ok_iff.mp hRs
  have hHooks := Enforcement.gate?_hooks build_eq hg
  refine ⟨g, _, { g.template with resource := resource }, hg, hRs, ?_, ?_⟩
  · rw [hHooks, platform_eq]
    simp only [requestHooks, payment_of_request]
  · rw [hHooks]
    simp [requestHooks, matchSchemeAndNetwork, hScheme, hNetwork, payment, Chain.Network.name]

/-- The report. -/
def report : Response := .ofText 200 "text/plain" "sunny"

/-- A settlement of which everything is told. -/
def settled : SettlementReply := ⟨true, none, some "0xabc", some "base-sepolia", none⟩

/-- A settlement without a transaction. -/
def unnamed : SettlementReply := ⟨true, none, none, some "base-sepolia", none⟩

/-- The answer to a settlement that is not made. -/
def declined : SettlementReply := ⟨false, some "nonce used", none, none, none⟩

/-- The events of the request, with an answer to the settlement. -/
def events (call : Call) (reply : SettlementReply) : List (Event Response) :=
  [.verified call (.ok ⟨true, none, none⟩), .handled (.ok report), .settled call (.ok reply)]

theorem handled_mem_events {call : Call} {reply : SettlementReply}
    {own : Except Failure Response} :
    .handled own ∈ events call reply ↔ own = .ok report := by
  simp [events]

theorem settled_mem_events {call call' : Call} {reply : SettlementReply}
    {reply' : Except Failure SettlementReply} :
    .settled call' reply' ∈ events call reply ↔ call' = call ∧ reply' = .ok reply := by
  simp [events]

/-- The request is verified, handled and settled. -/
theorem exists_course (reply : SettlementReply) : ∃ g rs r,
    enforcement.gate? request = some g ∧
      (enforcement.serve request).Course (events ⟨payment, r⟩ reply)
        (.done (afterSettlement .plain report (Acquired.conclude rs (.ok reply)))) := by
  obtain ⟨g, rs, r, hg, hRs, hSelected⟩ := exists_call
  have hAcquired := Acquisition.verified (ρ := Response) (v := ⟨true, none, none⟩) hSelected rfl
  have hEnding : Ending .plain g enforcement.branding request rs (events ⟨payment, r⟩ reply)
      (afterSettlement .plain report (Acquired.conclude rs (.ok reply))) :=
    .concluded hAcquired (show report.status < failedFrom by decide)
  refine ⟨g, rs, r, hg, ?_⟩
  rw [Enforcement.serve_of_gate? hg, platform_eq]
  exact guarded_of_ending hRs hEnding

/-- What comes of the settlement of which everything is told. -/
theorem concluded (rs : List Requirement) :
    afterSettlement .plain report (Acquired.conclude rs (.ok settled)) =
      .ok (report.withSettlement ⟨"0xabc", "base-sepolia", none⟩) := by
  have hReports : Reports ⟨"0xabc", "base-sepolia", none⟩ settled := ⟨rfl, rfl, rfl⟩
  rw [conclude_eq_ok_iff.mpr ⟨settled, rfl, rfl, hReports⟩]
  rfl

end Shop

/-! ## Effects and their order -/

variable {platform : Platform} {payTo : String} {routes : Routes} {branding : Branding}
  {e : Enforcement} {request : Request} {events : List (Event Response)}
  {outcome : Except Failure Response}

/-- A call is about the payment in the header of a request, and about one of the requirements of
the request's gate, of the scheme and the network of the payment. -/
structure Enforcement.Charges (e : Enforcement) (request : Request) (call : Call) : Prop where
  payload : ∃ header, request.headers.get? "X-PAYMENT" = some header ∧
    Payload.ofHeader e.platform.readingDepth header = .ok call.payload
  requirement : ∃ g rs, e.gate? request = some g ∧ g.requirements request = .ok rs ∧
    call.requirement ∈ rs
  scheme : call.payload.scheme = call.requirement.scheme
  network : call.payload.network = call.requirement.network.name

theorem Request.payment_eq_some {depth : Nat} {payload : Payload}
    (h : request.payment depth = .ok (some payload)) :
    ∃ header, request.headers.get? "X-PAYMENT" = some header ∧
      Payload.ofHeader depth header = .ok payload := by
  unfold Request.payment at h
  split at h
  · cases h
  · rename_i header hHeader
    split at h
    · cases h
    · obtain ⟨p, hPayload, hSame⟩ := map_eq_ok_iff.mp h
      cases hSame
      exact ⟨header, hHeader, hPayload⟩

/-- What is selected at a gate that was built is what the request is charged with. -/
theorem Enforcement.charges_of_selected
    (he : Enforcement.build platform payTo routes branding = .ok e)
    {g : Gate Request} {rs : List Requirement} {call : Call} (hg : e.gate? request = some g)
    (hRs : g.requirements request = .ok rs) (h : Selected g request rs call) :
    e.Charges request call := by
  obtain ⟨hExtract, hSelect⟩ := h
  rw [gate?_hooks he hg] at hExtract hSelect
  have hMatch := List.find?_some hSelect
  simp only [Bool.and_eq_true, decide_eq_true_eq] at hMatch
  exact
    { payload := Request.payment_eq_some hExtract
      requirement := ⟨g, rs, hg, hRs, List.mem_of_find?_eq_some hSelect⟩
      scheme := hMatch.1
      network := hMatch.2 }

/-- **The effects of a request.** A request that no protected route is for is handled and nothing
else. Any other is charged with one call at most: it is verified, then handled if and only if the
payment is valid, then settled, by the very call that was verified, if and only if the handler's
answer tells of no failure. It may also stop before it is verified. -/
theorem serve_effects (he : Enforcement.build platform payTo routes branding = .ok e)
    (hc : (e.serve request).Course events (.done outcome)) :
    (e.IsFree request → events.map Event.effect = [.handle]) ∧
      (¬ e.IsFree request → events = [] ∨ ∃ call, e.Charges request call ∧
        ((∃ reply, (∀ v, reply = .ok v → v.isValid = false) ∧
            events = [.verified call reply]) ∨
          (∃ v reply, v.isValid = true ∧ (∀ own, reply = .ok own → failedFrom ≤ own.status) ∧
            events = [.verified call (.ok v), .handled reply]) ∨
          (∃ v own reply, v.isValid = true ∧ own.status < failedFrom ∧
            events = [.verified call (.ok v), .handled (.ok own), .settled call reply]))) := by
  refine ⟨fun hFree => ?_, fun hFree => ?_⟩
  · rw [Enforcement.course_of_free hFree hc]
    rfl
  cases hg : e.gate? request with
  | none => exact Or.inl (Enforcement.course_of_unaddressed hFree hg hc).1
  | some g =>
      obtain ⟨rs, hRs, hEnding⟩ := Enforcement.ending_of_serve he hg hc
      have hCharges : ∀ {call}, Selected g request rs call → e.Charges request call :=
        Enforcement.charges_of_selected he hg hRs
      cases hEnding with
      | unpaid hAcquired =>
          rcases hAcquired.of_refused with hNone | ⟨call, reply, hSelected, hInvalid, hOne⟩
          · exact Or.inl hNone
          · exact Or.inr ⟨call, hCharges hSelected, Or.inl ⟨reply, hInvalid, hOne⟩⟩
      | paywall hAcquired =>
          cases hAcquired with
          | paywall => exact Or.inl rfl
      | broken hAcquired =>
          obtain ⟨call, v, hSelected, hValid, rfl, -⟩ := hAcquired.of_acquired
          refine Or.inr ⟨call, hCharges hSelected, Or.inr (Or.inl ⟨v, _, hValid, ?_, rfl⟩)⟩
          intro own hOwn
          cases hOwn
      | failed hAcquired hStatus =>
          obtain ⟨call, v, hSelected, hValid, rfl, -⟩ := hAcquired.of_acquired
          refine Or.inr ⟨call, hCharges hSelected, Or.inr (Or.inl ⟨v, _, hValid, ?_, rfl⟩)⟩
          intro own hOwn
          cases hOwn
          exact hStatus
      | concluded hAcquired hStatus =>
          obtain ⟨call, v, hSelected, hValid, rfl, rfl⟩ := hAcquired.of_acquired
          exact Or.inr ⟨call, hCharges hSelected, Or.inr (Or.inr ⟨v, _, _, hValid, hStatus, rfl⟩)⟩

/-- In the shop the three effects follow one another, for a call that charges the request. -/
theorem serve_effects_shop : ∃ call outcome,
    (Shop.enforcement.serve Shop.request).Course (Shop.events call Shop.settled)
      (.done outcome) ∧
    Shop.enforcement.Charges Shop.request call := by
  obtain ⟨_, _, r, -, hc⟩ := Shop.exists_course Shop.settled
  have hFree : ¬ Shop.enforcement.IsFree Shop.request := fun hFree => by
    have hOne := (serve_effects Shop.build_eq hc).1 hFree
    cases hOne
  refine ⟨_, _, hc, ?_⟩
  rcases (serve_effects Shop.build_eq hc).2 hFree with hNone | ⟨call', hCharges, hEvents⟩
  · cases hNone
  · rcases hEvents with ⟨_, _, h⟩ | ⟨_, _, _, _, h⟩ | ⟨_, _, _, _, _, h⟩
    all_goals cases h
    exact hCharges

/-! ## What is handed out -/

/-- **No free content.** On a route that is protected, an answer that tells of no failure is the
handler's own with the report of its settlement. What was handled and not settled is refused,
and what the refusal is made of does not depend on the handler. The handler's failures are
handed out as they are. -/
theorem serve_delivers (he : Enforcement.build platform payTo routes branding = .ok e)
    {g : Gate Request} (hg : e.gate? request = some g)
    (hc : (e.serve request).Course events (.done outcome)) :
    (∀ response, outcome = .ok response → response.status < failedFrom →
      ∃ call own reply s, .handled (.ok own) ∈ events ∧ .settled call (.ok reply) ∈ events ∧
        reply.success = true ∧ Reports s reply ∧ Delivers own s response) ∧
    (∀ call reply, .settled call reply ∈ events → ¬ Succeeds reply →
      ∃ rs, g.requirements request = .ok rs ∧
        outcome = refusalResponse e.platform (settlementRefusal rs reply) ∧
        ∀ response, outcome = .ok response →
          Refuses e.platform (settlementRefusal rs reply) response) ∧
    (∀ own, .handled (.ok own) ∈ events → failedFrom ≤ own.status → outcome = .ok own) := by
  obtain ⟨rs, hRs, hEnding⟩ := Enforcement.ending_of_serve he hg hc
  refine ⟨?_, ?_, ?_⟩
  · intro response hOutcome hStatus
    obtain ⟨call, v, own, reply, s, -, -, hSuccess, hReports, rfl, rfl⟩ :=
      hEnding.of_delivered hOutcome hStatus
    exact ⟨call, own, reply, s, by simp, by simp, hSuccess, hReports,
      delivers_withSettlement own s⟩
  · intro call reply hSettled hFailed
    obtain ⟨v, own, -, -, -, -, hOutcome⟩ := hEnding.of_settled hSettled
    rw [conclude_of_not_succeeds hFailed] at hOutcome
    refine ⟨rs, hRs, hOutcome, ?_⟩
    intro response hResponse
    exact refuses_of_refusalResponse (hOutcome.symm.trans hResponse)
  · intro own hHandled hStatus
    rcases hEnding.of_handled hHandled with ⟨-, hOutcome⟩ | ⟨hBelow, -⟩
    · exact hOutcome
    · exact absurd hStatus (Int.not_le.mpr hBelow)

/-- In the shop the report is handed out, with what the facilitator told of the settlement. -/
theorem serve_delivers_shop : ∃ call response s,
    (Shop.enforcement.serve Shop.request).Course (Shop.events call Shop.settled)
      (.done (.ok response)) ∧
    Reports s Shop.settled ∧ Delivers Shop.report s response := by
  obtain ⟨g, rs, r, hg, hc⟩ := Shop.exists_course Shop.settled
  rw [Shop.concluded] at hc
  obtain ⟨call', own, reply, s, hHandled, hSettled, -, hReports, hDelivers⟩ :=
    (serve_delivers Shop.build_eq hg hc).1 _ rfl (by decide)
  obtain rfl := Except.ok.inj (Shop.handled_mem_events.mp hHandled)
  obtain rfl := Except.ok.inj (Shop.settled_mem_events.mp hSettled).2
  exact ⟨_, _, s, hc, hReports, hDelivers⟩

/-! ## What a settled payment is answered with -/

/-- **A settled payment.** On a route that is protected, an answer of the handler that tells of no
failure is followed by a settlement. If the facilitator settles the payment and names both the
transaction and the network, the answer is handed out with the report; if it leaves out one of
them, the settlement cannot be reported, and the request fails although the payment was made. -/
theorem serve_settled (he : Enforcement.build platform payTo routes branding = .ok e)
    {g : Gate Request} (hg : e.gate? request = some g)
    (hc : (e.serve request).Course events (.done outcome))
    {own : Response} (hHandled : .handled (.ok own) ∈ events) (hStatus : own.status < failedFrom) :
    ∃ call reply, .settled call reply ∈ events ∧ ∀ r, reply = .ok r → r.success = true →
      (∀ t n, r.transaction = some t → r.network = some n →
        outcome = .ok (own.withSettlement ⟨t, n, r.payer⟩)) ∧
      (r.transaction = none ∨ r.network = none →
        outcome = .error (.rejected ⟨"Settlement", gaps r⟩)) := by
  obtain ⟨rs, -, hEnding⟩ := Enforcement.ending_of_serve he hg hc
  rcases hEnding.of_handled hHandled with ⟨hFailed, -⟩ | ⟨-, call, reply, hSettled, hOutcome⟩
  · exact absurd hStatus (Int.not_lt.mpr hFailed)
  refine ⟨call, reply, hSettled, ?_⟩
  rintro r rfl hSuccess
  have hConclude : Acquired.conclude rs (.ok r) = Acquired.settlementOf r := by
    simp only [Acquired.conclude, hSuccess, if_true]
  rw [hConclude] at hOutcome
  refine ⟨fun t n hTransaction hNetwork => ?_, fun hUnnamed => ?_⟩
  · rw [hOutcome, settlementOf_named hTransaction hNetwork]
    rfl
  · rw [hOutcome, settlementOf_unnamed hUnnamed]
    rfl

/-- In the shop the settlement of which everything is told is reported. -/
theorem serve_settled_shop : ∃ call,
    (Shop.enforcement.serve Shop.request).Course (Shop.events call Shop.settled)
      (.done (.ok (Shop.report.withSettlement ⟨"0xabc", "base-sepolia", none⟩))) := by
  obtain ⟨g, rs, r, hg, hc⟩ := Shop.exists_course Shop.settled
  obtain ⟨call, reply, hSettled, hReply⟩ :=
    serve_settled Shop.build_eq hg hc (Shop.handled_mem_events.mpr rfl) (by decide)
  have hSame := (Shop.settled_mem_events.mp hSettled).2
  rw [(hReply Shop.settled hSame rfl).1 "0xabc" "base-sepolia" rfl rfl] at hc
  exact ⟨_, hc⟩

/-- In the shop a payment that was settled without a named transaction fails the request. -/
theorem serve_unnamed_shop : Shop.unnamed.success = true ∧ ∃ call,
    (Shop.enforcement.serve Shop.request).Course (Shop.events call Shop.unnamed)
      (.done (.error (.rejected ⟨"Settlement", [⟨["transaction"], .notText⟩]⟩))) := by
  obtain ⟨g, rs, r, -, hc⟩ := Shop.exists_course Shop.unnamed
  exact ⟨rfl, _, hc⟩

end Tollgate.Http
