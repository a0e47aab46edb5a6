import Tollgate.Proofs.Ending

set_option autoImplicit false

/-! # What is answered

The answers that a request to a protected route may get, each described for itself: the refusal,
the paywall, and the handler's own answer with the report of a settlement in its header. The
first two have the status that asks for payment and are made of nothing that the handler said,
so an answer of any other status is the handler's (`Ending.of_delivered`).
-/

namespace Tollgate

/-! ## Settlements -/

namespace Gate

open Tollgate.Text Tollgate.Schema Tollgate.Payment

/-- A settlement that says what the facilitator reported of it. -/
structure Reports (s : Settlement) (reply : SettlementReply) : Prop where
  transaction : reply.transaction = some s.transaction
  network : reply.network = some s.network
  payer : reply.payer = s.payer

/-- The fault of a text that is wanted under a name. -/
def gap (name : String) : Option LooseText → List Fault
  | some _ => []
  | none => [⟨[name], .notText⟩]

/-- What a report leaves out that a settlement needs. -/
def gaps (reply : SettlementReply) : List Fault :=
  gap "transaction" reply.transaction ++ gap "network" reply.network

theorem text_ofLoose (t : LooseText) : text (.ofLoose t) = .valid t := by
  cases t <;> rfl

/-- A report that names the transaction and the network is a settlement. -/
theorem settlementOf_named {reply : SettlementReply} {t n : LooseText}
    (hTransaction : reply.transaction = some t) (hNetwork : reply.network = some n) :
    Acquired.settlementOf reply = .ok ⟨t, n, reply.payer⟩ := by
  have ht : text (.ofLoose? reply.transaction) = .valid t := by
    rw [hTransaction]
    exact text_ofLoose t
  have hn : text (.ofLoose? reply.network) = .valid n := by
    rw [hNetwork]
    exact text_ofLoose n
  unfold Acquired.settlementOf
  simp only [ht, hn]
  rfl

/-- A report that leaves out one of them is rejected for what it leaves out. -/
theorem settlementOf_unnamed {reply : SettlementReply}
    (h : reply.transaction = none ∨ reply.network = none) :
    Acquired.settlementOf reply = .error (.rejected ⟨"Settlement", gaps reply⟩) := by
  obtain ⟨success, errorReason, transaction, network, payer⟩ := reply
  unfold Acquired.settlementOf gaps
  cases transaction with
  | none =>
      cases network with
      | none => rfl
      | some n =>
          have hn : text (.ofLoose? (some n)) = .valid n := text_ofLoose n
          simp only [hn]
          rfl
  | some t =>
      cases network with
      | none =>
          have ht : text (.ofLoose? (some t)) = .valid t := text_ofLoose t
          simp only [ht]
          rfl
      | some n => simp at h

/-- What is concluded to be a settlement is what a report of success says. -/
theorem conclude_eq_ok_iff {rs : List Requirement} {reply : Except Failure SettlementReply}
    {s : Settlement} :
    Acquired.conclude rs reply = .ok s ↔
      ∃ r, reply = .ok r ∧ r.success = true ∧ Reports s r := by
  constructor
  · intro h
    cases reply with
    | error f => cases h
    | ok r =>
        unfold Acquired.conclude at h
        simp only at h
        split at h
        · rename_i hSuccess
          refine ⟨r, rfl, hSuccess, ?_⟩
          cases ht : r.transaction with
          | none => rw [settlementOf_unnamed (Or.inl ht)] at h; cases h
          | some t =>
              cases hn : r.network with
              | none => rw [settlementOf_unnamed (Or.inr hn)] at h; cases h
              | some n =>
                  rw [settlementOf_named ht hn] at h
                  cases h
                  exact ⟨ht, hn, rfl⟩
        · cases h
  · rintro ⟨r, rfl, hSuccess, hReports⟩
    unfold Acquired.conclude
    simp only [hSuccess, if_true]
    rw [settlementOf_named hReports.transaction hReports.network, hReports.payer]

/-- The facilitator reports that a payment was settled. -/
def Succeeds (reply : Except Failure SettlementReply) : Prop :=
  ∃ r, reply = .ok r ∧ r.success = true

/-- What a settlement that did not succeed is refused with. -/
def settlementRefusal (rs : List Requirement) :
    Except Failure SettlementReply → Refusal Failure
  | .error f => ⟨.settlementBroken f, rs, none⟩
  | .ok reply => ⟨.unsettled reply.errorReason, rs, reply.payer⟩

theorem conclude_of_not_succeeds {rs : List Requirement}
    {reply : Except Failure SettlementReply} (h : ¬ Succeeds reply) :
    Acquired.conclude rs reply = .error (.refused (settlementRefusal rs reply)) := by
  cases reply with
  | error f => rfl
  | ok r =>
      have hSuccess : ¬ r.success = true := fun hSuccess => h ⟨r, rfl, hSuccess⟩
      unfold Acquired.conclude
      simp only [if_neg hSuccess]
      rfl

end Gate

namespace Http

open Tollgate.Json Tollgate.Payment Tollgate.Route Tollgate.Gate

/-! ## Header fields -/

/-- The values of all fields of a name. -/
def Headers.all (headers : Headers) (name : String) : List String :=
  (headers.filter (fun (n, _) => sameName n name)).map Prod.snd

/-- The fields of other names. -/
def Headers.others (headers : Headers) (name : String) : Headers :=
  headers.filter (fun (n, _) => !sameName n name)

theorem sameName_self (name : String) : sameName name name = true := by
  simp [sameName]

theorem Headers.all_others (headers : Headers) (name : String) :
    (headers.others name).all name = [] := by
  unfold Headers.all Headers.others
  rw [List.filter_filter, List.map_eq_nil_iff, List.filter_eq_nil_iff]
  intro field _
  simp

theorem Headers.others_others (headers : Headers) (name : String) :
    (headers.others name).others name = headers.others name := by
  simp [Headers.others, List.filter_filter]

/-- Setting a field leaves one field of its name. -/
theorem Headers.all_set (headers : Headers) (name value : String) :
    (headers.set name value).all name = [value] := by
  induction headers with
  | nil => simp [Headers.set, Headers.all, sameName_self]
  | cons field rest ih =>
      obtain ⟨n, v⟩ := field
      unfold Headers.set
      by_cases h : sameName n name = true
      · rw [if_pos h]
        have hRest : (Headers.others rest name).all name = [] := Headers.all_others rest name
        simp only [Headers.all, Headers.others] at hRest ⊢
        rw [List.filter_cons_of_pos (by simpa using h), List.map_cons, hRest]
      · rw [if_neg h]
        simp only [Headers.all] at ih ⊢
        rw [List.filter_cons_of_neg (by simpa using h), ih]

/-- Setting a field leaves the fields of other names alone. -/
theorem Headers.others_set (headers : Headers) (name value : String) :
    (headers.set name value).others name = headers.others name := by
  induction headers with
  | nil => simp [Headers.set, Headers.others, sameName_self]
  | cons field rest ih =>
      obtain ⟨n, v⟩ := field
      unfold Headers.set
      by_cases h : sameName n name = true
      · rw [if_pos h]
        have hRest := Headers.others_others rest name
        simp only [Headers.others] at hRest ⊢
        rw [List.filter_cons_of_neg (by simp [h]), List.filter_cons_of_neg (by simp [h]), hRest]
      · rw [if_neg h]
        simp only [Headers.others] at ih ⊢
        rw [List.filter_cons_of_pos (by simp [h]), List.filter_cons_of_pos (by simp [h]), ih]

/-! ## Refusals and paywalls -/

/-- A response tells a client of a refusal: it asks for payment, its body is that of the refusal,
and it reports no settlement. -/
structure Refuses (platform : Platform) (r : Refusal Failure) (response : Response) : Prop where
  status : response.status = paymentRequired
  body : ∃ text, Json.write platform.writingDepth .compact r.body = .ok text ∧
    response.body = .text text
  report : response.headers.all Response.settlementHeader = []

variable {platform : Platform}

/-- A response that is no refusal and no paywall has not the status that asks for payment. -/
theorem not_paymentRequired {status : Int} (h : status < failedFrom) :
    status ≠ paymentRequired := by
  rintro rfl
  exact absurd h (by decide)

theorem refuses_of_refusalResponse {r : Refusal Failure} {response : Response}
    (h : refusalResponse platform r = .ok response) : Refuses platform r response := by
  obtain ⟨text, hText, rfl⟩ := map_eq_ok_iff.mp (mapError_eq_ok_iff.mp h)
  exact
    { status := rfl
      body := ⟨text, hText, rfl⟩
      report := by
        simp only [Response.ofText, Headers.all]
        decide }

/-- What answers a failure is a refusal. -/
theorem refuses_of_answerFailure {f : Failure} {response : Response}
    (h : answerFailure platform f = .ok response) :
    ∃ r, f = .refused r ∧ Refuses platform r response := by
  unfold answerFailure at h
  split at h
  · rename_i r
    exact ⟨r, rfl, refuses_of_refusalResponse h⟩
  · cases h

theorem status_of_paywallResponse {g : Gate Request} {rs : List Requirement}
    {branding : Branding} {response : Response}
    (h : paywallResponse platform g rs branding = .ok response) :
    response.status = paymentRequired := by
  unfold paywallResponse at h
  split at h
  · obtain ⟨text, -, rfl⟩ := map_eq_ok_iff.mp (mapError_eq_ok_iff.mp h)
    rfl
  · simp only at h
    split at h
    · cases h
      rfl
    · cases h

/-! ## Delivery -/

/-- A response is the handler's own with the report of a settlement in place of any that the
handler made itself. -/
structure Delivers (own : Response) (s : Settlement) (response : Response) : Prop where
  status : response.status = own.status
  body : response.body = own.body
  report : response.headers.all Response.settlementHeader = [s.header]
  others : response.headers.others Response.settlementHeader =
    own.headers.others Response.settlementHeader

theorem delivers_withSettlement (own : Response) (s : Settlement) :
    Delivers own s (own.withSettlement s) where
  status := rfl
  body := rfl
  report := Headers.all_set own.headers Response.settlementHeader s.header
  others := Headers.others_set own.headers Response.settlementHeader s.header

/-- An answer to a guarded request that tells of no failure is the handler's own, verified before
and settled after it was made. -/
theorem Ending.of_delivered {g : Gate Request} {branding : Branding} {request : Request}
    {rs : List Requirement} {events : List (Event Response)} {outcome : Except Failure Response}
    {response : Response} (h : Ending platform g branding request rs events outcome)
    (hOutcome : outcome = .ok response) (hStatus : response.status < failedFrom) :
    ∃ call v own reply s, Selected g request rs call ∧ v.isValid = true ∧
      reply.success = true ∧ Reports s reply ∧ response = own.withSettlement s ∧
      events = [.verified call (.ok v), .handled (.ok own), .settled call (.ok reply)] := by
  -- failures of all kinds, the handler's included, are answered with a status of their own
  have hRefused : ∀ f, answerFailure platform f ≠ .ok response := fun f hf => by
    obtain ⟨r, -, hRefuses⟩ := refuses_of_answerFailure hf
    exact not_paymentRequired hStatus hRefuses.status
  cases h with
  | unpaid => exact absurd hOutcome (hRefused _)
  | paywall => exact absurd (status_of_paywallResponse hOutcome) (not_paymentRequired hStatus)
  | broken => exact absurd hOutcome (hRefused _)
  | failed _ hFailed =>
      cases hOutcome
      exact absurd hFailed (Int.not_le.mpr hStatus)
  | @concluded front a own reply hAcquired hOwn =>
      obtain ⟨call, v, hSelected, hValid, rfl, rfl⟩ := hAcquired.of_acquired
      cases hConclude : Acquired.conclude rs reply with
      | error f =>
          rw [hConclude] at hOutcome
          exact absurd hOutcome (hRefused f)
      | ok s =>
          rw [hConclude] at hOutcome
          cases hOutcome
          obtain ⟨r, rfl, hSuccess, hReports⟩ := conclude_eq_ok_iff.mp hConclude
          exact ⟨call, v, own, r, s, hSelected, hValid, hSuccess, hReports, rfl, rfl⟩

end Http

end Tollgate
