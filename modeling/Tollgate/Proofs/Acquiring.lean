import Tollgate.Proofs.Protection

set_option autoImplicit false

/-! # How a payment is acquired

Acquiring a payment takes up to five decisions, each of which may be the last: the payment is
extracted from the request, a paywall is shown in its place, a requirement is selected for it, the
facilitator is asked, and its verdict counts. `Acquires` says for each of them when it is reached
and what it then comes to. `acquire_outcome` holds this of every gate and of every answer of the
facilitator; and for the gates of requests over HTTP, that no header whatsoever leads to another
error than a refusal, but for what the facilitator's own client raises.
-/

namespace Tollgate

namespace Gate

open Tollgate.Text Tollgate.Json Tollgate.Payment

variable {Request ρ : Type}

/-! ## Decisions -/

/-- The outcome is a refusal with a message, the failure behind it if there is one, and everything
that may be paid. -/
def RefusesWith (rs : List Requirement) (message : LooseText) (cause? : Option Failure)
    (payer : Option LooseText) (outcome : Except Failure (Option Acquired)) : Prop :=
  ∃ r : Refusal Failure, outcome = .error (.refused r) ∧ r.message = message ∧
    r.reason.cause? = cause? ∧ r.accepts = rs ∧ r.payer = payer

/-- What acquiring a payment comes to. Of the decisions the earliest that applies counts, and only
the last of them has an effect. -/
structure Acquires (g : Gate Request) (request : Request) (rs : List Requirement)
    (verify : Call → Except Failure Verification) (effects : List Session.Effect)
    (outcome : Except Failure (Option Acquired)) : Prop where
  unreadable : ∀ f, g.hooks.extract request = .error f →
    effects = [] ∧ RefusesWith rs f.message (some f) none outcome
  paywall : g.hooks.extract request = .ok none →
    (∃ shows, g.hooks.paywall? = some shows ∧ shows request = true) →
      effects = [] ∧ outcome = .ok none
  missing : g.hooks.extract request = .ok none →
    (∀ shows, g.hooks.paywall? = some shows → shows request = false) →
      effects = [] ∧ RefusesWith rs "X-PAYMENT header is required" none none outcome
  unmatched : ∀ payload, g.hooks.extract request = .ok (some payload) →
    g.hooks.select rs payload = none →
      effects = [] ∧ RefusesWith rs "Unable to find matching payment requirements" none none outcome
  asked : ∀ call, Selected g request rs call → effects = [.verify call]
  unanswered : ∀ call f, Selected g request rs call → verify call = .error f → outcome = .error f
  unverified : ∀ call v, Selected g request rs call → verify call = .ok v → v.isValid = false →
    ∃ message, RefusesWith rs message none v.payer outcome ∧
      (∀ reason, v.invalidReason = some reason → reason.isEmpty = false → message = reason) ∧
      ((∀ reason, v.invalidReason = some reason → reason.isEmpty = true) →
        message = "Payment verification failed")
  verified : ∀ call v, Selected g request rs call → verify call = .ok v → v.isValid = true →
    outcome = .ok (some ⟨call.payload, call.requirement, rs⟩)

section Acquire

variable {g : Gate Request} {request : Request} {rs : List Requirement}

theorem acquire_of_error {f : Failure} (h : g.hooks.extract request = .error f) :
    (g.acquire request rs : Session ρ _) =
      .done (.error (.refused ⟨.unreadablePayment f, rs, none⟩)) := by
  unfold Gate.acquire
  rw [h]

theorem acquire_of_paywall (h : g.hooks.extract request = .ok none)
    (hPaywall : g.showsPaywall request = true) :
    (g.acquire request rs : Session ρ _) = .done (.ok none) := by
  unfold Gate.acquire
  rw [h]
  exact if_pos hPaywall

theorem acquire_of_missing (h : g.hooks.extract request = .ok none)
    (hPaywall : g.showsPaywall request = false) :
    (g.acquire request rs : Session ρ _) =
      .done (.error (.refused ⟨.paymentMissing, rs, none⟩)) := by
  unfold Gate.acquire
  rw [h]
  exact if_neg (Bool.eq_false_iff.mp hPaywall)

theorem acquire_of_unmatched {payload : Payload}
    (h : g.hooks.extract request = .ok (some payload))
    (hSelect : g.hooks.select rs payload = none) :
    (g.acquire request rs : Session ρ _) = .done (.error (.refused ⟨.unmatched, rs, none⟩)) := by
  unfold Gate.acquire
  simp only [h, hSelect]

theorem acquire_of_selected {call : Call} (h : Selected g request rs call) :
    (g.acquire request rs : Session ρ _) =
      .verify call (fun reply => .done (Gate.judge rs call reply)) := by
  unfold Gate.acquire
  simp only [h.extract, h.select]

/-- Whether a paywall is shown is the predicate's matter, if there is one. -/
theorem showsPaywall_eq_true_iff : g.showsPaywall request = true ↔
    ∃ shows, g.hooks.paywall? = some shows ∧ shows request = true := by
  unfold Gate.showsPaywall
  cases g.hooks.paywall? with
  | none => simp
  | some shows => simp

theorem showsPaywall_eq_false_iff : g.showsPaywall request = false ↔
    ∀ shows, g.hooks.paywall? = some shows → shows request = false := by
  unfold Gate.showsPaywall
  cases g.hooks.paywall? with
  | none => simp
  | some shows => simp

end Acquire

/-! ## Refusals -/

/-- A refusal for a reason that has no failure behind it. -/
theorem refuses_of_cause?_eq_none {rs : List Requirement} {reason : Reason Failure}
    {payer : Option LooseText} (h : reason.cause? = none) :
    RefusesWith rs reason.ownMessage none payer (.error (.refused ⟨reason, rs, payer⟩)) := by
  refine ⟨⟨reason, rs, payer⟩, rfl, ?_, h, rfl, rfl⟩
  rw [Refusal.message_eq, h]
  rfl

/-- The facilitator's reason is told, unless it is empty. -/
theorem refuses_unverified (rs : List Requirement) (v : Verification) :
    ∃ message, RefusesWith rs message none v.payer
        (.error (.refused ⟨.unverified v.invalidReason, rs, v.payer⟩)) ∧
      (∀ reason, v.invalidReason = some reason → reason.isEmpty = false → message = reason) ∧
      ((∀ reason, v.invalidReason = some reason → reason.isEmpty = true) →
        message = "Payment verification failed") := by
  refine ⟨(Reason.unverified v.invalidReason : Reason Failure).ownMessage,
    refuses_of_cause?_eq_none rfl, ?_, ?_⟩
  · intro reason hReason hSome
    rw [hReason]
    exact if_neg (Bool.eq_false_iff.mp hSome)
  · intro hEmpty
    cases hReason : v.invalidReason with
    | none => rfl
    | some reason => exact if_pos (hEmpty reason hReason)

theorem acquires (g : Gate Request) (request : Request) (rs : List Requirement)
    (answers : Session.Answers ρ) :
    Acquires g request rs answers.verify ((g.acquire request rs).effects answers)
      ((g.acquire request rs).result answers) := by
  refine ⟨?unreadable, ?paywall, ?missing, ?unmatched, ?asked, ?unanswered, ?unverified, ?verified⟩
  case unreadable =>
    intro f hExtract
    rw [acquire_of_error hExtract]
    exact ⟨rfl, _, rfl, Refusal.message_eq _, rfl, rfl, rfl⟩
  case paywall =>
    intro hExtract hShows
    rw [acquire_of_paywall hExtract (showsPaywall_eq_true_iff.mpr hShows)]
    exact ⟨rfl, rfl⟩
  case missing =>
    intro hExtract hHides
    rw [acquire_of_missing hExtract (showsPaywall_eq_false_iff.mpr hHides)]
    exact ⟨rfl, refuses_of_cause?_eq_none rfl⟩
  case unmatched =>
    intro payload hExtract hSelect
    rw [acquire_of_unmatched hExtract hSelect]
    exact ⟨rfl, refuses_of_cause?_eq_none rfl⟩
  case asked =>
    intro call hSelected
    rw [acquire_of_selected hSelected]
    rfl
  case unanswered =>
    intro call f hSelected hFailed
    rw [acquire_of_selected hSelected]
    show Gate.judge rs call (answers.verify call) = _
    rw [hFailed]
    rfl
  case unverified =>
    intro call v hSelected hAnswered hInvalid
    rw [acquire_of_selected hSelected]
    show ∃ message,
      RefusesWith rs message none v.payer (Gate.judge rs call (answers.verify call)) ∧ _
    have hJudged : Gate.judge rs call (.ok v) =
        .error (.refused ⟨.unverified v.invalidReason, rs, v.payer⟩) :=
      if_neg (Bool.eq_false_iff.mp hInvalid)
    rw [hAnswered, hJudged]
    exact refuses_unverified rs v
  case verified =>
    intro call v hSelected hAnswered hValid
    rw [acquire_of_selected hSelected]
    show Gate.judge rs call (answers.verify call) = _
    rw [hAnswered]
    exact if_pos hValid

theorem judge_error_cases {rs : List Requirement} {call : Call}
    {reply : Except Failure Verification} {f : Failure}
    (h : Gate.judge rs call reply = .error f) :
    (∃ r, f = .refused r ∧ r.accepts = rs) ∨ reply = .error f := by
  cases reply with
  | error f' =>
      cases h
      exact Or.inr rfl
  | ok v =>
      simp only [Gate.judge] at h
      split at h
      · cases h
      · cases h
        exact Or.inl ⟨_, rfl, rfl⟩

/-- An error is a refusal that lists what may be paid, or was raised as the facilitator was
asked. -/
theorem acquire_error_cases {g : Gate Request} {request : Request} {rs : List Requirement}
    {answers : Session.Answers ρ} {f : Failure}
    (h : (g.acquire request rs).result answers = .error f) :
    (∃ r, f = .refused r ∧ r.accepts = rs) ∨
      ∃ call, (g.acquire request rs).effects answers = [.verify call] ∧
        answers.verify call = .error f := by
  -- the decisions in their order; only the facilitator's client raises what is no refusal
  cases hExtract : g.hooks.extract request with
  | error f' =>
      rw [acquire_of_error hExtract] at h
      cases h
      exact Or.inl ⟨_, rfl, rfl⟩
  | ok payment =>
      cases payment with
      | none =>
          cases hPaywall : g.showsPaywall request with
          | true =>
              rw [acquire_of_paywall hExtract hPaywall] at h
              cases h
          | false =>
              rw [acquire_of_missing hExtract hPaywall] at h
              cases h
              exact Or.inl ⟨_, rfl, rfl⟩
      | some payload =>
          cases hSelect : g.hooks.select rs payload with
          | none =>
              rw [acquire_of_unmatched hExtract hSelect] at h
              cases h
              exact Or.inl ⟨_, rfl, rfl⟩
          | some r =>
              have hSelected : Selected g request rs ⟨payload, r⟩ := ⟨hExtract, hSelect⟩
              rw [acquire_of_selected hSelected] at h ⊢
              rcases judge_error_cases h with hRefused | hRaised
              · exact Or.inl hRefused
              · exact Or.inr ⟨_, rfl, hRaised⟩

end Gate

/-! ## Requests over HTTP -/

namespace Http

open Tollgate.Text Tollgate.Json Tollgate.Payment Tollgate.Gate

/-- The failures with which a payment header is refused: it does not decode to a text, the text is
no JSON or one that is nested too deeply, or the value is no payment. -/
inductive HeaderFailure : Failure → Prop
  | undecodable (fault : HeaderFault) : HeaderFailure (.badHeader fault)
  | unreadable (error : ReadError) : HeaderFailure (.unreadable error)
  | rejected (rejection : Schema.Rejection) : HeaderFailure (.rejected rejection)

theorem headerFailure_of_ofHeader {depth : Nat} {header : String} {f : Failure}
    (h : Payload.ofHeader depth header = .error f) : HeaderFailure f := by
  unfold Payload.ofHeader at h
  rcases bind_eq_error_iff.mp h with hText | ⟨cs, -, h⟩
  · obtain ⟨fault, -, rfl⟩ := mapError_eq_error_iff.mp hText
    exact .undecodable fault
  rcases bind_eq_error_iff.mp h with hValue | ⟨value, -, h⟩
  · obtain ⟨error, -, rfl⟩ := mapError_eq_error_iff.mp hValue
    exact .unreadable error
  · obtain ⟨rejection, -, rfl⟩ := mapError_eq_error_iff.mp h
    exact .rejected rejection

/-- What acquiring the payment of a request over HTTP comes to on a platform, whatever the headers
of the request are. -/
structure AcquiresHeader {ρ : Type} (p : Platform) (g : Gate Request) (request : Request)
    (rs : List Requirement) (answers : Session.Answers ρ) : Prop where
  /-- Without a header, or with an empty one, a browser is shown a paywall. -/
  missing : (∀ header, request.headers.get? "X-PAYMENT" = some header → header = "") →
    (g.acquire request rs).effects answers = [] ∧
      (request.isBrowser = true → (g.acquire request rs).result answers = .ok none) ∧
      (request.isBrowser = false → RefusesWith rs "X-PAYMENT header is required" none none
        ((g.acquire request rs).result answers))
  /-- A header that holds no payment is refused for what is wrong with it. -/
  malformed : ∀ header f, request.headers.get? "X-PAYMENT" = some header → header ≠ "" →
    Payload.ofHeader p.readingDepth header = .error f →
      HeaderFailure f ∧ (g.acquire request rs).effects answers = [] ∧
        RefusesWith rs f.message (some f) none ((g.acquire request rs).result answers)
  /-- No other error comes of a request than a refusal, or what the facilitator's client raised. -/
  error : ∀ f, (g.acquire request rs).result answers = .error f →
    (∃ r, f = .refused r ∧ r.accepts = rs) ∨
      ∃ call, (g.acquire request rs).effects answers = [.verify call] ∧
        answers.verify call = .error f

theorem acquiresHeader {ρ : Type} {p : Platform} {g : Gate Request}
    (hHooks : g.hooks = requestHooks p) (request : Request) (rs : List Requirement)
    (answers : Session.Answers ρ) : AcquiresHeader p g request rs answers := by
  have hAcquires := acquires g request rs answers
  have hExtract : g.hooks.extract request = request.payment p.readingDepth := by
    rw [hHooks]
    rfl
  have hPaywall : ∀ shows, g.hooks.paywall? = some shows ↔ shows = Request.isBrowser := by
    intro shows
    rw [hHooks]
    exact ⟨fun h => (Option.some.inj h).symm, fun h => congrArg some h.symm⟩
  refine ⟨?missing, ?malformed, fun f => acquire_error_cases⟩
  case missing =>
    intro hHeader
    have hNone : g.hooks.extract request = .ok none := by
      rw [hExtract]
      unfold Request.payment
      split
      · rfl
      · rename_i header hSome
        exact if_pos (hHeader header hSome)
    cases hBrowser : request.isBrowser with
    | true =>
        have hShows : ∃ shows, g.hooks.paywall? = some shows ∧ shows request = true :=
          ⟨_, (hPaywall _).mpr rfl, hBrowser⟩
        obtain ⟨hEffects, hOutcome⟩ := hAcquires.paywall hNone hShows
        exact ⟨hEffects, fun _ => hOutcome, fun h => Bool.noConfusion h⟩
    | false =>
        have hHides : ∀ shows, g.hooks.paywall? = some shows → shows request = false := by
          intro shows h
          rw [(hPaywall shows).mp h]
          exact hBrowser
        obtain ⟨hEffects, hRefuses⟩ := hAcquires.missing hNone hHides
        exact ⟨hEffects, fun h => Bool.noConfusion h, fun _ => hRefuses⟩
  case malformed =>
    intro header f hHeader hSome hFailed
    have hError : g.hooks.extract request = .error f := by
      rw [hExtract]
      unfold Request.payment
      rw [hHeader]
      simp only [if_neg hSome, hFailed]
      rfl
    obtain ⟨hEffects, hRefuses⟩ := hAcquires.unreadable f hError
    exact ⟨headerFailure_of_ofHeader hFailed, hEffects, hRefuses⟩

/-- **How acquiring a payment ends.** For every gate, request and facilitator the earliest decision
that applies counts. Over HTTP no headers lead to another error than a refusal, unless the
facilitator's client raised it. -/
theorem acquire_outcome :
    (∀ {Request ρ : Type} (g : Gate Request) (request : Request) (rs : List Requirement)
      (answers : Session.Answers ρ), Acquires g request rs answers.verify
        ((g.acquire request rs).effects answers) ((g.acquire request rs).result answers)) ∧
    (∀ {ρ : Type} (p : Platform) (g : Gate Request), g.hooks = requestHooks p →
      ∀ (request : Request) (rs : List Requirement) (answers : Session.Answers ρ),
        AcquiresHeader p g request rs answers) :=
  ⟨fun g request rs answers => acquires g request rs answers,
    fun _ _ hHooks request rs answers => acquiresHeader hHooks request rs answers⟩

/-- A request for the report whose header holds nothing but a character that base64 skips. -/
def Shop.scribble : Request :=
  { Shop.request with headers := [("X-PAYMENT", "!"), ("Host", "shop.example")] }

theorem acquire_outcome_shop : ∃ g, Shop.enforcement.gate? Shop.scribble = some g ∧
    g.hooks = requestHooks .plain ∧
      ∀ (rs : List Requirement) (answers : Session.Answers Response),
        RefusesWith rs ("Invalid X-PAYMENT header format: empty payload" : String)
          (some (.badHeader .empty)) none ((g.acquire Shop.scribble rs).result answers) := by
  have hGate : (Shop.enforcement.gate? Shop.scribble).isSome = true := by decide +kernel
  obtain ⟨g, hg⟩ := Option.isSome_iff_exists.mp hGate
  have hHooks := Enforcement.gate?_hooks Shop.build_eq hg
  rw [Shop.platform_eq] at hHooks
  have hSome : "!" ≠ "" := by decide
  have hFailed : Payload.ofHeader Platform.plain.readingDepth "!" = .error (.badHeader .empty) :=
    rfl
  refine ⟨g, hg, hHooks, fun rs answers => ?_⟩
  have hOutcome := acquire_outcome.2 .plain g hHooks Shop.scribble rs answers
  exact (hOutcome.malformed "!" _ rfl hSome hFailed).2.2

end Http

end Tollgate
