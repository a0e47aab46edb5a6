import Tollgate.Proofs.Course
import Tollgate.Proofs.Setup

set_option autoImplicit false

/-! # How a request may end

`Acquisition` lists the ways in which the acquisition of a payment may end, and `Ending` those in
which a request to a protected route may end, each with the events on the way and what comes of
it. The lists are exact: `acquisition_of_course` and `ending_of_guarded` find every finished
course in them, `course_of_acquisition` and `guarded_of_ending` show that nothing in them is idle.
What holds of all courses of a request is proved by going through the lists; nothing after this
module opens the sessions themselves.
-/

namespace Tollgate

/-! ## Acquiring a payment -/

namespace Gate

open Tollgate.Payment

variable {Request ρ : Type}

/-- A call is for the payment that a request carries and for the requirement that was selected
for it. -/
structure Selected (g : Gate Request) (request : Request) (rs : List Requirement) (call : Call) :
    Prop where
  extract : g.hooks.extract request = .ok (some call.payload)
  select : g.hooks.select rs call.payload = some call.requirement

/-- The ways in which the acquisition of a payment may end. -/
inductive Acquisition (g : Gate Request) (request : Request) (rs : List Requirement) :
    List (Event ρ) → Except Failure (Option Acquired) → Prop
  | unreadable {f : Failure} (hExtract : g.hooks.extract request = .error f) :
      Acquisition g request rs [] (.error (.refused ⟨.unreadablePayment f, rs, none⟩))
  | paywall (hExtract : g.hooks.extract request = .ok none)
      (hPaywall : g.showsPaywall request = true) : Acquisition g request rs [] (.ok none)
  | missing (hExtract : g.hooks.extract request = .ok none)
      (hPaywall : g.showsPaywall request = false) :
      Acquisition g request rs [] (.error (.refused ⟨.paymentMissing, rs, none⟩))
  | unmatched {payload : Payload} (hExtract : g.hooks.extract request = .ok (some payload))
      (hSelect : g.hooks.select rs payload = none) :
      Acquisition g request rs [] (.error (.refused ⟨.unmatched, rs, none⟩))
  | unanswered {call : Call} {f : Failure} (hSelected : Selected g request rs call) :
      Acquisition g request rs [.verified call (.error f)] (.error f)
  | unverified {call : Call} {v : Verification} (hSelected : Selected g request rs call)
      (hInvalid : v.isValid = false) :
      Acquisition g request rs [.verified call (.ok v)]
        (.error (.refused ⟨.unverified v.invalidReason, rs, v.payer⟩))
  | verified {call : Call} {v : Verification} (hSelected : Selected g request rs call)
      (hValid : v.isValid = true) :
      Acquisition g request rs [.verified call (.ok v)]
        (.ok (some ⟨call.payload, call.requirement, rs⟩))

/-- Every finished course of an acquisition ends in one of the ways listed. -/
theorem acquisition_of_course {g : Gate Request} {request : Request} {rs : List Requirement}
    {events : List (Event ρ)} {a : Except Failure (Option Acquired)}
    (h : (g.acquire request rs).Course events (.done a)) : Acquisition g request rs events a := by
  unfold Gate.acquire at h
  split at h
  · rename_i f hExtract
    obtain ⟨rfl, rfl⟩ := Session.Course.of_done h
    exact .unreadable hExtract
  · rename_i hExtract
    split at h
    all_goals
      rename_i hPaywall
      obtain ⟨rfl, rfl⟩ := Session.Course.of_done h
    · exact .paywall hExtract hPaywall
    · exact .missing hExtract (Bool.eq_false_iff.mpr hPaywall)
  · rename_i payload hExtract
    split at h
    · rename_i hSelect
      obtain ⟨rfl, rfl⟩ := Session.Course.of_done h
      exact .unmatched hExtract hSelect
    · rename_i r hSelect
      obtain ⟨reply, rest, rfl, hRest⟩ := Session.Course.of_verify h
      obtain ⟨rfl, rfl⟩ := Session.Course.of_done hRest
      have hSelected : Selected g request rs ⟨payload, r⟩ := ⟨hExtract, hSelect⟩
      cases reply with
      | error f => exact .unanswered hSelected
      | ok v =>
          cases hv : v.isValid with
          | false => simpa [Gate.judge, hv] using Acquisition.unverified hSelected hv
          | true => simpa [Gate.judge, hv] using Acquisition.verified hSelected hv

/-- An acquisition may end in each of the ways listed. -/
theorem course_of_acquisition {g : Gate Request} {request : Request} {rs : List Requirement}
    {events : List (Event ρ)} {a : Except Failure (Option Acquired)}
    (h : Acquisition g request rs events a) : (g.acquire request rs).Course events (.done a) := by
  unfold Gate.acquire
  cases h with
  | unreadable hExtract => rw [hExtract]; exact .nil _
  | paywall hExtract hPaywall =>
      rw [hExtract]
      simp only [hPaywall, if_true]
      exact .nil _
  | missing hExtract hPaywall =>
      rw [hExtract]
      simp only [hPaywall, Bool.false_eq_true, if_false]
      exact .nil _
  | unmatched hExtract hSelect =>
      rw [hExtract]
      simp only [hSelect]
      exact .nil _
  | unanswered hSelected =>
      rw [hSelected.extract]
      simp only [hSelected.select]
      exact .cons (.verify _ _ _) (.nil _)
  | @unverified call v hSelected hInvalid =>
      rw [hSelected.extract]
      simp only [hSelected.select]
      refine .cons (.verify _ _ (.ok v)) ?_
      simp only [Gate.judge, hInvalid, Bool.false_eq_true, if_false]
      exact .nil _
  | @verified call v hSelected hValid =>
      rw [hSelected.extract]
      simp only [hSelected.select]
      refine .cons (.verify _ _ (.ok v)) ?_
      simp only [Gate.judge, hValid, if_true]
      exact .nil _

/-- A payment is refused before it is verified, or after a verification that does not hold it
valid. -/
theorem Acquisition.of_refused {g : Gate Request} {request : Request} {rs : List Requirement}
    {events : List (Event ρ)} {f : Failure} (h : Acquisition g request rs events (.error f)) :
    events = [] ∨ ∃ call reply, Selected g request rs call ∧
      (∀ v, reply = .ok v → v.isValid = false) ∧ events = [.verified call reply] := by
  cases h with
  | unreadable | missing | unmatched => exact Or.inl rfl
  | unanswered hSelected =>
      refine Or.inr ⟨_, _, hSelected, ?_, rfl⟩
      intro v hv
      cases hv
  | unverified hSelected hInvalid =>
      refine Or.inr ⟨_, _, hSelected, ?_, rfl⟩
      intro v hv
      cases hv
      exact hInvalid

/-- A payment is acquired only after a verification that holds it valid. -/
theorem Acquisition.of_acquired {g : Gate Request} {request : Request} {rs : List Requirement}
    {events : List (Event ρ)} {a : Acquired} (h : Acquisition g request rs events (.ok (some a))) :
    ∃ call v, Selected g request rs call ∧ v.isValid = true ∧ events = [.verified call (.ok v)] ∧
      a = ⟨call.payload, call.requirement, rs⟩ := by
  cases h with
  | verified hSelected hValid => exact ⟨_, _, hSelected, hValid, rfl, rfl⟩

/-- Nothing is done to acquire a payment but to have it verified, and that once. -/
theorem Acquisition.exists_reply {g : Gate Request} {request : Request} {rs : List Requirement}
    {events : List (Event ρ)} {a : Except Failure (Option Acquired)}
    (h : Acquisition g request rs events a) :
    ∃ reply, ∀ event ∈ events, ∃ call, event = .verified call reply := by
  cases h with
  | unreadable | paywall | missing | unmatched =>
      exact ⟨.error .titleMissing, fun event hMem => by cases hMem⟩
  | unanswered | unverified | verified =>
      exact ⟨_, fun event hMem => ⟨_, List.mem_singleton.mp hMem⟩⟩

theorem Acquisition.exists_answers {g : Gate Request} {request : Request} {rs : List Requirement}
    {events : List (Event ρ)} {a : Except Failure (Option Acquired)}
    (h : Acquisition g request rs events a) (own : Except Failure ρ)
    (reply : Except Failure SettlementReply) :
    ∃ v, ∀ event ∈ events, event.Agrees ⟨fun _ => v, own, fun _ => reply⟩ := by
  obtain ⟨v, hVerified⟩ := h.exists_reply
  refine ⟨v, fun event hMem => ?_⟩
  obtain ⟨call, rfl⟩ := hVerified event hMem
  rfl

/-- A settlement is asked for once, with the payment that was verified and the requirement that
it was verified for. -/
theorem course_settle {a : Acquired} {events : List (Event ρ)} {s : Except Failure Settlement}
    (h : a.settle.Course events (.done s)) :
    ∃ reply, events = [.settled ⟨a.payload, a.selected⟩ reply] ∧
      s = Acquired.conclude a.requirements reply := by
  obtain ⟨reply, rest, rfl, hRest⟩ := Session.Course.of_settle h
  obtain ⟨rfl, rfl⟩ := Session.Course.of_done hRest
  exact ⟨reply, rfl, rfl⟩

end Gate

/-! ## Serving a request -/

namespace Http

open Tollgate.Payment Tollgate.Route Tollgate.Gate

/-- The ways in which a request to a protected route may end. -/
inductive Ending (platform : Platform) (g : Gate Request) (branding : Branding)
    (request : Request) (rs : List Requirement) :
    List (Event Response) → Except Failure Response → Prop
  | unpaid {events : List (Event Response)} {f : Failure}
      (hAcquired : Acquisition g request rs events (.error f)) :
      Ending platform g branding request rs events (answerFailure platform f)
  | paywall {events : List (Event Response)}
      (hAcquired : Acquisition g request rs events (.ok none)) :
      Ending platform g branding request rs events (paywallResponse platform g rs branding)
  | broken {events : List (Event Response)} {a : Acquired} {f : Failure}
      (hAcquired : Acquisition g request rs events (.ok (some a))) :
      Ending platform g branding request rs (events ++ [.handled (.error f)])
        (answerFailure platform f)
  | failed {events : List (Event Response)} {a : Acquired} {own : Response}
      (hAcquired : Acquisition g request rs events (.ok (some a)))
      (hStatus : failedFrom ≤ own.status) :
      Ending platform g branding request rs (events ++ [.handled (.ok own)]) (.ok own)
  | concluded {events : List (Event Response)} {a : Acquired} {own : Response}
      {reply : Except Failure SettlementReply}
      (hAcquired : Acquisition g request rs events (.ok (some a)))
      (hStatus : own.status < failedFrom) :
      Ending platform g branding request rs
        (events ++ [.handled (.ok own), .settled ⟨a.payload, a.selected⟩ reply])
        (afterSettlement platform own (Acquired.conclude a.requirements reply))

variable {platform : Platform} {events : List (Event Response)}
  {outcome : Except Failure Response}

/-- Every finished course of a guarded request ends in one of the ways listed. -/
theorem ending_of_guarded {g : Gate Request} {branding : Branding} {request : Request}
    {rs : List Requirement} (hRs : g.requirements request = .ok rs)
    (h : (guarded platform g branding request).Course events (.done outcome)) :
    Ending platform g branding request rs events outcome := by
  unfold guarded at h
  rw [hRs] at h
  obtain ⟨front, back, a, rfl, hFront, hBack⟩ := (Session.course_bind_iff _ _ _ _).mp h
  have hAcquired := acquisition_of_course hFront
  cases a with
  | error f =>
      obtain ⟨rfl, rfl⟩ := Session.Course.of_done hBack
      rw [List.append_nil]
      exact .unpaid hAcquired
  | ok o =>
      cases o with
      | none =>
          obtain ⟨rfl, rfl⟩ := Session.Course.of_done hBack
          rw [List.append_nil]
          exact .paywall hAcquired
      | some a =>
          obtain ⟨reply, rest, rfl, hRest⟩ := Session.Course.of_handle hBack
          cases reply with
          | error f =>
              obtain ⟨rfl, rfl⟩ := Session.Course.of_done hRest
              exact .broken hAcquired
          | ok own =>
              simp only [afterHandler] at hRest
              split at hRest
              · rename_i hStatus
                obtain ⟨rfl, rfl⟩ := Session.Course.of_done hRest
                exact .failed hAcquired hStatus
              · rename_i hStatus
                obtain ⟨front', back', s, rfl, hSettle, hLast⟩ :=
                  (Session.course_bind_iff _ _ _ _).mp hRest
                obtain ⟨reply, rfl, rfl⟩ := course_settle hSettle
                obtain ⟨rfl, rfl⟩ := Session.Course.of_done hLast
                exact .concluded hAcquired (Int.not_le.mp hStatus)

/-- A guarded request may end in each of the ways listed. -/
theorem guarded_of_ending {g : Gate Request} {branding : Branding} {request : Request}
    {rs : List Requirement} (hRs : g.requirements request = .ok rs)
    (h : Ending platform g branding request rs events outcome) :
    (guarded platform g branding request).Course events (.done outcome) := by
  unfold guarded
  rw [hRs]
  cases h with
  | unpaid hAcquired =>
      have hCourse :=
        (course_of_acquisition hAcquired).bind (afterAcquisition platform g rs branding)
      exact hCourse
  | paywall hAcquired =>
      have hCourse :=
        (course_of_acquisition hAcquired).bind (afterAcquisition platform g rs branding)
      exact hCourse
  | broken hAcquired =>
      have hCourse :=
        (course_of_acquisition hAcquired).bind (afterAcquisition platform g rs branding)
      exact hCourse.append (.cons (.handle _ _) (.nil _))
  | @failed front a own hAcquired hStatus =>
      have hCourse :=
        (course_of_acquisition hAcquired).bind (afterAcquisition platform g rs branding)
      refine hCourse.append (.cons (.handle _ (.ok own)) ?_)
      simp only [afterHandler, if_pos hStatus]
      exact .nil _
  | @concluded front a own reply hAcquired hStatus =>
      have hCourse :=
        (course_of_acquisition hAcquired).bind (afterAcquisition platform g rs branding)
      refine hCourse.append (.cons (.handle _ (.ok own)) ?_)
      simp only [afterHandler, if_neg (Int.not_le.mpr hStatus)]
      exact .cons (.settle _ _ reply) (.nil _)

/-- A settlement is asked for only by a request that was verified and handled. -/
theorem Ending.of_settled {g : Gate Request} {branding : Branding} {request : Request}
    {rs : List Requirement} (h : Ending platform g branding request rs events outcome) {call : Call}
    {reply : Except Failure SettlementReply} (hMem : .settled call reply ∈ events) :
    ∃ v own, Selected g request rs call ∧ v.isValid = true ∧ own.status < failedFrom ∧
      events = [.verified call (.ok v), .handled (.ok own), .settled call reply] ∧
      outcome = afterSettlement platform own (Acquired.conclude rs reply) := by
  cases h with
  | unpaid hAcquired | paywall hAcquired =>
      obtain ⟨_, hVerified⟩ := hAcquired.exists_reply
      obtain ⟨_, hEvent⟩ := hVerified _ hMem
      cases hEvent
  | broken hAcquired | failed hAcquired =>
      obtain ⟨_, v, -, -, rfl, -⟩ := hAcquired.of_acquired
      simp only [List.cons_append, List.nil_append, List.mem_cons, reduceCtorEq, List.not_mem_nil,
        or_self] at hMem
  | @concluded _ a own _ hAcquired hStatus =>
      obtain ⟨call', v, hSelected, hValid, rfl, rfl⟩ := hAcquired.of_acquired
      simp only [List.cons_append, List.nil_append, List.mem_cons, reduceCtorEq,
        Event.settled.injEq, List.not_mem_nil, or_false, false_or] at hMem
      obtain ⟨rfl, rfl⟩ := hMem
      exact ⟨v, own, hSelected, hValid, hStatus, rfl, rfl⟩

/-- An answer of the handler is final if it tells of a failed request, and is followed by a
settlement otherwise. -/
theorem Ending.of_handled {g : Gate Request} {branding : Branding} {request : Request}
    {rs : List Requirement} (h : Ending platform g branding request rs events outcome)
    {own : Response} (hMem : .handled (.ok own) ∈ events) :
    (failedFrom ≤ own.status ∧ outcome = .ok own) ∨
      (own.status < failedFrom ∧ ∃ call reply, .settled call reply ∈ events ∧
        outcome = afterSettlement platform own (Acquired.conclude rs reply)) := by
  cases h with
  | unpaid hAcquired | paywall hAcquired =>
      obtain ⟨_, hVerified⟩ := hAcquired.exists_reply
      obtain ⟨_, hEvent⟩ := hVerified _ hMem
      cases hEvent
  | broken hAcquired =>
      obtain ⟨_, v, -, -, rfl, -⟩ := hAcquired.of_acquired
      simp only [List.cons_append, List.nil_append, List.mem_cons, reduceCtorEq,
        Event.handled.injEq, List.not_mem_nil, or_self] at hMem
  | failed hAcquired hStatus =>
      obtain ⟨_, v, -, -, rfl, -⟩ := hAcquired.of_acquired
      simp only [List.cons_append, List.nil_append, List.mem_cons, reduceCtorEq,
        Event.handled.injEq, Except.ok.injEq, List.not_mem_nil, or_false, false_or] at hMem
      obtain rfl := hMem
      exact Or.inl ⟨hStatus, rfl⟩
  | concluded hAcquired hStatus =>
      obtain ⟨call, v, -, -, rfl, rfl⟩ := hAcquired.of_acquired
      simp only [List.cons_append, List.nil_append, List.mem_cons, reduceCtorEq,
        Event.handled.injEq, Except.ok.injEq, List.not_mem_nil, or_self, or_false,
        false_or] at hMem
      obtain rfl := hMem
      exact Or.inr ⟨hStatus, call, _, by simp, rfl⟩

/-- What is handled was verified before. -/
theorem Ending.verified_of_handled {g : Gate Request} {branding : Branding} {request : Request}
    {rs : List Requirement} (h : Ending platform g branding request rs events outcome)
    {reply : Except Failure Response} (hMem : .handled reply ∈ events) :
    ∃ call v, Selected g request rs call ∧ .verified call (.ok v) ∈ events ∧ v.isValid = true := by
  cases h with
  | unpaid hAcquired | paywall hAcquired =>
      obtain ⟨_, hVerified⟩ := hAcquired.exists_reply
      obtain ⟨_, hEvent⟩ := hVerified _ hMem
      cases hEvent
  | broken hAcquired | failed hAcquired | concluded hAcquired =>
      obtain ⟨call, v, hSelected, hValid, rfl, -⟩ := hAcquired.of_acquired
      exact ⟨call, v, hSelected, by simp, hValid⟩

/-- A request asks each of its collaborators once at most, so the answers that it gets are those of
some collaborators. -/
theorem Ending.exists_answers {g : Gate Request} {branding : Branding} {request : Request}
    {rs : List Requirement} (h : Ending platform g branding request rs events outcome) :
    ∃ answers, ∀ event ∈ events, event.Agrees answers := by
  cases h with
  | unpaid hAcquired | paywall hAcquired =>
      obtain ⟨v, hAgree⟩ :=
        hAcquired.exists_answers (.error .titleMissing) (.error .titleMissing)
      exact ⟨_, hAgree⟩
  | @broken front a f hAcquired =>
      obtain ⟨v, hAgree⟩ := hAcquired.exists_answers (.error f) (.error .titleMissing)
      refine ⟨_, List.forall_mem_append.mpr ⟨hAgree, ?_⟩⟩
      exact List.forall_mem_singleton.mpr rfl
  | @failed front a own hAcquired =>
      obtain ⟨v, hAgree⟩ := hAcquired.exists_answers (.ok own) (.error .titleMissing)
      refine ⟨_, List.forall_mem_append.mpr ⟨hAgree, ?_⟩⟩
      exact List.forall_mem_singleton.mpr rfl
  | @concluded front a own reply hAcquired =>
      obtain ⟨v, hAgree⟩ := hAcquired.exists_answers (.ok own) reply
      refine ⟨_, List.forall_mem_append.mpr ⟨hAgree, ?_⟩⟩
      exact List.forall_mem_cons.mpr ⟨rfl, List.forall_mem_singleton.mpr rfl⟩

namespace Enforcement

variable {payTo : String} {routes : Routes} {branding : Branding} {e : Enforcement}
  {request : Request}

theorem serve_of_free (hFree : e.IsFree request) :
    e.serve request = .handle (fun reply => .done reply) := by
  obtain ⟨path, hPath, hFind⟩ := hFree
  unfold serve
  rw [hPath]
  simp only [hFind]

/-- A request that is free is handled, and its answer is the handler's. -/
theorem course_of_free (hFree : e.IsFree request)
    (h : (e.serve request).Course events (.done outcome)) : events = [.handled outcome] := by
  rw [serve_of_free hFree] at h
  obtain ⟨reply, rest, rfl, hRest⟩ := Session.Course.of_handle h
  obtain ⟨rfl, rfl⟩ := Session.Course.of_done hRest
  rfl

/-- A request that is neither free nor guarded is one whose URL cannot be told. It fails before
anything is done. -/
theorem course_of_unaddressed (hFree : ¬ e.IsFree request) (hg : e.gate? request = none)
    (h : (e.serve request).Course events (.done outcome)) :
    events = [] ∧ ∃ f, outcome = .error f := by
  unfold gate? at hg
  unfold serve at h
  cases hPath : e.platform.shownPath request with
  | error f =>
      rw [hPath] at h
      obtain ⟨rfl, rfl⟩ := Session.Course.of_done h
      exact ⟨rfl, f, rfl⟩
  | ok path =>
      rw [hPath] at hg
      exact absurd ⟨path, hPath, hg⟩ hFree

theorem serve_of_gate? {g : Gate Request} (hg : e.gate? request = some g) :
    e.serve request = guarded e.platform g e.branding request := by
  obtain ⟨path, hPath, hFind⟩ := gate?_eq_some_iff.mp hg
  unfold serve
  rw [hPath]
  simp only [hFind]

/-- Every finished course of a request that a gate guards ends in one of the ways listed. -/
theorem ending_of_serve (he : Enforcement.build platform payTo routes branding = .ok e)
    {g : Gate Request} (hg : e.gate? request = some g)
    (h : (e.serve request).Course events (.done outcome)) :
    ∃ rs, g.requirements request = .ok rs ∧
      Ending e.platform g e.branding request rs events outcome := by
  obtain ⟨rs, hRs⟩ := exists_requirements he hg
  rw [serve_of_gate? hg] at h
  exact ⟨rs, hRs, ending_of_guarded hRs h⟩

/-- However far a request has come, the answers that it got are those of some collaborators. -/
theorem exists_answers (he : Enforcement.build platform payTo routes branding = .ok e)
    {s : Session Response (Except Failure Response)} (h : (e.serve request).Course events s) :
    ∃ answers, ∀ event ∈ events, event.Agrees answers := by
  let silent : Session.Answers Response :=
    ⟨fun _ => .error .titleMissing, .error .titleMissing, fun _ => .error .titleMissing⟩
  -- only finished courses are listed, so the course is finished in some way first
  have hDone := h.append (Session.course_transcript silent s)
  suffices hAll : ∃ answers, ∀ event ∈ events ++ s.transcript silent, event.Agrees answers by
    obtain ⟨answers, hAgree⟩ := hAll
    exact ⟨answers, fun event hMem => hAgree event (List.mem_append_left _ hMem)⟩
  by_cases hFree : e.IsFree request
  · refine ⟨⟨silent.verify, s.result silent, silent.settle⟩, ?_⟩
    rw [course_of_free hFree hDone]
    intro event hMem
    rw [List.mem_singleton.mp hMem]
    rfl
  cases hg : e.gate? request with
  | none =>
      rw [(course_of_unaddressed hFree hg hDone).1]
      exact ⟨silent, fun event hMem => by cases hMem⟩
  | some g =>
      obtain ⟨rs, -, hEnding⟩ := ending_of_serve he hg hDone
      exact hEnding.exists_answers

end Enforcement

end Http

end Tollgate
