import Mathlib.Data.List.Perm.Subperm
import Tollgate.Proofs.Protection

set_option autoImplicit false

/-! # Requests that are served at the same time

Any number of requests is under way at once, each at its own point, and they move on in any
order. They share one facilitator and one handler, of which nothing is assumed: whatever a
request is answered may depend on all that has happened before. An effect is taken together with
its answer, at the moment when the answer comes back.

The invariant is `Consistent`: the entries of one request in the common log, read alone, are a
course of that request to the point where it stands. `Consistent.settled_of_delivered` finds a
settlement in the log behind every paid answer, and `concurrent_deliveries` counts them.
-/

namespace Tollgate.Http

open Tollgate.Payment Tollgate.Route Tollgate.Gate

/-! ## Traffic -/

/-- How far a request has come. -/
inductive Phase where
  | arrived
  | underway (session : Session Response (Except Failure Response))
  | answered (outcome : Except Failure Response)

/-- A request among others. -/
structure Task where
  request : Request
  phase : Phase

/-- The requests in the order of their arrival, and the events of all of them in the order of
time, each with the number of its request. -/
structure Traffic where
  tasks : List Task
  log : List (Nat × Event Response)

/-- A request arrives, is matched with the routes and the payment in its header, goes on by an
event, or is answered. -/
inductive Traffic.Step (e : Enforcement) : Traffic → Traffic → Prop
  | arrive (t : Traffic) (request : Request) :
      Step e t ⟨t.tasks ++ [⟨request, .arrived⟩], t.log⟩
  | enter (t : Traffic) (i : Nat) (request : Request)
      (hTask : t.tasks[i]? = some ⟨request, .arrived⟩) :
      Step e t ⟨t.tasks.set i ⟨request, .underway (e.serve request)⟩, t.log⟩
  | act (t : Traffic) (i : Nat) (request : Request)
      (s s' : Session Response (Except Failure Response)) (event : Event Response)
      (hTask : t.tasks[i]? = some ⟨request, .underway s⟩) (hStep : s.Step event s') :
      Step e t ⟨t.tasks.set i ⟨request, .underway s'⟩, t.log ++ [(i, event)]⟩
  | answer (t : Traffic) (i : Nat) (request : Request) (outcome : Except Failure Response)
      (hTask : t.tasks[i]? = some ⟨request, .underway (.done outcome)⟩) :
      Step e t ⟨t.tasks.set i ⟨request, .answered outcome⟩, t.log⟩

/-- The traffic that there may be, from none at all on. -/
inductive Traffic.Reachable (e : Enforcement) : Traffic → Prop
  | idle : Reachable e ⟨[], []⟩
  | step {t u : Traffic} (hReach : Reachable e t) (hStep : Step e t u) : Reachable e u

/-- The session that a request has reached. -/
def Task.session (e : Enforcement) (task : Task) : Session Response (Except Failure Response) :=
  match task.phase with
  | .arrived => e.serve task.request
  | .underway s => s
  | .answered outcome => .done outcome

/-- The events of one request. -/
def eventsOf (i : Nat) (log : List (Nat × Event Response)) : List (Event Response) :=
  (log.filter (fun entry => entry.1 == i)).map Prod.snd

theorem eventsOf_append (i : Nat) (log log' : List (Nat × Event Response)) :
    eventsOf i (log ++ log') = eventsOf i log ++ eventsOf i log' := by
  simp [eventsOf]

theorem eventsOf_self (i : Nat) (events : List (Event Response)) :
    eventsOf i (events.map (Prod.mk i)) = events := by
  induction events with
  | nil => rfl
  | cons event rest ih =>
      have hHead : eventsOf i [(i, event)] = [event] := by simp [eventsOf]
      rw [List.map_cons, ← List.singleton_append, eventsOf_append, hHead, ih,
        List.singleton_append]

theorem mem_eventsOf {i : Nat} {log : List (Nat × Event Response)} {event : Event Response} :
    event ∈ eventsOf i log ↔ (i, event) ∈ log := by
  simp [eventsOf]

theorem eventsOf_eq_nil {i : Nat} {log : List (Nat × Event Response)}
    (h : ∀ entry ∈ log, entry.1 ≠ i) : eventsOf i log = [] := by
  rw [List.eq_nil_iff_forall_not_mem]
  intro event hMem
  exact h _ (mem_eventsOf.mp hMem) rfl

/-! ## The invariant -/

variable {platform : Platform} {payTo : String} {routes : Routes} {branding : Branding}
  {e : Enforcement} {t u : Traffic}

/-- What each request did leads to where it stands, and only requests that arrived did
anything. -/
structure Consistent (e : Enforcement) (t : Traffic) : Prop where
  course : ∀ i task, t.tasks[i]? = some task →
    (e.serve task.request).Course (eventsOf i t.log) (task.session e)
  known : ∀ entry ∈ t.log, entry.1 < t.tasks.length

theorem consistent_idle : Consistent e ⟨[], []⟩ where
  course := by
    intro i task hTask
    simp at hTask
  known := by
    intro entry hMem
    cases hMem

/-- A request that arrives has done nothing yet. -/
theorem Consistent.arrive (h : Consistent e t) (request : Request) :
    Consistent e ⟨t.tasks ++ [⟨request, .arrived⟩], t.log⟩ where
  course := by
    intro i task hTask
    rcases Nat.lt_or_ge i t.tasks.length with hOld | hNew
    · rw [List.getElem?_append_left hOld] at hTask
      exact h.course i task hTask
    · rw [List.getElem?_append_right hNew, List.getElem?_singleton] at hTask
      split at hTask
      · cases hTask
        -- a number that was not given yet stands in no entry
        have hNone : eventsOf i t.log = [] := eventsOf_eq_nil (fun entry hMem => by
          have hKnown := h.known entry hMem
          omega)
        rw [hNone]
        exact .nil _
      · cases hTask
  known := by
    intro entry hMem
    have hKnown := h.known entry hMem
    simp only [List.length_append, List.length_singleton]
    omega

/-- A request moves on by a course, and the others stay where they are. -/
theorem Consistent.move (h : Consistent e t) {i : Nat} {task : Task} (task' : Task)
    {events : List (Event Response)} (hTask : t.tasks[i]? = some task)
    (hRequest : task'.request = task.request)
    (hCourse : (task.session e).Course events (task'.session e)) :
    Consistent e ⟨t.tasks.set i task', t.log ++ events.map (Prod.mk i)⟩ where
  course := by
    intro j other hOther
    rw [eventsOf_append]
    by_cases hj : j = i
    -- the new entries are the request's own, and nobody else reads them
    · subst hj
      rw [List.getElem?_set_self (List.getElem?_eq_some_iff.mp hTask).1] at hOther
      cases hOther
      rw [eventsOf_self, hRequest]
      exact (h.course j task hTask).append hCourse
    · rw [List.getElem?_set_ne (Ne.symm hj)] at hOther
      have hNone : eventsOf j (events.map (Prod.mk i)) = [] := eventsOf_eq_nil (by
        intro entry hMem
        obtain ⟨event, -, rfl⟩ := List.mem_map.mp hMem
        exact Ne.symm hj)
      rw [hNone, List.append_nil]
      exact h.course j other hOther
  known := by
    intro entry hMem
    rw [List.length_set]
    rcases List.mem_append.mp hMem with hOld | hNew
    · exact h.known entry hOld
    · obtain ⟨event, -, rfl⟩ := List.mem_map.mp hNew
      exact (List.getElem?_eq_some_iff.mp hTask).1

theorem Consistent.step (h : Consistent e t) (hStep : t.Step e u) : Consistent e u := by
  cases hStep with
  | arrive request => exact h.arrive request
  | enter i request hTask =>
      have hMove := h.move ⟨request, .underway (e.serve request)⟩ hTask rfl (.nil _)
      simpa using hMove
  | act i request s s' event hTask hSession =>
      exact h.move ⟨request, .underway s'⟩ hTask rfl (.cons hSession (.nil _))
  | answer i request outcome hTask =>
      have hMove := h.move ⟨request, .answered outcome⟩ hTask rfl (.nil _)
      simpa using hMove

/-- The invariant holds in all traffic. -/
theorem Traffic.Reachable.consistent (h : t.Reachable e) : Consistent e t := by
  induction h with
  | idle => exact consistent_idle
  | step _ hStep ih => exact ih.step hStep

/-- Whatever a request may do, it may do among others. -/
theorem Traffic.Reachable.play (h : t.Reachable e) {i : Nat} {request : Request}
    {s s' : Session Response (Except Failure Response)} {events : List (Event Response)}
    (hTask : t.tasks[i]? = some ⟨request, .underway s⟩) (hCourse : s.Course events s') :
    Traffic.Reachable e
      ⟨t.tasks.set i ⟨request, .underway s'⟩, t.log ++ events.map (Prod.mk i)⟩ := by
  induction hCourse generalizing t with
  | nil s =>
      obtain ⟨hi, hTask⟩ := List.getElem?_eq_some_iff.mp hTask
      rw [← hTask, List.set_getElem_self, List.map_nil, List.append_nil]
      exact h
  | @cons s s' s'' event rest step _ ih =>
      have hi := (List.getElem?_eq_some_iff.mp hTask).1
      have hNext := h.step (.act t i request s s' event hTask step)
      have hRest := ih hNext (List.getElem?_set_self hi)
      rw [List.set_set, List.append_assoc, List.singleton_append] at hRest
      exact hRest

/-! ## Payments and deliveries -/

/-- Whether a request is to a protected route, carries a payment, and was answered without
failure. -/
def Task.delivers (e : Enforcement) (payload : Payload) (task : Task) : Bool :=
  match e.gate? task.request, task.request.payment e.platform.readingDepth, task.phase with
  | some _, .ok (some p), .answered (.ok response) =>
      p == payload && decide (response.status < failedFrom)
  | _, _, _ => false

/-- Whether an event is a successful settlement of a payment. -/
def settles (payload : Payload) : Event Response → Bool
  | .settled call (.ok reply) => call.payload == payload && reply.success
  | _ => false

/-- The numbers of the protected requests with a payment that were answered without failure. -/
def Traffic.delivered (e : Enforcement) (t : Traffic) (payload : Payload) : List Nat :=
  (List.range t.tasks.length).filter (fun i => t.tasks[i]?.any (Task.delivers e payload))

/-- The numbers of the requests for which a payment was settled, one for every settlement. -/
def Traffic.settled (t : Traffic) (payload : Payload) : List Nat :=
  (t.log.filter (fun entry => settles payload entry.2)).map Prod.fst

theorem Task.delivers_iff {payload : Payload} {task : Task} :
    task.delivers e payload = true ↔
      ∃ g response, e.gate? task.request = some g ∧
        task.request.payment e.platform.readingDepth = .ok (some payload) ∧
        task.phase = .answered (.ok response) ∧ response.status < failedFrom := by
  unfold Task.delivers
  split
  · rename_i g p response hg hPayment hPhase
    simp [hg, hPayment, hPhase]
  · rename_i hNone
    constructor
    · intro h
      cases h
    · rintro ⟨g, response, hg, hPayment, hPhase, -⟩
      exact (hNone g payload response hg hPayment hPhase).elim

theorem settles_iff {payload : Payload} {event : Event Response} :
    settles payload event = true ↔
      ∃ call reply, event = .settled call (.ok reply) ∧ call.payload = payload ∧
        reply.success = true := by
  unfold settles
  split
  · simp
  · rename_i hNone
    constructor
    · intro h
      cases h
    · rintro ⟨call, reply, rfl, -⟩
      exact (hNone call reply rfl).elim

theorem Traffic.mem_delivered {payload : Payload} {i : Nat} :
    i ∈ t.delivered e payload ↔
      ∃ task, t.tasks[i]? = some task ∧ task.delivers e payload = true := by
  unfold Traffic.delivered
  rw [List.mem_filter, Option.any_eq_true, List.mem_range]
  constructor
  · rintro ⟨-, task, hTask, hDelivers⟩
    exact ⟨task, hTask, hDelivers⟩
  · rintro ⟨task, hTask, hDelivers⟩
    exact ⟨(List.getElem?_eq_some_iff.mp hTask).1, task, hTask, hDelivers⟩

theorem Traffic.mem_settled {payload : Payload} {i : Nat} :
    i ∈ t.settled payload ↔ ∃ call reply, (i, .settled call (.ok reply)) ∈ t.log ∧
      call.payload = payload ∧ reply.success = true := by
  unfold Traffic.settled
  rw [List.mem_map]
  constructor
  · rintro ⟨⟨j, event⟩, hMem, rfl⟩
    obtain ⟨hLog, hSettles⟩ := List.mem_filter.mp hMem
    obtain ⟨call, reply, rfl, hPayload, hSuccess⟩ := settles_iff.mp hSettles
    exact ⟨call, reply, hLog, hPayload, hSuccess⟩
  · rintro ⟨call, reply, hLog, hPayload, hSuccess⟩
    have hSettles := settles_iff.mpr ⟨call, reply, rfl, hPayload, hSuccess⟩
    exact ⟨(i, .settled call (.ok reply)), List.mem_filter.mpr ⟨hLog, hSettles⟩, rfl⟩

/-- A protected request that was answered without failure had its payment settled. -/
theorem Consistent.settled_of_delivered
    (he : Enforcement.build platform payTo routes branding = .ok e) (h : Consistent e t)
    {payload : Payload} {i : Nat} (hDelivered : i ∈ t.delivered e payload) :
    i ∈ t.settled payload := by
  obtain ⟨task, hTask, hDelivers⟩ := Traffic.mem_delivered.mp hDelivered
  obtain ⟨g, response, hg, hPayment, hPhase, hStatus⟩ := Task.delivers_iff.mp hDelivers
  have hCourse := h.course i task hTask
  rw [show task.session e = .done (.ok response) by simp only [Task.session, hPhase]] at hCourse
  obtain ⟨rs, -, hEnding⟩ := Enforcement.ending_of_serve he hg hCourse
  obtain ⟨call, v, own, reply, s, hSelected, -, hSuccess, -, -, hEvents⟩ :=
    hEnding.of_delivered rfl hStatus
  have hSettled : .settled call (.ok reply) ∈ eventsOf i t.log := by simp [hEvents]
  -- what was settled is what the request carries: the gate extracts nothing else
  have hPayload : call.payload = payload := by
    have hExtract := hSelected.extract
    rw [Enforcement.gate?_hooks he hg] at hExtract
    have hSame := hExtract.symm.trans hPayment
    cases hSame
    rfl
  exact Traffic.mem_settled.mpr ⟨call, reply, mem_eventsOf.mp hSettled, hPayload, hSuccess⟩

/-- There are settlements for all deliveries, one for each. -/
theorem Consistent.delivered_subperm
    (he : Enforcement.build platform payTo routes branding = .ok e) (h : Consistent e t)
    (payload : Payload) :
    (t.delivered e payload).Subperm (t.settled payload) := by
  -- no number occurs twice, so each delivery takes up a settlement of its own
  have hNodup : (t.delivered e payload).Nodup := List.nodup_range.filter _
  refine List.subperm_of_subset hNodup ?_
  intro i hDelivered
  exact h.settled_of_delivered he hDelivered

/-! ## One request among others -/

/-- Among others a request does what it would do alone with collaborators that give it the same
answers: what it did so far is the beginning of that, and when it is answered, it is all of that
and the answer is the same. -/
theorem Consistent.alone (h : Consistent e t) {i : Nat} {task : Task}
    (hTask : t.tasks[i]? = some task) {answers : Session.Answers Response}
    (hAgree : ∀ event ∈ eventsOf i t.log, event.Agrees answers) :
    (eventsOf i t.log).map Event.effect <+: (e.serve task.request).effects answers ∧
      ∀ outcome, task.phase = .answered outcome →
        (e.serve task.request).effects answers = (eventsOf i t.log).map Event.effect ∧
          (e.serve task.request).result answers = outcome := by
  have hCourse := h.course i task hTask
  have hEffects := hCourse.effects_eq hAgree
  refine ⟨⟨_, hEffects.symm⟩, ?_⟩
  intro outcome hPhase
  have hDone : task.session e = .done outcome := by simp only [Task.session, hPhase]
  rw [hDone] at hCourse hEffects
  refine ⟨?_, hCourse.result_eq hAgree⟩
  calc (e.serve task.request).effects answers
      = (eventsOf i t.log).map Event.effect ++ [] := hEffects
    _ = (eventsOf i t.log).map Event.effect := List.append_nil _

/-- **Concurrent deliveries.** However the steps of any number of requests are interleaved, the
protected requests with a payment that were answered without failure are no more than the
successful settlements of that payment, and each of them has a settlement that it asked for
itself: a payment that is settled once buys one answer. What a request does and is answered
depends on nothing but the request and the answers that its own collaborators give it. -/
theorem concurrent_deliveries (he : Enforcement.build platform payTo routes branding = .ok e)
    (hReach : t.Reachable e) :
    (∀ payload, (t.settled payload).length ≤ 1 → (t.delivered e payload).length ≤ 1) ∧
    (∀ payload, (t.delivered e payload).length ≤ (t.settled payload).length) ∧
    (∀ payload, ∀ i ∈ t.delivered e payload, ∃ call reply,
      (i, .settled call (.ok reply)) ∈ t.log ∧ call.payload = payload ∧ reply.success = true) ∧
    (∀ i task, t.tasks[i]? = some task →
      (∃ answers, ∀ event ∈ eventsOf i t.log, event.Agrees answers) ∧
      ∀ answers, (∀ event ∈ eventsOf i t.log, event.Agrees answers) →
        (eventsOf i t.log).map Event.effect <+: (e.serve task.request).effects answers ∧
        ∀ outcome, task.phase = .answered outcome →
          (e.serve task.request).effects answers = (eventsOf i t.log).map Event.effect ∧
          (e.serve task.request).result answers = outcome) := by
  have h := hReach.consistent
  have hCount : ∀ payload, (t.delivered e payload).length ≤ (t.settled payload).length :=
    fun payload => (h.delivered_subperm he payload).length_le
  refine ⟨?_, hCount, ?_, ?_⟩
  · intro payload hOnce
    calc (t.delivered e payload).length
        ≤ (t.settled payload).length := hCount payload
      _ ≤ 1 := hOnce
  · intro payload i hDelivered
    exact Traffic.mem_settled.mp (h.settled_of_delivered he hDelivered)
  · intro i task hTask
    refine ⟨Enforcement.exists_answers he (h.course i task hTask), ?_⟩
    intro answers hAgree
    exact h.alone hTask hAgree

/-- In the shop a payment is sent twice, and both requests are verified and handled. It is settled
once, and one of them is answered. -/
theorem concurrent_deliveries_shop : ∃ t : Traffic, t.Reachable Shop.enforcement ∧
    t.tasks.length = 2 ∧ 0 ∈ t.delivered Shop.enforcement Shop.payment ∧
    (t.delivered Shop.enforcement Shop.payment).length ≤ 1 := by
  obtain ⟨g, rs, r, hg, hFirst⟩ := Shop.exists_course Shop.settled
  obtain ⟨_, _, r', -, hSecond⟩ := Shop.exists_course Shop.declined
  rw [Shop.concluded] at hFirst
  have hIdle : Traffic.Reachable Shop.enforcement ⟨[], []⟩ := .idle
  have hArrived := (hIdle.step (.arrive _ Shop.request)).step (.arrive _ Shop.request)
  have hEntered := (hArrived.step (.enter _ 0 Shop.request rfl)).step
    (.enter _ 1 Shop.request rfl)
  have hPlayed := (hEntered.play (i := 0) rfl hFirst).play (i := 1) rfl hSecond
  have hReach := hPlayed.step (.answer _ 0 Shop.request _ rfl)
  refine ⟨_, hReach, rfl, ?_, ?_⟩
  · refine Traffic.mem_delivered.mpr ⟨_, rfl, Task.delivers_iff.mpr ?_⟩
    exact ⟨g, _, hg, Shop.platform_eq ▸ Shop.payment_of_request, rfl, by decide⟩
  · refine (concurrent_deliveries Shop.build_eq hReach).1 Shop.payment ?_
    simp [Traffic.settled, Shop.events, settles, Shop.settled, Shop.declined]

end Tollgate.Http
