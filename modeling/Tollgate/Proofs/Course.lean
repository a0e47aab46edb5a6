import Tollgate.Gate.Session

set_option autoImplicit false

/-! # Courses of a session

A session is run one effect at a time, and a collaborator may answer an effect with anything. An
*event* is an effect with the answer that came back; a *course* is the list of the events on the
way from one session to another. Nothing is assumed of the answers, so the courses of a session
cover every facilitator and every handler, also those that remember what they were asked.

`Course.of_done`, `Course.of_verify`, `Course.of_handle`, `Course.of_settle` and
`course_bind_iff` take a course apart along the session. `Course.effects_eq` and
`Course.result_eq` tie courses to `effects` and `result`: along a course whose answers are those
of given collaborators nothing is lost.
-/

namespace Tollgate.Gate

open Tollgate.Payment

/-- An effect of a session with the answer to it. -/
inductive Event (ρ : Type) where
  | verified (call : Call) (reply : Except Failure Verification)
  | handled (reply : Except Failure ρ)
  | settled (call : Call) (reply : Except Failure SettlementReply)

namespace Event

variable {ρ : Type}

/-- The effect of an event. -/
def effect : Event ρ → Session.Effect
  | .verified call _ => .verify call
  | .handled _ => .handle
  | .settled call _ => .settle call

/-- The answer of an event is the one that the collaborators give. -/
def Agrees (answers : Session.Answers ρ) : Event ρ → Prop
  | .verified call reply => reply = answers.verify call
  | .handled reply => reply = answers.handle
  | .settled call reply => reply = answers.settle call

end Event

namespace Session

variable {ρ α β : Type}

/-- A session goes on to another one by an event. -/
inductive Step : Session ρ α → Event ρ → Session ρ α → Prop
  | verify (call : Call) (next : Except Failure Verification → Session ρ α)
      (reply : Except Failure Verification) :
      Step (.verify call next) (.verified call reply) (next reply)
  | handle (next : Except Failure ρ → Session ρ α) (reply : Except Failure ρ) :
      Step (.handle next) (.handled reply) (next reply)
  | settle (call : Call) (next : Except Failure SettlementReply → Session ρ α)
      (reply : Except Failure SettlementReply) :
      Step (.settle call next) (.settled call reply) (next reply)

/-- A session goes on to another one by a list of events. -/
inductive Course : Session ρ α → List (Event ρ) → Session ρ α → Prop
  | nil (s : Session ρ α) : Course s [] s
  | cons {s t u : Session ρ α} {event : Event ρ} {events : List (Event ρ)}
      (step : Step s event t) (rest : Course t events u) : Course s (event :: events) u

/-! ## Taking courses apart -/

/-- A session that is done goes no further. -/
theorem Course.of_done {a b : α} {events : List (Event ρ)}
    (h : Course (.done a) events (.done b)) : events = [] ∧ a = b := by
  cases h with
  | nil => exact ⟨rfl, rfl⟩
  | cons step _ => cases step

/-- A finished course of a session that asks for a verification begins with one. -/
theorem Course.of_verify {call : Call} {next : Except Failure Verification → Session ρ α}
    {events : List (Event ρ)} {a : α} (h : Course (.verify call next) events (.done a)) :
    ∃ reply rest, events = .verified call reply :: rest ∧ Course (next reply) rest (.done a) := by
  cases h with
  | cons step rest => cases step; exact ⟨_, _, rfl, rest⟩

/-- A finished course of a session that asks for the handler's answer begins with one. -/
theorem Course.of_handle {next : Except Failure ρ → Session ρ α} {events : List (Event ρ)}
    {a : α} (h : Course (.handle next) events (.done a)) :
    ∃ reply rest, events = .handled reply :: rest ∧ Course (next reply) rest (.done a) := by
  cases h with
  | cons step rest => cases step; exact ⟨_, _, rfl, rest⟩

/-- A finished course of a session that asks for a settlement begins with one. -/
theorem Course.of_settle {call : Call} {next : Except Failure SettlementReply → Session ρ α}
    {events : List (Event ρ)} {a : α} (h : Course (.settle call next) events (.done a)) :
    ∃ reply rest, events = .settled call reply :: rest ∧ Course (next reply) rest (.done a) := by
  cases h with
  | cons step rest => cases step; exact ⟨_, _, rfl, rest⟩

/-- The events decide where a session goes. -/
theorem Course.unique {s t u : Session ρ α} {events : List (Event ρ)} (h : Course s events t)
    (h' : Course s events u) : t = u := by
  induction h with
  | nil =>
      cases h' with
      | nil => rfl
  | cons step _ ih =>
      cases h' with
      | cons step' rest =>
          refine ih ?_
          cases step with
          | verify call next reply => cases step'; exact rest
          | handle next reply => cases step'; exact rest
          | settle call next reply => cases step'; exact rest

theorem Course.append {s t u : Session ρ α} {front back : List (Event ρ)}
    (h : Course s front t) (h' : Course t back u) : Course s (front ++ back) u := by
  induction h with
  | nil => exact h'
  | cons step _ ih => exact .cons step (ih h')

theorem Step.bind {s t : Session ρ α} {event : Event ρ} (h : Step s event t)
    (f : α → Session ρ β) : Step (s.bind f) event (t.bind f) := by
  cases h with
  | verify call next reply => exact .verify call (fun r => (next r).bind f) reply
  | handle next reply => exact .handle (fun r => (next r).bind f) reply
  | settle call next reply => exact .settle call (fun r => (next r).bind f) reply

theorem Course.bind {s t : Session ρ α} {events : List (Event ρ)} (h : Course s events t)
    (f : α → Session ρ β) : Course (s.bind f) events (t.bind f) := by
  induction h with
  | nil => exact .nil _
  | cons step _ ih => exact .cons (step.bind f) ih

/-- A finished course of a session that goes on with another one is a finished course of the
first and one of the second. -/
theorem course_bind_iff (s : Session ρ α) (f : α → Session ρ β) (events : List (Event ρ))
    (b : β) :
    Course (s.bind f) events (.done b) ↔
      ∃ front back a, events = front ++ back ∧ Course s front (.done a) ∧
        Course (f a) back (.done b) := by
  constructor
  · intro h
    -- along the session, since the course does not show where its first part ends
    induction s generalizing events with
    | done a => exact ⟨[], events, a, rfl, .nil _, h⟩
    | verify call next ih =>
        obtain ⟨reply, rest, rfl, hRest⟩ := Course.of_verify h
        obtain ⟨front, back, a, rfl, h₁, h₂⟩ := ih reply rest hRest
        exact ⟨_, back, a, rfl, .cons (.verify call next reply) h₁, h₂⟩
    | handle next ih =>
        obtain ⟨reply, rest, rfl, hRest⟩ := Course.of_handle h
        obtain ⟨front, back, a, rfl, h₁, h₂⟩ := ih reply rest hRest
        exact ⟨_, back, a, rfl, .cons (.handle next reply) h₁, h₂⟩
    | settle call next ih =>
        obtain ⟨reply, rest, rfl, hRest⟩ := Course.of_settle h
        obtain ⟨front, back, a, rfl, h₁, h₂⟩ := ih reply rest hRest
        exact ⟨_, back, a, rfl, .cons (.settle call next reply) h₁, h₂⟩
  · rintro ⟨front, back, a, rfl, h₁, h₂⟩
    exact (h₁.bind f).append h₂

/-! ## Courses with given collaborators -/

/-- The events of a session with given collaborators, in order. -/
def transcript (answers : Answers ρ) : Session ρ α → List (Event ρ)
  | .done _ => []
  | .verify call next =>
      .verified call (answers.verify call) :: (next (answers.verify call)).transcript answers
  | .handle next => .handled answers.handle :: (next answers.handle).transcript answers
  | .settle call next =>
      .settled call (answers.settle call) :: (next (answers.settle call)).transcript answers

/-- Whatever the collaborators answer, a session comes to its end. -/
theorem course_transcript (answers : Answers ρ) (s : Session ρ α) :
    Course s (s.transcript answers) (.done (s.result answers)) := by
  induction s with
  | done a => exact .nil _
  | verify call next ih => exact .cons (.verify call next _) (ih _)
  | handle next ih => exact .cons (.handle next _) (ih _)
  | settle call next ih => exact .cons (.settle call next _) (ih _)

/-- The effects that are still to come are those of the session that a course has led to. -/
theorem Course.effects_eq {answers : Answers ρ} {s t : Session ρ α} {events : List (Event ρ)}
    (h : Course s events t) (hAgree : ∀ event ∈ events, event.Agrees answers) :
    s.effects answers = events.map Event.effect ++ t.effects answers := by
  induction h with
  | nil => rfl
  | cons step _ ih =>
      have hHead := hAgree _ List.mem_cons_self
      have hRest := ih (fun event hMem => hAgree event (List.mem_cons_of_mem _ hMem))
      rw [List.map_cons, List.cons_append, ← hRest]
      -- the step is the one that the session takes by itself, once its answer is replaced
      cases step with
      | verify call next reply => rw [show reply = answers.verify call from hHead]; rfl
      | handle next reply => rw [show reply = answers.handle from hHead]; rfl
      | settle call next reply => rw [show reply = answers.settle call from hHead]; rfl

/-- A course with the answers of given collaborators leads to what they lead to. -/
theorem Course.result_eq {answers : Answers ρ} {s t : Session ρ α} {events : List (Event ρ)}
    (h : Course s events t) (hAgree : ∀ event ∈ events, event.Agrees answers) :
    s.result answers = t.result answers := by
  induction h with
  | nil => rfl
  | cons step _ ih =>
      have hHead := hAgree _ List.mem_cons_self
      rw [← ih (fun event hMem => hAgree event (List.mem_cons_of_mem _ hMem))]
      cases step with
      | verify call next reply => rw [show reply = answers.verify call from hHead]; rfl
      | handle next reply => rw [show reply = answers.handle from hHead]; rfl
      | settle call next reply => rw [show reply = answers.settle call from hHead]; rfl

/-- A session that is run in a state monad, where the collaborators may remember what they were
asked, takes one of its courses. -/
theorem exists_course_run {σ : Type} (onVerify : Call → StateM σ (Except Failure Verification))
    (onHandle : StateM σ (Except Failure ρ))
    (onSettle : Call → StateM σ (Except Failure SettlementReply)) (s : Session ρ α) (w : σ) :
    ∃ events, Course s events (.done (s.run onVerify onHandle onSettle w).1) := by
  induction s generalizing w with
  | done a => exact ⟨[], .nil _⟩
  | verify call next ih =>
      obtain ⟨events, h⟩ := ih (onVerify call w).1 (onVerify call w).2
      exact ⟨_, .cons (.verify call next _) h⟩
  | handle next ih =>
      obtain ⟨events, h⟩ := ih (onHandle w).1 (onHandle w).2
      exact ⟨_, .cons (.handle next _) h⟩
  | settle call next ih =>
      obtain ⟨events, h⟩ := ih (onSettle call w).1 (onSettle call w).2
      exact ⟨_, .cons (.settle call next _) h⟩

end Session

end Tollgate.Gate
