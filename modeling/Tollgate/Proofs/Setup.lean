import Mathlib.Data.List.Forall2
import Tollgate.Http.Enforcement

set_option autoImplicit false

/-! # What setting up yields

Facts about gates that were built. A table of gates has one gate for every compiled pattern, in
the order of the patterns (`Gates.build_ok_iff`), and a gate that is found is one that was built
(`Gates.exists_build`). The gates of an enforcement therefore keep the hooks over HTTP requests
(`Enforcement.gate?_hooks`), and what has to be paid for a request that one of them guards can
always be told (`Enforcement.exists_requirements`).
-/

namespace Tollgate

/-! ## Results -/

section Results

variable {ε ε' α β : Type}

theorem bind_eq_ok_iff {x : Except ε α} {f : α → Except ε β} {b : β} :
    (x >>= f) = .ok b ↔ ∃ a, x = .ok a ∧ f a = .ok b := by
  cases x with
  | error e => simp [bind, Except.bind]
  | ok a => simp [bind, Except.bind]

theorem map_eq_ok_iff {x : Except ε α} {f : α → β} {b : β} :
    x.map f = .ok b ↔ ∃ a, x = .ok a ∧ f a = b := by
  cases x <;> simp [Except.map]

theorem mapError_eq_ok_iff {x : Except ε α} {f : ε → ε'} {a : α} :
    x.mapError f = .ok a ↔ x = .ok a := by
  cases x <;> simp [Except.mapError]

/-- Going through a list succeeds if every element does, and yields what each of them does. -/
theorem mapM_eq_ok_iff {f : α → Except ε β} {xs : List α} {ys : List β} :
    xs.mapM f = .ok ys ↔ List.Forall₂ (fun x y => f x = .ok y) xs ys := by
  induction xs generalizing ys with
  | nil =>
      rw [List.mapM_nil, List.forall₂_nil_left_iff]
      exact ⟨fun h => by cases h; rfl, fun h => by rw [h]; rfl⟩
  | cons x xs ih =>
      rw [List.mapM_cons, List.forall₂_cons_left_iff, bind_eq_ok_iff]
      constructor
      · rintro ⟨y, hy, h⟩
        obtain ⟨rest, hRest, h⟩ := bind_eq_ok_iff.mp h
        cases h
        exact ⟨y, rest, hy, ih.mp hRest, rfl⟩
      · rintro ⟨y, rest, hy, hRest, rfl⟩
        exact ⟨y, hy, bind_eq_ok_iff.mpr ⟨rest, ih.mpr hRest, rfl⟩⟩

theorem toOption_eq_some_iff {x : Except ε α} {a : α} : x.toOption = some a ↔ x = .ok a := by
  cases x <;> simp [Except.toOption]

/-- A result that is known to be there is the one that is taken out. -/
theorem eq_ok_of_isOk {x : Except ε α} (h : x.isOk = true) (default : α) :
    x = .ok (x.toOption.getD default) := by
  cases x with
  | error e => cases h
  | ok a => rfl

theorem exists_ok_of_isOk {x : Except ε α} (h : x.isOk = true) : ∃ a, x = .ok a := by
  cases x with
  | error e => cases h
  | ok a => exact ⟨a, rfl⟩

theorem bind_eq_error_iff {x : Except ε α} {f : α → Except ε β} {e : ε} :
    (x >>= f) = .error e ↔ x = .error e ∨ ∃ a, x = .ok a ∧ f a = .error e := by
  cases x with
  | error e' => simp [bind, Except.bind]
  | ok a => simp [bind, Except.bind]

theorem map_eq_error_iff {x : Except ε α} {f : α → β} {e : ε} :
    x.map f = .error e ↔ x = .error e := by
  cases x <;> simp [Except.map]

theorem mapError_eq_error_iff {x : Except ε α} {f : ε → ε'} {e' : ε'} :
    x.mapError f = .error e' ↔ ∃ e, x = .error e ∧ f e = e' := by
  cases x <;> simp [Except.mapError]

/-- In a list there is an element with the second property, and those before it have the first. -/
def FirstAt (P Q : α → Prop) (xs : List α) : Prop :=
  ∃ front x back, xs = front ++ x :: back ∧ (∀ y ∈ front, P y) ∧ Q x

theorem firstAt_cons_iff {P Q : α → Prop} {x : α} {xs : List α} :
    FirstAt P Q (x :: xs) ↔ Q x ∨ (P x ∧ FirstAt P Q xs) := by
  constructor
  · rintro ⟨front, z, back, hSplit, hFront, hz⟩
    cases front with
    | nil =>
        obtain ⟨rfl, -⟩ := List.cons.inj hSplit
        exact Or.inl hz
    | cons y front =>
        obtain ⟨rfl, rfl⟩ := List.cons.inj hSplit
        obtain ⟨hy, hFront⟩ := List.forall_mem_cons.mp hFront
        exact Or.inr ⟨hy, front, z, back, rfl, hFront, hz⟩
  · rintro (hx | ⟨hx, front, z, back, rfl, hFront, hz⟩)
    · exact ⟨[], x, xs, rfl, fun y hMem => absurd hMem List.not_mem_nil, hx⟩
    · exact ⟨x :: front, z, back, rfl, List.forall_mem_cons.mpr ⟨hx, hFront⟩, hz⟩

theorem FirstAt.imp {P P' Q Q' : α → Prop} {xs : List α} (h : FirstAt P Q xs)
    (hP : ∀ x ∈ xs, P x → P' x) (hQ : ∀ x ∈ xs, Q x → Q' x) : FirstAt P' Q' xs := by
  obtain ⟨front, x, back, rfl, hFront, hx⟩ := h
  refine ⟨front, x, back, rfl, fun y hMem => ?_, hQ x (by simp) hx⟩
  exact hP y (List.mem_append_left _ hMem) (hFront y hMem)

theorem FirstAt.congr {P P' Q Q' : α → Prop} {xs : List α} (hP : ∀ x ∈ xs, P x ↔ P' x)
    (hQ : ∀ x ∈ xs, Q x ↔ Q' x) : FirstAt P Q xs ↔ FirstAt P' Q' xs := by
  constructor
  · intro h
    exact h.imp (fun x hMem => (hP x hMem).mp) (fun x hMem => (hQ x hMem).mp)
  · intro h
    exact h.imp (fun x hMem => (hP x hMem).mpr) (fun x hMem => (hQ x hMem).mpr)

/-- Going through a list fails with the failure of the first element that fails. -/
theorem mapM_eq_error_iff {f : α → Except ε β} {xs : List α} {e : ε} :
    xs.mapM f = .error e ↔ FirstAt (fun x => ∃ y, f x = .ok y) (fun x => f x = .error e) xs := by
  induction xs with
  | nil =>
      rw [List.mapM_nil]
      constructor
      · intro h
        cases h
      · rintro ⟨front, x, back, hSplit, -⟩
        cases front <;> cases hSplit
  | cons x xs ih =>
      rw [List.mapM_cons, firstAt_cons_iff, bind_eq_error_iff, ← ih]
      refine or_congr_right ?_
      constructor
      · rintro ⟨y, hy, h⟩
        rcases bind_eq_error_iff.mp h with hRest | ⟨rest, -, h⟩
        · exact ⟨⟨y, hy⟩, hRest⟩
        · cases h
      · rintro ⟨⟨y, hy⟩, hRest⟩
        exact ⟨y, hy, bind_eq_error_iff.mpr (Or.inl hRest)⟩

theorem exists_mapM_eq_ok_iff {f : α → Except ε β} {xs : List α} :
    (∃ ys, xs.mapM f = .ok ys) ↔ ∀ x ∈ xs, ∃ y, f x = .ok y := by
  induction xs with
  | nil => exact ⟨fun _ x hMem => absurd hMem List.not_mem_nil, fun _ => ⟨[], rfl⟩⟩
  | cons x xs ih =>
      rw [List.forall_mem_cons, ← ih]
      constructor
      · rintro ⟨ys, h⟩
        rw [List.mapM_cons] at h
        obtain ⟨y, hy, h⟩ := bind_eq_ok_iff.mp h
        obtain ⟨rest, hRest, -⟩ := bind_eq_ok_iff.mp h
        exact ⟨⟨y, hy⟩, rest, hRest⟩
      · rintro ⟨⟨y, hy⟩, rest, hRest⟩
        refine ⟨y :: rest, ?_⟩
        rw [List.mapM_cons]
        exact bind_eq_ok_iff.mpr ⟨y, hy, bind_eq_ok_iff.mpr ⟨rest, hRest, rfl⟩⟩

/-- Going through what a list was turned into is going through the list itself. -/
theorem mapM_of_forall₂ {γ : Type} {f : α → Except ε β} {xs : List α} {ys : List β}
    (h : List.Forall₂ (fun x y => f x = .ok y) xs ys) (g : β → Except ε γ) :
    ys.mapM g = xs.mapM (fun x => f x >>= g) := by
  induction h with
  | nil => rfl
  | cons hHead _ ih =>
      rw [List.mapM_cons, List.mapM_cons, ih, hHead]
      rfl

end Results

/-! ## Gates -/

namespace Gate

open Tollgate.Route

variable {Request : Type} {hooks : Hooks Request} {payTo : String}

/-- A gate keeps the hooks that it is built with, and takes its resource from where they and the
configuration say. -/
theorem parts_of_build {c : Config} {method : Option String} {g : Gate Request}
    (h : Gate.build hooks payTo c method = .ok g) :
    g.hooks = hooks ∧ Gate.sourceOf? hooks c = some g.source := by
  unfold Gate.build at h
  split at h
  · cases h
  · rename_i source hSource
    obtain ⟨template, -, rfl⟩ := map_eq_ok_iff.mp h
    exact ⟨rfl, hSource⟩

/-- Gates are built when all patterns compile and the gate of each pattern can be built; they
stand in the order of the patterns. -/
theorem Gates.build_ok_iff {routes : Routes} {gates : Gates Request} :
    Gates.build hooks payTo routes = .ok gates ↔
      ∃ patterns, routes.compile = .ok patterns ∧
        List.Forall₂ (fun p entry => Gates.buildEntry hooks payTo p = .ok entry)
          patterns gates.entries := by
  unfold Gates.build
  rw [bind_eq_ok_iff]
  constructor
  · rintro ⟨patterns, hCompile, h⟩
    obtain ⟨entries, hEntries, h⟩ := bind_eq_ok_iff.mp h
    cases h
    exact ⟨patterns, mapError_eq_ok_iff.mp hCompile, mapM_eq_ok_iff.mp hEntries⟩
  · rintro ⟨patterns, hCompile, hEntries⟩
    exact ⟨patterns, mapError_eq_ok_iff.mpr hCompile,
      bind_eq_ok_iff.mpr ⟨gates.entries, mapM_eq_ok_iff.mpr hEntries, rfl⟩⟩

/-- A gate that is found is one that was built. -/
theorem Gates.exists_build {routes : Routes} {gates : Gates Request}
    (h : Gates.build hooks payTo routes = .ok gates) {path method : String} {g : Gate Request}
    (hFind : gates.find? path method = some g) :
    ∃ c verb, Gate.build hooks payTo c verb = .ok g := by
  obtain ⟨entry, hEntry, rfl⟩ := Option.map_eq_some_iff.mp hFind
  obtain ⟨i, hi, rfl⟩ := List.mem_iff_getElem.mp (List.mem_of_find?_eq_some hEntry)
  obtain ⟨patterns, -, hEntries⟩ := Gates.build_ok_iff.mp h
  have hBuilt := hEntries.get (by rw [hEntries.length_eq]; exact hi) hi
  obtain ⟨g, hg, hSame⟩ := map_eq_ok_iff.mp hBuilt
  rw [show gates.entries[i] = (_, g) from hSame.symm]
  exact ⟨_, _, hg⟩

end Gate

/-! ## The gate of a request -/

namespace Http

open Tollgate.Payment Tollgate.Route Tollgate.Gate

namespace Enforcement

/-- The gate that guards a request. A request whose URL cannot be told is not looked up. -/
def gate? (e : Enforcement) (request : Request) : Option (Gate Request) :=
  match e.platform.shownPath request with
  | .ok path => e.gates.find? path request.method
  | .error _ => none

/-- The path of a request can be told, and no route that is protected is for it. -/
def IsFree (e : Enforcement) (request : Request) : Prop :=
  ∃ path, e.platform.shownPath request = .ok path ∧ e.gates.find? path request.method = none

theorem gate?_eq_some_iff {e : Enforcement} {request : Request} {g : Gate Request} :
    e.gate? request = some g ↔
      ∃ path, e.platform.shownPath request = .ok path ∧
        e.gates.find? path request.method = some g := by
  unfold gate?
  cases e.platform.shownPath request with
  | error f => simp
  | ok path => simp

variable {platform : Platform} {payTo : String} {routes : Routes} {branding : Branding}
  {e : Enforcement} {request : Request} {g : Gate Request}

/-- The gates stand on the platform that they were built for. -/
theorem platform_of_build (he : Enforcement.build platform payTo routes branding = .ok e) :
    e.platform = platform := by
  obtain ⟨gates, -, rfl⟩ := map_eq_ok_iff.mp he
  rfl

theorem exists_build_of_gate? (he : Enforcement.build platform payTo routes branding = .ok e)
    (hg : e.gate? request = some g) :
    ∃ c verb, Gate.build (requestHooks e.platform) payTo c verb = .ok g := by
  obtain ⟨gates, hGates, rfl⟩ := map_eq_ok_iff.mp he
  obtain ⟨path, -, hFind⟩ := gate?_eq_some_iff.mp hg
  exact Gates.exists_build hGates hFind

theorem gate?_hooks (he : Enforcement.build platform payTo routes branding = .ok e)
    (hg : e.gate? request = some g) : g.hooks = requestHooks e.platform := by
  obtain ⟨c, verb, h⟩ := exists_build_of_gate? he hg
  exact (parts_of_build h).1

/-- What has to be paid for a guarded request can be told: its URL, the only thing that might be
missing, was needed to find the gate. -/
theorem exists_requirements (he : Enforcement.build platform payTo routes branding = .ok e)
    (hg : e.gate? request = some g) : ∃ rs, g.requirements request = .ok rs := by
  obtain ⟨c, verb, h⟩ := exists_build_of_gate? he hg
  obtain ⟨path, hPath, -⟩ := gate?_eq_some_iff.mp hg
  obtain ⟨url, hUrl, -⟩ := bind_eq_ok_iff.mp hPath
  have hSource := (parts_of_build h).2
  unfold Gate.sourceOf? at hSource
  split at hSource
  · rename_i r _
    have hs : ResourceSource.static r = g.source := Option.some.inj hSource
    exact ⟨_, map_eq_ok_iff.mpr ⟨r, by rw [← hs]; rfl, rfl⟩⟩
  · have hResource : g.source.resource request = .ok (.whole url) := by
      rw [← Option.some.inj hSource]
      exact map_eq_ok_iff.mpr ⟨url, hUrl, rfl⟩
    exact ⟨_, map_eq_ok_iff.mpr ⟨_, hResource, rfl⟩⟩

end Enforcement

end Http

end Tollgate
