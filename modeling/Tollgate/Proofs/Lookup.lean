import Mathlib.Order.Bounds.Defs
import Tollgate.Proofs.Rows

set_option autoImplicit false

/-! # The gate of a request

Which gate of a table a path and a method find. A row is for a request if its verb admits the
method and its glob describes the whole path (`Qualifies`), and the gate that is found is the one
that was built from the first such row (`Gates.find?_table`). Rows with the same verb and the same
glob are kept apart: all of them have a gate, and the first of them is found.
-/

namespace Tollgate

/-! ## The first of a list -/

section First

variable {α β : Type}

/-- Lists that go together element by element have the same places. -/
theorem exists_getElem?_congr {R : α → β → Prop} {P : α → Prop} {Q : β → Prop} {xs : List α}
    {ys : List β} (h : List.Forall₂ R xs ys) (hSame : ∀ x y, R x y → (P x ↔ Q y)) (i : Nat) :
    (∃ x, xs[i]? = some x ∧ P x) ↔ ∃ y, ys[i]? = some y ∧ Q y := by
  induction h generalizing i with
  | nil => simp
  | cons hHead _ ih =>
      cases i with
      | zero => simpa using hSame _ _ hHead
      | succ i => simpa using ih i

theorem exists_getElem?_of_forall₂ {R : α → β → Prop} {xs : List α} {ys : List β}
    (h : List.Forall₂ R xs ys) {i : Nat} {y : β} (hy : ys[i]? = some y) :
    ∃ x, xs[i]? = some x ∧ R x y := by
  induction h generalizing i with
  | nil => cases hy
  | cons hHead _ ih =>
      cases i with
      | zero =>
          obtain rfl := Option.some.inj hy
          exact ⟨_, rfl, hHead⟩
      | succ i => exact ih hy

theorem findIdx?_eq_some_iff_isLeast {p : α → Bool} {xs : List α} {i : Nat} :
    xs.findIdx? p = some i ↔ IsLeast {j | ∃ x, xs[j]? = some x ∧ p x = true} i := by
  rw [List.findIdx?_eq_some_iff_getElem]
  constructor
  · rintro ⟨hi, hp, hBefore⟩
    refine ⟨⟨xs[i], List.getElem?_eq_getElem hi, hp⟩, ?_⟩
    rintro j ⟨x, hx, hpx⟩
    by_contra hLess
    obtain ⟨hj, rfl⟩ := List.getElem?_eq_some_iff.mp hx
    exact hBefore j (Nat.not_le.mp hLess) hpx
  · rintro ⟨⟨x, hx, hp⟩, hLeast⟩
    obtain ⟨hi, rfl⟩ := List.getElem?_eq_some_iff.mp hx
    refine ⟨hi, hp, fun j hj hpj => ?_⟩
    exact absurd (hLeast ⟨_, List.getElem?_eq_getElem _, hpj⟩) (Nat.not_le.mpr hj)

/-- What is found in a list stands at the place that is found. -/
theorem find?_eq_some_iff_findIdx? {p : α → Bool} {xs : List α} {x : α} :
    xs.find? p = some x ↔ ∃ i, xs.findIdx? p = some i ∧ xs[i]? = some x := by
  rw [List.find?_eq_some_iff_getElem]
  constructor
  · rintro ⟨hp, i, hi, rfl, hBefore⟩
    refine ⟨i, List.findIdx?_eq_some_iff_getElem.mpr ⟨hi, hp, fun j hj => ?_⟩,
      List.getElem?_eq_getElem hi⟩
    simpa using hBefore j hj
  · rintro ⟨i, hIndex, hx⟩
    obtain ⟨hi, hp, hBefore⟩ := List.findIdx?_eq_some_iff_getElem.mp hIndex
    obtain ⟨-, rfl⟩ := List.getElem?_eq_some_iff.mp hx
    exact ⟨hp, i, hi, rfl, fun j hj => by simpa using hBefore j hj⟩

end First

/-! ## Rows that are for a request -/

namespace Route

open Tollgate.Text

/-- A row is for a path and a method: its verb is the mark of all methods or the method in upper
case, and its glob describes the path. -/
def Qualifies (row : Row) (path method : String) : Prop :=
  ∃ verb glob, KeyParts row.1.toList verb glob ∧ (verb = anyMark ∨ verb = upper method) ∧
    Describes glob path.toList

/-- The place of the first row that is for a path and a method. -/
def IsFirstFor (rows : List Row) (path method : String) (i : Nat) : Prop :=
  IsLeast {j | ∃ row, rows[j]? = some row ∧ Qualifies row path method} i

end Route

namespace Gate

open Tollgate.Text Tollgate.Route

section Find

variable {Request : Type} {hooks : Hooks Request} {payTo : String} {rows : List Row}
  {gates : Gates Request} {path method : String}

/-- The pattern of a row fits a request if the row is for it. -/
theorem BuiltFrom.fits_iff {row : Row} {entry : Pattern × Gate Request}
    (h : BuiltFrom hooks payTo row entry) :
    entry.1.fits path method = true ↔ Qualifies row path method := by
  obtain ⟨verb, glob, hParts, -, hPattern, -⟩ := h.template
  rw [hPattern, Pattern.fits, Bool.and_eq_true, Verb.admits_named_iff, accepts_iff_describes]
  constructor
  · rintro ⟨hVerb, hGlob⟩
    exact ⟨verb, glob, hParts, hVerb, hGlob⟩
  · rintro ⟨verb', glob', hParts', hVerb, hGlob⟩
    obtain ⟨rfl, rfl⟩ := hParts.unique hParts'
    exact ⟨hVerb, hGlob⟩

/-- The places of the rows for a request are those of the patterns that fit it. -/
theorem exists_qualifies_iff (h : List.Forall₂ (BuiltFrom hooks payTo) rows gates.entries)
    (i : Nat) : (∃ row, rows[i]? = some row ∧ Qualifies row path method) ↔
      ∃ entry : Pattern × Gate Request,
        gates.entries[i]? = some entry ∧ entry.1.fits path method = true :=
  exists_getElem?_congr h (fun _ _ hRow => hRow.fits_iff.symm) i

theorem isFirstFor_iff (h : List.Forall₂ (BuiltFrom hooks payTo) rows gates.entries) {i : Nat} :
    IsFirstFor rows path method i ↔
      gates.entries.findIdx? (fun entry => entry.1.fits path method) = some i := by
  unfold IsFirstFor
  rw [findIdx?_eq_some_iff_isLeast]
  simp only [exists_qualifies_iff h]

theorem findPattern_patterns (gates : Gates Request) (path method : String) :
    findPattern gates.patterns path method =
      gates.entries.findIdx? (fun entry => entry.1.fits path method) := by
  unfold findPattern Gates.patterns
  rw [List.findIdx?_map]
  rfl

/-- **The gate of a request.** In a table that was set up every row has the gate that was built
from it, in the order of the table. A path and a method find the gate at the place of the first row
that is for them, and that place is the one of the first pattern that fits. They find none exactly
when no row is for them. -/
theorem Gates.find?_table (hTable : ∀ row ∈ rows, row.1 ≠ "price")
    (hBuild : Gates.build hooks payTo (.table rows) = .ok gates) (path method : String) :
    List.Forall₂ (BuiltFrom hooks payTo) rows gates.entries ∧
    (∀ i, findPattern gates.patterns path method = some i ↔ IsFirstFor rows path method i) ∧
    (∀ g, gates.find? path method = some g ↔
      ∃ i p, IsFirstFor rows path method i ∧ gates.entries[i]? = some (p, g)) ∧
    (gates.find? path method = none ↔ ∀ row ∈ rows, ¬ Qualifies row path method) := by
  have hRows := (Gates.build_table_eq_ok_iff hTable).mp hBuild
  refine ⟨hRows, fun i => ?_, fun g => ?_, ?_⟩
  · rw [findPattern_patterns]
    exact (isFirstFor_iff hRows).symm
  · unfold Gates.find?
    rw [Option.map_eq_some_iff]
    constructor
    · rintro ⟨⟨p, g⟩, hFind, rfl⟩
      obtain ⟨i, hIndex, hEntry⟩ := find?_eq_some_iff_findIdx?.mp hFind
      exact ⟨i, p, (isFirstFor_iff hRows).mpr hIndex, hEntry⟩
    · rintro ⟨i, p, hFirst, hEntry⟩
      have hIndex := (isFirstFor_iff hRows).mp hFirst
      exact ⟨(p, g), find?_eq_some_iff_findIdx?.mpr ⟨i, hIndex, hEntry⟩, rfl⟩
  · unfold Gates.find?
    rw [Option.map_eq_none_iff, List.find?_eq_none]
    constructor
    · intro h row hMem hQualifies
      obtain ⟨i, hi⟩ := List.mem_iff_getElem?.mp hMem
      obtain ⟨entry, hEntry, hFits⟩ := (exists_qualifies_iff hRows i).mp ⟨row, hi, hQualifies⟩
      exact h entry (List.mem_iff_getElem?.mpr ⟨i, hEntry⟩) hFits
    · intro h entry hMem hFits
      obtain ⟨i, hi⟩ := List.mem_iff_getElem?.mp hMem
      obtain ⟨row, hRow, hQualifies⟩ := (exists_qualifies_iff hRows i).mpr ⟨entry, hi, hFits⟩
      exact h row (List.mem_iff_getElem?.mpr ⟨i, hRow⟩) hQualifies

end Find

/-! ## Twins

Two keys that are spelled differently and say the same. -/

namespace Twins

/-- Who is paid. -/
def payTo : String := "0x209693Bc6afc0C5328bA36FaF03C514EF312287C"

/-- A table in which two keys have the same verb and the same glob. -/
def rows : List Row :=
  [("GET /a", .value (.text "$0.01")), ("get  /a", .value (.text "$0.02"))]

/-- The gates of the table. -/
def gates : Gates Http.Request :=
  ((Gates.build (Http.requestHooks .plain) payTo (.table rows)).toOption).getD ⟨[]⟩

theorem build_eq : Gates.build (Http.requestHooks .plain) payTo (.table rows) = .ok gates :=
  eq_ok_of_isOk (by decide +kernel) _

end Twins

/-- Both twins have a gate, and the one in front is found. -/
theorem find?_table_twins :
    (∀ row ∈ Twins.rows, row.1 ≠ "price") ∧
      Gates.build (Http.requestHooks .plain) Twins.payTo (.table Twins.rows) = .ok Twins.gates ∧
      Twins.gates.entries.length = 2 ∧
      IsFirstFor Twins.rows "/A" "get" 0 ∧ ∃ row, Twins.rows[1]? = some row ∧
        row.1 = "get  /a" ∧ Qualifies row "/A" "get" := by
  have hTable : ∀ row ∈ Twins.rows, row.1 ≠ "price" := by decide
  obtain ⟨hRows, hIndex, -⟩ := Gates.find?_table hTable Twins.build_eq "/A" "get"
  have hFirst : findPattern Twins.gates.patterns "/A" "get" = some 0 := by decide +kernel
  have hFits : (Twins.gates.entries[1]?.any (fun entry => entry.1.fits "/A" "get")) = true := by
    decide +kernel
  obtain ⟨entry, hEntry, hFits⟩ := (Option.any_eq_true _ _).mp hFits
  obtain ⟨row, hRow, hQualifies⟩ := (exists_qualifies_iff hRows 1).mpr ⟨entry, hEntry, hFits⟩
  refine ⟨hTable, Twins.build_eq, hRows.length_eq.symm, (hIndex 0).mp hFirst, row, hRow, ?_,
    hQualifies⟩
  cases hRow
  rfl

end Gate

end Tollgate
