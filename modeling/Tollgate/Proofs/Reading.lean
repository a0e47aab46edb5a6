import Mathlib.Data.List.Nodup
import Tollgate.Proofs.Setup

set_option autoImplicit false

/-! # What was read

Where a reader yields a value, each of its parts was read on its own. From this comes the one fact
about configurations that setting up relies on: a price that is an amount of a token has a numeral
for its amount (`Config.WasRead.isInteger`).
-/

namespace Tollgate

/-! ## Members -/

namespace Json

namespace Members

open Tollgate.Text

variable {members : Members} {name : LooseText} {v : Value}

theorem mem_of_get? (h : members.get? name = some v) : (name, v) ∈ members := by
  obtain ⟨before, after, rfl, -⟩ := List.lookup_eq_some_iff.mp h
  exact List.mem_append_right _ List.mem_cons_self

theorem get?_eq_none_iff : members.get? name = none ↔ ∀ m ∈ members, m.1 ≠ name := by
  simp only [get?, List.lookup_eq_none_iff, bne_iff_ne, ne_comm]

/-- Among members with different names, each is found under its own. -/
theorem get?_of_mem (hNames : (members.map Prod.fst).Nodup) (h : (name, v) ∈ members) :
    members.get? name = some v := by
  cases hFound : members.get? name with
  | none => exact absurd rfl (get?_eq_none_iff.mp hFound _ h)
  | some w =>
      have hSame := List.inj_on_of_nodup_map hNames (mem_of_get? hFound) h rfl
      rw [(Prod.mk.inj hSame).2]

end Members

end Json

/-! ## Readers -/

namespace Schema

open Tollgate.Json

variable {α β : Type}

theorem Validated.map_eq_valid_iff {f : α → β} {x : Validated α} {b : β} :
    f <$> x = .valid b ↔ ∃ a, x = .valid a ∧ f a = b := by
  show x.map f = .valid b ↔ _
  cases x <;> simp [Validated.map]

/-- A function and its argument that are read together are both read. -/
theorem Validated.seq_eq_valid_iff {f : Validated (α → β)} {x : Validated α} {b : β} :
    f <*> x = .valid b ↔ ∃ g a, f = .valid g ∧ x = .valid a ∧ g a = b := by
  show f.apply x = .valid b ↔ _
  cases f <;> cases x <;> simp [Validated.apply]

theorem Validated.under_eq_valid_iff {x : Validated α} {name : String} {a : α} :
    x.under name = .valid a ↔ x = .valid a := by
  cases x <;> simp [Validated.under]

theorem Validated.check_eq_valid_iff {x : Validated α} {kind : FaultKind} {p : α → Bool} {a : α} :
    x.check kind p = .valid a ↔ x = .valid a ∧ p a = true := by
  cases x with
  | faulty fs => simp [Validated.check]
  | valid b =>
      by_cases hb : p b = true
      · simp only [Validated.check, hb, if_true, Validated.valid.injEq]
        exact ⟨fun h => ⟨h, h ▸ hb⟩, fun h => h.1⟩
      · simp only [Validated.check, hb, Validated.fault, Validated.valid.injEq]
        constructor
        · intro h
          cases h
        · rintro ⟨rfl, ha⟩
          exact absurd ha hb

theorem Validated.orReject_eq_ok_iff {x : Validated α} {name : String} {a : α} :
    x.orReject name = .ok a ↔ x = .valid a := by
  cases x <;> simp [Validated.orReject]

/-- A field that must be there was found and read. -/
theorem required_eq_valid_iff {members : Members} {name : FieldName} {read : Value → Validated α}
    {a : α} : required members name read = .valid a ↔
      ∃ spelling v, name.find? members = some (spelling, v) ∧ read v = .valid a := by
  unfold required
  cases name.find? members with
  | none => simp [Validated.fault, Validated.under]
  | some found =>
      rw [Validated.under_eq_valid_iff]
      constructor
      · intro h
        exact ⟨found.1, found.2, rfl, h⟩
      · rintro ⟨spelling, v, hFound, h⟩
        cases hFound
        exact h

/-- A record was read from members. -/
theorem exists_of_record {type : String} {read : Members → Validated α} {v : Value} {a : α}
    (h : record type read v = .valid a) : ∃ members, read members = .valid a := by
  unfold record at h
  split at h
  · exact ⟨_, h⟩
  · split at h
    · exact ⟨_, h⟩
    · cases h
  · cases h

end Schema

/-! ## Amounts of tokens -/

namespace Payment

open Tollgate.Number Tollgate.Json Tollgate.Schema

theorem integerText_eq_valid_iff {v : Value} {s : String} :
    integerText v = .valid s ↔ v = .text s ∧ isInteger s = true := by
  cases v with
  | text t =>
      by_cases ht : isInteger t = true
      · simp only [integerText, ht, if_true, Validated.valid.injEq, Value.text.injEq]
        exact ⟨fun h => ⟨h, h ▸ ht⟩, And.left⟩
      · simp only [integerText, ht, Validated.fault, Value.text.injEq]
        constructor
        · intro h
          cases h
        · rintro ⟨rfl, hs⟩
          exact absurd hs ht
  | _ => simp [integerText, Validated.fault]

theorem TokenAmount.isInteger_of_read {v : Value} {t : TokenAmount}
    (h : TokenAmount.read v = .valid t) : isInteger t.amount = true := by
  obtain ⟨members, hMembers⟩ := exists_of_record h
  obtain ⟨withAmount, asset, hFirst, -, rfl⟩ := Validated.seq_eq_valid_iff.mp hMembers
  obtain ⟨amount, hField, rfl⟩ := Validated.map_eq_valid_iff.mp hFirst
  obtain ⟨_, _, -, hAmount⟩ := required_eq_valid_iff.mp hField
  exact (integerText_eq_valid_iff.mp hAmount).2

theorem TokenAmount.isDecimals_of_read {v : Value} {t : TokenAmount}
    (h : TokenAmount.read v = .valid t) : isDecimals t.asset.decimals = true := by
  obtain ⟨members, hMembers⟩ := exists_of_record h
  obtain ⟨withAmount, asset, hAmount, hAsset, rfl⟩ := Validated.seq_eq_valid_iff.mp hMembers
  obtain ⟨amount, -, rfl⟩ := Validated.map_eq_valid_iff.mp hAmount
  obtain ⟨_, _, -, hAssetRead⟩ := required_eq_valid_iff.mp hAsset
  obtain ⟨members, hMembers⟩ := exists_of_record hAssetRead
  obtain ⟨withDecimals, domain, hTwo, -, rfl⟩ := Validated.seq_eq_valid_iff.mp hMembers
  obtain ⟨withAddress, decimals, hOne, hDecimals, rfl⟩ := Validated.seq_eq_valid_iff.mp hTwo
  obtain ⟨address, -, rfl⟩ := Validated.map_eq_valid_iff.mp hOne
  obtain ⟨_, _, -, hField⟩ := required_eq_valid_iff.mp hDecimals
  exact (Validated.check_eq_valid_iff.mp hField).2

theorem Price.token_of_read {v : Value} {t : TokenAmount}
    (h : Price.read v = .valid (.token t)) : TokenAmount.read v = .valid t := by
  unfold Price.read at h
  split at h
  -- texts and numbers are money; everything else was read as an amount of a token
  · cases h
  · cases h
  · cases h
  · cases h
  · cases h
  · split at h
    · rename_i s hRead
      cases h
      exact Validated.under_eq_valid_iff.mp hRead
    · cases h

theorem Price.isInteger_of_read {v : Value} {t : TokenAmount}
    (h : Price.read v = .valid (.token t)) : isInteger t.amount = true :=
  TokenAmount.isInteger_of_read (Price.token_of_read h)

/-- What is read as a price is one. -/
theorem Price.ne_other_of_read {v w : Value} : Price.read v ≠ .valid (.other w) := by
  intro h
  unfold Price.read at h
  split at h
  · cases h
  · cases h
  · cases h
  · cases h
  · cases h
  · split at h <;> cases h

end Payment

/-! ## Configurations -/

namespace Route

open Tollgate.Number Tollgate.Json Tollgate.Schema Tollgate.Payment

/-- A configuration is one that a value can be read as. A configuration that stands ready in a
table was read before. -/
def Config.WasRead (c : Config) : Prop :=
  ∃ v, Config.read v = .valid c

/-- The price of such a configuration was read as well. -/
theorem Config.WasRead.exists_price {c : Config} (hc : c.WasRead) :
    ∃ v, Price.read v = .valid c.price := by
  obtain ⟨v, hRead⟩ := hc
  obtain ⟨members, hMembers⟩ := exists_of_record hRead
  obtain ⟨withNetwork, details, hTwo, -, rfl⟩ := Validated.seq_eq_valid_iff.mp hMembers
  obtain ⟨withPrice, network, hOne, -, rfl⟩ := Validated.seq_eq_valid_iff.mp hTwo
  obtain ⟨price, hField, rfl⟩ := Validated.map_eq_valid_iff.mp hOne
  obtain ⟨_, v, -, hRead⟩ := required_eq_valid_iff.mp hField
  exact ⟨v, hRead⟩

theorem Config.WasRead.isInteger {c : Config} (hc : c.WasRead) {t : TokenAmount}
    (hPrice : c.price = .token t) : isInteger t.amount = true := by
  obtain ⟨v, hRead⟩ := hc.exists_price
  rw [hPrice] at hRead
  exact Price.isInteger_of_read hRead

/-- The configuration of an entry was read, unless it was ready. -/
theorem Entry.wasRead_of_toConfig {entry : Entry} {key : String} {c : Config}
    (h : entry.toConfig key = .ok c) : c.WasRead ∨ entry = .config c := by
  cases entry with
  | config ready =>
      cases h
      exact Or.inr rfl
  | value v =>
      have hRead : (Config.read (shorthand v)).orReject "RouteConfig" = .ok c :=
        mapError_eq_ok_iff.mp h
      exact Or.inl ⟨shorthand v, Validated.orReject_eq_ok_iff.mp hRead⟩

end Route

end Tollgate
