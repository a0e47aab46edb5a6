import Tollgate.Proofs.LetterCase
import Tollgate.Proofs.Terms

set_option autoImplicit false

/-! # Canonical addresses

The canonical spelling of an address is `0x` and forty digits whose letters are capitals where a
hash says so. The hash is that of the digits in lower case. So the spelling depends on the digits
alone, and neither on their case nor on a prefix (`canonicalAddress_of_gives`), and what is spelled
in this way is spelled so again. Of the hash nothing is used but its length: letters are raised, and
no digit is changed or lost (`asciiLower_checksumCase`).

A requirement names two addresses. Both go through this spelling, the payee's as it is given and
the asset's as the converter returns it, and what gives no forty digits is no address
(`requirement_addresses`).
-/

namespace Tollgate

/-! ## Hexadecimal digits -/

namespace Text

theorem isHexDigit_toLower (c : Char) : isHexDigit c.toLower = isHexDigit c := by
  by_cases hUpper : c.isUpper = true
  · have hBounds : 0x41 ≤ c.toNat ∧ c.toNat ≤ 0x5a := by
      simp only [Char.isUpper, decide_eq_true_eq] at hUpper
      exact hUpper
    have hAll : ∀ k : Fin 26, isHexDigit (Char.ofNat (0x41 + k.val)).toLower =
        isHexDigit (Char.ofNat (0x41 + k.val)) := by
      decide
    have hSelf : Char.ofNat (0x41 + (c.toNat - 0x41)) = c := by
      rw [Nat.add_sub_cancel' hBounds.1, Char.ofNat_toNat]
    rw [← hSelf]
    exact hAll ⟨c.toNat - 0x41, by omega⟩
  · rw [Char.toLower_eq_of_not_isUpper hUpper]

theorem Twin.isHexDigit_eq {a b : Char} (h : Twin a b) : isHexDigit a = isHexDigit b := by
  rw [← isHexDigit_toLower a, h, isHexDigit_toLower]

theorem asciiLower_asciiLower (cs : List Char) : asciiLower (asciiLower cs) = asciiLower cs := by
  have hEach : ∀ c : Char, c.toLower.toLower = c.toLower := by
    intro c
    rw [← Char.toLower_toUpper_eq_toLower c.toLower, Char.toUpper_toLower_eq_toUpper,
      Char.toLower_toUpper_eq_toLower]
  unfold asciiLower
  rw [List.map_map]
  exact List.map_congr_left fun c _ => hEach c

theorem isHexDigit_of_mem_toDigits {n : Nat} : ∀ c ∈ Nat.toDigits 16 n, isHexDigit c = true := by
  have hOne : ∀ k : Fin 16, isHexDigit k.val.digitChar = true := by decide
  induction n using Nat.strongRecOn with
  | ind n ih =>
      rw [Nat.toDigits_eq_if (by decide)]
      split
      · rename_i hSmall
        exact List.forall_mem_singleton.mpr (hOne ⟨n, hSmall⟩)
      · rename_i hLarge
        refine List.forall_mem_append.mpr ⟨ih (n / 16) (by omega), ?_⟩
        exact List.forall_mem_singleton.mpr (hOne ⟨n % 16, Nat.mod_lt _ (by decide)⟩)

end Text

/-! ## Spelling an address -/

namespace Chain

open Tollgate.Text Tollgate.Codec

/-- Forty hexadecimal digits. -/
structure AreDigits (digits : List Char) : Prop where
  hex : ∀ c ∈ digits, isHexDigit c = true
  length : digits.length = 40

/-- A text gives an address: forty digits, alone or behind a prefix. -/
inductive Gives : String → List Char → Prop
  | bare {digits : List Char} (h : AreDigits digits) : Gives (String.ofList digits) digits
  | marked {digits : List Char} {mark : Char} (hMark : mark = 'x' ∨ mark = 'X')
      (h : AreDigits digits) : Gives (String.ofList ('0' :: mark :: digits)) digits

/-- A text is `0x` and digits that are the given ones but for their case. -/
def IsSpelledFor (spelled : String) (digits : List Char) : Prop :=
  ∃ letters, spelled = String.ofList ('0' :: 'x' :: letters) ∧ AreDigits letters ∧
    asciiLower letters = asciiLower digits

variable {text spelled : String} {digits letters : List Char}

theorem AreDigits.of_asciiLower (h : AreDigits digits)
    (hSame : asciiLower letters = asciiLower digits) : AreDigits letters := by
  have hTwins := asciiLower_eq_iff.mp hSame
  refine ⟨?_, hTwins.length_eq.trans h.length⟩
  have hHex := h.hex
  clear hSame h
  induction hTwins with
  | nil => exact fun c hc => by cases hc
  | cons hHead _ ih =>
      obtain ⟨hFirst, hRest⟩ := List.forall_mem_cons.mp hHex
      exact List.forall_mem_cons.mpr ⟨hHead.isHexDigit_eq.trans hFirst, ih hRest⟩

/-- Digits have no prefix: the mark of one is no digit. -/
theorem withoutPrefix_of_hex (h : ∀ c ∈ digits, isHexDigit c = true) :
    withoutPrefix digits = digits := by
  unfold withoutPrefix
  split
  · exact absurd (h 'x' (by simp)) (by decide)
  · exact absurd (h 'X' (by simp)) (by decide)
  · rfl

theorem Gives.parts (h : Gives text digits) :
    AreDigits digits ∧ withoutPrefix text.toList = digits := by
  cases h with
  | bare h =>
      rw [String.toList_ofList]
      exact ⟨h, withoutPrefix_of_hex h.hex⟩
  | marked hMark h =>
      rw [String.toList_ofList]
      rcases hMark with rfl | rfl
      · exact ⟨h, rfl⟩
      · exact ⟨h, rfl⟩

theorem gives_of_isAddress (h : IsAddress text) : Gives text (withoutPrefix text.toList) := by
  have hDigits : AreDigits (withoutPrefix text.toList) := ⟨List.all_eq_true.mp h.1, h.2⟩
  clear h
  rw [← String.ofList_toList (s := text), String.toList_ofList]
  generalize text.toList = cs at hDigits ⊢
  unfold withoutPrefix at hDigits ⊢
  split at hDigits
  · exact .marked (Or.inl rfl) hDigits
  · exact .marked (Or.inr rfl) hDigits
  · exact .bare hDigits

theorem exists_gives_iff : (∃ digits, Gives text digits) ↔ IsAddress text := by
  constructor
  · rintro ⟨digits, h⟩
    obtain ⟨hDigits, rfl⟩ := h.parts
    exact ⟨List.all_eq_true.mpr hDigits.hex, hDigits.length⟩
  · intro h
    exact ⟨_, gives_of_isAddress h⟩

/-- The canonical spelling is that of the digits in lower case. -/
theorem canonicalAddress_of_gives (h : Gives text digits) :
    canonicalAddress text = .ok (spelledAddress (asciiLower digits)) := by
  obtain ⟨hDigits, hText⟩ := h.parts
  unfold canonicalAddress addressDigits
  simp only [hText]
  rw [if_pos (List.all_eq_true.mpr hDigits.hex), if_pos hDigits.length]
  rfl

theorem length_nibbles (bytes : List UInt8) : (nibbles bytes).length = 2 * bytes.length := by
  induction bytes with
  | nil => rfl
  | cons b bytes ih =>
      unfold nibbles at ih ⊢
      rw [List.flatMap_cons, List.length_append, ih, List.length_cons, List.length_cons,
        List.length_cons, List.length_nil]
      omega

theorem length_hash (message : List UInt8) : (Keccak.hash message).length = 32 := by
  unfold Keccak.hash
  simp only [List.length_map, List.length_range]

/-- Whichever letters are raised, the digits stay the same. -/
theorem asciiLower_zipWith {p : Nat → Bool} {ns : List Nat} (h : digits.length ≤ ns.length) :
    asciiLower (List.zipWith (fun c n => if p n then c.toUpper else c) digits ns) =
      asciiLower digits := by
  unfold asciiLower
  induction digits generalizing ns with
  | nil => rfl
  | cons c digits ih =>
      cases ns with
      | nil => simp at h
      | cons n ns =>
          have hRest := ih (Nat.le_of_succ_le_succ h)
          rw [List.zipWith_cons_cons, List.map_cons, List.map_cons, hRest]
          split
          · rw [Char.toLower_toUpper_eq_toLower]
          · rfl

/-- The hash has a digit for each of the forty. -/
theorem asciiLower_checksumCase (h : digits.length = 40) :
    asciiLower (checksumCase digits) = asciiLower digits := by
  have hLong : digits.length ≤ (nibbles (Keccak.hash (Utf8.encode digits))).length := by
    rw [length_nibbles, length_hash, h]
    decide
  have hZip := asciiLower_zipWith (p := fun n => decide (8 ≤ n)) hLong
  simp only [decide_eq_true_eq] at hZip
  exact hZip

theorem isSpelledFor_spelledAddress (h : AreDigits digits) :
    IsSpelledFor (spelledAddress digits) digits := by
  have hSame := asciiLower_checksumCase h.length
  exact ⟨checksumCase digits, rfl, h.of_asciiLower hSame, hSame⟩

/-- An address that is given as text is spelled for its digits, and only such a text is. -/
theorem exists_gives_of_canonicalAddress (h : canonicalAddress text = .ok spelled) :
    ∃ digits, Gives text digits ∧ IsSpelledFor spelled digits := by
  have hAddress : IsAddress text := by
    by_contra hNot
    obtain ⟨fault, hFault, -⟩ := exists_canonicalAddress_fault hNot
    rw [hFault] at h
    cases h
  have hGives := gives_of_isAddress hAddress
  have hDigits := hGives.parts.1
  rw [canonicalAddress_of_gives hGives] at h
  obtain ⟨letters, hSpelled, hLetters, hSame⟩ :=
    isSpelledFor_spelledAddress (hDigits.of_asciiLower (asciiLower_asciiLower _))
  refine ⟨_, hGives, letters, (Except.ok.inj h).symm.trans hSpelled, hLetters, ?_⟩
  rw [hSame, asciiLower_asciiLower]

/-- Spellings of the same digits have one canonical spelling. -/
theorem canonicalAddress_congr {other : String} {digits' : List Char} (h : Gives text digits)
    (hOther : Gives other digits') (hSame : asciiLower digits = asciiLower digits') :
    canonicalAddress text = canonicalAddress other := by
  rw [canonicalAddress_of_gives h, canonicalAddress_of_gives hOther, hSame]

/-- What is spelled canonically stays as it is. -/
theorem canonicalAddress_idem (h : canonicalAddress text = .ok spelled) :
    canonicalAddress spelled = .ok spelled := by
  obtain ⟨digits, hGives, letters, hSpelled, hLetters, hSame⟩ :=
    exists_gives_of_canonicalAddress h
  have hAgain : Gives spelled letters := hSpelled ▸ .marked (Or.inl rfl) hLetters
  rw [canonicalAddress_congr hAgain hGives hSame, h]

end Chain

/-! ## The addresses of a requirement -/

namespace Route

open Tollgate.Text Tollgate.Number Tollgate.Json Tollgate.Schema Tollgate.Chain Tollgate.Payment

/-- What a converter returns for an asset gives an address: a text that does, or a number with
forty hexadecimal digits. -/
inductive AssetGives : Value → List Char → Prop
  | text {s : String} {digits : List Char} (h : Gives s digits) : AssetGives (.text s) digits
  | number {n : Nat} (h : (Nat.toDigits 16 n).length = 40) :
      AssetGives (.int n) (Nat.toDigits 16 n)

theorem exists_gives_of_assetAddress {asset : Value} {spelled : String}
    (h : assetAddress asset = .ok spelled) :
    ∃ digits, AssetGives asset digits ∧ IsSpelledFor spelled digits := by
  have hNumbered : ∀ {shown : String} {n : Int}, numberedAddress shown n = .ok spelled →
      ∃ digits, AssetGives (.int n) digits ∧ IsSpelledFor spelled digits := by
    intro shown n hNumber
    unfold numberedAddress at hNumber
    simp only at hNumber
    split at hNumber
    · rename_i hForty
      obtain ⟨k, rfl⟩ := Int.eq_ofNat_of_zero_le hForty.1
      obtain rfl := Except.ok.inj hNumber
      exact ⟨_, .number hForty.2,
        isSpelledFor_spelledAddress ⟨isHexDigit_of_mem_toDigits, hForty.2⟩⟩
    · cases hNumber
  cases asset with
  | text s =>
      obtain ⟨digits, hGives, hSpelled⟩ :=
        exists_gives_of_canonicalAddress (mapError_eq_ok_iff.mp h)
      exact ⟨digits, .text hGives, hSpelled⟩
  | int n =>
      simp only [assetAddress] at h
      split at h
      · cases h
      · exact hNumbered (mapError_eq_ok_iff.mp h)
  | bool b =>
      -- zero and one have a single digit
      obtain ⟨digits, hGives, -⟩ := hNumbered (mapError_eq_ok_iff.mp h)
      cases b <;> cases hGives with
      | number hForty => exact absurd hForty (by decide)
  | _ => cases h

variable {convert : Converter} {payTo asset : String} {resource : LooseText} {c : Config}
  {method : Option String} {r : Requirement}

/-- The addresses of a requirement come from the payee and from what the converter returned. -/
theorem addresses_of_requirement (h : requirement convert payTo c resource method = .ok r) :
    ∃ payee asset, r.payTo = .whole payee ∧ r.asset = .whole asset ∧
      canonicalAddress payTo = .ok payee ∧
      ∃ conversion, convert c.price.forConversion c.network.name = .ok conversion ∧
        assetAddress conversion.asset = .ok asset := by
  obtain ⟨atomic, hParts⟩ := exists_parts_of_requirement h
  obtain ⟨payee, hPayee, hPayTo⟩ := hParts.payTo
  obtain ⟨asset, hAsset, hSpelled⟩ := hParts.asset
  have hAmount := hParts.amount
  refine ⟨payee, asset, hPayTo, hSpelled, hPayee, ?_⟩
  rw [atomicAmount_eq] at hAmount
  cases hConvert : convert c.price.forConversion c.network.name with
  | error f =>
      rw [hConvert] at hAmount
      cases hAmount
  | ok conversion =>
      rw [hConvert] at hAmount
      obtain ⟨_, -, hAmount⟩ := bind_eq_ok_iff.mp hAmount
      obtain ⟨_, -, hAmount⟩ := bind_eq_ok_iff.mp hAmount
      obtain rfl := Except.ok.inj hAmount
      exact ⟨conversion, rfl, hAsset⟩

/-- A spelling that an asset's address has comes from a text, and stays as it is. -/
theorem canonicalAddress_of_assetAddress {t : LooseText}
    (h : assetAddress (.ofLoose t) = .ok asset) : canonicalAddress asset = .ok asset := by
  cases t with
  | whole s => exact canonicalAddress_idem (mapError_eq_ok_iff.mp h)
  | broken points => cases h

/-- Of the payee nothing counts but the canonical spelling. -/
theorem requirement_congr_payTo {other : String}
    (h : canonicalAddress payTo = canonicalAddress other) :
    requirement convert payTo c resource method = requirement convert other c resource method := by
  unfold requirement
  rw [h]

/-- The configuration with another address for its token; a price in money has none. -/
def Config.withAsset (c : Config) (address : String) : Config :=
  match c.price with
  | .token t => { c with price := .token { t with asset := { t.asset with address := address } } }
  | _ => c

/-- Of the address of a token nothing counts but the canonical spelling. -/
theorem requirement_withAsset
    (h : requirement standardConverter payTo c resource method = .ok r)
    (hAsset : r.asset = .whole asset) :
    requirement standardConverter payTo (c.withAsset asset) resource method = .ok r := by
  obtain ⟨_, asset', -, hSame, -, conversion, hConvert, hAddress⟩ := addresses_of_requirement h
  obtain rfl := LooseText.whole.inj (hSame.symm.trans hAsset)
  unfold Config.withAsset
  split
  · rename_i t hPrice
    obtain ⟨price, network, details⟩ := c
    obtain rfl : price = .token t := hPrice
    obtain rfl := Except.ok.inj hConvert
    -- both amounts are known, and both addresses are spelled in the same way
    have hSpelled : assetAddress (.ofLoose t.asset.address) = .ok asset' := hAddress
    have hAgain : assetAddress (.ofLoose (.whole asset')) = .ok asset' :=
      mapError_eq_ok_iff.mpr (canonicalAddress_of_assetAddress hSpelled)
    rw [← h]
    unfold requirement
    show ((canonicalAddress payTo).mapError Failure.badAddress >>= fun payee =>
        (assetAddress (.ofLoose (.whole asset')) >>= _)) =
      ((canonicalAddress payTo).mapError Failure.badAddress >>= fun payee =>
        (assetAddress (.ofLoose t.asset.address) >>= _))
    rw [hAgain, hSpelled]
    rfl
  · exact h

/-- The addresses of a requirement are spelled for the digits that were given, those of the payee
with the route and those of the asset by the converter. -/
structure HasCanonicalAddresses (convert : Converter) (payTo : String) (c : Config)
    (payee asset : String) : Prop where
  payTo : ∃ digits, Gives payTo digits ∧ IsSpelledFor payee digits
  asset : ∃ conversion digits, convert c.price.forConversion c.network.name = .ok conversion ∧
    AssetGives conversion.asset digits ∧ IsSpelledFor asset digits

/-- **Addresses are canonical.** Where a requirement is built, both of its addresses are spelled
for the digits given, and building again from these spellings gives the same requirement. What the
payee's digits are called, in which case and behind which prefix, makes no difference. Where the
payee or the asset does not give forty digits, no requirement is built. -/
theorem requirement_addresses (convert : Converter) (c : Config) (resource : LooseText)
    (method : Option String) :
    (∀ payTo r, requirement convert payTo c resource method = .ok r →
      ∃ payee asset, r.payTo = .whole payee ∧ r.asset = .whole asset ∧
        HasCanonicalAddresses convert payTo c payee asset ∧
        requirement convert payee c resource method = .ok r ∧
        (convert = standardConverter →
          requirement convert payee (c.withAsset asset) resource method = .ok r)) ∧
    (∀ payTo other digits digits', Gives payTo digits → Gives other digits' →
      asciiLower digits = asciiLower digits' →
      requirement convert payTo c resource method =
        requirement convert other c resource method) ∧
    ∀ payTo, ((¬ ∃ digits, Gives payTo digits) ∨ ∃ conversion,
        convert c.price.forConversion c.network.name = .ok conversion ∧
          ¬ ∃ digits, AssetGives conversion.asset digits) →
      ∃ f, requirement convert payTo c resource method = .error f := by
  refine ⟨fun payTo r h => ?_, ?_, fun payTo hMalformed => ?_⟩
  · obtain ⟨payee, asset, hPayTo, hSame, hPayee, conversion, hConvert, hAsset⟩ :=
      addresses_of_requirement h
    have hAgain : requirement convert payee c resource method = .ok r := by
      rw [requirement_congr_payTo ((canonicalAddress_idem hPayee).trans hPayee.symm), h]
    obtain ⟨digits, hGives, hSpelled⟩ := exists_gives_of_assetAddress hAsset
    refine ⟨payee, asset, hPayTo, hSame, ⟨exists_gives_of_canonicalAddress hPayee, conversion,
      digits, hConvert, hGives, hSpelled⟩, hAgain, ?_⟩
    rintro rfl
    exact requirement_withAsset hAgain hSame
  · intro payTo other digits digits' hGives hOther hSame
    exact requirement_congr_payTo (canonicalAddress_congr hGives hOther hSame)
  · cases hOutcome : requirement convert payTo c resource method with
    | error f => exact ⟨f, rfl⟩
    | ok r =>
        obtain ⟨payee, asset, -, -, hPayTo, conversion, hConvert, hAsset⟩ :=
          addresses_of_requirement hOutcome
        rcases hMalformed with hPayee | ⟨conversion', hConvert', hNone⟩
        · obtain ⟨digits, hGives, -⟩ := exists_gives_of_canonicalAddress hPayTo
          exact absurd ⟨digits, hGives⟩ hPayee
        · obtain rfl := Except.ok.inj (hConvert.symm.trans hConvert')
          obtain ⟨digits, hGives, -⟩ := exists_gives_of_assetAddress hAsset
          exact absurd ⟨digits, hGives⟩ hNone

/-- An amount of a token whose address is written in lower case and without a prefix. -/
def bareToken : Config :=
  ⟨.token ⟨"2500", ⟨"036cbd53842c5426634e7929541ec2318f3dcf7e", 6, ⟨"USDC", "2"⟩⟩⟩, .base, none⟩

/-- Who is paid, in capitals throughout. -/
def loudPayee : String := "0X209693BC6AFC0C5328BA36FAF03C514EF312287C"

/-- The requirement of a token, whose address is bare, for a payee in two spellings; and none where
the payee lacks a digit or the token's address is cut short. -/
theorem requirement_addresses_bareToken : ∃ r spelledPayee spelledAsset,
    requirement standardConverter payee bareToken "" none = .ok r ∧
      requirement standardConverter loudPayee bareToken "" none = .ok r ∧
      r.payTo = .whole spelledPayee ∧ r.asset = .whole spelledAsset ∧
      requirement standardConverter spelledPayee (bareToken.withAsset spelledAsset) "" none =
        .ok r ∧
      (∃ f, requirement standardConverter "0x209693" bareToken "" none = .error f) ∧
      ∃ f, requirement standardConverter payee ⟨.token shortToken, .base, none⟩ "" none =
        .error f := by
  have hOk : (requirement standardConverter payee bareToken "" none).isOk = true := by
    decide +kernel
  obtain ⟨r, hBuilt⟩ := exists_ok_of_isOk hOk
  obtain ⟨hCanonical, hSpellings, hMalformed⟩ :=
    requirement_addresses standardConverter bareToken "" none
  have hPayee : IsAddress payee := ⟨by decide, by decide⟩
  have hLoud : IsAddress loudPayee := ⟨by decide, by decide⟩
  have hCut : ¬ IsAddress "0x036CbD5384" := fun h => absurd h.2 (by decide)
  have hShort : ¬ IsAddress "0x209693" := fun h => absurd h.2 (by decide)
  obtain ⟨spelledPayee, spelledAsset, hPayTo, hAsset, -, -, hRebuilt⟩ := hCanonical payee r hBuilt
  refine ⟨r, spelledPayee, spelledAsset, hBuilt, ?_, hPayTo, hAsset, hRebuilt rfl, ?_, ?_⟩
  · rw [← hBuilt]
    exact hSpellings _ _ _ _ (gives_of_isAddress hLoud) (gives_of_isAddress hPayee) (by decide)
  · exact hMalformed _ (Or.inl (fun h => hShort (exists_gives_iff.mp h)))
  · refine (requirement_addresses standardConverter _ "" none).2.2 payee
      (Or.inr ⟨_, rfl, fun h => ?_⟩)
    obtain ⟨digits, hGives⟩ := h
    cases hGives with
    | text hText => exact hCut (exists_gives_iff.mp ⟨digits, hText⟩)

end Route

end Tollgate
