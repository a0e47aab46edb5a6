import Tollgate.Payment.Header
import Tollgate.Proofs.Answer
import Tollgate.Proofs.Legible
import Tollgate.Proofs.Reading
import Tollgate.Proofs.Transport

set_option autoImplicit false

/-! # Headers that are read back

A payment travels to the server and a settlement travels back, each as base 64 of its JSON text.
The four layers are undone one after the other: the letters give back the bytes, the bytes the
text (`headerText_encode`), the text the value (`Json.read_textOf`), and the value the record
(`Payload.read_toValue`, `Settlement.read_toValue`). The last two need that no text of the record
is broken, as a broken text may spell a pair that is joined when it is read.
-/

namespace Tollgate

/-! ## Texts and members -/

namespace Text

/-- The text holds no unpaired surrogate. -/
def LooseText.IsWhole (t : LooseText) : Prop :=
  ∃ s, t = .whole s

theorem LooseText.IsWhole.isClean {t : LooseText} (h : t.IsWhole) : t.IsClean := by
  obtain ⟨s, rfl⟩ := h
  exact isClean_whole s

end Text

namespace Json

open Tollgate.Text

/-- Members with different names are put one behind the other. -/
theorem Members.put_of_not_mem {members : Members} {name : LooseText}
    (h : name ∉ members.map Prod.fst) (v : Value) :
    members.put name v = members ++ [(name, v)] := by
  induction members with
  | nil => rfl
  | cons member members ih =>
      obtain ⟨n, w⟩ := member
      rw [List.map_cons, List.mem_cons, not_or] at h
      rw [Members.put, if_neg (Ne.symm h.1), ih h.2]
      rfl

theorem Members.putAll_of_nodup {members others : Members}
    (h : ((members ++ others).map Prod.fst).Nodup) : members.putAll others = members ++ others := by
  induction others generalizing members with
  | nil => exact (List.append_nil members).symm
  | cons other others ih =>
      obtain ⟨n, w⟩ := other
      have hNew : n ∉ members.map Prod.fst := by
        rw [List.map_append, List.nodup_append] at h
        exact fun hMem => h.2.2 n hMem n (by simp) rfl
      have hRest : (((members ++ [(n, w)]) ++ others).map Prod.fst).Nodup := by
        rwa [List.append_assoc]
      show (members.put n w).putAll others = _
      rw [Members.put_of_not_mem hNew, ih hRest, List.append_assoc]
      rfl

theorem map_fst_rereadMembers {members : Members} (h : ∀ m ∈ members, m.1.IsWhole) :
    (Value.rereadMembers members).map Prod.fst = members.map Prod.fst := by
  induction members with
  | nil => rfl
  | cons member members ih =>
      obtain ⟨name, value⟩ := member
      obtain ⟨⟨s, rfl⟩, hMembers⟩ := List.forall_mem_cons.mp h
      rw [Value.rereadMembers, List.map_cons, List.map_cons, ih hMembers, LooseText.reread_whole]

/-- An object whose names differ and are whole shows its members. -/
theorem reread_object {members : Members} (h : (members.map Prod.fst).Nodup)
    (hNames : ∀ m ∈ members, m.1.IsWhole) :
    (Value.object members).reread = .object (Value.rereadMembers members) := by
  rw [← map_fst_rereadMembers hNames] at h
  exact congrArg Value.object (Members.putAll_of_nodup h)

theorem reread_ofLoose {t : LooseText} (h : t.IsWhole) : (Value.ofLoose t).reread = .ofLoose t := by
  obtain ⟨s, rfl⟩ := h
  rfl

theorem isLegible_ofLoose {t : LooseText} (h : t.IsWhole) (digits : Nat) :
    (Value.ofLoose t).IsLegible digits := by
  obtain ⟨s, rfl⟩ := h
  trivial

end Json

namespace Schema

open Tollgate.Json

variable {α : Type}

/-- A field that is spelled in camel case is read. -/
theorem required_of_get? {members : Members} {name : FieldName} {read : Value → Validated α}
    {v : Value} {a : α} (hGet : members.get? name.camel = some v) (hRead : read v = .valid a) :
    required members name read = .valid a := by
  refine required_eq_valid_iff.mpr ⟨name.camel, v, ?_, hRead⟩
  unfold FieldName.find?
  rw [hGet]

theorem optional_of_get? {members : Members} {name : FieldName} {default : α}
    {read : Value → Validated α} {v : Value} {a : α} (hGet : members.get? name.camel = some v)
    (hRead : read v = .valid a) : optional members name default read = .valid a := by
  unfold optional FieldName.find?
  rw [hGet]
  simp only [hRead, Validated.under]

/-- A record was read from members. -/
theorem exists_of_recordOrAttributes {read : Members → Validated α} {v : Value} {a : α}
    (h : recordOrAttributes read v = .valid a) : ∃ members, read members = .valid a := by
  unfold recordOrAttributes at h
  split at h
  · exact ⟨_, h⟩
  · exact ⟨_, h⟩
  · cases h

end Schema

namespace Payment

open Tollgate.Number Tollgate.Text Tollgate.Json Tollgate.Schema Tollgate.Codec Tollgate.Gate

/-! ## The text of a header -/

/-- **A text that is sent in a header is received.** -/
theorem headerText_encode {cs : List Char} (h : cs ≠ []) :
    headerText (String.ofList (Base64.encode (Utf8.encode cs))) = .ok cs := by
  unfold headerText
  rw [String.toList_ofList, Base64.decode_encode]
  simp only [Except.mapError, bind, Except.bind, Utf8.decode_encode]
  cases cs with
  | nil => exact absurd rfl h
  | cons c cs => rfl

/-- A value that is sent in a header is received as what its text shows. -/
theorem read_headerText {style : Style} (hs : style.IsLegible) {depth : Nat} {v : Value}
    (hLegible : v.IsLegible digitLimit) (hDepth : v.nesting ≤ depth) :
    ∃ cs, headerText (String.ofList (Base64.encode (Utf8.encode (textOf style v)))) = .ok cs ∧
      Json.read (outsideLimits depth) (String.ofList cs) = .ok v.reread := by
  refine ⟨_, headerText_encode ?_, read_textOf hs hLegible hDepth⟩
  exact List.ne_nil_of_length_pos (textOf_length_pos style v)

/-! ## Payments -/

namespace Payload

/-- The texts of a payment that may be broken. -/
def texts (p : Payload) : List LooseText :=
  [p.scheme, p.network, p.signed.signature, p.signed.authorization.sender,
    p.signed.authorization.recipient, p.signed.authorization.validAfter,
    p.signed.authorization.validBefore, p.signed.authorization.nonce]

/-- The texts of a payment hold no unpaired surrogates, and its version has no more digits than
may be read. -/
structure IsPlain (p : Payload) : Prop where
  texts : ∀ t ∈ p.texts, t.IsWhole
  version : digitCount p.version.natAbs ≤ digitLimit

/-- The header text of a payment whose JSON text is written in a style. -/
def headerIn (style : Style) (p : Payload) : String :=
  String.ofList (Base64.encode (Utf8.encode (textOf style p.toValue)))

/-- The value of a payment is what its text shows. -/
theorem reread_toValue {p : Payload} (h : p.IsPlain) : p.toValue.reread = p.toValue := by
  have hTexts := h.texts
  simp only [texts, List.forall_mem_cons] at hTexts
  have hAuthorization : p.signed.authorization.toValue.reread =
      p.signed.authorization.toValue := by
    rw [Authorization.toValue, reread_object (by simp) (by simp [LooseText.IsWhole])]
    simp only [Value.rereadMembers, LooseText.reread_whole, Value.reread, reread_ofLoose, hTexts]
  rw [toValue, reread_object (by simp) (by simp [LooseText.IsWhole])]
  simp only [Value.rereadMembers, LooseText.reread_whole, reread_ofLoose, hTexts]
  rw [reread_object (by simp) (by simp [LooseText.IsWhole])]
  simp only [Value.rereadMembers, LooseText.reread_whole, reread_ofLoose, hTexts, hAuthorization,
    Value.reread]

theorem isLegible_toValue {p : Payload} (h : p.IsPlain) : p.toValue.IsLegible digitLimit := by
  have hTexts := h.texts
  have hVersion := h.version
  simp only [texts, List.forall_mem_cons] at hTexts
  simp only [toValue, Authorization.toValue, Value.IsLegible, Value.MembersLegible,
    LooseText.isClean_whole, isLegible_ofLoose, hTexts, hVersion, and_self]

theorem nesting_toValue (p : Payload) : p.toValue.nesting = 3 := by
  simp only [toValue, Authorization.toValue, Value.nesting, Value.membersNesting,
    Value.nesting_ofLoose, Nat.max_self, Nat.zero_max, Nat.max_zero]

/-- The value of a payment whose amount is a numeral is read as the payment. -/
theorem read_toValue {p : Payload} (h : isInteger p.signed.authorization.amount = true) :
    Payload.read p.toValue = .valid p := by
  obtain ⟨version, scheme, network, ⟨signature, authorization⟩⟩ := p
  -- from the inside to the outside: a record is read once those inside it are
  have hAmount : integerText (.text authorization.amount) = .valid authorization.amount :=
    integerText_eq_valid_iff.mpr ⟨rfl, h⟩
  have hAuthorization : Authorization.read authorization.toValue = .valid authorization := by
    unfold Authorization.read Authorization.toValue recordOrAttributes
    simp only
    rw [required_of_get? rfl (text_ofLoose _), required_of_get? rfl (text_ofLoose _),
      required_of_get? rfl hAmount, required_of_get? rfl (text_ofLoose _),
      required_of_get? rfl (text_ofLoose _), required_of_get? rfl (text_ofLoose _)]
    rfl
  have hSigned : SignedAuthorization.read (.object [("signature", .ofLoose signature),
      ("authorization", authorization.toValue)]) = .valid ⟨signature, authorization⟩ := by
    unfold SignedAuthorization.read record
    simp only
    rw [required_of_get? rfl (text_ofLoose _), required_of_get? rfl hAuthorization]
    rfl
  unfold Payload.read toValue recordOrAttributes
  simp only
  rw [required_of_get? rfl (show integer (.int version) = .valid version from rfl),
    required_of_get? rfl (text_ofLoose _), required_of_get? rfl (text_ofLoose _),
    required_of_get? rfl hSigned]
  rfl

/-- The amount of a payment that was read is a numeral. -/
theorem isInteger_of_read {v : Value} {p : Payload} (h : Payload.read v = .valid p) :
    isInteger p.signed.authorization.amount = true := by
  -- the fields are read one behind the other, so they come off from the last to the first
  obtain ⟨members, hMembers⟩ := exists_of_recordOrAttributes h
  obtain ⟨_, signed, hThree, hSigned, rfl⟩ := Validated.seq_eq_valid_iff.mp hMembers
  obtain ⟨_, network, hTwo, -, rfl⟩ := Validated.seq_eq_valid_iff.mp hThree
  obtain ⟨_, scheme, hOne, -, rfl⟩ := Validated.seq_eq_valid_iff.mp hTwo
  obtain ⟨version, -, rfl⟩ := Validated.map_eq_valid_iff.mp hOne
  obtain ⟨_, _, -, hSigned⟩ := required_eq_valid_iff.mp hSigned
  obtain ⟨members, hMembers⟩ := exists_of_record hSigned
  obtain ⟨_, authorization, hOne, hAuthorization, rfl⟩ :=
    Validated.seq_eq_valid_iff.mp hMembers
  obtain ⟨signature, -, rfl⟩ := Validated.map_eq_valid_iff.mp hOne
  obtain ⟨_, _, -, hAuthorization⟩ := required_eq_valid_iff.mp hAuthorization
  obtain ⟨members, hMembers⟩ := exists_of_recordOrAttributes hAuthorization
  obtain ⟨_, nonce, hFive, -, rfl⟩ := Validated.seq_eq_valid_iff.mp hMembers
  obtain ⟨_, before, hFour, -, rfl⟩ := Validated.seq_eq_valid_iff.mp hFive
  obtain ⟨_, after, hThree, -, rfl⟩ := Validated.seq_eq_valid_iff.mp hFour
  obtain ⟨_, amount, hTwo, hAmount, rfl⟩ := Validated.seq_eq_valid_iff.mp hThree
  obtain ⟨_, recipient, hOne, -, rfl⟩ := Validated.seq_eq_valid_iff.mp hTwo
  obtain ⟨sender, -, rfl⟩ := Validated.map_eq_valid_iff.mp hOne
  obtain ⟨_, _, -, hAmount⟩ := required_eq_valid_iff.mp hAmount
  exact (integerText_eq_valid_iff.mp hAmount).2

/-- **Reading a payment header undoes writing it.** A payment is read from the header that was
written for it, in whatever style its JSON text is, by every reader that lets three containers
stand one inside the other. So a payment that was read from any header is read again from the
header that is written for it, whatever else the first one held. -/
theorem ofHeader_headerIn {style : Style} (hs : style.IsLegible) {depth : Nat}
    (hThree : 3 ≤ depth) :
    (∀ p : Payload, p.IsPlain → isInteger p.signed.authorization.amount = true →
      Payload.ofHeader depth (p.headerIn style) = .ok p) ∧
    ∀ (header : String) (p : Payload), Payload.ofHeader depth header = .ok p → p.IsPlain →
      Payload.ofHeader depth (p.headerIn style) = .ok p := by
  have hBack : ∀ p : Payload, p.IsPlain → isInteger p.signed.authorization.amount = true →
      Payload.ofHeader depth (p.headerIn style) = .ok p := by
    intro p hPlain hAmount
    have hDepth : p.toValue.nesting ≤ depth := by
      rw [nesting_toValue]
      exact hThree
    obtain ⟨cs, hText, hValue⟩ := read_headerText hs (isLegible_toValue hPlain) hDepth
    rw [reread_toValue hPlain] at hValue
    unfold Payload.ofHeader headerIn
    rw [hText]
    simp only [Except.mapError, bind, Except.bind, hValue, read_toValue hAmount,
      Validated.orReject]
  refine ⟨hBack, fun header p hRead hPlain => hBack p hPlain ?_⟩
  -- whatever else the header held, the amount that was read from it is a numeral
  obtain ⟨cs, -, hRest⟩ := bind_eq_ok_iff.mp hRead
  obtain ⟨value, -, hValue⟩ := bind_eq_ok_iff.mp hRest
  exact isInteger_of_read (Validated.orReject_eq_ok_iff.mp (mapError_eq_ok_iff.mp hValue))

/-- A payment whose texts need escapes of every kind. -/
def odd : Payload where
  version := 1
  scheme := "ex\"act\\"
  network := "😀\x7f"
  signed :=
    { signature := ""
      authorization :=
        { sender := "é"
          recipient := "\t"
          amount := " 1_0 "
          validAfter := "0"
          validBefore := "1\u0000"
          nonce := "/" } }

/-- The payment as someone else may write it: with names in snake case, a name that occurs twice,
a member that is none, and other escapes. -/
def oddText : List Char :=
  "\x7b\"x402_version\": 9, \"scheme\": \"none\", \"x402Version\":1, \"note\": [1.5],\n".toList ++
  "\"scheme\": \"ex\\\"act\\\\\", \"network\": \"\\ud83d\\uDE00\\u007f\", \"payload\": ".toList ++
  "\x7b\"signature\": \"\", \"authorization\": \x7b\"from_\": \"é\", \"to\": \"\\t\", ".toList ++
  "\"value\": \" 1_0 \", \"valid_after\": \"0\", \"validBefore\": \"1\\u0000\", ".toList ++
  "\"nonce\": \"\\/\"\x7d\x7d\x7d".toList

/-- The text in base 64, with two characters that do not belong to it. -/
def oddHeader : String :=
  String.ofList ('-' :: '\n' :: Base64.encode (Utf8.encode oddText))

theorem ofHeader_oddHeader : Payload.ofHeader 960 oddHeader = .ok odd := by
  apply toOption_eq_some_iff.mp
  simp only [Payload.ofHeader, headerText, oddHeader, String.toList_ofList, Json.read]
  decide +kernel

theorem isPlain_odd : odd.IsPlain where
  texts := by
    simp only [texts, odd, List.forall_mem_cons]
    exact ⟨⟨_, rfl⟩, ⟨_, rfl⟩, ⟨_, rfl⟩, ⟨_, rfl⟩, ⟨_, rfl⟩, ⟨_, rfl⟩, ⟨_, rfl⟩, ⟨_, rfl⟩,
      fun _ h => by cases h⟩
  version := by decide

/-- The payment is read from the header that is written for it, and from the one that is written
for what was read from the other header. -/
theorem ofHeader_headerIn_odd :
    Style.spaced.IsLegible ∧ 3 ≤ 960 ∧ odd.IsPlain ∧
      isInteger odd.signed.authorization.amount = true ∧
      Payload.ofHeader 960 oddHeader = .ok odd ∧
      Payload.ofHeader 960 (odd.headerIn .spaced) = .ok odd ∧
      Payload.ofHeader 960 (odd.headerIn .compact) = .ok odd :=
  ⟨isLegible_spaced, by decide, isPlain_odd, by decide, ofHeader_oddHeader,
    (ofHeader_headerIn isLegible_spaced (by decide)).1 odd isPlain_odd (by decide),
    (ofHeader_headerIn isLegible_compact (by decide)).2 oddHeader odd ofHeader_oddHeader
      isPlain_odd⟩

end Payload

/-! ## Settlements -/

namespace Settlement

/-- The texts of a settlement hold no unpaired surrogates. -/
structure IsPlain (s : Settlement) : Prop where
  transaction : s.transaction.IsWhole
  network : s.network.IsWhole
  payer : ∀ t, s.payer = some t → t.IsWhole

/-- The settlement that a header text reports, where values may be nested so deeply. -/
def ofHeader (depth : Nat) (header : String) : Except Failure Settlement := do
  let cs ← (headerText header).mapError Failure.badHeader
  let value ← (Json.read (outsideLimits depth) (String.ofList cs)).mapError Failure.unreadable
  ((Settlement.read value).orReject "Settlement").mapError Failure.rejected

/-- The value of a settlement is what its text shows. -/
theorem reread_toValue {s : Settlement} (h : s.IsPlain) : s.toValue.reread = s.toValue := by
  obtain ⟨transaction, network, payer⟩ := s
  obtain ⟨hTransaction, hNetwork, hPayer⟩ := h
  rw [toValue, reread_object (by simp) (by simp [LooseText.IsWhole])]
  cases payer with
  | none =>
      simp only [Value.rereadMembers, LooseText.reread_whole, reread_ofLoose, hTransaction,
        hNetwork, Value.reread, Value.ofLoose?]
  | some t =>
      have hWhole := hPayer t rfl
      simp only [Value.rereadMembers, LooseText.reread_whole, reread_ofLoose, hTransaction,
        hNetwork, hWhole, Value.reread, Value.ofLoose?]

theorem isLegible_toValue {s : Settlement} (h : s.IsPlain) (digits : Nat) :
    s.toValue.IsLegible digits := by
  obtain ⟨transaction, network, payer⟩ := s
  obtain ⟨hTransaction, hNetwork, hPayer⟩ := h
  cases payer with
  | none =>
      simp only [toValue, Value.IsLegible, Value.MembersLegible, Value.ofLoose?,
        LooseText.isClean_whole, isLegible_ofLoose, hTransaction, hNetwork, and_self]
  | some t =>
      have hWhole := hPayer t rfl
      simp only [toValue, Value.IsLegible, Value.MembersLegible, Value.ofLoose?,
        LooseText.isClean_whole, isLegible_ofLoose, hTransaction, hNetwork, hWhole, and_self]

theorem nesting_toValue (s : Settlement) : s.toValue.nesting = 1 := by
  obtain ⟨transaction, network, payer⟩ := s
  cases payer <;>
    simp only [toValue, Value.nesting, Value.membersNesting, Value.ofLoose?, Value.nesting_ofLoose,
      Nat.max_self]

/-- The value of a settlement is read as the settlement. -/
theorem read_toValue (s : Settlement) : Settlement.read s.toValue = .valid s := by
  obtain ⟨transaction, network, payer⟩ := s
  have hPayer : nullable text (.ofLoose? payer) = .valid payer := by
    cases payer with
    | none => rfl
    | some t => cases t <;> rfl
  unfold Settlement.read toValue record
  simp only
  rw [optional_of_get? rfl (show readSuccess (.bool true) = .valid () from rfl),
    required_of_get? rfl (text_ofLoose _), required_of_get? rfl (text_ofLoose _),
    optional_of_get? rfl hPayer]
  rfl

theorem ofHeader_header {s : Settlement} (h : s.IsPlain) {depth : Nat} (hOne : 1 ≤ depth) :
    ofHeader depth s.header = .ok s := by
  have hDepth : s.toValue.nesting ≤ depth := by
    rw [nesting_toValue]
    exact hOne
  obtain ⟨cs, hText, hValue⟩ :=
    read_headerText isLegible_spaced (isLegible_toValue h digitLimit) hDepth
  rw [reread_toValue h] at hValue
  have hHeader : headerText s.header = .ok cs := hText
  unfold ofHeader
  rw [hHeader]
  simp only [Except.mapError, bind, Except.bind, hValue, read_toValue, Validated.orReject]

/-- **The report of a settlement says all of it.** The header consists of letters of base 64 in
groups of four, the settlement is read back from it by every reader that reads objects at all, and
no other settlement has the same header. -/
theorem header_spec {s : Settlement} (h : s.IsPlain) :
    (∀ c ∈ s.header.toList, Base64.IsLetter c) ∧ 4 ∣ s.header.toList.length ∧
      (∀ depth, 1 ≤ depth → ofHeader depth s.header = .ok s) ∧
      ∀ t : Settlement, t.IsPlain → t.header = s.header → t = s := by
  have hLetters : s.header.toList = Base64.encode (Utf8.encode s.json) := String.toList_ofList
  refine ⟨?_, ?_, fun depth => ofHeader_header h, ?_⟩
  · rw [hLetters]
    exact Base64.forall_mem_encode _
  · rw [hLetters]
    exact Base64.four_dvd_length_encode _
  · intro t ht hSame
    have hRead := ofHeader_header ht (Nat.le_refl 1)
    rw [hSame, ofHeader_header h (Nat.le_refl 1)] at hRead
    exact (Except.ok.inj hRead).symm

/-- A settlement whose texts need escapes. -/
def odd : Settlement := ⟨"\"😀\\", "base\n", some "é"⟩

theorem header_spec_odd :
    odd.IsPlain ∧ (∀ c ∈ odd.header.toList, Base64.IsLetter c) ∧ 4 ∣ odd.header.toList.length ∧
      (∀ depth, 1 ≤ depth → ofHeader depth odd.header = .ok odd) ∧
      ∀ t : Settlement, t.IsPlain → t.header = odd.header → t = odd := by
  have hPlain : odd.IsPlain := ⟨⟨_, rfl⟩, ⟨_, rfl⟩, fun _ h => ⟨_, (Option.some.inj h).symm⟩⟩
  exact ⟨hPlain, header_spec hPlain⟩

end Settlement

end Payment

end Tollgate
