import Tollgate.Payment.Conversion
import Tollgate.Proofs.Numeral
import Tollgate.Proofs.Setup

set_option autoImplicit false

/-! # What a conversion comes to

Another converter may stand in for the standard one, and it may act in a monad of its own. It is
called once, with the price as it is handed over, and what it answers decides the outcome
(`atomicAmountM_outcome`). A failure counts by its kind, of which there are special cases
(`FailureKind.IsA`): failed arithmetic becomes a setup error that shows the price, a faulty value
one with the converter's own words, and anything else is passed on. An amount of money must be
positive; an amount of a token is not looked at.
-/

namespace Tollgate

/-! ## Kinds of failures -/

/-- One kind of failure is another or a special case of it. -/
inductive FailureKind.IsA : FailureKind → FailureKind → Prop
  | same (kind : FailureKind) : IsA kind kind
  | zeroDivision : IsA .zeroDivision .arithmetic
  | overflow : IsA .overflow .arithmetic
  | floatingPoint : IsA .floatingPoint .arithmetic
  | invalidOperation : IsA .invalidOperation .arithmetic
  | unicode : IsA .unicode .value

/-- A failure is told in a collaborator's words. -/
def Failure.IsRaised (f : Failure) : Prop :=
  ∃ kind text, f = .raised kind text

/-- A failure is of a kind. A collaborator's failure is of the kind that it reports and of those of
which this is a special case; any other failure is of the kind that its cause has. -/
inductive Failure.IsA : Failure → FailureKind → Prop
  | raised {kind kind' : FailureKind} {text : String} (h : kind.IsA kind') :
      IsA (.raised kind text) kind'
  | arithmetic {f : Failure} (hOwn : ¬ f.IsRaised) (h : f.isArithmetic = true) : IsA f .arithmetic
  | value {f : Failure} (hOwn : ¬ f.IsRaised) (h : f.isValueFault = true) : IsA f .value

theorem Failure.isArithmetic_raised_iff {kind : FailureKind} {text : String} :
    (Failure.raised kind text).isArithmetic = true ↔ kind.IsA .arithmetic := by
  constructor
  · intro h
    cases kind with
    | arithmetic => exact .same _
    | zeroDivision => exact .zeroDivision
    | overflow => exact .overflow
    | floatingPoint => exact .floatingPoint
    | invalidOperation => exact .invalidOperation
    | value | unicode | key | other => cases h
  · intro h
    cases h <;> rfl

theorem Failure.isValueFault_raised_iff {kind : FailureKind} {text : String} :
    (Failure.raised kind text).isValueFault = true ↔ kind.IsA .value := by
  constructor
  · intro h
    cases kind with
    | value => exact .same _
    | unicode => exact .unicode
    | arithmetic | zeroDivision | overflow | floatingPoint | invalidOperation | key | other =>
        cases h
  · intro h
    cases h <;> rfl

theorem Failure.isArithmetic_iff {f : Failure} : f.isArithmetic = true ↔ f.IsA .arithmetic := by
  constructor
  · intro h
    by_cases hOwn : f.IsRaised
    · obtain ⟨kind, text, rfl⟩ := hOwn
      exact .raised (isArithmetic_raised_iff.mp h)
    · exact .arithmetic hOwn h
  · intro h
    cases h with
    | raised h => exact isArithmetic_raised_iff.mpr h
    | arithmetic _ h => exact h

theorem Failure.isValueFault_iff {f : Failure} : f.isValueFault = true ↔ f.IsA .value := by
  constructor
  · intro h
    by_cases hOwn : f.IsRaised
    · obtain ⟨kind, text, rfl⟩ := hOwn
      exact .raised (isValueFault_raised_iff.mp h)
    · exact .value hOwn h
  · intro h
    cases h with
    | raised h => exact isValueFault_raised_iff.mpr h
    | value _ h => exact h

namespace Payment

open Tollgate.Number Tollgate.Text Tollgate.Json

/-! ## Prices that can be shown -/

@[simp] theorem holdsOverlong_ofLoose (t : LooseText) :
    (Value.ofLoose t).holdsOverlong = false := by
  cases t <;> rfl

theorem isUnshowable_int (n : Int) : (Price.int n).isUnshowable = isOverlong n := by
  simp only [Price.isUnshowable, Price.toValue, Value.holdsOverlong]

/-- The price that is handed over can be shown if the price can. -/
theorem isUnshowable_forConversion {price : Price} (h : price.isUnshowable = false) :
    price.forConversion.isUnshowable = false := by
  cases price with
  | float x => rfl
  | _ => exact h

theorem isMoney_forConversion (price : Price) : price.forConversion.isMoney = price.isMoney := by
  cases price <;> rfl

theorem isOverlong_of_isDecimals {n : Int} (h : isDecimals n = true) : isOverlong n = false := by
  simp only [isDecimals, Bool.and_eq_true, decide_eq_true_eq] at h
  exact isOverlong_of_lt (by omega)

/-- Of the prices that a route can have, only integers may be too long to be shown. -/
theorem isUnshowable_eq_true_iff {price : Price} (hOther : ∀ v, price ≠ .other v)
    (hToken : ∀ t, price = .token t → isDecimals t.asset.decimals = true) :
    price.isUnshowable = true ↔ ∃ n, price = .int n ∧ isOverlong n = true := by
  cases price with
  | text s => simp [Price.isUnshowable, Price.toValue]
  | float x => simp [Price.isUnshowable, Price.toValue, Value.holdsOverlong]
  | other v => exact absurd rfl (hOther v)
  | int n => simp [isUnshowable_int]
  | token t =>
      have hShort := isOverlong_of_isDecimals (hToken t rfl)
      simp [Price.isUnshowable, Price.toValue, TokenAmount.toRecord, domainMembers,
        Value.holdsOverlong, Value.membersHoldOverlong, hShort]

/-! ## Amounts -/

/-- A converted amount is an integer that can be written, or a text that an integer can be read
from: the value, the integer, and the amount as text. -/
inductive IsAmount : Value → Int → String → Prop
  | int {n : Int} (h : isOverlong n = false) : IsAmount (.int n) n (String.ofList (intText n))
  | bool (b : Bool) : IsAmount (.bool b) (if b then 1 else 0) (if b then "True" else "False")
  | text {s : String} {n : Int} (h : readInteger s = .ok n) : IsAmount (.text s) n s

theorem IsAmount.amountInteger {amount : Value} {n : Int} {text : String}
    (h : IsAmount amount n text) : amountInteger amount = .ok n := by
  cases h with
  | int hShort => rfl
  | bool b => rfl
  | text hRead =>
      show (readInteger text).mapError Failure.badAmount = .ok n
      rw [hRead]
      rfl

theorem IsAmount.amountText {amount : Value} {n : Int} {text : String}
    (h : IsAmount amount n text) : amountText amount = .ok text := by
  cases h with
  | int hShort =>
      simp only [Payment.amountText, Value.holdsOverlong, hShort, Bool.false_eq_true, if_false,
        Value.spelled, Value.shown]
  | bool b => cases b <;> rfl
  | text hRead => rfl

/-! ## Conclusions -/

section Conclude

variable {handed : Price}

theorem priceError_of_shown (error : String → SetupError) (hShown : handed.isUnshowable = false) :
    priceError error handed = .setup (error handed.shown) :=
  if_neg (Bool.eq_false_iff.mp hShown)

theorem converterError_of_isArithmetic {f : Failure} (hShown : handed.isUnshowable = false)
    (h : f.isArithmetic = true) :
    converterError handed f = .setup (.invalidPrice handed.shown) := by
  unfold converterError
  rw [if_pos h, priceError_of_shown _ hShown]

theorem converterError_of_isValueFault {f : Failure} (hShown : handed.isUnshowable = false)
    (hFirst : f.isArithmetic = false) (h : f.isValueFault = true) :
    converterError handed f = .setup (.unconvertible f.message) := by
  unfold converterError
  rw [if_neg (Bool.eq_false_iff.mp hFirst), if_pos h, priceError_of_shown _ hShown]

theorem converterError_of_other {f : Failure} (hFirst : f.isArithmetic = false)
    (h : f.isValueFault = false) : converterError handed f = f := by
  unfold converterError
  rw [if_neg (Bool.eq_false_iff.mp hFirst), if_neg (Bool.eq_false_iff.mp h)]

/-- A positive amount of money is taken. -/
theorem concludeConversion_of_positive {c : Conversion} {n : Int} {text : String}
    (hAmount : IsAmount c.amount n text) (hPositive : handed.isMoney = true → 0 < n) :
    concludeConversion handed (.ok c) = .ok ⟨text, c.asset, c.domain⟩ := by
  have hCheck : checkPositive handed c.amount = .ok () := by
    unfold checkPositive
    by_cases hMoney : handed.isMoney = true
    · rw [if_pos hMoney, hAmount.amountInteger]
      exact if_neg (Int.not_le.mpr (hPositive hMoney))
    · rw [if_neg hMoney]
  simp only [concludeConversion, hCheck, hAmount.amountText]
  rfl

theorem concludeConversion_of_not_positive {c : Conversion} {n : Int} {text : String}
    (hShown : handed.isUnshowable = false) (hMoney : handed.isMoney = true)
    (hAmount : IsAmount c.amount n text) (hNot : n ≤ 0) :
    concludeConversion handed (.ok c) = .error (.setup (.notPositive handed.shown)) := by
  have hCheck : checkPositive handed c.amount = .error (.setup (.notPositive handed.shown)) := by
    unfold checkPositive
    rw [if_pos hMoney, hAmount.amountInteger, priceError_of_shown _ hShown]
    exact if_pos hNot
  simp only [concludeConversion, hCheck]
  rfl

/-- Only a positive amount of money is taken. -/
theorem pos_of_concludeConversion {c : Conversion} {a : AtomicAmount} {n : Int} {text : String}
    (hMoney : handed.isMoney = true) (hAmount : IsAmount c.amount n text)
    (h : concludeConversion handed (.ok c) = .ok a) : 0 < n := by
  obtain ⟨_, hCheck, -⟩ := bind_eq_ok_iff.mp h
  unfold checkPositive at hCheck
  rw [if_pos hMoney, hAmount.amountInteger] at hCheck
  by_contra hNot
  have hFailed : (if n ≤ 0 then .error (priceError .notPositive handed) else .ok ()) =
      (.ok () : Except Failure Unit) := hCheck
  rw [if_pos (Int.not_lt.mp hNot)] at hFailed
  cases hFailed

/-- The amount of a token is taken as it is. -/
theorem concludeConversion_of_token {c : Conversion} (hToken : handed.isMoney = false) :
    concludeConversion handed (.ok c) =
      (amountText c.amount).map fun text => ⟨text, c.asset, c.domain⟩ := by
  have hCheck : checkPositive handed c.amount = .ok () := if_neg (Bool.eq_false_iff.mp hToken)
  simp only [concludeConversion, hCheck]
  cases amountText c.amount <;> rfl

end Conclude

/-- The outcome that a converter's answer leads to. -/
structure Concludes (price : Price) (answer : Except Failure Conversion)
    (outcome : Except Failure AtomicAmount) : Prop where
  /-- The message of failed arithmetic shows the price as it was handed over. -/
  arithmetic : ∀ f : Failure, answer = .error f → f.IsA .arithmetic →
    ∃ error, outcome = .error (.setup error) ∧
      error.message = ("Invalid price: " ++ price.forConversion.shown : String)
  /-- Of a faulty value the converter's own words are told. -/
  value : ∀ f : Failure, answer = .error f → ¬ f.IsA .arithmetic → f.IsA .value →
    ∃ error, outcome = .error (.setup error) ∧ error.message = f.message
  other : ∀ f : Failure, answer = .error f → ¬ f.IsA .arithmetic → ¬ f.IsA .value →
    outcome = .error f
  notPositive : ∀ c n text, answer = .ok c → IsAmount c.amount n text → price.isMoney = true →
    n ≤ 0 → ∃ error, outcome = .error (.setup error) ∧ error.message =
      ("Invalid price: " ++ price.forConversion.shown ++ " must be a positive amount" : String)
  converted : ∀ c n text, answer = .ok c → IsAmount c.amount n text →
    (price.isMoney = true → 0 < n) → outcome = .ok ⟨text, c.asset, c.domain⟩
  /-- Whether the amount of a token is positive, or an integer at all, does not matter. -/
  token : ∀ c, answer = .ok c → price.isMoney = false →
    outcome = (amountText c.amount).map fun text => ⟨text, c.asset, c.domain⟩

theorem concludes_concludeConversion {price : Price} (hShown : price.isUnshowable = false)
    (answer : Except Failure Conversion) :
    Concludes price answer (concludeConversion price.forConversion answer) := by
  have hHanded := isUnshowable_forConversion hShown
  have hMoney := isMoney_forConversion price
  refine ⟨?arithmetic, ?value, ?other, ?notPositive, ?converted, ?token⟩
  case arithmetic =>
    rintro f rfl hKind
    have hFailed := converterError_of_isArithmetic hHanded (Failure.isArithmetic_iff.mpr hKind)
    exact ⟨_, congrArg Except.error hFailed, rfl⟩
  case value =>
    rintro f rfl hFirst hKind
    have hNotFirst := Bool.eq_false_iff.mpr (mt Failure.isArithmetic_iff.mp hFirst)
    have hFailed :=
      converterError_of_isValueFault hHanded hNotFirst (Failure.isValueFault_iff.mpr hKind)
    exact ⟨_, congrArg Except.error hFailed, rfl⟩
  case other =>
    rintro f rfl hFirst hSecond
    have hNotFirst := Bool.eq_false_iff.mpr (mt Failure.isArithmetic_iff.mp hFirst)
    have hNotSecond := Bool.eq_false_iff.mpr (mt Failure.isValueFault_iff.mp hSecond)
    exact congrArg Except.error (converterError_of_other hNotFirst hNotSecond)
  case notPositive =>
    rintro c n text rfl hAmount hPrice hNot
    have hFailed :=
      concludeConversion_of_not_positive hHanded (hMoney.trans hPrice) hAmount hNot
    exact ⟨_, hFailed, rfl⟩
  case converted =>
    rintro c n text rfl hAmount hPositive
    exact concludeConversion_of_positive hAmount fun h => hPositive (hMoney.symm.trans h)
  case token =>
    rintro c rfl hPrice
    exact concludeConversion_of_token (hMoney.trans hPrice)

/-! ## Converters -/

/-- The converter answers once, and its answer is concluded. -/
theorem atomicAmountM_eq {m : Type → Type} [Monad m] [LawfulMonad m]
    (convert : Price → String → m (Except Failure Conversion)) (price : Price) (network : String) :
    atomicAmountM convert price network =
      concludeConversion price.forConversion <$> convert price.forConversion network := by
  unfold atomicAmountM
  rw [map_eq_pure_bind]

theorem atomicAmount_eq (convert : Converter) (price : Price) (network : String) :
    atomicAmount convert price network =
      concludeConversion price.forConversion (convert price.forConversion network) := by
  unfold atomicAmount
  simp only
  cases convert price.forConversion network <;> rfl

/-- A converter that does nothing but answer. -/
theorem atomicAmountM_pure (convert : Converter) (price : Price) (network : String) :
    atomicAmountM (m := Id) (fun p n => pure (convert p n)) price network =
      pure (atomicAmount convert price network) := by
  rw [atomicAmountM_eq, atomicAmount_eq]
  rfl

/-- **A converter is asked once, and its answer decides.** Whatever else it does, it is called with
the price as it is handed over, where a floating-point number is written without exponent. Of the
prices that a route can have, only integers with too many digits cannot be shown
(`isUnshowable_eq_true_iff`). -/
theorem atomicAmountM_outcome {m : Type → Type} [Monad m] [LawfulMonad m]
    (convert : Price → String → m (Except Failure Conversion)) (price : Price) (network : String)
    (hShown : price.isUnshowable = false) :
    ∃ conclude : Except Failure Conversion → Except Failure AtomicAmount,
      atomicAmountM convert price network = conclude <$> convert price.forConversion network ∧
        ∀ answer, Concludes price answer (conclude answer) :=
  ⟨concludeConversion price.forConversion, atomicAmountM_eq convert price network,
    concludes_concludeConversion hShown⟩

/-- A converter that notes what it is asked and finds the price at fault. -/
def noting (price : Price) (network : String) :
    StateM (List (Price × String)) (Except Failure Conversion) := do
  modify (· ++ [(price, network)])
  return .error (.raised .unicode "no such price")

/-- One half. -/
def half : Binary64 :=
  .finite false (Nat.pow 2 52) (-53) (by decide)

theorem atomicAmountM_outcome_half :
    (Price.float half).isUnshowable = false ∧
      ((atomicAmountM noting (.float half) "base").run []).2 = [(.text "0.5", "base")] ∧
      ∃ error, ((atomicAmountM noting (.float half) "base").run []).1 = .error (.setup error) ∧
        error.message = ("no such price" : String) := by
  have hText : half.fixedText = "0.5" := by decide +kernel
  have hNotArithmetic : ¬ (Failure.raised .unicode "no such price").IsA .arithmetic :=
    fun h => Bool.noConfusion (Failure.isArithmetic_iff.mpr h)
  have hValue : (Failure.raised .unicode "no such price").IsA .value := .raised .unicode
  obtain ⟨conclude, hOnce, hOutcome⟩ := atomicAmountM_outcome noting (.float half) "base" rfl
  rw [hOnce]
  refine ⟨rfl, ?_, (hOutcome _).value _ rfl hNotArithmetic hValue⟩
  show [(Price.text half.fixedText, "base")] = _
  rw [hText]

end Payment

end Tollgate
