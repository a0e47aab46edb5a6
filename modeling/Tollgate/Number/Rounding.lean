set_option autoImplicit false

/-!
# Rounding a quotient

The nearest whole number to a quotient of two natural numbers. The main statement is that the
result is at most half a unit away.
-/

namespace Tollgate.Number

/-- The whole number nearest to `num / den`; a half goes to the even neighbour. -/
def roundDiv (num den : Nat) : Nat :=
  let q := num / den
  let r := num % den
  if 2 * r < den then q
  else if den < 2 * r then q + 1
  else if q % 2 = 0 then q
  else q + 1

/-- A quotient that is whole is its own rounding. -/
theorem roundDiv_mul_self {den : Nat} (hden : 0 < den) (q : Nat) :
    roundDiv (q * den) den = q := by
  have hq : q * den / den = q := Nat.mul_div_cancel q hden
  have hr : q * den % den = 0 := Nat.mul_mod_left q den
  simp [roundDiv, hq, hr, hden]

/-- The rounding is at most half a unit below or above the quotient. -/
theorem roundDiv_near {num den : Nat} (hden : 0 < den) :
    2 * num ≤ (2 * roundDiv num den + 1) * den ∧
      2 * roundDiv num den * den ≤ 2 * num + den := by
  have hdiv : den * (num / den) + num % den = num := Nat.div_add_mod num den
  have hcomm : num / den * den = den * (num / den) := Nat.mul_comm _ _
  simp only [roundDiv]
  split
  · constructor <;> simp only [Nat.add_mul, Nat.mul_assoc, Nat.one_mul] <;> omega
  · split
    · have hlt : num % den < den := Nat.mod_lt _ hden
      constructor <;> simp only [Nat.add_mul, Nat.mul_add, Nat.mul_assoc, Nat.one_mul] <;> omega
    · split <;> constructor <;>
        simp only [Nat.add_mul, Nat.mul_add, Nat.mul_assoc, Nat.one_mul] <;> omega

end Tollgate.Number
