import Mathlib.Algebra.Order.Field.Power
import Mathlib.Algebra.Order.Monoid.WithTop
import Mathlib.Data.Rat.Cast.Order
import Mathlib.Tactic.FieldSimp
import Mathlib.Tactic.NormNum
import Mathlib.Tactic.Positivity
import Mathlib.Tactic.Ring
import AmbientPulse.Number.Single

namespace AmbientPulse.Number

theorem zpow_eq_div (b : ℚ) (e : ℤ) : b ^ e = b ^ e.toNat / b ^ (-e).toNat := by
  obtain ⟨n, rfl | rfl⟩ := e.eq_nat_or_neg
  · simp
  · simp

def signed (negative : Bool) (r : ℚ) : ℚ :=
  if negative then -r else r

def Magnitude.value (m : Magnitude) : ℚ :=
  m.significand * 2 ^ m.exponent

theorem Magnitude.num_div_den (m : Magnitude) : (m.num : ℚ) / m.den = m.value := by
  rw [value, zpow_eq_div, num, den, Nat.cast_mul, Nat.pow_eq, Nat.pow_eq]
  push_cast
  rw [mul_div_assoc]

namespace Single

def isNaN (x : Single) : Bool :=
  x.exponentField = 255 ∧ x.fractionField ≠ 0

def isFinite (x : Single) : Bool :=
  x.exponentField ≠ 255

/-- The magnitude that the fields of a pattern stand for. That of an infinity is the one that would
follow the greatest number. -/
def size (x : Single) : ℚ :=
  if x.exponentField = 0 then 2 ^ (-126 : ℤ) * (x.fractionField / 2 ^ 23)
  else 2 ^ ((x.exponentField : ℤ) - 127) * (1 + x.fractionField / 2 ^ 23)

def value (x : Single) : ℚ :=
  signed x.negative x.size

/-- Where a single lies on the extended line. -/
def point? (x : Single) : Option (WithBot (WithTop ℚ)) :=
  if x.isNaN then none
  else if x.isFinite then some ((x.value : WithTop ℚ) : WithBot (WithTop ℚ))
  else some (if x.negative then ⊥ else ⊤)

theorem exponentField_lt (x : Single) : x.exponentField < 256 :=
  Nat.mod_lt _ (by decide)

theorem fractionField_lt (x : Single) : x.fractionField < 8388608 :=
  Nat.mod_lt _ (by decide)

theorem point?_of_isFinite {x : Single} (h : x.isFinite = true) :
    x.point? = some ((x.value : WithTop ℚ) : WithBot (WithTop ℚ)) := by
  have hn : x.isNaN = false := by
    have he : x.exponentField ≠ 255 := by simpa [isFinite] using h
    simp [isNaN, he]
  simp [point?, hn, h]

/-- The three fields are all there is. -/
theorem toNat_bits (x : Single) :
    x.bits.toNat =
      x.negative.toNat * 2147483648 + x.exponentField * 8388608 + x.fractionField := by
  have h := x.bits.toNat_lt
  unfold negative exponentField fractionField
  by_cases hs : 2147483648 ≤ x.bits.toNat
  · rw [decide_eq_true hs, Bool.toNat_true]
    omega
  · rw [decide_eq_false hs, Bool.toNat_false]
    omega

theorem ext_fields {x y : Single} (hs : x.negative = y.negative)
    (he : x.exponentField = y.exponentField) (hf : x.fractionField = y.fractionField) : x = y := by
  have h : x.bits.toNat = y.bits.toNat := by rw [toNat_bits, toNat_bits, hs, he, hf]
  cases x
  cases y
  exact congrArg Single.mk (UInt32.toNat_inj.mp h)

/-- The size of a pattern as the format writes it. -/
def magnitude (x : Single) : Magnitude :=
  if x.exponentField = 0 then ⟨x.fractionField, -149⟩
  else ⟨x.fractionField + 8388608, (x.exponentField : ℤ) - 150⟩

theorem datum_eq (x : Single) :
    x.datum =
      if x.isNaN then .nan
      else if x.isFinite then .finite x.negative x.magnitude else .infinite x.negative := by
  unfold datum isNaN isFinite magnitude
  by_cases he : x.exponentField = 255
  · by_cases hf : x.fractionField = 0 <;> simp [he, hf]
  · by_cases h₀ : x.exponentField = 0 <;> simp [he, h₀]

theorem value_magnitude (x : Single) : x.magnitude.value = x.size := by
  have h23 : (2 : ℚ) ^ (23 : ℕ) ≠ 0 := by positivity
  unfold magnitude size Magnitude.value
  split
  · have hp : (2 : ℚ) ^ (-126 : ℤ) = 2 ^ (-149 : ℤ) * 2 ^ (23 : ℕ) := by norm_num
    rw [hp, mul_assoc, mul_div_cancel₀ _ h23, mul_comm]
  · have hp : (2 : ℚ) ^ ((x.exponentField : ℤ) - 127) =
        2 ^ ((x.exponentField : ℤ) - 150) * 2 ^ (23 : ℕ) := by
      rw [← zpow_natCast, ← zpow_add₀ two_ne_zero]
      congr 1
      omega
    rw [hp, mul_assoc, mul_add, mul_div_cancel₀ _ h23, mul_comm]
    push_cast
    ring

end Single

end AmbientPulse.Number
