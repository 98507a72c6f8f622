namespace AmbientPulse.Number

/-- A binary floating-point format. Its finite magnitudes are `significand * 2 ^ exponent` with
`significand < 2 ^ precision` and `minExponent ≤ exponent ≤ maxExponent`. -/
structure Format where
  precision : Nat
  minExponent : Int
  maxExponent : Int

def Format.single : Format := ⟨24, -149, 104⟩

def Format.double : Format := ⟨53, -1074, 971⟩

/-- The number `significand * 2 ^ exponent`. -/
structure Magnitude where
  significand : Nat
  exponent : Int
  deriving DecidableEq, Repr

def Magnitude.num (m : Magnitude) : Nat :=
  m.significand * Nat.pow 2 m.exponent.toNat

def Magnitude.den (m : Magnitude) : Nat :=
  Nat.pow 2 (-m.exponent).toNat

/-- The natural number nearest to a quotient. A half goes to the even neighbour. -/
def divNearest (n d : Nat) : Nat :=
  if 2 * (n % d) < d ∨ (2 * (n % d) = d ∧ n / d % 2 = 0) then n / d else n / d + 1

namespace Format

/-- The exponent with which the format writes magnitudes as large as `num / den`. -/
def quantum (f : Format) (num den : Nat) : Int :=
  let e := max f.minExponent ((num.log2 : Int) - den.log2 - f.precision)
  if num * Nat.pow 2 (-e).toNat < Nat.pow 2 f.precision * (den * Nat.pow 2 e.toNat) then e
  else e + 1

/-- The magnitude nearest to `num / den`, ties to even, or `none` if it is beyond the format. -/
def nearest (f : Format) (num den : Nat) : Option Magnitude :=
  if num = 0 then some ⟨0, f.minExponent⟩
  else
    let e := f.quantum num den
    let s := divNearest (num * Nat.pow 2 (-e).toNat) (den * Nat.pow 2 e.toNat)
    let m : Magnitude :=
      if s = Nat.pow 2 f.precision then ⟨Nat.pow 2 (f.precision - 1), e + 1⟩ else ⟨s, e⟩
    if m.exponent ≤ f.maxExponent then some m else none

end Format

end AmbientPulse.Number
