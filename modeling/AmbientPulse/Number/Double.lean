import AmbientPulse.Number.Shortest

namespace AmbientPulse.Number

/-- A finite 64-bit floating-point number. -/
structure Double where
  negative : Bool
  magnitude : Magnitude
  deriving DecidableEq, Repr

def mulNearest (a b : Magnitude) : Option Magnitude :=
  Format.double.nearest (a.num * b.num) (a.den * b.den)

def divideNearest (a b : Magnitude) : Option Magnitude :=
  Format.double.nearest (a.num * b.den) (a.den * b.num)

def powerOfTen (n : Nat) : Magnitude :=
  (Format.double.nearest (Nat.pow 10 n) 1).getD ⟨0, 0⟩

def maxPower : Nat := 308

/-- Divide by `10 ^ 308` again and again. Nothing is left to divide once the quotient is zero. -/
def divideRepeatedly : Nat → Magnitude → Magnitude
  | 0, m => m
  | n + 1, m =>
    if m.significand = 0 then m
    else divideRepeatedly n ((divideNearest m (powerOfTen maxPower)).getD m)

/-- Multiply by a power of ten. Beyond `10 ^ -308` this goes in several steps with a rounding each. -/
def scaleByTen (m : Magnitude) (e : Int) : Option Magnitude :=
  if 0 ≤ e then
    if e ≤ maxPower then mulNearest m (powerOfTen e.toNat)
    else if m.significand = 0 then some m
    else none
  else
    let steps := (e.natAbs - 1) / maxPower
    divideNearest (divideRepeatedly steps m) (powerOfTen (e.natAbs - steps * maxPower))

namespace Double

/-- The number `± significand * 10 ^ exponent` as it is read, or `none` if it is too large. -/
def ofScientific? (negative : Bool) (significand : Nat) (exponent : Int) : Option Double :=
  (Format.double.nearest significand 1).bind fun m =>
    (scaleByTen m exponent).map fun m => ⟨negative, m⟩

def exponentText (e : Int) : List Char :=
  'e' :: (if e < 0 then '-' else '+') :: Nat.toDigits 10 e.natAbs

/-- The shortest digits: positional from `0.00001` to below `1e+16`, with at least one place, and
with a signed exponent elsewhere. -/
def text (x : Double) : String :=
  let d := Format.double.shortest .toEven x.magnitude
  let ds := Nat.toDigits 10 d.coefficient
  let point := (ds.length : Int) + d.exponent
  let sign := if x.negative then ['-'] else []
  String.ofList <| sign ++
    if -5 < point ∧ point ≤ 16 then
      if 0 ≤ d.exponent then d.positional ++ ['.', '0'] else d.positional
    else
      match ds with
      | [c] => c :: exponentText (point - 1)
      | c :: cs => c :: '.' :: (cs ++ exponentText (point - 1))
      | [] => []

end Double

end AmbientPulse.Number
