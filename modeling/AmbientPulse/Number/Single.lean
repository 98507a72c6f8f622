import AmbientPulse.Number.Shortest

namespace AmbientPulse.Number

inductive Datum where
  | nan
  | infinite (negative : Bool)
  | finite (negative : Bool) (magnitude : Magnitude)
  deriving DecidableEq, Repr

/-- A 32-bit floating-point number, kept as its bit pattern. -/
structure Single where
  bits : UInt32
  deriving DecidableEq, Repr

namespace Single

def negative (x : Single) : Bool :=
  2147483648 ≤ x.bits.toNat

def exponentField (x : Single) : Nat :=
  x.bits.toNat / 8388608 % 256

def fractionField (x : Single) : Nat :=
  x.bits.toNat % 8388608

def datum (x : Single) : Datum :=
  if x.exponentField = 255 then
    if x.fractionField = 0 then .infinite x.negative else .nan
  else if x.exponentField = 0 then .finite x.negative ⟨x.fractionField, -149⟩
  else .finite x.negative ⟨x.fractionField + 8388608, (x.exponentField : Int) - 150⟩

/-- The single with a sign and a magnitude of the format, or the infinity where there is none. -/
def encode (negative : Bool) (m : Option Magnitude) : Single :=
  let sign := if negative then 2147483648 else 0
  match m with
  | none => ⟨UInt32.ofNat (sign + 2139095040)⟩
  | some m =>
    if m.significand < 8388608 then ⟨UInt32.ofNat (sign + m.significand)⟩
    else ⟨UInt32.ofNat (sign + (m.exponent + 150).toNat * 8388608 + (m.significand - 8388608))⟩

/-- The single nearest to `num / den`. -/
def ofRatio (negative : Bool) (num den : Nat) : Single :=
  encode negative (Format.single.nearest num den)

def ofNat (n : Nat) : Single :=
  ofRatio false n 1

/-- Toward zero, clamped to the range. No number counts as zero. -/
def truncate (x : Single) : Int32 :=
  match x.datum with
  | .nan => 0
  | .infinite negative => if negative then Int32.minValue else Int32.maxValue
  | .finite negative m =>
    let n : Int := m.num / m.den
    Int32.ofInt (max (-2147483648) (min 2147483647 (if negative then -n else n)))

def signText (negative : Bool) : List Char :=
  if negative then ['-'] else []

def text (x : Single) : String :=
  String.ofList <| match x.datum with
    | .nan => ['N', 'a', 'N']
    | .infinite negative => signText negative ++ ['i', 'n', 'f']
    | .finite negative m => signText negative ++ (Format.single.shortest .up m).positional

end Single

end AmbientPulse.Number
