import AmbientPulse.Number.Binary

namespace AmbientPulse.Number

/-- The number `coefficient * 10 ^ exponent`. -/
structure Decimal where
  coefficient : Nat
  exponent : Int
  deriving DecidableEq, Repr

namespace Decimal

def num (d : Decimal) : Nat :=
  d.coefficient * Nat.pow 10 d.exponent.toNat

def den (d : Decimal) : Nat :=
  Nat.pow 10 (-d.exponent).toNat

/-- All digits, with a point where one is needed and never an exponent. -/
def positional (d : Decimal) : List Char :=
  let ds := Nat.toDigits 10 d.coefficient
  let places := (-d.exponent).toNat
  if places = 0 then ds ++ List.replicate d.exponent.toNat '0'
  else if places < ds.length then
    ds.take (ds.length - places) ++ '.' :: ds.drop (ds.length - places)
  else '0' :: '.' :: (List.replicate (places - ds.length) '0' ++ ds)

end Decimal

/-- Which of two equally near decimals is written. -/
inductive Tie where
  | up
  | toEven
  deriving DecidableEq

/-- The reals that a format rounds to one magnitude, in quarters of its quantum. The ends belong to
them iff `closed`. -/
structure Span where
  low : Nat
  middle : Nat
  high : Nat
  closed : Bool

/-- Below a power of two the next magnitude is only half as far away. -/
def Format.span (f : Format) (m : Magnitude) : Span where
  low :=
    if m.significand = Nat.pow 2 (f.precision - 1) ∧ f.minExponent < m.exponent
    then 4 * m.significand - 1 else 4 * m.significand - 2
  middle := 4 * m.significand
  high := 4 * m.significand + 2
  closed := m.significand % 2 = 0

/-- The points of a decimal grid, measured against a span: a span's unit is `scale` and a step of
the grid is `step`. -/
structure Grid where
  step : Nat
  scale : Nat

/-- The multiples of `10 ^ k` beside quarters of `2 ^ e`. -/
def Grid.ofExponents (k e : Int) : Grid :=
  ⟨Nat.pow 10 k.toNat * Nat.pow 2 (2 - e).toNat, Nat.pow 10 (-k).toNat * Nat.pow 2 (e - 2).toNat⟩

namespace Grid

def contains (g : Grid) (s : Span) (c : Nat) : Bool :=
  if s.closed then s.low * g.scale ≤ c * g.step && c * g.step ≤ s.high * g.scale
  else s.low * g.scale < c * g.step && c * g.step < s.high * g.scale

def floor (g : Grid) (s : Span) : Nat :=
  s.middle * g.scale / g.step

/-- Whether the point after the floor is to be taken when both lie in the span. -/
def prefersNext (g : Grid) (s : Span) (tie : Tie) : Bool :=
  let c := g.floor s
  if 2 * (s.middle * g.scale) = (2 * c + 1) * g.step then
    match tie with
    | .up => true
    | .toEven => c % 2 = 1
  else (2 * c + 1) * g.step < 2 * (s.middle * g.scale)

/-- The point of the grid inside the span that is nearest to its middle. -/
def pick? (g : Grid) (s : Span) (tie : Tie) : Option Nat :=
  let c := g.floor s
  match g.contains s c, g.contains s (c + 1) with
  | true, true => some (if g.prefersNext s tie then c + 1 else c)
  | true, false => some c
  | false, true => some (c + 1)
  | false, false => none

end Grid

/-- Try ever finer grids. The last one holds the magnitude itself. -/
def shortestFrom (s : Span) (e : Int) (tie : Tie) : Nat → Int → Decimal
  | 0, k => ⟨(Grid.ofExponents k e).floor s, k⟩
  | n + 1, k =>
    match (Grid.ofExponents k e).pick? s tie with
    | some c => ⟨c, k⟩
    | none => shortestFrom s e tie n (k - 1)

/-- An exponent `k` with `m < 10 ^ k`, from `2 ^ n ≤ 10 ^ (31 n / 100 + 1)`. -/
def Magnitude.decimalTop (m : Magnitude) : Int :=
  let n := (m.significand.log2 : Int) + 1 + m.exponent
  if 0 ≤ n then n * 31 / 100 + 1 else -(-n * 3 / 10)

/-- The shortest decimal that a format rounds to the magnitude, and of those the nearest. -/
def Format.shortest (f : Format) (tie : Tie) (m : Magnitude) : Decimal :=
  if m.significand = 0 then ⟨0, 0⟩
  else
    let top := m.decimalTop
    shortestFrom (f.span m) m.exponent tie (top - min m.exponent 0).toNat top

end AmbientPulse.Number
