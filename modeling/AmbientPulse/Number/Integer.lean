namespace AmbientPulse.Number

/-- A natural number in decimal: one or more ASCII digits, leading zeros allowed. -/
def natural? (cs : List Char) : Option Nat :=
  if cs.isEmpty || !cs.all Char.isDigit then none else some (Nat.ofDigitChars 10 cs 0)

/-- A natural number with an optional plus sign. -/
def unsigned? : List Char → Option Nat
  | '+' :: ds => natural? ds
  | ds => natural? ds

/-- An integer with an optional sign. -/
def signed? : List Char → Option Int
  | '-' :: ds => (natural? ds).map fun n => -(n : Int)
  | ds => (unsigned? ds).map Int.ofNat

def fitsInt32 (n : Int) : Bool :=
  -2147483648 ≤ n && n ≤ 2147483647

def int32? (cs : List Char) : Option Int32 :=
  ((signed? cs).filter fitsInt32).map Int32.ofInt

def uint64? (cs : List Char) : Option UInt64 :=
  ((unsigned? cs).filter (· < 18446744073709551616)).map UInt64.ofNat

end AmbientPulse.Number
