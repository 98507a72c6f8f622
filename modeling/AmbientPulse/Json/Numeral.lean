import AmbientPulse.Json.Fault

namespace AmbientPulse.Json

/-- A number as it is written: an integer of 64 bits, or else a double. -/
inductive Numeral where
  | integer (n : Int)
  | float (x : Number.Double)
  deriving DecidableEq, Repr

def Numeral.found : Numeral → Found
  | integer n => .integer n
  | float x => .float x

def digitValue (c : Char) : Nat :=
  c.toNat - '0'.toNat

/-- Take digits into a 64-bit significand while they fit, and leave the others. -/
def takeDigits (significand : Nat) : List Char → Nat × List Char
  | [] => (significand, [])
  | c :: cs =>
    if significand * 10 + digitValue c < 18446744073709551616
    then takeDigits (significand * 10 + digitValue c) cs
    else (significand, c :: cs)

def floating (negative : Bool) (significand : Nat) (exponent : Int) (cs : List Char) :
    Except Fault (Numeral × List Char) :=
  match Number.Double.ofScientific? negative significand exponent with
  | none => .error .malformed
  | some x => .ok (.float x, cs)

/-- The exponent's digits, from after the `e` and its sign. -/
def readExponentDigits (negative : Bool) (significand : Nat) (exponent : Int) (downward : Bool) :
    List Char → Except Fault (Numeral × List Char)
  | [] => .error .cut
  | c :: cs =>
    if c.isDigit then
      let ds := (c :: cs).takeWhile Char.isDigit
      let n : Int := Nat.ofDigitChars 10 ds 0
      floating negative significand (if downward then exponent - n else exponent + n)
        ((c :: cs).dropWhile Char.isDigit)
    else .error .malformed

def readExponent (negative : Bool) (significand : Nat) (exponent : Int) :
    List Char → Except Fault (Numeral × List Char)
  | '+' :: cs => readExponentDigits negative significand exponent false cs
  | '-' :: cs => readExponentDigits negative significand exponent true cs
  | cs => readExponentDigits negative significand exponent false cs

def readScale (negative : Bool) (significand : Nat) (exponent : Int) :
    List Char → Except Fault (Numeral × List Char)
  | 'e' :: cs => readExponent negative significand exponent cs
  | 'E' :: cs => readExponent negative significand exponent cs
  | cs => floating negative significand exponent cs

/-- The places after the point. Those that the significand has no room for do not count. -/
def readFraction (negative : Bool) (significand : Nat) (exponent : Int) (cs : List Char) :
    Except Fault (Numeral × List Char) :=
  let ds := cs.takeWhile Char.isDigit
  let rest := cs.dropWhile Char.isDigit
  if ds.isEmpty then .error (if rest.isEmpty then .cut else .malformed)
  else
    let taken := takeDigits significand ds
    readScale negative taken.1 (exponent - (ds.length - taken.2.length : Nat)) rest

/-- A negative zero, and what lies below the 64-bit integers, is floating. -/
def wholeNumber (negative : Bool) (significand : Nat) (cs : List Char) :
    Except Fault (Numeral × List Char) :=
  if negative then
    if 0 < significand ∧ significand ≤ 9223372036854775808
    then .ok (.integer (-significand), cs)
    else floating true significand 0 cs
  else .ok (.integer significand, cs)

/-- What follows the digits before the point, of which `surplus` had no room. -/
def readTail (negative : Bool) (significand surplus : Nat) :
    List Char → Except Fault (Numeral × List Char)
  | '.' :: cs => readFraction negative significand surplus cs
  | 'e' :: cs => readExponent negative significand surplus cs
  | 'E' :: cs => readExponent negative significand surplus cs
  | cs =>
    if surplus = 0 then wholeNumber negative significand cs
    else floating negative significand surplus cs

def readUnsigned (negative : Bool) : List Char → Except Fault (Numeral × List Char)
  | [] => .error .cut
  | '0' :: cs =>
    match cs with
    | c :: _ => if c.isDigit then .error .malformed else readTail negative 0 0 cs
    | [] => readTail negative 0 0 []
  | c :: cs =>
    if c.isDigit then
      let taken := takeDigits 0 ((c :: cs).takeWhile Char.isDigit)
      readTail negative taken.1 taken.2.length ((c :: cs).dropWhile Char.isDigit)
    else .error .malformed

def readNumeral : List Char → Except Fault (Numeral × List Char)
  | '-' :: cs => readUnsigned true cs
  | cs => readUnsigned false cs

end AmbientPulse.Json
