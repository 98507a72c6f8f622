import AmbientPulse.Json.Fault

namespace AmbientPulse.Json

/-- Characters below the space must not stand bare in a string. -/
def isControl (c : Char) : Bool :=
  c.toNat < 32

def hexDigit? (c : Char) : Option Nat :=
  if '0' ≤ c ∧ c ≤ '9' then some (c.toNat - '0'.toNat)
  else if 'a' ≤ c ∧ c ≤ 'f' then some (c.toNat - 'a'.toNat + 10)
  else if 'A' ≤ c ∧ c ≤ 'F' then some (c.toNat - 'A'.toNat + 10)
  else none

/-- The UTF-16 unit written with four hexadecimal digits. -/
def hexUnit? (a b c d : Char) : Option Nat :=
  match hexDigit? a, hexDigit? b, hexDigit? c, hexDigit? d with
  | some a, some b, some c, some d => some (((a * 16 + b) * 16 + c) * 16 + d)
  | _, _, _, _ => none

def isHighSurrogate (u : Nat) : Bool :=
  0xD800 ≤ u && u ≤ 0xDBFF

def isLowSurrogate (u : Nat) : Bool :=
  0xDC00 ≤ u && u ≤ 0xDFFF

def surrogatePair (high low : Nat) : Char :=
  Char.ofNat (0x10000 + (high - 0xD800) * 0x400 + (low - 0xDC00))

def simpleEscape? : Char → Option Char
  | '"' => some '"'
  | '\\' => some '\\'
  | '/' => some '/'
  | 'b' => some '\x08'
  | 'f' => some '\x0c'
  | 'n' => some '\n'
  | 'r' => some '\r'
  | 't' => some '\t'
  | _ => none

/-- A unit's four digits are looked for among the next four bytes, and what has fewer is cut off. -/
def shortUnit (cs : List Char) : Fault :=
  if (String.ofList cs).utf8ByteSize < 4 then .cut else .malformed

def prepend (c : Char) : Except Fault (List Char × List Char) → Except Fault (List Char × List Char)
  | .ok r => .ok (c :: r.1, r.2)
  | .error f => .error f

/-- The characters of a string, whose opening quote has been read, up to the closing one. -/
def readChars : List Char → Except Fault (List Char × List Char)
  | [] => .error .cut
  | '"' :: cs => .ok ([], cs)
  | '\\' :: 'u' :: a :: b :: c :: d :: cs =>
    match hexUnit? a b c d with
    | none => .error .malformed
    | some u =>
      if isLowSurrogate u then .error .malformed
      else if isHighSurrogate u then
        match cs with
        | [] => .error .cut
        | ['\\'] => .error .cut
        | '\\' :: 'u' :: e :: f :: g :: h :: cs =>
          match hexUnit? e f g h with
          | none => .error .malformed
          | some v =>
            if isLowSurrogate v then prepend (surrogatePair u v) (readChars cs)
            else .error .malformed
        | '\\' :: 'u' :: cs => .error (shortUnit cs)
        | _ => .error .malformed
      else prepend (Char.ofNat u) (readChars cs)
  | '\\' :: 'u' :: cs => .error (shortUnit cs)
  | ['\\'] => .error .cut
  | '\\' :: e :: cs =>
    match simpleEscape? e with
    | none => .error .malformed
    | some c => prepend c (readChars cs)
  | c :: cs => if isControl c then .error .malformed else prepend c (readChars cs)

def readText (cs : List Char) : Except Fault (String × List Char) :=
  (readChars cs).map fun r => (String.ofList r.1, r.2)

end AmbientPulse.Json
