import AmbientPulse.Json.Lexeme
import AmbientPulse.Json.Quotation

namespace AmbientPulse.Json

/-- A container that is still open. -/
inductive Frame where
  | array
  | object
  deriving DecidableEq, Repr

/-- How far a number has come. -/
inductive NumberPart where
  | sign
  | zero
  | integer
  | point
  | fraction
  | exponentMark
  | exponentSign
  | exponent
  deriving DecidableEq, Repr

def NumberPart.mayEnd : NumberPart → Bool
  | zero | integer | fraction | exponent => true
  | sign | point | exponentMark | exponentSign => false

def NumberPart.next? (part : NumberPart) (c : Char) : Option NumberPart :=
  match part with
  | sign => if c = '0' then some zero else if c.isDigit then some integer else none
  | zero =>
    if c = '.' then some point else if c = 'e' ∨ c = 'E' then some exponentMark else none
  | integer =>
    if c.isDigit then some integer else if c = '.' then some point
    else if c = 'e' ∨ c = 'E' then some exponentMark else none
  | point => if c.isDigit then some fraction else none
  | fraction =>
    if c.isDigit then some fraction else if c = 'e' ∨ c = 'E' then some exponentMark else none
  | exponentMark =>
    if c = '+' ∨ c = '-' then some exponentSign else if c.isDigit then some exponent else none
  | exponentSign | exponent => if c.isDigit then some exponent else none

/-- How far a string has come. -/
inductive StringPart where
  | plain
  | escape
  | digits (left : Nat)
  deriving DecidableEq, Repr

/-- What is expected next. `item` and `member` follow an opening bracket, which may be closed again
at once. -/
inductive Mode where
  | value
  | item
  | member
  | key
  | colon
  | done
  | word (rest : List Char)
  | string (part : StringPart) (key : Bool)
  | number (part : NumberPart)
  deriving DecidableEq, Repr

/-- What one character does. A value may end with it or just before it. -/
inductive Move where
  | go (mode : Mode) (frames : List Frame)
  | ended
  | endedBefore
  | fault (f : Fault)

/-- A value has just ended with this character. -/
def Move.close : List Frame → Move
  | [] => .ended
  | frames => .go .done frames

def startValue (c : Char) (frames : List Frame) : Move :=
  if c = '"' then .go (.string .plain false) frames
  else if c = '[' then .go .item (.array :: frames)
  else if c = '{' then .go .member (.object :: frames)
  else if c = 't' then .go (.word ['r', 'u', 'e']) frames
  else if c = 'f' then .go (.word ['a', 'l', 's', 'e']) frames
  else if c = 'n' then .go (.word ['u', 'l', 'l']) frames
  else if c = '-' then .go (.number .sign) frames
  else if c = '0' then .go (.number .zero) frames
  else if c.isDigit then .go (.number .integer) frames
  else .fault .malformed

/-- After a value: a comma, or the bracket that closes the innermost container. -/
def afterValue (c : Char) : List Frame → Move
  | [] => .endedBefore
  | .array :: frames =>
    if isSpace c then .go .done (.array :: frames)
    else if c = ',' then .go .value (.array :: frames)
    else if c = ']' then .close frames
    else .fault .malformed
  | .object :: frames =>
    if isSpace c then .go .done (.object :: frames)
    else if c = ',' then .go .key (.object :: frames)
    else if c = '}' then .close frames
    else .fault .malformed

def closeString (key : Bool) (frames : List Frame) : Move :=
  if key then .go .colon frames else .close frames

def isSimpleEscape (c : Char) : Bool :=
  (simpleEscape? c).isSome

/-- One character of a string. `rest` is what follows it. -/
def stringMove (part : StringPart) (key : Bool) (frames : List Frame) (c : Char)
    (rest : List Char) : Move :=
  match part with
  | .plain =>
    if c = '"' then closeString key frames
    else if c = '\\' then .go (.string .escape key) frames
    else if isControl c then .fault .malformed
    else .go (.string .plain key) frames
  | .escape =>
    if c = 'u' then
      if shortUnit rest = .cut then .fault .cut else .go (.string (.digits 4) key) frames
    else if isSimpleEscape c then .go (.string .plain key) frames
    else .fault .malformed
  | .digits left =>
    if (hexDigit? c).isSome then
      .go (.string (if left ≤ 1 then .plain else .digits (left - 1)) key) frames
    else .fault .malformed

def move (mode : Mode) (frames : List Frame) (c : Char) (rest : List Char) : Move :=
  match mode with
  | .value => if isSpace c then .go .value frames else startValue c frames
  | .item =>
    if isSpace c then .go .item frames
    else if c = ']' then .close frames.tail
    else startValue c frames
  | .member =>
    if isSpace c then .go .member frames
    else if c = '}' then .close frames.tail
    else if c = '"' then .go (.string .plain true) frames
    else .fault .malformed
  | .key =>
    if isSpace c then .go .key frames
    else if c = '"' then .go (.string .plain true) frames
    else .fault .malformed
  | .colon =>
    if isSpace c then .go .colon frames
    else if c = ':' then .go .value frames
    else .fault .malformed
  | .done => afterValue c frames
  | .word [] => .fault .malformed
  | .word [w] => if c = w then .close frames else .fault .malformed
  | .word (w :: ws) => if c = w then .go (.word ws) frames else .fault .malformed
  | .string part key => stringMove part key frames c rest
  | .number part =>
    match part.next? c with
    | some part => .go (.number part) frames
    | none =>
      if !part.mayEnd then .fault .malformed
      else if part = .zero ∧ c.isDigit then .fault .malformed
      else afterValue c frames

/-- At the end of the text. An unfinished number is malformed, all else that is open is cut off. -/
def atEnd (mode : Mode) (frames : List Frame) : Except Fault (List Char) :=
  match mode with
  | .number part =>
    if !part.mayEnd then .error .malformed
    else if frames.isEmpty then .ok [] else .error .cut
  | _ => .error .cut

/-- Pass over a value, keeping nothing of it but what is still open. -/
def skim (mode : Mode) (frames : List Frame) : List Char → Except Fault (List Char)
  | [] => atEnd mode frames
  | c :: cs =>
    match move mode frames c cs with
    | .go mode frames => skim mode frames cs
    | .ended => .ok cs
    | .endedBefore => .ok (c :: cs)
    | .fault f => .error f

def skimValue (cs : List Char) : Except Fault (List Char) :=
  skim .value [] cs

end AmbientPulse.Json
