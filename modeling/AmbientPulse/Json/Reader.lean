import AmbientPulse.Json.Lexeme
import AmbientPulse.Json.Quotation
import AmbientPulse.Json.Numeral

namespace AmbientPulse.Json

def mismatch {α : Type} (m : Mismatch) : Except Fault α :=
  .error (.mismatch m)

/-- The fault of a value that is of no kind looked for. It is read first, and may be faulty itself. -/
def wrongKind {α : Type} (expected : String) : List Char → Except Fault α
  | [] => .error .cut
  | '[' :: _ => mismatch (.wrongKind .sequence expected)
  | '{' :: _ => mismatch (.wrongKind .map expected)
  | '"' :: cs => (readText cs).bind fun r => mismatch (.wrongKind (.text r.1) expected)
  | 'n' :: cs => (readWord ['u', 'l', 'l'] cs).bind fun _ => mismatch (.wrongKind .null expected)
  | 't' :: cs =>
    (readWord ['r', 'u', 'e'] cs).bind fun _ => mismatch (.wrongKind (.boolean true) expected)
  | 'f' :: cs =>
    (readWord ['a', 'l', 's', 'e'] cs).bind fun _ =>
      mismatch (.wrongKind (.boolean false) expected)
  | c :: cs =>
    if c = '-' ∨ c.isDigit then
      (readNumeral (c :: cs)).bind fun r => mismatch (.wrongKind r.1.found expected)
    else .error .malformed

def readBool : Reader Bool := fun cs =>
  match skipSpace cs with
  | 't' :: cs => (readWord ['r', 'u', 'e'] cs).map fun cs => (true, cs)
  | 'f' :: cs => (readWord ['a', 'l', 's', 'e'] cs).map fun cs => (false, cs)
  | cs => wrongKind "a boolean" cs

def readString : Reader String := fun cs =>
  match skipSpace cs with
  | '"' :: cs => readText cs
  | cs => wrongKind "a string" cs

/-- A range of integers and its name. -/
structure Range where
  name : String
  least : Int
  greatest : Int

def Range.int32 : Range := ⟨"i32", -2147483648, 2147483647⟩

def Range.uint32 : Range := ⟨"u32", 0, 4294967295⟩

def Range.size : Range := ⟨"usize", 0, 18446744073709551615⟩

def Range.accept (range : Range) : Numeral → Except Fault Int
  | .integer n =>
    if range.least ≤ n ∧ n ≤ range.greatest then .ok n else mismatch (.outOfRange n range.name)
  | .float x => mismatch (.wrongKind (.float x) range.name)

def readInteger (range : Range) : Reader Int := fun cs =>
  match skipSpace cs with
  | [] => .error .cut
  | c :: cs =>
    if c = '-' ∨ c.isDigit then
      (readNumeral (c :: cs)).bind fun r => (range.accept r.1).map fun n => (n, r.2)
    else wrongKind range.name (c :: cs)

section Names

/-- The values of a type and what a document calls them. -/
structure Naming (α : Type) where
  all : List α
  name : α → String

variable {α : Type}

def Naming.find (naming : Naming α) (s : String) : Except Fault α :=
  match naming.all.find? (naming.name · == s) with
  | some a => .ok a
  | none => mismatch (.unknownName s (naming.all.map naming.name))

def readName (naming : Naming α) : Reader α := fun cs =>
  (readText cs).bind fun r => (naming.find r.1).map fun a => (a, r.2)

def readNull (cs : List Char) : Except Fault (List Char) :=
  match skipSpace cs with
  | 'n' :: cs => readWord ['u', 'l', 'l'] cs
  | cs => wrongKind "unit" cs

def readClosingBrace (cs : List Char) : Except Fault (List Char) :=
  match skipSpace cs with
  | [] => .error .cut
  | '}' :: cs => .ok cs
  | _ :: _ => .error .malformed

/-- A name, or an object whose one member has the name as its key and null as its value. Whatever
else begins is malformed, even where it is cut short itself. That goes for the place of the key as
well: a key has to be a string before anything is asked about its kind. -/
def readNamed (naming : Naming α) : Reader α := fun cs =>
  match skipSpace cs with
  | [] => .error .cut
  | '"' :: cs => readName naming cs
  | '{' :: cs =>
    match skipSpace cs with
    | '"' :: cs => do
      let r ← readName naming cs
      let cs ← readColon r.2
      let cs ← readNull cs
      let cs ← readClosingBrace cs
      return (r.1, cs)
    | [] => .error .cut
    | _ :: _ => .error .malformed
  | _ :: _ => .error .malformed

end Names

/-- A text that holds one value and white space around it. -/
def readDocument {α : Type} (r : Reader α) (text : String) : Except Fault α := do
  let r ← r text.toList
  if (skipSpace r.2).isEmpty then return r.1 else throw .malformed

end AmbientPulse.Json
