import AmbientPulse.Pattern.Cursor

namespace AmbientPulse.Pattern

def metaCharacters : List Char :=
  ['\\', '.', '+', '*', '?', '(', ')', '|', '[', ']', '{', '}', '^', '$', '#', '&', '-', '~']

/-- The characters that stand for themselves behind a backslash: all of ASCII but letters, digits and
the two that bound words. -/
def isEscapable (x : Char) : Bool :=
  x.toNat < 0x80 && !x.isAlphanum && x != '<' && x != '>'

def isHexDigit (x : Char) : Bool :=
  x.isDigit || ('a' ≤ x && x ≤ 'f') || ('A' ≤ x && x ≤ 'F')

def hexValue (digits : List Char) : Nat :=
  digits.foldl (fun n x =>
    n * 16 + if x.isDigit then x.toNat - 48 else if 'a' ≤ x then x.toNat - 87 else x.toNat - 55) 0

/-- The character with a given number, if there is one. -/
def scalar? (n : Nat) : Option Char :=
  if n < 0xD800 ∨ (0xDFFF < n ∧ n < 0x110000) then some (Char.ofNat n) else none

def controlLetter? : Char → Option Char
  | 'a' => some '\x07'
  | 'f' => some '\x0c'
  | 't' => some '\t'
  | 'n' => some '\n'
  | 'r' => some '\r'
  | 'v' => some '\x0b'
  | _ => none

def assertionLetter? : Char → Option Assertion
  | 'A' => some .textStart
  | 'z' => some .textEnd
  | 'b' => some .boundary
  | 'B' => some .noBoundary
  | '<' => some .wordStart
  | '>' => some .wordEnd
  | _ => none

def perlLetter? : Char → Option PerlClass
  | 'd' => some ⟨.digit, false⟩
  | 'D' => some ⟨.digit, true⟩
  | 's' => some ⟨.space, false⟩
  | 'S' => some ⟨.space, true⟩
  | 'w' => some ⟨.word, false⟩
  | 'W' => some ⟨.word, true⟩
  | _ => none

def hexLength? : Char → Option Nat
  | 'x' => some 2
  | 'u' => some 4
  | 'U' => some 8
  | _ => none

/-- A given number of hexadecimal digits. -/
def readHexDigits (spaced : Bool) : Nat → Cursor → Except Complaint (List Char × Cursor)
  | 0, c => .ok ([], c)
  | n + 1, c =>
    match c.rest with
    | [] => complain .escapeCut (.point c.place)
    | x :: _ =>
      if isHexDigit x then
        (readHexDigits spaced n (c.advance spaced)).map fun r => (x :: r.1, r.2)
      else complain .hexDigit c.charSpan

/-- A number between braces. -/
def readHexBraced (spaced : Bool) (start : Place) (c : Cursor) :
    Except Complaint (Literal × Cursor) :=
  let r := (c.advance spaced).takeWhile isHexDigit spaced
  match r.2.rest with
  | [] => complain .escapeCut ⟨c.place, r.2.place⟩
  | '}' :: _ =>
    let next := r.2.advance spaced
    if r.1.isEmpty then complain .hexEmpty ⟨c.place, next.place⟩
    else
      match scalar? (hexValue r.1) with
      | some x => .ok (⟨⟨start, next.place⟩, x, false⟩, next)
      | none => complain .hexNoScalar ⟨c.bump.place, r.2.place⟩
  | _ :: _ => complain .hexDigit r.2.charSpan

/-- A character by its number, behind a letter that says how many digits it has. -/
def readHex (spaced : Bool) (start : Place) (length : Nat) (c : Cursor) :
    Except Complaint (Literal × Cursor) :=
  let c := c.advance spaced
  match c.rest with
  | [] => complain .escapeCut (.point c.place)
  | '{' :: _ => readHexBraced spaced start c
  | _ :: _ => do
    let r ← readHexDigits spaced length c
    match scalar? (hexValue r.1) with
    | some x => return (⟨⟨start, r.2.place⟩, x, length == 2⟩, r.2)
    | none => complain .hexNoScalar ⟨c.place, r.2.place⟩

/-- The name of a property: one character, or any number of them between braces. -/
def readProperty (spaced : Bool) (c : Cursor) : Except Complaint (List Char × Cursor) :=
  let c := c.advance spaced
  match c.rest with
  | [] => complain .escapeCut (.point c.place)
  | '{' :: _ =>
    let r := (c.advance spaced).takeWhile (· ≠ '}') spaced
    if r.2.rest.isEmpty then complain .escapeCut (.point r.2.place) else .ok (r.1, r.2.bump)
  | x :: _ =>
    if x = '\\' then complain .propertyForm c.charSpan else .ok ([x], c.advance spaced)

def boundaryNames : List (String × Assertion) := [
  ("start", .wordStart), ("end", .wordEnd), ("start-half", .wordStartHalf),
  ("end-half", .wordEndHalf)]

def isBoundaryLetter (x : Char) : Bool :=
  x.isAlpha || x == '-'

/-- The name of a boundary between braces, or nothing if the braces cannot hold one. -/
def readBoundary (spaced : Bool) (start : Place) (c : Cursor) :
    Except Complaint (Option (Assertion × Cursor)) :=
  let inner := c.advance spaced
  match inner.rest with
  | [] => complain .boundaryCut ⟨start, inner.place⟩
  | x :: _ =>
    if isBoundaryLetter x then
      let r := inner.takeWhile isBoundaryLetter spaced
      if r.2.head? = some '}' then
        match boundaryNames.find? (·.1.toList = r.1) with
        | some b => .ok (some (b.2, r.2.bump))
        | none => complain .boundaryUnknown ⟨inner.place, r.2.place⟩
      else complain .boundaryUnclosed ⟨c.place, r.2.place⟩
    else .ok none

/-- What a backslash begins. -/
def readEscape (spaced : Bool) (c : Cursor) : Except Complaint (Tree × Cursor) :=
  let start := c.place
  let c := c.bump
  match c.rest with
  | [] => complain .escapeCut ⟨start, c.place⟩
  | x :: _ =>
    let next := c.bump
    let span : Span := ⟨start, next.place⟩
    if x.isDigit then complain .backreference span
    else if x = 'p' ∨ x = 'P' then
      (readProperty spaced c).map fun r => (.property ⟨start, r.2.place⟩ r.1, r.2)
    else if metaCharacters.contains x || isEscapable x then .ok (.literal ⟨span, x, false⟩, next)
    else
      match hexLength? x, perlLetter? x, controlLetter? x, assertionLetter? x with
      | some n, _, _, _ => (readHex spaced start n c).map fun r => (.literal r.1, r.2)
      | _, some p, _, _ => .ok (.perl span p, next)
      | _, _, some y, _ => .ok (.literal ⟨span, y, false⟩, next)
      | _, _, _, some .boundary =>
        if next.head? = some '{' then
          (readBoundary spaced start next).map fun r =>
            match r with
            | some (a, c) => (.assertion ⟨start, c.place⟩ a, c)
            | none => (.assertion span .boundary, next)
        else .ok (.assertion span .boundary, next)
      | _, _, _, some a => .ok (.assertion span a, next)
      | none, none, none, none => complain .escapeUnknown span

end AmbientPulse.Pattern
