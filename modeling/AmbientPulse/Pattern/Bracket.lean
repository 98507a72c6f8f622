import AmbientPulse.Pattern.Escape

namespace AmbientPulse.Pattern

def posixNames : List (String × PosixKind) := [
  ("alnum", .alnum), ("alpha", .alpha), ("ascii", .ascii), ("blank", .blank), ("cntrl", .cntrl),
  ("digit", .digit), ("graph", .graph), ("lower", .lower), ("print", .print), ("punct", .punct),
  ("space", .space), ("upper", .upper), ("word", .word), ("xdigit", .xdigit)]

/-- A named class such as `[:alpha:]`. What is none is read as a class of its own. -/
def readPosix? (c : Cursor) : Option (ClassTree × Cursor) := do
  let inner ← c.after? ['[', ':']
  let negated := inner.head? == some '^'
  let r := (if negated then inner.bump else inner).takeWhile (· ≠ ':') false
  let next ← r.2.after? [':', ']']
  let kind ← posixNames.find? (·.1.toList = r.1)
  return (.posix ⟨c.place, next.place⟩ kind.2 negated, next)

/-- A class before its closing bracket. Its items are those beside each other at the end, the last
one first, and what is before them awaits an operation. -/
structure OpenClass where
  span : Span
  negated : Bool
  pending : Option (SetOperation × ClassTree)
  items : List ClassTree
  itemsFrom : Place

namespace OpenClass

def push (o : OpenClass) (t : ClassTree) : OpenClass :=
  { o with items := t :: o.items }

def content (o : OpenClass) : ClassTree :=
  let last := ClassTree.ofItems o.itemsFrom o.items.reverse
  match o.pending with
  | none => last
  | some (op, left) => .binary ⟨left.span.start, last.span.stop⟩ op left last

/-- Operations are carried out from left to right. -/
def operate (o : OpenClass) (op : SetOperation) (p : Place) : OpenClass :=
  { o with pending := some (op, o.content), items := [], itemsFrom := p }

/-- Hyphens that come first are literal. -/
def readHyphens (spaced : Bool) (start : Place) :
    Nat → List ClassTree → Cursor → Except Complaint (List ClassTree × Cursor)
  | 0, items, c => .ok (items, c)
  | n + 1, items, c =>
    if c.head? = some '-' then
      let next := c.advance spaced
      if next.rest.isEmpty then complain .classUnclosed (.point start)
      else readHyphens spaced start n (.literal ⟨c.charSpan, '-', false⟩ :: items) next
    else .ok (items, c)

/-- A class as far as its opening bracket goes, with what is literal only right behind that. -/
def read (spaced : Bool) (c : Cursor) : Except Complaint (OpenClass × Cursor) :=
  let start := c.place
  let cut (c : Cursor) : Except Complaint Unit :=
    if c.rest.isEmpty then complain .classUnclosed ⟨start, c.place⟩ else .ok ()
  do
    let c := c.advance spaced
    cut c
    let negated := c.head? == some '^'
    let c := if negated then c.advance spaced else c
    cut c
    let itemsFrom := c.place
    let r ← readHyphens spaced start c.rest.length [] c
    if r.1.isEmpty && r.2.head? == some ']' then
      let next := r.2.advance spaced
      cut next
      return (⟨⟨start, next.place⟩, negated, none, [.literal ⟨r.2.charSpan, ']', false⟩], itemsFrom⟩,
        next)
    else return (⟨⟨start, r.2.place⟩, negated, none, r.1, itemsFrom⟩, r.2)

end OpenClass

def readClassPart (spaced : Bool) (c : Cursor) : Except Complaint (Tree × Cursor) :=
  match c.rest with
  | '\\' :: _ => readEscape spaced c
  | x :: _ => .ok (.literal ⟨c.charSpan, x, false⟩, c.bump)
  | [] => .ok (.empty (.point c.place), c)

def classItem : Tree → Except Complaint ClassTree
  | .literal l => .ok (.literal l)
  | .perl s p => .ok (.perl s p)
  | .property s name => .ok (.property s name)
  | t => complain .classEscape t.span

def rangeEnd : Tree → Except Complaint Literal
  | .literal l => .ok l
  | t => complain .rangeBoundary t.span

/-- One item or a range. A hyphen makes no range before a bracket or another hyphen. -/
def readClassItem (spaced : Bool) (opening : Span) (c : Cursor) :
    Except Complaint (ClassTree × Cursor) := do
  let first ← readClassPart spaced c
  let c := first.2.skip spaced
  let unclosed : Except Complaint (ClassTree × Cursor) := complain .classUnclosed opening
  if c.rest.isEmpty then unclosed
  else if c.head? ≠ some '-' ∨ c.peek? spaced = some ']' ∨ c.peek? spaced = some '-' then
    return (← classItem first.1, c)
  else
    let c := c.advance spaced
    if c.rest.isEmpty then unclosed
    else
      let last ← readClassPart spaced c
      let a ← rangeEnd first.1
      let b ← rangeEnd last.1
      let span : Span := ⟨a.span.start, b.span.stop⟩
      if a.char ≤ b.char then return (.range span a b, last.2) else complain .rangeOrder span

def readOperation? (c : Cursor) : Option (SetOperation × Cursor) :=
  ((c.after? ['&', '&']).map fun c => (.intersection, c)) <|>
    ((c.after? ['-', '-']).map fun c => (.difference, c)) <|>
    ((c.after? ['~', '~']).map fun c => (.symmetricDifference, c))

/-- A class that is being read within others. -/
structure ClassReading where
  current : OpenClass
  outer : List OpenClass
  cursor : Cursor

namespace ClassReading

def push (r : ClassReading) (i : ClassTree × Cursor) : ClassReading :=
  { r with current := r.current.push i.1, cursor := i.2 }

/-- Either the outermost class is complete behind this step, or there is more of it to be read. -/
def step (spaced : Bool) (r : ClassReading) :
    Except Complaint (ClassReading ⊕ (Tree × Cursor)) :=
  let c := r.cursor
  if c.head? = some '[' then
    match readPosix? c with
    | some i => .ok (.inl (r.push i))
    | none => (OpenClass.read spaced c).map fun o => .inl ⟨o.1, r.current :: r.outer, o.2⟩
  else if c.head? = some ']' then
    let next := c.bump
    let span : Span := ⟨r.current.span.start, next.place⟩
    match r.outer with
    | [] => .ok (.inr (.bracket span r.current.negated r.current.content, next))
    | o :: os =>
      .ok (.inl ⟨o.push (.bracket span r.current.negated r.current.content), os, next⟩)
  else
    match readOperation? c with
    | some o => .ok (.inl { r with current := r.current.operate o.1 o.2.place, cursor := o.2 })
    | none => (readClassItem spaced r.current.span c).map fun i => .inl (r.push i)

/-- Every step reads a character, so that there are no more steps than characters. -/
def run (spaced : Bool) : Nat → ClassReading → Except Complaint (Tree × Cursor)
  | 0, r => complain .classUnclosed r.current.span
  | n + 1, r =>
    let c := r.cursor.skip spaced
    if c.rest.isEmpty then complain .classUnclosed r.current.span
    else
      match step spaced { r with cursor := c } with
      | .error e => .error e
      | .ok (.inl r) => run spaced n r
      | .ok (.inr t) => .ok t

end ClassReading

/-- A whole class. -/
def readBracket (spaced : Bool) (c : Cursor) : Except Complaint (Tree × Cursor) :=
  (OpenClass.read spaced c).bind fun o => ClassReading.run spaced c.rest.length ⟨o.1, [], o.2⟩

end AmbientPulse.Pattern
