import AmbientPulse.Pattern.Bracket
import AmbientPulse.Text.Letter

namespace AmbientPulse.Pattern

def flag? : Char → Option Flag
  | 'i' => some .ignoreCase
  | 'm' => some .multiLine
  | 's' => some .dotAll
  | 'U' => some .swapGreed
  | 'u' => some .unicode
  | 'R' => some .crlf
  | 'x' => some .spaced
  | _ => none

/-- The marks up to a colon or a closing parenthesis. Those read already come with the last first. -/
def readMarks (seen : List (FlagMark × Span)) :
    List Char → Place → Except Complaint (List FlagMark × Cursor)
  | [], p => complain .flagCut (.point p)
  | x :: xs, p =>
    let span : Span := ⟨p, p.after x⟩
    let add (m : FlagMark) (twice : Fault) : Except Complaint (List FlagMark × Cursor) :=
      match seen.find? (·.1 = m) with
      | some earlier => complainOfTwo twice span earlier.2
      | none => readMarks ((m, span) :: seen) xs (p.after x)
    if x = ':' ∨ x = ')' then
      match seen with
      | (.negation, s) :: _ => complain .flagDangling s
      | _ => .ok ((seen.map (·.1)).reverse, ⟨x :: xs, p⟩)
    else if x = '-' then add .negation .negationTwice
    else
      match flag? x with
      | some f => add (.flag f) .flagTwice
      | none => complain .flagUnknown span

def isNameCharacter (first : Bool) (x : Char) : Bool :=
  x == '_' || Text.isAlphabetic x ||
    !first && (x == '.' || x == '[' || x == ']' || Text.isNumeric x)

/-- The rest of a name. -/
def readNameFrom (first : Bool) : List Char → Place → Except Complaint (List Char × Cursor)
  | [], p => complain .nameCut (.point p)
  | x :: xs, p =>
    if x = '>' then .ok ([], ⟨x :: xs, p⟩)
    else if isNameCharacter first x then
      (readNameFrom false xs (p.after x)).map fun r => (x :: r.1, r.2)
    else complain .nameCharacter ⟨p, p.after x⟩

/-- The names of groups and where they stand. -/
abbrev GroupNames := List (List Char × Span)

/-- A name and what closes it. No two groups have one name. -/
def readName (names : GroupNames) (c : Cursor) : Except Complaint (GroupNames × Cursor) := do
  let r ← readNameFrom true c.rest c.place
  let span : Span := ⟨c.place, r.2.place⟩
  if r.1.isEmpty then complain .nameEmpty (.point c.place)
  else
    match names.find? (·.1 = r.1) with
    | some earlier => complainOfTwo .nameTwice span earlier.2
    | none => return ((r.1, span) :: names, r.2.bump)

/-- What a parenthesis opens: a group, or flags for all that follows. -/
inductive Opening where
  | group (marks : List FlagMark) (names : GroupNames)
  | flags (marks : List FlagMark)

def lookArounds : List (List Char) :=
  [['?', '='], ['?', '!'], ['?', '<', '='], ['?', '<', '!']]

def readOpening (spaced : Bool) (names : GroupNames) (c : Cursor) :
    Except Complaint (Opening × Cursor) :=
  let inner := c.advance spaced
  match lookArounds.findSome? inner.after? with
  | some behind => complain .lookAround ⟨c.place, behind.place⟩
  | none =>
    match inner.after? ['?', 'P', '<'] <|> inner.after? ['?', '<'] with
    | some behind => (readName names behind).map fun r => (.group [] r.1, r.2)
    | none =>
      match inner.after? ['?'] with
      | none => .ok (.group [] names, inner)
      | some behind =>
        if behind.rest.isEmpty then complain .groupUnclosed c.charSpan
        else do
          let r ← readMarks [] behind.rest behind.place
          if r.2.head? = some ':' then return (.group r.1 names, r.2.bump)
          else if r.1.isEmpty then complain .nothingToRepeat (.point inner.place)
          else return (.flags r.1, r.2.bump)

/-- A group before its closing parenthesis, or the whole pattern before its end. The branches that
are complete and the items of the one that is not stand with the last one first. -/
structure Level where
  opening : Span
  marks : List FlagMark
  spacedOutside : Bool
  names : GroupNames
  bodyFrom : Place
  branches : List Tree := []
  branchFrom : Place
  items : List Tree := []

namespace Level

def push (l : Level) (t : Tree) : Level :=
  { l with items := t :: l.items }

def branch (l : Level) (stop : Place) : Tree :=
  Tree.ofItems ⟨l.branchFrom, stop⟩ l.items.reverse

/-- A bar ends a branch. The next one begins behind it. -/
def split (l : Level) (bar : Span) : Level :=
  { l with branches := l.branch bar.start :: l.branches, branchFrom := bar.stop, items := [] }

def body (l : Level) (stop : Place) : Tree :=
  if l.branches.isEmpty then l.branch stop
  else .choice ⟨l.bodyFrom, stop⟩ (l.branch stop :: l.branches).reverse

end Level

/-- A number between whatever white space. -/
def readDecimal (spaced : Bool) (c : Cursor) : Except Complaint Nat × Cursor :=
  let start := (c.takeWhile Text.isBlank false).2
  let digits := start.takeWhile Char.isDigit spaced
  let span : Span := ⟨start.place, digits.2.place⟩
  let n := Nat.ofDigitChars 10 digits.1 0
  let value : Except Complaint Nat :=
    if digits.1.isEmpty then complain .countEmpty span
    else if n < UInt32.size then .ok n
    else complain .decimalTooLarge span
  (value, (digits.2.takeWhile Text.isBlank spaced).2)

/-- The least and the greatest count, up to the closing brace. -/
def readCounts (spaced : Bool) (c : Cursor) : Except Complaint ((Nat × Option Nat) × Cursor) :=
  let unclosed (stop : Cursor) : Except Complaint ((Nat × Option Nat) × Cursor) :=
    complain .countUnclosed ⟨c.place, stop.place⟩
  let inner := c.advance spaced
  if inner.rest.isEmpty then unclosed inner
  else
    let least := readDecimal spaced inner
    let rest := least.2
    match rest.rest with
    | [] => unclosed rest
    | ',' :: _ =>
      let behind := rest.advance spaced
      match behind.rest with
      | [] => unclosed behind
      | '}' :: _ => least.1.map fun a => ((a, none), behind)
      | _ :: _ => do
        let a ← least.1
        let greatest := readDecimal spaced behind
        let b ← greatest.1
        if greatest.2.head? = some '}' then return ((a, some b), greatest.2)
        else unclosed greatest.2
    | x :: _ => do
      let a ← least.1
      if x = '}' then return ((a, some a), rest) else unclosed rest

/-- What of a pattern has been read. -/
structure Reading where
  cursor : Cursor
  spaced : Bool := false
  level : Level
  outer : List Level := []

namespace Reading

def ofText (text : List Char) : Reading where
  cursor := ⟨text, {}⟩
  level := ⟨.point {}, [], false, [], {}, [], {}, []⟩

def push (r : Reading) (t : Tree × Cursor) : Reading :=
  { r with level := r.level.push t.1, cursor := t.2 }

/-- Repeat the last item. Flags cannot be repeated. -/
def repeatLast (r : Reading) (count : Except Complaint ((Nat × Option Nat) × Cursor)) :
    Except Complaint Reading :=
  let missing : Except Complaint Reading :=
    complain .nothingToRepeat (.point r.cursor.place)
  match r.level.items with
  | [] => missing
  | .empty _ :: _ | .flags _ _ :: _ => missing
  | t :: ts => do
    let counts ← count
    let behind := counts.2
    let behind := if behind.head? = some '?' then behind.bump else behind
    let tree : Tree := .repetition ⟨t.span.start, behind.place⟩ t counts.1.1 counts.1.2
    match counts.1.2 with
    | some greatest =>
      if greatest < counts.1.1 then complain .countOrder ⟨r.cursor.place, behind.place⟩
      else return { r with level := { r.level with items := tree :: ts }, cursor := behind }
    | none => return { r with level := { r.level with items := tree :: ts }, cursor := behind }

def openGroup (r : Reading) : Except Complaint Reading := do
  let o ← readOpening r.spaced r.level.names r.cursor
  let cursor := o.2
  match o.1 with
  | .flags marks =>
    let spaced := (markedState .spaced true marks).getD r.spaced
    let tree : Tree := .flags ⟨r.cursor.place, cursor.place⟩ marks
    return { r with spaced, level := r.level.push tree, cursor }
  | .group marks names =>
    let spaced := (markedState .spaced true marks).getD r.spaced
    let level : Level :=
      ⟨r.cursor.charSpan, marks, r.spaced, names, cursor.place, [], cursor.place, []⟩
    return ⟨cursor, spaced, level, r.level :: r.outer⟩

def closeGroup (r : Reading) : Except Complaint Reading :=
  match r.outer with
  | [] => complain .groupUnopened r.cursor.charSpan
  | l :: ls =>
    let next := r.cursor.bump
    let tree : Tree :=
      .group ⟨r.level.opening.start, next.place⟩ r.level.marks (r.level.body r.cursor.place)
    .ok ⟨next, r.level.spacedOutside, { l.push tree with names := r.level.names }, ls⟩

/-- Read what begins with the next character. -/
def step (r : Reading) : Except Complaint Reading :=
  let c := r.cursor
  let next := c.bump
  match c.rest with
  | [] => .ok r
  | x :: _ =>
    match x with
    | '(' => r.openGroup
    | ')' => r.closeGroup
    | '|' => .ok { r with level := r.level.split c.charSpan, cursor := next }
    | '[' => (readBracket r.spaced c).map r.push
    | '?' => r.repeatLast (.ok ((0, some 1), next))
    | '*' => r.repeatLast (.ok ((0, none), next))
    | '+' => r.repeatLast (.ok ((1, none), next))
    | '{' =>
      r.repeatLast ((readCounts r.spaced c).map fun counts =>
        (counts.1, counts.2.advance r.spaced))
    | '\\' => (readEscape r.spaced c).map r.push
    | '.' => .ok (r.push (.dot c.charSpan, next))
    | '^' => .ok (r.push (.assertion c.charSpan .lineStart, next))
    | '$' => .ok (r.push (.assertion c.charSpan .lineEnd, next))
    | x => .ok (r.push (.literal ⟨c.charSpan, x, false⟩, next))

def finish (r : Reading) : Except Complaint Tree :=
  if r.outer.isEmpty then .ok (r.level.body r.cursor.place)
  else complain .groupUnclosed r.level.opening

/-- Every step reads a character, so that there are no more steps than characters. -/
def run : Nat → Reading → Except Complaint Tree
  | 0, r => r.finish
  | n + 1, r =>
    let r := { r with cursor := r.cursor.skip r.spaced }
    if r.cursor.rest.isEmpty then r.finish else r.step.bind (run n)

end Reading

/-- Read a whole pattern. -/
def Tree.ofText (text : String) : Except Complaint Tree := do
  let cs := text.toList
  let t ← Reading.run (cs.length + 1) (Reading.ofText cs)
  match t.tooDeep? nestLimit with
  | some s => complain .tooDeep s
  | none => return t

end AmbientPulse.Pattern
