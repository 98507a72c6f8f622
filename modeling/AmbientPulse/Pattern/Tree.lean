import AmbientPulse.Pattern.Fault

namespace AmbientPulse.Pattern

/-- What may be switched on and off within a pattern. -/
inductive Flag where
  | ignoreCase
  | multiLine
  | dotAll
  | swapGreed
  | unicode
  | crlf
  | spaced
  deriving DecidableEq, Repr

inductive FlagMark where
  | negation
  | flag (f : Flag)
  deriving DecidableEq, Repr

/-- What some marks make of a flag. Those behind a negation switch off. -/
def markedState (f : Flag) (on : Bool) : List FlagMark → Option Bool
  | [] => none
  | .negation :: ms => markedState f false ms
  | .flag g :: ms => if g = f then some on else markedState f on ms

/-- A character as it is written. One that is given by two hexadecimal digits may stand for a byte. -/
structure Literal where
  span : Span
  char : Char
  isByte : Bool := false
  deriving DecidableEq, Repr

inductive PerlKind where
  | digit
  | space
  | word
  deriving DecidableEq, Repr

structure PerlClass where
  kind : PerlKind
  negated : Bool
  deriving DecidableEq, Repr

/-- The names that may stand between `[:` and `:]`. -/
inductive PosixKind where
  | alnum
  | alpha
  | ascii
  | blank
  | cntrl
  | digit
  | graph
  | lower
  | print
  | punct
  | space
  | upper
  | word
  | xdigit
  deriving DecidableEq, Repr

/-- What may be asserted of a place without consuming a character. -/
inductive Assertion where
  | lineStart
  | lineEnd
  | textStart
  | textEnd
  | boundary
  | noBoundary
  | wordStart
  | wordEnd
  | wordStartHalf
  | wordEndHalf
  deriving DecidableEq, Repr

inductive SetOperation where
  | intersection
  | difference
  | symmetricDifference
  deriving DecidableEq, Repr

/-- What stands between brackets. -/
inductive ClassTree where
  | empty (span : Span)
  | literal (l : Literal)
  | range (span : Span) (first last : Literal)
  | posix (span : Span) (kind : PosixKind) (negated : Bool)
  | perl (span : Span) (p : PerlClass)
  | property (span : Span) (name : List Char)
  | bracket (span : Span) (negated : Bool) (content : ClassTree)
  | union (span : Span) (items : List ClassTree)
  | binary (span : Span) (op : SetOperation) (left right : ClassTree)
  deriving Repr

/-- A pattern as it is written. -/
inductive Tree where
  | empty (span : Span)
  | flags (span : Span) (marks : List FlagMark)
  | literal (l : Literal)
  | dot (span : Span)
  | assertion (span : Span) (a : Assertion)
  | perl (span : Span) (p : PerlClass)
  | property (span : Span) (name : List Char)
  | bracket (span : Span) (negated : Bool) (content : ClassTree)
  | repetition (span : Span) (operand : Tree) (least : Nat) (greatest : Option Nat)
  | group (span : Span) (marks : List FlagMark) (body : Tree)
  | choice (span : Span) (branches : List Tree)
  | sequence (span : Span) (items : List Tree)
  deriving Repr

namespace ClassTree

def span : ClassTree → Span
  | literal l => l.span
  | empty s | range s _ _ | posix s _ _ | perl s _ | property s _ | bracket s _ _ | union s _
  | binary s _ _ _ => s

/-- The items that stand beside each other. `p` is where there are none. -/
def ofItems (p : Place) (items : List ClassTree) : ClassTree :=
  match items with
  | [] => empty (.point p)
  | [t] => t
  | t :: ts => union ⟨t.span.start, ((t :: ts).getLast (by simp)).span.stop⟩ (t :: ts)

mutual

/-- Whether anything at all is named. -/
def hasItem : ClassTree → Bool
  | empty _ => false
  | literal _ | range _ _ _ | posix _ _ _ | perl _ _ | property _ _ => true
  | bracket _ _ content => content.hasItem
  | union _ items => anyHasItem items
  | binary _ _ left right => left.hasItem || right.hasItem

def anyHasItem : List ClassTree → Bool
  | [] => false
  | t :: ts => t.hasItem || anyHasItem ts

end

mutual

/-- The first part that is nested more than `left` deep. -/
def tooDeep? (left : Nat) : ClassTree → Option Span
  | bracket s _ content =>
    match left with
    | 0 => some s
    | n + 1 => content.tooDeep? n
  | union s items =>
    match left with
    | 0 => some s
    | n + 1 => anyTooDeep? n items
  | binary s _ l r =>
    match left with
    | 0 => some s
    | n + 1 => l.tooDeep? n <|> r.tooDeep? n
  | empty _ | literal _ | range _ _ _ | posix _ _ _ | perl _ _ | property _ _ => none

def anyTooDeep? (left : Nat) : List ClassTree → Option Span
  | [] => none
  | t :: ts => t.tooDeep? left <|> anyTooDeep? left ts

end

end ClassTree

namespace Tree

def span : Tree → Span
  | literal l => l.span
  | empty s | flags s _ | dot s | assertion s _ | perl s _ | property s _ | bracket s _ _
  | repetition s _ _ _ | group s _ _ | choice s _ | sequence s _ => s

def ofItems (span : Span) : List Tree → Tree
  | [] => empty span
  | [t] => t
  | ts => sequence span ts

mutual

/-- The first part that is nested more than `left` deep. -/
def tooDeep? (left : Nat) : Tree → Option Span
  | bracket s _ content =>
    match left with
    | 0 => some s
    | n + 1 => content.tooDeep? n
  | repetition s t _ _ | group s _ t =>
    match left with
    | 0 => some s
    | n + 1 => t.tooDeep? n
  | choice s ts | sequence s ts =>
    match left with
    | 0 => some s
    | n + 1 => anyTooDeep? n ts
  | empty _ | flags _ _ | literal _ | dot _ | assertion _ _ | perl _ _ | property _ _ => none

def anyTooDeep? (left : Nat) : List Tree → Option Span
  | [] => none
  | t :: ts => t.tooDeep? left <|> anyTooDeep? left ts

end

end Tree

end AmbientPulse.Pattern
