namespace AmbientPulse.Pattern

/-- A place in the text of a pattern. Lines and columns count from one. -/
structure Place where
  line : Nat := 1
  column : Nat := 1
  deriving DecidableEq, Repr

def Place.after (p : Place) (c : Char) : Place :=
  if c = '\n' then ⟨p.line + 1, 1⟩ else ⟨p.line, p.column + 1⟩

def Place.precedes (p q : Place) : Bool :=
  p.line < q.line || (p.line == q.line && p.column < q.column)

/-- From a place to just before another. -/
structure Span where
  start : Place
  stop : Place
  deriving DecidableEq, Repr

namespace Span

def point (p : Place) : Span :=
  ⟨p, p⟩

def isOnLine (s : Span) (line : Nat) : Bool :=
  s.start.line == line && s.stop.line == line

def isOneLine (s : Span) : Bool :=
  s.start.line == s.stop.line

def width (s : Span) : Nat :=
  max 1 (s.stop.column - s.start.column)

end Span

end AmbientPulse.Pattern
