import AmbientPulse.Pattern.Tree
import AmbientPulse.Text.Blank

namespace AmbientPulse.Pattern

/-- What is left of a pattern to be read, and where it is. -/
structure Cursor where
  rest : List Char
  place : Place := {}
  deriving DecidableEq, Repr

namespace Cursor

def head? (c : Cursor) : Option Char :=
  c.rest.head?

def bump : Cursor → Cursor
  | ⟨[], p⟩ => ⟨[], p⟩
  | ⟨x :: xs, p⟩ => ⟨xs, p.after x⟩

/-- The span of the next character. -/
def charSpan (c : Cursor) : Span :=
  ⟨c.place, c.bump.place⟩

/-- Skip white space, and comments to the ends of their lines. -/
def skipFrom : Bool → List Char → Place → Cursor
  | _, [], p => ⟨[], p⟩
  | true, x :: xs, p => skipFrom (x ≠ '\n') xs (p.after x)
  | false, x :: xs, p =>
    if Text.isBlank x then skipFrom false xs (p.after x)
    else if x = '#' then skipFrom true xs (p.after x)
    else ⟨x :: xs, p⟩

/-- White space is skipped in a spaced pattern only. -/
def skip (spaced : Bool) (c : Cursor) : Cursor :=
  if spaced then skipFrom false c.rest c.place else c

def advance (spaced : Bool) (c : Cursor) : Cursor :=
  c.bump.skip spaced

def takeUpTo (p : Char → Bool) (spaced : Bool) : Nat → Cursor → List Char × Cursor
  | 0, c => ([], c)
  | n + 1, c =>
    match c.rest with
    | [] => ([], c)
    | x :: _ =>
      if p x then
        let r := takeUpTo p spaced n (c.advance spaced)
        (x :: r.1, r.2)
      else ([], c)

/-- The characters from here on that are of one kind. -/
def takeWhile (p : Char → Bool) (spaced : Bool) (c : Cursor) : List Char × Cursor :=
  takeUpTo p spaced c.rest.length c

/-- Go behind a text if it comes next. -/
def after? (expected : List Char) (c : Cursor) : Option Cursor :=
  if expected.isPrefixOf c.rest then some (expected.foldl (fun c _ => c.bump) c) else none

/-- The character behind the next one. In a spaced pattern it is the first one that is not white
space, or that stands in a comment before which there is only white space. -/
def peek? (spaced : Bool) (c : Cursor) : Option Char :=
  let behind := c.rest.tail
  if spaced then
    let found :=
      match behind.dropWhile Text.isBlank with
      | '#' :: xs => xs.dropWhile Text.isBlank
      | xs => xs
    (if found.isEmpty then behind else found).head?
  else behind.head?

end Cursor

end AmbientPulse.Pattern
