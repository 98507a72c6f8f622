import AmbientPulse.Pattern.Span

namespace AmbientPulse.Pattern

/-- How deep groups and classes may be nested. -/
def nestLimit : Nat := 250

/-- What is wrong with a pattern. The last six leave its form intact but not its meaning. -/
inductive Fault where
  | classEscape
  | rangeOrder
  | rangeBoundary
  | classUnclosed
  | decimalTooLarge
  | hexEmpty
  | hexNoScalar
  | hexDigit
  | escapeCut
  | escapeUnknown
  | flagDangling
  | flagTwice
  | negationTwice
  | flagCut
  | flagUnknown
  | nameTwice
  | nameEmpty
  | nameCharacter
  | nameCut
  | groupUnclosed
  | groupUnopened
  | tooDeep
  | countOrder
  | countEmpty
  | countUnclosed
  | nothingToRepeat
  | boundaryUnclosed
  | boundaryUnknown
  | boundaryCut
  | propertyForm
  | backreference
  | lookAround
  | unicodeNotAllowed
  | notUtf8
  | propertyUnknown
  | propertyValueUnknown
  | perlClassUnavailable
  | caseUnavailable
  deriving DecidableEq, Repr

def Fault.message : Fault → String
  | classEscape => "invalid escape sequence found in character class"
  | rangeOrder => "invalid character class range, the start must be <= the end"
  | rangeBoundary => "invalid range boundary, must be a literal"
  | classUnclosed => "unclosed character class"
  | decimalTooLarge => "decimal literal invalid"
  | hexEmpty => "hexadecimal literal empty"
  | hexNoScalar => "hexadecimal literal is not a Unicode scalar value"
  | hexDigit => "invalid hexadecimal digit"
  | escapeCut => "incomplete escape sequence, reached end of pattern prematurely"
  | escapeUnknown => "unrecognized escape sequence"
  | flagDangling => "dangling flag negation operator"
  | flagTwice => "duplicate flag"
  | negationTwice => "flag negation operator repeated"
  | flagCut => "expected flag but got end of regex"
  | flagUnknown => "unrecognized flag"
  | nameTwice => "duplicate capture group name"
  | nameEmpty => "empty capture group name"
  | nameCharacter => "invalid capture group character"
  | nameCut => "unclosed capture group name"
  | groupUnclosed => "unclosed group"
  | groupUnopened => "unopened group"
  | tooDeep => s!"exceed the maximum number of nested parentheses/brackets ({nestLimit})"
  | countOrder => "invalid repetition count range, the start must be <= the end"
  | countEmpty => "repetition quantifier expects a valid decimal"
  | countUnclosed => "unclosed counted repetition"
  | nothingToRepeat => "repetition operator missing expression"
  | boundaryUnclosed =>
    "special word boundary assertion is either unclosed or contains an invalid character"
  | boundaryUnknown =>
    "unrecognized special word boundary assertion, " ++
      "valid choices are: start, end, start-half or end-half"
  | boundaryCut =>
    "found either the beginning of a special word boundary or a bounded repetition " ++
      "on a \\b with an opening brace, but no closing brace"
  | propertyForm => "invalid Unicode character class"
  | backreference => "backreferences are not supported"
  | lookAround => "look-around, including look-ahead and look-behind, is not supported"
  | unicodeNotAllowed => "Unicode not allowed here"
  | notUtf8 => "pattern can match invalid UTF-8"
  | propertyUnknown => "Unicode property not found"
  | propertyValueUnknown => "Unicode property value not found"
  | perlClassUnavailable =>
    "Unicode-aware Perl class not found (make sure the unicode-perl feature is enabled)"
  | caseUnavailable =>
    "Unicode-aware case insensitivity matching is not available " ++
      "(make sure the unicode-case feature is enabled)"

/-- A fault and where it is. Some faults have to do with an earlier place too. -/
structure Complaint where
  fault : Fault
  span : Span
  earlier : Option Span := none
  deriving DecidableEq, Repr

def complain {α : Type} (f : Fault) (s : Span) : Except Complaint α :=
  .error ⟨f, s, none⟩

def complainOfTwo {α : Type} (f : Fault) (s earlier : Span) : Except Complaint α :=
  .error ⟨f, s, some earlier⟩

namespace Complaint

/-- In the order of the text. -/
def spans (c : Complaint) : List Span :=
  match c.earlier with
  | none => [c.span]
  | some s => if c.span.start.precedes s.start then [c.span, s] else [s, c.span]

/-- Carets below the columns of some spans, given how many columns are behind already. -/
def carets : Nat → List Span → String
  | _, [] => ""
  | column, s :: ss =>
    let gap := s.start.column - 1 - column
    "".pushn ' ' gap ++ "".pushn '^' s.width ++ carets (column + gap + s.width) ss

/-- The lines of a text. A line feed ends a line, also with a carriage return before it. -/
def linesOf (text : String) : List String :=
  let pieces := text.splitOn "\n"
  let ended := pieces.dropLast.map fun line =>
    if line.endsWith "\r" then String.ofList line.toList.dropLast else line
  match pieces.getLast? with
  | none | some "" => ended
  | some line => ended ++ [line]

def padLeft (width : Nat) (s : String) : String :=
  "".pushn ' ' (width - s.length) ++ s

/-- The lines of a pattern, each under a margin and with carets below what is complained of. -/
def drawing (c : Complaint) (text : String) : String :=
  let count := (text.splitOn "\n").length
  let width := (toString count).length
  String.join <| (linesOf text).mapIdx fun i line =>
    let margin := if count = 1 then "    " else padLeft width (toString (i + 1)) ++ ": "
    let spans := c.spans.filter (·.isOnLine (i + 1))
    margin ++ line ++ "\n" ++
      if spans.isEmpty then "" else "".pushn ' ' margin.length ++ carets 0 spans ++ "\n"

def spreadText (s : Span) : String :=
  s!"on line {s.start.line} (column {s.start.column}) " ++
    s!"through line {s.stop.line} (column {s.stop.column - 1})"

/-- The drawing of a pattern of several lines stands between rules. -/
def text (c : Complaint) (pattern : String) : String :=
  let drawn :=
    if pattern.contains '\n' then
      let rule := "".pushn '~' 79 ++ "\n"
      let spread := c.spans.filter (!·.isOneLine)
      rule ++ c.drawing pattern ++ rule ++
        if spread.isEmpty then "" else "\n".intercalate (spread.map spreadText) ++ "\n"
    else c.drawing pattern
  "regex parse error:\n" ++ drawn ++ "error: " ++ c.fault.message

end Complaint

end AmbientPulse.Pattern
