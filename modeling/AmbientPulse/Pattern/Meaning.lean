import AmbientPulse.Pattern.Basic
import AmbientPulse.Pattern.Reader

namespace AmbientPulse

namespace Pattern

/-- The flags that are in force somewhere in a pattern. -/
structure Flags where
  ignoreCase : Bool := false
  multiLine : Bool := false
  dotAll : Bool := false
  crlf : Bool := false
  unicode : Bool := true
  deriving DecidableEq, Repr

def Flags.mark (f : Flags) (ms : List FlagMark) : Flags where
  ignoreCase := (markedState .ignoreCase true ms).getD f.ignoreCase
  multiLine := (markedState .multiLine true ms).getD f.multiLine
  dotAll := (markedState .dotAll true ms).getD f.dotAll
  crlf := (markedState .crlf true ms).getD f.crlf
  unicode := (markedState .unicode true ms).getD f.unicode

def PosixKind.ranges : PosixKind → List (Nat × Nat)
  | alnum => [(0x30, 0x39), (0x41, 0x5A), (0x61, 0x7A)]
  | alpha => [(0x41, 0x5A), (0x61, 0x7A)]
  | ascii => [(0, 0x7F)]
  | blank => [(9, 9), (0x20, 0x20)]
  | cntrl => [(0, 0x1F), (0x7F, 0x7F)]
  | digit => [(0x30, 0x39)]
  | graph => [(0x21, 0x7E)]
  | lower => [(0x61, 0x7A)]
  | print => [(0x20, 0x7E)]
  | punct => [(0x21, 0x2F), (0x3A, 0x40), (0x5B, 0x60), (0x7B, 0x7E)]
  | space => [(9, 0xD), (0x20, 0x20)]
  | upper => [(0x41, 0x5A)]
  | word => [(0x30, 0x39), (0x41, 0x5A), (0x5F, 0x5F), (0x61, 0x7A)]
  | xdigit => [(0x30, 0x39), (0x41, 0x46), (0x61, 0x66)]

def PerlKind.ranges : PerlKind → List (Nat × Nat)
  | digit => PosixKind.digit.ranges
  | space => PosixKind.space.ranges
  | word => PosixKind.word.ranges

/-- Without Unicode a byte above ASCII is no text. -/
def Literal.check (f : Flags) (l : Literal) : Except Complaint Char :=
  if !f.unicode && l.isByte && 0x7F < l.char.toNat then complain .notUtf8 l.span else .ok l.char

/-- A character of a class. Without Unicode it has to be ASCII. -/
def Literal.classChar (f : Flags) (l : Literal) : Except Complaint Char :=
  (l.check f).bind fun c =>
    if !f.unicode && 0x7F < c.toNat then complain .unicodeNotAllowed l.span else .ok c

/-- There are tables for ASCII only, where a negated class would let bytes through that are no text. -/
def PerlClass.set (f : Flags) (s : Span) (p : PerlClass) : Except Complaint CharSet :=
  if f.unicode then complain .perlClassUnavailable s
  else if p.negated then complain .notUtf8 s
  else .ok ⟨p.kind.ranges⟩

/-- A name of a property without what does not count in it. -/
def plainName (name : List Char) : List Char :=
  let lowered := Text.lowerAscii name
  let bare := if ['i', 's'].isPrefixOf lowered then lowered.drop 2 else lowered
  bare.filter fun c => c.toNat < 0x80 && c != ' ' && c != '_' && c != '-'

/-- The names of values that are taken for names of properties first. -/
def valueNames : List (List Char) :=
  [['c', 'f'], ['s', 'c'], ['l', 'c']]

/-- No property has a table. -/
def propertyFault (f : Flags) (name : List Char) : Fault :=
  if !f.unicode then .unicodeNotAllowed
  else if !name.contains ':' && !name.contains '=' && valueNames.contains (plainName name) then
    .propertyValueUnknown
  else .propertyUnknown

/-- A class that is complete: regardless of case, then negated. Beyond ASCII there is no table of
cases. -/
def closeClass (f : Flags) (s : Span) (hasItem negated : Bool) (x : CharSet) :
    Except Complaint CharSet :=
  if f.unicode then
    if f.ignoreCase && hasItem then complain .caseUnavailable s
    else .ok (if negated then x.complement else x)
  else if negated then complain .notUtf8 s
  else .ok (if f.ignoreCase then x.foldAscii else x)

def SetOperation.apply : SetOperation → CharSet → CharSet → CharSet
  | intersection => CharSet.inter
  | difference => CharSet.diff
  | symmetricDifference => CharSet.symmDiff

mutual

def ClassTree.set (f : Flags) : ClassTree → Except Complaint CharSet
  | .empty _ => .ok .empty
  | .literal l => (l.classChar f).map .singleton
  | .range _ first last => do
    return .range (← first.classChar f) (← last.classChar f)
  | .posix s kind negated => closeClass f s true negated ⟨kind.ranges⟩
  | .perl s p => p.set f s
  | .property s name => complain (propertyFault f name) s
  | .bracket s negated content => do closeClass f s content.hasItem negated (← content.set f)
  | .union _ items => setOfAll f items
  | .binary _ op left right => do
    let x ← left.set f
    let y ← right.set f
    let y ← closeClass f right.span right.hasItem false y
    let x ← closeClass f left.span left.hasItem false x
    return op.apply x y

def setOfAll (f : Flags) : List ClassTree → Except Complaint CharSet
  | [] => .ok .empty
  | t :: ts => do
    let x ← t.set f
    let y ← setOfAll f ts
    return x.union y

end

/-- Regardless of case only without Unicode, and then only in ASCII. -/
def Literal.meaning (f : Flags) (l : Literal) : Except Complaint Pattern :=
  (l.check f).bind fun c =>
    if !f.ignoreCase then .ok (.chars (.singleton c))
    else if f.unicode then complain .caseUnavailable l.span
    else if c.isAlpha then .ok (.chars (CharSet.singleton c).foldAscii)
    else .ok (.chars (.singleton c))

/-- Any character but those that end a line. -/
def dotMeaning (f : Flags) (s : Span) : Except Complaint Pattern :=
  if !f.unicode then complain .notUtf8 s
  else
    .ok <| .chars <| CharSet.complement <|
      if f.dotAll then .empty
      else if f.crlf then (CharSet.singleton '\r').union (.singleton '\n')
      else .singleton '\n'

/-- Beyond ASCII there is no table of words. -/
def Assertion.meaning (f : Flags) (a : Assertion) : Pattern :=
  let word (l : Look) : Pattern := if f.unicode then .unavailable else .look l
  match a with
  | lineStart => .look (if f.multiLine then .lineStart f.crlf else .textStart)
  | lineEnd => .look (if f.multiLine then .lineEnd f.crlf else .textEnd)
  | textStart => .look .textStart
  | textEnd => .look .textEnd
  | boundary => word .boundary
  | noBoundary => word .noBoundary
  | wordStart => word .wordStart
  | wordEnd => word .wordEnd
  | wordStartHalf => word .wordStartHalf
  | wordEndHalf => word .wordEndHalf

def joined (p q : Pattern) : Pattern :=
  if p = .empty then q else if q = .empty then p else .seq p q

mutual

/-- What a tree means where some flags are in force, and the flags that are in force behind it. -/
def Tree.meaning (f : Flags) : Tree → Except Complaint (Pattern × Flags)
  | .empty _ => .ok (.empty, f)
  | .flags _ marks => .ok (.empty, f.mark marks)
  | .literal l => (l.meaning f).map fun p => (p, f)
  | .dot s => (dotMeaning f s).map fun p => (p, f)
  | .assertion _ a => .ok (a.meaning f, f)
  | .perl s p => (p.set f s).map fun x => (.chars x, f)
  | .property s name => complain (propertyFault f name) s
  | .bracket s negated content => do
    let x ← closeClass f s content.hasItem negated (← content.set f)
    return (.chars x, f)
  | .repetition _ operand least greatest =>
    (operand.meaning f).map fun r => (r.1.repeated least greatest, f)
  | .group _ marks body => (body.meaning (f.mark marks)).map fun r => (r.1, f)
  | .choice _ branches => meaningOfEach f branches
  | .sequence _ items => meaningOfAll f items

/-- One after another. -/
def meaningOfAll (f : Flags) : List Tree → Except Complaint (Pattern × Flags)
  | [] => .ok (.empty, f)
  | t :: ts => do
    let r ← t.meaning f
    let rest ← meaningOfAll r.2 ts
    return (joined r.1 rest.1, rest.2)

/-- One or another. Flags hold in the later branches too. -/
def meaningOfEach (f : Flags) : List Tree → Except Complaint (Pattern × Flags)
  | [] => .ok (.chars .empty, f)
  | [t] => t.meaning f
  | t :: ts => do
    let r ← t.meaning f
    let rest ← meaningOfEach r.2 ts
    return (.alt r.1 rest.1, rest.2)

end

/-- Why a text is not accepted as a pattern. -/
inductive Refusal where
  | malformed (c : Complaint)
  | tooLarge
  | unavailable
  deriving DecidableEq, Repr

def Refusal.message (text : String) : Refusal → String
  | malformed c => c.text text
  | tooLarge => s!"Compiled regex exceeds size limit of {weightLimit} bytes."
  | unavailable => "error building NFA"

end Pattern

/-- The pattern that a text describes. -/
def Pattern.ofText (text : String) : Except Pattern.Refusal Pattern :=
  match (Pattern.Tree.ofText text).bind (·.meaning {}) with
  | .error c => .error (.malformed c)
  | .ok (p, _) =>
    if !p.isAvailable then .error .unavailable
    else if Pattern.weightLimit < p.weight then .error .tooLarge
    else .ok p

end AmbientPulse
