import AmbientPulse.Pattern.CharSet

namespace AmbientPulse

namespace Pattern

/-- What a place between two characters may be asked to be. Words are of ASCII letters, digits and
underscores. -/
inductive Look where
  | textStart
  | textEnd
  | lineStart (crlf : Bool)
  | lineEnd (crlf : Bool)
  | boundary
  | noBoundary
  | wordStart
  | wordEnd
  | wordStartHalf
  | wordEndHalf
  deriving DecidableEq, Repr

def isWordCharacter (c : Char) : Bool :=
  c.isAlphanum || c == '_'

/-- Whether it is so, given the characters before and behind the place. -/
def Look.holds (before behind : Option Char) : Look → Bool
  | textStart => before.isNone
  | textEnd => behind.isNone
  | lineStart false => before.all (· == '\n')
  | lineEnd false => behind.all (· == '\n')
  | lineStart true => before.all fun c => c == '\n' || c == '\r' && behind != some '\n'
  | lineEnd true => behind.all fun c => c == '\r' || c == '\n' && before != some '\r'
  | boundary => before.any isWordCharacter != behind.any isWordCharacter
  | noBoundary => before.any isWordCharacter == behind.any isWordCharacter
  | wordStart => !before.any isWordCharacter && behind.any isWordCharacter
  | wordEnd => before.any isWordCharacter && !behind.any isWordCharacter
  | wordStartHalf => !before.any isWordCharacter
  | wordEndHalf => !behind.any isWordCharacter

end Pattern

/-- A regular expression. What is `unavailable` is found nowhere. -/
inductive Pattern where
  | empty
  | chars (s : Pattern.CharSet)
  | look (l : Pattern.Look)
  | unavailable
  | seq (p q : Pattern)
  | alt (p q : Pattern)
  | times (p : Pattern) (least : Nat) (greatest : Option Nat)
  deriving DecidableEq, Repr

namespace Pattern

/-- For every place of a text, from before its first character to behind its last, whether it is one
of those looked for. -/
abbrev Places := List Bool

def both (m n : Places) : Places :=
  List.zipWith (· || ·) m n

/-- Go on a number of times, but no further once that changes nothing. -/
def goOn (f : Places → Places) : Nat → Places → Places
  | 0, m => m
  | n + 1, m =>
    let next := f m
    if next = m then m else goOn f n next

/-- The characters before and behind every place. -/
def neighbours (text : List Char) : List (Option Char × Option Char) :=
  (none :: text.map some).zip (text.map some ++ [none])

/-- The places at which a match can end that begins at one of some places. No more than all places
of a text can be added one by one, so that a repetition without a bound comes to an end. -/
def reach (text : List Char) : Pattern → Places → Places
  | empty, m => m
  | chars s, m => false :: List.zipWith (fun here c => here && s.contains c) m text
  | look l, m => List.zipWith (fun here n => here && l.holds n.1 n.2) m (neighbours text)
  | unavailable, m => m.map fun _ => false
  | seq p q, m => q.reach text (p.reach text m)
  | alt p q, m => both (p.reach text m) (q.reach text m)
  | times p least greatest, m =>
    let more := match greatest with
      | some n => n - least
      | none => text.length + 1
    goOn (fun m => both m (p.reach text m)) more (goOn (p.reach text) least m)

/-- Whether some part of a text matches. -/
def occursIn (p : Pattern) (text : String) : Bool :=
  let cs := text.toList
  (p.reach cs (List.replicate (cs.length + 1) true)).any id

/-- Whether every match is of the empty text. -/
def isSlim : Pattern → Bool
  | empty | look _ | unavailable => true
  | chars _ => false
  | seq p q | alt p q => p.isSlim && q.isSlim
  | times p _ greatest => p.isSlim || greatest == some 0

/-- A repetition. What is slim need not be repeated more than once, and what may go on for ever
already need not be repeated at all. -/
def repeated (p : Pattern) (least : Nat) (greatest : Option Nat) : Pattern :=
  let least := if p.isSlim then min least 1 else least
  let greatest := if p.isSlim then some (min (greatest.getD 1) 1) else greatest
  if greatest = some 0 then empty
  else if least = 1 ∧ greatest = some 1 then p
  else
    match p with
    | times q a none =>
      if a ≤ 1 ∧ least ≤ 1 ∧ greatest = none then times q (min a least) none
      else times p least greatest
    | _ => times p least greatest

def isAvailable : Pattern → Bool
  | unavailable => false
  | empty | chars _ | look _ => true
  | seq p q | alt p q => p.isAvailable && q.isAvailable
  | times p _ _ => p.isAvailable

/-- How a kind of characters, by the range of their code points, is spelled: in how many bytes, and
in how many sequences of byte ranges the whole kind. -/
def encodings : List ((Nat × Nat) × (Nat × Nat)) := [
  ((0, 0x7F), (1, 1)), ((0x80, 0x7FF), (2, 1)), ((0x800, 0xFFFF), (3, 4)),
  ((0x10000, maxCodePoint), (4, 3))]

/-- The number of bytes to which a state machine for a set of characters comes: 32 for each of its
states and some for the ways between them. -/
def CharSet.weight (s : CharSet) : Nat :=
  let rs := s.normalized.ranges
  if rs.all (·.2 < 0x80) then 64 + 8 * rs.length
  else
    rs.foldl (fun n r =>
      encodings.foldl (fun n e =>
        let whole := r.1 ≤ e.1.1 && e.1.2 ≤ r.2
        if r.2 < e.1.1 ∨ e.1.2 < r.1 then n
        else
          let sequences := if whole then e.2.2 else 1
          n + sequences * (4 + 32 * e.2.1)) n) 64

/-- The same for a whole pattern. -/
def weight : Pattern → Nat
  | empty | look _ | unavailable => 32
  | chars s =>
    match s.ranges with
    | [(a, b)] => if a = b then 32 * (Char.ofNat a).utf8Size else s.weight
    | _ => s.weight
  | seq p q => p.weight + q.weight
  | alt p q => 72 + p.weight + q.weight
  | times p least greatest =>
    match greatest with
    | none => 40 + max 1 least * p.weight
    | some n => 32 + least * p.weight + (n - least) * (40 + p.weight)

def weightLimit : Nat := 10485760

end Pattern

end AmbientPulse
