import AmbientPulse.Notice
import AmbientPulse.Pattern.Meaning
import AmbientPulse.Text.Blank

namespace AmbientPulse.CommandLine

structure LogLine where
  level : Level
  origin : String
  text : String

namespace LogLine

def ofNotice (n : Notice) : LogLine :=
  ⟨n.level, n.origin, n.text⟩

def padTo (width : Nat) (s : String) : String :=
  s.pushn ' ' (width - s.length)

/-- The lines of a message after the first are indented. -/
def render (l : LogLine) : String :=
  "[" ++ padTo 5 l.level.name ++ " " ++ l.origin ++ "] " ++ l.text.replace "\n" "\n    "

end LogLine

/-- Up to which rank the lines from one origin, and from those below it, are let through. -/
structure Directive where
  origin : Option String
  greatest : Nat
  deriving DecidableEq, Repr

structure LogFilter where
  directives : List Directive
  /-- What has to occur in a line. -/
  pattern : Option Pattern := none

namespace LogFilter

def levelWords : List (String × Nat) :=
  [("off", 0), ("error", 1), ("warn", 2), ("info", 3), ("debug", 4), ("trace", 5)]

def greatest? (word : List Char) : Option Nat :=
  (levelWords.find? (·.1.toList = Text.lowerAscii word)).map (·.2)

/-- One directive: a level, an origin, or an origin and its level. -/
def readDirective (cs : List Char) : Except String Directive :=
  match Text.pieces '=' cs with
  | [word] =>
    match greatest? word with
    | some n => .ok ⟨none, n⟩
    | none => .ok ⟨some (String.ofList word), 5⟩
  | [origin, level] =>
    let level := Text.trim level
    if level.isEmpty then .ok ⟨some (String.ofList origin), 5⟩
    else
      match greatest? level with
      | some n => .ok ⟨some (String.ofList origin), n⟩
      | none => .error (String.ofList level)
  | _ => .error (String.ofList cs)

/-- A later directive for the same origin takes the place of an earlier one. -/
def addDirective (ds : List Directive) (d : Directive) : List Directive :=
  if ds.any (·.origin = d.origin) then
    ds.map fun e => if e.origin = d.origin then d else e
  else ds ++ [d]

def warning (trouble : String) : String :=
  s!"warning: {trouble}, ignoring it"

/-- A filter and the complaints about what could not be read. -/
structure Reading where
  directives : List Directive := []
  warnings : List String := []

def Reading.add (r : Reading) (cs : List Char) : Reading :=
  if cs.isEmpty then r
  else
    match readDirective cs with
    | .ok d => { r with directives := addDirective r.directives d }
    | .error text =>
      { r with warnings := r.warnings ++ [warning s!"invalid logging spec '{text}'"] }

/-- Without any directive only errors pass. -/
def ofDirectives (ds : List Directive) (pattern : Option Pattern) : LogFilter :=
  ⟨if ds.isEmpty then [⟨none, 1⟩] else ds, pattern⟩

def readPattern (text : String) : Option Pattern × List String :=
  match Pattern.ofText text with
  | .ok p => (some p, [])
  | .error e => (none, [warning ("invalid regex filter - " ++ e.message text)])

/-- Directives, and then behind a slash a pattern. -/
def read (spec : String) : LogFilter × List String :=
  match Text.pieces '/' spec.toList with
  | directives :: more =>
    let r := ((Text.pieces ',' directives).map Text.trim).foldl Reading.add {}
    match more with
    | [] => (ofDirectives r.directives none, r.warnings)
    | [text] =>
      let p := readPattern (String.ofList text)
      (ofDirectives r.directives p.1, r.warnings ++ p.2)
    | _ =>
      (ofDirectives [] none, [warning s!"invalid logging spec '{spec}' (too many '/'s)"])
  | [] => (ofDirectives [] none, [])

def originLength (d : Directive) : Nat :=
  (d.origin.getD "").utf8ByteSize

def concerns (d : Directive) (l : LogLine) : Bool :=
  match d.origin with
  | none => true
  | some origin => origin.toList.isPrefixOf l.origin.toList

/-- Of two directives the one with the longer origin counts, and else the later one. -/
def closer (best : Option Directive) (d : Directive) : Option Directive :=
  match best with
  | none => some d
  | some e => if originLength e ≤ originLength d then some d else some e

def admits (f : LogFilter) (l : LogLine) : Bool :=
  let deciding := (f.directives.filter (concerns · l)).foldl closer none
  deciding.any (l.level.rank ≤ ·.greatest) && f.pattern.all (·.occursIn l.text)

end LogFilter

end AmbientPulse.CommandLine
