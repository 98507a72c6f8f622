import AmbientPulse.Text.Blank
import AmbientPulse.Number.Integer
import AmbientPulse.Subtype.Matcher

namespace AmbientPulse.Subtype

/-- One piece of a spec: `*` or `!*` sets the fallback, `n` or `!n` lists a subtype. -/
inductive Piece where
  | fallback (admitted : Bool)
  | entry (subtype : Int32) (admitted : Bool)
  deriving DecidableEq

def Piece.readBody? (admitted : Bool) (body : List Char) : Option Piece :=
  if body = ['*'] then some (.fallback admitted)
  else (Number.int32? body).map fun subtype => .entry subtype admitted

def Piece.read? : List Char → Option Piece
  | '!' :: body => readBody? false body
  | body => readBody? true body

inductive SpecFault where
  | blank
  | badPiece (text : String)
  | secondFallback
  | repeatedSubtype (subtype : Int32)
  | noFallback
  deriving DecidableEq, Repr

structure SpecError where
  spec : String
  fault : SpecFault
  deriving DecidableEq, Repr

def SpecError.message (e : SpecError) : String :=
  "Invalid proximity subtype spec: " ++
    match e.fault with
    | .blank => "spec must not be empty"
    | .badPiece text => s!"bad item \"{text}\" in \"{e.spec}\""
    | .secondFallback => s!"duplicate default in \"{e.spec}\""
    | .repeatedSubtype subtype => s!"duplicate key {subtype.toInt} in \"{e.spec}\""
    | .noFallback => s!"no default (* or !*) in \"{e.spec}\""

/-- What the pieces read so far have laid down. -/
structure Draft where
  entries : Std.ExtTreeMap Int32 Bool := ∅
  fallback : Option Bool := none

def Draft.add (d : Draft) (text : List Char) : Except SpecFault Draft :=
  match Piece.read? text with
  | none => .error (.badPiece (String.ofList text))
  | some (.fallback admitted) =>
    if d.fallback.isSome then .error .secondFallback else .ok { d with fallback := some admitted }
  | some (.entry subtype admitted) =>
    if subtype ∈ d.entries then .error (.repeatedSubtype subtype)
    else .ok { d with entries := d.entries.insert subtype admitted }

def Draft.finish (d : Draft) : Except SpecFault Matcher :=
  match d.fallback with
  | none => .error .noFallback
  | some fallback => .ok ⟨d.entries, fallback⟩

def specPieces (spec : String) : List (List Char) :=
  (Text.pieces ',' spec.toList).map Text.trim

/-- The leftmost offending piece decides the fault; a missing fallback counts only after all pieces. -/
def readSpec (spec : String) : Except SpecFault Matcher :=
  if Text.trim spec.toList = [] then .error .blank
  else ((specPieces spec).foldlM Draft.add {}).bind Draft.finish

def Matcher.ofSpec (spec : String) : Except SpecError Matcher :=
  (readSpec spec).mapError (⟨spec, ·⟩)

end AmbientPulse.Subtype
