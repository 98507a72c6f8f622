import AmbientPulse.Text.Quoted
import AmbientPulse.Number.Double

namespace AmbientPulse.Json

/-- What stands where something else was expected. -/
inductive Found where
  | boolean (b : Bool)
  | integer (n : Int)
  | float (x : Number.Double)
  | text (s : String)
  | null
  | sequence
  | map
  deriving DecidableEq, Repr

def Found.describe : Found → String
  | boolean b => s!"boolean `{b}`"
  | integer n => s!"integer `{n}`"
  | float x => s!"floating point `{x.text}`"
  | text s => "string " ++ Text.quoted s
  | null => "null"
  | sequence => "sequence"
  | map => "map"

/-- How well-formed JSON can fail to be a value of the type that is read. -/
inductive Mismatch where
  | wrongKind (found : Found) (expected : String)
  | outOfRange (n : Int) (expected : String)
  | unknownName (name : String) (options : List String)
  | repeatedField (field : String)
  | missingField (field : String)
  | tooShort (items : Nat) (expected : String)
  deriving DecidableEq, Repr

def Mismatch.message : Mismatch → String
  | wrongKind found expected => s!"invalid type: {found.describe}, expected {expected}"
  | outOfRange n expected => s!"invalid value: integer `{n}`, expected {expected}"
  | unknownName name options =>
    s!"unknown variant `{name}`, expected one of " ++
      ", ".intercalate (options.map fun o => s!"`{o}`")
  | repeatedField field => s!"duplicate field `{field}`"
  | missingField field => s!"missing field `{field}`"
  | tooShort items expected => s!"invalid length {items}, expected {expected}"

/-- Why a text is not read: it ends too early, it is not JSON, or it is JSON of the wrong kind. -/
inductive Fault where
  | cut
  | malformed
  | mismatch (m : Mismatch)
  deriving DecidableEq, Repr

/-- Reads a value off the front of a text and leaves the rest. -/
abbrev Reader (α : Type) := List Char → Except Fault (α × List Char)

end AmbientPulse.Json
