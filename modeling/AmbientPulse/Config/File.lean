import AmbientPulse.Config.Environment
import AmbientPulse.Json.Document

namespace AmbientPulse

/-- What a path leads to. -/
inductive FileState where
  | absent
  | directory
  | content (bytes : ByteArray)

inductive LoadError where
  | absent
  | directory
  | notText
  | document (fault : Json.Fault)
  deriving DecidableEq, Repr

def LoadError.message : LoadError → String
  | absent => "No such file or directory (os error 2)"
  | directory => "Is a directory (os error 21)"
  | notText => "stream did not contain valid UTF-8"
  | document .cut => "EOF while parsing"
  | document .malformed => "malformed document"
  | document (.mismatch m) => m.message

namespace Config

def ofText (text : String) : Except Json.Fault Config :=
  Json.readDocument readJson text

def ofFile : FileState → Except LoadError Config
  | .absent => .error .absent
  | .directory => .error .directory
  | .content bytes =>
    match String.fromUTF8? bytes with
    | none => .error .notText
    | some text => (ofText text).mapError .document

/-- The file if there is one, or else the defaults, with the environment's overrides on top. -/
def load (file : FileState) (env : Environment) : Except LoadError Config :=
  match file with
  | .absent => .ok (ofEnvironment env)
  | file => (ofFile file).map (override env)

def joinPath (base part : String) : String :=
  if base = "" ∨ base.endsWith "/" then base ++ part else base ++ "/" ++ part

/-- Below the user's configuration directory, which only an absolute path can move. -/
def defaultPath (home : String) (configHome : Option String) : String :=
  let base :=
    match configHome.filter (·.startsWith "/") with
    | some dir => dir
    | none => joinPath home ".config"
  joinPath (joinPath base "doze-sensors") "config.json"

end Config

end AmbientPulse
