import AmbientPulse.Text.Blank
import AmbientPulse.Config.Basic

namespace AmbientPulse

/-- The variables of a process. Their values are bytes. -/
abbrev Environment := String → Option ByteArray

namespace Environment

def ofList (entries : List (String × ByteArray)) : Environment := fun name =>
  (entries.find? (·.1 == name)).map (·.2)

/-- A variable that does not hold UTF-8 counts as unset. -/
def text? (env : Environment) (name : String) : Option String :=
  (env name).bind fun bytes => String.fromUTF8? bytes

/-- The first character of some bytes and what is behind it. -/
def firstCharacter? (bytes : List UInt8) : Option (List Char × List UInt8) :=
  [1, 2, 3, 4].findSome? fun n =>
    (String.fromUTF8? ⟨(bytes.take n).toArray⟩).map fun s => (s.toList, bytes.drop n)

/-- The characters of some bytes, no more than a number of them. A byte that belongs to none stands
as a replacement character. -/
def characters : Nat → List UInt8 → List Char
  | 0, _ => []
  | _, [] => []
  | n + 1, b :: bytes =>
    match firstCharacter? (b :: bytes) with
    | some (cs, rest) => cs ++ characters n rest
    | none => '\ufffd' :: characters n bytes

/-- A path need not be UTF-8. -/
def path? (env : Environment) (name : String) : Option String :=
  (env name).map fun bytes =>
    (String.fromUTF8? bytes).getD (String.ofList (characters bytes.size bytes.toList))

def truthWords : List String := ["1", "true", "yes", "on"]

def falsityWords : List String := ["0", "false", "no", "off"]

def truthValue? (s : String) : Option Bool :=
  let word := String.ofList (Text.lowerAscii (Text.trim s.toList))
  if truthWords.contains word then some true
  else if falsityWords.contains word then some false
  else none

/-- A variable that holds no truth value counts as unset. -/
def flag? (env : Environment) (name : String) : Option Bool :=
  (env.text? name).bind truthValue?

end Environment

namespace Config

/-- Every variable that is set takes the place of one field. -/
def override (env : Environment) (c : Config) : Config where
  pulseOnSignificantMotion :=
    (env.flag? "DOZE_PULSE_ON_SIG_MOTION").getD c.pulseOnSignificantMotion
  pickUpSupported := (env.flag? "DOZE_PICKUP_SUPPORTED").getD c.pickUpSupported
  ambientDisplayAvailable := (env.flag? "DOZE_AMBIENT_AVAILABLE").getD c.ambientDisplayAvailable
  doubleTapType := (env.text? "DOZE_DOUBLE_TAP_TYPE").getD c.doubleTapType
  proximitySpec := (env.text? "DOZE_PICKUP_PROX_SUBTYPES").getD c.proximitySpec

def ofEnvironment (env : Environment) : Config :=
  override env {}

end Config

end AmbientPulse
