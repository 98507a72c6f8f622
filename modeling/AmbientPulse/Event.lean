import AmbientPulse.Number.Single
import AmbientPulse.Sensor

namespace AmbientPulse

/-- What a sensor reports when it fires. -/
structure Event where
  sensor : Sensor
  timestamp : UInt64
  values : List Number.Single
  deriving DecidableEq, Repr

namespace Event

/-- The first value names the gesture subtype. -/
def subtype (e : Event) : Int32 :=
  match e.values with
  | [] => 0
  | v :: _ => v.truncate

def text (e : Event) : String :=
  "TriggerEvent[" ++ toString e.timestamp.toNat ++ "," ++ e.sensor.name ++
    String.join (e.values.map fun v => "," ++ v.text) ++ "]"

end Event

end AmbientPulse
