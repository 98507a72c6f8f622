import AmbientPulse.Reason
import AmbientPulse.Registry

namespace AmbientPulse

/-- How a sensor is found among those of a registry. -/
inductive Source where
  | category (category : Category)
  | typeId (typeId : String)
  deriving DecidableEq, Repr

namespace Source

def resolve? (r : Registry) : Source → Option Sensor
  | category c => r.ofCategory? c
  | typeId t => r.ofType? t

def details : Source → String
  | category c => "Category(" ++ c.label ++ ")"
  | typeId t => "TypeString(" ++ Text.quoted t ++ ")"

end Source

/-- What one gesture needs: a sensor, a setting that is on for the current user, and a device that
supports it. -/
structure Requirement where
  source : Source
  reason : Reason
  setting : Option String := none
  configured : Bool := true
  deriving DecidableEq, Repr

end AmbientPulse
