import AmbientPulse.Bank
import AmbientPulse.Subtype.Spec

namespace AmbientPulse

/-- What a device can do and what it is allowed to. -/
structure Config where
  pulseOnSignificantMotion : Bool := false
  pickUpSupported : Bool := true
  ambientDisplayAvailable : Bool := true
  /-- Empty on a device without a double-tap sensor. -/
  doubleTapType : String := ""
  /-- Which pickup subtypes have checked proximity themselves. -/
  proximitySpec : String := "!*"
  deriving DecidableEq, Repr

namespace Config

def pulseOnPickUp (c : Config) : Bool :=
  c.pickUpSupported && c.ambientDisplayAvailable

def matcher (c : Config) : Except Subtype.SpecError Subtype.Matcher :=
  Subtype.Matcher.ofSpec c.proximitySpec

def requirements (c : Config) : List Requirement := [
  ⟨.category .significantMotion, .significantMotion, none, c.pulseOnSignificantMotion⟩,
  ⟨.category .pickUpGesture, .pickUp, some Setting.pickUpKey, c.pulseOnPickUp⟩,
  ⟨.typeId c.doubleTapType, .doubleTap, some Setting.doubleTapKey, true⟩]

/-- Where the pickup gesture stands among the requirements. -/
def pickUpPosition : Nat := 1

end Config

/-- The bank for a device's three gestures. Only a bad proximity spec stops it. -/
def Bank.ofConfig (c : Config) (o : Observer) (p : Platform) :
    Except Subtype.SpecError (Bank × Platform) :=
  c.matcher.map fun m => Bank.assemble m c.requirements (some Config.pickUpPosition) o p

end AmbientPulse
