namespace AmbientPulse

/-- Why the ambient display is asked to pulse. -/
inductive Reason where
  | intent
  | notification
  | significantMotion
  | pickUp
  | doubleTap
  deriving DecidableEq, Repr

namespace Reason

def all : List Reason :=
  [intent, notification, significantMotion, pickUp, doubleTap]

def code : Reason → Nat
  | intent => 0
  | notification => 1
  | significantMotion => 2
  | pickUp => 3
  | doubleTap => 4

def name : Reason → String
  | intent => "intent"
  | notification => "notification"
  | significantMotion => "sensor_sig_motion"
  | pickUp => "sensor_pickup"
  | doubleTap => "sensor_double_tap"

/-- The spelling used in diagnostics and stored documents. -/
def label : Reason → String
  | intent => "Intent"
  | notification => "Notification"
  | significantMotion => "SensorSigMotion"
  | pickUp => "SensorPickup"
  | doubleTap => "SensorDoubleTap"

end Reason

end AmbientPulse
