import AmbientPulse.Text.Quoted

namespace AmbientPulse

inductive Category where
  | proximity
  | significantMotion
  | pickUpGesture
  /-- Sensors that only their type string tells apart. -/
  | vendor
  deriving DecidableEq, Repr

namespace Category

def all : List Category :=
  [proximity, significantMotion, pickUpGesture, vendor]

def name : Category → String
  | proximity => "proximity"
  | significantMotion => "significant_motion"
  | pickUpGesture => "pick_up_gesture"
  | vendor => "vendor"

def code : Category → Nat
  | proximity => 8
  | significantMotion => 17
  | pickUpGesture => 25
  | vendor => 65536

/-- The spelling used in diagnostics. -/
def label : Category → String
  | proximity => "Proximity"
  | significantMotion => "SignificantMotion"
  | pickUpGesture => "PickUpGesture"
  | vendor => "Vendor"

structure UnknownName where
  name : String

def UnknownName.message (_ : UnknownName) : String :=
  "Matching variant not found"

def ofName (s : String) : Except UnknownName Category :=
  match all.find? (·.name == s) with
  | some c => .ok c
  | none => .error ⟨s⟩

end Category

structure Sensor where
  handle : Int32
  name : String
  category : Category
  typeId : String
  deriving DecidableEq, Repr

namespace Sensor

def text (s : Sensor) : String :=
  "\x7bSensor name=\"" ++ s.name ++ "\", type=" ++ s.typeId ++ ", handle=" ++
    toString s.handle.toInt ++ "\x7d"

def details (s : Sensor) : String :=
  "SensorHandle \x7b handle: " ++ toString s.handle.toInt ++ ", name: " ++ Text.quoted s.name ++
    ", category: " ++ s.category.label ++ ", string_type: " ++ Text.quoted s.typeId ++ " \x7d"

end Sensor

/-- A platform knows its listeners by number. -/
abbrev Listener := Nat

def Listener.text (l : Listener) : String :=
  s!"listener#{l}"

end AmbientPulse
