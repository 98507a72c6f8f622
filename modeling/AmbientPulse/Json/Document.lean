import AmbientPulse.Config.Basic
import AmbientPulse.Json.Record
import AmbientPulse.Json.Writer

namespace AmbientPulse

namespace Category

def naming : Json.Naming Category := ⟨all, name⟩

def readJson : Json.Reader Category :=
  Json.readNamed naming

def writeJson (c : Category) : List Char :=
  Json.writeString c.name

end Category

namespace Reason

def naming : Json.Naming Reason := ⟨all, label⟩

def readJson : Json.Reader Reason :=
  Json.readNamed naming

def writeJson (r : Reason) : List Char :=
  Json.writeString r.label

end Reason

namespace Listener

def readJson : Json.Reader Listener := fun cs =>
  (Json.readInteger .size cs).map fun r => (r.1.toNat, r.2)

def writeJson (l : Listener) : List Char :=
  Json.writeInteger l

end Listener

namespace User

def readJson : Json.Reader User := fun cs =>
  (Json.readInteger .uint32 cs).map fun r => (UInt32.ofNat r.1.toNat, r.2)

def writeJson (u : User) : List Char :=
  Json.writeInteger u.toNat

end User

namespace Sensor

def shape : Json.Shape Sensor where
  title := "SensorHandle"
  fields := [
    .of "handle" (Json.readInteger .int32) fun s n => { s with handle := Int32.ofInt n },
    .of "name" Json.readString fun s name => { s with name },
    .of "category" Category.readJson fun s category => { s with category },
    .of "string_type" Json.readString fun s typeId => { s with typeId }]
  blank := ⟨0, "", .proximity, ""⟩
  required := true

def readJson : Json.Reader Sensor :=
  shape.read

def writeJson (s : Sensor) : List Char :=
  Json.writeObject [
    ("handle", Json.writeInteger s.handle.toInt),
    ("name", Json.writeString s.name),
    ("category", s.category.writeJson),
    ("string_type", Json.writeString s.typeId)]

end Sensor

namespace Config

def shape : Json.Shape Config where
  title := "DozeConfig"
  fields := [
    .of "pulse_on_sig_motion" Json.readBool fun c b => { c with pulseOnSignificantMotion := b },
    .of "pickup_gesture_supported" Json.readBool fun c b => { c with pickUpSupported := b },
    .of "ambient_display_available" Json.readBool fun c b =>
      { c with ambientDisplayAvailable := b },
    .of "double_tap_sensor_type" Json.readString fun c s => { c with doubleTapType := s },
    .of "pickup_subtype_performs_prox_check" Json.readString fun c s =>
      { c with proximitySpec := s }]
  blank := {}
  required := false

def readJson : Json.Reader Config :=
  shape.read

def writeJson (c : Config) : List Char :=
  Json.writeObject [
    ("pulse_on_sig_motion", Json.writeBool c.pulseOnSignificantMotion),
    ("pickup_gesture_supported", Json.writeBool c.pickUpSupported),
    ("ambient_display_available", Json.writeBool c.ambientDisplayAvailable),
    ("double_tap_sensor_type", Json.writeString c.doubleTapType),
    ("pickup_subtype_performs_prox_check", Json.writeString c.proximitySpec)]

end Config

end AmbientPulse
