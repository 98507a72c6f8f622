import AmbientPulse.Requirement
import AmbientPulse.Settings

namespace AmbientPulse

inductive Level where
  | error
  | warn
  | info
  | debug
  | trace
  deriving DecidableEq, Repr

namespace Level

def name : Level → String
  | error => "ERROR"
  | warn => "WARN"
  | info => "INFO"
  | debug => "DEBUG"
  | trace => "TRACE"

/-- The most urgent level has the least rank. -/
def rank : Level → Nat
  | error => 1
  | warn => 2
  | info => 3
  | debug => 4
  | trace => 5

end Level

/-- What is worth telling a log. -/
inductive Notice where
  | lockAcquired
  | lockReleased
  | watching (observer : Observer) (key : String)
  | dropping (observer : Observer) (keys : Nat)
  | unresolved (source : Source) (reason : Reason)
  | armed (sensor : Sensor) (reason : Reason) (accepted : Bool)
  | disarmed (sensor : Sensor) (reason : Reason)
  | disarmUnconfirmed (sensor : Sensor) (reason : Reason)
  | fired (event : Event)
  | assembled (triggers : Nat) (resolved : Nat)
  | listening (listen : Bool)
  | userSwitched (user : User)
  | changeIgnored (change : SettingChange) (active : User)
  | unknownListener (listener : Listener)
  | staleFire (listener : Listener) (event : Event)
  | queueOpened
  | queueClosed
  | pulseFailed (listener : Listener) (message : String)
  | metric (subtype : Int32)
  | pulse (reason : Reason) (proximityChecked : Bool)
  | simulatedFire (listener : Listener) (event : Event)
  | simulatedFlip (key : String) (value : Bool) (user : User)
  deriving DecidableEq

namespace Notice

/-- The one action that is measured: a pickup gesture. -/
def metricName : String := "AMBIENT_GESTURE"

def level : Notice → Level
  | lockAcquired | lockReleased => .trace
  | watching .. | dropping .. | unresolved .. | armed .. | disarmed .. | fired .. | listening ..
  | userSwitched .. | changeIgnored .. | staleFire .. => .debug
  | assembled .. | queueOpened | queueClosed | metric .. | pulse .. | simulatedFire ..
  | simulatedFlip .. => .info
  | disarmUnconfirmed .. | unknownListener .. => .warn
  | pulseFailed .. => .error

/-- The part of the program that a log names as the source of a notice. -/
def origin : Notice → String
  | lockAcquired | lockReleased => "doze_sensors::power"
  | watching .. | dropping .. => "doze_sensors::settings::watch"
  | unresolved .. | armed .. | disarmed .. | disarmUnconfirmed .. | fired .. =>
    "doze_sensors::sensors::trigger"
  | assembled .. | listening .. | userSwitched .. | changeIgnored .. | unknownListener ..
  | staleFire .. => "doze_sensors::sensors::coordinator"
  | queueOpened | queueClosed | pulseFailed .. => "doze_sensors::dispatch"
  | metric .. => "doze_sensors::metrics"
  | pulse .. => "doze_sim"
  | simulatedFire .. | simulatedFlip .. => "doze_sensors::input::simulation::sensors"

def text : Notice → String
  | lockAcquired => "[Power] wake lock acquired"
  | lockReleased => "[Power] wake lock released"
  | watching o key => s!"[Settings] observer {o.toNat} watching " ++ Setting.uri key
  | dropping o keys => s!"[Settings] observer {o.toNat} dropping {keys} key(s)"
  | unresolved source reason =>
    "[Doze] no sensor for " ++ source.details ++ ", " ++ reason.name ++ " stays disarmed"
  | armed s reason accepted => s!"[Doze] request_trigger {s.name} for {reason.name}: {accepted}"
  | disarmed s reason => s!"[Doze] cancel_trigger {s.name} for {reason.name}"
  | disarmUnconfirmed s reason =>
    s!"[Doze] cancel_trigger {s.name} for {reason.name} not confirmed, marking unregistered"
  | fired e => s!"[Doze] on_trigger: {e.text}"
  | assembled triggers resolved => s!"[Doze] {triggers} trigger sensor(s), {resolved} resolved"
  | listening listen => s!"[Doze] set_listen {listen}"
  | userSwitched u => s!"[Doze] user switched to {u.text}"
  | changeIgnored c active =>
    s!"[Doze] ignoring change of {c.key} for {c.user.text} (active {active.text})"
  | unknownListener l => s!"[Doze] fire for unknown {l.text}"
  | staleFire l e => s!"[Doze] dropping stale fire for {l.text}: {e.text}"
  | queueOpened => "[Doze] dispatch loop started"
  | queueClosed => "[Doze] dispatch loop stopped"
  | pulseFailed l message => s!"[Doze] pulse for {l.text} failed: {message}"
  | metric subtype => s!"[Metrics] {metricName} subtype={subtype.toInt}"
  | pulse reason checked =>
    s!"Pulse requested: reason={reason.name} ({reason.code}), prox_checked={checked}"
  | simulatedFire l e => s!"[Sim] {l.text} fired: {e.text}"
  | simulatedFlip key value user => s!"[Sim] {key} set to {value} for {user.text}"

end Notice

end AmbientPulse
