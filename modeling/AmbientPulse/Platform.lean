import AmbientPulse.Notice
import AmbientPulse.WakeLock

namespace AmbientPulse

/-- A call that reaches the outside. -/
inductive Effect where
  | request (listener : Listener) (sensor : Sensor) (accepted : Bool)
  | cancel (listener : Listener) (sensor : Sensor) (confirmed : Bool)
  | observe (observer : Observer) (key : String) (scope : Scope)
  | unobserve (observer : Observer)
  | acquire
  | release
  | metric (subtype : Int32)
  | pulse (reason : Reason) (proximityChecked : Bool)
  deriving DecidableEq, Repr

/-- How the receiver of pulses behaves. -/
structure Callback where
  failing : Bool := false
  breaking : Bool := false
  deriving DecidableEq, Repr

/-- How a fire ended: well, with the pulse refused, or with the receiver of the pulse broken down. -/
inductive Outcome where
  | done
  | refused (reason : Reason)
  | broken (reason : Reason)
  deriving DecidableEq, Repr

def Outcome.message : Outcome → String
  | done => ""
  | refused reason => s!"Pulse callback failed: rejected pulse for {reason.name}"
  | broken reason => s!"pulse callback panicked for {reason.name}"

/-- All that triggers share. `trace` holds every effect so far and `log` every notice, in order.
With `reporting`, metrics and pulses are noted too. -/
structure Platform where
  registry : Registry
  settings : Settings
  wakeLock : WakeLock := {}
  callback : Callback := {}
  reporting : Bool := false
  trace : List Effect := []
  log : List Notice := []
  deriving DecidableEq

namespace Platform

def note (p : Platform) (n : Notice) : Platform :=
  { p with log := p.log ++ [n] }

def noteAll (p : Platform) (ns : List Notice) : Platform :=
  { p with log := p.log ++ ns }

def record (p : Platform) (e : Effect) : Platform :=
  { p with trace := p.trace ++ [e] }

def request (p : Platform) (l : Listener) (s : Sensor) : Bool × Platform :=
  let r := p.registry.request l s
  (r.1, { p with registry := r.2 }.record (.request l s r.1))

def cancel (p : Platform) (l : Listener) (s : Sensor) : Bool × Platform :=
  let r := p.registry.cancel l
  (r.1, { p with registry := r.2 }.record (.cancel l s r.1))

def observe (p : Platform) (o : Observer) (key : String) (scope : Scope) : Platform :=
  { p with settings := p.settings.register o key scope }.record (.observe o key scope)

def unobserve (p : Platform) (o : Observer) : Platform :=
  { p with settings := p.settings.unregister o }.record (.unobserve o)

def acquire (p : Platform) : Platform :=
  ({ p with wakeLock := p.wakeLock.acquire }.record .acquire).note .lockAcquired

def release (p : Platform) : Platform :=
  ({ p with wakeLock := p.wakeLock.release }.record .release).note .lockReleased

/-- Whatever becomes of the body, the wake lock is given back after it. -/
def holding {α : Type} (p : Platform) (body : Platform → α × Platform) : α × Platform :=
  let r := body p.acquire
  (r.1, r.2.release)

def report (p : Platform) (n : Notice) : Platform :=
  if p.reporting then p.note n else p

def metric (p : Platform) (subtype : Int32) : Platform :=
  (p.record (.metric subtype)).report (.metric subtype)

/-- A pulse counts as made even if its receiver refuses it or breaks down. -/
def pulse (p : Platform) (reason : Reason) (proximityChecked : Bool) : Outcome × Platform :=
  (if p.callback.breaking then .broken reason
    else if p.callback.failing then .refused reason else .done,
    (p.record (.pulse reason proximityChecked)).report (.pulse reason proximityChecked))

def fire (p : Platform) (l : Listener) (values : List Number.Single) (timestamp : UInt64) :
    Option Event × Platform :=
  let r := p.registry.fire l values timestamp
  (r.1, { p with registry := r.2 })

def put (p : Platform) (key : String) (user : User) (value : Bool) : List Observer × Platform :=
  let r := p.settings.put key user value
  (r.1, { p with settings := r.2 })

def switchUser (p : Platform) (user : User) : Platform :=
  { p with settings := p.settings.switchUser user }

def metrics (p : Platform) : List Int32 :=
  p.trace.filterMap fun
    | .metric subtype => some subtype
    | _ => none

def pulses (p : Platform) : List (Reason × Bool) :=
  p.trace.filterMap fun
    | .pulse reason checked => some (reason, checked)
    | _ => none

end Platform

end AmbientPulse
