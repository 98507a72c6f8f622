import AmbientPulse.Subtype.Matcher
import AmbientPulse.Watch

namespace AmbientPulse

/-- A one-shot gesture sensor that is kept armed while it is wanted. -/
structure Trigger where
  listener : Listener
  reason : Reason
  sensor : Option Sensor
  setting : Option String
  configured : Bool
  requested : Bool := false
  registered : Bool := false
  disabled : Bool := false
  deriving DecidableEq, Repr

namespace Trigger

/-- The sensor is found once and for all. A setting with an empty key is none. -/
def ofRequirement (registry : Registry) (l : Listener) (r : Requirement) : Trigger where
  listener := l
  reason := r.reason
  sensor := r.source.resolve? registry
  setting := r.setting.filter (· ≠ "")
  configured := r.configured

/-- A setting that nobody has touched is on. -/
def enabled (t : Trigger) (s : Settings) : Bool :=
  match t.setting with
  | none => true
  | some key => s.get key s.currentUser true

def wanted (t : Trigger) (s : Settings) : Bool :=
  t.configured && t.sensor.isSome && t.requested && !t.disabled && t.enabled s

def arm (t : Trigger) (s : Sensor) (p : Platform) : Trigger × Platform :=
  let r := p.request t.listener s
  ({ t with registered := r.1 }, r.2.note (.armed s t.reason r.1))

/-- Disarming counts as done even if the registry does not confirm it. -/
def disarm (t : Trigger) (s : Sensor) (p : Platform) : Trigger × Platform :=
  let r := p.cancel t.listener s
  ({ t with registered := false },
    r.2.note (if r.1 then .disarmed s t.reason else .disarmUnconfirmed s t.reason))

/-- Bring the registration in line with what is wanted now. -/
def update (t : Trigger) (p : Platform) : Trigger × Platform :=
  match t.sensor with
  | none => (t, p)
  | some s =>
    match t.wanted p.settings, t.registered with
    | true, false => t.arm s p
    | false, true => t.disarm s p
    | _, _ => (t, p)

def setRequested (b : Bool) (t : Trigger) (p : Platform) : Trigger × Platform :=
  if t.requested = b then (t, p) else { t with requested := b }.update p

def setDisabled (b : Bool) (t : Trigger) (p : Platform) : Trigger × Platform :=
  if t.disabled = b then (t, p) else { t with disabled := b }.update p

/-- Only pickup sensors name a subtype worth counting, and may have checked proximity themselves. -/
def measure (t : Trigger) (m : Subtype.Matcher) (e : Event) (p : Platform) : Bool × Platform :=
  if t.sensor.any (·.category = .pickUpGesture) then (m.admits e.subtype, p.metric e.subtype)
  else (false, p)

/-- Pulse, then arm again. The fire has used up the registration; if the receiver of the pulse breaks
down, nothing is armed. -/
def fire (t : Trigger) (m : Subtype.Matcher) (e : Event) (p : Platform) :
    (Outcome × Trigger) × Platform :=
  p.holding fun p =>
    let q := t.measure m e (p.note (.fired e))
    let r := q.2.pulse t.reason q.1
    let spent := { t with registered := false }
    match r.1 with
    | .broken reason => ((.broken reason, spent), r.2)
    | outcome =>
      let u := spent.update r.2
      ((outcome, u.1), u.2)

/-- After an update a trigger is registered if it is wanted and either was registered before or is
accepted by the registry now. -/
theorem update_registered (t : Trigger) (p : Platform) (s : Sensor) (hs : t.sensor = some s) :
    (t.update p).1.registered =
      (t.wanted p.settings && (t.registered || p.registry.accepting)) := by
  unfold update
  rw [hs]
  cases hw : t.wanted p.settings <;> cases hr : t.registered <;>
    simp [arm, disarm, Platform.request, Registry.request, hr]

theorem update_unresolved (t : Trigger) (p : Platform) (hs : t.sensor = none) :
    t.update p = (t, p) := by
  rw [update, hs]

/-- Subscribe a watch to the setting of a configured trigger. -/
def attach (t : Trigger) (w : Watch) (p : Platform) : Watch × Platform :=
  match t.configured, t.setting with
  | true, some key => w.attach key .all p
  | _, _ => (w, p)

def text (t : Trigger) : String :=
  "\x7b" ++ s!"registered={t.registered}, requested={t.requested}, disabled={t.disabled}, " ++
    s!"configured={t.configured}, sensor=" ++ t.sensor.elim "null" Sensor.text ++ "\x7d"

def optionDetails {α : Type} (details : α → String) : Option α → String
  | none => "None"
  | some a => "Some(" ++ details a ++ ")"

def details (t : Trigger) : String :=
  "TriggerSensor \x7b listener: ListenerId(" ++ toString t.listener ++ "), reason: " ++
    t.reason.label ++ ", sensor: " ++ optionDetails Sensor.details t.sensor ++ ", setting: " ++
    optionDetails Text.quoted t.setting ++
    s!", configured: {t.configured}, requested: {t.requested}, registered: {t.registered}" ++
    s!", disabled: {t.disabled} " ++ "\x7d"

end Trigger

end AmbientPulse
