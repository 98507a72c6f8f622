import Std.Data.ExtTreeMap
import AmbientPulse.Event

namespace AmbientPulse

/-- A platform's sensors and the one-shot registrations for them. `requests` and `cancels` name the
listeners of all calls so far, the latest first. -/
structure Registry where
  sensors : List Sensor
  armed : Std.ExtTreeMap Listener Sensor := ∅
  accepting : Bool := true
  confirming : Bool := true
  requests : List Listener := []
  cancels : List Listener := []
  deriving DecidableEq

namespace Registry

/-- Significant motion, pickup, and a vendor's double tap of the given type. -/
def standard (doubleTapType : String) : Registry where
  sensors := [
    ⟨1, "Significant Motion", .significantMotion, "android.sensor.significant_motion"⟩,
    ⟨2, "Pickup Gesture", .pickUpGesture, "android.sensor.pick_up_gesture"⟩,
    ⟨3, "Double Tap", .vendor, doubleTapType⟩]

def ofCategory? (r : Registry) (c : Category) : Option Sensor :=
  r.sensors.find? (·.category = c)

/-- No sensor is found by an empty type string, even if one has it. -/
def ofType? (r : Registry) (typeId : String) : Option Sensor :=
  if typeId = "" then none else r.sensors.find? (·.typeId = typeId)

def isArmed (r : Registry) (l : Listener) : Bool :=
  r.armed.contains l

def armedListeners (r : Registry) : List Listener :=
  r.armed.keys

def request (r : Registry) (l : Listener) (s : Sensor) : Bool × Registry :=
  (r.accepting,
    { r with
      requests := l :: r.requests
      armed := if r.accepting then r.armed.insert l s else r.armed })

def cancel (r : Registry) (l : Listener) : Bool × Registry :=
  (r.confirming && r.isArmed l,
    { r with
      cancels := l :: r.cancels
      armed := if r.confirming then r.armed.erase l else r.armed })

/-- Firing uses up the registration. -/
def fire (r : Registry) (l : Listener) (values : List Number.Single) (timestamp : UInt64) :
    Option Event × Registry :=
  match r.armed[l]? with
  | none => (none, r)
  | some s => (some ⟨s, timestamp, values⟩, { r with armed := r.armed.erase l })

theorem armed_request (r : Registry) (l l' : Listener) (s : Sensor) :
    (r.request l s).2.armed[l']? =
      if r.accepting = true ∧ l = l' then some s else r.armed[l']? := by
  cases h : r.accepting with
  | false => simp [request, h]
  | true => simp [request, h, Std.ExtTreeMap.getElem?_insert]

theorem armed_cancel (r : Registry) (l l' : Listener) :
    (r.cancel l).2.armed[l']? =
      if r.confirming = true ∧ l = l' then none else r.armed[l']? := by
  cases h : r.confirming with
  | false => simp [cancel, h]
  | true => simp [cancel, h, Std.ExtTreeMap.getElem?_erase]

theorem armed_fire (r : Registry) (l l' : Listener) (vs : List Number.Single) (ts : UInt64) :
    (r.fire l vs ts).2.armed[l']? = if l = l' then none else r.armed[l']? := by
  unfold fire
  cases h : r.armed[l]? with
  | some s => simp [Std.ExtTreeMap.getElem?_erase]
  | none =>
    by_cases hl : l = l'
    · subst hl
      simpa using h
    · simp [hl]

theorem fire_event (r : Registry) (l : Listener) (vs : List Number.Single) (ts : UInt64) :
    (r.fire l vs ts).1 = r.armed[l]?.map fun s => ⟨s, ts, vs⟩ := by
  unfold fire
  cases r.armed[l]? <;> rfl

theorem mem_armedListeners (r : Registry) (l : Listener) :
    l ∈ r.armedListeners ↔ ∃ s, r.armed[l]? = some s := by
  rw [armedListeners, Std.ExtTreeMap.mem_keys, Std.ExtTreeMap.mem_iff_isSome_getElem?,
    Option.isSome_iff_exists]

theorem armedListeners_eq_nil (r : Registry) :
    r.armedListeners = [] ↔ ∀ l : Listener, r.armed[l]? = none := by
  rw [List.eq_nil_iff_forall_not_mem]
  refine forall_congr' fun l => ?_
  rw [mem_armedListeners, not_exists, Option.eq_none_iff_forall_ne_some]

end Registry

end AmbientPulse
