import Mathlib.Data.List.Basic
import AmbientPulse.Platform

namespace AmbientPulse

/-- What a bank reads of its platform and never changes. -/
structure Outlook where
  currentUser : User
  values : Std.ExtTreeMap (String × User) Bool
  accepting : Bool
  confirming : Bool
  callback : Callback

namespace Platform

def outlook (p : Platform) : Outlook where
  currentUser := p.settings.currentUser
  values := p.settings.values
  accepting := p.registry.accepting
  confirming := p.registry.confirming
  callback := p.callback

section Notices

variable (p : Platform) (n : Notice)

@[simp] theorem trace_note : (p.note n).trace = p.trace := rfl

@[simp] theorem registry_note : (p.note n).registry = p.registry := rfl

@[simp] theorem settings_note : (p.note n).settings = p.settings := rfl

@[simp] theorem callback_note : (p.note n).callback = p.callback := rfl

@[simp] theorem wakeLock_note : (p.note n).wakeLock = p.wakeLock := rfl

@[simp] theorem trace_report : (p.report n).trace = p.trace := by
  unfold report
  split <;> rfl

@[simp] theorem registry_report : (p.report n).registry = p.registry := by
  unfold report
  split <;> rfl

@[simp] theorem settings_report : (p.report n).settings = p.settings := by
  unfold report
  split <;> rfl

@[simp] theorem callback_report : (p.report n).callback = p.callback := by
  unfold report
  split <;> rfl

@[simp] theorem wakeLock_report : (p.report n).wakeLock = p.wakeLock := by
  unfold report
  split <;> rfl

end Notices

section Registrations

variable (p : Platform) (l : Listener) (s : Sensor)

@[simp] theorem trace_request :
    (p.request l s).2.trace = p.trace ++ [.request l s p.registry.accepting] := rfl

@[simp] theorem trace_cancel :
    (p.cancel l s).2.trace =
      p.trace ++ [.cancel l s (p.registry.confirming && p.registry.isArmed l)] := rfl

end Registrations

section Fires

variable (p : Platform) (subtype : Int32) (reason : Reason) (checked : Bool)

@[simp] theorem trace_acquire : p.acquire.trace = p.trace ++ [.acquire] := rfl

@[simp] theorem registry_acquire : p.acquire.registry = p.registry := rfl

@[simp] theorem settings_acquire : p.acquire.settings = p.settings := rfl

@[simp] theorem callback_acquire : p.acquire.callback = p.callback := rfl

@[simp] theorem wakeLock_acquire : p.acquire.wakeLock = p.wakeLock.acquire := rfl

@[simp] theorem trace_release : p.release.trace = p.trace ++ [.release] := rfl

@[simp] theorem settings_release : p.release.settings = p.settings := rfl

@[simp] theorem outlook_release : p.release.outlook = p.outlook := rfl

@[simp] theorem trace_metric : (p.metric subtype).trace = p.trace ++ [.metric subtype] := by
  rw [metric, trace_report]
  rfl

@[simp] theorem registry_metric : (p.metric subtype).registry = p.registry := by
  rw [metric, registry_report]
  rfl

@[simp] theorem settings_metric : (p.metric subtype).settings = p.settings := by
  rw [metric, settings_report]
  rfl

@[simp] theorem callback_metric : (p.metric subtype).callback = p.callback := by
  rw [metric, callback_report]
  rfl

@[simp] theorem wakeLock_metric : (p.metric subtype).wakeLock = p.wakeLock := by
  rw [metric, wakeLock_report]
  rfl

@[simp] theorem trace_pulse :
    (p.pulse reason checked).2.trace = p.trace ++ [.pulse reason checked] := by
  rw [pulse, trace_report]
  rfl

@[simp] theorem registry_pulse : (p.pulse reason checked).2.registry = p.registry := by
  rw [pulse, registry_report]
  rfl

@[simp] theorem settings_pulse : (p.pulse reason checked).2.settings = p.settings := by
  rw [pulse, settings_report]
  rfl

@[simp] theorem callback_pulse : (p.pulse reason checked).2.callback = p.callback := by
  rw [pulse, callback_report]
  rfl

@[simp] theorem wakeLock_pulse : (p.pulse reason checked).2.wakeLock = p.wakeLock := by
  rw [pulse, wakeLock_report]
  rfl

end Fires

end Platform

end AmbientPulse
