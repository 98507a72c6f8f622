namespace AmbientPulse

/-- A lock that counts how often it was taken and given back. -/
structure WakeLock where
  acquired : Nat := 0
  released : Nat := 0
  deriving DecidableEq, Repr

namespace WakeLock

def acquire (w : WakeLock) : WakeLock :=
  { w with acquired := w.acquired + 1 }

def release (w : WakeLock) : WakeLock :=
  { w with released := w.released + 1 }

def isHeld (w : WakeLock) : Bool :=
  w.released < w.acquired

end WakeLock

end AmbientPulse
