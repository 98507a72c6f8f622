import Std.Data.ExtTreeSet
import AmbientPulse.Platform

namespace AmbientPulse

/-- One observer's subscription to any number of settings. -/
structure Watch where
  observer : Observer
  keys : Std.ExtTreeSet String := ∅
  deriving DecidableEq

namespace Watch

def isSubscribed (w : Watch) : Bool :=
  !w.keys.isEmpty

def isWatching (w : Watch) (key : String) : Bool :=
  w.keys.contains key

/-- A key is subscribed to once. The scope it was first attached with stays. -/
def attach (w : Watch) (key : String) (scope : Scope) (p : Platform) : Watch × Platform :=
  if w.isWatching key then (w, p)
  else
    ({ w with keys := w.keys.insert key },
      (p.note (.watching w.observer key)).observe w.observer key scope)

def detach (w : Watch) (p : Platform) : Watch × Platform :=
  if w.isSubscribed then
    ({ w with keys := ∅ },
      (p.note (.dropping w.observer w.keys.size)).unobserve w.observer)
  else (w, p)

end Watch

/-- Only a change for the user in charge matters. -/
def SettingChange.concerns (c : SettingChange) (currentUser : User) : Bool :=
  c.user == currentUser

end AmbientPulse
