import Std.Data.ExtTreeMap

namespace AmbientPulse.Subtype

/-- Which gesture subtypes are admitted: the listed ones by their entry, all others by the fallback. -/
structure Matcher where
  entries : Std.ExtTreeMap Int32 Bool
  fallback : Bool
  deriving DecidableEq

namespace Matcher

def admitNone : Matcher :=
  ⟨∅, false⟩

def admits (m : Matcher) (subtype : Int32) : Bool :=
  m.entries[subtype]?.getD m.fallback

end Matcher

end AmbientPulse.Subtype
