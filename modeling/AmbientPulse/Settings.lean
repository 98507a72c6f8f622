import Std.Data.ExtTreeMap

namespace AmbientPulse

abbrev User := UInt32

def User.system : User := 0

def User.text (u : User) : String :=
  s!"u{u.toNat}"

abbrev Observer := UInt64

/-- Whose changes an observer hears of. -/
inductive Scope where
  | all
  | current
  deriving DecidableEq, Repr

structure SettingChange where
  key : String
  user : User
  deriving DecidableEq, Repr

namespace Setting

def pickUpKey : String := "doze_pulse_on_pick_up"

def doubleTapKey : String := "doze_pulse_on_double_tap"

def uri (key : String) : String :=
  "content://settings/secure/" ++ key

end Setting

instance instOrdSettingChoice : Ord (String × User) := lexOrd

/-- Boolean settings of all users, and the observers of their keys. -/
structure Settings where
  currentUser : User
  values : Std.ExtTreeMap (String × User) Bool := ∅
  observers : Std.ExtTreeMap Observer (Std.ExtTreeMap String Scope) := ∅
  registerCalls : Nat := 0
  unregisterCalls : Nat := 0
  deriving DecidableEq

namespace Settings

def get (s : Settings) (key : String) (user : User) (default : Bool) : Bool :=
  s.values[(key, user)]?.getD default

def keysOf (s : Settings) (o : Observer) : List String :=
  match s.observers[o]? with
  | none => []
  | some keys => keys.keys

def scopeOf? (s : Settings) (o : Observer) (key : String) : Option Scope :=
  s.observers[o]?.bind (·[key]?)

/-- Whether an observer of scope `scope` hears of a change made for `user`. -/
def hears (s : Settings) (user : User) : Scope → Bool
  | .all => true
  | .current => user == s.currentUser

def interested (s : Settings) (key : String) (user : User) : List Observer :=
  (s.observers.toList.filter fun entry => (entry.2[key]?).any (s.hears user)).map (·.1)

/-- Store a value. The observers to be told are named in ascending order. -/
def put (s : Settings) (key : String) (user : User) (value : Bool) : List Observer × Settings :=
  (s.interested key user, { s with values := s.values.insert (key, user) value })

def switchUser (s : Settings) (user : User) : Settings :=
  { s with currentUser := user }

def register (s : Settings) (o : Observer) (key : String) (scope : Scope) : Settings :=
  { s with
    observers := s.observers.insert o ((s.observers[o]?.getD ∅).insert key scope)
    registerCalls := s.registerCalls + 1 }

def unregister (s : Settings) (o : Observer) : Settings :=
  { s with
    observers := s.observers.erase o
    unregisterCalls := s.unregisterCalls + 1 }

theorem get_put (s : Settings) (key key' : String) (user user' : User) (value d : Bool) :
    (s.put key user value).2.get key' user' d =
      if key = key' ∧ user = user' then value else s.get key' user' d := by
  by_cases h : (key, user) = (key', user')
  · obtain ⟨rfl, rfl⟩ := Prod.mk.inj h
    simp [put, get]
  · have h' : ¬(key = key' ∧ user = user') := fun ⟨hk, hu⟩ => h (by rw [hk, hu])
    simp [put, get, Std.ExtTreeMap.getElem?_insert, h']

theorem mem_keysOf (s : Settings) (o : Observer) (key : String) :
    key ∈ s.keysOf o ↔ ∃ scope, s.scopeOf? o key = some scope := by
  unfold keysOf scopeOf?
  cases s.observers[o]? with
  | none => simp
  | some keys =>
    rw [Std.ExtTreeMap.mem_keys, Std.ExtTreeMap.mem_iff_isSome_getElem?, Option.isSome_iff_exists]
    rfl

theorem scopeOf?_register (s : Settings) (o o' : Observer) (key key' : String) (scope : Scope) :
    (s.register o key scope).scopeOf? o' key' =
      if o = o' ∧ key = key' then some scope else s.scopeOf? o' key' := by
  unfold scopeOf? register
  by_cases ho : o = o'
  · subst ho
    by_cases hk : key = key'
    · simp [hk]
    · cases h : s.observers[o]? with
      | none => simp [hk]
      | some keys => simp [hk, Std.ExtTreeMap.getElem?_insert]
  · simp [ho, Std.ExtTreeMap.getElem?_insert]

theorem scopeOf?_unregister (s : Settings) (o o' : Observer) (key : String) :
    (s.unregister o).scopeOf? o' key = if o = o' then none else s.scopeOf? o' key := by
  unfold scopeOf? unregister
  by_cases ho : o = o'
  · simp [ho]
  · simp [ho, Std.ExtTreeMap.getElem?_erase]

theorem mem_interested (s : Settings) (key : String) (user : User) (o : Observer) :
    o ∈ s.interested key user ↔ ∃ scope, s.scopeOf? o key = some scope ∧ s.hears user scope := by
  unfold interested scopeOf?
  simp only [List.mem_map, List.mem_filter, Prod.exists, exists_and_right, exists_eq_right,
    Std.ExtTreeMap.mem_toList_iff_getElem?_eq_some]
  constructor
  · rintro ⟨keys, ho, hs⟩
    cases hk : keys[key]? with
    | none => simp [hk] at hs
    | some scope =>
      rw [hk] at hs
      exact ⟨scope, by rw [ho]; exact hk, hs⟩
  · rintro ⟨scope, hk, hh⟩
    obtain ⟨keys, ho, hk⟩ := Option.bind_eq_some_iff.mp hk
    exact ⟨keys, ho, by rw [hk]; exact hh⟩

end Settings

end AmbientPulse
