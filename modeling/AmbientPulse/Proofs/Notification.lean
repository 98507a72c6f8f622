import Mathlib.Data.List.DropRight
import Mathlib.Data.List.Sort
import AmbientPulse.Settings
import AmbientPulse.Proofs.History

namespace AmbientPulse.Settings

/-- What changes a store. -/
inductive Call where
  | put (key : String) (user : User) (value : Bool)
  | switchUser (user : User)
  | register (o : Observer) (key : String) (scope : Scope)
  | unregister (o : Observer)
  deriving DecidableEq, Repr

def call (s : Settings) : Call → Settings
  | .put key user value => (s.put key user value).2
  | .switchUser user => s.switchUser user
  | .register o key scope => s.register o key scope
  | .unregister o => s.unregister o

def after (s : Settings) (cs : List Call) : Settings :=
  cs.foldl call s

theorem after_concat (s : Settings) (cs : List Call) (c : Call) :
    s.after (cs ++ [c]) = (s.after cs).call c := by
  simp [after]

section Values

/-- The value that a call stores for a key of a user. -/
def Call.stored? (key : String) (user : User) : Call → Option Bool
  | .put key' user' value => if key' = key ∧ user' = user then some value else none
  | _ => none

def Call.user? : Call → Option User
  | .switchUser user => some user
  | _ => none

theorem get_call (s : Settings) (c : Call) (key : String) (user : User) (d : Bool) :
    (s.call c).get key user d = (c.stored? key user).getD (s.get key user d) := by
  cases c with
  | put key' user' value =>
    rw [call, get_put, Call.stored?]
    split <;> rfl
  | switchUser | register | unregister => rfl

theorem currentUser_call (s : Settings) (c : Call) :
    (s.call c).currentUser = c.user?.getD s.currentUser := by
  cases c <;> rfl

variable (u : User) (cs : List Call)

theorem get_after (key : String) (user : User) (d : Bool) :
    (after { currentUser := u } cs).get key user d =
      (latest? (Call.stored? key user) cs).getD d := by
  induction cs using List.reverseRecOn with
  | nil => simp [after, get, latest?]
  | append_singleton cs c ih => rw [after_concat, get_call, ih, latest?_concat_getD]

theorem currentUser_after :
    (after { currentUser := u } cs).currentUser = (latest? Call.user? cs).getD u := by
  induction cs using List.reverseRecOn with
  | nil => rfl
  | append_singleton cs c ih => rw [after_concat, currentUser_call, ih, latest?_concat_getD]

end Values

section Subscriptions

def Call.scope? (o : Observer) (key : String) : Call → Option Scope
  | .register o' key' scope => if o' = o ∧ key' = key then some scope else none
  | _ => none

/-- The calls since the observer was last unregistered. -/
def standing (o : Observer) (cs : List Call) : List Call :=
  cs.rtakeWhile (· ≠ .unregister o)

theorem standing_concat (o : Observer) (cs : List Call) (c : Call) :
    standing o (cs ++ [c]) = if c = .unregister o then [] else standing o cs ++ [c] := by
  by_cases h : c = .unregister o <;> simp [standing, h]

theorem scopeOf?_call (s : Settings) (c : Call) (o : Observer) (key : String) :
    (s.call c).scopeOf? o key =
      if c = .unregister o then none else (c.scope? o key).or (s.scopeOf? o key) := by
  cases c with
  | put | switchUser => simp [call, put, switchUser, scopeOf?, Call.scope?]
  | register o' key' scope =>
    have hn : Call.register o' key' scope ≠ .unregister o := by simp
    rw [call, scopeOf?_register, Call.scope?, if_neg hn]
    split <;> rfl
  | unregister o' =>
    rw [call, scopeOf?_unregister]
    simp [Call.scope?]

variable (u : User) (cs : List Call) (o : Observer) (key : String)

theorem scopeOf?_after :
    (after { currentUser := u } cs).scopeOf? o key =
      latest? (Call.scope? o key) (standing o cs) := by
  induction cs using List.reverseRecOn with
  | nil => simp [after, scopeOf?, latest?, standing]
  | append_singleton cs c ih =>
    rw [after_concat, scopeOf?_call, ih, standing_concat]
    split
    · rfl
    · rw [latest?_concat]

theorem exists_scope? (xs : List Call) :
    (∃ scope, latest? (Call.scope? o key) xs = some scope) ↔
      ∃ scope, .register o key scope ∈ xs := by
  rw [exists_latest?]
  constructor
  · rintro ⟨c, hc, scope, hs⟩
    cases c with
    | register o' key' scope' =>
      obtain ⟨⟨rfl, rfl⟩, -⟩ := Option.ite_none_right_eq_some.mp hs
      exact ⟨scope', hc⟩
    | put | switchUser | unregister => cases hs
  · rintro ⟨scope, hc⟩
    exact ⟨_, hc, scope, if_pos ⟨rfl, rfl⟩⟩

theorem mem_keysOf_after :
    key ∈ (after { currentUser := u } cs).keysOf o ↔
      ∃ scope, .register o key scope ∈ standing o cs := by
  rw [mem_keysOf, ← exists_scope?]
  simp only [scopeOf?_after]

theorem keysOf_ascending (s : Settings) (o : Observer) : (s.keysOf o).Pairwise (· < ·) := by
  unfold keysOf
  cases s.observers[o]? with
  | none => exact .nil
  | some keys => exact (Std.ExtTreeMap.ordered_keys (t := keys)).imp compareOfLessAndEq_eq_lt.mp

end Subscriptions

section Notices

theorem interested_ascending (s : Settings) (key : String) (user : User) :
    (s.interested key user).Pairwise (· < ·) := by
  unfold interested
  rw [List.pairwise_map]
  exact (Std.ExtTreeMap.ordered_keys_toList.imp Std.compare_eq_lt.mp).filter _

theorem mem_interested_iff (s : Settings) (o : Observer) (key : String) (user : User) :
    o ∈ s.interested key user ↔
      s.scopeOf? o key = some .all ∨
      s.scopeOf? o key = some .current ∧ user = s.currentUser := by
  rw [mem_interested]
  constructor
  · rintro ⟨scope, hs, hh⟩
    cases scope with
    | all => exact .inl hs
    | current => exact .inr ⟨hs, by simpa [hears] using hh⟩
  · rintro (hs | ⟨hs, hu⟩)
    · exact ⟨.all, hs, rfl⟩
    · exact ⟨.current, hs, by simpa [hears] using hu⟩

/-- Without an observer a change is told to the same others. -/
theorem interested_unregister (s : Settings) (o : Observer) (key : String) (user : User) :
    (s.unregister o).interested key user = (s.interested key user).filter (· ≠ o) := by
  refine (interested_ascending _ _ _).eq_of_mem_iff ((interested_ascending _ _ _).filter _)
    fun o' => ?_
  rw [List.mem_filter, mem_interested_iff, mem_interested_iff, scopeOf?_unregister]
  by_cases h : o = o'
  · simp [h]
  · simp [h, Ne.symm h, unregister]

end Notices

/-- A store tells exactly the observers it has to. After any calls it gives for a key of a user what
was last put there, and it lists for an observer, in ascending order, the keys registered since the
observer was last unregistered, each with the scope of its last registration. A value that is put is
told, in ascending order, to the observers of its key with scope `all`, and for the user who is then
current to those with scope `current`. Unregistering an observer concerns no other one, and only a
put changes values. -/
theorem tells_observers (u : User) (cs : List Call) (o : Observer) (key : String) :
    let s := after { currentUser := u } cs
    (∀ user d, s.get key user d = (latest? (Call.stored? key user) cs).getD d) ∧
    (s.keysOf o).Pairwise (· < ·) ∧
    (key ∈ s.keysOf o ↔ ∃ scope, .register o key scope ∈ standing o cs) ∧
    s.scopeOf? o key = latest? (Call.scope? o key) (standing o cs) ∧
    s.currentUser = (latest? Call.user? cs).getD u ∧
    (∀ user value,
      (s.put key user value).1.Pairwise (· < ·) ∧
      (o ∈ (s.put key user value).1 ↔
        s.scopeOf? o key = some .all ∨
        s.scopeOf? o key = some .current ∧ user = s.currentUser) ∧
      ((s.unregister o).put key user value).1 = (s.put key user value).1.filter (· ≠ o)) ∧
    (∀ o', (s.unregister o).observers[o']? = if o = o' then none else s.observers[o']?) ∧
    (s.unregister o).values = s.values ∧
    (∀ scope, (s.register o key scope).values = s.values) ∧
    ∀ user, (s.switchUser user).values = s.values := by
  refine ⟨get_after u cs key, keysOf_ascending _ o, mem_keysOf_after u cs o key,
    scopeOf?_after u cs o key, currentUser_after u cs, fun user value => ?_, fun o' => ?_, rfl,
    fun _ => rfl, fun _ => rfl⟩
  · exact ⟨interested_ascending _ key user, mem_interested_iff _ o key user,
      interested_unregister _ o key user⟩
  · simp [unregister, Std.ExtTreeMap.getElem?_erase]

end AmbientPulse.Settings
