import Mathlib.Data.List.DropRight
import AmbientPulse.Proofs.Emission

namespace AmbientPulse

namespace Watch

/-- A watch and the store agree on the keys of its observer, and on the scope that each is held
with. -/
structure Keeps (w : Watch) (s : Settings) (held : String → Option Scope) : Prop where
  watching : ∀ key, w.isWatching key = (held key).isSome
  scope : ∀ key, s.scopeOf? w.observer key = held key

/-- An operation that tells the store all it does to the keys of a watch, and has nothing to do with
other observers. -/
structure Tends (f : Watch → Platform → Watch × Platform)
    (g : String → Option Scope → Option Scope) : Prop where
  observer : ∀ w p, (f w p).1.observer = w.observer
  others : ∀ w p o, o ≠ w.observer →
    (f w p).2.settings.observers[o]? = p.settings.observers[o]?
  keeps : ∀ {w p held}, w.Keeps p.settings held →
    (f w p).1.Keeps (f w p).2.settings fun key => g key (held key)

section Keeps

variable {w : Watch} {s : Settings} {held : String → Option Scope}

theorem Keeps.mem_keysOf (h : w.Keeps s held) (key : String) :
    w.isWatching key = true ↔ key ∈ s.keysOf w.observer := by
  rw [Settings.mem_keysOf, h.watching, Option.isSome_iff_exists]
  simp only [h.scope]

theorem isSubscribed_iff (w : Watch) :
    w.isSubscribed = true ↔ ∃ key, w.isWatching key = true := by
  rw [isSubscribed, Bool.not_eq_true', ← Bool.not_eq_true, Std.ExtTreeSet.isEmpty_iff,
    Std.ExtTreeSet.eq_empty_iff_forall_contains]
  simp only [not_forall, Bool.not_eq_false, isWatching]

theorem Keeps.isSubscribed (h : w.Keeps s held) :
    w.isSubscribed = true ↔ s.keysOf w.observer ≠ [] := by
  simp only [isSubscribed_iff, h.mem_keysOf, ne_eq, List.eq_nil_iff_forall_not_mem, not_forall,
    not_not]

theorem Keeps.of_observers (h : w.Keeps s held) {s' : Settings}
    (hs : s'.observers[w.observer]? = s.observers[w.observer]?) : w.Keeps s' held :=
  ⟨h.watching, fun key => by rw [← h.scope, Settings.scopeOf?, Settings.scopeOf?, hs]⟩

end Keeps

theorem tends_attach (key : String) (scope : Scope) :
    Tends (·.attach key scope) fun key' held =>
      held.or (if key = key' then some scope else none) where
  observer w p := by
    simp only [attach]
    split <;> rfl
  others w p o ho := by
    simp only [attach]
    split
    · rfl
    · simp [Platform.observe, Platform.record, Platform.note, Settings.register,
        Std.ExtTreeMap.getElem?_insert, Ne.symm ho]
  keeps {w p held} h := by
    simp only [attach]
    split
    · next hk =>
      -- What is watched is held already, and stays held as it is.
      have hh : (fun key' => (held key').or (if key = key' then some scope else none)) = held := by
        funext key'
        by_cases hx : key = key'
        · subst hx
          rw [h.watching] at hk
          obtain ⟨s, hs⟩ := Option.isSome_iff_exists.mp hk
          simp [hs]
        · simp [hx]
      rw [hh]
      exact h
    · next hk =>
      have hn : held key = none := by simpa [h.watching] using hk
      refine ⟨fun key' => ?_, fun key' => ?_⟩
      · by_cases hx : key = key'
        · subst hx
          simp [isWatching, hn]
        · have hc : (compare key key' == .eq) = false := by simpa using hx
          have hw := h.watching key'
          simp only [isWatching] at hw
          simp [isWatching, Std.ExtTreeSet.contains_insert, hc, hx, hw]
      · refine (Settings.scopeOf?_register ..).trans ?_
        by_cases hx : key = key'
        · subst hx
          simp [hn]
        · simpa [hx] using h.scope key'

theorem tends_detach : Tends detach fun _ _ => none where
  observer w p := by
    simp only [detach]
    split <;> rfl
  others w p o ho := by
    simp only [detach]
    split
    · simp [Platform.unobserve, Platform.record, Platform.note, Settings.unregister,
        Std.ExtTreeMap.getElem?_erase, Ne.symm ho]
    · rfl
  keeps {w p held} h := by
    simp only [detach]
    split
    · refine ⟨fun key => by simp [isWatching], fun key => ?_⟩
      exact (Settings.scopeOf?_unregister ..).trans (if_pos rfl)
    · next hs =>
      have hn : held = fun _ => none := by
        funext key
        have hk : w.isWatching key = false :=
          Bool.eq_false_iff.mpr fun hk => hs (w.isSubscribed_iff.mpr ⟨key, hk⟩)
        simpa [h.watching] using hk
      rw [← hn]
      exact h

end Watch

/-- Any number of watches beside one store. -/
structure Audience where
  watches : List Watch
  platform : Platform

namespace Audience

/-- What a watch does, and what happens to the store without one. -/
inductive Move where
  | attach (i : Nat) (key : String) (scope : Scope)
  | detach (i : Nat)
  | put (key : String) (user : User) (value : Bool)
  | switchUser (user : User)
  deriving DecidableEq, Repr

/-- New watches beside a new store. -/
def fresh (os : List Observer) (r : Registry) (u : User) : Audience :=
  ⟨os.map ({ observer := · }), { registry := r, settings := { currentUser := u } }⟩

def change (a : Audience) (i : Nat) (f : Watch → Platform → Watch × Platform) : Audience :=
  match a.watches[i]? with
  | none => a
  | some w => ⟨a.watches.set i (f w a.platform).1, (f w a.platform).2⟩

def move (a : Audience) : Move → Audience
  | .attach i key scope => a.change i (·.attach key scope)
  | .detach i => a.change i Watch.detach
  | .put key user value => { a with platform := (a.platform.put key user value).2 }
  | .switchUser user => { a with platform := a.platform.switchUser user }

def run (a : Audience) (ms : List Move) : Audience :=
  ms.foldl move a

theorem run_concat (a : Audience) (ms : List Move) (m : Move) :
    a.run (ms ++ [m]) = (a.run ms).move m := by
  simp [run]

section History

def Move.owner? : Move → Option Nat
  | .attach i _ _ | .detach i => some i
  | .put .. | .switchUser _ => none

def Move.scope? (i : Nat) (key : String) : Move → Option Scope
  | .attach j key' scope => if j = i ∧ key' = key then some scope else none
  | _ => none

/-- The moves since a watch was last detached. -/
def standing (i : Nat) (ms : List Move) : List Move :=
  ms.rtakeWhile (· ≠ .detach i)

/-- The scope with which a watch first attached a key since it was last detached. -/
def held? (i : Nat) (ms : List Move) (key : String) : Option Scope :=
  (standing i ms).findSome? (Move.scope? i key)

theorem standing_concat (i : Nat) (ms : List Move) (m : Move) :
    standing i (ms ++ [m]) = if m = .detach i then [] else standing i ms ++ [m] := by
  by_cases h : m = .detach i <;> simp [standing, h]

theorem held?_concat (i : Nat) (ms : List Move) (m : Move) (key : String) :
    held? i (ms ++ [m]) key =
      if m = .detach i then none else (held? i ms key).or (m.scope? i key) := by
  rw [held?, standing_concat]
  split
  · rfl
  · cases h : m.scope? i key <;> simp [held?, List.findSome?_append, h]

def Move.attaches (i : Nat) : Move → Bool
  | .attach j _ _ => j == i
  | _ => false

/-- A watch holds a key iff it attached any since it was last detached. -/
theorem exists_held? (i : Nat) (ms : List Move) :
    (∃ key, (held? i ms key).isSome = true) ↔ (standing i ms).any (Move.attaches i) = true := by
  simp only [held?, List.findSome?_isSome_iff, List.any_eq_true]
  constructor
  · rintro ⟨key, m, hm, hs⟩
    refine ⟨m, hm, ?_⟩
    cases m with
    | attach j key' scope =>
      by_cases hj : j = i
      · simp [Move.attaches, hj]
      · simp [Move.scope?, hj] at hs
    | detach | put | switchUser => cases hs
  · rintro ⟨m, hm, hs⟩
    cases m with
    | attach j key scope => exact ⟨key, _, hm, by simpa [Move.scope?, Move.attaches] using hs⟩
    | detach | put | switchUser => cases hs

/-- The calls that a move makes after some others. -/
def Move.calls (os : List Observer) (ms : List Move) : Move → List Effect
  | .attach i key scope =>
    if (held? i ms key).isSome then [] else os[i]?.toList.map (.observe · key scope)
  | .detach i =>
    if (standing i ms).any (Move.attaches i) then os[i]?.toList.map .unobserve else []
  | .put .. | .switchUser _ => []

end History

/-- Every watch agrees with the store on what the moves so far make it hold. -/
structure InStep (os : List Observer) (ms : List Move) (a : Audience) : Prop where
  observer : ∀ i : Nat, a.watches[i]?.map Watch.observer = os[i]?
  keeps : ∀ {i : Nat} {w : Watch}, a.watches[i]? = some w → w.Keeps a.platform.settings (held? i ms)

section Steps

variable {os : List Observer} {ms : List Move} {a : Audience}

theorem change_none {i : Nat} (f : Watch → Platform → Watch × Platform)
    (h : a.watches[i]? = none) : a.change i f = a := by
  rw [change, h]

theorem change_some {i : Nat} {w : Watch} (f : Watch → Platform → Watch × Platform)
    (h : a.watches[i]? = some w) :
    a.change i f = ⟨a.watches.set i (f w a.platform).1, (f w a.platform).2⟩ := by
  rw [change, h]

theorem watches_change (a : Audience) (f : Watch → Platform → Watch × Platform) {i j : Nat}
    (hj : i ≠ j) : (a.change i f).watches[j]? = a.watches[j]? := by
  cases hw : a.watches[i]? with
  | none => rw [change_none f hw]
  | some w => rw [change_some f hw, List.getElem?_set_ne hj]

theorem InStep.fresh (os : List Observer) (r : Registry) (u : User) :
    InStep os [] (fresh os r u) where
  observer i := by
    simp [Audience.fresh, Function.comp_def]
  keeps {i w} h := by
    obtain ⟨o, -, rfl⟩ : ∃ o, os[i]? = some o ∧ ({ observer := o } : Watch) = w := by
      simpa [Audience.fresh] using h
    refine ⟨fun key => ?_, fun key => ?_⟩
    · simp [Watch.isWatching, held?, standing]
    · simp [Audience.fresh, Settings.scopeOf?, held?, standing]

theorem InStep.change (h : InStep os ms a) (hn : os.Nodup) {i : Nat} {m : Move}
    {f : Watch → Platform → Watch × Platform} {g : String → Option Scope → Option Scope}
    (ht : Watch.Tends f g) (hi : ∀ key, held? i (ms ++ [m]) key = g key (held? i ms key))
    (hj : ∀ j, j ≠ i → held? j (ms ++ [m]) = held? j ms) :
    InStep os (ms ++ [m]) (a.change i f) := by
  cases hw : a.watches[i]? with
  | none =>
    rw [change_none f hw]
    refine ⟨h.observer, fun {j v} hv => ?_⟩
    rw [hj j fun he => by simp [← he, hv] at hw]
    exact h.keeps hv
  | some w =>
    have hwo : os[i]? = some w.observer := by rw [← h.observer, hw, Option.map_some]
    rw [change_some f hw]
    refine ⟨fun j => ?_, fun {j v} hv => ?_⟩
    · by_cases he : i = j
      · subst he
        rw [List.getElem?_set_self (List.getElem?_eq_some_iff.mp hw).1, hwo, Option.map_some,
          ht.observer]
      · rw [List.getElem?_set_ne he, h.observer]
    · by_cases he : i = j
      · subst he
        rw [List.getElem?_set_self (List.getElem?_eq_some_iff.mp hw).1] at hv
        cases hv
        rw [funext hi]
        exact ht.keeps (h.keeps hw)
      · rw [List.getElem?_set_ne he] at hv
        rw [hj j (Ne.symm he)]
        -- The observers are distinct, so this one's entries are untouched.
        refine (h.keeps hv).of_observers (ht.others w a.platform v.observer fun ho => he ?_)
        refine (List.getElem?_inj (List.getElem?_eq_some_iff.mp hwo).1 hn).mp ?_
        rw [hwo, ← h.observer j, hv, Option.map_some, ho]

theorem InStep.move (h : InStep os ms a) (hn : os.Nodup) (m : Move) :
    InStep os (ms ++ [m]) (a.move m) := by
  have hs : (∀ j key, m ≠ .detach j ∧ m.scope? j key = none) → ∀ j,
      held? j (ms ++ [m]) = held? j ms := fun hm j => by
    funext key
    rw [held?_concat, if_neg (hm j key).1, (hm j key).2, Option.or_none]
  cases m with
  | attach i key scope =>
    refine h.change hn (Watch.tends_attach key scope) (fun key' => ?_) fun j hj => ?_
    · simp [held?_concat, Move.scope?]
    · funext key'
      simp [held?_concat, Move.scope?, Ne.symm hj]
  | detach i =>
    refine h.change hn Watch.tends_detach (fun key => ?_) fun j hj => ?_
    · simp [held?_concat]
    · funext key
      simp [held?_concat, Move.scope?, Ne.symm hj]
  | put key user value =>
    refine ⟨h.observer, fun {j v} hv => ?_⟩
    rw [hs (fun _ _ => ⟨by simp, rfl⟩)]
    exact (h.keeps hv).of_observers rfl
  | switchUser user =>
    refine ⟨h.observer, fun {j v} hv => ?_⟩
    rw [hs (fun _ _ => ⟨by simp, rfl⟩)]
    exact (h.keeps hv).of_observers rfl

theorem InStep.run (hn : os.Nodup) (r : Registry) (u : User) (ms : List Move) :
    InStep os ms ((Audience.fresh os r u).run ms) := by
  induction ms using List.reverseRecOn with
  | nil => exact .fresh os r u
  | append_singleton ms m ih =>
    rw [run_concat]
    exact ih.move hn m

theorem InStep.trace_move (h : InStep os ms a) (m : Move) :
    (a.move m).platform.trace = a.platform.trace ++ m.calls os ms := by
  cases m with
  | attach i key scope =>
    rw [Audience.move, Move.calls, ← h.observer]
    cases hw : a.watches[i]? with
    | none => simp [change_none _ hw]
    | some w =>
      rw [change_some _ hw, w.trace_attach, Watch.attachCalls, (h.keeps hw).watching]
      rfl
  | detach i =>
    rw [Audience.move, Move.calls, ← h.observer]
    cases hw : a.watches[i]? with
    | none => simp [change_none _ hw]
    | some w =>
      have hs : w.isSubscribed = (standing i ms).any (Move.attaches i) := by
        rw [Bool.eq_iff_iff, w.isSubscribed_iff, ← exists_held?]
        simp only [(h.keeps hw).watching]
      rw [change_some _ hw, w.trace_detach, Watch.detachCalls, hs]
      rfl
  | put | switchUser => simp [Audience.move, Move.calls, Platform.put, Platform.switchUser]

theorem watches_move (a : Audience) {m : Move} {j : Nat} (hj : m.owner? ≠ some j) :
    (a.move m).watches[j]? = a.watches[j]? := by
  cases m with
  | attach i key scope => exact a.watches_change _ fun hi => hj (congrArg some hi)
  | detach i => exact a.watches_change _ fun hi => hj (congrArg some hi)
  | put | switchUser => rfl

theorem InStep.observers_change (h : InStep os ms a)
    {f : Watch → Platform → Watch × Platform} {g : String → Option Scope → Option Scope}
    (ht : Watch.Tends f g) {i : Nat} {o : Observer} (ho : os[i]? ≠ some o) :
    (a.change i f).platform.settings.observers[o]? = a.platform.settings.observers[o]? := by
  cases hw : a.watches[i]? with
  | none => rw [change_none f hw]
  | some w =>
    rw [change_some f hw]
    refine ht.others w a.platform o fun he => ho ?_
    rw [← h.observer, hw, he, Option.map_some]

theorem InStep.observers_move (h : InStep os ms a) {m : Move} {o : Observer}
    (ho : m.owner?.bind (os[·]?) ≠ some o) :
    (a.move m).platform.settings.observers[o]? = a.platform.settings.observers[o]? := by
  cases m with
  | attach i key scope => exact h.observers_change (Watch.tends_attach key scope) ho
  | detach i => exact h.observers_change Watch.tends_detach ho
  | put | switchUser => rfl

end Steps

section Spans

/-- The calls since an observer was last unregistered. -/
def span (o : Observer) (es : List Effect) : List Effect :=
  es.rtakeWhile (· ≠ .unobserve o)

def observes (o : Observer) (key : String) : Effect → Bool
  | .observe o' key' _ => o' == o && key' == key
  | _ => false

theorem span_concat (o : Observer) (es : List Effect) (e : Effect) :
    span o (es ++ [e]) = if e = .unobserve o then [] else span o es ++ [e] := by
  by_cases h : e = .unobserve o <;> simp [span, h]

theorem countP_observe (o o' : Observer) (key key' : String) (scope : Scope) (es : List Effect) :
    (span o (es ++ [.observe o' key' scope])).countP (observes o key) =
      (span o es).countP (observes o key) + (o' == o && key' == key).toNat := by
  rw [span_concat, if_neg (by simp), List.countP_append]
  cases h : o' == o && key' == key <;> simp [observes, h]

theorem countP_unobserve (o o' : Observer) (key : String) (es : List Effect) :
    (span o (es ++ [.unobserve o'])).countP (observes o key) =
      if o' = o then 0 else (span o es).countP (observes o key) := by
  rw [span_concat]
  by_cases h : o' = o <;> simp [h, observes]

variable {os : List Observer} {i : Nat} {o : Observer}

/-- In the calls since an observer was last unregistered, a key that is held is registered once and
no other one at all. -/
theorem countP_calls (hn : os.Nodup) (ho : os[i]? = some o) (ms : List Move) (m : Move)
    (key : String) {es : List Effect}
    (h : (span o es).countP (observes o key) = (held? i ms key).isSome.toNat) :
    (span o (es ++ m.calls os ms)).countP (observes o key) =
      (held? i (ms ++ [m]) key).isSome.toNat := by
  have hi : ∀ {j : Nat} {o' : Observer}, os[j]? = some o' → (o' = o ↔ j = i) :=
    fun {j o'} hj => by
      rw [← List.getElem?_inj (List.getElem?_eq_some_iff.mp hj).1 hn, hj, ho, Option.some_inj]
  rw [held?_concat]
  cases m with
  | attach j key' scope =>
    simp only [Move.calls, Move.scope?, reduceCtorEq, if_false]
    by_cases hx : j = i ∧ key' = key
    · obtain ⟨rfl, rfl⟩ := hx
      cases hk : held? j ms key' with
      | some s => simp [h, hk]
      | none => simp [ho, countP_observe, h, hk]
    · rw [if_neg hx, Option.or_none, ← h]
      split
      · rw [List.append_nil]
      · cases hj : os[j]? with
        | none => simp
        | some o' =>
          have hb : (o' == o && key' == key) = false := by
            rw [← Bool.not_eq_true]
            simpa [hi hj] using hx
          simp [countP_observe, hb]
  | detach j =>
    simp only [Move.calls, Move.scope?, Option.or_none, Move.detach.injEq]
    by_cases hj : j = i
    · subst hj
      split
      · simp [ho, countP_unobserve]
      · next hs =>
        have hk : held? j ms key = none := by
          rw [← exists_held?, not_exists] at hs
          simpa using hs key
        simp [h, hk]
    · rw [if_neg hj, ← h]
      split
      · cases hj' : os[j]? with
        | none => simp
        | some o' => simp [countP_unobserve, hi hj', hj]
      · rw [List.append_nil]
  | put | switchUser => simp [Move.calls, Move.scope?, h]

theorem countP_run (hn : os.Nodup) (ho : os[i]? = some o) (r : Registry) (u : User)
    (ms : List Move) (key : String) :
    (span o ((fresh os r u).run ms).platform.trace).countP (observes o key) =
      (held? i ms key).isSome.toNat := by
  induction ms using List.reverseRecOn with
  | nil => rfl
  | append_singleton ms m ih =>
    rw [run_concat, (InStep.run hn r u ms).trace_move m]
    exact countP_calls hn ho ms m key ih

end Spans

/-- Watches of distinct observers that share a store stay in step with it, and apart. After any
moves a watch and the store agree on the keys of its observer, each held with the scope of its first
attachment since the watch was last detached. A key is registered when it is first attached, once
until the observer is unregistered, and that happens when a watch is detached that has attached any.
No move concerns another watch or another observer. -/
theorem watches_in_step {os : List Observer} (hn : os.Nodup) (r : Registry) (u : User)
    (ms : List Move) :
    let a := (fresh os r u).run ms
    let s := a.platform.settings
    (∀ (i : Nat) o, os[i]? = some o → ∃ w, a.watches[i]? = some w ∧ w.observer = o ∧
      (w.isSubscribed = true ↔ s.keysOf o ≠ []) ∧
      ∀ key, (w.isWatching key = true ↔ key ∈ s.keysOf o) ∧
        s.scopeOf? o key = held? i ms key ∧
        (span o a.platform.trace).countP (observes o key) = (held? i ms key).isSome.toNat) ∧
    ∀ m : Move,
      (a.move m).platform.trace = a.platform.trace ++ m.calls os ms ∧
      (∀ j : Nat, m.owner? ≠ some j → (a.move m).watches[j]? = a.watches[j]?) ∧
      ∀ o, m.owner?.bind (os[·]?) ≠ some o →
        (a.move m).platform.settings.observers[o]? = s.observers[o]? := by
  intro a s
  have h : InStep os ms a := .run hn r u ms
  refine ⟨fun i o ho => ?_, fun m => ⟨h.trace_move m, fun j hj => ?_, fun o ho => ?_⟩⟩
  · obtain ⟨w, hw, rfl⟩ := Option.map_eq_some_iff.mp ((h.observer i).trans ho)
    have hk := h.keeps hw
    exact ⟨w, hw, rfl, hk.isSubscribed, fun key =>
      ⟨hk.mem_keysOf key, hk.scope key, countP_run hn ho r u ms key⟩⟩
  · exact watches_move a hj
  · exact h.observers_move ho

/-- The second attachment of a key does not change its scope, and the second detachment makes no
call. -/
theorem watches_in_step_two :
    let os : List Observer := [1, 2]
    let ms : List Move := [.attach 0 "x" .all, .attach 1 "x" .current, .attach 0 "x" .current,
      .attach 0 "y" .current, .detach 1, .detach 1]
    let a := (fresh os (.standard "") User.system).run ms
    os.Nodup ∧ os[0]? = some 1 ∧ a.platform.settings.scopeOf? 1 "x" = some .all ∧
      (a.move (.detach 0)).platform.trace = a.platform.trace ++ [.unobserve 1] ∧
      (a.move (.detach 1)).platform.trace = a.platform.trace ++ [] ∧
      (a.move (.detach 0)).platform.settings.observers[(2 : Observer)]? =
        a.platform.settings.observers[(2 : Observer)]? := by
  intro os ms a
  have hn : os.Nodup := by decide
  have ho : os[0]? = some 1 := rfl
  obtain ⟨h, hm⟩ := watches_in_step hn (.standard "") User.system ms
  obtain ⟨_, _, _, _, hk⟩ := h 0 1 ho
  obtain ⟨h₀, -, h₂⟩ := hm (.detach 0)
  obtain ⟨h₁, -, -⟩ := hm (.detach 1)
  have hx : held? 0 ms "x" = some .all := by decide
  have hc₀ : (Move.detach 0).calls os ms = [.unobserve 1] := by decide
  have hc₁ : (Move.detach 1).calls os ms = [] := by decide
  rw [hc₀] at h₀
  rw [hc₁] at h₁
  simp only [a]
  exact ⟨hn, ho, (hk "x").2.1.trans hx, h₀, h₁, h₂ 2 (by decide)⟩

end Audience

end AmbientPulse
