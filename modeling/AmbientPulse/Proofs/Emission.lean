import AmbientPulse.Proofs.Step

namespace AmbientPulse

theorem Platform.Passed.isArmed {i : Listener} {b : Bool} {p q : Platform} (h : p.Passed i b q) :
    q.registry.isArmed i = p.registry.isArmed i := by
  rw [Registry.isArmed, Registry.isArmed, Std.ExtTreeMap.contains_eq_isSome_getElem?, h.armed,
    Std.ExtTreeMap.contains_eq_isSome_getElem?]

namespace Watch

def attachCalls (w : Watch) (key : String) (scope : Scope) : List Effect :=
  if w.isWatching key then [] else [.observe w.observer key scope]

def detachCalls (w : Watch) : List Effect :=
  if w.isSubscribed then [.unobserve w.observer] else []

theorem trace_attach (w : Watch) (key : String) (scope : Scope) (p : Platform) :
    (w.attach key scope p).2.trace = p.trace ++ w.attachCalls key scope := by
  unfold attach attachCalls
  split
  · simp
  · rfl

theorem trace_detach (w : Watch) (p : Platform) :
    (w.detach p).2.trace = p.trace ++ w.detachCalls := by
  unfold detach detachCalls
  split
  · rfl
  · simp

end Watch

namespace Trigger

def requestCalls (on : Bool) (t : Trigger) (p : Platform) : List Effect :=
  if t.requested = on then [] else { t with requested := on }.calls p

def disableCalls (on : Bool) (t : Trigger) (p : Platform) : List Effect :=
  if t.disabled = on then [] else { t with disabled := on }.calls p

/-- All calls of a fire, from taking the wake lock to giving it back. -/
def fireCalls (t : Trigger) (m : Subtype.Matcher) (e : Event) (p : Platform) : List Effect :=
  t.strike m e ++ (if p.callback.breaking then [] else t.spent.calls p) ++ [.release]

/-- The setting that a bank watches on behalf of the trigger. -/
def gate? (t : Trigger) : Option String :=
  if t.configured then t.setting else none

def attachCalls (t : Trigger) (w : Watch) : List Effect :=
  t.gate?.elim [] (w.attachCalls · .all)

theorem attach_eq (t : Trigger) (w : Watch) (p : Platform) :
    t.attach w p = t.gate?.elim (w, p) (w.attach · .all p) := by
  unfold attach gate?
  cases t.configured <;> cases t.setting <;> rfl

theorem calls_passed {t : Trigger} {b : Bool} {p q : Platform} (h : p.Passed t.listener b q) :
    t.calls q = t.calls p := by
  have ha : q.registry.accepting = p.registry.accepting := congrArg Outlook.accepting h.outlook
  have hc : q.registry.confirming = p.registry.confirming := congrArg Outlook.confirming h.outlook
  unfold calls Registry.cancel
  rw [t.wanted_of_outlook h.outlook, ha, hc, h.isArmed]

/-- A trigger that is not registered has nothing to cancel. -/
theorem calls_of_unregistered {t : Trigger} (hr : t.registered = false) (p : Platform) :
    t.calls p =
      if t.wanted p.settings then
        t.sensor.elim [] fun s => [.request t.listener s p.registry.accepting]
      else [] := by
  unfold calls
  rw [hr]
  cases t.sensor <;> cases t.wanted p.settings <;> rfl

theorem requestCalls_passed (on : Bool) {t : Trigger} {b : Bool} {p q : Platform}
    (h : p.Passed t.listener b q) : t.requestCalls on q = t.requestCalls on p := by
  unfold requestCalls
  split
  · rfl
  · exact calls_passed (t := { t with requested := on }) h

theorem trace_setRequested (on : Bool) (t : Trigger) (p : Platform) :
    (t.setRequested on p).2.trace = p.trace ++ t.requestCalls on p := by
  unfold setRequested requestCalls
  split
  · simp
  · exact trace_update _ p

theorem trace_setDisabled (on : Bool) (t : Trigger) (p : Platform) :
    (t.setDisabled on p).2.trace = p.trace ++ t.disableCalls on p := by
  unfold setDisabled disableCalls
  split
  · simp
  · exact trace_update _ p

/-- A pulse leaves the registry and the store as they were, so what an update does after it is what
it would have done before. -/
theorem calls_struck (t u : Trigger) (m : Subtype.Matcher) (e : Event) (p : Platform) :
    u.calls (t.struck m e p) = u.calls p :=
  calls_passed (.struck t m e p)

theorem trace_fire (t : Trigger) (m : Subtype.Matcher) (e : Event) (p : Platform) :
    (t.fire m e p).2.trace = p.trace ++ t.fireCalls m e p := by
  unfold fireCalls
  cases hb : p.callback.breaking with
  | true => simp [(t.fire_broken m e hb).2, trace_struck]
  | false => simp [(t.fire_whole m e hb).2, trace_update, trace_struck, calls_struck]

theorem trace_attach (t : Trigger) (w : Watch) (p : Platform) :
    (t.attach w p).2.trace = p.trace ++ t.attachCalls w := by
  rw [attach_eq, attachCalls]
  cases t.gate? with
  | none => simp
  | some key => exact w.trace_attach key .all p

end Trigger

namespace World

/-- The calls that an act makes, read off the world it starts from. -/
def emits (w : World) : Act → List Effect
  | .request i on => w.bank.triggers[i]?.elim [] (·.requestCalls on w.platform)
  | .suppress i on => w.bank.triggers[i]?.elim [] (·.disableCalls on w.platform)
  | .update i => w.bank.triggers[i]?.elim [] (·.calls w.platform)
  | .attach i => w.bank.triggers[i]?.elim [] (·.attachCalls w.bank.watch)
  | .detach => w.bank.watch.detachCalls
  | .deliver l e => w.bank.triggers[l]?.elim [] fun t =>
      if t.registered then t.fireCalls w.bank.matcher e w.platform else []
  | .note _ => []
  | .shut => []

def emitted : World → List Act → List Effect
  | _, [] => []
  | w, a :: as => w.emits a ++ emitted (w.act a) as

theorem emitted_singleton (w : World) (a : Act) : w.emitted [a] = w.emits a :=
  List.append_nil _

theorem trace_change (w : World) (i : Nat) {f : Trigger → Platform → Trigger × Platform}
    {calls : Trigger → Platform → List Effect}
    (hf : ∀ t p, (f t p).2.trace = p.trace ++ calls t p) :
    (w.change i f).platform.trace =
      w.platform.trace ++ w.bank.triggers[i]?.elim [] (calls · w.platform) := by
  unfold change
  cases w.bank.triggers[i]? with
  | none => simp
  | some t => exact hf t w.platform

theorem trace_deliver (w : World) (l : Listener) (e : Event) :
    (w.act (.deliver l e)).platform.trace = w.platform.trace ++ w.emits (.deliver l e) := by
  simp only [act, emits, Bank.deliver]
  cases w.bank.triggers[l]? with
  | none => simp
  | some t => cases hr : t.registered <;> simp [hr, Trigger.trace_fire]

theorem trace_act (w : World) (a : Act) :
    (w.act a).platform.trace = w.platform.trace ++ w.emits a := by
  cases a with
  | request i on => exact w.trace_change i (Trigger.trace_setRequested on)
  | suppress i on => exact w.trace_change i (Trigger.trace_setDisabled on)
  | update i => exact w.trace_change i Trigger.trace_update
  | attach i =>
    simp only [act, emits]
    cases w.bank.triggers[i]? with
    | none => simp
    | some t => exact t.trace_attach _ _
  | detach => exact w.bank.watch.trace_detach _
  | deliver l e => exact w.trace_deliver l e
  | note | shut => simp [act, emits]

theorem trace_perform (w : World) (as : List Act) :
    (w.perform as).platform.trace = w.platform.trace ++ w.emitted as := by
  induction as generalizing w with
  | nil => simp [emitted]
  | cons a as ih => rw [perform_cons, ih, trace_act, emitted, List.append_assoc]

theorem emitted_append (w : World) (as bs : List Act) :
    w.emitted (as ++ bs) = w.emitted as ++ (w.perform as).emitted bs := by
  induction as generalizing w with
  | nil => rfl
  | cons a as ih => rw [List.cons_append, emitted, ih, emitted, perform_cons, List.append_assoc]

section Sweeps

variable {w : World} {rs : List Requirement} {r : Registry} {g : Nat → Act}
  (calls : Trigger → Platform → List Effect)

/-- Each of several triggers that get an act of their own makes the calls that it would make if it
were the first to get it. -/
theorem emitted_each (hw : w.Built rs r) (hg : ∀ i j, i ≠ j → (g i).concerns j = false)
    (he : ∀ v i, emits v (g i) = v.bank.triggers[i]?.elim [] (calls · v.platform))
    (hc : ∀ t p q, p.Passed t.listener false q → calls t q = calls t p) {is : List Nat}
    (hn : is.Nodup) :
    w.emitted (is.flatMap fun i => [g i]) =
      is.flatMap fun i => w.bank.triggers[i]?.elim [] (calls · w.platform) := by
  induction is generalizing w with
  | nil => rfl
  | cons i is ih =>
    obtain ⟨hi, hn⟩ := List.nodup_cons.mp hn
    rw [List.flatMap_cons, List.singleton_append, emitted, he, ih (hw.act _) hn, List.flatMap_cons]
    congr 1
    refine List.flatMap_congr fun j hj => ?_
    have hij : i ≠ j := fun h => hi (h ▸ hj)
    obtain ⟨ht, hp⟩ := act_passed hw.ordered (hg i j hij)
    rw [ht]
    cases hj : w.bank.triggers[j]? with
    | none => rfl
    | some t =>
      rw [← hw.ordered j t hj] at hp
      exact hc t _ _ hp

theorem emitted_forEach (hw : w.Built rs r) (hg : ∀ i j, i ≠ j → (g i).concerns j = false)
    (he : ∀ v i, emits v (g i) = v.bank.triggers[i]?.elim [] (calls · v.platform))
    (hc : ∀ t p q, p.Passed t.listener false q → calls t q = calls t p) :
    w.emitted (w.forEach fun i => [g i]) = w.bank.triggers.flatMap (calls · w.platform) := by
  have hr : (List.range w.bank.triggers.length).map
      (fun i => w.bank.triggers[i]?.elim [] (calls · w.platform)) =
        w.bank.triggers.map (calls · w.platform) := by
    refine List.ext_getElem (by simp) fun i hi _ => ?_
    have hi' : i < w.bank.triggers.length := by simpa using hi
    simp [hi']
  rw [forEach, emitted_each calls hw hg he hc List.nodup_range, List.flatMap_def, List.flatMap_def, hr]

end Sweeps

theorem effects_of_trace {w : World} {k : Turn} {es : List Effect}
    (h : (w.turn k).platform.trace = w.platform.trace ++ es) : w.effects k = es := by
  rw [effects, h, List.drop_left]

/-- The calls of a turn are those of its acts, and nothing that happens outside is a call. -/
theorem effects_eq (w : World) (k : Turn) : w.effects k = w.emitted (w.acts k) := by
  obtain ⟨o, rfl⟩ | ⟨-, hp⟩ := w.turn_cases k
  · simp [effects, turn, outside, acts, emitted]
  · exact effects_of_trace (by rw [hp, trace_perform])

theorem effects_deliver {w : World} (hc : w.closed = false) (l : Listener) (e : Event) :
    w.effects (.command (.deliver l e)) = w.emits (.deliver l e) := by
  rw [effects_eq, acts, hc]
  exact w.emitted_singleton _

theorem trace_turn (w : World) (k : Turn) :
    (w.turn k).platform.trace = w.platform.trace ++ w.effects k := by
  obtain ⟨o, rfl⟩ | ⟨-, hp⟩ := w.turn_cases k
  · simp [effects, turn, outside]
  · rw [effects_eq, hp, trace_perform]

end World

end AmbientPulse
