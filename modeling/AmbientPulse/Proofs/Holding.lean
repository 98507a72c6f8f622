import AmbientPulse.Proofs.Overtaken
import AmbientPulse.Proofs.Refusal

namespace AmbientPulse

/-- How far the handling of a fire has come, by the calls that it has made. -/
inductive Grip where
  | free
  | taken
  | pulsed
  deriving DecidableEq, Repr

def Effect.isPulse : Effect → Bool
  | .pulse _ _ => true
  | _ => false

/-- Calls that are made without the wake lock. -/
def Effect.isFree : Effect → Bool
  | .request _ _ _ => true
  | .cancel _ _ _ => true
  | .observe _ _ _ => true
  | .unobserve _ => true
  | _ => false

theorem Effect.isFree_of_registers {e : Effect} (h : e.registers = true) : e.isFree = true := by
  cases e with
  | request | cancel => rfl
  | observe | unobserve | acquire | release | metric | pulse => cases h

namespace Grip

/-- Whoever takes the wake lock measures and pulses under it, may request one more registration, and
gives it back. It is not taken twice, and all else is called without it. -/
def after? : Grip → Effect → Option Grip
  | free, .acquire => some taken
  | taken, .metric _ => some taken
  | taken, .pulse _ _ => some pulsed
  | pulsed, .request _ _ _ => some pulsed
  | pulsed, .release => some free
  | free, e => if e.isFree then some free else none
  | _, _ => none

def locks : Grip → Nat
  | free => 0
  | taken => 1
  | pulsed => 1

def pulses : Grip → Nat
  | free => 0
  | taken => 0
  | pulsed => 1

theorem counts_step {e : Effect} {g g' : Grip} (h : g.after? e = some g') :
    [e].count .acquire + g.locks = [e].count .release + g'.locks ∧
      [e].countP Effect.isPulse + g.pulses = [e].count .release + g'.pulses := by
  cases g with
  | free =>
    cases e with
    | acquire | request | cancel | observe | unobserve =>
      obtain rfl := Option.some.inj h
      simp [locks, pulses, Effect.isPulse]
    | release | metric | pulse => cases h
  | taken =>
    cases e with
    | metric | pulse =>
      obtain rfl := Option.some.inj h
      simp [locks, pulses, Effect.isPulse]
    | acquire | request | cancel | observe | unobserve | release => cases h
  | pulsed =>
    cases e with
    | request | release =>
      obtain rfl := Option.some.inj h
      simp [locks, pulses, Effect.isPulse]
    | acquire | cancel | observe | unobserve | metric | pulse => cases h

theorem counts_of_after {es : List Effect} {g g' : Grip} (h : es.foldlM after? g = some g') :
    es.count .acquire + g.locks = es.count .release + g'.locks ∧
      es.countP Effect.isPulse + g.pulses = es.count .release + g'.pulses := by
  induction es generalizing g with
  | nil =>
    obtain rfl : g = g' := by simpa using h
    simp
  | cons e es ih =>
    rw [List.foldlM_cons] at h
    obtain ⟨g₁, h₁, h⟩ := Option.bind_eq_some_iff.mp h
    obtain ⟨hl₁, hp₁⟩ := counts_step h₁
    obtain ⟨hl, hp⟩ := ih h
    rw [← List.singleton_append, List.count_append, List.count_append, List.countP_append]
    omega

theorem after_free {es : List Effect} (h : ∀ e ∈ es, e.isFree = true) :
    es.foldlM after? free = some free := by
  induction es with
  | nil => rfl
  | cons e es ih =>
    have he : after? free e = some free := by
      have hf := h e (by simp)
      cases e with
      | request | cancel | observe | unobserve => rfl
      | acquire | release | metric | pulse => cases hf
    rw [List.foldlM_cons, he]
    exact ih fun c hc => h c (by simp [hc])

end Grip

/-- One platform comes of another by calls that deal with the wake lock as they should, and the lock
has counted them. -/
structure Platform.Balanced (p q : Platform) (es : List Effect) : Prop where
  trace : q.trace = p.trace ++ es
  grips : es.foldlM Grip.after? .free = some .free
  acquired : q.wakeLock.acquired = p.wakeLock.acquired + es.count .acquire
  released : q.wakeLock.released = p.wakeLock.released + es.count .release

namespace Platform.Balanced

variable {p q r : Platform} {es fs : List Effect}

theorem free (ht : q.trace = p.trace ++ es) (hk : q.wakeLock = p.wakeLock)
    (he : ∀ e ∈ es, e.isFree = true) : p.Balanced q es := by
  have hc : ∀ e : Effect, e.isFree = false → es.count e = 0 := fun e hf =>
    List.count_eq_zero.mpr fun h => by simp [he e h] at hf
  exact ⟨ht, Grip.after_free he, by rw [hk, hc .acquire rfl]; rfl, by rw [hk, hc .release rfl]; rfl⟩

theorem quiet (ht : q.trace = p.trace) (hk : q.wakeLock = p.wakeLock) : p.Balanced q [] :=
  free (by simp [ht]) hk (by simp)

theorem trans (h : p.Balanced q es) (h' : q.Balanced r fs) : p.Balanced r (es ++ fs) where
  trace := by rw [h'.trace, h.trace, List.append_assoc]
  grips := by
    rw [List.foldlM_append, h.grips]
    exact h'.grips
  acquired := by rw [h'.acquired, h.acquired, List.count_append, Nat.add_assoc]
  released := by rw [h'.released, h.released, List.count_append, Nat.add_assoc]

theorem update (t : Trigger) (p : Platform) : p.Balanced (t.update p).2 (t.calls p) :=
  free (t.trace_update p) (t.wakeLock_update p) fun c hc =>
    Effect.isFree_of_registers (t.calls_registers p c hc)

theorem setRequested (on : Bool) (t : Trigger) (p : Platform) :
    p.Balanced (t.setRequested on p).2 (t.requestCalls on p) := by
  unfold Trigger.setRequested Trigger.requestCalls
  split
  · exact quiet rfl rfl
  · exact update _ p

theorem setDisabled (on : Bool) (t : Trigger) (p : Platform) :
    p.Balanced (t.setDisabled on p).2 (t.disableCalls on p) := by
  unfold Trigger.setDisabled Trigger.disableCalls
  split
  · exact quiet rfl rfl
  · exact update _ p

theorem attach (t : Trigger) (w : Watch) (p : Platform) :
    p.Balanced (t.attach w p).2 (t.attachCalls w) := by
  refine free (t.trace_attach w p) ?_ ?_
  · rw [t.attach_eq]
    cases t.gate? with
    | none => rfl
    | some key =>
      rw [Option.elim_some, Watch.attach]
      split <;> rfl
  · unfold Trigger.attachCalls
    cases t.gate? with
    | none => simp
    | some key =>
      rw [Option.elim_some, Watch.attachCalls]
      split <;> simp [Effect.isFree]

theorem detach (w : Watch) (p : Platform) : p.Balanced (w.detach p).2 w.detachCalls := by
  refine free (w.trace_detach p) ?_ ?_
  · unfold Watch.detach
    split <;> rfl
  · unfold Watch.detachCalls
    split <;> simp [Effect.isFree]

end Platform.Balanced

namespace Trigger

variable (t : Trigger) (m : Subtype.Matcher) (e : Event) (p : Platform)

theorem strike_grips : (t.strike m e).foldlM Grip.after? .free = some .pulsed := by
  unfold strike
  split <;> rfl

theorem calls_spent :
    t.spent.calls p =
      if t.wanted p.settings then
        t.sensor.elim [] fun s => [.request t.listener s p.registry.accepting]
      else [] :=
  calls_of_unregistered rfl p

theorem calls_spent_grips : (t.spent.calls p).foldlM Grip.after? .pulsed = some .pulsed := by
  rw [calls_spent]
  split
  · cases t.sensor <;> rfl
  · rfl

theorem wakeLock_fire : (t.fire m e p).2.wakeLock = p.wakeLock.acquire.release := by
  cases hb : p.callback.breaking with
  | true =>
    rw [(t.fire_broken m e hb).2]
    exact congrArg WakeLock.release (t.wakeLock_struck m e p)
  | false =>
    rw [(t.fire_whole m e hb).2]
    exact congrArg WakeLock.release ((wakeLock_update _ _).trans (t.wakeLock_struck m e p))

theorem fireCalls_grips : (t.fireCalls m e p).foldlM Grip.after? .free = some .free := by
  unfold fireCalls
  rw [List.foldlM_append, List.foldlM_append, strike_grips]
  cases p.callback.breaking with
  | true => rfl
  | false =>
    have h := t.calls_spent_grips p
    simp only [Bool.false_eq_true, if_false, Option.bind_eq_bind, Option.bind_some]
    rw [h]
    rfl

theorem fireCalls_acquires : (t.fireCalls m e p).count .acquire = 1 := by
  have hc : (if p.callback.breaking then [] else t.spent.calls p).count .acquire = 0 := by
    rw [List.count_eq_zero]
    split
    · simp
    · exact fun h => by cases t.spent.calls_registers p _ h
  have hs : (t.strike m e).count .acquire = 1 := by
    unfold strike
    split <;> simp
  simp [fireCalls, hs, hc]

section Shape

variable {t : Trigger} {s : Sensor} (m : Subtype.Matcher) (e : Event) (p : Platform)

/-- A trigger with a sensor is requested again after its fire, if the receiver of the pulse has held
out and nothing speaks against the trigger now. -/
def rearms (t : Trigger) (p : Platform) : Bool :=
  !p.callback.breaking && t.configured && t.requested && !t.disabled &&
    t.setting.all fun key => p.settings.get key p.settings.currentUser true

theorem rearms_eq (hs : t.sensor = some s) :
    t.rearms p = (!p.callback.breaking && t.wanted p.settings) := by
  simp [rearms, wanted, enabled_eq, hs, Bool.and_assoc]

theorem fireCalls_eq (hs : t.sensor = some s) :
    t.fireCalls m e p =
      [.acquire] ++ (if s.category = .pickUpGesture then [.metric e.subtype] else []) ++
        [.pulse t.reason (s.category = .pickUpGesture && m.admits e.subtype)] ++
        (if t.rearms p then [.request t.listener s p.registry.accepting] else []) ++ [.release] := by
  rw [rearms_eq p hs]
  unfold fireCalls strike
  rw [calls_spent, hs]
  by_cases hc : s.category = .pickUpGesture <;> cases p.callback.breaking <;>
    cases t.wanted p.settings <;> simp [hc]

theorem fire_trigger (hs : t.sensor = some s) :
    (t.fire m e p).1.2 = { t with registered := t.rearms p && p.registry.accepting } := by
  rw [rearms_eq p hs]
  cases hb : p.callback.breaking with
  | true => exact (t.fire_broken m e hb).1
  | false =>
    have hw : t.spent.wanted (t.struck m e p).settings = t.wanted p.settings := by
      rw [settings_struck]
      rfl
    have hr : t.spent.registered = true → t.spent.sensor.isSome = true := fun h => by cases h
    rw [(t.fire_whole m e hb).1, update_eq hr, hw, registry_struck]
    rfl

end Shape

end Trigger

namespace Platform.Balanced

theorem fire (t : Trigger) (m : Subtype.Matcher) (e : Event) (p : Platform) :
    p.Balanced (t.fire m e p).2 (t.fireCalls m e p) where
  trace := t.trace_fire m e p
  grips := t.fireCalls_grips m e p
  acquired := by rw [t.wakeLock_fire, t.fireCalls_acquires]; rfl
  released := by
    obtain ⟨hl, -⟩ := Grip.counts_of_after (t.fireCalls_grips m e p)
    rw [t.fireCalls_acquires] at hl
    have hr : (t.fireCalls m e p).count .release = 1 := hl.symm
    rw [t.wakeLock_fire, hr]
    rfl

/-- The lock is held afterwards just as it was before. -/
theorem isHeld {p q : Platform} {es : List Effect} (h : p.Balanced q es) :
    q.wakeLock.isHeld = p.wakeLock.isHeld := by
  obtain ⟨hl, -⟩ := Grip.counts_of_after h.grips
  have hl' : es.count .acquire = es.count .release := hl
  rw [WakeLock.isHeld, WakeLock.isHeld, h.acquired, h.released, hl']
  simp

end Platform.Balanced

namespace World

variable {rs : List Requirement} {r : Registry}

theorem balanced_change (w : World) (i : Nat) {f : Trigger → Platform → Trigger × Platform}
    {calls : Trigger → Platform → List Effect}
    (hf : ∀ (t : Trigger) (p : Platform), p.Balanced (f t p).2 (calls t p)) :
    w.platform.Balanced (w.change i f).platform
      (w.bank.triggers[i]?.elim [] (calls · w.platform)) := by
  cases hi : w.bank.triggers[i]? with
  | none =>
    rw [change_none f hi]
    exact .quiet rfl rfl
  | some t =>
    rw [change_some f hi]
    exact hf t w.platform

theorem balanced_act (w : World) (a : Act) :
    w.platform.Balanced (w.act a).platform (w.emits a) := by
  cases a with
  | request i on => exact w.balanced_change i (.setRequested on)
  | suppress i on => exact w.balanced_change i (.setDisabled on)
  | update i => exact w.balanced_change i .update
  | attach i =>
    simp only [act, emits]
    cases w.bank.triggers[i]? with
    | none => exact .quiet rfl rfl
    | some t => exact .attach t _ _
  | detach => exact .detach _ _
  | deliver l e =>
    simp only [act, emits, Bank.deliver]
    cases w.bank.triggers[l]? with
    | none => exact .quiet rfl rfl
    | some t =>
      cases hr : t.registered with
      | false =>
        simp only [hr, Bool.false_eq_true, if_false, Option.elim_some]
        exact .quiet rfl rfl
      | true => simpa [hr] using Platform.Balanced.fire t w.bank.matcher e w.platform
  | note | shut => exact .quiet rfl rfl

theorem balanced_perform (w : World) (as : List Act) :
    w.platform.Balanced (w.perform as).platform (w.emitted as) := by
  induction as generalizing w with
  | nil => exact .quiet rfl rfl
  | cons a as ih => exact (w.balanced_act a).trans (ih _)

theorem balanced_turn (w : World) (k : Turn) :
    w.platform.Balanced (w.turn k).platform (w.effects k) := by
  obtain ⟨o, rfl⟩ | ⟨-, h⟩ := w.turn_cases k
  · have he : w.effects (.outside o) = [] := by simp [effects, turn, outside]
    rw [he]
    exact .quiet (w.platform.trace_outside o) (by cases o <;> rfl)
  · rw [effects_eq, h]
    exact w.balanced_perform _

/-- Between two turns the wake lock is always free. -/
theorem balanced_run (w : World) (ts : List Turn) :
    ∃ es, w.platform.Balanced (w.run ts).platform es := by
  induction ts generalizing w with
  | nil => exact ⟨[], .quiet rfl rfl⟩
  | cons k ts ih =>
    obtain ⟨es, h⟩ := ih (w.turn k)
    exact ⟨_, (w.balanced_turn k).trans h⟩

@[simp] theorem matcher_act (w : World) (a : Act) : (w.act a).bank.matcher = w.bank.matcher := by
  cases a with
  | request i on | suppress i on | update i =>
    simp only [act, change]
    split <;> rfl
  | attach i =>
    simp only [act]
    split <;> rfl
  | deliver l e =>
    obtain ⟨-, n, h⟩ | ⟨t, -, -, ⟨-, h⟩ | ⟨-, h⟩⟩ := w.deliver_cases l e <;> rw [h] <;> rfl
  | note n | detach | shut => rfl

theorem matcher_run (w : World) (ts : List Turn) : (w.run ts).bank.matcher = w.bank.matcher :=
  run_keeps (P := fun v => v.bank.matcher = w.bank.matcher)
    (fun _ k hv => turn_keeps (P := fun v => v.bank.matcher = w.bank.matcher)
      (fun v a h => (v.matcher_act a).trans h) (fun _ _ h => h) hv k) rfl ts

section Deliveries

variable {w : World} {l : Listener} (e : Event)

theorem deliver_dropped (hc : w.closed = false)
    (hn : ∀ t, w.bank.triggers[l]? = some t → t.registered = false) :
    (w.bank.deliver l e w.platform).1.1 = .done ∧
      ∃ n, w.turn (.command (.deliver l e)) = { w with platform := w.platform.note n } := by
  constructor
  · unfold Bank.deliver
    cases ht : w.bank.triggers[l]? with
    | none => rfl
    | some t => simp [hn t ht]
  · obtain ⟨-, n, h⟩ | ⟨t, ht, hr, -⟩ := w.deliver_cases l e
    · exact ⟨n, (turn_deliver hc l e).trans h⟩
    · rw [hn t ht] at hr
      cases hr

theorem deliver_taken {t : Trigger} (ht : w.bank.triggers[l]? = some t)
    (hr : t.registered = true) :
    w.bank.deliver l e w.platform =
      (((t.fire w.bank.matcher e w.platform).1.1,
        w.bank.setTrigger l (t.fire w.bank.matcher e w.platform).1.2),
        (t.fire w.bank.matcher e w.platform).2) := by
  simp [Bank.deliver, ht, hr]

end Deliveries

/-- A fire for nobody, or for a trigger that is not registered, comes to nothing. Any other takes the
wake lock, counts the gesture if it is a pickup, pulses, requests the trigger again if nothing speaks
against it, and gives the lock back. A refused pulse makes no difference to that. A receiver that
breaks down leaves the trigger unregistered. In either case the lock is free again afterwards. -/
theorem fire_handled (m : Subtype.Matcher) (rs : List Requirement) (suppressible : Option Nat)
    (o : Observer) (p : Platform) (ts : List Turn) :
    let w := (assembled m rs suppressible o p).run ts
    (∃ es, w.platform.trace = p.trace ++ es ∧ es.foldlM Grip.after? .free = some .free ∧
      es.count .acquire = es.count .release ∧ es.countP Effect.isPulse = es.count .release ∧
      w.platform.wakeLock.acquired = p.wakeLock.acquired + es.count .acquire ∧
      w.platform.wakeLock.released = p.wakeLock.released + es.count .release ∧
      w.platform.wakeLock.isHeld = p.wakeLock.isHeld) ∧
    (w.closed = false → ∀ l e,
      let k := Turn.command (.deliver l e)
      let outcome := (w.bank.deliver l e w.platform).1.1
      let callback := w.platform.callback
      ((∀ t, w.bank.triggers[l]? = some t → t.registered = false) →
        outcome = .done ∧ w.effects k = [] ∧
          ∃ n, w.turn k = { w with platform := w.platform.note n }) ∧
      ∀ t, w.bank.triggers[l]? = some t → t.registered = true → ∃ s, t.sensor = some s ∧
        outcome = (if callback.breaking then .broken t.reason
          else if callback.failing then .refused t.reason else .done) ∧
        w.effects k =
          [.acquire] ++ (if s.category = .pickUpGesture then [.metric e.subtype] else []) ++
            [.pulse t.reason (s.category = .pickUpGesture && m.admits e.subtype)] ++
            (if t.rearms w.platform then [.request l s w.platform.registry.accepting] else []) ++
            [.release] ∧
        (w.turn k).bank = w.bank.setTrigger l
          { t with registered := t.rearms w.platform && w.platform.registry.accepting } ∧
        ∀ on, (w.turn k).Alike ((w.outside (.failing on)).turn k)) := by
  intro w
  have hw : w.Built rs p.registry := (built_assembled m rs suppressible o p).run ts
  refine ⟨?_, fun hc l e => ?_⟩
  · obtain ⟨es, hb⟩ := (assembled m rs suppressible o p).balanced_run ts
    obtain ⟨hl, hp⟩ := Grip.counts_of_after hb.grips
    exact ⟨es, hb.trace, hb.grips, hl, hp, hb.acquired, hb.released, hb.isHeld⟩
  intro k outcome callback
  refine ⟨fun hn => ?_, fun t ht hr => ?_⟩
  · obtain ⟨ho, hv⟩ := deliver_dropped e hc hn
    exact ⟨ho, effects_deliver_dropped e (.inr hn), hv⟩
  · have hg : t.Guarded := guarded_run (built_assembled m rs suppressible o p)
      (guarded_assembled m rs suppressible o p l) ts t ht
    obtain ⟨s, hs⟩ := Option.isSome_iff_exists.mp (hg hr).2.1
    have hd := deliver_taken e ht hr
    have hm : w.bank.matcher = m := matcher_run _ ts
    have hl : t.listener = l := hw.ordered l t ht
    refine ⟨s, hs, ?_, ?_, ?_, fun on => ?_⟩
    · rw [show outcome = _ from congrArg (fun r => r.1.1) hd]
      exact t.outcome_fire _ e _
    · rw [effects_deliver hc l e, emits, ht, Option.elim_some, if_pos hr,
        Trigger.fireCalls_eq _ e _ hs, hm, hl]
    · rw [turn_deliver hc, act, hd]
      exact congrArg (w.bank.setTrigger l) (Trigger.fire_trigger _ e _ hs)
    · exact (((Alike.refl w).refuse rfl).symm).turn k

theorem fire_handled_breakdown :
    let rs := ({} : Config).requirements
    let s : Sensor := ⟨2, "Pickup Gesture", .pickUpGesture, "android.sensor.pick_up_gesture"⟩
    let e : Event := ⟨s, 7, []⟩
    let w := (assembled .admitNone rs (some Config.pickUpPosition) 1 .standard).run
      [.command (.listen true), .outside (.breaking true)]
    let t : Trigger := { Trigger.ofRequirement (.standard "") 1
      ⟨.category .pickUpGesture, .pickUp, some Setting.pickUpKey, true⟩ with
      requested := true, registered := true }
    let k := Turn.command (.deliver 1 e)
    w.closed = false ∧ w.bank.triggers[1]? = some t ∧ t.registered = true ∧
      (w.bank.deliver 1 e w.platform).1.1 = .broken .pickUp ∧
      w.effects k = [.acquire, .metric e.subtype, .pulse .pickUp false, .release] ∧
      (w.turn k).bank = w.bank.setTrigger 1 { t with registered := false } := by
  intro rs s e w t k
  have hc : w.closed = false := by decide +kernel
  have ht : w.bank.triggers[1]? = some t := by decide +kernel
  have hb : w.platform.callback.breaking = true := by decide +kernel
  obtain ⟨-, h⟩ := fire_handled .admitNone rs (some Config.pickUpPosition) 1 .standard
    [.command (.listen true), .outside (.breaking true)]
  obtain ⟨s', hs, ho, he, hv, -⟩ := (h hc 1 e).2 t ht rfl
  obtain rfl : s = s' := Option.some.inj hs
  have ha : t.rearms w.platform = false := by simp [Trigger.rearms, hb]
  refine ⟨hc, ht, rfl, ho.trans (if_pos hb), he.trans ?_, hv.trans ?_⟩
  · rw [ha]
    rfl
  · rw [ha]
    rfl

end World

end AmbientPulse
