import AmbientPulse.Proofs.Attention
import AmbientPulse.Proofs.Emission
import AmbientPulse.Proofs.Guard
import AmbientPulse.Proofs.Queue

namespace AmbientPulse

/-- Acts that may arm something or subscribe to something. -/
def Act.rouses : Act → Bool
  | .request _ on => on
  | .attach _ => true
  | _ => false

/-- Turns that make a bank that is at rest busy again. -/
def Turn.rouses : Turn → Bool
  | .command (.listen on) => on
  | .command .rearm => true
  | _ => false

namespace Trigger

/-- The call with which a trigger gives its registration up, if it has one. -/
def farewell (t : Trigger) (p : Platform) : List Effect :=
  if t.registered then
    t.sensor.elim [] fun s => [.cancel t.listener s (p.registry.cancel t.listener).1]
  else []

theorem Guarded.idle {t : Trigger} (ht : t.Guarded) (hq : t.requested = false) :
    t.registered = false := by
  refine Bool.eq_false_iff.mpr fun hr => ?_
  obtain ⟨-, -, hq', -⟩ := ht hr
  rw [hq] at hq'
  cases hq'

theorem wanted_unrequested {t : Trigger} (hq : t.requested = false) (s : Settings) :
    t.wanted s = false := by
  simp [wanted, hq]

theorem calls_idle {t : Trigger} (hq : t.requested = false) (hr : t.registered = false)
    (p : Platform) : t.calls p = [] := by
  unfold calls
  rw [wanted_unrequested hq, hr]
  cases t.sensor <;> rfl

/-- Since nothing is registered that is not requested, no registration is missed. -/
theorem requestCalls_off {t : Trigger} (ht : t.Guarded) (p : Platform) :
    t.requestCalls false p = t.farewell p := by
  unfold requestCalls farewell
  by_cases hq : t.requested = false
  · simp [hq, ht.idle hq]
  · rw [if_neg hq, calls, wanted_unrequested rfl]
    cases t.sensor <;> cases t.registered <;> rfl

end Trigger

namespace World

/-- Nothing is registered that is not requested, whatever the registry thinks. -/
structure Orderly (rs : List Requirement) (r : Registry) (w : World) : Prop where
  built : w.Built rs r
  guarded : ∀ i, w.At i fun t _ => t.Guarded

/-- What becomes of every bank on every platform: nothing is registered but what is requested, and
the store has the bank's observer down for nothing that the bank does not know of. -/
structure Sound (rs : List Requirement) (r : Registry) (o : Observer) (w : World) : Prop where
  built : w.Built rs r
  guarded : ∀ i, w.At i fun t _ => t.Guarded
  confined : w.Confined
  observer : w.bank.watch.observer = o

/-- A bank with nothing left to give up. -/
structure Quiet (rs : List Requirement) (r : Registry) (o : Observer) (w : World) : Prop
    extends w.Sound rs r o where
  unrequested : ∀ i, w.Requested false i
  unwatched : w.bank.watch.keys = ∅

/-- The triggers stand where their listeners say, and those that are registered have a sensor. -/
def InPlace (w : World) : Prop :=
  ∀ (i : Nat) (t : Trigger), w.bank.triggers[i]? = some t →
    t.listener = i ∧ (t.registered = true → t.sensor.isSome = true)

/-- The calls that stopping a bank comes to. -/
def stopCalls (w : World) : List Effect :=
  w.bank.triggers.flatMap (·.farewell w.platform) ++
    if w.bank.watch.isSubscribed then [.unobserve w.bank.watch.observer] else []

variable {rs : List Requirement} {r : Registry} {o : Observer} {w : World}

theorem emitted_requests (hw : w.Built rs r) (on : Bool) :
    w.emitted (w.forEach fun i => [.request i on]) =
      w.bank.triggers.flatMap (·.requestCalls on w.platform) :=
  emitted_forEach (Trigger.requestCalls on) hw (fun i j h => by simp [Act.concerns, h])
    (fun _ _ => rfl) fun _ _ _ h => Trigger.requestCalls_passed on h

namespace Orderly

theorem of_mem (hw : w.Orderly rs r) {t : Trigger} (ht : t ∈ w.bank.triggers) : t.Guarded := by
  obtain ⟨i, hi⟩ := List.mem_iff_getElem?.mp ht
  exact hw.guarded i t hi

theorem inPlace (hw : w.Orderly rs r) : w.InPlace :=
  fun i t ht => ⟨hw.built.ordered i t ht, fun hr => (hw.guarded i t ht hr).2.1⟩

/-- No request touches what the others look at, so each trigger is left as it was found. -/
theorem emitted_farewells (hw : w.Orderly rs r) :
    w.emitted (w.forEach fun i => [.request i false]) =
      w.bank.triggers.flatMap (·.farewell w.platform) :=
  (emitted_requests hw.built false).trans
    (List.flatMap_congr fun _ ht => Trigger.requestCalls_off (hw.of_mem ht) w.platform)

end Orderly

namespace Sound

theorem orderly (hw : w.Sound rs r o) : w.Orderly rs r :=
  ⟨hw.built, hw.guarded⟩

theorem act (hw : w.Sound rs r o) (a : Act) : (w.act a).Sound rs r o where
  built := hw.built.act a
  guarded i := (hw.guarded i).act hw.built.ordered fun _ _ _ _ _ _ hs ht => hs.guarded ht
  confined := hw.confined.act a
  observer := (w.observer_act a).trans hw.observer

theorem outside (hw : w.Sound rs r o) (e : Outside) : (w.outside e).Sound rs r o where
  built := hw.built
  guarded := hw.guarded
  confined := by cases e <;> exact hw.confined
  observer := hw.observer

theorem perform (hw : w.Sound rs r o) (as : List Act) : (w.perform as).Sound rs r o :=
  perform_keeps (fun a _ _ hv => hv.act a) hw

theorem run (hw : w.Sound rs r o) (ts : List Turn) : (w.run ts).Sound rs r o :=
  run_keeps (fun _ k hv => turn_keeps (fun _ a hv => hv.act a) (fun _ e hv => hv.outside e) hv k)
    hw ts

theorem drain (hw : w.Sound rs r o) (ks : List (Command ⊕ Outside)) :
    (w.drain ks).2.Sound rs r o :=
  drain_keeps (fun _ a hv => hv.act a) (fun _ e hv => hv.outside e) hw ks

theorem assembled (m : Subtype.Matcher) (rs : List Requirement) (suppressible : Option Nat)
    {o : Observer} {p : Platform} (ho : ∀ key, p.settings.scopeOf? o key = none) :
    (World.assembled m rs suppressible o p).Sound rs p.registry o where
  built := built_assembled m rs suppressible o p
  guarded := guarded_assembled m rs suppressible o p
  confined := (Attended.assembled m rs suppressible ho).confined
  observer := rfl

theorem inPlace (hw : w.Sound rs r o) : w.InPlace :=
  hw.orderly.inPlace

theorem emitted_stop (hw : w.Sound rs r o) :
    w.emitted (w.commandActs (.listen false)) = w.stopCalls := by
  let as := w.forEach fun i => [.request i false]
  let v := w.act (.note (.listening false))
  have hv : v.Sound rs r o := hw.act _
  have hf : v.emitted as = w.bank.triggers.flatMap (·.farewell w.platform) :=
    hv.orderly.emitted_farewells
  have hk : (v.perform as).bank.watch = w.bank.watch :=
    watch_perform (w := v) (by grind [mem_forEach, Act.subscribes])
  calc w.emitted (w.commandActs (.listen false))
      = v.emitted (as ++ [.detach]) := rfl
    _ = v.emitted as ++ (v.perform as).bank.watch.detachCalls := by
      rw [emitted_append, emitted_singleton, emits]
    _ = w.stopCalls := by rw [hf, hk, stopCalls, Watch.detachCalls]

/-- However its cancellations are answered, a bank that has stopped has nothing left to give up. -/
theorem quiet (hw : w.Sound rs r o) :
    (w.perform (w.commandActs (.listen false))).Quiet rs r o where
  toSound := hw.perform _
  unrequested _ := requested_listen hw.built false
  unwatched := Std.ExtTreeSet.ext_mem fun key => by simp [unwatched_listen w key]

end Sound

/-- No trigger, or none that makes a call. -/
theorem elim_eq_nil {found : Option Trigger} {calls : Trigger → List Effect}
    (h : ∀ t, found = some t → calls t = []) : found.elim [] calls = [] := by
  cases found with
  | none => rfl
  | some t => exact h t rfl

namespace Quiet

theorem idle (hw : w.Quiet rs r o) {i : Nat} {t : Trigger} (ht : w.bank.triggers[i]? = some t) :
    t.requested = false ∧ t.registered = false :=
  ⟨hw.unrequested i t ht, (hw.guarded i t ht).idle (hw.unrequested i t ht)⟩

theorem scope (hw : w.Quiet rs r o) (key : String) : w.platform.settings.scopeOf? o key = none := by
  refine Option.eq_none_iff_forall_ne_some.mpr fun s hs => ?_
  rw [← hw.observer] at hs
  have hk := hw.confined key s hs
  rw [hw.unwatched] at hk
  exact Std.ExtTreeSet.not_mem_empty hk

theorem emits (hw : w.Quiet rs r o) {a : Act} (ha : a.rouses = false) : w.emits a = [] := by
  cases a with
  | request i on =>
    obtain rfl : on = false := ha
    exact elim_eq_nil fun t ht => if_pos (hw.idle ht).1
  | suppress i on =>
    refine elim_eq_nil fun t ht => ?_
    rw [Trigger.disableCalls]
    split
    · rfl
    · exact Trigger.calls_idle (t := { t with disabled := on }) (hw.idle ht).1 (hw.idle ht).2 _
  | update i => exact elim_eq_nil fun t ht => Trigger.calls_idle (hw.idle ht).1 (hw.idle ht).2 _
  | deliver l e => exact elim_eq_nil fun t ht => by simp [(hw.idle ht).2]
  | detach => simp [World.emits, Watch.detachCalls, Watch.isSubscribed, hw.unwatched]
  | note | shut => rfl
  | attach => cases ha

theorem act (hw : w.Quiet rs r o) {a : Act} (ha : a.rouses = false) : (w.act a).Quiet rs r o where
  toSound := hw.toSound.act a
  unrequested i := (hw.unrequested i).act hw.built.ordered fun on he => by
    rw [he] at ha
    exact ha
  unwatched := by
    obtain ⟨h, -⟩ | ⟨i, t, key, rfl, -⟩ | ⟨-, h, -⟩ := w.subscription_cases a
    · rw [h]
      exact hw.unwatched
    · cases ha
    · rw [h]

theorem outside (hw : w.Quiet rs r o) (e : Outside) : (w.outside e).Quiet rs r o where
  toSound := hw.toSound.outside e
  unrequested := hw.unrequested
  unwatched := hw.unwatched

end Quiet

theorem rouses_of_mem_commandActs {c : Command} (hc : Turn.rouses (.command c) = false) {a : Act}
    (ha : a ∈ w.commandActs c) : a.rouses = false := by
  cases c with
  | listen on =>
    obtain rfl : on = false := hc
    grind [commandActs, mem_forEach, Act.rouses]
  | rearm => cases hc
  | deliver | settingChanged | userSwitched | suppress =>
    grind [commandActs, mem_forEach, Act.rouses]

theorem rouses_of_mem_acts {k : Turn} (hk : k.rouses = false) {a : Act} (ha : a ∈ w.acts k) :
    a.rouses = false := by
  cases k with
  | outside e => cases ha
  | command c =>
    rw [acts] at ha
    split at ha
    · cases ha
    · exact rouses_of_mem_commandActs hk ha
  | close =>
    rw [acts] at ha
    split at ha
    · cases ha
    · obtain ha | ha := List.mem_append.mp ha
      · exact rouses_of_mem_commandActs rfl ha
      · obtain rfl := List.mem_singleton.mp ha
        rfl

/-- A bank at rest makes no call until it is roused, and remains at rest. -/
theorem Quiet.turn (hw : w.Quiet rs r o) {k : Turn} (hk : k.rouses = false) :
    (w.turn k).Quiet rs r o ∧ (w.turn k).platform.trace = w.platform.trace := by
  obtain ⟨e, rfl⟩ | ⟨-, h⟩ := w.turn_cases k
  · exact ⟨hw.outside e, w.platform.trace_outside e⟩
  · rw [h]
    refine perform_keeps (P := fun v => v.Quiet rs r o ∧ v.platform.trace = w.platform.trace)
      (fun a ha v hv => ?_) ⟨hw, rfl⟩
    have hr := rouses_of_mem_acts hk ha
    refine ⟨hv.1.act hr, ?_⟩
    rw [trace_act, hv.1.emits hr, List.append_nil, hv.2]

theorem Quiet.run (hw : w.Quiet rs r o) {ks : List Turn} (hks : ∀ k ∈ ks, k.rouses = false) :
    (w.run ks).Quiet rs r o ∧ (w.run ks).platform.trace = w.platform.trace := by
  induction ks generalizing w with
  | nil => exact ⟨hw, rfl⟩
  | cons k ks ih =>
    obtain ⟨hq, ht⟩ := hw.turn (hks k (by simp))
    obtain ⟨hq', ht'⟩ := ih hq fun j hj => hks j (by simp [hj])
    exact ⟨hq', ht'.trans ht⟩

/-- No trigger is requested or registered, and the store has the observer down for nothing. -/
def AtRest (o : Observer) (w : World) : Prop :=
  (∀ t ∈ w.bank.triggers, t.requested = false ∧ t.registered = false) ∧
    w.bank.watch.isSubscribed = false ∧ ∀ key, w.platform.settings.scopeOf? o key = none

/-- At rest, and without a call until something rouses the bank. -/
def StaysAtRest (o : Observer) (w : World) : Prop :=
  ∀ ks : List Turn, (∀ k ∈ ks, k.rouses = false) →
    (w.run ks).AtRest o ∧ (w.run ks).platform.trace = w.platform.trace

theorem Quiet.atRest (hw : w.Quiet rs r o) : w.AtRest o := by
  refine ⟨fun t ht => ?_, by simp [Watch.isSubscribed, hw.unwatched], hw.scope⟩
  obtain ⟨i, hi⟩ := List.mem_iff_getElem?.mp ht
  exact hw.idle hi

theorem Quiet.staysAtRest (hw : w.Quiet rs r o) : w.StaysAtRest o :=
  fun _ hks => ⟨(hw.run hks).1.atRest, (hw.run hks).2⟩

theorem Sound.asked (hw : w.Sound rs r o) :
    (w.ask (.listen false)).Quiet rs r o ∧
      (w.ask (.listen false)).platform.trace = w.platform.trace ++ w.stopCalls := by
  rw [ask_performed, trace_perform, hw.emitted_stop]
  exact ⟨hw.quiet, rfl⟩

/-- A bank is stopped alike when it is asked to stop and when it is given up. -/
theorem Sound.closed (hw : w.Sound rs r o) :
    w.close.Quiet rs r o ∧ w.close.platform.trace = w.platform.trace ++ w.stopCalls :=
  ⟨hw.asked.1.act (a := .shut) rfl, hw.asked.2⟩

/-- So it is after a queue, even one whose handling broke down. -/
theorem Sound.served (hw : w.Sound rs r o) (ks : List (Command ⊕ Outside)) :
    let v := (World.drain { w with platform := w.platform.note .queueOpened } ks).2
    v.Sound rs r o ∧ (w.serve ks).2.Quiet rs r o ∧
      (w.serve ks).2.platform.trace = v.platform.trace ++ v.stopCalls := by
  intro v
  have hv : v.Sound rs r o := (hw.act (.note .queueOpened)).drain ks
  obtain h | h := w.serve_cases ks <;> rw [h]
  · exact ⟨hv, hv.closed⟩
  · exact ⟨hv, hv.asked.1.act rfl, hv.asked.2⟩

/-- Stopping a bank cancels each registration once, in the order of the triggers, and then drops the
subscriptions if there are any. So do giving it up and coming to the end of a queue. The bank is at
rest then, whatever became of the cancellations, and makes no call until it is roused. -/
theorem stopped_and_at_rest (m : Subtype.Matcher) (rs : List Requirement)
    (suppressible : Option Nat) {o : Observer} {p : Platform}
    (ho : ∀ key, p.settings.scopeOf? o key = none) (ts : List Turn) :
    let w := (assembled m rs suppressible o p).run ts
    (w.closed = false → w.InPlace ∧ ∀ k ∈ [Turn.command (.listen false), .close],
      w.effects k = w.stopCalls ∧ (w.turn k).StaysAtRest o) ∧
    ∀ ks : List (Command ⊕ Outside),
      let v := (drain { w with platform := w.platform.note .queueOpened } ks).2
      v.InPlace ∧ (w.serve ks).2.platform.trace = v.platform.trace ++ v.stopCalls ∧
        (w.serve ks).2.StaysAtRest o := by
  intro w
  have hw : w.Sound rs p.registry o := (Sound.assembled m rs suppressible ho).run ts
  refine ⟨fun hc => ⟨hw.inPlace, fun k hk => ?_⟩, fun ks => ?_⟩
  · have hk : (w.turn k).Quiet rs p.registry o ∧
        (w.turn k).platform.trace = w.platform.trace ++ w.stopCalls := by
      obtain rfl | rfl := List.mem_pair.mp hk
      · rw [turn, if_neg (by simp [hc])]
        exact hw.asked
      · rw [turn, if_neg (by simp [hc])]
        exact hw.closed
    exact ⟨effects_of_trace hk.2, hk.1.staysAtRest⟩
  · obtain ⟨hv, hq, ht⟩ := hw.served ks
    exact ⟨hv.inPlace, ht, hq.staysAtRest⟩

theorem stopped_and_at_rest_standard :
    let rs := ({} : Config).requirements
    let s : Sensor := ⟨2, "Pickup Gesture", .pickUpGesture, "android.sensor.pick_up_gesture"⟩
    let w := (assembled .admitNone rs (some Config.pickUpPosition) 1 .standard).run
      [.command (.listen true), .outside (.confirming false)]
    let v := w.turn (.command (.listen false))
    let ks := [.outside (.put Setting.pickUpKey User.system true), .command .userSwitched,
      .command (.deliver 1 ⟨s, 0, []⟩), .command (.suppress true), .close]
    (∀ key, Platform.standard.settings.scopeOf? 1 key = none) ∧ w.closed = false ∧
      w.effects (.command (.listen false)) = [.cancel 1 s false, .unobserve 1] ∧
      (∀ k ∈ ks, k.rouses = false) ∧ (v.run ks).AtRest 1 ∧
      (v.run ks).platform.trace = v.platform.trace := by
  intro rs s w v ks
  have ho : ∀ key, Platform.standard.settings.scopeOf? 1 key = none := fun key => by
    simp [Platform.standard, Settings.scopeOf?]
  have hc : w.closed = false := by decide +kernel
  have hs : w.stopCalls = [.cancel 1 s false, .unobserve 1] := by decide +kernel
  have hks : ∀ k ∈ ks, k.rouses = false := by decide
  obtain ⟨h, -⟩ := stopped_and_at_rest .admitNone rs (some Config.pickUpPosition) ho
    [.command (.listen true), .outside (.confirming false)]
  obtain ⟨he, hr⟩ := (h hc).2 (.command (.listen false)) (by simp)
  exact ⟨ho, hc, he.trans hs, hks, hr ks hks⟩

end World

end AmbientPulse
