import AmbientPulse.Proofs.Shutdown

namespace AmbientPulse

namespace Trigger

/-- What has to be so for a trigger to be armed as soon as it is requested. -/
def eligible (t : Trigger) (s : Settings) : Bool :=
  t.configured && t.sensor.isSome && !t.disabled &&
    t.setting.all fun key => s.get key s.currentUser true

/-- Neither requested nor registered any more. -/
def retired (t : Trigger) : Trigger :=
  { t with requested := false, registered := false }

/-- Requested, and registered unless something speaks against it. -/
def renewed (t : Trigger) (s : Settings) : Trigger :=
  { t with requested := true, registered := t.eligible s }

/-- The call with which a trigger gets its registration, if it is to have one. -/
def welcome (t : Trigger) (s : Settings) : List Effect :=
  if t.eligible s then t.sensor.elim [] fun a => [.request t.listener a true] else []

theorem wanted_requested (t : Trigger) (s : Settings) :
    { t with requested := true }.wanted s = t.eligible s := by
  simp only [wanted, eligible, enabled_eq, Bool.and_true]

theorem eligible_of_outlook (t : Trigger) {p q : Platform} (h : q.outlook = p.outlook) :
    t.eligible q.settings = t.eligible p.settings := by
  rw [← wanted_requested, ← wanted_requested, wanted_of_outlook _ h]

theorem retired_of_idle {t : Trigger} (hq : t.requested = false) (hr : t.registered = false) :
    t.retired = t := by
  cases t
  simp_all [retired]

theorem outlook_setRequested (on : Bool) (t : Trigger) (p : Platform) :
    (t.setRequested on p).2.outlook = p.outlook := by
  obtain ⟨-, h⟩ | h := (evaluates_setRequested on).cases t p <;> simp [h]

/-- Whatever the registry has come to think, a trigger that is no longer requested is given up. -/
theorem setRequested_off {t : Trigger} (ht : t.Guarded) (p : Platform) :
    (t.setRequested false p).1 = t.retired := by
  unfold setRequested
  split
  · next hq => exact (retired_of_idle hq (ht.idle hq)).symm
  · have hs : { t with requested := false }.registered = true →
        { t with requested := false }.sensor.isSome = true := fun hr => (ht hr).2.1
    rw [update_eq hs, wanted_unrequested rfl, Bool.false_and]
    rfl

theorem setRequested_on (t : Trigger) {p : Platform} (ha : p.registry.accepting = true) :
    (t.retired.setRequested true p).1 = t.renewed p.settings := by
  have hs : { t.retired with requested := true }.registered = true →
      { t.retired with requested := true }.sensor.isSome = true := fun hr => by cases hr
  have h : t.retired.setRequested true p = { t.retired with requested := true }.update p := rfl
  rw [h, update_eq hs, wanted_requested, ha, Bool.or_true, Bool.and_true]
  rfl

theorem requestCalls_on (t : Trigger) {p : Platform} (ha : p.registry.accepting = true) :
    t.retired.requestCalls true p = t.welcome p.settings := by
  have h : t.retired.requestCalls true p = { t.retired with requested := true }.calls p := rfl
  rw [h, calls_of_unregistered rfl, wanted_requested, ha]
  rfl

/-- A registered trigger is armed, and with its own sensor. -/
def Armed (t : Trigger) (p : Platform) : Prop :=
  t.registered = true → p.registry.armed[t.listener]? = t.sensor

theorem armed_of_update {t : Trigger} {p : Platform} (ht : t.Armed p) :
    (t.update p).1.Armed (t.update p).2 := by
  obtain ⟨-, h, -⟩ | ⟨s, hs, -, -, h, -⟩ | ⟨s, -, -, -, h, -⟩ := t.update_cases p <;> rw [h]
  · exact ht
  · intro ha
    exact ((Registry.armed_request _ _ _ _).trans (if_pos ⟨ha, rfl⟩)).trans hs.symm
  · intro hr
    cases hr

theorem Step.armed {i j : Nat} {on : Bool} {m : Subtype.Matcher} {t t' : Trigger} {p q : Platform}
    (hi : t.listener = i) (h : t.Step i m (.request j on) p t' q) (ht : t.Armed p) :
    t'.Armed q := by
  cases h with
  | passed h _ =>
    intro hr
    rw [hi, h.armed, ← hi]
    exact ht hr
  | evaluated ha =>
    refine armed_of_update fun hr => ?_
    rw [Act.registered_prepare t ha] at hr
    rw [listener_of_bare (Act.bare_prepare i t _), sensor_of_bare (Act.bare_prepare i t _)]
    exact ht hr
  | broken e ha => cases ha
  | fired e ha => cases ha

end Trigger

/-- A sweep that makes of each trigger what only the trigger and the outlook decide. The state of the
sweep shows the outlook through `v`. -/
theorem sweep_fst {σ : Type} {v : σ → Outlook} {f : Trigger → σ → Trigger × σ}
    {g : Trigger → Trigger} (ho : ∀ t s, v (f t s).2 = v s) {ts : List Trigger} {s : σ}
    (hf : ∀ t ∈ ts, ∀ s', v s' = v s → (f t s').1 = g t) : (sweep f ts s).1 = ts.map g := by
  induction ts generalizing s with
  | nil => rfl
  | cons t ts ih =>
    have hs : (sweep f ts (f t s).2).1 = ts.map g :=
      ih fun u hu s' hs' => hf u (by simp [hu]) s' (hs'.trans (ho t s))
    rw [sweep, List.map_cons, hf t (by simp) s rfl, hs]

namespace World

/-- The registry has lost track: it has anything armed, or nothing, and takes requests again. -/
def drift (w : World) (armed : Std.ExtTreeMap Listener Sensor) : World :=
  { w with platform.registry.armed := armed, platform.registry.accepting := true }

variable {rs : List Requirement} {r : Registry} {w : World}

theorem bank_requests {on : Bool} {g : Trigger → Trigger}
    (hg : ∀ t ∈ w.bank.triggers, ∀ q : Platform, q.outlook = w.platform.outlook →
      (t.setRequested on q).1 = g t) :
    (w.perform (w.forEach fun i => [.request i on])).bank =
      { w.bank with triggers := w.bank.triggers.map g } := by
  rw [sweepTriggers_performed w (Trigger.setRequested on) (.request · on) (fun _ _ => rfl)]
  exact congrArg (fun ts => { w.bank with triggers := ts })
    (sweep_fst (Trigger.outlook_setRequested on) hg)

theorem armed_requests (hw : w.Built rs r) {i : Nat} (ha : w.At i Trigger.Armed) (on : Bool) :
    (w.perform (w.forEach fun i => [.request i on])).At i Trigger.Armed := by
  refine ha.perform hw fun a h m t p t' q hi hs ht => ?_
  obtain ⟨j, -, hj⟩ := mem_forEach.mp h
  obtain rfl := List.mem_singleton.mp hj
  exact hs.armed hi ht

/-- The world between the two passes of a rearming. -/
def disarmed (w : World) : World :=
  w.perform (w.forEach fun i => [.request i false])

theorem outlook_disarmed (w : World) : w.disarmed.platform.outlook = w.platform.outlook :=
  outlook_perform w _

theorem forEach_disarmed (w : World) (f : Nat → List Act) : w.disarmed.forEach f = w.forEach f :=
  forEach_perform w _ f

theorem acts_rearm (hc : w.closed = false) :
    w.acts (.command .rearm) =
      (w.forEach fun i => [.request i false]) ++ w.disarmed.forEach fun i => [.request i true] := by
  rw [acts, hc, forEach_disarmed]
  rfl

theorem turn_rearm (hc : w.closed = false) :
    w.turn (.command .rearm) =
      w.disarmed.perform (w.disarmed.forEach fun i => [.request i true]) := by
  rw [turn_performed w (fun _ h => by cases h), acts_rearm hc, perform_append]
  rfl

theorem settings_rearm (w : World) :
    (w.turn (.command .rearm)).platform.settings = w.platform.settings :=
  (w.frame_command fun _ h => by cases h).1

namespace Orderly

theorem built_disarmed (hw : w.Orderly rs r) : w.disarmed.Built rs r :=
  perform_keeps (fun a _ _ hv => hv.act a) hw.built

theorem bank_disarmed (hw : w.Orderly rs r) :
    w.disarmed.bank = { w.bank with triggers := w.bank.triggers.map Trigger.retired } :=
  bank_requests fun _ ht q _ => Trigger.setRequested_off (hw.of_mem ht) q

theorem bank_rearm (hw : w.Orderly rs r) (hc : w.closed = false)
    (ha : w.platform.registry.accepting = true) :
    (w.turn (.command .rearm)).bank =
      { w.bank with triggers := w.bank.triggers.map (·.renewed w.platform.settings) } := by
  have hg : ∀ t ∈ w.disarmed.bank.triggers, ∀ q : Platform,
      q.outlook = w.disarmed.platform.outlook →
        (t.setRequested true q).1 = t.renewed w.platform.settings := by
    intro t ht q hq
    rw [outlook_disarmed] at hq
    rw [hw.bank_disarmed] at ht
    obtain ⟨u, -, rfl⟩ := List.mem_map.mp ht
    have hq' : q.registry.accepting = true := (congrArg Outlook.accepting hq).trans ha
    rw [Trigger.setRequested_on u hq', Trigger.renewed, Trigger.eligible_of_outlook u hq]
    rfl
  rw [turn_rearm hc, bank_requests hg, hw.bank_disarmed, List.map_map]
  rfl

/-- All cancellations come before the first request. -/
theorem effects_rearm (hw : w.Orderly rs r) (hc : w.closed = false)
    (ha : w.platform.registry.accepting = true) :
    w.effects (.command .rearm) =
      w.bank.triggers.flatMap (·.farewell w.platform) ++
        w.bank.triggers.flatMap (·.welcome w.platform.settings) := by
  have ha' : w.disarmed.platform.registry.accepting = true :=
    (congrArg Outlook.accepting w.outlook_disarmed).trans ha
  have hn : w.disarmed.emitted (w.disarmed.forEach fun i => [.request i true]) =
      w.bank.triggers.flatMap (·.welcome w.platform.settings) := by
    rw [emitted_requests hw.built_disarmed, hw.bank_disarmed, List.flatMap_map]
    refine List.flatMap_congr fun t _ => ?_
    rw [Trigger.requestCalls_on t ha', Trigger.welcome, Trigger.welcome,
      Trigger.eligible_of_outlook t w.outlook_disarmed]
  rw [effects_eq, acts_rearm hc, emitted_append, hw.emitted_farewells]
  exact congrArg _ hn

theorem armed_rearm (hw : w.Orderly rs r) (hc : w.closed = false) (i : Nat) :
    (w.turn (.command .rearm)).At i Trigger.Armed := by
  have hd : w.disarmed.At i Trigger.Armed := by
    intro t ht hr
    rw [hw.bank_disarmed] at ht
    obtain ⟨u, -, rfl⟩ := List.mem_map.mp (List.mem_of_getElem? ht)
    cases hr
  rw [turn_rearm hc]
  exact armed_requests hw.built_disarmed hd true

theorem drift (hw : w.Orderly rs r) (armed : Std.ExtTreeMap Listener Sensor) :
    (w.drift armed).Orderly rs r :=
  ⟨hw.built, hw.guarded⟩

theorem run_assembled (m : Subtype.Matcher) (rs : List Requirement) (suppressible : Option Nat)
    (o : Observer) (p : Platform) (ts : List Turn) :
    ((assembled m rs suppressible o p).run ts).Orderly rs p.registry where
  built := (built_assembled m rs suppressible o p).run ts
  guarded i := guarded_run (built_assembled m rs suppressible o p)
    (guarded_assembled m rs suppressible o p i) ts

end Orderly

/-- However far the registry has drifted away from what the triggers believe, a rearming gives up
what they believe to have and asks for all that there should be, trigger by trigger. The beliefs are
true then, and nothing else has changed. -/
theorem rearm_recovers (m : Subtype.Matcher) (rs : List Requirement) (suppressible : Option Nat)
    (o : Observer) (p : Platform) (ts : List Turn) (armed : Std.ExtTreeMap Listener Sensor) :
    let w := ((assembled m rs suppressible o p).run ts).drift armed
    let v := w.turn (.command .rearm)
    w.closed = false →
      w.InPlace ∧
      w.effects (.command .rearm) =
        w.bank.triggers.flatMap (·.farewell w.platform) ++
          w.bank.triggers.flatMap (·.welcome w.platform.settings) ∧
      v.bank = { w.bank with triggers := w.bank.triggers.map (·.renewed w.platform.settings) } ∧
      v.InPlace ∧ (∀ t ∈ v.bank.triggers, t.Armed v.platform) ∧
      v.platform.settings = w.platform.settings := by
  intro w v hc
  have hw : w.Orderly rs p.registry := (Orderly.run_assembled m rs suppressible o p ts).drift armed
  have hv : v.Orderly rs p.registry :=
    ⟨hw.built.turn _, fun i => guarded_turn hw.built (hw.guarded i) _⟩
  refine ⟨hw.inPlace, hw.effects_rearm hc rfl, hw.bank_rearm hc rfl, hv.inPlace, fun t ht => ?_,
    w.settings_rearm⟩
  obtain ⟨i, hi⟩ := List.mem_iff_getElem?.mp ht
  exact hw.armed_rearm hc i t hi

theorem rearm_recovers_mixed_up :
    let rs : List Requirement :=
      [⟨.category .significantMotion, .significantMotion, none, true⟩,
        ⟨.category .pickUpGesture, .pickUp, some "x", true⟩]
    let a : Sensor :=
      ⟨1, "Significant Motion", .significantMotion, "android.sensor.significant_motion"⟩
    let b : Sensor := ⟨2, "Pickup Gesture", .pickUpGesture, "android.sensor.pick_up_gesture"⟩
    let w := ((assembled .admitNone rs none 1 .standard).run
      [.command (.listen true), .outside (.put "x" User.system false)]).drift
        ((∅ : Std.ExtTreeMap Listener Sensor).insert 1 a)
    let v := w.turn (.command .rearm)
    w.closed = false ∧ w.bank.triggers.map (·.registered) = [true, true] ∧
      w.effects (.command .rearm) = [.cancel 0 a false, .cancel 1 b true, .request 0 a true] ∧
      v.bank.triggers.map (·.registered) = [true, false] := by
  intro rs a b w v
  have hc : w.closed = false := by decide +kernel
  have hr : w.bank.triggers.map (·.registered) = [true, true] := by decide +kernel
  have hf : w.bank.triggers.flatMap (·.farewell w.platform) =
      [.cancel 0 a false, .cancel 1 b true] := by decide +kernel
  have hn : w.bank.triggers.flatMap (·.welcome w.platform.settings) = [.request 0 a true] := by
    decide +kernel
  have hl : w.bank.triggers.map (·.eligible w.platform.settings) = [true, false] := by
    decide +kernel
  obtain ⟨-, he, hb, -⟩ := rearm_recovers .admitNone rs none 1 .standard
    [.command (.listen true), .outside (.put "x" User.system false)]
    ((∅ : Std.ExtTreeMap Listener Sensor).insert 1 a) hc
  refine ⟨hc, hr, by rw [he, hf, hn]; rfl, ?_⟩
  rw [hb, List.map_map]
  exact hl

end World

end AmbientPulse
