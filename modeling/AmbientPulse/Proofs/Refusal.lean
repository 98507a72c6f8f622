import AmbientPulse.Proofs.Emission
import AmbientPulse.Proofs.Policy
import AmbientPulse.Proofs.Queue

namespace AmbientPulse

/-- Platforms that differ at most in whether pulses get refused, and in what the log says of it. -/
structure Platform.Alike (p q : Platform) : Prop where
  registry : q.registry = p.registry
  settings : q.settings = p.settings
  wakeLock : q.wakeLock = p.wakeLock
  breaking : q.callback.breaking = p.callback.breaking
  trace : q.trace = p.trace

namespace Platform.Alike

variable {p q r : Platform}

theorem refl (p : Platform) : p.Alike p :=
  ⟨rfl, rfl, rfl, rfl, rfl⟩

theorem symm (h : p.Alike q) : q.Alike p :=
  ⟨h.registry.symm, h.settings.symm, h.wakeLock.symm, h.breaking.symm, h.trace.symm⟩

theorem trans (h : p.Alike q) (h' : q.Alike r) : p.Alike r :=
  ⟨h'.registry.trans h.registry, h'.settings.trans h.settings, h'.wakeLock.trans h.wakeLock,
    h'.breaking.trans h.breaking, h'.trace.trans h.trace⟩

theorem exists_eq (h : p.Alike q) :
    ∃ failing reporting log,
      q = { p with callback.failing := failing, reporting := reporting, log := log } := by
  obtain ⟨registry, settings, wakeLock, ⟨failing, breaking⟩, reporting, trace, log⟩ := q
  obtain ⟨rfl, rfl, rfl, rfl, rfl⟩ := h
  exact ⟨failing, reporting, log, rfl⟩

theorem noted (h : p.Alike q) (n : Notice) : (p.note n).Alike q :=
  ⟨h.registry, h.settings, h.wakeLock, h.breaking, h.trace⟩

theorem note (h : p.Alike q) (n n' : Notice) : (p.note n).Alike (q.note n') :=
  ((h.noted n).symm.noted n').symm

theorem release (h : p.Alike q) : p.release.Alike q.release := by
  obtain ⟨failing, reporting, log, rfl⟩ := h.exists_eq
  exact ⟨rfl, rfl, rfl, rfl, rfl⟩

theorem update (h : p.Alike q) (t : Trigger) :
    (t.update q).1 = (t.update p).1 ∧ (t.update p).2.Alike (t.update q).2 := by
  obtain ⟨failing, reporting, log, rfl⟩ := h.exists_eq
  unfold Trigger.update
  dsimp only
  cases t.sensor with
  | none => exact ⟨rfl, rfl, rfl, rfl, rfl, rfl⟩
  | some s =>
    cases t.wanted p.settings <;> cases t.registered <;> exact ⟨rfl, rfl, rfl, rfl, rfl, rfl⟩

theorem setRequested (h : p.Alike q) (on : Bool) (t : Trigger) :
    (t.setRequested on q).1 = (t.setRequested on p).1 ∧
      (t.setRequested on p).2.Alike (t.setRequested on q).2 := by
  unfold Trigger.setRequested
  split
  · exact ⟨rfl, h⟩
  · exact h.update _

theorem setDisabled (h : p.Alike q) (on : Bool) (t : Trigger) :
    (t.setDisabled on q).1 = (t.setDisabled on p).1 ∧
      (t.setDisabled on p).2.Alike (t.setDisabled on q).2 := by
  unfold Trigger.setDisabled
  split
  · exact ⟨rfl, h⟩
  · exact h.update _

theorem attach (h : p.Alike q) (t : Trigger) (w : Watch) :
    (t.attach w q).1 = (t.attach w p).1 ∧ (t.attach w p).2.Alike (t.attach w q).2 := by
  obtain ⟨failing, reporting, log, rfl⟩ := h.exists_eq
  rw [Trigger.attach_eq, Trigger.attach_eq]
  cases t.gate? with
  | none => exact ⟨rfl, h⟩
  | some key =>
    simp only [Option.elim_some, Watch.attach]
    split
    · exact ⟨rfl, h⟩
    · exact ⟨rfl, rfl, rfl, rfl, rfl, rfl⟩

theorem detach (h : p.Alike q) (w : Watch) :
    (w.detach q).1 = (w.detach p).1 ∧ (w.detach p).2.Alike (w.detach q).2 := by
  obtain ⟨failing, reporting, log, rfl⟩ := h.exists_eq
  unfold Watch.detach
  split
  · exact ⟨rfl, rfl, rfl, rfl, rfl, rfl⟩
  · exact ⟨rfl, h⟩

theorem struck (h : p.Alike q) (t : Trigger) (m : Subtype.Matcher) (e : Event) :
    (t.struck m e p).Alike (t.struck m e q) where
  registry := by simp [h.registry]
  settings := by simp [h.settings]
  wakeLock := by simp [h.wakeLock]
  breaking := by simp [h.breaking]
  trace := by rw [t.trace_struck, t.trace_struck, h.trace]

/-- A refusal is reported by the fire that met with it, and by nothing else. -/
theorem fire (h : p.Alike q) (t : Trigger) (m : Subtype.Matcher) (e : Event) :
    (t.fire m e q).1.2 = (t.fire m e p).1.2 ∧ (t.fire m e p).2.Alike (t.fire m e q).2 := by
  cases hb : p.callback.breaking with
  | true =>
    obtain ⟨ht, hp⟩ := t.fire_broken m e hb
    obtain ⟨ht', hq⟩ := t.fire_broken m e (h.breaking.trans hb)
    rw [ht, ht', hp, hq]
    exact ⟨rfl, (h.struck t m e).release⟩
  | false =>
    obtain ⟨ht, hp⟩ := t.fire_whole m e hb
    obtain ⟨ht', hq⟩ := t.fire_whole m e (h.breaking.trans hb)
    obtain ⟨hu, ha⟩ := (h.struck t m e).update t.spent
    rw [ht, ht', hp, hq]
    exact ⟨hu, ha.release⟩

theorem outside (h : p.Alike q) (o : Outside) : (p.outside o).Alike (q.outside o) := by
  obtain ⟨failing, reporting, log, rfl⟩ := h.exists_eq
  cases o <;> exact ⟨rfl, rfl, rfl, rfl, rfl⟩

end Platform.Alike

def Outside.refuses : Outside → Bool
  | .failing _ => true
  | _ => false

/-- The same of what goes on around a queue. -/
def refusesAround : Command ⊕ Outside → Bool
  | .inl _ => false
  | .inr o => o.refuses

def Turn.refuses : Turn → Bool
  | .outside o => o.refuses
  | _ => false

namespace Trigger

theorem outcome_fire (t : Trigger) (m : Subtype.Matcher) (e : Event) (p : Platform) :
    (t.fire m e p).1.1 =
      if p.callback.breaking then .broken t.reason
      else if p.callback.failing then .refused t.reason else .done := by
  unfold fire Platform.holding
  cases hb : p.callback.breaking <;> cases hf : p.callback.failing <;>
    simp [Platform.pulse, callback_measure, hb, hf]

theorem pulse_mem_fireCalls (t : Trigger) (m : Subtype.Matcher) (e : Event) (p : Platform)
    (reason : Reason) :
    (∃ checked, .pulse reason checked ∈ t.fireCalls m e p) ↔ reason = t.reason := by
  have hc : ∀ checked, .pulse reason checked ∉ t.spent.calls p := fun checked h => by
    cases t.spent.calls_registers p _ h
  unfold fireCalls strike
  cases p.callback.breaking <;> split <;> simp [hc]

end Trigger

namespace World

structure Alike (w v : World) : Prop where
  bank : v.bank = w.bank
  closed : v.closed = w.closed
  platform : w.platform.Alike v.platform

namespace Alike

variable {w v u : World}

theorem refl (w : World) : w.Alike w :=
  ⟨rfl, rfl, .refl _⟩

theorem symm (h : w.Alike v) : v.Alike w :=
  ⟨h.bank.symm, h.closed.symm, h.platform.symm⟩

theorem trans (h : w.Alike v) (h' : v.Alike u) : w.Alike u :=
  ⟨h'.bank.trans h.bank, h'.closed.trans h.closed, h.platform.trans h'.platform⟩

theorem change (h : w.Alike v) (i : Nat) {f : Trigger → Platform → Trigger × Platform}
    (hf : ∀ t p q, p.Alike q → (f t q).1 = (f t p).1 ∧ (f t p).2.Alike (f t q).2) :
    (w.change i f).Alike (v.change i f) := by
  cases hi : w.bank.triggers[i]? with
  | none =>
    have hv : v.bank.triggers[i]? = none := by rw [h.bank, hi]
    rwa [change_none f hi, change_none f hv]
  | some t =>
    have hv : v.bank.triggers[i]? = some t := by rw [h.bank, hi]
    obtain ⟨ht, hp⟩ := hf t _ _ h.platform
    rw [change_some f hi, change_some f hv, h.bank, ht]
    exact ⟨rfl, h.closed, hp⟩

theorem deliver (h : w.Alike v) (l : Listener) (e : Event) :
    (w.act (.deliver l e)).Alike (v.act (.deliver l e)) := by
  simp only [World.act, Bank.deliver, h.bank]
  cases w.bank.triggers[l]? with
  | none => exact ⟨rfl, h.closed, h.platform.note _ _⟩
  | some t =>
    dsimp only
    split
    · obtain ⟨ht, hp⟩ := h.platform.fire t w.bank.matcher e
      rw [ht]
      exact ⟨rfl, h.closed, hp⟩
    · exact ⟨rfl, h.closed, h.platform.note _ _⟩

theorem act (h : w.Alike v) (a : Act) : (w.act a).Alike (v.act a) := by
  cases a with
  | note n => exact ⟨h.bank, h.closed, h.platform.note n n⟩
  | request i on => exact h.change i fun t _ _ hp => hp.setRequested on t
  | suppress i on => exact h.change i fun t _ _ hp => hp.setDisabled on t
  | update i => exact h.change i fun t _ _ hp => hp.update t
  | attach i =>
    simp only [World.act, h.bank]
    cases w.bank.triggers[i]? with
    | none => exact h
    | some t =>
      obtain ⟨ht, hp⟩ := h.platform.attach t w.bank.watch
      dsimp only
      rw [ht]
      exact ⟨rfl, h.closed, hp⟩
  | detach =>
    obtain ⟨ht, hp⟩ := h.platform.detach w.bank.watch
    simp only [World.act, h.bank]
    rw [ht]
    exact ⟨rfl, h.closed, hp⟩
  | deliver l e => exact h.deliver l e
  | shut => exact ⟨h.bank, rfl, h.platform⟩

theorem perform (h : w.Alike v) (as : List Act) : (w.perform as).Alike (v.perform as) := by
  induction as generalizing w v with
  | nil => exact h
  | cons a as ih => exact ih (h.act a)

theorem forEach (h : w.Alike v) (f : Nat → List Act) : v.forEach f = w.forEach f := by
  rw [World.forEach, World.forEach, h.bank]

theorem commandActs (h : w.Alike v) (c : Command) : v.commandActs c = w.commandActs c := by
  cases c with
  | listen on => cases on <;> simp only [World.commandActs, h.forEach]
  | settingChanged | userSwitched | rearm =>
    simp only [World.commandActs, h.forEach, h.platform.settings]
  | deliver => rfl
  | suppress on => simp only [World.commandActs, h.bank]

theorem acts (h : w.Alike v) (k : Turn) : v.acts k = w.acts k := by
  cases k <;> simp only [World.acts, h.closed, h.commandActs]

theorem outside (h : w.Alike v) (o : Outside) : (w.outside o).Alike (v.outside o) :=
  ⟨h.bank, h.closed, h.platform.outside o⟩

theorem turn (h : w.Alike v) (k : Turn) : (w.turn k).Alike (v.turn k) := by
  obtain ⟨o, rfl⟩ | ⟨ho, hw⟩ := w.turn_cases k
  · exact h.outside o
  · rw [hw, v.turn_performed ho, h.acts]
    exact h.perform _

/-- Whether pulses get refused is not for anybody to see. -/
theorem refuse (h : w.Alike v) {o : Outside} (ho : o.refuses = true) : (w.outside o).Alike v := by
  cases o with
  | failing on =>
    have hp := h.platform
    exact ⟨h.bank, h.closed, hp.registry, hp.settings, hp.wakeLock, hp.breaking, hp.trace⟩
  | put | switchUser | fire | accepting | confirming | breaking => cases ho

theorem run (h : w.Alike v) (ts : List Turn) :
    (w.run ts).Alike (v.run (ts.filter fun k => !k.refuses)) := by
  induction ts generalizing w v with
  | nil => exact h
  | cons k ts ih =>
    cases hk : k.refuses with
    | false =>
      rw [List.filter_cons_of_pos (by simp [hk])]
      exact ih (h.turn k)
    | true =>
      rw [List.filter_cons_of_neg (by simp [hk])]
      cases k with
      | outside o => exact ih (h.refuse hk)
      | command | close => cases hk

theorem ask (h : w.Alike v) (c : Command) : (w.ask c).Alike (v.ask c) := by
  rw [ask_performed, ask_performed, h.commandActs]
  exact h.perform _

theorem close (h : w.Alike v) : w.close.Alike v.close := by
  have hl := h.ask (.listen false)
  exact ⟨hl.bank, rfl, hl.platform⟩

theorem notes (h : w.Alike v) (ns : List Notice) : (w.perform (ns.map .note)).Alike v := by
  induction ns generalizing w with
  | nil => exact h
  | cons n ns ih => exact ih ⟨h.bank, h.closed, h.platform.noted n⟩

/-- A queue swallows refusals, and breakdowns are not what the two worlds differ in. -/
theorem outcome_handle (h : w.Alike v) (c : Command) : (v.handle c).1 = (w.handle c).1 := by
  cases c with
  | deliver l e =>
    simp only [World.handle, Bank.handle, Bank.apply, Bank.deliver, h.bank]
    cases w.bank.triggers[l]? with
    | none => rfl
    | some t =>
      cases hr : t.registered with
      | false => simp [hr]
      | true =>
        simp only [hr, if_true, Trigger.outcome_fire, h.platform.breaking]
        cases w.platform.callback.breaking <;> cases w.platform.callback.failing <;>
          cases v.platform.callback.failing <;> rfl
  | settingChanged | userSwitched | listen | rearm | suppress => rfl

theorem handle (h : w.Alike v) (c : Command) : (w.handle c).2.Alike (v.handle c).2 := by
  obtain ⟨ns, hw⟩ := w.handle_performed c
  obtain ⟨ns', hv⟩ := v.handle_performed c
  have hp := h.perform (w.commandActs c)
  rw [hw, hv, h.commandActs, perform_append, perform_append]
  exact ((hp.notes ns).symm.notes ns').symm

theorem drain (h : w.Alike v) (ks : List (Command ⊕ Outside)) :
    (w.drain ks).1 = (v.drain (ks.filter fun k => !refusesAround k)).1 ∧
      (w.drain ks).2.Alike (v.drain (ks.filter fun k => !refusesAround k)).2 := by
  induction ks generalizing w v with
  | nil => exact ⟨rfl, h⟩
  | cons k ks ih =>
    cases k with
    | inl c =>
      have ho := h.outcome_handle c
      have hc := h.handle c
      rw [List.filter_cons_of_pos (by rfl), World.drain, World.drain, ho]
      split
      · exact ⟨rfl, hc⟩
      · exact ih hc
    | inr o =>
      cases hr : o.refuses with
      | false =>
        rw [List.filter_cons_of_pos (by simpa [refusesAround] using hr)]
        exact ih (h.outside o)
      | true =>
        rw [List.filter_cons_of_neg (by simpa [refusesAround] using hr)]
        exact ih (h.refuse hr)

theorem serve (h : w.Alike v) (ks : List (Command ⊕ Outside)) :
    (w.serve ks).1 = (v.serve (ks.filter fun k => !refusesAround k)).1 ∧
      (w.serve ks).2.Alike (v.serve (ks.filter fun k => !refusesAround k)).2 := by
  obtain ⟨ho, hd⟩ := drain (h.act (.note .queueOpened)) ks
  unfold World.serve
  dsimp only [World.act] at ho hd ⊢
  rw [ho]
  split
  · exact ⟨rfl, hd.close⟩
  · exact ⟨rfl, (hd.ask (.listen false)).act (.note .queueClosed)⟩

theorem assembled (m : Subtype.Matcher) (rs : List Requirement) (suppressible : Option Nat)
    (o : Observer) {p q : Platform} (h : p.Alike q) :
    (World.assembled m rs suppressible o p).Alike (World.assembled m rs suppressible o q) := by
  obtain ⟨failing, reporting, log, rfl⟩ := h.exists_eq
  exact ⟨rfl, rfl, rfl, rfl, rfl, rfl, rfl⟩

end Alike

/-- A command makes one pulse at most, and the receiver's flags decide what becomes of it. -/
theorem outcome_cases {w : World} (hc : w.closed = false) (c : Command) :
    ((w.bank.apply c w.platform).1.1 = .done ∧
      ∀ reason checked, .pulse reason checked ∉ w.effects (.command c)) ∨
    ∃ r, (w.bank.apply c w.platform).1.1 =
        (if w.platform.callback.breaking then .broken r
          else if w.platform.callback.failing then .refused r else .done) ∧
      ∀ reason, (∃ checked, .pulse reason checked ∈ w.effects (.command c)) ↔ reason = r := by
  cases c with
  | deliver l e =>
    rw [effects_deliver hc l e]
    simp only [Bank.apply, Bank.deliver, emits]
    cases w.bank.triggers[l]? with
    | none => exact .inl ⟨rfl, by simp⟩
    | some t =>
      cases hr : t.registered with
      | false => exact .inl (by simp [hr])
      | true =>
        refine .inr ⟨t.reason, ?_, fun reason => ?_⟩
        · simpa [hr] using t.outcome_fire w.bank.matcher e w.platform
        · simpa [hr] using t.pulse_mem_fireCalls w.bank.matcher e w.platform reason
  | settingChanged | userSwitched | listen | rearm | suppress =>
    exact .inl ⟨rfl, no_pulse_of_turn fun _ => rfl⟩

/-- Two runs that differ only in when the receiver of pulses refuses them go the same way in all
else, and so do two queues that are served. What a fire comes to tells of a refusal just when a pulse
was made and refused, of a breakdown just when a pulse was made and broke down, and else of nothing. -/
theorem refusals_unnoticed (m : Subtype.Matcher) (rs : List Requirement)
    (suppressible : Option Nat) (o : Observer) {p p' : Platform} (hp : p.Alike p')
    {ts ts' : List Turn} (hts : ts.filter (!·.refuses) = ts'.filter (!·.refuses))
    {ks ks' : List (Command ⊕ Outside)}
    (hks : ks.filter (!refusesAround ·) = ks'.filter (!refusesAround ·)) :
    let w := (assembled m rs suppressible o p).run ts
    let w' := (assembled m rs suppressible o p').run ts'
    w.Alike w' ∧
      ((w.drain ks).1 = (w'.drain ks').1 ∧ (w.drain ks).2.Alike (w'.drain ks').2) ∧
      ((w.serve ks).1 = (w'.serve ks').1 ∧ (w.serve ks).2.Alike (w'.serve ks').2) ∧
      (w.closed = false → ∀ c,
        let outcome := (w.bank.apply c w.platform).1.1
        let pulsed := fun reason => ∃ checked, .pulse reason checked ∈ w.effects (.command c)
        let receiver := w.platform.callback
        (∀ reason, outcome = .refused reason ↔
          receiver.breaking = false ∧ receiver.failing = true ∧ pulsed reason) ∧
        (∀ reason, outcome = .broken reason ↔ receiver.breaking = true ∧ pulsed reason) ∧
        (outcome = .done ↔
          (receiver.breaking = false ∧ receiver.failing = false) ∨ ∀ reason, ¬pulsed reason)) := by
  intro w w'
  have h₀ := Alike.assembled m rs suppressible o hp
  have hw : w.Alike w' := by
    have h := h₀.run ts
    rw [hts] at h
    exact h.trans ((Alike.refl _).run ts').symm
  refine ⟨hw, ?_, ?_, fun hc c => ?_⟩
  · obtain ⟨ho, hd⟩ := hw.drain ks
    obtain ⟨ho', hd'⟩ := (Alike.refl w').drain ks'
    rw [hks] at ho hd
    exact ⟨ho.trans ho'.symm, hd.trans hd'.symm⟩
  · obtain ⟨ho, hd⟩ := hw.serve ks
    obtain ⟨ho', hd'⟩ := (Alike.refl w').serve ks'
    rw [hks] at ho hd
    exact ⟨ho.trans ho'.symm, hd.trans hd'.symm⟩
  · intro outcome pulsed receiver
    obtain ⟨ho, hn⟩ | ⟨r, ho, hr⟩ := outcome_cases hc c
    · have hn' : ∀ reason, ¬pulsed reason := fun reason ⟨checked, h⟩ => hn reason checked h
      simp [show outcome = _ from ho, hn']
    · have hr' : ∀ reason, pulsed reason ↔ reason = r := hr
      have hx : outcome = if receiver.breaking then .broken r
        else if receiver.failing then .refused r else .done := ho
      rw [hx]
      cases receiver.breaking <;> cases receiver.failing <;> simp [hr', eq_comm]

theorem refusals_unnoticed_standard :
    let p : Platform := { Platform.standard with callback.failing := true }
    let rs := ({} : Config).requirements
    let e : Event := ⟨⟨2, "Pickup Gesture", .pickUpGesture, ""⟩, 0, []⟩
    let ts := [.command (.listen true)]
    let ts' := [.outside (.failing true), .command (.listen true), .outside (.failing false)]
    let ks := [.inl (.deliver 1 e), .inr (.failing false), .inl .rearm]
    let ks' := [.inl (.deliver 1 e), .inl .rearm]
    let w := (assembled .admitNone rs (some Config.pickUpPosition) 1 p).run ts
    let w' := (assembled .admitNone rs (some Config.pickUpPosition) 1 .standard).run ts'
    p.Alike .standard ∧ ts.filter (!·.refuses) = ts'.filter (!·.refuses) ∧
      ks.filter (!refusesAround ·) = ks'.filter (!refusesAround ·) ∧
      w.Alike w' ∧ (w.serve ks).2.Alike (w'.serve ks').2 ∧ w.closed = false ∧
      (w.bank.apply (.deliver 1 e) w.platform).1.1 = .refused .pickUp := by
  intro p rs e ts ts' ks ks' w w'
  have hp : p.Alike .standard := ⟨rfl, rfl, rfl, rfl, rfl⟩
  have hc : w.closed = false := by decide +kernel
  have hq : .pulse .pickUp false ∈ w.effects (.command (.deliver 1 e)) := by decide +kernel
  have h := refusals_unnoticed .admitNone rs (some Config.pickUpPosition) 1 hp
    (show ts.filter (!·.refuses) = ts'.filter (!·.refuses) from rfl)
    (show ks.filter (!refusesAround ·) = ks'.filter (!refusesAround ·) from rfl)
  obtain ⟨ha, -, ⟨-, hs⟩, ho⟩ := h
  have hr := ((ho hc (.deliver 1 e)).1 .pickUp).mpr ⟨rfl, rfl, false, hq⟩
  exact ⟨hp, rfl, rfl, ha, hs, hc, hr⟩

end World

end AmbientPulse
