import AmbientPulse.Proofs.Step

namespace AmbientPulse

/-- An event on its way to the bank. `since` tells how many calls there were before it was fired. -/
structure Flight where
  listener : Listener
  event : Event
  since : Nat
  deriving DecidableEq

/-- The event was fired after the last accepted request of a listener, and for that listener. -/
def Flight.Follows (f : Flight) (i : Listener) (trace : List Effect) : Prop :=
  f.listener = i ∧ ∃ es s gs, trace = es ++ .request i s true :: gs ∧
    (∀ s', Effect.request i s' true ∉ gs) ∧ es.length < f.since

structure Traffic where
  world : World
  inFlight : List Flight
  deriving DecidableEq

namespace Traffic

def launched (w : World) : Turn → List Flight
  | .outside (.fire l values timestamp) =>
    (w.platform.fire l values timestamp).1.toList.map fun e => ⟨l, e, w.platform.trace.length⟩
  | _ => []

theorem launched_of_own (w : World) {k : Turn} (hk : ∀ o, k ≠ .outside o) : launched w k = [] := by
  cases k with
  | command c | close => rfl
  | outside o => exact absurd rfl (hk o)

def turn (x : Traffic) (k : Turn) : Traffic :=
  ⟨x.world.turn k, x.inFlight ++ launched x.world k⟩

/-- All that can come of a world if nothing but fires reaches the bank as an event, each once and to
the listener it was fired for, in any order and after any time. -/
inductive Reachable (w₀ : World) : Traffic → Prop
  | start : Reachable w₀ ⟨w₀, []⟩
  | turn {x : Traffic} (hx : Reachable w₀ x) (k : Turn) (hk : ∀ l, k.delivers l = false) :
      Reachable w₀ (x.turn k)
  | land {x : Traffic} (hx : Reachable w₀ x) (ho : x.world.closed = false) {f : Flight}
      {before after : List Flight} (hf : x.inFlight = before ++ f :: after) :
      Reachable w₀ ⟨x.world.turn (.command (.deliver f.listener f.event)), before ++ after⟩

end Traffic

namespace Trigger

/-- A registered trigger is armed, or its registration has been used up by an event that is still
on its way. -/
def Covered (fs : List Flight) (i : Nat) (t : Trigger) (p : Platform) : Prop :=
  t.registered = true → ∃ s es gs, t.sensor = some s ∧ p.trace = es ++ .request i s true :: gs ∧
    (∀ s', Effect.request i s' true ∉ gs) ∧
    (p.registry.armed[i]? = some s ∨ ∃ f ∈ fs, f.listener = i ∧ es.length < f.since)

namespace Covered

variable {fs : List Flight} {i : Nat} {t u : Trigger} {p q : Platform}

theorem vacuous (hr : t.registered = false) : t.Covered fs i p := by
  intro h
  rw [hr] at h
  cases h

theorem of_bare (hu : u.bare = t.bare) (hr : u.registered = t.registered)
    (h : t.Covered fs i p) : u.Covered fs i p := by
  unfold Covered
  rw [hr, sensor_of_bare hu]
  exact h

theorem passed {b : Bool} (hp : p.Passed i b q) (h : t.Covered fs i p) : t.Covered fs i q := by
  intro hr
  obtain ⟨s, es, gs, hs, htr, hgs, hc⟩ := h hr
  obtain ⟨hs', ht', hm⟩ := hp.trace
  refine ⟨s, es, gs ++ hs', hs, ?_, ?_, ?_⟩
  · rw [ht', htr, List.append_assoc, List.cons_append]
  · intro s' he
    obtain he | he := List.mem_append.mp he
    · exact hgs s' he
    · simpa [Effect.mark?] using hm _ he
  · rw [hp.armed]
    exact hc

theorem update (hl : t.listener = i) (h : t.Covered fs i p) :
    (t.update p).1.Covered fs i (t.update p).2 := by
  obtain ⟨-, hu, -⟩ | ⟨s, hs, -, -, hu, -⟩ | ⟨s, -, -, -, hu, -⟩ := t.update_cases p <;> rw [hu]
  · exact h
  · -- The request was accepted just now, so the listener is armed.
    intro hr
    have ha : p.registry.accepting = true := hr
    subst hl
    refine ⟨s, p.trace, [], hs, ?_, by simp, .inl ?_⟩
    · simp [arm, ha]
    · exact (Registry.armed_request _ _ _ _).trans (if_pos ⟨ha, rfl⟩)
  · exact vacuous rfl

/-- A fire that is delivered to the trigger leaves no registration that was there before. -/
theorem step {m : Subtype.Matcher} {a : Act} (hl : t.listener = i) (hs : t.Step i m a p u q)
    (h : a.delivers i = true ∨ t.Covered fs i p) : u.Covered fs i q := by
  cases hs with
  | passed hp ht =>
    obtain hd | hc := h
    · exact vacuous (Act.spent_of_prepare hd ht)
    · exact hc.passed hp
  | evaluated ha =>
    obtain hd | hc := h
    · rw [ha] at hd
      cases hd
    · have hu := a.bare_prepare i t
      exact (hc.of_bare hu (Act.registered_prepare t ha)).update ((listener_of_bare hu).trans hl)
  | broken e ha hr hb => exact vacuous rfl
  | fired e ha hr hb =>
    have hc : t.spent.Covered fs i (t.struck m e p) := vacuous rfl
    have hl' : t.spent.listener = i := hl
    exact (hc.update hl').passed (Platform.Passed.release (b := false) _)

theorem mono {gs : List Flight} (hfs : ∀ f ∈ fs, f.listener = i → f ∈ gs) (h : t.Covered fs i p) :
    t.Covered gs i p := by
  intro hr
  obtain ⟨s, es, hs, ht, htr, hhs, hc⟩ := h hr
  refine ⟨s, es, hs, ht, htr, hhs, hc.imp_right ?_⟩
  rintro ⟨f, hf, hl, hn⟩
  exact ⟨f, hfs f hf hl, hl, hn⟩

/-- A fire takes the registration from the registry and sends an event on its way instead. -/
theorem fire (l : Listener) (values : List Number.Single) (timestamp : UInt64)
    (h : t.Covered fs i p) :
    t.Covered (fs ++ (p.fire l values timestamp).1.toList.map (⟨l, ·, p.trace.length⟩)) i
      (p.fire l values timestamp).2 := by
  intro hr
  obtain ⟨s, es, gs, hs, htr, hgs, hc⟩ := h hr
  refine ⟨s, es, gs, hs, htr, hgs, ?_⟩
  obtain ha | ⟨f, hf, hfl, hn⟩ := hc
  -- The event of this fire comes after all calls so far, so after the last request.
  · by_cases hli : l = i
    · subst hli
      have he : (p.fire l values timestamp).1 = some ⟨s, timestamp, values⟩ := by
        rw [show (p.fire l values timestamp).1 = _ from p.registry.fire_event l values timestamp, ha]
        rfl
      refine .inr ⟨⟨l, ⟨s, timestamp, values⟩, p.trace.length⟩, by simp [he], rfl, ?_⟩
      rw [htr]
      simp
    · exact .inl ((p.registry.armed_fire l i values timestamp).trans ((if_neg hli).trans ha))
  · exact .inr ⟨f, by simp [hf], hfl, hn⟩

theorem outside {w : World} (o : Outside) (h : t.Covered fs i w.platform) :
    t.Covered (fs ++ Traffic.launched w (.outside o)) i (w.turn (.outside o)).platform := by
  cases o with
  | fire l values timestamp => exact h.fire l values timestamp
  | put key user value | switchUser user | accepting on | confirming on | failing on
  | breaking on =>
    change t.Covered (fs ++ []) i _
    rw [List.append_nil]
    exact h

end Covered

end Trigger

namespace Traffic

variable {rs : List Requirement} {r : Registry}

theorem Reachable.built {w₀ : World} (hw : w₀.Built rs r) {x : Traffic} (hx : Reachable w₀ x) :
    x.world.Built rs r := by
  induction hx with
  | start => exact hw
  | turn _ k _ ih => exact ih.turn k
  | land _ _ _ ih => exact ih.turn _

theorem covered_turn {w : World} (hw : w.Built rs r) {fs : List Flight}
    {i : Nat} (hc : w.At i (Trigger.Covered fs i)) (k : Turn) :
    (w.turn k).At i (Trigger.Covered (fs ++ launched w k) i) := by
  obtain ⟨o, rfl⟩ | ⟨ho, hk⟩ := w.turn_cases k
  · exact fun t ht => (hc t ht).outside o
  · rw [hk]
    rw [launched_of_own w ho, List.append_nil]
    exact hc.perform hw fun a _ m t p u q hl hs h => .step hl hs (.inr h)

theorem covered_land {w : World} (hw : w.Built rs r) (ho : w.closed = false) {f : Flight}
    {before after : List Flight} {i : Nat}
    (hc : w.At i (Trigger.Covered (before ++ f :: after) i)) :
    (w.turn (.command (.deliver f.listener f.event))).At i
      (Trigger.Covered (before ++ after) i) := by
  intro u hu
  rw [World.turn_deliver ho] at hu ⊢
  obtain ⟨t, ht, hs⟩ := World.exists_step hw.ordered hu
  refine Trigger.Covered.step (hw.ordered i t ht) hs ?_
  by_cases hfi : f.listener = i
  · exact .inl (by simpa [Act.delivers] using hfi)
  · refine .inr ((hc t ht).mono fun g hg hgi => ?_)
    obtain hg | rfl | hg : g ∈ before ∨ g = f ∨ g ∈ after := by simpa using hg
    · simp [hg]
    · exact absurd hgi hfi
    · simp [hg]

theorem Reachable.covered {w₀ : World} (hw : w₀.Built rs r)
    {i : Nat} (h₀ : w₀.At i (Trigger.Covered [] i)) {x : Traffic} (hx : Reachable w₀ x) :
    x.world.At i (Trigger.Covered x.inFlight i) := by
  induction hx with
  | start => exact h₀
  | turn hx k hk ih => exact covered_turn (hx.built hw) ih k
  | land hx ho hf ih =>
    rw [hf] at ih
    exact covered_land (hx.built hw) ho ih

/-- A bank that believes one of its triggers armed is right, or will be told of a fire that came
after its last request. -/
theorem armed_or_in_flight (m : Subtype.Matcher) (rs : List Requirement)
    (suppressible : Option Nat) (o : Observer) (p : Platform) {x : Traffic}
    (hx : Reachable (.assembled m rs suppressible o p) x) {i : Nat} {t : Trigger}
    (ht : x.world.bank.triggers[i]? = some t) (hr : t.registered = true) :
    ∃ s, (rs[i]?.bind fun q => q.source.resolve? p.registry) = some s ∧
      (x.world.platform.registry.armed[i]? = some s ∨
        ∃ f ∈ x.inFlight, f.Follows i x.world.platform.trace) ∧
      (x.inFlight = [] → x.world.platform.registry.armed[i]? = some s) := by
  have hw := World.built_assembled m rs suppressible o p
  have h₀ : (World.assembled m rs suppressible o p).At i (Trigger.Covered [] i) :=
    fun _ ht => .vacuous (World.registered_assembled ht)
  obtain ⟨s, es, gs, hs, htr, hgs, hc⟩ := hx.covered hw h₀ t ht hr
  refine ⟨s, ?_, ?_, ?_⟩
  · rw [← (hx.built hw).sensor ht, hs]
  · refine hc.imp_right ?_
    rintro ⟨f, hf, hl, hn⟩
    exact ⟨f, hf, hl, es, s, gs, htr, hgs, hn⟩
  · intro hn
    obtain ha | ⟨f, hf, -⟩ := hc
    · exact ha
    · rw [hn] at hf
      cases hf

theorem in_flight_after_fire :
    let w := World.assembled .admitNone ({} : Config).requirements (some Config.pickUpPosition) 1
      .standard
    let x := (turn ⟨w, []⟩ (.command (.listen true))).turn (.outside (.fire 1 [] 0))
    let t : Trigger := { Trigger.ofRequirement (.standard "") 1
      ⟨.category .pickUpGesture, .pickUp, some Setting.pickUpKey, true⟩ with
      requested := true, registered := true }
    Reachable w x ∧ x.world.bank.triggers[1]? = some t ∧ t.registered = true ∧
      x.world.platform.registry.armed[1]? = none ∧
      ∃ f ∈ x.inFlight, f.Follows 1 x.world.platform.trace := by
  intro w x t
  have hx : Reachable w x := .turn (.turn .start _ fun _ => rfl) _ fun _ => rfl
  have ht : x.world.bank.triggers[1]? = some t := by decide +kernel
  have hn : x.world.platform.registry.armed[1]? = none := by decide +kernel
  obtain ⟨s, -, ha | hf, -⟩ := armed_or_in_flight .admitNone _ _ 1 .standard hx ht rfl
  · rw [hn] at ha
    cases ha
  · exact ⟨hx, ht, rfl, hn, hf⟩

end Traffic

end AmbientPulse
