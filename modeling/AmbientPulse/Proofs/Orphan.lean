import AmbientPulse.Proofs.Flight
import AmbientPulse.Proofs.Settlement

namespace AmbientPulse

namespace Flight

variable {f : Flight} {i : Listener} {trace es : List Effect}

/-- Only an accepted request can set an event off from those that follow the last one. -/
theorem Follows.of_append (h : f.Follows i (trace ++ es))
    (hes : ∀ s, Effect.request i s true ∉ es) : f.Follows i trace := by
  obtain ⟨hl, xs, s, gs, ht, hgs, hn⟩ := h
  obtain ⟨ys, -, rfl⟩ | ⟨ys, rfl, hy⟩ := List.append_eq_append_iff.mp ht
  · exact absurd (List.mem_append_right ys List.mem_cons_self) (hes s)
  · cases ys with
    | nil =>
      obtain rfl : _ = es := hy
      exact absurd List.mem_cons_self (hes s)
    | cons y ys =>
      obtain ⟨rfl, rfl⟩ := List.cons_eq_cons.mp hy
      exact ⟨hl, xs, s, ys, rfl, fun s' hs' => hgs s' (by simp [hs']), hn⟩

/-- No event that has been fired before a request is accepted follows that request. -/
theorem not_follows_request (hf : f.since ≤ trace.length) (s : Sensor) :
    ¬ f.Follows i (trace ++ [.request i s true]) := by
  rintro ⟨-, xs, s', gs, ht, hgs, hn⟩
  obtain rfl | ⟨gs, g, rfl⟩ := gs.eq_nil_or_concat
  · obtain ⟨rfl, -⟩ := List.append_inj' ht rfl
    omega
  · rw [List.concat_eq_append, ← List.cons_append, ← List.append_assoc] at ht
    obtain ⟨-, hg⟩ := List.append_inj' ht rfl
    obtain rfl := List.singleton_inj.mp hg
    exact hgs s (by simp)

end Flight

namespace Trigger

/-- What is armed for a trigger the trigger knows of, and no event of that registration is on its way
yet. -/
structure Accounted (fs : List Flight) (i : Nat) (t : Trigger) (p : Platform) : Prop where
  past : ∀ f ∈ fs, f.listener = i → f.since ≤ p.trace.length
  registered : ∀ s, p.registry.armed[i]? = some s → t.registered = true
  unfired : ∀ s, p.registry.armed[i]? = some s → ∀ f ∈ fs, ¬ f.Follows i p.trace

namespace Accounted

variable {fs gs : List Flight} {i : Nat} {t u : Trigger} {p q : Platform}

theorem subset (hg : gs ⊆ fs) (h : t.Accounted fs i p) : t.Accounted gs i p where
  past f hf := h.past f (hg hf)
  registered := h.registered
  unfired s hs f hf := h.unfired s hs f (hg hf)

/-- Calls without an accepted request change nothing for the events on their way. -/
theorem extend (h : t.Accounted fs i p) {es : List Effect} (ht : q.trace = p.trace ++ es)
    (hes : ∀ s, Effect.request i s true ∉ es)
    (ha : ∀ s, q.registry.armed[i]? = some s →
      p.registry.armed[i]? = some s ∧ u.registered = true) : u.Accounted fs i q where
  past f hf hi := by
    have hn := h.past f hf hi
    rw [ht, List.length_append]
    omega
  registered s hs := (ha s hs).2
  unfired s hs f hf hq := by
    rw [ht] at hq
    exact h.unfired s (ha s hs).1 f hf (hq.of_append hes)

theorem passed {b : Bool} (hp : p.Passed i b q) (h : t.Accounted fs i p) :
    t.Accounted fs i q := by
  obtain ⟨es, ht, hes⟩ := hp.trace
  refine h.extend ht (fun s hs => ?_) fun s hs => ?_
  · simpa [Effect.mark?] using hes _ hs
  · rw [hp.armed] at hs
    exact ⟨hs, h.registered s hs⟩

/-- Spending a registration that the registry has already used up leaves nothing unaccounted for. -/
theorem spend (h : t.Accounted fs i p) (hn : p.registry.armed[i]? = none) :
    t.spent.Accounted fs i p :=
  h.extend (List.append_nil _).symm (by simp) fun s hs => by
    rw [hn] at hs
    cases hs

theorem armed (hl : t.listener = i) (hp : ∀ f ∈ fs, f.listener = i → f.since ≤ p.trace.length)
    (ha : p.registry.accepting = true) (s : Sensor) :
    (t.arm s p).1.Accounted fs i (t.arm s p).2 := by
  have ht : (t.arm s p).2.trace = p.trace ++ [.request i s true] := by simp [arm, ha, hl]
  have hn : ∀ f ∈ fs, ¬ f.Follows i (t.arm s p).2.trace := by
    intro f hf hq
    rw [ht] at hq
    exact Flight.not_follows_request (hp f hf hq.1) s hq
  refine ⟨fun f hf hi => ?_, fun _ _ => ha, fun _ _ => hn⟩
  have h := hp f hf hi
  rw [ht, List.length_append]
  omega

theorem update (hl : t.listener = i) (hc : p.registry.confirming = true)
    (h : t.Accounted fs i p) : (t.update p).1.Accounted fs i (t.update p).2 := by
  obtain ⟨-, hu, -⟩ | ⟨s, -, -, hr, hu, -⟩ | ⟨s, -, -, -, hu, -⟩ := t.update_cases p <;> rw [hu]
  · exact h
  · cases ha : p.registry.accepting with
    | true => exact armed hl h.past ha s
    | false =>
      have ht : (t.arm s p).2.trace = p.trace ++ [.request t.listener s false] := by
        simp [arm, ha]
      refine h.extend ht (by simp) fun s' hs' => ?_
      have hs : p.registry.armed[i]? = some s' := by
        rw [← hs']
        exact ((Registry.armed_request _ _ _ _).trans (if_neg (by simp [ha]))).symm
      rw [h.registered s' hs] at hr
      cases hr
  · refine h.extend (Platform.trace_cancel p t.listener s) (by simp) fun s' hs' => ?_
    have hn : (t.disarm s p).2.registry.armed[i]? = none :=
      (Registry.armed_cancel _ _ _).trans (if_pos ⟨hc, hl⟩)
    rw [hn] at hs'
    cases hs'

theorem step {m : Subtype.Matcher} {a : Act} (hl : t.listener = i)
    (hc : p.registry.confirming = true) (hd : a.delivers i = false)
    (hs : t.Step i m a p u q) (h : t.Accounted fs i p) : u.Accounted fs i q := by
  cases hs with
  | passed hp ht => exact h.passed hp
  | evaluated ha =>
    have hu := a.bare_prepare i t
    have hr := Act.registered_prepare t hd
    have hp : (a.prepare i t).Accounted fs i p :=
      h.extend (List.append_nil _).symm (by simp) fun s hs => ⟨hs, hr.trans (h.registered s hs)⟩
    exact hp.update ((listener_of_bare hu).trans hl) hc
  | broken e ha hr hb | fired e ha hr hb =>
    rw [ha] at hd
    simp [Act.delivers] at hd

/-- An event that lands either comes of the last registration, which the registry has used up then,
or finds that the trigger is to be armed again all the same. -/
theorem land {m : Subtype.Matcher} {f : Flight} {before after : List Flight} (hl : t.listener = i)
    (hc : p.registry.confirming = true) (hs : t.Step i m (.deliver i f.event) p u q)
    (h : t.Accounted (before ++ f :: after) i p)
    (hf : t.registered = true → f.Follows i p.trace ∨
      p.registry.accepting = true ∧ p.callback.breaking = false ∧ t.wanted p.settings = true) :
    u.Accounted (before ++ after) i q := by
  have hsub : t.Accounted (before ++ after) i p :=
    h.subset ((List.sublist_cons_self f after).append_left before).subset
  have unarmed (hf : f.Follows i p.trace) : p.registry.armed[i]? = none := by
    refine Option.eq_none_iff_forall_ne_some.mpr fun s ha => ?_
    exact h.unfired s ha f (by simp) hf
  cases hs with
  | passed hp ht => exact hsub.passed hp
  | evaluated ha => simp [Act.delivers] at ha
  | broken e ha hr hb =>
    obtain hf | ⟨-, hb', -⟩ := hf hr
    · exact (hsub.spend (unarmed hf)).passed ((Platform.Passed.struck t m e p).trans (.release _))
    · rw [hb'] at hb
      cases hb
  | fired e ha hr hb =>
    refine passed (.release (b := false) _) ?_
    obtain hf | ⟨hacc, -, hw⟩ := hf hr
    · have hq := (hsub.spend (unarmed hf)).passed (Platform.Passed.struck t m e p)
      exact hq.update hl (by simpa using hc)
    · have hw' : t.spent.wanted (t.struck m e p).settings = true := by
        rw [settings_struck]
        exact hw
      obtain ⟨s, hu⟩ := update_of_wanted hw' rfl
      have hq := hsub.passed (Platform.Passed.struck t m e p)
      rw [hu]
      exact armed hl hq.past (by simpa using hacc) s

theorem others (h : t.Accounted fs i p) (hg : ∀ g ∈ gs, g.listener ≠ i) :
    t.Accounted (fs ++ gs) i p where
  past f hf hi := (List.mem_append.mp hf).elim (h.past f · hi) fun hf => absurd hi (hg f hf)
  registered := h.registered
  unfired s hs f hf hq := (List.mem_append.mp hf).elim (h.unfired s hs f · hq) fun hf =>
    hg f hf hq.1

/-- A fire takes the registration from the registry before its event is on its way. -/
theorem fire (l : Listener) (values : List Number.Single) (timestamp : UInt64)
    (h : t.Accounted fs i p) :
    t.Accounted (fs ++ (p.fire l values timestamp).1.toList.map (⟨l, ·, p.trace.length⟩)) i
      (p.fire l values timestamp).2 := by
  have ha : (p.fire l values timestamp).2.registry.armed[i]? = _ :=
    p.registry.armed_fire l i values timestamp
  by_cases hl : l = i
  · rw [if_pos hl] at ha
    refine ⟨fun f hf hi => ?_, fun s hs => ?_, fun s hs => ?_⟩
    · obtain hf | hf := List.mem_append.mp hf
      · exact h.past f hf hi
      · obtain ⟨e, -, rfl⟩ := List.mem_map.mp hf
        exact Nat.le_refl _
    · rw [ha] at hs
      cases hs
    · rw [ha] at hs
      cases hs
  · rw [if_neg hl] at ha
    have hk : t.Accounted fs i (p.fire l values timestamp).2 :=
      h.extend (List.append_nil _).symm (by simp) fun s hs => by
        rw [ha] at hs
        exact ⟨hs, h.registered s hs⟩
    refine hk.others fun g hg => ?_
    obtain ⟨e, -, rfl⟩ := List.mem_map.mp hg
    exact hl

theorem outside {w : World} (o : Outside) (h : t.Accounted fs i w.platform) :
    t.Accounted (fs ++ Traffic.launched w (.outside o)) i (w.turn (.outside o)).platform := by
  cases o with
  | fire l values timestamp => exact h.fire l values timestamp
  | put key user value | switchUser user | accepting on | confirming on | failing on
  | breaking on =>
    change t.Accounted (fs ++ []) i _
    rw [List.append_nil]
    exact ⟨h.past, h.registered, h.unfired⟩

end Accounted

end Trigger

namespace World

/-- A bank that was given up has nothing requested. -/
def Stopped (w : World) : Prop :=
  w.closed = true → ∀ i, w.Requested false i

theorem Stopped.turn {rs : List Requirement} {r : Registry} {w : World} (h : w.Stopped)
    (hw : w.Built rs r) (k : Turn) : (w.turn k).Stopped := by
  cases hc : w.closed with
  | true =>
    cases k with
    | command c | close => simpa [World.turn, hc] using h
    | outside o => exact h
  | false =>
    cases k with
    | command c =>
      intro hn
      have hf : (w.turn (.command c)).closed = w.closed := by
        rw [World.turn, hc]
        exact hc
      rw [hf, hc] at hn
      cases hn
    | close =>
      rw [turn_performed w (by simp), acts, hc, if_neg (by simp), perform_append]
      exact fun _ i => requested_listen hw false
    | outside o => exact h

end World

namespace Traffic

/-- If a trigger takes an event, the event comes of the trigger's last registration, or else the
trigger gets armed again all the same. -/
def Timely (f : Flight) (w : World) : Prop :=
  ∀ t, w.bank.triggers[f.listener]? = some t → t.registered = true →
    f.Follows f.listener w.platform.trace ∨ w.Fit ∧ t.wanted w.platform.settings = true

/-- What can come of a world whose registry goes on confirming cancellations, when each event is
timely that reaches the bank. -/
inductive Orderly (w₀ : World) : Traffic → Prop
  | start : Orderly w₀ ⟨w₀, []⟩
  | turn {x : Traffic} (hx : Orderly w₀ x) (k : Turn) (hk : ∀ l, k.delivers l = false)
      (hc : k ≠ .outside (.confirming false)) : Orderly w₀ (x.turn k)
  | land {x : Traffic} (hx : Orderly w₀ x) (ho : x.world.closed = false) {f : Flight}
      {before after : List Flight} (hf : x.inFlight = before ++ f :: after)
      (ht : Timely f x.world) :
      Orderly w₀ ⟨x.world.turn (.command (.deliver f.listener f.event)), before ++ after⟩

/-- What holds of orderly traffic throughout. -/
structure Tidy (rs : List Requirement) (r : Registry) (fs : List Flight) (w : World) : Prop where
  built : w.Built rs r
  confirming : w.platform.registry.confirming = true
  guarded : ∀ i, w.At i fun t _ => t.Guarded
  accounted : ∀ i, w.At i (Trigger.Accounted fs i)
  vacant : ∀ i : Nat, w.bank.triggers[i]? = none → w.platform.registry.armed[i]? = none

namespace Tidy

variable {rs : List Requirement} {r : Registry} {fs : List Flight} {w : World}

/-- What an act leaves to be shown is that the events on their way stay accounted for. -/
theorem of_act (h : Tidy rs r fs w) {gs : List Flight} {a : Act}
    (ha : ∀ (i : Nat) (t u : Trigger), w.bank.triggers[i]? = some t → t.listener = i →
      t.Step i w.bank.matcher a w.platform u (w.act a).platform →
        u.Accounted gs i (w.act a).platform) : Tidy rs r gs (w.act a) where
  built := h.built.act a
  confirming := (congrArg Outlook.confirming (w.outlook_act a)).trans h.confirming
  guarded i := (h.guarded i).act h.built.ordered fun _ _ _ _ _ _ hs ht => hs.guarded ht
  accounted i u hu := by
    obtain ⟨t, ht, hs⟩ := World.exists_step h.built.ordered hu
    exact ha i t u ht (h.built.ordered i t ht) hs
  vacant i hi := by
    rw [List.getElem?_eq_none_iff, World.length_act, ← List.getElem?_eq_none_iff] at hi
    exact (World.armed_act_vacant h.built.ordered a hi).trans (h.vacant i hi)

theorem act (h : Tidy rs r fs w) {a : Act} (hd : ∀ i, a.delivers i = false) :
    Tidy rs r fs (w.act a) :=
  h.of_act fun i t _ ht hl hs => (h.accounted i t ht).step hl h.confirming (hd i) hs

theorem land {f : Flight} {before after : List Flight} (h : Tidy rs r (before ++ f :: after) w)
    (hf : Timely f w) : Tidy rs r (before ++ after) (w.act (.deliver f.listener f.event)) := by
  refine h.of_act fun i t u ht hl hs => ?_
  by_cases hi : f.listener = i
  · subst hi
    refine (h.accounted _ t ht).land hl h.confirming hs fun hr => ?_
    exact (hf t ht hr).imp_right fun ⟨hw, hq⟩ => ⟨hw.1, hw.2, hq⟩
  · have hd : Act.delivers i (.deliver f.listener f.event) = false := by
      simpa [Act.delivers] using hi
    refine ((h.accounted i t ht).step hl h.confirming hd hs).subset ?_
    exact ((List.sublist_cons_self f after).append_left before).subset

theorem outside (h : Tidy rs r fs w) {o : Outside} (ho : o ≠ .confirming false) :
    Tidy rs r (fs ++ launched w (.outside o)) (w.turn (.outside o)) where
  built := h.built.turn _
  confirming := by
    cases o with
    | confirming on =>
      cases on with
      | true => rfl
      | false => exact absurd rfl ho
    | fire l values timestamp =>
      rw [← h.confirming]
      simp only [World.turn, World.outside, Platform.outside, Platform.fire, Registry.fire]
      split <;> rfl
    | put | switchUser | accepting | failing | breaking => exact h.confirming
  guarded := h.guarded
  accounted i t ht := (h.accounted i t ht).outside o
  vacant i hi := by
    have hn := h.vacant i hi
    cases o with
    | fire l values timestamp =>
      refine (w.platform.registry.armed_fire l i values timestamp).trans ?_
      rw [hn, ite_self]
    | put | switchUser | accepting | confirming | failing | breaking => exact hn

theorem turn (h : Tidy rs r fs w) {k : Turn} (hk : ∀ l, k.delivers l = false)
    (hc : k ≠ .outside (.confirming false)) : Tidy rs r (fs ++ launched w k) (w.turn k) := by
  obtain ⟨o, rfl⟩ | ⟨ho, hp⟩ := w.turn_cases k
  · exact h.outside fun he => hc (he ▸ rfl)
  · rw [hp, launched_of_own w ho, List.append_nil]
    refine World.perform_keeps (fun a ha v hv => hv.act fun i => ?_) h
    exact (World.delivers_of_mem_acts ha).trans (hk i)

theorem unarmed (h : Tidy rs r fs w) (hq : ∀ i, w.Requested false i) :
    w.platform.registry.armedListeners = [] := by
  refine (Registry.armedListeners_eq_nil _).mpr fun l => ?_
  cases ht : w.bank.triggers[l]? with
  | none => exact h.vacant l ht
  | some t =>
    refine Option.eq_none_iff_forall_ne_some.mpr fun s hs => ?_
    obtain ⟨-, -, hr, -⟩ := h.guarded l t ht ((h.accounted l t ht).registered s hs)
    rw [hq l t ht] at hr
    cases hr

theorem assembled (m : Subtype.Matcher) (rs : List Requirement) (suppressible : Option Nat)
    (o : Observer) {p : Platform} (hc : p.registry.confirming = true)
    (hn : p.registry.armedListeners = []) :
    Tidy rs p.registry [] (.assembled m rs suppressible o p) := by
  have ha := (Registry.armedListeners_eq_nil _).mp hn
  exact {
    built := World.built_assembled m rs suppressible o p
    confirming := hc
    guarded := World.guarded_assembled m rs suppressible o p
    accounted := fun i t _ => {
      past := by simp
      registered := fun s hs => absurd ((ha i).symm.trans hs) (by simp)
      unfired := by simp }
    vacant := fun i _ => ha i }

end Tidy

theorem Orderly.tidy {rs : List Requirement} {r : Registry} {w₀ : World} (h₀ : Tidy rs r [] w₀)
    (hs : w₀.Stopped) {x : Traffic} (hx : Orderly w₀ x) :
    Tidy rs r x.inFlight x.world ∧ x.world.Stopped := by
  induction hx with
  | start => exact ⟨h₀, hs⟩
  | turn _ k hk hc ih => exact ⟨ih.1.turn hk hc, ih.2.turn ih.1.built k⟩
  | land _ ho hf ht ih =>
    rw [hf] at ih
    refine ⟨?_, ih.2.turn ih.1.built _⟩
    have hw := ih.1.land ht
    rwa [← World.turn_deliver ho] at hw

/-- In orderly traffic only registered triggers have anything armed, and nothing is left armed by a
bank that stops listening or is given up. -/
theorem armed_only_if_registered (m : Subtype.Matcher) (rs : List Requirement)
    (suppressible : Option Nat) (o : Observer) {p : Platform} (hc : p.registry.confirming = true)
    (hn : p.registry.armedListeners = []) {x : Traffic}
    (hx : Orderly (.assembled m rs suppressible o p) x) :
    (∀ l ∈ x.world.platform.registry.armedListeners,
        ∃ t, x.world.bank.triggers[l]? = some t ∧ t.registered = true) ∧
      (x.turn (.command (.listen false))).world.platform.registry.armedListeners = [] ∧
      (x.turn .close).world.platform.registry.armedListeners = [] ∧
      (x.world.closed = true → x.world.platform.registry.armedListeners = []) := by
  have hs : (World.assembled m rs suppressible o p).Stopped := fun h => by cases h
  have tidy (y : Traffic) (hy : Orderly (.assembled m rs suppressible o p) y) :=
    hy.tidy (.assembled m rs suppressible o hc hn) hs
  have closed (y : Traffic) (hy : Orderly (.assembled m rs suppressible o p) y)
      (ho : y.world.closed = true) : y.world.platform.registry.armedListeners = [] :=
    (tidy y hy).1.unarmed ((tidy y hy).2 ho)
  refine ⟨fun l hl => ?_, ?_, ?_, closed x hx⟩
  · obtain ⟨s, ha⟩ := (Registry.mem_armedListeners _ l).mp hl
    have hx' := (tidy x hx).1
    cases ht : x.world.bank.triggers[l]? with
    | none =>
      rw [hx'.vacant l ht] at ha
      cases ha
    | some t => exact ⟨t, rfl, (hx'.accounted l t ht).registered s ha⟩
  · have hy : Orderly _ (x.turn (.command (.listen false))) := hx.turn _ (fun _ => rfl) (by simp)
    cases ho : x.world.closed with
    | true =>
      refine closed _ hy ?_
      simp [turn, World.turn, ho]
    | false =>
      refine (tidy _ hy).1.unarmed fun i => ?_
      have hq := World.requested_listen (i := i) (tidy x hx).1.built false
      rw [← World.ask_performed] at hq
      simpa [turn, World.turn, ho] using hq
  · refine closed _ (hx.turn _ (fun _ => rfl) (by simp)) ?_
    cases ho : x.world.closed <;> simp [turn, World.turn, World.close, ho]

theorem armed_after_late_fire :
    let w := World.assembled .admitNone ({} : Config).requirements (some Config.pickUpPosition) 1
      .standard
    let s : Sensor := ⟨2, "Pickup Gesture", .pickUpGesture, "android.sensor.pick_up_gesture"⟩
    let x := ((turn ⟨w, []⟩ (.command (.listen true))).turn (.outside (.fire 1 [] 7))).turn
      (.command .rearm)
    let y : Traffic := ⟨x.world.turn (.command (.deliver 1 ⟨s, 7, []⟩)), []⟩
    Platform.standard.registry.confirming = true ∧
      Platform.standard.registry.armedListeners = [] ∧ Orderly w y ∧
      y.world.platform.registry.armedListeners = [1] ∧
      (∃ t, y.world.bank.triggers[1]? = some t ∧ t.registered = true) ∧
      (y.turn .close).world.platform.registry.armedListeners = [] := by
  intro w s x y
  let u : Trigger := { Trigger.ofRequirement (.standard "") 1
    ⟨.category .pickUpGesture, .pickUp, some Setting.pickUpKey, true⟩ with
    requested := true, registered := true }
  have hx : Orderly w x :=
    .turn (.turn (.turn .start _ (fun _ => rfl) (by simp)) _ (fun _ => rfl) (by simp)) _
      (fun _ => rfl) (by simp)
  have hf : x.inFlight = [] ++ ⟨1, ⟨s, 7, []⟩, 3⟩ :: [] := by decide +kernel
  have hu : x.world.bank.triggers[1]? = some u := by decide +kernel
  have ho : x.world.closed = false := by decide +kernel
  have hl : Timely ⟨1, ⟨s, 7, []⟩, 3⟩ x.world := fun t ht _ => by
    obtain rfl : u = t := Option.some.inj (hu.symm.trans ht)
    exact .inr ⟨⟨rfl, rfl⟩, by decide +kernel⟩
  have landed := Orderly.land hx ho hf hl
  have hy : Orderly w y := landed
  have hn : y.world.platform.registry.armedListeners = [1] := by decide +kernel
  have hp : Platform.standard.registry.armedListeners = [] := by decide +kernel
  obtain ⟨h, -, hc, -⟩ := armed_only_if_registered .admitNone ({} : Config).requirements
    (some Config.pickUpPosition) 1 rfl hp hy
  exact ⟨rfl, hp, hy, hn, h 1 (by simp [hn]), hc⟩

theorem orphaned_by_overtaken_fire :
    let w := World.assembled .admitNone ({} : Config).requirements (some Config.pickUpPosition) 1
      .standard
    let s : Sensor := ⟨2, "Pickup Gesture", .pickUpGesture, "android.sensor.pick_up_gesture"⟩
    let x := (((turn ⟨w, []⟩ (.command (.listen true))).turn (.outside (.fire 1 [] 7))).turn
      (.command .rearm)).turn (.outside (.put Setting.pickUpKey User.system false))
    let y : Traffic := ⟨x.world.turn (.command (.deliver 1 ⟨s, 7, []⟩)), []⟩
    Reachable w y ∧ 1 ∈ y.world.platform.registry.armedListeners ∧
      y.world.bank.triggers[1]?.map (fun t => t.registered) = some false ∧
      (y.turn .close).world.platform.registry.armedListeners = [1] := by
  intro w s x y
  have hx : Reachable w x :=
    .turn (.turn (.turn (.turn .start _ fun _ => rfl) _ fun _ => rfl) _ fun _ => rfl) _ fun _ => rfl
  have hf : x.inFlight = [] ++ ⟨1, ⟨s, 7, []⟩, 3⟩ :: [] := by decide +kernel
  have ho : x.world.closed = false := by decide +kernel
  have landed := Reachable.land hx ho hf
  exact ⟨landed, by decide +kernel, by decide +kernel, by decide +kernel⟩

end Traffic

end AmbientPulse
