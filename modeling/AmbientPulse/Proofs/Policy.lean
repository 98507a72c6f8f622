import AmbientPulse.Proofs.Guard

namespace AmbientPulse

def Effect.registers : Effect → Bool
  | .request _ _ _ => true
  | .cancel _ _ _ => true
  | _ => false

namespace Trigger

theorem request_mem_calls {t : Trigger} {p : Platform} {l : Listener} {s : Sensor} {b : Bool}
    (h : .request l s b ∈ t.calls p) :
    t.listener = l ∧ t.sensor = some s ∧ t.registered = false ∧ t.Permitted p.settings := by
  obtain ⟨-, -, hc⟩ | ⟨s', hs, hw, hr, -, hc⟩ | ⟨s', -, -, -, -, hc⟩ := t.update_cases p <;>
    rw [hc] at h
  · cases h
  · obtain ⟨rfl, rfl, -⟩ : l = t.listener ∧ s = s' ∧ b = p.registry.accepting := by simpa using h
    exact ⟨rfl, hs, hr, ((t.wanted_iff _).mp hw).2⟩
  · simp at h

theorem cancel_mem_calls {t : Trigger} {p : Platform} {l : Listener} {s : Sensor} {b : Bool}
    (h : .cancel l s b ∈ t.calls p) :
    t.listener = l ∧ t.sensor = some s ∧ t.registered = true ∧ ¬t.Permitted p.settings := by
  obtain ⟨-, -, hc⟩ | ⟨s', -, -, -, -, hc⟩ | ⟨s', hs, hw, hr, -, hc⟩ := t.update_cases p <;>
    rw [hc] at h
  · cases h
  · simp at h
  · obtain ⟨rfl, rfl, -⟩ : l = t.listener ∧ s = s' ∧ b = _ := by simpa using h
    refine ⟨rfl, hs, hr, fun hp => ?_⟩
    have hw' : t.wanted p.settings = true := (t.wanted_iff _).mpr ⟨by simp [hs], hp⟩
    rw [hw] at hw'
    cases hw'

theorem calls_registers (t : Trigger) (p : Platform) : ∀ c ∈ t.calls p, c.registers = true := by
  obtain ⟨-, -, hc⟩ | ⟨s, -, -, -, -, hc⟩ | ⟨s, -, -, -, -, hc⟩ := t.update_cases p <;>
    simp [hc, Effect.registers]

theorem calls_eq_singleton {t : Trigger} {p : Platform} {c : Effect} (h : c ∈ t.calls p) :
    t.calls p = [c] := by
  obtain ⟨-, -, hc⟩ | ⟨s, -, -, -, -, hc⟩ | ⟨s, -, -, -, -, hc⟩ := t.update_cases p <;>
    rw [hc] at h ⊢
  · cases h
  · rw [List.mem_singleton.mp h]
  · rw [List.mem_singleton.mp h]

theorem strike_registers (t : Trigger) (m : Subtype.Matcher) (e : Event) :
    ∀ c ∈ t.strike m e, c.registers = false := by
  unfold strike
  split <;> simp [Effect.registers]

end Trigger

namespace World

/-- The world as an act has it when it comes to an update: with a flag set, or with the pulse made
and the registration used up. -/
def poised (w : World) (a : Act) : World :=
  { w with
    bank := { w.bank with triggers := w.bank.triggers.mapIdx fun i t => a.prepare i t }
    platform :=
      match a with
      | .deliver l e =>
        match w.bank.triggers[l]? with
        | none => w.platform
        | some t => if t.registered then t.struck w.bank.matcher e w.platform else w.platform
      | _ => w.platform }

def poises : World → List Act → List World
  | _, [] => []
  | w, a :: as => w.poised a :: poises (w.act a) as

/-- The moments of a run at which a bank decides whether to call the registry. -/
def moments : World → List Turn → List World
  | _, [] => []
  | w, k :: ks => w.poises (w.acts k) ++ moments (w.turn k) ks

theorem getElem?_poised {w : World} {i : Nat} {t : Trigger} (a : Act)
    (ht : w.bank.triggers[i]? = some t) :
    (w.poised a).bank.triggers[i]? = some (a.prepare i t) := by
  simp [poised, ht]

theorem Built.poised {rs : List Requirement} {r : Registry} {w : World} (hw : w.Built rs r)
    (a : Act) : (w.poised a).Built rs r := by
  intro i
  rw [← hw i]
  simp only [World.poised, List.getElem?_mapIdx]
  cases w.bank.triggers[i]? <;> simp

/-- Every call for the registry among some that follow a trace is what an update in the given world
makes, and nothing happened between that world and the call. -/
def Accounts (v : World) (trace es : List Effect) : Prop :=
  ∀ xs e ys, es = xs ++ e :: ys → e.registers = true →
    v.platform.trace = trace ++ xs ∧
      ∃ (i : Nat) (t : Trigger), v.bank.triggers[i]? = some t ∧ e ∈ t.calls v.platform

theorem prefix_eq_of_split {pre post xs ys : List Effect} {e : Effect} (hpre : e ∉ pre)
    (hpost : e ∉ post) (h : pre ++ [e] ++ post = xs ++ e :: ys) : pre = xs := by
  rw [List.append_assoc, List.singleton_append] at h
  obtain ⟨zs, rfl, hz⟩ | ⟨zs, rfl, hz⟩ := List.append_eq_append_iff.mp h
  · cases zs with
    | nil => rw [List.append_nil]
    | cons z zs =>
      obtain ⟨-, rfl⟩ := List.cons.inj hz
      simp at hpost
  · cases zs with
    | nil => rw [List.append_nil]
    | cons z zs =>
      obtain ⟨rfl, -⟩ := List.cons.inj hz
      simp at hpre

theorem accounts_quiet (v : World) (trace : List Effect) {es : List Effect}
    (h : ∀ e ∈ es, e.registers = false) : v.Accounts trace es := by
  intro xs e ys he hr
  rw [h e (by simp [he])] at hr
  cases hr

theorem accounts_calls {v : World} {trace pre post : List Effect} {i : Nat} {t : Trigger}
    (hpre : ∀ e ∈ pre, e.registers = false) (hpost : ∀ e ∈ post, e.registers = false)
    (hv : v.platform.trace = trace ++ pre) (ht : v.bank.triggers[i]? = some t) :
    v.Accounts trace (pre ++ t.calls v.platform ++ post) := by
  intro xs e ys he hr
  have hpre' : e ∉ pre := fun h => by simp [hpre e h] at hr
  have hpost' : e ∉ post := fun h => by simp [hpost e h] at hr
  have hm : e ∈ t.calls v.platform := by
    have h : e ∈ pre ++ t.calls v.platform ++ post := by simp [he]
    simpa [hpre', hpost'] using h
  -- There is one call at most, so what comes before it is `pre`.
  rw [Trigger.calls_eq_singleton hm] at he
  rw [hv, prefix_eq_of_split hpre' hpost' he]
  exact ⟨rfl, i, t, ht, hm⟩

/-- An act adds calls to the trace: one for the registry at most, from an update in the world that
is poised for it, and a pulse only for a fire that a registered trigger gets. -/
structure Adds (w : World) (a : Act) (q : Platform) (es : List Effect) : Prop where
  trace : q.trace = w.platform.trace ++ es
  accounts : (w.poised a).Accounts w.platform.trace es
  pulse : ∀ reason b, .pulse reason b ∈ es →
    ∃ l e t, a = .deliver l e ∧ w.bank.triggers[l]? = some t ∧ t.registered = true

theorem adds_nothing {w : World} (a : Act) {q : Platform} (hq : q.trace = w.platform.trace) :
    w.Adds a q [] :=
  ⟨by simp [hq], accounts_quiet _ _ (by simp), by simp⟩

theorem adds_quiet {w : World} (a : Act) {q : Platform} {c : Effect}
    (hq : q.trace = w.platform.trace ++ [c]) (hr : c.registers = false)
    (hp : ∀ reason b, c ≠ .pulse reason b) : w.Adds a q [c] :=
  ⟨hq, accounts_quiet _ _ (by simpa using hr), fun reason b h =>
    absurd (List.mem_singleton.mp h).symm (hp reason b)⟩

theorem change_adds (w : World) {a : Act} {g : Trigger → Trigger}
    {f : Trigger → Platform → Trigger × Platform} (hf : Trigger.Evaluates g f) (j : Nat)
    (hg : ∀ t, a.prepare j t = g t) (hp : (w.poised a).platform = w.platform) :
    ∃ es, w.Adds a (w.change j f).platform es := by
  cases hj : w.bank.triggers[j]? with
  | none => exact ⟨[], adds_nothing a (by rw [change_none f hj])⟩
  | some s =>
    rw [change_some f hj]
    obtain ⟨-, h⟩ | h := hf.cases s w.platform
    · exact ⟨[], adds_nothing a (by rw [h])⟩
    · have ht := getElem?_poised a hj
      have hn : ∀ e ∈ ([] : List Effect), e.registers = false := by simp
      have hv : (w.poised a).platform.trace = w.platform.trace ++ [] := by rw [hp, List.append_nil]
      have hc := accounts_calls hn hn hv ht
      rw [hg, hp, List.nil_append, List.append_nil] at hc
      refine ⟨(g s).calls w.platform, ?_, hc, fun reason b hb => ?_⟩
      · rw [h, Trigger.trace_update]
      · have hr := (g s).calls_registers w.platform _ hb
        cases hr

theorem deliver_adds (w : World) (l : Listener) (e : Event) :
    ∃ es, w.Adds (.deliver l e) (w.act (.deliver l e)).platform es := by
  obtain ⟨-, n, h⟩ | ⟨t, hl, hr, hq⟩ := w.deliver_cases l e
  · rw [h]
    exact ⟨[], adds_nothing _ rfl⟩
  · have hp : (w.poised (.deliver l e)).platform = t.struck w.bank.matcher e w.platform := by
      simp [poised, hl, hr]
    have hs := t.strike_registers w.bank.matcher e
    have hn : ∀ c ∈ [Effect.release], c.registers = false := by simp [Effect.registers]
    obtain ⟨-, h⟩ | ⟨-, h⟩ := hq
    · rw [h]
      refine ⟨t.strike w.bank.matcher e ++ [.release], ?_, ?_, fun _ _ _ => ⟨l, e, t, rfl, hl, hr⟩⟩
      · simp [Trigger.trace_struck]
      · exact accounts_quiet _ _ fun c hc => (List.mem_append.mp hc).elim (hs c) (hn c)
    · rw [h]
      have hv : (w.poised (.deliver l e)).platform.trace =
          w.platform.trace ++ t.strike w.bank.matcher e := by rw [hp, Trigger.trace_struck]
      have ht : (w.poised (.deliver l e)).bank.triggers[l]? = some t.spent := by
        rw [getElem?_poised _ hl, Act.prepare, if_pos rfl]
      refine ⟨_, ?_, accounts_calls hs hn hv ht, fun _ _ _ => ⟨l, e, t, rfl, hl, hr⟩⟩
      simp [hp, Trigger.trace_update, Trigger.trace_struck]

theorem attach_adds (w : World) (i : Nat) :
    ∃ es, w.Adds (.attach i) (w.act (.attach i)).platform es := by
  simp only [act]
  cases w.bank.triggers[i]? with
  | none => exact ⟨[], adds_nothing _ rfl⟩
  | some t =>
    simp only [Trigger.attach, Watch.attach]
    split
    · split
      · exact ⟨[], adds_nothing _ rfl⟩
      · exact ⟨_, adds_quiet _ rfl rfl (by simp)⟩
    · exact ⟨[], adds_nothing _ rfl⟩

theorem act_adds (w : World) (a : Act) : ∃ es, w.Adds a (w.act a).platform es := by
  cases a with
  | note n => exact ⟨[], adds_nothing _ rfl⟩
  | request j on =>
    exact change_adds w (Trigger.evaluates_setRequested on) j (fun _ => if_pos rfl) rfl
  | suppress j on =>
    exact change_adds w (Trigger.evaluates_setDisabled on) j (fun _ => if_pos rfl) rfl
  | update j => exact change_adds w Trigger.evaluates_update j (fun _ => rfl) rfl
  | attach j => exact attach_adds w j
  | detach =>
    simp only [act, Watch.detach]
    split
    · exact ⟨_, adds_quiet _ rfl rfl (by simp)⟩
    · exact ⟨[], adds_nothing _ rfl⟩
  | deliver l e => exact deliver_adds w l e
  | shut => exact ⟨[], adds_nothing _ rfl⟩

/-- Every call for the registry from `start` on is what an update made at one of the moments. -/
def Explained (start : Nat) (vs : List World) (cs : List Effect) : Prop :=
  ∀ n e, start ≤ n → cs[n]? = some e → e.registers = true →
    ∃ v ∈ vs, v.platform.trace = cs.take n ∧
      ∃ (i : Nat) (t : Trigger), v.bank.triggers[i]? = some t ∧ e ∈ t.calls v.platform

theorem Explained.add {start : Nat} {vs : List World} {cs es : List Effect} {v : World}
    (h : Explained start vs cs) (hv : v.Accounts cs es) :
    Explained start (vs ++ [v]) (cs ++ es) := by
  intro n e hn he hr
  by_cases hl : n < cs.length
  · rw [List.getElem?_append_left hl] at he
    obtain ⟨u, hu, ht, hc⟩ := h n e hn he hr
    rw [List.take_append_of_le_length (Nat.le_of_lt hl)]
    exact ⟨u, by simp [hu], ht, hc⟩
  · have hl : cs.length ≤ n := Nat.le_of_not_lt hl
    rw [List.getElem?_append_right hl] at he
    obtain ⟨hk, hke⟩ := List.getElem?_eq_some_iff.mp he
    have hs : es = es.take (n - cs.length) ++ e :: es.drop (n - cs.length + 1) := by
      rw [← hke, ← List.drop_eq_getElem_cons hk, List.take_append_drop]
    obtain ⟨ht, hc⟩ := hv _ e _ hs hr
    refine ⟨v, by simp, ?_, hc⟩
    rw [ht, List.take_append, List.take_of_length_le hl]

theorem explained_perform {start : Nat} {w : World} (as : List Act) {vs : List World}
    (h : Explained start vs w.platform.trace) :
    Explained start (vs ++ w.poises as) (w.perform as).platform.trace := by
  induction as generalizing w vs with
  | nil => simpa [poises] using h
  | cons a as ih =>
    obtain ⟨es, ha⟩ := w.act_adds a
    have hv := h.add ha.accounts
    rw [← ha.trace] at hv
    rw [poises, ← List.singleton_append, ← List.append_assoc]
    exact ih hv

theorem explained_run {start : Nat} {w : World} (ts : List Turn) {vs : List World}
    (h : Explained start vs w.platform.trace) :
    Explained start (vs ++ w.moments ts) (w.run ts).platform.trace := by
  induction ts generalizing w vs with
  | nil => simpa [moments] using h
  | cons k ts ih =>
    rw [moments, ← List.append_assoc]
    refine ih ?_
    obtain ⟨o, rfl⟩ | ⟨-, hk⟩ := w.turn_cases k
    · simpa [turn, outside, acts, poises] using h
    · rw [hk]
      exact explained_perform _ h

theorem built_of_mem_poises {rs : List Requirement} {r : Registry} {w v : World}
    (hw : w.Built rs r) {as : List Act} (hv : v ∈ w.poises as) : v.Built rs r := by
  induction as generalizing w with
  | nil => cases hv
  | cons a as ih =>
    obtain rfl | hv := List.mem_cons.mp hv
    · exact hw.poised a
    · exact ih (hw.act a) hv

theorem built_of_mem_moments {rs : List Requirement} {r : Registry} {w v : World}
    (hw : w.Built rs r) {ts : List Turn} (hv : v ∈ w.moments ts) : v.Built rs r := by
  induction ts generalizing w with
  | nil => cases hv
  | cons k ts ih =>
    obtain hv | hv := List.mem_append.mp hv
    · exact built_of_mem_poises hw hv
    · exact ih (hw.turn k) hv

/-- Every call for the registry in a run has its moment, with the trigger that makes it. -/
theorem exists_moment {rs : List Requirement} {r : Registry} {w : World} (hw : w.Built rs r)
    (ts : List Turn) {n : Nat} {e : Effect} (hn : w.platform.trace.length ≤ n)
    (he : (w.run ts).platform.trace[n]? = some e) (hr : e.registers = true) :
    ∃ v ∈ w.moments ts, v.platform.trace = (w.run ts).platform.trace.take n ∧
      ∃ t : Trigger, v.bank.triggers[t.listener]? = some t ∧
        t.sensor = (rs[t.listener]?.bind fun q => q.source.resolve? r) ∧
        e ∈ t.calls v.platform := by
  have h₀ : Explained w.platform.trace.length [] w.platform.trace := by
    intro n e hn he
    have hl : n < w.platform.trace.length := (List.getElem?_eq_some_iff.mp he).1
    omega
  have hx : Explained w.platform.trace.length (w.moments ts) (w.run ts).platform.trace :=
    explained_run ts h₀
  obtain ⟨v, hv, htr, i, t, ht, hm⟩ := hx n e hn he hr
  have hb := built_of_mem_moments hw hv
  obtain rfl : t.listener = i := hb.ordered i t ht
  exact ⟨v, hv, htr, t, ht, hb.sensor ht, hm⟩

theorem perform_pulses {w : World} {as : List Act} (hd : ∀ a ∈ as, ∀ l, a.delivers l = false) :
    ∃ es, (w.perform as).platform.trace = w.platform.trace ++ es ∧
      ∀ reason b, .pulse reason b ∉ es := by
  induction as generalizing w with
  | nil => exact ⟨[], by simp, by simp⟩
  | cons a as ih =>
    obtain ⟨es, ha⟩ := w.act_adds a
    obtain ⟨fs, hf, hp⟩ := ih (w := w.act a) fun b hb => hd b (by simp [hb])
    refine ⟨es ++ fs, by rw [perform_cons, hf, ha.trace, List.append_assoc], fun reason b h => ?_⟩
    obtain h | h := List.mem_append.mp h
    · obtain ⟨l, e, -, rfl, -⟩ := ha.pulse reason b h
      simpa [Act.delivers] using hd (.deliver l e) (by simp) l
    · exact hp reason b h

theorem no_pulse_of_turn {w : World} {k : Turn} (hk : ∀ l, k.delivers l = false)
    (reason : Reason) (b : Bool) : .pulse reason b ∉ w.effects k := by
  obtain ⟨o, rfl⟩ | ⟨-, hp⟩ := w.turn_cases k
  · simp [effects, turn, outside]
  · have hd : ∀ a ∈ w.acts k, ∀ l, a.delivers l = false := fun a ha l => by
      rw [delivers_of_mem_acts ha, hk l]
    obtain ⟨es, he, hn⟩ := perform_pulses (w := w) hd
    rw [effects, hp, he, List.drop_left]
    exact hn reason b

theorem pulse_of_effects {w : World} {k : Turn} {reason : Reason} {b : Bool}
    (h : .pulse reason b ∈ w.effects k) :
    ∃ l e t, k = .command (.deliver l e) ∧ w.bank.triggers[l]? = some t ∧
      t.registered = true := by
  by_cases hk : ∀ l, k.delivers l = false
  · exact absurd h (no_pulse_of_turn hk reason b)
  · obtain ⟨l, e, rfl⟩ : ∃ l e, k = .command (.deliver l e) := by
      cases k with
      | command c => cases c <;> simp [Turn.delivers] at hk ⊢
      | close | outside => simp [Turn.delivers] at hk
    refine ⟨l, e, ?_⟩
    cases hc : w.closed with
    | true => simp [effects, turn, hc] at h
    | false =>
      obtain ⟨es, ha⟩ := w.act_adds (.deliver l e)
      rw [effects, turn_deliver hc, ha.trace, List.drop_left] at h
      obtain ⟨l', e', t, he, ht, hr⟩ := ha.pulse reason b h
      cases he
      exact ⟨t, rfl, ht, hr⟩

/-- Whatever a bank is asked for and whatever happens around it: a registered trigger is configured,
resolved, requested and not disabled, and so is one that makes a pulse. Each request is made by its
trigger at a moment when that is permitted and unregistered, each cancellation when it is registered
and no longer permitted, both for the position of the trigger and the sensor found for it when the
bank was put together. -/
theorem policy_kept (m : Subtype.Matcher) (rs : List Requirement) (suppressible : Option Nat)
    (o : Observer) (p : Platform) (ts : List Turn) :
    let w := assembled m rs suppressible o p
    let found := fun i : Nat => rs[i]?.bind fun q => q.source.resolve? p.registry
    let calls := (w.run ts).platform.trace
    (∀ i t, (w.run ts).bank.triggers[i]? = some t → t.registered = true →
      t.configured = true ∧ t.sensor = found i ∧ t.sensor.isSome = true ∧ t.requested = true ∧
        t.disabled = false) ∧
    (∀ n l s b, p.trace.length ≤ n → calls[n]? = some (.request l s b) →
      found l = some s ∧ ∃ v ∈ w.moments ts, v.platform.trace = calls.take n ∧
        ∃ t, v.bank.triggers[l]? = some t ∧ .request l s b ∈ t.calls v.platform ∧
          t.registered = false ∧ t.Permitted v.platform.settings) ∧
    (∀ n l s b, p.trace.length ≤ n → calls[n]? = some (.cancel l s b) →
      found l = some s ∧ ∃ v ∈ w.moments ts, v.platform.trace = calls.take n ∧
        ∃ t, v.bank.triggers[l]? = some t ∧ .cancel l s b ∈ t.calls v.platform ∧
          t.registered = true ∧ ¬t.Permitted v.platform.settings) ∧
    (∀ k reason b, .pulse reason b ∈ (w.run ts).effects k →
      ∃ l e t, k = .command (.deliver l e) ∧ (w.run ts).bank.triggers[l]? = some t ∧
        t.configured = true ∧ t.sensor = found l ∧ t.sensor.isSome = true ∧ t.requested = true ∧
          t.disabled = false) := by
  intro w found calls
  have hw : w.Built rs p.registry := built_assembled m rs suppressible o p
  have hg : ∀ i t, (w.run ts).bank.triggers[i]? = some t → t.registered = true →
      t.configured = true ∧ t.sensor = found i ∧ t.sensor.isSome = true ∧ t.requested = true ∧
        t.disabled = false := by
    intro i t ht hr
    have hi := guarded_run hw (guarded_assembled m rs suppressible o p i) ts
    obtain ⟨hc, hs, hq, hd⟩ := hi t ht hr
    exact ⟨hc, (hw.run ts).sensor ht, hs, hq, hd⟩
  refine ⟨hg, ?_, ?_, ?_⟩
  · intro n l s b hn hc
    obtain ⟨v, hv, htr, t, ht, hf, hm⟩ := exists_moment hw ts hn hc rfl
    obtain ⟨rfl, hs, hr, hp⟩ := Trigger.request_mem_calls hm
    exact ⟨hf.symm.trans hs, v, hv, htr, t, ht, hm, hr, hp⟩
  · intro n l s b hn hc
    obtain ⟨v, hv, htr, t, ht, hf, hm⟩ := exists_moment hw ts hn hc rfl
    obtain ⟨rfl, hs, hr, hp⟩ := Trigger.cancel_mem_calls hm
    exact ⟨hf.symm.trans hs, v, hv, htr, t, ht, hm, hr, hp⟩
  · intro k reason b h
    obtain ⟨l, e, t, hk, ht, hr⟩ := pulse_of_effects h
    exact ⟨l, e, t, hk, ht, hg l t ht hr⟩

theorem policy_kept_standard :
    let w := assembled .admitNone ({} : Config).requirements (some Config.pickUpPosition) 1 .standard
    let ts := [.command (.listen true), .outside (.put Setting.pickUpKey User.system false),
      .command .userSwitched]
    let s : Sensor := ⟨2, "Pickup Gesture", .pickUpGesture, "android.sensor.pick_up_gesture"⟩
    let calls := (w.run ts).platform.trace
    calls[0]? = some (.request 1 s true) ∧ calls[3]? = some (.cancel 1 s true) ∧
      ∃ v ∈ w.moments ts, v.platform.trace = calls.take 3 ∧
        ∃ t, v.bank.triggers[1]? = some t ∧ .cancel 1 s true ∈ t.calls v.platform ∧
          t.registered = true ∧ ¬t.Permitted v.platform.settings := by
  intro w ts s calls
  have hw : w = assembled .admitNone ({} : Config).requirements (some Config.pickUpPosition) 1
    .standard := rfl
  obtain ⟨-, -, h, -⟩ := policy_kept .admitNone ({} : Config).requirements
    (some Config.pickUpPosition) 1 .standard ts
  rw [← hw] at h
  exact ⟨by decide +kernel, by decide +kernel,
    (h 3 1 s true (Nat.zero_le 3) (by decide +kernel)).2⟩

end World

end AmbientPulse
