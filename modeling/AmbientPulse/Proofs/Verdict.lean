import AmbientPulse.Proofs.Emission
import AmbientPulse.Proofs.Policy

namespace AmbientPulse

namespace Trigger

/-- A registration needs a sensor. -/
def Resolved (t : Trigger) : Prop :=
  t.registered = true → t.sensor.isSome = true

theorem resolved_of_wanted {t : Trigger} {s : Settings}
    (hw : t.registered = true → t.wanted s = true) : t.Resolved :=
  fun hr => ((t.wanted_iff s).mp (hw hr)).1

/-- A request was made just now and has been accepted. -/
def Accepted (calls : List Effect) : Prop :=
  ∃ l s, .request l s true ∈ calls

theorem accepted_calls (t : Trigger) (p : Platform) :
    Accepted (t.calls p) ↔
      t.wanted p.settings = true ∧ t.registered = false ∧ p.registry.accepting = true := by
  unfold Accepted
  obtain ⟨hn, -, hc⟩ | ⟨s, -, hw, hr, -, hc⟩ | ⟨s, -, hw, -, -, hc⟩ := t.update_cases p <;> rw [hc]
  · refine ⟨by simp, fun ⟨hw, hr, _⟩ => ?_⟩
    obtain hn | hn := hn
    · simp [wanted, hn] at hw
    · rw [hw, hr] at hn
      cases hn
  · cases p.registry.accepting <;> simp [hw, hr]
  · simp [hw]

/-- What is wanted of a trigger, by the requirement that it was made for and its own two flags. -/
theorem wanted_iff_of_bare {t : Trigger} {r : Registry} {l : Listener} {q : Requirement}
    (h : t.bare = .ofRequirement r l q) (s : Settings) :
    t.wanted s = true ↔
      q.configured = true ∧ (q.source.resolve? r).isSome = true ∧ t.requested = true ∧
        t.disabled = false ∧
        ∀ key, q.setting = some key → key ≠ "" → s.get key s.currentUser true = true := by
  have hc : t.configured = q.configured := congrArg (·.configured) h
  have hs : t.sensor = q.source.resolve? r := congrArg (·.sensor) h
  have hg : t.setting = q.setting.filter (· ≠ "") := congrArg (·.setting) h
  simp only [wanted_iff, Permitted, hc, hs, hg, Option.filter_eq_some_iff, decide_eq_true_eq,
    and_imp]
  tauto

theorem accepted_append {xs ys zs : List Effect} (hx : ∀ c ∈ xs, c.registers = false)
    (hz : ∀ c ∈ zs, c.registers = false) : Accepted (xs ++ ys ++ zs) ↔ Accepted ys := by
  unfold Accepted
  have h : ∀ l s, .request l s true ∈ xs ++ ys ++ zs ↔ .request l s true ∈ ys := fun l s => by
    have hx' : .request l s true ∉ xs := fun h => by cases hx _ h
    have hz' : .request l s true ∉ zs := fun h => by cases hz _ h
    simp [hx', hz']
  simp only [h]

theorem registered_update_iff {t : Trigger} (ht : t.Resolved) (p : Platform) :
    (t.update p).1.registered = true ↔
      t.wanted p.settings = true ∧ (t.registered = true ∨ Accepted (t.calls p)) := by
  rw [update_eq ht, accepted_calls]
  cases t.wanted p.settings <;> cases t.registered <;> simp

theorem resolved_update {t : Trigger} (ht : t.Resolved) (p : Platform) :
    (t.update p).1.Resolved := by
  have hw : (t.update p).1.registered = true → (t.update p).1.wanted p.settings = true := by
    rw [update_eq ht]
    intro hr
    exact (Bool.and_eq_true_iff.mp hr).1
  exact resolved_of_wanted hw

end Trigger

/-- What can be asked of a trigger that stands by itself. A fire reaches it whether or not it is
registered. -/
inductive Input where
  | request (on : Bool)
  | suppress (on : Bool)
  | update
  | fire (e : Event)
  deriving DecidableEq, Repr

/-- A trigger by itself and the platform it makes its calls to. -/
structure Solo where
  trigger : Trigger
  platform : Platform

namespace Input

/-- The trigger with its flag set, as the input has it when it comes to evaluate it. -/
def told (t : Trigger) : Input → Trigger
  | request on => { t with requested := on }
  | suppress on => { t with disabled := on }
  | update => t
  | fire _ => t

/-- Whether there is a registration when it comes to the evaluation. A fire has used it up. -/
def standing (t : Trigger) : Input → Bool
  | fire _ => false
  | _ => t.registered

/-- A flag that is set to what it was is no reason to evaluate anything, and a receiver that breaks
down keeps a fire from it. -/
def evaluates (x : Solo) : Input → Bool
  | request on => x.trigger.requested != on
  | suppress on => x.trigger.disabled != on
  | update => true
  | fire _ => !x.platform.callback.breaking

/-- The trigger as the evaluation has it. -/
def posed (t : Trigger) (k : Input) : Trigger :=
  { k.told t with registered := k.standing t }

theorem bare_told (t : Trigger) (k : Input) : (k.told t).bare = t.bare := by
  cases k <;> rfl

theorem resolved_posed {t : Trigger} (ht : t.Resolved) (k : Input) : (k.posed t).Resolved := by
  cases k with
  | request | suppress | update => exact ht
  | fire e => exact fun h => by cases h

end Input

namespace Solo

variable {m : Subtype.Matcher} {x : Solo}

def take (m : Subtype.Matcher) (x : Solo) (k : Input) : Solo :=
  let r : Trigger × Platform :=
    match k with
    | .request on => x.trigger.setRequested on x.platform
    | .suppress on => x.trigger.setDisabled on x.platform
    | .update => x.trigger.update x.platform
    | .fire e => ((x.trigger.fire m e x.platform).1.2, (x.trigger.fire m e x.platform).2)
  ⟨r.1, r.2⟩

/-- The calls that an input leads to. -/
def calls (m : Subtype.Matcher) (x : Solo) (k : Input) : List Effect :=
  (x.take m k).platform.trace.drop x.platform.trace.length

theorem calls_of_trace {k : Input} {es : List Effect}
    (h : (x.take m k).platform.trace = x.platform.trace ++ es) : x.calls m k = es := by
  rw [calls, h, List.drop_left]

/-- Whatever leads to an evaluation, the evaluation is an update. -/
theorem take_updates {k : Input} (hk : k.evaluates x = true) :
    ∃ q : Platform, q.settings = x.platform.settings ∧
      q.registry.accepting = x.platform.registry.accepting ∧
      (x.take m k).trigger = ((k.posed x.trigger).update q).1 ∧
      (Trigger.Accepted (x.calls m k) ↔ Trigger.Accepted ((k.posed x.trigger).calls q)) := by
  let t := k.posed x.trigger
  cases k with
  | request on =>
    have hn : x.trigger.requested ≠ on := by simpa [Input.evaluates] using hk
    have ht : x.trigger.setRequested on x.platform = t.update x.platform := if_neg hn
    have hc : x.calls m (.request on) = t.calls x.platform :=
      calls_of_trace ((congrArg (·.2.trace) ht).trans (t.trace_update _))
    exact ⟨x.platform, rfl, rfl, congrArg (·.1) ht, by rw [hc]⟩
  | suppress on =>
    have hn : x.trigger.disabled ≠ on := by simpa [Input.evaluates] using hk
    have ht : x.trigger.setDisabled on x.platform = t.update x.platform := if_neg hn
    have hc : x.calls m (.suppress on) = t.calls x.platform :=
      calls_of_trace ((congrArg (·.2.trace) ht).trans (t.trace_update _))
    exact ⟨x.platform, rfl, rfl, congrArg (·.1) ht, by rw [hc]⟩
  | update =>
    have hc : x.calls m .update = t.calls x.platform := calls_of_trace (t.trace_update _)
    exact ⟨x.platform, rfl, rfl, rfl, by rw [hc]⟩
  | fire e =>
    have hb : x.platform.callback.breaking = false := by simpa [Input.evaluates] using hk
    have hc : x.calls m (.fire e) = x.trigger.fireCalls m e x.platform :=
      calls_of_trace (x.trigger.trace_fire m e x.platform)
    refine ⟨x.trigger.struck m e x.platform, by simp, by simp,
      (x.trigger.fire_whole m e hb).1, ?_⟩
    rw [hc, Trigger.calls_struck, Trigger.fireCalls, hb]
    exact Trigger.accepted_append (x.trigger.strike_registers m e) (by simp [Effect.registers])

/-- Whether a trigger is registered after an evaluation depends on what is wanted now, and on whether
it is registered already or has just been accepted. -/
theorem take_evaluated (hx : x.trigger.Resolved) {k : Input} (hk : k.evaluates x = true) :
    (x.take m k).trigger.Resolved ∧
      (x.take m k).trigger =
        { k.told x.trigger with registered := (x.take m k).trigger.registered } ∧
      ((x.take m k).trigger.registered = true ↔
        (k.told x.trigger).wanted x.platform.settings = true ∧
          (k.standing x.trigger = true ∨ Trigger.Accepted (x.calls m k))) := by
  obtain ⟨q, hs, -, ht, hc⟩ := take_updates (m := m) hk
  have hp := k.resolved_posed hx
  rw [ht, hc]
  refine ⟨Trigger.resolved_update hp q, Trigger.update_fst _ q, ?_⟩
  rw [Trigger.registered_update_iff hp, hs]
  rfl

/-- While requests are accepted, what is wanted is all that counts. -/
theorem take_granted (hx : x.trigger.Resolved) {k : Input} (hk : k.evaluates x = true)
    (ha : x.platform.registry.accepting = true) :
    (x.take m k).trigger.registered = (k.told x.trigger).wanted x.platform.settings := by
  obtain ⟨q, hs, hq, ht, -⟩ := take_updates (m := m) hk
  rw [ht, Trigger.update_eq (k.resolved_posed hx), hs, hq, ha, Bool.or_true, Bool.and_true]
  rfl

/-- What leads to no evaluation leaves the trigger as it was, except that a fire uses up its
registration. -/
theorem take_unevaluated {k : Input} (hk : k.evaluates x = false) :
    (x.take m k).trigger = { x.trigger with registered := k.standing x.trigger } := by
  cases k with
  | request on =>
    have hn : x.trigger.requested = on := by simpa [Input.evaluates] using hk
    exact congrArg Prod.fst (if_pos hn)
  | suppress on =>
    have hn : x.trigger.disabled = on := by simpa [Input.evaluates] using hk
    exact congrArg Prod.fst (if_pos hn)
  | update => cases hk
  | fire e =>
    have hb : x.platform.callback.breaking = true := by simpa [Input.evaluates] using hk
    exact (x.trigger.fire_broken m e hb).1

theorem bare_take (m : Subtype.Matcher) (x : Solo) (k : Input) :
    (x.take m k).trigger.bare = x.trigger.bare := by
  cases hk : k.evaluates x with
  | true =>
    obtain ⟨q, -, -, ht, -⟩ := take_updates (m := m) hk
    rw [ht, Trigger.bare_update]
    exact k.bare_told x.trigger
  | false =>
    rw [take_unevaluated hk]
    rfl

end Solo

/-- What a trigger meets with: an input, or a change of the platform, whatever has caused it. -/
inductive Incident where
  | input (k : Input)
  | around (change : Platform → Platform)

/-- Neither an evaluation nor a fire whose pulse breaks down. -/
def Incident.idle (x : Solo) : Incident → Bool
  | around _ => true
  | input (.fire _) => false
  | input k => !k.evaluates x

namespace Solo

variable {m : Subtype.Matcher} {x : Solo}

def meet (m : Subtype.Matcher) (x : Solo) : Incident → Solo
  | .input k => x.take m k
  | .around change => { x with platform := change x.platform }

def run (m : Subtype.Matcher) (x : Solo) (is : List Incident) : Solo :=
  is.foldl (meet m) x

/-- Nothing but idle incidents. -/
def idles (m : Subtype.Matcher) : Solo → List Incident → Bool
  | _, [] => true
  | x, i :: is => i.idle x && idles m (x.meet m i) is

theorem resolved_meet (hx : x.trigger.Resolved) (i : Incident) :
    (x.meet m i).trigger.Resolved := by
  cases i with
  | around change => exact hx
  | input k =>
    cases hk : k.evaluates x with
    | true => exact (take_evaluated hx hk).1
    | false =>
      rw [meet, take_unevaluated hk]
      cases k with
      | fire e => exact fun h => by cases h
      | request | suppress | update => exact hx

theorem bare_meet (m : Subtype.Matcher) (x : Solo) (i : Incident) :
    (x.meet m i).trigger.bare = x.trigger.bare := by
  cases i with
  | around change => rfl
  | input k => exact bare_take m x k

theorem run_keeps {P : Solo → Prop} (h : ∀ (v : Solo) (i : Incident), P v → P (v.meet m i))
    (hx : P x) (is : List Incident) : P (x.run m is) := by
  induction is generalizing x with
  | nil => exact hx
  | cons i is ih => exact ih (h x i hx)

theorem resolved_run (hx : x.trigger.Resolved) (is : List Incident) :
    (x.run m is).trigger.Resolved :=
  run_keeps (P := fun v => v.trigger.Resolved) (fun _ i hv => resolved_meet hv i) hx is

theorem bare_run (m : Subtype.Matcher) (x : Solo) (is : List Incident) :
    (x.run m is).trigger.bare = x.trigger.bare :=
  run_keeps (P := fun v => v.trigger.bare = x.trigger.bare)
    (fun v i hv => (bare_meet m v i).trans hv) rfl is

theorem trigger_meet_idle {i : Incident} (hi : i.idle x = true) :
    (x.meet m i).trigger = x.trigger := by
  cases i with
  | around change => rfl
  | input k =>
    cases k with
    | fire e => cases hi
    | request on | suppress on | update => exact take_unevaluated (by simpa [Incident.idle] using hi)

theorem trigger_run_idle {is : List Incident} (h : x.idles m is = true) :
    (x.run m is).trigger = x.trigger := by
  induction is generalizing x with
  | nil => rfl
  | cons i is ih =>
    obtain ⟨hi, h⟩ := Bool.and_eq_true_iff.mp h
    exact (ih h).trans (trigger_meet_idle hi)

/-- A trigger stays with the sensor and the setting of its requirement. After each evaluation it is
registered just when it is wanted and was registered before or has been accepted then. A fire that
breaks down leaves it unregistered, and nothing else touches its registration. So it is registered,
while requests are accepted, just when it was wanted at the last evaluation, whatever came before
that. -/
theorem registered_as_last_evaluated (m : Subtype.Matcher) (r : Registry) (l : Listener)
    (q : Requirement) (p : Platform) (before : List Incident) (k : Input) :
    let start : Solo := ⟨.ofRequirement r l q, p⟩
    let x := start.run m before
    let y := x.take m k
    let t := k.told x.trigger
    let s := x.platform.settings
    let want := q.configured = true ∧ (q.source.resolve? r).isSome = true ∧ t.requested = true ∧
      t.disabled = false ∧
      ∀ key, q.setting = some key → key ≠ "" → s.get key s.currentUser true = true
    x.trigger = { Trigger.ofRequirement r l q with
      requested := x.trigger.requested
      registered := x.trigger.registered
      disabled := x.trigger.disabled } ∧
    (start.idles m before = true → x.trigger.registered = false) ∧
    (k.evaluates x = true →
      y.trigger = { t with registered := y.trigger.registered } ∧
      (y.trigger.registered = true ↔
        want ∧ (k.standing x.trigger = true ∨ Trigger.Accepted (x.calls m k))) ∧
      (x.platform.registry.accepting = true → ∀ after, y.idles m after = true →
        ((y.run m after).trigger.registered = true ↔ want))) ∧
    (k.evaluates x = false →
      y.trigger = { x.trigger with registered := k.standing x.trigger }) := by
  intro start x y t s want
  have hx : x.trigger.Resolved := resolved_run (x := start) (fun h => by cases h) before
  have hb : x.trigger.bare = .ofRequirement r l q := bare_run m start before
  have hw : t.wanted s = true ↔ want :=
    Trigger.wanted_iff_of_bare ((k.bare_told x.trigger).trans hb) s
  refine ⟨?_, fun hi => ?_, fun hk => ⟨?_, ?_, fun ha after hi => ?_⟩,
    fun hk => take_unevaluated hk⟩
  · exact congrArg (fun u : Trigger => { u with
      requested := x.trigger.requested
      registered := x.trigger.registered
      disabled := x.trigger.disabled }) hb
  · rw [trigger_run_idle hi]
    rfl
  · exact (take_evaluated hx hk).2.1
  · rw [← hw]
    exact (take_evaluated hx hk).2.2
  · rw [trigger_run_idle hi, ← hw, take_granted hx hk ha]

theorem registered_though_switched_off_since :
    let q : Requirement := ⟨.category .pickUpGesture, .pickUp, some "x", true⟩
    let p : Platform := { Platform.standard with registry.accepting := false }
    let before := [.input (.request true), .around (·.outside (.accepting true))]
    let after := [.around (·.outside (.put "x" User.system false)), .input (.request true)]
    let x := Solo.run .admitNone ⟨.ofRequirement p.registry 1 q, p⟩ before
    let y := x.take .admitNone .update
    x.trigger.registered = false ∧ Input.evaluates x .update = true ∧
      x.platform.registry.accepting = true ∧ y.idles .admitNone after = true ∧
      (y.run .admitNone after).trigger.registered = true := by
  intro q p before after x y
  have hr : x.trigger.registered = false := by decide +kernel
  have ha : x.platform.registry.accepting = true := by decide +kernel
  have hi : y.idles .admitNone after = true := by decide +kernel
  have hq : x.trigger.requested = true := by decide +kernel
  have hd : x.trigger.disabled = false := by decide +kernel
  have hs : (q.source.resolve? p.registry).isSome = true := by decide +kernel
  have hg : ∀ key, q.setting = some key → key ≠ "" →
      x.platform.settings.get key x.platform.settings.currentUser true = true := by
    rintro key ⟨⟩ -
    decide +kernel
  obtain ⟨-, -, h, -⟩ := registered_as_last_evaluated .admitNone p.registry 1 q p before .update
  exact ⟨hr, rfl, ha, hi, ((h rfl).2.2 ha after hi).mpr ⟨rfl, hs, hq, hd, hg⟩⟩

end Solo

end AmbientPulse
