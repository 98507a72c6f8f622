import AmbientPulse.Proofs.Outlook
import AmbientPulse.Trigger

namespace AmbientPulse

namespace Trigger

/-- A trigger apart from its flags: what its requirement and the sensors at hand made of it. -/
def bare (t : Trigger) : Trigger :=
  { t with requested := false, registered := false, disabled := false }

/-- The fire has used up the registration. -/
def spent (t : Trigger) : Trigger :=
  { t with registered := false }

@[simp] theorem bare_spent (t : Trigger) : t.spent.bare = t.bare := rfl

theorem listener_of_bare {t u : Trigger} (h : t.bare = u.bare) : t.listener = u.listener :=
  congrArg (fun v => v.listener) h

theorem sensor_of_bare {t u : Trigger} (h : t.bare = u.bare) : t.sensor = u.sensor :=
  congrArg (fun v => v.sensor) h

theorem wanted_of_outlook (t : Trigger) {p q : Platform} (h : q.outlook = p.outlook) :
    t.wanted q.settings = t.wanted p.settings := by
  have hu : q.settings.currentUser = p.settings.currentUser := congrArg Outlook.currentUser h
  have hv : q.settings.values = p.settings.values := congrArg Outlook.values h
  unfold wanted enabled Settings.get
  rw [hu, hv]

/-- The calls that an update makes: one at most. -/
def calls (t : Trigger) (p : Platform) : List Effect :=
  match t.sensor with
  | none => []
  | some s =>
    match t.wanted p.settings, t.registered with
    | true, false => [.request t.listener s p.registry.accepting]
    | false, true => [.cancel t.listener s (p.registry.cancel t.listener).1]
    | _, _ => []

theorem update_cases (t : Trigger) (p : Platform) :
    ((t.sensor = none ∨ t.wanted p.settings = t.registered) ∧ t.update p = (t, p) ∧
      t.calls p = []) ∨
    (∃ s, t.sensor = some s ∧ t.wanted p.settings = true ∧ t.registered = false ∧
      t.update p = t.arm s p ∧ t.calls p = [.request t.listener s p.registry.accepting]) ∨
    (∃ s, t.sensor = some s ∧ t.wanted p.settings = false ∧ t.registered = true ∧
      t.update p = t.disarm s p ∧
      t.calls p = [.cancel t.listener s (p.registry.cancel t.listener).1]) := by
  unfold update calls
  cases hs : t.sensor with
  | none => simp
  | some s => cases hw : t.wanted p.settings <;> cases hr : t.registered <;> simp

theorem update_fst (t : Trigger) (p : Platform) :
    (t.update p).1 = { t with registered := (t.update p).1.registered } := by
  obtain ⟨-, h, -⟩ | ⟨s, -, -, -, h, -⟩ | ⟨s, -, -, -, h, -⟩ := t.update_cases p <;> rw [h] <;> rfl

/-- What an update comes to if nothing is registered that has no sensor. -/
theorem update_eq {t : Trigger} (hs : t.registered = true → t.sensor.isSome = true) (p : Platform) :
    (t.update p).1 =
      { t with registered := t.wanted p.settings && (t.registered || p.registry.accepting) } := by
  have hu : (t.update p).1.registered =
      (t.wanted p.settings && (t.registered || p.registry.accepting)) := by
    cases h : t.sensor with
    | none =>
      have hr : t.registered = false := by simpa [h] using hs
      simp [t.update_unresolved p h, wanted, h, hr]
    | some s => exact t.update_registered p s h
  rw [update_fst, hu]

@[simp] theorem bare_update (t : Trigger) (p : Platform) : (t.update p).1.bare = t.bare := by
  rw [update_fst]
  rfl

@[simp] theorem requested_update (t : Trigger) (p : Platform) :
    (t.update p).1.requested = t.requested := by
  rw [update_fst]

@[simp] theorem settings_update (t : Trigger) (p : Platform) :
    (t.update p).2.settings = p.settings := by
  obtain ⟨-, h, -⟩ | ⟨s, -, -, -, h, -⟩ | ⟨s, -, -, -, h, -⟩ := t.update_cases p <;> rw [h] <;> rfl

@[simp] theorem outlook_update (t : Trigger) (p : Platform) :
    (t.update p).2.outlook = p.outlook := by
  obtain ⟨-, h, -⟩ | ⟨s, -, -, -, h, -⟩ | ⟨s, -, -, -, h, -⟩ := t.update_cases p <;> rw [h] <;> rfl

theorem wakeLock_update (t : Trigger) (p : Platform) : (t.update p).2.wakeLock = p.wakeLock := by
  obtain ⟨-, h, -⟩ | ⟨s, -, -, -, h, -⟩ | ⟨s, -, -, -, h, -⟩ := t.update_cases p <;> rw [h] <;> rfl

theorem trace_update (t : Trigger) (p : Platform) :
    (t.update p).2.trace = p.trace ++ t.calls p := by
  obtain ⟨-, h, hc⟩ | ⟨s, -, -, -, h, hc⟩ | ⟨s, -, -, -, h, hc⟩ := t.update_cases p <;> rw [h, hc]
  · simp
  · rfl
  · rfl

theorem armed_update (t : Trigger) (p : Platform) {l : Listener} (hl : t.listener ≠ l) :
    (t.update p).2.registry.armed[l]? = p.registry.armed[l]? := by
  obtain ⟨-, h, -⟩ | ⟨s, -, -, -, h, -⟩ | ⟨s, -, -, -, h, -⟩ := t.update_cases p <;> rw [h]
  · exact (Registry.armed_request _ _ _ _).trans (if_neg fun he => hl he.2)
  · exact (Registry.armed_cancel _ _ _).trans (if_neg fun he => hl he.2)

/-- What a bank does to one trigger at a time: an update after `g` has set a flag, or nothing if the
flag was set so before. -/
structure Evaluates (g : Trigger → Trigger) (f : Trigger → Platform → Trigger × Platform) :
    Prop where
  bare_eq : ∀ t, (g t).bare = t.bare
  cases : ∀ t p, (g t = t ∧ f t p = (t, p)) ∨ f t p = (g t).update p

theorem evaluates_update : Evaluates id Trigger.update where
  bare_eq _ := rfl
  cases _ _ := .inr rfl

theorem evaluates_setRequested (on : Bool) :
    Evaluates (fun t => { t with requested := on }) (setRequested on) where
  bare_eq _ := rfl
  cases t p := by
    unfold setRequested
    split
    · next h => exact .inl ⟨by rw [← h], rfl⟩
    · exact .inr rfl

theorem evaluates_setDisabled (on : Bool) :
    Evaluates (fun t => { t with disabled := on }) (setDisabled on) where
  bare_eq _ := rfl
  cases t p := by
    unfold setDisabled
    split
    · next h => exact .inl ⟨by rw [← h], rfl⟩
    · exact .inr rfl

/-- The calls of a fire up to its pulse. -/
def strike (t : Trigger) (m : Subtype.Matcher) (e : Event) : List Effect :=
  if t.sensor.any (·.category = .pickUpGesture) then
    [.acquire, .metric e.subtype, .pulse t.reason (m.admits e.subtype)]
  else [.acquire, .pulse t.reason false]

/-- The platform as a fire leaves it right after its pulse. -/
def struck (t : Trigger) (m : Subtype.Matcher) (e : Event) (p : Platform) : Platform :=
  let q := t.measure m e (p.acquire.note (.fired e))
  (q.2.pulse t.reason q.1).2

theorem trace_struck (t : Trigger) (m : Subtype.Matcher) (e : Event) (p : Platform) :
    (t.struck m e p).trace = p.trace ++ t.strike m e := by
  unfold struck strike measure
  split <;> simp

@[simp] theorem registry_struck (t : Trigger) (m : Subtype.Matcher) (e : Event) (p : Platform) :
    (t.struck m e p).registry = p.registry := by
  unfold struck measure
  split <;> simp

@[simp] theorem settings_struck (t : Trigger) (m : Subtype.Matcher) (e : Event) (p : Platform) :
    (t.struck m e p).settings = p.settings := by
  unfold struck measure
  split <;> simp

@[simp] theorem callback_struck (t : Trigger) (m : Subtype.Matcher) (e : Event) (p : Platform) :
    (t.struck m e p).callback = p.callback := by
  unfold struck measure
  split <;> simp

@[simp] theorem wakeLock_struck (t : Trigger) (m : Subtype.Matcher) (e : Event) (p : Platform) :
    (t.struck m e p).wakeLock = p.wakeLock.acquire := by
  unfold struck measure
  split <;> simp

@[simp] theorem outlook_struck (t : Trigger) (m : Subtype.Matcher) (e : Event) (p : Platform) :
    (t.struck m e p).outlook = p.outlook := by
  simp [Platform.outlook]

theorem callback_measure (t : Trigger) (m : Subtype.Matcher) (e : Event) (p : Platform) :
    (t.measure m e p).2.callback = p.callback := by
  unfold measure
  split <;> simp

/-- A receiver that breaks down keeps a fire from arming its trigger again. -/
theorem fire_broken (t : Trigger) (m : Subtype.Matcher) (e : Event) {p : Platform}
    (hb : p.callback.breaking = true) :
    (t.fire m e p).1.2 = t.spent ∧ (t.fire m e p).2 = (t.struck m e p).release := by
  unfold fire Platform.holding struck
  simp [Platform.pulse, callback_measure, hb, spent]

/-- A receiver that only refuses the pulse makes no difference. -/
theorem fire_whole (t : Trigger) (m : Subtype.Matcher) (e : Event) {p : Platform}
    (hb : p.callback.breaking = false) :
    (t.fire m e p).1.2 = (t.spent.update (t.struck m e p)).1 ∧
      (t.fire m e p).2 = (t.spent.update (t.struck m e p)).2.release := by
  unfold fire Platform.holding struck
  cases hf : p.callback.failing <;> simp [Platform.pulse, callback_measure, hb, hf, spent]

end Trigger

end AmbientPulse
