import AmbientPulse.Proofs.Attention
import AmbientPulse.Proofs.Product
import AmbientPulse.Proofs.Subtype.Reading

namespace AmbientPulse

namespace Seat

variable {s v : Seat} {h : Sensor} {registered disabled on : Bool}

/-- The sensor that is armed if nothing but the trigger's flags speaks against it. -/
def target? (s : Seat) : Option Sensor :=
  if s.trigger.configured && s.trigger.enabled s.outlook.settings then s.trigger.sensor else none

/-- A trigger that nothing has been asked of yet, with a registry that has nothing against it. -/
structure Fresh (s : Seat) : Prop where
  ready : s.closed = false
  unrequested : s.trigger.requested = false
  unregistered : s.trigger.registered = false
  unsuppressed : s.trigger.disabled = false
  accepting : s.outlook.accepting = true
  unarmed : s.armed = none

/-- The trigger of `s` later on, when it has been asked to listen. -/
structure Poised (s : Seat) (registered disabled : Bool) (v : Seat) : Prop where
  ready : v.closed = false
  outlook : v.outlook = s.outlook
  suppressible : v.suppressible = s.suppressible
  trigger : v.trigger =
    { s.trigger with requested := true, registered := registered, disabled := disabled }

theorem update_settled (hw : s.trigger.wanted s.outlook.settings = s.trigger.registered) :
    s.update = s := by
  unfold update
  rw [hw]
  cases s.trigger.sensor <;> cases s.trigger.registered <;> rfl

theorem update_arms (hs : s.trigger.sensor = some h)
    (hw : s.trigger.wanted s.outlook.settings = true) (hr : s.trigger.registered = false) :
    s.update = s.arm h := by
  simp [update, hs, hw, hr]

theorem update_disarms (hs : s.trigger.sensor = some h)
    (hw : s.trigger.wanted s.outlook.settings = false) (hr : s.trigger.registered = true) :
    s.update = s.disarm h := by
  simp [update, hs, hw, hr]

theorem Poised.wanted (hv : s.Poised registered disabled v) :
    v.trigger.wanted v.outlook.settings = (!disabled && s.target?.isSome) := by
  have he : v.trigger.enabled v.outlook.settings = s.trigger.enabled s.outlook.settings := by
    rw [hv.trigger, hv.outlook]
    rfl
  unfold Trigger.wanted target?
  rw [he, hv.trigger]
  cases s.trigger.configured <;> cases s.trigger.enabled s.outlook.settings <;>
    simp [Bool.and_comm]

theorem Poised.sensor (hv : s.Poised registered disabled v) (ht : s.target?.isSome = true) :
    ∃ h, s.target? = some h ∧ v.trigger.sensor = some h := by
  obtain ⟨h, ht⟩ := Option.isSome_iff_exists.mp ht
  refine ⟨h, ht, ?_⟩
  rw [hv.trigger]
  unfold target? at ht
  split at ht
  · exact ht
  · cases ht

/-- An update arms or disarms a trigger that has been asked to listen by whether it is suppressed. -/
theorem Poised.update (hv : s.Poised registered disabled v) (ha : s.outlook.accepting = true)
    (hr : registered = true → s.target?.isSome = true) :
    s.Poised (!disabled && s.target?.isSome) disabled v.update ∧
      v.update.armed =
        if disabled then if registered && s.outlook.confirming then none else v.armed
        else if registered then v.armed else s.target?.or v.armed := by
  have hw := hv.wanted
  have hq : v.trigger.registered = registered := by rw [hv.trigger]
  by_cases hwr : (!disabled && s.target?.isSome) = registered
  · rw [update_settled (hw.trans (hwr.trans hq.symm)), hwr]
    refine ⟨hv, ?_⟩
    subst hwr
    cases disabled <;> cases s.target? <;> rfl
  · -- Now there is something to do: disarm what is suppressed, or arm what is not yet.
    cases registered with
    | true =>
      obtain ⟨h, ht, hs⟩ := hv.sensor (hr rfl)
      have hd : disabled = true := by simpa [ht] using hwr
      subst hd
      rw [update_disarms hs hw hq]
      refine ⟨⟨hv.ready, hv.outlook, hv.suppressible, ?_⟩, ?_⟩
      · simp [disarm, hv.trigger]
      · simp [disarm, hv.outlook]
    | false =>
      obtain ⟨hd, ht⟩ : disabled = false ∧ s.target?.isSome = true := by
        simpa [Option.isSome_iff_ne_none] using hwr
      obtain ⟨h, ht, hs⟩ := hv.sensor ht
      subst hd
      rw [ht] at hw
      rw [update_arms hs hw hq]
      refine ⟨⟨hv.ready, hv.outlook, hv.suppressible, ?_⟩, ?_⟩
      · simp [arm, hv.trigger, hv.outlook, ha, ht]
      · simp [arm, hv.outlook, ha, ht]

/-- Only the suppressible trigger heeds a command to keep still, and only one that is news to it. -/
theorem Poised.heedless (hv : s.Poised registered disabled v)
    (hn : s.suppressible = false ∨ disabled = on) : v.turn (.command (.suppress on)) = v := by
  have hd : v.trigger.disabled = disabled := by rw [hv.trigger]
  rw [turn, if_neg (by simp [hv.ready]), moves, hv.suppressible]
  obtain hb | rfl := hn
  · rw [hb]
    rfl
  · split
    · exact if_pos hd
    · rfl

theorem Poised.suppress (hv : s.Poised registered disabled v) (ha : s.outlook.accepting = true)
    (hr : registered = true → s.target?.isSome = true) (hb : s.suppressible = true)
    (hn : disabled ≠ on) :
    s.Poised (!on && s.target?.isSome) on (v.turn (.command (.suppress on))) ∧
      (v.turn (.command (.suppress on))).armed =
        if on then if registered && s.outlook.confirming then none else v.armed
        else if registered then v.armed else s.target?.or v.armed := by
  let u : Seat := { v with trigger := { v.trigger with disabled := on } }
  have hd : v.trigger.disabled ≠ on := by rwa [hv.trigger]
  have ht : v.turn (.command (.suppress on)) = u.update := by
    rw [turn, if_neg (by simp [hv.ready]), moves, if_pos (hv.suppressible.trans hb)]
    exact if_neg hd
  have hu : s.Poised registered on u :=
    ⟨hv.ready, hv.outlook, hv.suppressible, by simp [u, hv.trigger]⟩
  rw [ht]
  exact hu.update ha hr

theorem Fresh.listen (hs : s.Fresh) :
    s.Poised s.target?.isSome false (s.turn (.command (.listen true))) ∧
      (s.turn (.command (.listen true))).armed = s.target? := by
  let v : Seat := { s with trigger := { s.trigger with requested := true } }
  have ht : s.turn (.command (.listen true)) = v.update := by
    simp [turn, hs.ready, moves, perform, move, hs.unrequested, v]
  have hv : s.Poised false false v :=
    ⟨hs.ready, rfl, rfl, by simp [v, hs.unregistered, hs.unsuppressed]⟩
  obtain ⟨hp, ha⟩ := hv.update hs.accepting (by simp)
  rw [ht]
  refine ⟨by simpa using hp, ?_⟩
  simpa [v, hs.unarmed] using ha

/-- Suppressing a trigger that listens disarms it, and letting it go arms it again. -/
theorem Fresh.suppress (hs : s.Fresh) (on : Bool) :
    let v := (s.turn (.command (.listen true))).turn (.command (.suppress on))
    v.armed = (if on && s.suppressible && s.outlook.confirming then none else s.target?) ∧
      (v.turn (.command (.suppress false))).armed = s.target? := by
  intro v
  obtain ⟨hl, ha⟩ := hs.listen
  by_cases hb : s.suppressible = true ∧ on = true
  · obtain ⟨hb, rfl⟩ := hb
    obtain ⟨hv, hva⟩ := hl.suppress hs.accepting id hb (show false ≠ true by simp)
    obtain ⟨-, hua⟩ := hv.suppress hs.accepting (by simp) hb (show true ≠ false by simp)
    rw [ha] at hva
    refine ⟨hva.trans ?_, hua.trans ?_⟩
    · rw [hb]
      cases s.target? <;> simp
    · rw [hva]
      cases s.target? <;> simp
  · have hn : s.suppressible = false ∨ false = on := by
      cases on <;> simp_all
    have hv : v = s.turn (.command (.listen true)) := hl.heedless hn
    rw [hv, hl.heedless (.inr rfl), ha]
    refine ⟨?_, rfl⟩
    cases on <;> simp_all

end Seat

theorem Settings.get_true_iff (s : Settings) (key : String) (user : User) :
    s.get key user true = true ↔ s.values[(key, user)]? ≠ some false := by
  unfold get
  cases s.values[(key, user)]? with
  | none => simp
  | some value => cases value <;> simp

namespace Config

/-- The sensor that a device has armed for a listener while it listens. Of several sensors that would
do, it is the first. -/
def armedFor? (c : Config) (p : Platform) : Listener → Option Sensor
  | 0 =>
    if c.pulseOnSignificantMotion then
      p.registry.sensors.find? (·.category = .significantMotion)
    else none
  | 1 =>
    if c.pickUpSupported ∧ c.ambientDisplayAvailable ∧
        p.settings.values[(Setting.pickUpKey, p.settings.currentUser)]? ≠ some false then
      p.registry.sensors.find? (·.category = .pickUpGesture)
    else none
  | 2 =>
    if c.doubleTapType ≠ "" ∧
        p.settings.values[(Setting.doubleTapKey, p.settings.currentUser)]? ≠ some false then
      p.registry.sensors.find? (·.typeId = c.doubleTapType)
    else none
  | _ => none

theorem target_eq (c : Config) (p : Platform) (b : Bool) {i : Nat} {q : Requirement}
    (hq : c.requirements[i]? = some q) :
    (Seat.of i b false (.ofRequirement p.registry i q) p).target? = c.armedFor? p i := by
  have hv (key : String) :
      p.outlook.settings.get key p.settings.currentUser true = true ↔
        p.settings.values[(key, p.settings.currentUser)]? ≠ some false :=
    p.settings.get_true_iff key _
  have hu : p.outlook.settings.currentUser = p.settings.currentUser := rfl
  have hp : (some Setting.pickUpKey).filter (fun key => !decide (key = "")) =
    some Setting.pickUpKey := by decide
  have hd : (some Setting.doubleTapKey).filter (fun key => !decide (key = "")) =
    some Setting.doubleTapKey := by decide
  match i with
  | 0 =>
    obtain rfl := Option.some.inj hq
    simp [Seat.target?, Seat.of, Trigger.ofRequirement, Trigger.enabled, Source.resolve?,
      Registry.ofCategory?, armedFor?]
  | 1 =>
    obtain rfl := Option.some.inj hq
    simp [Seat.target?, Seat.of, Trigger.ofRequirement, Trigger.enabled, Source.resolve?,
      Registry.ofCategory?, armedFor?, pulseOnPickUp, hp, hu, hv, and_assoc]
  | 2 =>
    obtain rfl := Option.some.inj hq
    simp [Seat.target?, Seat.of, Trigger.ofRequirement, Trigger.enabled, Source.resolve?,
      Registry.ofType?, armedFor?, hd, hu, hv, ite_and]
    split <;> simp
  | i + 3 => cases hq

theorem armedFor_vacant (c : Config) (p : Platform) {l : Listener}
    (hl : c.requirements[l]? = none) : c.armedFor? p l = none := by
  match l with
  | 0 | 1 | 2 => cases hl
  | l + 3 => rfl

theorem gates_iff (c : Config) (key : String) :
    Gates c.requirements key ↔
      key = Setting.doubleTapKey ∨
        key = Setting.pickUpKey ∧ c.pickUpSupported = true ∧ c.ambientDisplayAvailable = true := by
  have hp : Setting.pickUpKey ≠ "" := by decide
  have hd : Setting.doubleTapKey ≠ "" := by decide
  simp only [Gates, requirements, pulseOnPickUp, List.mem_cons, List.not_mem_nil, or_false,
    or_and_right, exists_or, exists_eq_left]
  grind

end Config

namespace Bank

variable {c : Config} {o : Observer} {p : Platform}

theorem ofConfig_eq_ok_iff {r : Bank × Platform} :
    Bank.ofConfig c o p = .ok r ↔ ∃ m, Subtype.Matcher.ofSpec c.proximitySpec = .ok m ∧
      Bank.assemble m c.requirements (some Config.pickUpPosition) o p = r := by
  rw [ofConfig, Config.matcher]
  cases Subtype.Matcher.ofSpec c.proximitySpec <;> simp [Except.map]

theorem ofConfig_eq_error_iff {e : Subtype.SpecError} :
    Bank.ofConfig c o p = .error e ↔ Subtype.Matcher.ofSpec c.proximitySpec = .error e := by
  rw [ofConfig, Config.matcher]
  cases Subtype.Matcher.ofSpec c.proximitySpec <;> simp [Except.map]

end Bank

namespace World

variable {rs : List Requirement} {r : Registry} {w : World} {i : Nat}

theorem armed_of_seat {s : Seat} (hs : w.seat? i = some s) :
    w.platform.registry.armed[i]? = s.armed := by
  obtain ⟨t, -, rfl⟩ := Option.map_eq_some_iff.mp hs
  rfl

theorem armed_turn_vacant (hw : w.Built rs r) (hi : rs[i]? = none) (c : Command) :
    (w.turn (.command c)).platform.registry.armed[i]? = w.platform.registry.armed[i]? := by
  rw [turn_performed w (by simp)]
  refine (perform_keeps (P := fun v => v.Built rs r ∧
    v.platform.registry.armed[i]? = w.platform.registry.armed[i]?) (fun a _ v hv => ?_) ⟨hw, rfl⟩).2
  have hn : v.bank.triggers[i]? = none := by simpa [hi] using hv.1 i
  exact ⟨hv.1.act a, (armed_act_vacant hv.1.ordered a hn).trans hv.2⟩

/-- A bank that comes to listen on a platform with nothing armed arms what each of its requirements
is after, and its suppressible trigger can be disarmed and armed again. -/
theorem armed_listen (m : Subtype.Matcher) (suppressible : Option Nat) (o : Observer) {p : Platform}
    (ha : p.registry.accepting = true) (hn : ∀ l : Listener, p.registry.armed[l]? = none)
    {q : Requirement} (hq : rs[i]? = some q) :
    let b := suppressible == some i
    let target := (Seat.of i b false (.ofRequirement p.registry i q) p).target?
    let w := (assembled m rs suppressible o p).turn (.command (.listen true))
    w.platform.registry.armed[i]? = target ∧ ∀ on,
      let v := w.turn (.command (.suppress on))
      v.platform.registry.armed[i]? =
          (if on && b && p.registry.confirming then none else target) ∧
        (v.turn (.command (.suppress false))).platform.registry.armed[i]? = target := by
  intro b target w
  have hw := built_assembled m rs suppressible o p
  have hs : (Seat.of i b false (.ofRequirement p.registry i q) p).Fresh :=
    ⟨rfl, rfl, rfl, rfl, ha, hn i⟩
  have h := seat_turn hw (.command (.listen true)) (seat_assembled m suppressible o p hq)
  refine ⟨(armed_of_seat h).trans hs.listen.2, fun on => ?_⟩
  have hv := seat_turn (hw.turn _) (.command (.suppress on)) h
  have hu := seat_turn ((hw.turn _).turn _) (.command (.suppress false)) hv
  exact ⟨(armed_of_seat hv).trans (hs.suppress on).1, (armed_of_seat hu).trans (hs.suppress on).2⟩

theorem armed_listen_vacant (m : Subtype.Matcher) (suppressible : Option Nat) (o : Observer)
    {p : Platform} (hn : ∀ l : Listener, p.registry.armed[l]? = none) (hi : rs[i]? = none) :
    let w := (assembled m rs suppressible o p).turn (.command (.listen true))
    w.platform.registry.armed[i]? = none ∧ ∀ on,
      let v := w.turn (.command (.suppress on))
      v.platform.registry.armed[i]? = none ∧
        (v.turn (.command (.suppress false))).platform.registry.armed[i]? = none := by
  intro w
  have hw := built_assembled m rs suppressible o p
  have h : w.platform.registry.armed[i]? = none := (armed_turn_vacant hw hi _).trans (hn i)
  refine ⟨h, fun on => ?_⟩
  have hv := (armed_turn_vacant (hw.turn _) hi (.suppress on)).trans h
  exact ⟨hv, (armed_turn_vacant ((hw.turn _).turn _) hi _).trans hv⟩

theorem armed_device (c : Config) (m : Subtype.Matcher) (o : Observer) {p : Platform}
    (ha : p.registry.accepting = true) (hn : ∀ l : Listener, p.registry.armed[l]? = none)
    (l : Listener) :
    let w := (assembled m c.requirements (some Config.pickUpPosition) o p).turn
      (.command (.listen true))
    w.platform.registry.armed[l]? = c.armedFor? p l ∧ ∀ on : Bool,
      let v := w.turn (.command (.suppress on))
      v.platform.registry.armed[l]? =
          (if on = true ∧ l = 1 ∧ p.registry.confirming = true then none else c.armedFor? p l) ∧
        (v.turn (.command (.suppress false))).platform.registry.armed[l]? = c.armedFor? p l := by
  intro w
  cases hq : c.requirements[l]? with
  | some q =>
    obtain ⟨h, hs⟩ := armed_listen m (some Config.pickUpPosition) o ha hn hq
    have ht := c.target_eq p (some Config.pickUpPosition == some l) hq
    refine ⟨h.trans ht, fun on => ⟨(hs on).1.trans ?_, (hs on).2.trans ht⟩⟩
    rw [ht]
    simp [Config.pickUpPosition, eq_comm (a := 1), and_assoc]
  | none =>
    obtain ⟨h, hs⟩ := armed_listen_vacant m (some Config.pickUpPosition) o hn hq
    have ht := c.armedFor_vacant p hq
    refine ⟨h.trans ht.symm, fun on => ⟨(hs on).1.trans ?_, (hs on).2.trans ht.symm⟩⟩
    rw [ht, ite_self]

/-- A device can be set up just when its proximity spec is good, and what is wrong with the spec is
told otherwise. When it comes to listen, exactly the sensors are armed that its configuration and the
settings of the user in charge ask for, and its observer is down for the settings that these depend
on. While it is suppressed, it is as before but for pickup. -/
theorem device_armed (c : Config) {o : Observer} {p : Platform}
    (ha : p.registry.accepting = true) (hn : p.registry.armedListeners = [])
    (ho : ∀ key, p.settings.scopeOf? o key = none) :
    let texts := Subtype.written c.proximitySpec
    ((∃ b q, Bank.ofConfig c o p = .ok (b, q)) ↔
      ∃ ps, Subtype.Consistent texts ps ∧ ∃ admitted, .fallback admitted ∈ ps) ∧
    (∀ e, Bank.ofConfig c o p = .error e ↔ e.spec = c.proximitySpec ∧
      if Text.Blank c.proximitySpec.toList then e.fault = .blank
      else Subtype.Fails texts e.fault) ∧
    ∀ b q, Bank.ofConfig c o p = .ok (b, q) →
      let w := World.turn { bank := b, platform := q } (.command (.listen true))
      (∀ l : Listener, w.platform.registry.armed[l]? = c.armedFor? p l) ∧
      (∀ key s, w.platform.settings.scopeOf? o key = some s ↔
        s = .all ∧ (key = Setting.doubleTapKey ∨
          key = Setting.pickUpKey ∧ c.pickUpSupported = true ∧
            c.ambientDisplayAvailable = true)) ∧
      ∀ on : Bool,
        let v := w.turn (.command (.suppress on))
        (∀ l : Listener, v.platform.registry.armed[l]? =
          if on = true ∧ l = 1 ∧ p.registry.confirming = true then none else c.armedFor? p l) ∧
        ∀ l : Listener,
          (v.turn (.command (.suppress false))).platform.registry.armed[l]? = c.armedFor? p l := by
  intro texts
  refine ⟨?_, fun e => ?_, fun b q hb => ?_⟩
  · rw [← Subtype.exists_ofSpec_eq_ok_iff]
    simp only [Bank.ofConfig_eq_ok_iff]
    exact ⟨fun ⟨_, _, m, hm, _⟩ => ⟨m, hm⟩, fun ⟨m, hm⟩ => ⟨_, _, m, hm, rfl⟩⟩
  · simp only [Bank.ofConfig_eq_error_iff, Subtype.ofSpec_eq_error_iff, Text.trim_eq_nil_iff, texts]
  obtain ⟨m, -, h⟩ := Bank.ofConfig_eq_ok_iff.mp hb
  obtain ⟨rfl, rfl⟩ := Prod.ext_iff.mp h
  intro w
  rw [Registry.armedListeners_eq_nil] at hn
  have hk : w.Attended c.requirements p.registry o .listening :=
    (Attended.assembled m c.requirements (some Config.pickUpPosition) ho).turn
      (.command (.listen true))
  have each := armed_device c m o ha hn
  refine ⟨fun l => (each l).1, fun key s => ?_, fun on =>
    ⟨fun l => ((each l).2 on).1, fun l => ((each l).2 on).2⟩⟩
  rw [hk.scope, c.gates_iff]
  simp

theorem device_armed_standard :
    let c : Config := { pulseOnSignificantMotion := true, doubleTapType := "tap" }
    let p : Platform :=
      { registry := .standard "tap"
        settings := (Platform.standard.settings.put Setting.pickUpKey User.system false).2 }
    p.registry.accepting = true ∧ p.registry.armedListeners = [] ∧
      (∀ key, p.settings.scopeOf? 1 key = none) ∧
      Subtype.Consistent (Subtype.written c.proximitySpec) [.fallback false] ∧
      ∃ b q, Bank.ofConfig c 1 p = .ok (b, q) ∧
        let w := World.turn { bank := b, platform := q } (.command (.listen true))
        w.platform.registry.armed[0]? = p.registry.sensors[0]? ∧
          w.platform.registry.armed[1]? = none ∧
          w.platform.registry.armed[2]? = p.registry.sensors[2]? ∧
          w.platform.settings.scopeOf? 1 Setting.pickUpKey = some .all := by
  intro c p
  have hn : p.registry.armedListeners = [] := by decide +kernel
  have ho : ∀ key, p.settings.scopeOf? 1 key = none := fun key => by
    simp [p, Platform.standard, Settings.put, Settings.scopeOf?]
  have hw : Subtype.written c.proximitySpec = [['!', '*']] := by decide
  have hp : Subtype.Consistent (Subtype.written c.proximitySpec) [.fallback false] := by
    rw [hw]
    exact ⟨.cons (by decide) .nil, by decide⟩
  obtain ⟨hok, -, h⟩ := device_armed c rfl hn ho
  obtain ⟨b, q, hb⟩ := hok.mpr ⟨_, hp, false, by decide⟩
  obtain ⟨ha, hs, -⟩ := h b q hb
  have h0 : c.armedFor? p 0 = p.registry.sensors[0]? := by decide +kernel
  have h1 : c.armedFor? p 1 = none := by decide +kernel
  have h2 : c.armedFor? p 2 = p.registry.sensors[2]? := by decide +kernel
  exact ⟨rfl, hn, ho, hp, b, q, hb, (ha 0).trans h0, (ha 1).trans h1, (ha 2).trans h2,
    (hs _ _).mpr ⟨rfl, .inr ⟨rfl, rfl, rfl⟩⟩⟩

end World

end AmbientPulse
