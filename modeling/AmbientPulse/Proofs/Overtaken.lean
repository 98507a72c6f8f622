import AmbientPulse.Proofs.Alternation

namespace AmbientPulse

namespace Mark

/-- After a cancellation only what follows it counts. -/
theorem last_after_cancel {xs ys : List Mark} {b r : Bool}
    (h : (xs ++ .cancel :: ys).foldlM follow? b = some r) :
    r = true ↔ (ys.filter counts).getLast? = some (.request true) := by
  rw [List.foldlM_append] at h
  obtain ⟨c, -, h⟩ := Option.bind_eq_some_iff.mp h
  rw [List.foldlM_cons] at h
  obtain ⟨d, hd, h⟩ := Option.bind_eq_some_iff.mp h
  cases c with
  | false => cases hd
  | true =>
    obtain rfl : false = d := by simpa [follow?] using hd
    exact last_of_follow h

end Mark

namespace World

variable {w : World} {l : Listener}

theorem effects_deliver_dropped (e : Event)
    (h : w.closed = true ∨ ∀ t, w.bank.triggers[l]? = some t → t.registered = false) :
    w.effects (.command (.deliver l e)) = [] := by
  cases hc : w.closed with
  | true => simp [effects, turn, hc]
  | false =>
    have hn := h.resolve_left (by simp [hc])
    obtain ⟨-, n, ha⟩ | ⟨t, ht, hr, -⟩ := w.deliver_cases l e
    · rw [effects, turn_deliver hc, ha]
      simp
    · rw [hn t ht] at hr
      cases hr

theorem effects_deliver_taken (e : Event) (hc : w.closed = false) {t : Trigger}
    (ht : w.bank.triggers[l]? = some t) (hr : t.registered = true) :
    ∃ es, w.effects (.command (.deliver l e)) = t.strike w.bank.matcher e ++ es := by
  rw [effects, turn_deliver hc]
  obtain ⟨hn, -⟩ | ⟨u, hu, -, ⟨-, h⟩ | ⟨-, h⟩⟩ := w.deliver_cases l e
  · rw [hn t ht] at hr
    cases hr
  · obtain rfl : u = t := Option.some.inj (hu.symm.trans ht)
    rw [h]
    exact ⟨[.release], by simp [Trigger.trace_struck]⟩
  · obtain rfl : u = t := Option.some.inj (hu.symm.trans ht)
    rw [h]
    refine ⟨u.spent.calls (u.struck w.bank.matcher e w.platform) ++ [.release], ?_⟩
    simp [Trigger.trace_update, Trigger.trace_struck]

/-- A fire that is overtaken by a cancellation is dropped, unless the trigger has been armed again by
the time the fire arrives. Then it passes for a fire of the new registration. -/
theorem overtaken_fire_dropped (m : Subtype.Matcher) (rs : List Requirement)
    (suppressible : Option Nat) (o : Observer) (p : Platform) {l : Listener} (hl : l < rs.length)
    (before between : List Turn) (values : List Number.Single) (timestamp : UInt64) :
    let w := (assembled m rs suppressible o p).run before
    let fired := w.turn (.outside (.fire l values timestamp))
    let v := fired.run between
    ∀ e, (w.platform.fire l values timestamp).1 = some e →
      ∀ xs ys, fired.marks l between = xs ++ .cancel :: ys →
        let again := (ys.filter Mark.counts).getLast? = some (.request true)
        (v.closed = true ∨ ¬ again → v.effects (.command (.deliver l e)) = []) ∧
          (v.closed = false → again → ∃ t es, v.bank.triggers[l]? = some t ∧
            v.effects (.command (.deliver l e)) = t.strike v.bank.matcher e ++ es) := by
  intro w fired v e _ xs ys hm again
  have hf : fired.Built rs p.registry := ((built_assembled m rs suppressible o p).run before).turn _
  obtain ⟨t, ht⟩ := hf.trigger hl
  obtain ⟨t', ht', hk⟩ := run_follows hf between ht
  rw [hm] at hk
  have hr : t'.registered = true ↔ again := Mark.last_after_cancel hk
  refine ⟨fun h => effects_deliver_dropped e (h.imp_right fun hn u hu => ?_), fun hc ha => ?_⟩
  · obtain rfl : t' = u := Option.some.inj (ht'.symm.trans hu)
    exact Bool.eq_false_iff.mpr fun h => hn (hr.mp h)
  · obtain ⟨es, he⟩ := effects_deliver_taken e hc ht' (hr.mpr ha)
    exact ⟨t', es, ht', he⟩

theorem overtaken_fire_dropped_standard :
    let rs := ({} : Config).requirements
    let w := (assembled .admitNone rs (some Config.pickUpPosition) 1 .standard).run
      [.command (.listen true)]
    let fired := w.turn (.outside (.fire 1 [] 7))
    let e : Event := ⟨⟨2, "Pickup Gesture", .pickUpGesture, "android.sensor.pick_up_gesture"⟩, 7, []⟩
    1 < rs.length ∧ (w.platform.fire 1 [] 7).1 = some e ∧
      fired.marks 1 [.command (.suppress true)] = [] ++ .cancel :: [] ∧
      (fired.run [.command (.suppress true)]).effects (.command (.deliver 1 e)) = [] := by
  intro rs w fired e
  have hl : 1 < rs.length := by decide
  have he : (w.platform.fire 1 [] 7).1 = some e := by decide +kernel
  have hm : fired.marks 1 [.command (.suppress true)] = [] ++ .cancel :: [] := by decide +kernel
  have h := overtaken_fire_dropped .admitNone rs (some Config.pickUpPosition) 1 .standard hl
    [.command (.listen true)] [.command (.suppress true)] [] 7 e he [] [] hm
  exact ⟨hl, he, hm, h.1 (.inr (by decide))⟩

theorem overtaken_fire_pulses_when_armed_again :
    let w := (assembled .admitNone ({} : Config).requirements (some Config.pickUpPosition) 1
      .standard).run [.command (.listen true)]
    let fired := w.turn (.outside (.fire 1 [] 7))
    let between := [.command (.listen false), .command (.listen true)]
    let s : Sensor := ⟨2, "Pickup Gesture", .pickUpGesture, "android.sensor.pick_up_gesture"⟩
    let e : Event := ⟨s, 7, []⟩
    (w.platform.fire 1 [] 7).1 = some e ∧
      fired.marks 1 between = [.cancel, .request true] ∧
      (fired.run between).effects (.command (.deliver 1 e)) =
        [.acquire, .metric e.subtype, .pulse .pickUp false, .request 1 s true, .release] := by
  decide +kernel

end World

end AmbientPulse
