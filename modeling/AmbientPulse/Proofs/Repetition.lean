import AmbientPulse.Proofs.Heeding

namespace AmbientPulse

namespace Trigger

/-- An update finds nothing to do. -/
def AtEase (t : Trigger) (p : Platform) : Prop :=
  t.sensor = none ∨ t.wanted p.settings = t.registered

theorem update_atEase {t : Trigger} {p : Platform} (ht : t.AtEase p) : t.update p = (t, p) := by
  obtain ⟨-, h, -⟩ | ⟨s, hs, hw, hr, -⟩ | ⟨s, hs, hw, hr, -⟩ := t.update_cases p
  · exact h
  · obtain h | h := ht
    · rw [hs] at h
      cases h
    · rw [hw, hr] at h
      cases h
  · obtain h | h := ht
    · rw [hs] at h
      cases h
    · rw [hw, hr] at h
      cases h

/-- Unless it asks in vain, an update leaves nothing to do. -/
theorem atEase_settled {t : Trigger} {p : Platform}
    (hn : ∀ l s, .request l s false ∉ t.calls p) : (t.settled p).AtEase p := by
  have hw : (t.settled p).wanted p.settings = t.wanted p.settings := rfl
  have hr : (t.settled p).registered =
    (t.wanted p.settings && (t.registered || p.registry.accepting)) := rfl
  obtain ⟨h | h, -⟩ | ⟨s, -, h, -, -, hc⟩ | ⟨s, -, h, -⟩ := t.update_cases p
  · exact .inl h
  · refine .inr ?_
    rw [hw, hr, h]
    cases t.registered <;> rfl
  · cases ha : p.registry.accepting with
    | true => exact .inr (by rw [hw, hr, h, ha, Bool.or_true, Bool.and_true])
    | false =>
      refine absurd ?_ (hn t.listener s)
      rw [hc, ha]
      exact List.mem_singleton.mpr rfl
  · exact .inr (by rw [hw, hr, h, Bool.false_and])

end Trigger

namespace World

/-- An act that finds everything as it is to be. -/
def Idle (w : World) : Act → Prop
  | .note _ => True
  | .request i on => w.Requested on i
  | .suppress i on => w.At i fun t _ => t.disabled = on
  | .update i => w.At i Trigger.AtEase
  | .attach i => w.Watched i
  | .detach => ∀ key, key ∉ w.bank.watch.keys
  | .deliver _ _ => False
  | .shut => False

def noted (w : World) (ns : List Notice) : World :=
  { w with platform := w.platform.noteAll ns }

theorem change_of_eq {w : World} {i : Nat} {f : Trigger → Platform → Trigger × Platform}
    (h : w.At i fun t p => f t p = (t, p)) : w.change i f = w := by
  cases ht : w.bank.triggers[i]? with
  | none => exact change_none f ht
  | some t =>
    have hs : w.bank.triggers.set i t = w.bank.triggers := by
      obtain ⟨hi, rfl⟩ := List.getElem?_eq_some_iff.mp ht
      exact List.set_getElem_self hi
    rw [change_some f ht, h t ht, Bank.setTrigger, hs]

theorem attach_of_watched {w : World} {i : Nat} (h : w.Watched i) : w.act (.attach i) = w := by
  simp only [act]
  cases ht : w.bank.triggers[i]? with
  | none => rfl
  | some t =>
    simp only [Trigger.attach]
    split
    · next key hc hk =>
      have hm : w.bank.watch.isWatching key = true :=
        Std.ExtTreeSet.mem_iff_contains.mp (h t key ht hc hk)
      rw [Watch.attach, if_pos hm]
    · rfl

theorem detach_of_unwatched {w : World} (h : ∀ key, key ∉ w.bank.watch.keys) :
    w.act .detach = w := by
  have hn : w.bank.watch.isSubscribed = false := by
    have he : w.bank.watch.keys = ∅ := Std.ExtTreeSet.ext_mem fun key => by simp [h key]
    simp [Watch.isSubscribed, he]
  simp [act, Watch.detach, hn]

/-- An idle act comes to no more than a notice. -/
theorem Idle.act {w : World} {a : Act} (h : w.Idle a) : ∃ ns, w.act a = w.noted ns := by
  have same : w.act a = w → ∃ ns, w.act a = w.noted ns := fun h =>
    ⟨[], by simp [h, noted, Platform.noteAll]⟩
  cases a with
  | note n => exact ⟨[n], rfl⟩
  | request i on => exact same (change_of_eq fun t ht => if_pos (h t ht))
  | suppress i on => exact same (change_of_eq fun t ht => if_pos (h t ht))
  | update i => exact same (change_of_eq fun t ht => Trigger.update_atEase (h t ht))
  | attach i => exact same (attach_of_watched h)
  | detach => exact same (detach_of_unwatched h)
  | deliver | shut => cases h

theorem idle_perform {w : World} {as : List Act} (h : ∀ a ∈ as, w.Idle a) :
    ∃ ns, w.perform as = w.noted ns := by
  induction as generalizing w with
  | nil => exact ⟨[], by simp [noted, Platform.noteAll]⟩
  | cons a as ih =>
    obtain ⟨ns, hn⟩ := (h a (by simp)).act
    have hs : ∀ b ∈ as, (w.noted ns).Idle b := fun b hb => by
      have hb' := h b (by simp [hb])
      cases b <;> exact hb'
    obtain ⟨ms, hm⟩ := ih hs
    refine ⟨ns ++ ms, ?_⟩
    rw [perform_cons, hn, hm]
    simp [noted, Platform.noteAll]

section Commands

variable {rs : List Requirement} {r : Registry} {w : World}

theorem emitted_updates (hw : w.Built rs r) :
    w.emitted (w.forEach fun i => [.update i]) = w.bank.triggers.flatMap (·.calls w.platform) :=
  emitted_forEach Trigger.calls hw (fun i j h => by simp [Act.concerns, h]) (fun _ _ => rfl)
    fun _ _ _ h => Trigger.calls_passed h

/-- Commands that have every trigger looked at. -/
def Inspects (w : World) (c : Command) : Prop :=
  c = .userSwitched ∨ ∃ e, c = .settingChanged e ∧ e.concerns w.platform.settings.currentUser = true

theorem effects_of_inspects (hw : w.Built rs r) (hc : w.closed = false) {c : Command}
    (hi : w.Inspects c) :
    w.effects (.command c) = w.bank.triggers.flatMap (·.calls w.platform) := by
  rw [effects_eq, acts, if_neg (by simp [hc])]
  obtain rfl | ⟨e, rfl, he⟩ := hi
  · exact emitted_updates (w := w.act _) (hw.act _)
  · rw [commandActs, if_pos he]
    exact emitted_updates hw

theorem atEase_of_inspects (hw : w.Orderly rs r) (hc : w.closed = false) {c : Command}
    (hi : w.Inspects c) (hn : ∀ l s, .request l s false ∉ w.effects (.command c)) (i : Nat) :
    (w.turn (.command c)).At i Trigger.AtEase := by
  have hs : c.steady = true := by
    obtain rfl | ⟨e, rfl, -⟩ := hi <;> rfl
  have hh : ∀ b t, Trigger.heeding c b t w.platform = t.settled w.platform := fun b t => by
    obtain rfl | ⟨e, rfl, he⟩ := hi
    · rfl
    · rw [Trigger.heeding_settingChanged, if_pos he]
  intro u hu
  rw [hw.trigger_turn hc hs, Option.map_eq_some_iff] at hu
  obtain ⟨t, ht, rfl⟩ := hu
  have hn' : ∀ l s, .request l s false ∉ t.calls w.platform := fun l s h => by
    refine hn l s ?_
    rw [effects_of_inspects hw.built hc hi]
    exact List.mem_flatMap.mpr ⟨t, List.mem_of_getElem? ht, h⟩
  rw [hh, Trigger.AtEase, Trigger.wanted_of_outlook _ (w.outlook_turn_command c)]
  exact Trigger.atEase_settled hn'

theorem idle_updates (hw : w.Orderly rs r) (hc : w.closed = false) {c : Command}
    (hi : w.Inspects c) (hn : ∀ l s, .request l s false ∉ w.effects (.command c)) :
    ∀ a ∈ (w.turn (.command c)).forEach (fun i => [.update i]), (w.turn (.command c)).Idle a := by
  intro a ha
  obtain ⟨i, -, ha⟩ := mem_forEach.mp ha
  obtain rfl := List.mem_singleton.mp ha
  exact atEase_of_inspects hw hc hi hn i

theorem idle_listen (hw : w.Built rs r) (on : Bool) :
    let v := w.perform (w.commandActs (.listen on))
    ∀ a ∈ v.commandActs (.listen on), v.Idle a := by
  intro v a ha
  cases on with
  | true =>
    obtain rfl | ha := List.mem_cons.mp ha
    · trivial
    · obtain ⟨i, -, ha⟩ := mem_forEach.mp ha
      obtain rfl | rfl := List.mem_pair.mp ha
      · exact requested_listen hw true
      · exact watched_listen hw
  | false =>
    obtain ha | ha := List.mem_append.mp ha
    · obtain rfl | ha := List.mem_cons.mp ha
      · trivial
      · obtain ⟨i, -, ha⟩ := mem_forEach.mp ha
        obtain rfl := List.mem_singleton.mp ha
        exact requested_listen hw false
    · obtain rfl := List.mem_singleton.mp ha
      exact unwatched_listen w

theorem disabled_suppress (hw : w.Orderly rs r) (hc : w.closed = false) (on : Bool) {i : Nat}
    (hi : w.bank.suppressible = some i) :
    (w.turn (.command (.suppress on))).At i fun t _ => t.disabled = on := by
  intro u hu
  rw [hw.trigger_turn hc rfl, Option.map_eq_some_iff] at hu
  obtain ⟨t, -, rfl⟩ := hu
  have hb : (w.bank.suppressible == some i) = true := by simp [hi]
  rw [hb]
  show (t.told .disabled on w.platform).disabled = on
  unfold Trigger.told
  split
  · next h => exact h
  · rfl

/-- Unless requests have been refused that are to be made again, the acts of a command are all idle
after it. -/
theorem idle_again (hw : w.Orderly rs r) {c : Command} (hs : c.steady = true)
    (hn : (∃ on, c = .listen on ∨ c = .suppress on) ∨
      ∀ l s, .request l s false ∉ w.effects (.command c)) :
    ∀ a ∈ (w.turn (.command c)).acts (.command c), (w.turn (.command c)).Idle a := by
  intro a ha
  rw [acts, closed_turn_command] at ha
  cases hc : w.closed with
  | true => simp [hc] at ha
  | false =>
    rw [if_neg (by simp [hc])] at ha
    cases c with
    | deliver | rearm => cases hs
    | listen on =>
      have hv : w.turn (.command (.listen on)) = w.perform (w.commandActs (.listen on)) := by
        rw [turn_performed w (by simp), acts, if_neg (by simp [hc])]
      rw [hv] at ha ⊢
      exact idle_listen hw.built on a ha
    | suppress on =>
      obtain ⟨i, hi, rfl⟩ := List.mem_map.mp ha
      refine disabled_suppress hw hc on ?_
      exact (w.suppressible_run [.command (.suppress on)]).symm.trans (Option.mem_toList.mp hi)
    | userSwitched =>
      obtain rfl | ha := List.mem_cons.mp ha
      · trivial
      · exact idle_updates hw hc (.inl rfl) (hn.resolve_left (by simp)) a ha
    | settingChanged e =>
      have hu := congrArg Outlook.currentUser (w.outlook_turn_command (.settingChanged e))
      rw [commandActs] at ha
      split at ha
      · next he =>
        have he' : e.concerns w.platform.settings.currentUser = true :=
          (congrArg e.concerns hu.symm).trans he
        exact idle_updates hw hc (.inr ⟨e, rfl, he'⟩) (hn.resolve_left (by simp)) a ha
      · obtain rfl := List.mem_singleton.mp ha
        trivial

end Commands

/-- A steady command that is given again finds nothing to do: no call is made, and nothing changes but
the log. A command that only has the triggers looked at may have asked in vain the first time, and
then it asks again; setting a flag is never tried twice. -/
theorem steady_command_repeated (m : Subtype.Matcher) (rs : List Requirement)
    (suppressible : Option Nat) (o : Observer) (p : Platform) (ts : List Turn) :
    let w := (assembled m rs suppressible o p).run ts
    ∀ c : Command, c.steady = true →
      ((∃ on, c = .listen on ∨ c = .suppress on) ∨
        ∀ l s, .request l s false ∉ w.effects (.command c)) →
      let v := w.turn (.command c)
      v.effects (.command c) = [] ∧ ∃ ns, v.turn (.command c) = v.noted ns := by
  intro w c hs hn v
  have hw : w.Orderly rs p.registry := .run_assembled m rs suppressible o p ts
  obtain ⟨ns, hv⟩ := idle_perform (idle_again hw hs hn)
  rw [← turn_performed v (by simp)] at hv
  refine ⟨effects_of_trace ?_, ns, hv⟩
  rw [hv, List.append_nil]
  rfl

theorem steady_command_repeated_unnoticed :
    let rs : List Requirement :=
      [⟨.category .significantMotion, .significantMotion, some "x", true⟩,
        ⟨.category .pickUpGesture, .pickUp, some "y", true⟩]
    let a : Sensor :=
      ⟨1, "Significant Motion", .significantMotion, "android.sensor.significant_motion"⟩
    let b : Sensor := ⟨2, "Pickup Gesture", .pickUpGesture, "android.sensor.pick_up_gesture"⟩
    let w := (assembled .admitNone rs none 1 .standard).run
      [.outside (.put "y" User.system false), .command (.listen true),
        .outside (.put "x" User.system false), .outside (.put "y" User.system true)]
    let c : Command := .userSwitched
    let v := w.turn (.command c)
    c.steady = true ∧ w.effects (.command c) = [.cancel 0 a true, .request 1 b true] ∧
      (∀ l s, .request l s false ∉ w.effects (.command c)) ∧
      v.effects (.command c) = [] ∧ ∃ ns, v.turn (.command c) = v.noted ns := by
  intro rs a b w c v
  have he : w.effects (.command c) = [.cancel 0 a true, .request 1 b true] := by decide +kernel
  have hn : ∀ l s, .request l s false ∉ w.effects (.command c) := fun l s h => by
    rw [he] at h
    simp at h
  have h := steady_command_repeated .admitNone rs none 1 .standard
    [.outside (.put "y" User.system false), .command (.listen true),
      .outside (.put "x" User.system false), .outside (.put "y" User.system true)]
  exact ⟨rfl, he, hn, h c rfl (.inr hn)⟩

end World

end AmbientPulse
