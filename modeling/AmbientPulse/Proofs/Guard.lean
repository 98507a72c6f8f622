import AmbientPulse.Proofs.Step

namespace AmbientPulse

namespace Trigger

/-- What has to be so for a resolved trigger to be armed. -/
def Permitted (t : Trigger) (s : Settings) : Prop :=
  t.configured = true ∧ t.requested = true ∧ t.disabled = false ∧
    ∀ key, t.setting = some key → s.get key s.currentUser true = true

theorem enabled_eq (t : Trigger) (s : Settings) :
    t.enabled s = t.setting.all fun key => s.get key s.currentUser true := by
  unfold enabled
  cases t.setting <;> rfl

theorem enabled_iff (t : Trigger) (s : Settings) :
    t.enabled s = true ↔ ∀ key, t.setting = some key → s.get key s.currentUser true = true := by
  rw [enabled_eq, Option.all_eq_true]

theorem wanted_iff (t : Trigger) (s : Settings) :
    t.wanted s = true ↔ t.sensor.isSome = true ∧ t.Permitted s := by
  simp only [wanted, Bool.and_eq_true, Bool.not_eq_true', Permitted, enabled_iff]
  tauto

theorem update_of_wanted {t : Trigger} {p : Platform} (hw : t.wanted p.settings = true)
    (hr : t.registered = false) : ∃ s, t.update p = t.arm s p := by
  obtain ⟨hs, -⟩ := (t.wanted_iff _).mp hw
  obtain ⟨s, hs⟩ := Option.isSome_iff_exists.mp hs
  exact ⟨s, by simp [update, hs, hw, hr]⟩

/-- A setting may have been switched off unnoticed. All else that speaks against a registration is
acted on at once. -/
def Guarded (t : Trigger) : Prop :=
  t.registered = true →
    t.configured = true ∧ t.sensor.isSome = true ∧ t.requested = true ∧ t.disabled = false

theorem guarded_of_idle {t : Trigger} (hr : t.registered = false) : t.Guarded := by
  intro h
  rw [hr] at h
  cases h

theorem guarded_of_wanted {t : Trigger} {s : Settings} (hw : t.wanted s = true) : t.Guarded := by
  intro _
  obtain ⟨hs, hc, hq, hd, -⟩ := (t.wanted_iff s).mp hw
  exact ⟨hc, hs, hq, hd⟩

/-- An update puts everything right except the registration of a sensor that there is not. -/
theorem guarded_update {t : Trigger} {p : Platform}
    (hs : t.registered = true → t.sensor.isSome = true) : (t.update p).1.Guarded := by
  intro hr
  have hw : (t.update p).1.wanted p.settings = true := by
    rw [update_eq hs] at hr ⊢
    exact (Bool.and_eq_true_iff.mp hr).1
  exact guarded_of_wanted hw hr

theorem Step.guarded {i : Nat} {m : Subtype.Matcher} {a : Act} {t t' : Trigger} {p q : Platform}
    (h : t.Step i m a p t' q) (ht : t.Guarded) : t'.Guarded := by
  cases h with
  | passed h hp => exact ht
  | evaluated ha =>
    refine guarded_update fun hr => ?_
    rw [Act.registered_prepare t ha] at hr
    rw [sensor_of_bare (a.bare_prepare i t)]
    exact (ht hr).2.1
  | broken e ha hr hb => exact guarded_of_idle rfl
  | fired e ha hr hb => exact guarded_update fun h => by cases h

end Trigger

namespace World

variable {rs : List Requirement} {r : Registry} {w : World} {i : Nat}

theorem guarded_turn (hw : w.Built rs r) (hg : w.At i fun t _ => t.Guarded) (k : Turn) :
    (w.turn k).At i fun t _ => t.Guarded := by
  obtain ⟨o, rfl⟩ | ⟨-, h⟩ := w.turn_cases k
  · exact hg
  · rw [h]
    exact hg.perform hw fun a _ m t p t' q _ hs ht => hs.guarded ht

theorem guarded_run (hw : w.Built rs r) (hg : w.At i fun t _ => t.Guarded) (ts : List Turn) :
    (w.run ts).At i fun t _ => t.Guarded :=
  (run_keeps (P := fun v => v.Built rs r ∧ v.At i fun t _ => t.Guarded)
    (fun _ k hv => ⟨hv.1.turn k, guarded_turn hv.1 hv.2 k⟩) ⟨hw, hg⟩ ts).2

theorem guarded_assembled (m : Subtype.Matcher) (rs : List Requirement) (suppressible : Option Nat)
    (o : Observer) (p : Platform) (i : Nat) :
    (assembled m rs suppressible o p).At i fun t _ => t.Guarded :=
  fun _ ht => Trigger.guarded_of_idle (registered_assembled ht)

end World

end AmbientPulse
