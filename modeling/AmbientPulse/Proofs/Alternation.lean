import Mathlib.Data.List.Induction
import AmbientPulse.Proofs.Step

namespace AmbientPulse

namespace Mark

/-- A registration ends with its cancellation or with the pulse of the fire that used it up. -/
def Ends (k : Mark) : Prop :=
  k = .cancel ∨ k = .pulse

/-- Requests that are turned down leave no registration. -/
def counts (k : Mark) : Bool :=
  k ≠ .request false

/-- The only marks that may follow, and whether there is a registration after them. -/
def follow? : Bool → Mark → Option Bool
  | false, .request accepted => some accepted
  | true, .cancel => some false
  | true, .pulse => some false
  | _, _ => none

/-- A beginning of any number of rounds, each an accepted request and the end of its
registration. -/
def Alternating (ks : List Mark) : Prop :=
  ∃ ends : List Mark, (∀ k ∈ ends, k.Ends) ∧ ks <+: ends.flatMap fun k => [.request true, k]

theorem rounds_of_follow {ks : List Mark} {r : Bool} (h : ks.foldlM follow? false = some r) :
    ∃ ends : List Mark, (∀ k ∈ ends, k.Ends) ∧
      ks.filter counts =
        (ends.flatMap fun k => [.request true, k]) ++ if r then [.request true] else [] := by
  -- From the end, where the last mark meets the registration that the others have left.
  induction ks using List.reverseRecOn generalizing r with
  | nil =>
    obtain rfl : false = r := by simpa using h
    exact ⟨[], by simp, rfl⟩
  | append_singleton ks k ih =>
    rw [List.foldlM_append] at h
    obtain ⟨b, hb, hk⟩ := Option.bind_eq_some_iff.mp h
    obtain ⟨ends, he, hf⟩ := ih hb
    have hk' : follow? b k = some r := by simpa using hk
    rw [List.filter_append, hf]
    cases b with
    | false =>
      cases k with
      | request accepted =>
        obtain rfl : accepted = r := by simpa [follow?] using hk'
        refine ⟨ends, he, ?_⟩
        cases accepted <;> simp [counts]
      | cancel | pulse => simp [follow?] at hk'
    | true =>
      cases k with
      | request accepted => simp [follow?] at hk'
      | cancel | pulse =>
        obtain rfl : false = r := by simpa [follow?] using hk'
        refine ⟨ends ++ [_], ?_, by simp [counts]; rfl⟩
        simpa [or_imp, forall_and, Ends] using he

theorem alternating_of_follow {ks : List Mark} {r : Bool} (h : ks.foldlM follow? false = some r) :
    Alternating (ks.filter counts) := by
  obtain ⟨ends, he, hf⟩ := rounds_of_follow h
  rw [hf]
  cases r with
  | false => exact ⟨ends, he, by simp⟩
  | true => exact ⟨ends ++ [.cancel], by simpa [or_imp, forall_and, Ends] using he, by simp⟩

theorem last_of_follow {ks : List Mark} {r : Bool} (h : ks.foldlM follow? false = some r) :
    r = true ↔ (ks.filter counts).getLast? = some (.request true) := by
  obtain ⟨ends, he, hf⟩ := rounds_of_follow h
  rw [hf]
  cases r with
  | true => simp
  | false =>
    induction ends using List.reverseRecOn with
    | nil => simp
    | append_singleton ends k _ =>
      obtain rfl | rfl := he k (by simp) <;> simp

theorem end_between {xs ys zs : List Mark} {b r : Bool}
    (h : (xs ++ .request true :: ys ++ .request b :: zs).foldlM follow? false = some r) :
    ∃ k ∈ ys, k.Ends := by
  rw [List.append_assoc, List.foldlM_append] at h
  obtain ⟨c, -, h⟩ := Option.bind_eq_some_iff.mp h
  cases c with
  | true => simp [follow?] at h
  | false =>
    cases ys with
    | nil => simp [follow?] at h
    | cons k ys =>
      refine ⟨k, by simp, ?_⟩
      cases k with
      | request b' => simp [follow?] at h
      | cancel => exact .inl rfl
      | pulse => exact .inr rfl

end Mark

namespace Trigger

/-- The call of an update is one that may follow, and the registration keeps count of it. -/
theorem calls_follow (t : Trigger) (p : Platform) {i : Listener} (hl : t.listener = i) (b : Bool) :
    ((t.calls p).filterMap (Effect.mark? i b)).foldlM Mark.follow? t.registered =
      some (t.update p).1.registered := by
  obtain ⟨-, hu, hc⟩ | ⟨s, -, -, hr, hu, hc⟩ | ⟨s, -, -, hr, hu, hc⟩ := t.update_cases p <;>
    rw [hc, hu]
  · rfl
  · rw [hr]
    simp [Effect.mark?, hl, Mark.follow?, arm, Platform.request, Registry.request]
  · rw [hr]
    simp [Effect.mark?, hl, Mark.follow?, disarm]

theorem strike_marks (t : Trigger) (m : Subtype.Matcher) (e : Event) (i : Listener) :
    (t.strike m e).filterMap (Effect.mark? i true) = [.pulse] := by
  unfold strike
  split <;> rfl

theorem release_marks (i : Listener) (b : Bool) :
    [Effect.release].filterMap (Effect.mark? i b) = [] := rfl

theorem Step.follows {i : Nat} {m : Subtype.Matcher} {a : Act} {t t' : Trigger} {p q : Platform}
    (hl : t.listener = i) (h : t.Step i m a p t' q) :
    ∃ es, q.trace = p.trace ++ es ∧
      (es.filterMap (Effect.mark? i (a.delivers i))).foldlM Mark.follow? t.registered =
        some t'.registered := by
  cases h with
  | passed h hr =>
    obtain ⟨es, ht, hes⟩ := h.trace
    refine ⟨es, ht, ?_⟩
    rw [List.filterMap_eq_nil_iff.mpr hes]
    rfl
  | evaluated ha =>
    let u := a.prepare i t
    have hu : u.listener = i := (listener_of_bare (a.bare_prepare i t)).trans hl
    refine ⟨u.calls p, u.trace_update p, ?_⟩
    rw [← Act.registered_prepare t ha]
    exact u.calls_follow p hu _
  | broken e ha hr hb =>
    refine ⟨t.strike m e ++ [.release], by simp [trace_struck], ?_⟩
    rw [ha, show Act.delivers i (.deliver i e) = true by simp [Act.delivers],
      List.filterMap_append, strike_marks, release_marks, hr]
    rfl
  | fired e ha hr hb =>
    refine ⟨t.strike m e ++ t.spent.calls (t.struck m e p) ++ [.release], ?_, ?_⟩
    · simp [trace_struck, trace_update]
    · rw [ha, show Act.delivers i (.deliver i e) = true by simp [Act.delivers],
        List.filterMap_append, List.filterMap_append, strike_marks, release_marks, hr,
        List.append_nil, List.singleton_append]
      exact t.spent.calls_follow _ hl true

end Trigger

namespace World

variable {rs : List Requirement} {r : Registry} {i : Nat}

theorem perform_follows {w : World} (hw : w.Built rs r) {as : List Act} {b : Bool}
    (hb : ∀ a ∈ as, a.delivers i = b) {t : Trigger} (ht : w.bank.triggers[i]? = some t) :
    ∃ es t', (w.perform as).platform.trace = w.platform.trace ++ es ∧
      (w.perform as).bank.triggers[i]? = some t' ∧
      (es.filterMap (Effect.mark? i b)).foldlM Mark.follow? t.registered = some t'.registered := by
  induction as generalizing w t with
  | nil => exact ⟨[], t, by simp, ht, rfl⟩
  | cons a as ih =>
    obtain ⟨t₁, ht₁, hs⟩ := act_step hw.ordered a ht
    obtain ⟨es, he, hf⟩ := hs.follows (hw.ordered i t ht)
    obtain ⟨fs, t', he', ht', hf'⟩ := ih (hw.act a) (fun c hc => hb c (by simp [hc])) ht₁
    refine ⟨es ++ fs, t', ?_, ht', ?_⟩
    · rw [perform_cons, he', he, List.append_assoc]
    · rw [hb a (by simp)] at hf
      rw [List.filterMap_append, List.foldlM_append, hf]
      exact hf'

/-- The calls of a run that a trigger has to do with, in order. -/
def marks (i : Listener) : World → List Turn → List Mark
  | _, [] => []
  | w, t :: ts => (w.effects t).filterMap (Effect.mark? i (t.delivers i)) ++ marks i (w.turn t) ts

theorem turn_follows {w : World} (hw : w.Built rs r) (k : Turn) {t : Trigger}
    (ht : w.bank.triggers[i]? = some t) :
    ∃ t', (w.turn k).bank.triggers[i]? = some t' ∧
      ((w.effects k).filterMap (Effect.mark? i (k.delivers i))).foldlM Mark.follow? t.registered =
        some t'.registered := by
  obtain ⟨o, rfl⟩ | ⟨-, hp⟩ := w.turn_cases k
  · exact ⟨t, ht, by simp [effects, turn, outside]⟩
  · obtain ⟨es, t', he, ht', hf⟩ :=
      perform_follows hw (fun a (ha : a ∈ w.acts k) => delivers_of_mem_acts ha) ht
    rw [← hp] at he ht'
    refine ⟨t', ht', ?_⟩
    rw [effects, he, List.drop_left]
    exact hf

theorem run_follows {w : World} (hw : w.Built rs r) (ts : List Turn) {t : Trigger}
    (ht : w.bank.triggers[i]? = some t) :
    ∃ t', (w.run ts).bank.triggers[i]? = some t' ∧
      (w.marks i ts).foldlM Mark.follow? t.registered = some t'.registered := by
  induction ts generalizing w t with
  | nil => exact ⟨t, ht, rfl⟩
  | cons k ts ih =>
    obtain ⟨t₁, ht₁, hf₁⟩ := turn_follows hw k ht
    obtain ⟨t', ht', hf'⟩ := ih (hw.turn k) ht₁
    refine ⟨t', ht', ?_⟩
    rw [marks, List.foldlM_append, hf₁]
    exact hf'

/-- Whatever a bank is asked for and whatever happens around it, for each of its triggers accepted
requests take turns with cancellations and pulses, nothing is requested while there is a
registration, and the trigger is registered just when an accepted request came last. -/
theorem registrations_alternate (m : Subtype.Matcher) (rs : List Requirement)
    (suppressible : Option Nat) (o : Observer) (p : Platform) (ts : List Turn) {i : Nat}
    (hi : i < rs.length) :
    let w := assembled m rs suppressible o p
    let ks := w.marks i ts
    Mark.Alternating (ks.filter Mark.counts) ∧
      (∀ xs ys zs b, ks = xs ++ .request true :: ys ++ .request b :: zs → ∃ k ∈ ys, k.Ends) ∧
      ∃ t, (w.run ts).bank.triggers[i]? = some t ∧
        (t.registered = true ↔ (ks.filter Mark.counts).getLast? = some (.request true)) := by
  intro w ks
  have hw : w.Built rs p.registry := built_assembled m rs suppressible o p
  obtain ⟨t, ht⟩ := hw.trigger hi
  obtain ⟨t', ht', hf⟩ := run_follows hw ts ht
  rw [registered_assembled ht] at hf
  refine ⟨Mark.alternating_of_follow hf, ?_, t', ht', Mark.last_of_follow hf⟩
  intro xs ys zs b hks
  rw [show w.marks i ts = _ from hks] at hf
  exact Mark.end_between hf

theorem registrations_alternate_standard :
    let rs := ({} : Config).requirements
    let ts := [.command (.listen true), .command .rearm, .outside (.accepting false),
      .command (.deliver 1 ⟨⟨2, "Pickup Gesture", .pickUpGesture, ""⟩, 0, []⟩), .close]
    let w := assembled .admitNone rs (some Config.pickUpPosition) 1 .standard
    1 < rs.length ∧
      w.marks 1 ts = [.request true, .cancel, .request true, .pulse, .request false] ∧
      Mark.Alternating ((w.marks 1 ts).filter Mark.counts) := by
  intro rs ts w
  have h := registrations_alternate .admitNone rs (some Config.pickUpPosition) 1 .standard ts
    (show 1 < rs.length by decide)
  exact ⟨by decide, by decide +kernel, h.1⟩

end World

end AmbientPulse
