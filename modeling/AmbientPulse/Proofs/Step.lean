import AmbientPulse.Proofs.Act

namespace AmbientPulse

/-- A call as one trigger sees it: its own request or cancellation, or a pulse for it. -/
inductive Mark where
  | request (accepted : Bool)
  | cancel
  | pulse
  deriving DecidableEq, Repr

/-- A pulse names no listener. It is for the trigger that a fire is being delivered to. -/
def Effect.mark? (i : Listener) (delivering : Bool) : Effect → Option Mark
  | .request l _ accepted => if l = i then some (.request accepted) else none
  | .cancel l _ _ => if l = i then some .cancel else none
  | .pulse _ _ => if delivering then some .pulse else none
  | _ => none

def Act.delivers (i : Listener) : Act → Bool
  | .deliver l _ => l == i
  | _ => false

/-- Acts that have to do with the trigger at a position. -/
def Act.concerns (i : Nat) : Act → Bool
  | .request j _ => j == i
  | .suppress j _ => j == i
  | .update j => j == i
  | .deliver l _ => l == i
  | _ => false

/-- The trigger at a position as an act has it when it comes to an update: with its flag set, or
with its registration used up. -/
def Act.prepare (i : Nat) (t : Trigger) : Act → Trigger
  | .request j on => if j = i then { t with requested := on } else t
  | .suppress j on => if j = i then { t with disabled := on } else t
  | .deliver l _ => if l = i then t.spent else t
  | _ => t

@[simp] theorem Act.bare_prepare (i : Nat) (t : Trigger) (a : Act) :
    (a.prepare i t).bare = t.bare := by
  cases a with
  | request | suppress | deliver =>
    simp only [prepare]
    split <;> rfl
  | note | update | attach | detach | shut => rfl

theorem Act.registered_prepare {i : Nat} (t : Trigger) {a : Act} (ha : a.delivers i = false) :
    (a.prepare i t).registered = t.registered := by
  cases a with
  | request | suppress =>
    simp only [prepare]
    split <;> rfl
  | deliver l e =>
    rw [prepare, if_neg (by simpa [delivers] using ha)]
  | note | update | attach | detach | shut => rfl

theorem Act.spent_of_prepare {i : Nat} {t : Trigger} {a : Act} (ha : a.delivers i = true)
    (ht : a.prepare i t = t) : t.registered = false := by
  cases a with
  | deliver l e =>
    rw [prepare, if_pos (by simpa [delivers] using ha)] at ht
    rw [← ht]
    rfl
  | note | request | suppress | update | attach | detach | shut => cases ha

/-- What a trigger notices of a platform on which the bank was busy with something else: nothing. -/
structure Platform.Passed (i : Listener) (delivering : Bool) (p q : Platform) : Prop where
  outlook : q.outlook = p.outlook
  armed : q.registry.armed[i]? = p.registry.armed[i]?
  trace : ∃ es, q.trace = p.trace ++ es ∧ ∀ e ∈ es, e.mark? i delivering = none

namespace Platform.Passed

variable {i : Listener} {b : Bool} {p q r : Platform}

theorem quiet (ho : q.outlook = p.outlook) (hr : q.registry = p.registry)
    (ht : q.trace = p.trace) : p.Passed i b q :=
  ⟨ho, by rw [hr], [], by simp [ht], by simp⟩

theorem refl (p : Platform) : p.Passed i b p :=
  quiet rfl rfl rfl

theorem trans (h : p.Passed i b q) (h' : q.Passed i b r) : p.Passed i b r := by
  obtain ⟨es, he, hes⟩ := h.trace
  obtain ⟨fs, hf, hfs⟩ := h'.trace
  refine ⟨h'.outlook.trans h.outlook, h'.armed.trans h.armed, es ++ fs, ?_, ?_⟩
  · rw [hf, he, List.append_assoc]
  · simpa [or_imp, forall_and] using ⟨hes, hfs⟩

theorem update (t : Trigger) (p : Platform) (hl : t.listener ≠ i) :
    p.Passed i b (t.update p).2 := by
  refine ⟨t.outlook_update p, t.armed_update p hl, t.calls p, t.trace_update p, ?_⟩
  obtain ⟨-, -, hc⟩ | ⟨s, -, -, -, -, hc⟩ | ⟨s, -, -, -, -, hc⟩ := t.update_cases p <;>
    simp [hc, Effect.mark?, hl]

theorem struck (t : Trigger) (m : Subtype.Matcher) (e : Event) (p : Platform) :
    p.Passed i false (t.struck m e p) := by
  refine ⟨t.outlook_struck m e p, by simp, t.strike m e, t.trace_struck m e p, ?_⟩
  unfold Trigger.strike
  split <;> simp [Effect.mark?]

theorem release (p : Platform) : p.Passed i b p.release :=
  ⟨rfl, rfl, [.release], rfl, by simp [Effect.mark?]⟩

theorem attach (t : Trigger) (w : Watch) (p : Platform) : p.Passed i b (t.attach w p).2 := by
  unfold Trigger.attach Watch.attach
  split
  · split
    · exact refl p
    · exact ⟨rfl, rfl, [.observe _ _ _], rfl, by simp [Effect.mark?]⟩
  · exact refl p

theorem detach (w : Watch) (p : Platform) : p.Passed i b (w.detach p).2 := by
  unfold Watch.detach
  split
  · exact ⟨rfl, rfl, [.unobserve _], rfl, by simp [Effect.mark?]⟩
  · exact refl p

end Platform.Passed

/-- All that an act can do to the trigger at a position and to the platform. -/
inductive Trigger.Step (i : Nat) (m : Subtype.Matcher) (a : Act) (t : Trigger) (p : Platform) :
    Trigger → Platform → Prop
  | passed {q : Platform} (h : p.Passed i (a.delivers i) q) (ht : a.prepare i t = t) :
      Step i m a t p t q
  | evaluated (ha : a.delivers i = false) :
      Step i m a t p ((a.prepare i t).update p).1 ((a.prepare i t).update p).2
  | broken (e : Event) (ha : a = .deliver i e) (hr : t.registered = true)
      (hb : p.callback.breaking = true) : Step i m a t p t.spent (t.struck m e p).release
  | fired (e : Event) (ha : a = .deliver i e) (hr : t.registered = true)
      (hb : p.callback.breaking = false) :
      Step i m a t p (t.spent.update (t.struck m e p)).1 (t.spent.update (t.struck m e p)).2.release

namespace Trigger.Step

variable {i : Nat} {m : Subtype.Matcher} {a : Act} {t t' : Trigger} {p q : Platform}

theorem bare_eq (h : t.Step i m a p t' q) : t'.bare = t.bare := by
  cases h with
  | passed h ht => rfl
  | evaluated ha => simp
  | broken e ha hr hb => rfl
  | fired e ha hr hb => simp

/-- No update and no fire interferes with what is asked of a trigger. -/
theorem requested (h : t.Step i m a p t' q) : t'.requested = (a.prepare i t).requested := by
  cases h with
  | passed h ht => rw [ht]
  | evaluated ha => simp
  | broken e ha hr hb =>
    rw [ha]
    simp [Act.prepare]
  | fired e ha hr hb =>
    rw [ha]
    simp [Act.prepare]

end Trigger.Step

namespace World

theorem delivers_of_mem_commandActs {i : Listener} {w : World} {c : Command} {a : Act}
    (h : a ∈ w.commandActs c) : a.delivers i = Turn.delivers i (.command c) := by
  cases c with
  | deliver l e =>
    obtain rfl := List.mem_singleton.mp h
    rfl
  | settingChanged c => grind [commandActs, mem_forEach, Act.delivers, Turn.delivers]
  | userSwitched => grind [commandActs, mem_forEach, Act.delivers, Turn.delivers]
  | listen on => cases on <;> grind [commandActs, mem_forEach, Act.delivers, Turn.delivers]
  | rearm => grind [commandActs, mem_forEach, Act.delivers, Turn.delivers]
  | suppress on =>
    obtain ⟨j, -, rfl⟩ := List.mem_map.mp h
    rfl

/-- Only the delivery of a fire is performed by one. -/
theorem delivers_of_mem_acts {i : Listener} {w : World} {t : Turn} {a : Act} (h : a ∈ w.acts t) :
    a.delivers i = t.delivers i := by
  cases t with
  | command c =>
    simp only [acts] at h
    split at h
    · cases h
    · exact delivers_of_mem_commandActs h
  | close =>
    simp only [acts] at h
    split at h
    · cases h
    · obtain h | h := List.mem_append.mp h
      · exact delivers_of_mem_commandActs h
      · obtain rfl := List.mem_singleton.mp h
        rfl
  | outside o => cases h

def Ordered (w : World) : Prop :=
  ∀ (i : Nat) (t : Trigger), w.bank.triggers[i]? = some t → t.listener = i

theorem change_none {w : World} {i : Nat} (f : Trigger → Platform → Trigger × Platform)
    (h : w.bank.triggers[i]? = none) : w.change i f = w := by
  simp [change, h]

theorem change_some {w : World} {i : Nat} {t : Trigger}
    (f : Trigger → Platform → Trigger × Platform) (h : w.bank.triggers[i]? = some t) :
    w.change i f =
      { w with bank := w.bank.setTrigger i (f t w.platform).1, platform := (f t w.platform).2 } := by
  simp [change, h]

theorem getElem?_setTrigger {b : Bank} {i : Nat} {t : Trigger} (u : Trigger)
    (h : b.triggers[i]? = some t) : (b.setTrigger i u).triggers[i]? = some u := by
  obtain ⟨hi, -⟩ := List.getElem?_eq_some_iff.mp h
  simp [Bank.setTrigger, hi]

theorem getElem?_setTrigger_ne {b : Bank} {i j : Nat} (u : Trigger) (h : j ≠ i) :
    (b.setTrigger j u).triggers[i]? = b.triggers[i]? := by
  simp [Bank.setTrigger, h]

/-- A change of one trigger is nothing that another one notices. -/
theorem change_passed {w : World} (hw : w.Ordered) {g : Trigger → Trigger}
    {f : Trigger → Platform → Trigger × Platform} (hf : Trigger.Evaluates g f) {i j : Nat}
    (hji : j ≠ i) (b : Bool) :
    (w.change j f).bank.triggers[i]? = w.bank.triggers[i]? ∧
      w.platform.Passed i b (w.change j f).platform := by
  cases hj : w.bank.triggers[j]? with
  | none =>
    rw [change_none f hj]
    exact ⟨rfl, .refl _⟩
  | some s =>
    rw [change_some f hj]
    refine ⟨getElem?_setTrigger_ne _ hji, ?_⟩
    obtain ⟨-, h⟩ | h := hf.cases s w.platform
    · rw [h]
      exact .refl _
    · rw [h]
      refine .update (g s) _ ?_
      rw [Trigger.listener_of_bare (hf.bare_eq s), hw j s hj]
      exact hji

theorem change_step {w : World} (hw : w.Ordered) (m : Subtype.Matcher) {a : Act}
    {g : Trigger → Trigger} {f : Trigger → Platform → Trigger × Platform}
    (hf : Trigger.Evaluates g f) (j : Nat) {i : Nat} {t : Trigger} (ha : a.delivers i = false)
    (hg : a.prepare i t = if j = i then g t else t) (ht : w.bank.triggers[i]? = some t) :
    ∃ t', (w.change j f).bank.triggers[i]? = some t' ∧
      t.Step i m a w.platform t' (w.change j f).platform := by
  by_cases hji : j = i
  · subst hji
    rw [if_pos rfl] at hg
    rw [change_some f ht]
    refine ⟨_, getElem?_setTrigger _ ht, ?_⟩
    obtain ⟨hs, h⟩ | h := hf.cases t w.platform
    · rw [h]
      exact .passed (.refl _) (hg.trans hs)
    · rw [h, ← hg]
      exact .evaluated ha
  · obtain ⟨hs, hp⟩ := change_passed hw hf hji (a.delivers i)
    exact ⟨t, hs.trans ht, .passed hp (hg.trans (if_neg hji))⟩

theorem deliver_cases (w : World) (l : Listener) (e : Event) :
    ((∀ t, w.bank.triggers[l]? = some t → t.registered = false) ∧
      ∃ n, w.act (.deliver l e) = { w with platform := w.platform.note n }) ∨
    ∃ t, w.bank.triggers[l]? = some t ∧ t.registered = true ∧
      let q := t.struck w.bank.matcher e w.platform
      (w.platform.callback.breaking = true ∧
        w.act (.deliver l e) =
          { w with bank := w.bank.setTrigger l t.spent, platform := q.release }) ∨
      (w.platform.callback.breaking = false ∧
        w.act (.deliver l e) =
          { w with bank := w.bank.setTrigger l (t.spent.update q).1
                   platform := (t.spent.update q).2.release }) := by
  simp only [act, Bank.deliver]
  cases hl : w.bank.triggers[l]? with
  | none => exact .inl ⟨by simp, .unknownListener l, rfl⟩
  | some t =>
    cases hr : t.registered with
    | false =>
      refine .inl ⟨fun u hu => ?_, .staleFire l e, by simp [hr]⟩
      rw [← Option.some.inj hu, hr]
    | true =>
      refine .inr ⟨t, rfl, hr, ?_⟩
      cases hb : w.platform.callback.breaking with
      | true =>
        obtain ⟨h1, h2⟩ := t.fire_broken w.bank.matcher e hb
        exact .inl ⟨rfl, by simp [hr, h1, h2]⟩
      | false =>
        obtain ⟨h1, h2⟩ := t.fire_whole w.bank.matcher e hb
        exact .inr ⟨rfl, by simp [hr, h1, h2]⟩

/-- A fire that is delivered to one trigger is nothing that another one notices. -/
theorem deliver_passed {w : World} (hw : w.Ordered) {l : Listener} (e : Event) {i : Nat}
    (hli : l ≠ i) :
    (w.act (.deliver l e)).bank.triggers[i]? = w.bank.triggers[i]? ∧
      w.platform.Passed i false (w.act (.deliver l e)).platform := by
  obtain ⟨-, n, h⟩ | ⟨s, hl, -, ⟨-, h⟩ | ⟨-, h⟩⟩ := w.deliver_cases l e
  · rw [h]
    exact ⟨rfl, .quiet rfl rfl rfl⟩
  · rw [h]
    refine ⟨getElem?_setTrigger_ne _ hli, ?_⟩
    exact (Platform.Passed.struck s _ e _).trans (.release _)
  · rw [h]
    have hs : s.spent.listener ≠ i := by
      rw [show s.spent.listener = l from hw l s hl]
      exact hli
    refine ⟨getElem?_setTrigger_ne _ hli, ?_⟩
    exact ((Platform.Passed.struck s _ e _).trans (.update s.spent _ hs)).trans (.release _)

theorem deliver_step {w : World} (hw : w.Ordered) (l : Listener) (e : Event) {i : Nat}
    {t : Trigger} (ht : w.bank.triggers[i]? = some t) :
    ∃ t', (w.act (.deliver l e)).bank.triggers[i]? = some t' ∧
      t.Step i w.bank.matcher (.deliver l e) w.platform t' (w.act (.deliver l e)).platform := by
  by_cases hli : l = i
  · subst hli
    obtain ⟨hr, n, h⟩ | ⟨s, hl, hr, h⟩ := w.deliver_cases l e
    · rw [h]
      refine ⟨t, ht, .passed (.quiet rfl rfl rfl) ?_⟩
      rw [Act.prepare, if_pos rfl, Trigger.spent, ← hr t ht]
    · obtain rfl : s = t := Option.some.inj (hl.symm.trans ht)
      obtain ⟨hb, h⟩ | ⟨hb, h⟩ := h
      · rw [h]
        exact ⟨_, getElem?_setTrigger _ hl, .broken e rfl hr hb⟩
      · rw [h]
        exact ⟨_, getElem?_setTrigger _ hl, .fired e rfl hr hb⟩
  · have hd : Act.delivers i (.deliver l e) = false := by simpa [Act.delivers] using hli
    obtain ⟨hs, hp⟩ := deliver_passed hw e hli
    rw [← hd] at hp
    exact ⟨t, hs.trans ht, .passed hp (if_neg hli)⟩

/-- Seen from one trigger, every act is a step of it. -/
theorem act_step {w : World} (hw : w.Ordered) (a : Act) {i : Nat} {t : Trigger}
    (ht : w.bank.triggers[i]? = some t) :
    ∃ t', (w.act a).bank.triggers[i]? = some t' ∧
      t.Step i w.bank.matcher a w.platform t' (w.act a).platform := by
  cases a with
  | note n => exact ⟨t, ht, .passed (.quiet rfl rfl rfl) rfl⟩
  | request j on => exact change_step hw _ (Trigger.evaluates_setRequested on) j rfl rfl ht
  | suppress j on => exact change_step hw _ (Trigger.evaluates_setDisabled on) j rfl rfl ht
  | update j => exact change_step hw _ Trigger.evaluates_update j rfl (ite_self t).symm ht
  | attach j =>
    simp only [act]
    cases w.bank.triggers[j]? with
    | none => exact ⟨t, ht, .passed (.refl _) rfl⟩
    | some s => exact ⟨t, ht, .passed (.attach s _ _) rfl⟩
  | detach => exact ⟨t, ht, .passed (.detach _ _) rfl⟩
  | deliver l e => exact deliver_step hw l e ht
  | shut => exact ⟨t, ht, .passed (.refl _) rfl⟩

/-- An act that does not concern a trigger is nothing that it notices. -/
theorem act_passed {w : World} (hw : w.Ordered) {a : Act} {i : Nat} (ha : a.concerns i = false) :
    (w.act a).bank.triggers[i]? = w.bank.triggers[i]? ∧
      w.platform.Passed i false (w.act a).platform := by
  cases a with
  | note n => exact ⟨rfl, .quiet rfl rfl rfl⟩
  | request j on =>
    exact change_passed hw (Trigger.evaluates_setRequested on) (by simpa [Act.concerns] using ha) _
  | suppress j on =>
    exact change_passed hw (Trigger.evaluates_setDisabled on) (by simpa [Act.concerns] using ha) _
  | update j =>
    exact change_passed hw Trigger.evaluates_update (by simpa [Act.concerns] using ha) _
  | attach j =>
    simp only [act]
    cases w.bank.triggers[j]? with
    | none => exact ⟨rfl, .refl _⟩
    | some s => exact ⟨rfl, .attach s _ _⟩
  | detach => exact ⟨rfl, .detach _ _⟩
  | deliver l e => exact deliver_passed hw e (by simpa [Act.concerns] using ha)
  | shut => exact ⟨rfl, .refl _⟩

/-- For a listener without a trigger no act arms or disarms anything. -/
theorem armed_act_vacant {w : World} (hw : w.Ordered) (a : Act) {i : Nat}
    (hi : w.bank.triggers[i]? = none) :
    (w.act a).platform.registry.armed[i]? = w.platform.registry.armed[i]? := by
  cases hc : a.concerns i with
  | false => exact (act_passed hw hc).2.armed
  | true =>
    cases a with
    | request j on | suppress j on | update j =>
      obtain rfl : j = i := by simpa [Act.concerns] using hc
      simp only [act, change_none _ hi]
    | deliver l e =>
      obtain rfl : l = i := by simpa [Act.concerns] using hc
      obtain ⟨-, n, h⟩ | ⟨t, ht, -⟩ := w.deliver_cases l e
      · rw [h]
        rfl
      · rw [hi] at ht
        cases ht
    | note | attach | detach | shut => cases hc

theorem length_change (w : World) (i : Nat) (f : Trigger → Platform → Trigger × Platform) :
    (w.change i f).bank.triggers.length = w.bank.triggers.length := by
  unfold change
  split <;> simp [Bank.setTrigger]

theorem length_act (w : World) (a : Act) :
    (w.act a).bank.triggers.length = w.bank.triggers.length := by
  cases a with
  | request i on | suppress i on | update i => exact length_change w i _
  | attach i =>
    simp only [act]
    split <;> rfl
  | deliver l e =>
    simp only [act, Bank.deliver]
    split
    · rfl
    · split <;> simp [Bank.setTrigger]
  | note n | detach | shut => rfl

theorem length_perform (w : World) (as : List Act) :
    (w.perform as).bank.triggers.length = w.bank.triggers.length :=
  perform_keeps (P := fun v => v.bank.triggers.length = w.bank.triggers.length)
    (fun a _ v hv => (v.length_act a).trans hv) rfl

theorem forEach_perform (w : World) (as : List Act) (f : Nat → List Act) :
    (w.perform as).forEach f = w.forEach f := by
  rw [forEach, length_perform, forEach]

theorem exists_step {w : World} (hw : w.Ordered) {a : Act} {i : Nat} {t' : Trigger}
    (ht' : (w.act a).bank.triggers[i]? = some t') :
    ∃ t, w.bank.triggers[i]? = some t ∧
      t.Step i w.bank.matcher a w.platform t' (w.act a).platform := by
  cases ht : w.bank.triggers[i]? with
  | none =>
    have hn : (w.act a).bank.triggers[i]? = none := by
      rw [List.getElem?_eq_none_iff, length_act, ← List.getElem?_eq_none_iff, ht]
    rw [hn] at ht'
    cases ht'
  | some t =>
    obtain ⟨u, hu, hs⟩ := act_step hw a ht
    obtain rfl : u = t' := Option.some.inj (hu.symm.trans ht')
    exact ⟨t, rfl, hs⟩

/-- Every trigger of the world is what a requirement and a registry once made of it, apart from its
flags. -/
def Built (rs : List Requirement) (r : Registry) (w : World) : Prop :=
  ∀ i : Nat, w.bank.triggers[i]?.map Trigger.bare = rs[i]?.map (Trigger.ofRequirement r i)

theorem built_assembled (m : Subtype.Matcher) (rs : List Requirement) (suppressible : Option Nat)
    (o : Observer) (p : Platform) : (assembled m rs suppressible o p).Built rs p.registry := by
  intro i
  simp only [assembled, Bank.assemble, List.getElem?_mapIdx]
  cases rs[i]? <;> rfl

theorem trigger_assembled {m : Subtype.Matcher} {rs : List Requirement}
    {suppressible : Option Nat} {o : Observer} {p : Platform} {i : Nat} {t : Trigger}
    (ht : (assembled m rs suppressible o p).bank.triggers[i]? = some t) :
    ∃ q, rs[i]? = some q ∧ Trigger.ofRequirement p.registry i q = t := by
  simpa only [assembled, Bank.assemble, List.getElem?_mapIdx, Option.map_eq_some_iff] using ht

theorem registered_assembled {m : Subtype.Matcher} {rs : List Requirement}
    {suppressible : Option Nat} {o : Observer} {p : Platform} {i : Nat} {t : Trigger}
    (ht : (assembled m rs suppressible o p).bank.triggers[i]? = some t) : t.registered = false := by
  obtain ⟨q, -, rfl⟩ := trigger_assembled ht
  rfl

namespace Built

variable {rs : List Requirement} {r : Registry} {w : World}

theorem requirement (hw : w.Built rs r) {i : Nat} {t : Trigger}
    (ht : w.bank.triggers[i]? = some t) :
    ∃ q, rs[i]? = some q ∧ t.bare = Trigger.ofRequirement r i q := by
  have h := hw i
  rw [ht] at h
  obtain ⟨q, hq, he⟩ := Option.map_eq_some_iff.mp h.symm
  exact ⟨q, hq, he.symm⟩

theorem trigger (hw : w.Built rs r) {i : Nat} (hi : i < rs.length) :
    ∃ t, w.bank.triggers[i]? = some t := by
  have h := hw i
  rw [List.getElem?_eq_getElem hi] at h
  obtain ⟨t, ht, -⟩ := Option.map_eq_some_iff.mp h
  exact ⟨t, ht⟩

theorem ordered (hw : w.Built rs r) : w.Ordered := by
  intro i t ht
  obtain ⟨q, -, hq⟩ := hw.requirement ht
  exact congrArg (fun v => v.listener) hq

theorem sensor (hw : w.Built rs r) {i : Nat} {t : Trigger} (ht : w.bank.triggers[i]? = some t) :
    t.sensor = rs[i]?.bind fun q => q.source.resolve? r := by
  obtain ⟨q, hq, he⟩ := hw.requirement ht
  rw [hq]
  exact congrArg (fun v => v.sensor) he

theorem act (hw : w.Built rs r) (a : Act) : (w.act a).Built rs r := by
  intro i
  rw [← hw i]
  cases ht : (w.act a).bank.triggers[i]? with
  | none =>
    have hn : w.bank.triggers[i]? = none := by
      rw [List.getElem?_eq_none_iff, ← length_act w a, ← List.getElem?_eq_none_iff, ht]
    rw [hn]
  | some t' =>
    obtain ⟨t, ht, hs⟩ := exists_step hw.ordered ht
    rw [ht, Option.map_some, Option.map_some, hs.bare_eq]

theorem turn (hw : w.Built rs r) (t : Turn) : (w.turn t).Built rs r :=
  turn_keeps (fun _ a hv => hv.act a) (fun _ _ hv => hv) hw t

theorem run (hw : w.Built rs r) (ts : List Turn) : (w.run ts).Built rs r :=
  run_keeps (fun _ t hv => hv.turn t) hw ts

end Built

/-- Something that holds of the trigger at a position, if there is one, and of the platform. -/
def At (i : Nat) (P : Trigger → Platform → Prop) (w : World) : Prop :=
  ∀ t, w.bank.triggers[i]? = some t → P t w.platform

namespace At

variable {P : Trigger → Platform → Prop} {i : Nat} {rs : List Requirement} {r : Registry}
  {w : World}

theorem act (hw : w.Ordered) (hP : w.At i P) {a : Act}
    (h : ∀ m t p t' q, t.listener = i → t.Step i m a p t' q → P t p → P t' q) :
    (w.act a).At i P := by
  intro t' ht'
  obtain ⟨t, ht, hs⟩ := exists_step hw ht'
  exact h _ t _ t' _ (hw i t ht) hs (hP t ht)

theorem perform (hw : w.Built rs r) (hP : w.At i P) {as : List Act}
    (h : ∀ a ∈ as, ∀ m t p t' q, t.listener = i → t.Step i m a p t' q → P t p → P t' q) :
    (w.perform as).At i P :=
  (perform_keeps (P := fun v => v.Built rs r ∧ v.At i P)
    (fun a ha _ hv => ⟨hv.1.act a, hv.2.act hv.1.ordered (h a ha)⟩) ⟨hw, hP⟩).2

end At

end World

end AmbientPulse
