import AmbientPulse.Proofs.Step

namespace AmbientPulse

def Act.subscribes : Act → Bool
  | .attach _ => true
  | .detach => true
  | _ => false

namespace Watch

variable (w : Watch) (key : String) (scope : Scope) (p : Platform)

theorem mem_attach : key ∈ (w.attach key scope p).1.keys := by
  unfold attach
  split
  · next h => exact Std.ExtTreeSet.mem_iff_contains.mpr h
  · simp

end Watch

namespace World

theorem frame_change (w : World) {g : Trigger → Trigger}
    {f : Trigger → Platform → Trigger × Platform} (hf : Trigger.Evaluates g f) (i : Nat) :
    (w.change i f).platform.outlook = w.platform.outlook ∧
      (w.change i f).platform.settings = w.platform.settings ∧
      (w.change i f).bank.watch = w.bank.watch := by
  cases hi : w.bank.triggers[i]? with
  | none =>
    rw [change_none f hi]
    exact ⟨rfl, rfl, rfl⟩
  | some t =>
    rw [change_some f hi]
    obtain ⟨-, h⟩ | h := hf.cases t w.platform <;> simp [h, Bank.setTrigger]

theorem frame_deliver (w : World) (l : Listener) (e : Event) :
    (w.act (.deliver l e)).platform.outlook = w.platform.outlook ∧
      (w.act (.deliver l e)).platform.settings = w.platform.settings ∧
      (w.act (.deliver l e)).bank.watch = w.bank.watch := by
  obtain ⟨-, n, h⟩ | ⟨t, -, -, ⟨-, h⟩ | ⟨-, h⟩⟩ := w.deliver_cases l e <;> rw [h]
  · exact ⟨rfl, rfl, rfl⟩
  · simp [Bank.setTrigger]
  · simp [Bank.setTrigger]

theorem frame_act (w : World) {a : Act} (ha : a.subscribes = false) :
    (w.act a).platform.settings = w.platform.settings ∧ (w.act a).bank.watch = w.bank.watch := by
  cases a with
  | note n => exact ⟨rfl, rfl⟩
  | request i on => exact (w.frame_change (Trigger.evaluates_setRequested on) i).2
  | suppress i on => exact (w.frame_change (Trigger.evaluates_setDisabled on) i).2
  | update i => exact (w.frame_change Trigger.evaluates_update i).2
  | attach i => cases ha
  | detach => cases ha
  | deliver l e => exact (w.frame_deliver l e).2
  | shut => exact ⟨rfl, rfl⟩

/-- All that an act can do to the watch and to the store: subscribe to the setting of a trigger, or
drop all subscriptions. -/
theorem subscription_cases (w : World) (a : Act) :
    ((w.act a).bank.watch = w.bank.watch ∧
      (w.act a).platform.settings = w.platform.settings) ∨
    (∃ i t key, a = .attach i ∧ w.bank.triggers[i]? = some t ∧ t.configured = true ∧
      t.setting = some key ∧
      (w.act a).bank.watch = { w.bank.watch with keys := w.bank.watch.keys.insert key } ∧
      (w.act a).platform.settings =
        w.platform.settings.register w.bank.watch.observer key .all) ∨
    (a = .detach ∧ (w.act a).bank.watch = { w.bank.watch with keys := ∅ } ∧
      (w.act a).platform.settings = w.platform.settings.unregister w.bank.watch.observer) := by
  cases hs : a.subscribes with
  | false => exact .inl (w.frame_act hs).symm
  | true =>
    cases a with
    | attach i =>
      simp only [act]
      cases ht : w.bank.triggers[i]? with
      | none => exact .inl ⟨rfl, rfl⟩
      | some t =>
        simp only [Trigger.attach, Watch.attach]
        split
        · next key hc hk =>
          split
          · exact .inl ⟨rfl, rfl⟩
          · exact .inr (.inl ⟨i, t, key, rfl, ht, hc, hk, rfl, rfl⟩)
        · exact .inl ⟨rfl, rfl⟩
    | detach =>
      simp only [act, Watch.detach]
      split
      · exact .inr (.inr ⟨trivial, rfl, rfl⟩)
      · exact .inl ⟨rfl, rfl⟩
    | note | request | suppress | update | deliver | shut => cases hs

@[simp] theorem outlook_act (w : World) (a : Act) :
    (w.act a).platform.outlook = w.platform.outlook := by
  cases a with
  | note n => rfl
  | request i on => exact (w.frame_change (Trigger.evaluates_setRequested on) i).1
  | suppress i on => exact (w.frame_change (Trigger.evaluates_setDisabled on) i).1
  | update i => exact (w.frame_change Trigger.evaluates_update i).1
  | attach i =>
    simp only [act]
    cases w.bank.triggers[i]? with
    | none => rfl
    | some t => exact (Platform.Passed.attach (i := i) (b := false) t _ _).outlook
  | detach => exact (Platform.Passed.detach (i := 0) (b := false) _ _).outlook
  | deliver l e => exact (w.frame_deliver l e).1
  | shut => rfl

theorem outlook_perform (w : World) (as : List Act) :
    (w.perform as).platform.outlook = w.platform.outlook :=
  perform_keeps (P := fun v => v.platform.outlook = w.platform.outlook)
    (fun a _ v hv => (v.outlook_act a).trans hv) rfl

/-- The store knows of every key that the watch believes it watches. -/
def Subscribed (w : World) : Prop :=
  ∀ key ∈ w.bank.watch.keys, w.platform.settings.scopeOf? w.bank.watch.observer key = some .all

theorem Subscribed.act {w : World} (hw : w.Subscribed) (a : Act) : (w.act a).Subscribed := by
  intro key hk
  obtain ⟨hw', hs⟩ | ⟨i, t, new, -, -, -, -, hw', hs⟩ | ⟨-, hw', hs⟩ := w.subscription_cases a <;>
    rw [hw'] at hk ⊢ <;> rw [hs]
  · exact hw key hk
  · rw [Settings.scopeOf?_register]
    split
    · rfl
    · next hn =>
      refine hw key ((Std.ExtTreeSet.mem_insert.mp hk).resolve_left fun h => ?_)
      exact hn ⟨rfl, by simpa using h⟩
  · exact absurd hk Std.ExtTreeSet.not_mem_empty

@[simp] theorem observer_act (w : World) (a : Act) :
    (w.act a).bank.watch.observer = w.bank.watch.observer := by
  obtain ⟨h, -⟩ | ⟨i, t, key, -, -, -, -, h, -⟩ | ⟨-, h, -⟩ := w.subscription_cases a <;> rw [h]

/-- The watch knows of every key that the store has its observer down for. -/
def Confined (w : World) : Prop :=
  ∀ key scope, w.platform.settings.scopeOf? w.bank.watch.observer key = some scope →
    key ∈ w.bank.watch.keys

theorem Confined.act {w : World} (hw : w.Confined) (a : Act) : (w.act a).Confined := by
  intro key scope hk
  obtain ⟨hw', hs⟩ | ⟨i, t, new, -, -, -, -, hw', hs⟩ | ⟨-, hw', hs⟩ := w.subscription_cases a <;>
    rw [hw', hs] at hk <;> rw [hw']
  · exact hw key scope hk
  · rw [Settings.scopeOf?_register] at hk
    split at hk
    · next h => exact Std.ExtTreeSet.mem_insert.mpr (.inl (by simpa using h.2))
    · exact Std.ExtTreeSet.mem_insert.mpr (.inr (hw key scope hk))
  · rw [Settings.scopeOf?_unregister, if_pos rfl] at hk
    cases hk

/-- The watch has the setting of the trigger at a position among its keys, if the trigger is
configured. -/
def Watched (i : Nat) (w : World) : Prop :=
  ∀ t key, w.bank.triggers[i]? = some t → t.configured = true → t.setting = some key →
    key ∈ w.bank.watch.keys

theorem keys_act (w : World) {a : Act} (ha : a ≠ .detach) {key : String}
    (hk : key ∈ w.bank.watch.keys) : key ∈ (w.act a).bank.watch.keys := by
  obtain ⟨h, -⟩ | ⟨i, t, new, -, -, -, -, h, -⟩ | ⟨rfl, -⟩ := w.subscription_cases a
  · rwa [h]
  · rw [h]
    exact Std.ExtTreeSet.mem_insert.mpr (.inr hk)
  · exact absurd rfl ha

theorem Watched.act {i : Nat} {w : World} (hw : w.Ordered) {a : Act} (ha : a ≠ .detach)
    (h : w.Watched i) : (w.act a).Watched i := by
  intro t' key ht' hc hk
  obtain ⟨t, ht, hs⟩ := exists_step hw ht'
  have hb : t.configured = t'.configured := congrArg (fun v => v.configured) hs.bare_eq.symm
  have hg : t.setting = t'.setting := congrArg (fun v => v.setting) hs.bare_eq.symm
  exact w.keys_act ha (h t key ht (hb.trans hc) (hg.trans hk))

theorem watched_attach (w : World) (i : Nat) : (w.act (.attach i)).Watched i := by
  intro t key ht hc hk
  simp only [World.act] at ht ⊢
  cases hi : w.bank.triggers[i]? with
  | none => simp [hi] at ht
  | some u =>
    simp only [hi] at ht ⊢
    obtain rfl : u = t := Option.some.inj ht
    simp only [Trigger.attach, hc, hk]
    exact Watch.mem_attach _ key _ _

def Requested (b : Bool) (i : Nat) (w : World) : Prop :=
  w.At i fun t _ => t.requested = b

theorem Requested.act {b : Bool} {i : Nat} {w : World} (hw : w.Ordered) {a : Act}
    (ha : ∀ on, a = .request i on → on = b) (h : w.Requested b i) : (w.act a).Requested b i := by
  intro t' ht'
  obtain ⟨t, ht, hs⟩ := exists_step hw ht'
  rw [hs.requested]
  cases a with
  | request j on =>
    rw [Act.prepare]
    split
    · next hji => exact ha on (by rw [hji])
    · exact h t ht
  | suppress j on | deliver j e =>
    rw [Act.prepare]
    split
    · exact h t ht
    · exact h t ht
  | note | update | attach | detach | shut => exact h t ht

theorem requested_request {w : World} (hw : w.Ordered) (i : Nat) (on : Bool) :
    (w.act (.request i on)).Requested on i := by
  intro t' ht'
  obtain ⟨t, ht, hs⟩ := exists_step hw ht'
  rw [hs.requested, Act.prepare, if_pos rfl]

theorem detach_mem_commandActs {w : World} {c : Command} (h : .detach ∈ w.commandActs c) :
    c = .listen false := by
  cases c with
  | listen on => cases on <;> grind [commandActs, mem_forEach]
  | deliver | settingChanged | userSwitched | rearm | suppress =>
    grind [commandActs, mem_forEach]

theorem request_mem_commandActs {w : World} {c : Command} {i : Nat} {on : Bool}
    (h : .request i on ∈ w.commandActs c) : c = .listen on ∨ c = .rearm := by
  cases c with
  | listen on => cases on <;> grind [commandActs, mem_forEach]
  | deliver | settingChanged | userSwitched | rearm | suppress =>
    grind [commandActs, mem_forEach]

section Commands

variable {rs : List Requirement} {r : Registry} {w : World} {i : Nat}

theorem lt_of_perform {as : List Act} {t : Trigger}
    (ht : (w.perform as).bank.triggers[i]? = some t) : i < w.bank.triggers.length := by
  rw [← w.length_perform as]
  exact (List.getElem?_eq_some_iff.mp ht).1

theorem requested_perform (hw : w.Built rs r) {as : List Act} {on : Bool}
    (hm : .request i on ∈ as) (hk : ∀ b, .request i b ∈ as → b = on) :
    (w.perform as).Requested on i :=
  perform_establishes (Q := fun v => v.Built rs r) hm (fun a _ _ hv => hv.act a)
    (fun _ hv => requested_request hv.ordered i on)
    (fun _ ha _ hv h => h.act hv.ordered fun b hb => hk b (hb ▸ ha)) hw

theorem requested_listen (hw : w.Built rs r) (on : Bool) :
    (w.perform (w.commandActs (.listen on))).Requested on i := by
  intro t ht
  have hi := lt_of_perform ht
  have hm : .request i on ∈ w.commandActs (.listen on) := by
    cases on <;> simp [commandActs, mem_forEach, hi]
  refine requested_perform hw hm (fun b hb => ?_) t ht
  obtain h | h := request_mem_commandActs hb
  · exact (Command.listen.inj h).symm
  · cases h

theorem requested_rearm (hw : w.Built rs r) :
    (w.perform (w.commandActs .rearm)).Requested true i := by
  intro t ht
  have hi := lt_of_perform ht
  rw [commandActs, perform_append] at ht
  have hv : (w.perform (w.forEach fun j => [.request j false])).Built rs r :=
    perform_keeps (fun a _ _ hv => hv.act a) hw
  refine requested_perform hv ?_ (fun b hb => ?_) t ht
  · simp [mem_forEach, hi]
  · obtain ⟨j, -, hj⟩ := mem_forEach.mp hb
    obtain ⟨-, rfl⟩ := Act.request.inj (List.mem_singleton.mp hj)
    rfl

theorem requested_kept (hw : w.Built rs r) {c : Command} (hl : ∀ on, c ≠ .listen on)
    (hr : c ≠ .rearm) {b : Bool} (h : w.Requested b i) :
    (w.perform (w.commandActs c)).Requested b i := by
  refine (perform_keeps (P := fun v => v.Built rs r ∧ v.Requested b i)
    (fun a ha v hv => ⟨hv.1.act a, hv.2.act hv.1.ordered fun on he => ?_⟩) ⟨hw, h⟩).2
  obtain hc | hc := request_mem_commandActs (he ▸ ha)
  · exact absurd hc (hl on)
  · exact absurd hc hr

theorem watched_listen (hw : w.Built rs r) :
    (w.perform (w.commandActs (.listen true))).Watched i := by
  intro t key ht
  have hi := lt_of_perform ht
  have hm : .attach i ∈ w.commandActs (.listen true) := by simp [commandActs, mem_forEach, hi]
  refine perform_establishes (Q := fun v => v.Built rs r) (P := fun v => v.Watched i) hm
    (fun a _ _ hv => hv.act a) (fun v _ => v.watched_attach i) (fun a ha v hv h => ?_) hw t key ht
  refine h.act hv.ordered fun he => ?_
  cases detach_mem_commandActs (he ▸ ha)

theorem watched_kept (hw : w.Built rs r) {c : Command} (hc : c ≠ .listen false)
    (h : w.Watched i) : (w.perform (w.commandActs c)).Watched i :=
  (perform_keeps (P := fun v => v.Built rs r ∧ v.Watched i)
    (fun a ha _ hv => ⟨hv.1.act a, hv.2.act hv.1.ordered fun he =>
      hc (detach_mem_commandActs (he ▸ ha))⟩) ⟨hw, h⟩).2

end Commands

end World

end AmbientPulse
