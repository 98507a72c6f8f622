import AmbientPulse.Proofs.Subscription

namespace AmbientPulse

/-- What the owner of a bank has last had it do. Being rearmed makes a bank busy that does not
listen. -/
inductive Attention where
  | idle
  | listening
  | rearmed
  | gone
  deriving DecidableEq, Repr

namespace Attention

def after : Attention → Turn → Attention
  | .gone, _ => .gone
  | _, .close => .gone
  | _, .command (.listen on) => if on then .listening else .idle
  | .idle, .command .rearm => .rearmed
  | a, _ => a

def ofRun (ts : List Turn) : Attention :=
  ts.foldl after .idle

def busy : Attention → Bool
  | .listening => true
  | .rearmed => true
  | _ => false

@[simp] theorem after_close (a : Attention) : a.after .close = .gone := by
  cases a <;> rfl

@[simp] theorem after_outside (a : Attention) (o : Outside) : a.after (.outside o) = a := by
  cases a <;> rfl

theorem after_listen {a : Attention} (ha : a ≠ .gone) (on : Bool) :
    a.after (.command (.listen on)) = if on then .listening else .idle := by
  cases a with
  | gone => exact absurd rfl ha
  | idle | listening | rearmed => rfl

theorem busy_rearm {a : Attention} (ha : a ≠ .gone) : (a.after (.command .rearm)).busy = true := by
  cases a with
  | gone => exact absurd rfl ha
  | idle | listening | rearmed => rfl

/-- A bank does not come to listen by being rearmed, nor does it stop. -/
theorem after_rearm_listening (a : Attention) :
    a.after (.command .rearm) = .listening ↔ a = .listening := by
  cases a <;> simp [after]

theorem after_gone_iff (a : Attention) (c : Command) : a.after (.command c) = .gone ↔ a = .gone := by
  cases c with
  | listen on => cases a <;> cases on <;> simp [after]
  | deliver | settingChanged | userSwitched | rearm | suppress => cases a <;> simp [after]

theorem after_other (a : Attention) {c : Command} (hl : ∀ on, c ≠ .listen on) (hr : c ≠ .rearm) :
    a.after (.command c) = a := by
  cases c with
  | listen on => exact absurd rfl (hl on)
  | rearm => exact absurd rfl hr
  | deliver | settingChanged | userSwitched | suppress => cases a <;> rfl

end Attention

/-- A key is the setting of a requirement that the device supports. -/
def Gates (rs : List Requirement) (key : String) : Prop :=
  ∃ q ∈ rs, q.configured = true ∧ q.setting = some key ∧ key ≠ ""

namespace World

section Acts

variable {rs : List Requirement} {r : Registry} {w : World}

theorem Built.gates (hw : w.Built rs r) {i : Nat} {t : Trigger}
    (ht : w.bank.triggers[i]? = some t) (hc : t.configured = true) {key : String}
    (hk : t.setting = some key) : Gates rs key := by
  obtain ⟨q, hq, hb⟩ := hw.requirement ht
  have hc' : t.configured = q.configured := congrArg (fun v => v.configured) hb
  have hk' : t.setting = q.setting.filter (· ≠ "") := congrArg (fun v => v.setting) hb
  rw [hk] at hk'
  obtain ⟨hs, hn⟩ := Option.filter_eq_some_iff.mp hk'.symm
  exact ⟨q, List.mem_of_getElem? hq, hc'.symm.trans hc, hs, by simpa using hn⟩

theorem Built.exists_of_gates (hw : w.Built rs r) {key : String} (hk : Gates rs key) :
    ∃ (i : Nat) (t : Trigger), w.bank.triggers[i]? = some t ∧ t.configured = true ∧
      t.setting = some key := by
  obtain ⟨q, hq, hc, hs, hn⟩ := hk
  obtain ⟨i, hi⟩ := List.mem_iff_getElem?.mp hq
  have hb := hw i
  rw [hi] at hb
  obtain ⟨t, ht, hb⟩ := Option.map_eq_some_iff.mp hb
  refine ⟨i, t, ht, (congrArg (fun v => v.configured) hb).trans hc, ?_⟩
  refine (congrArg (fun v => v.setting) hb).trans ?_
  simp [Trigger.ofRequirement, hs, hn]

/-- Nothing but the setting of a requirement comes to be watched. -/
def Gated (rs : List Requirement) (w : World) : Prop :=
  ∀ key ∈ w.bank.watch.keys, Gates rs key

theorem unwatched_detach (w : World) (key : String) :
    key ∉ (w.act .detach).bank.watch.keys := by
  simp only [act, Watch.detach]
  split
  · exact Std.ExtTreeSet.not_mem_empty
  · next h =>
    have he : w.bank.watch.keys.isEmpty = true := by simpa [Watch.isSubscribed] using h
    simp [Std.ExtTreeSet.isEmpty_iff.mp he]

theorem Gated.act (hg : w.Gated rs) (hw : w.Built rs r) (a : Act) : (w.act a).Gated rs := by
  intro key hk
  obtain ⟨h, -⟩ | ⟨i, t, new, -, ht, hc, hs, h, -⟩ | ⟨-, h, -⟩ := w.subscription_cases a <;>
    rw [h] at hk
  · exact hg key hk
  · obtain he | hk := Std.ExtTreeSet.mem_insert.mp hk
    · obtain rfl : new = key := by simpa using he
      exact hw.gates ht hc hs
    · exact hg key hk
  · exact absurd hk Std.ExtTreeSet.not_mem_empty

theorem watch_perform {as : List Act} (h : ∀ a ∈ as, a.subscribes = false) :
    (w.perform as).bank.watch = w.bank.watch :=
  perform_keeps (P := fun v => v.bank.watch = w.bank.watch)
    (fun a ha v hv => (v.frame_act (h a ha)).2.trans hv) rfl

theorem subscribes_of_mem_commandActs {c : Command} (hc : ∀ on, c ≠ .listen on) {a : Act}
    (ha : a ∈ w.commandActs c) : a.subscribes = false := by
  cases c with
  | listen on => exact absurd rfl (hc on)
  | deliver | settingChanged | userSwitched | rearm | suppress =>
    grind [commandActs, mem_forEach, Act.subscribes]

/-- Only listening has to do with subscriptions. -/
theorem frame_command (w : World) {c : Command} (hc : ∀ on, c ≠ .listen on) :
    (w.turn (.command c)).platform.settings = w.platform.settings ∧
      (w.turn (.command c)).bank.watch = w.bank.watch := by
  rw [turn_performed w (fun _ h => by cases h), acts]
  split
  · exact ⟨rfl, rfl⟩
  · refine perform_keeps (P := fun v => v.platform.settings = w.platform.settings ∧
      v.bank.watch = w.bank.watch) (fun a ha v hv => ?_) ⟨rfl, rfl⟩
    have h := v.frame_act (subscribes_of_mem_commandActs hc ha)
    exact ⟨h.1.trans hv.1, h.2.trans hv.2⟩

theorem unwatched_listen (w : World) (key : String) :
    key ∉ (w.perform (w.commandActs (.listen false))).bank.watch.keys := by
  rw [commandActs, perform_append]
  exact unwatched_detach _ key

theorem closed_commandActs (w : World) (c : Command) :
    (w.perform (w.commandActs c)).closed = w.closed := by
  rw [← ask_performed]
  rfl

end Acts

/-- A world that agrees with what the owner of the bank has had it do: all triggers are requested
while the bank is busy, but only while it listens are their settings watched. -/
structure Attended (rs : List Requirement) (r : Registry) (o : Observer) (a : Attention)
    (w : World) : Prop where
  built : w.Built rs r
  closed : w.closed = true ↔ a = .gone
  observer : w.bank.watch.observer = o
  subscribed : w.Subscribed
  confined : w.Confined
  keys : ∀ key, key ∈ w.bank.watch.keys ↔ a = .listening ∧ Gates rs key
  requested : ∀ i, w.Requested a.busy i

namespace Attended

variable {rs : List Requirement} {r : Registry} {o : Observer} {a : Attention} {w : World}

theorem gated (hw : w.Attended rs r o a) : w.Gated rs :=
  fun key hk => ((hw.keys key).mp hk).2

theorem perform (hw : w.Attended rs r o a) {b : Attention} {as : List Act}
    (hc : (w.perform as).closed = true ↔ b = .gone)
    (hk : ∀ key, key ∈ (w.perform as).bank.watch.keys ↔ b = .listening ∧ Gates rs key)
    (hq : ∀ i, (w.perform as).Requested b.busy i) : (w.perform as).Attended rs r o b where
  built := perform_keeps (fun a _ _ hv => hv.act a) hw.built
  closed := hc
  observer := perform_keeps (P := fun v => v.bank.watch.observer = o)
    (fun a _ v hv => (v.observer_act a).trans hv) hw.observer
  subscribed := perform_keeps (fun a _ _ hv => hv.act a) hw.subscribed
  confined := perform_keeps (fun a _ _ hv => hv.act a) hw.confined
  keys := hk
  requested := hq

theorem keys_listen (hw : w.Attended rs r o a) (key : String) :
    key ∈ (w.perform (w.commandActs (.listen true))).bank.watch.keys ↔ Gates rs key := by
  let as := w.commandActs (.listen true)
  have hv : (w.perform as).Built rs r ∧ (w.perform as).Gated rs :=
    perform_keeps (P := fun v => v.Built rs r ∧ v.Gated rs)
      (fun a _ _ hv => ⟨hv.1.act a, hv.2.act hv.1 a⟩) ⟨hw.built, hw.gated⟩
  refine ⟨hv.2 key, fun hk => ?_⟩
  obtain ⟨i, t, ht, hc, hs⟩ := hv.1.exists_of_gates hk
  exact watched_listen hw.built t key ht hc hs

theorem keys_kept (hw : w.Attended rs r o a) {c : Command} (hc : ∀ on, c ≠ .listen on)
    (key : String) :
    key ∈ (w.perform (w.commandActs c)).bank.watch.keys ↔ a = .listening ∧ Gates rs key := by
  rw [watch_perform fun b hb => subscribes_of_mem_commandActs hc hb, hw.keys]

theorem command (hw : w.Attended rs r o a) (ha : a ≠ .gone) (c : Command) :
    (w.perform (w.commandActs c)).Attended rs r o (a.after (.command c)) := by
  have hc : (w.perform (w.commandActs c)).closed = true ↔ a.after (.command c) = .gone := by
    rw [closed_commandActs, hw.closed, Attention.after_gone_iff]
  have other (hl : ∀ on, c ≠ .listen on) (hr : c ≠ .rearm) :
      (w.perform (w.commandActs c)).Attended rs r o (a.after (.command c)) := by
    rw [a.after_other hl hr] at hc ⊢
    exact hw.perform hc (hw.keys_kept hl) fun i => requested_kept hw.built hl hr (hw.requested i)
  cases c with
  | listen on =>
    rw [Attention.after_listen ha] at hc ⊢
    refine hw.perform hc (fun key => ?_) fun i => ?_
    · cases on with
      | true => simpa using hw.keys_listen key
      | false => simpa using unwatched_listen w key
    · have hq := requested_listen (i := i) hw.built on
      cases on <;> exact hq
  | rearm =>
    refine hw.perform hc (fun key => ?_) fun i => ?_
    · rw [a.after_rearm_listening]
      exact hw.keys_kept (by simp) key
    · rw [Attention.busy_rearm ha]
      exact requested_rearm hw.built
  | deliver | settingChanged | userSwitched | suppress => exact other (by simp) (by simp)

theorem close (hw : w.Attended rs r o a) (ha : a ≠ .gone) :
    (w.perform (w.commandActs (.listen false) ++ [.shut])).Attended rs r o .gone := by
  have hv := hw.command ha (.listen false)
  rw [Attention.after_listen ha] at hv
  rw [perform_append]
  refine hv.perform ?_ (fun key => ?_) fun i => hv.requested i
  · simp [act]
  · simpa [act] using hv.keys key

theorem outside (hw : w.Attended rs r o a) (e : Outside) : (w.outside e).Attended rs r o a where
  built := hw.built
  closed := hw.closed
  observer := hw.observer
  subscribed := by cases e <;> exact hw.subscribed
  confined := by cases e <;> exact hw.confined
  keys := hw.keys
  requested := hw.requested

theorem turn (hw : w.Attended rs r o a) (k : Turn) : (w.turn k).Attended rs r o (a.after k) := by
  cases k with
  | outside e =>
    rw [Attention.after_outside]
    exact hw.outside e
  | command c =>
    rw [turn_performed w (by simp), acts]
    by_cases ha : a = .gone
    · subst ha
      rw [if_pos (hw.closed.mpr rfl)]
      exact hw
    · rw [if_neg fun h => ha (hw.closed.mp h)]
      exact hw.command ha c
  | close =>
    rw [turn_performed w (by simp), acts, Attention.after_close]
    by_cases ha : a = .gone
    · subst ha
      rw [if_pos (hw.closed.mpr rfl)]
      exact hw
    · rw [if_neg fun h => ha (hw.closed.mp h)]
      exact hw.close ha

theorem run (hw : w.Attended rs r o a) (ts : List Turn) :
    (w.run ts).Attended rs r o (ts.foldl Attention.after a) := by
  induction ts generalizing w a with
  | nil => exact hw
  | cons k ts ih => exact ih (hw.turn k)

theorem assembled (m : Subtype.Matcher) (rs : List Requirement) (suppressible : Option Nat)
    {o : Observer} {p : Platform} (ho : ∀ key, p.settings.scopeOf? o key = none) :
    (World.assembled m rs suppressible o p).Attended rs p.registry o .idle where
  built := built_assembled m rs suppressible o p
  closed := by simp [World.assembled]
  observer := rfl
  subscribed key hk := by simp [World.assembled, Bank.assemble] at hk
  confined key scope hk := by
    have hn : p.settings.scopeOf? o key = some scope := hk
    rw [ho] at hn
    cases hn
  keys key := by simp [World.assembled, Bank.assemble]
  requested i t ht := by
    obtain ⟨q, -, rfl⟩ := trigger_assembled ht
    rfl

/-- The store has the bank's observer down for the settings of its triggers while the bank listens,
and for nothing otherwise. -/
theorem scope (hw : w.Attended rs r o a) (key : String) (s : Scope) :
    w.platform.settings.scopeOf? o key = some s ↔
      s = .all ∧ a = .listening ∧ Gates rs key := by
  have hs := hw.subscribed key
  have hc := hw.confined key
  rw [hw.observer] at hs hc
  rw [← hw.keys]
  constructor
  · intro h
    have hk := hc s h
    rw [hs hk] at h
    exact ⟨(Option.some.inj h).symm, hk⟩
  · rintro ⟨rfl, hk⟩
    exact hs hk

end Attended

/-- A bank that is busy hears of every change of its triggers' settings, and one that is not has no
subscription. The exception is a bank that was rearmed when it did not listen: all its triggers are
requested, and it hears of nothing. -/
theorem subscribed_unless_rearmed (m : Subtype.Matcher) (rs : List Requirement)
    (suppressible : Option Nat) {o : Observer} {p : Platform}
    (ho : ∀ key, p.settings.scopeOf? o key = none) (ts : List Turn) :
    let w := (assembled m rs suppressible o p).run ts
    let a := Attention.ofRun ts
    (∀ (i : Nat) (t : Trigger) (key : String), w.bank.triggers[i]? = some t →
      t.configured = true → t.setting = some key →
        (t.requested = true → a ≠ .rearmed → w.platform.settings.scopeOf? o key = some .all ∧
          ∀ user value, o ∈ (w.platform.put key user value).1) ∧
        (a = .rearmed → t.requested = true ∧ w.platform.settings.scopeOf? o key = none)) ∧
      ((∀ (i : Nat) (t : Trigger), w.bank.triggers[i]? = some t → t.requested = false) →
        w.platform.settings.keysOf o = []) := by
  intro w a
  have hw : w.Attended rs p.registry o a := (Attended.assembled m rs suppressible ho).run ts
  refine ⟨fun i t key ht hc hk => ⟨fun hq ha => ?_, fun ha => ⟨?_, ?_⟩⟩, fun hn => ?_⟩
  · have hb : a.busy = true := (hw.requested i t ht).symm.trans hq
    have hl : a = .listening := by
      cases h : a with
      | listening => rfl
      | rearmed => exact absurd h ha
      | idle | gone =>
        rw [h] at hb
        cases hb
    have hs := (hw.scope key .all).mpr ⟨rfl, hl, hw.built.gates ht hc hk⟩
    exact ⟨hs, fun user _ => (Settings.mem_interested _ key user o).mpr ⟨.all, hs, rfl⟩⟩
  · rw [hw.requested i t ht, ha]
    rfl
  · refine Option.eq_none_iff_forall_ne_some.mpr fun s hs => ?_
    obtain ⟨-, hl, -⟩ := (hw.scope key s).mp hs
    rw [ha] at hl
    cases hl
  · refine List.eq_nil_iff_forall_not_mem.mpr fun key hk => ?_
    obtain ⟨s, hs⟩ := (Settings.mem_keysOf _ o key).mp hk
    obtain ⟨-, hl, hg⟩ := (hw.scope key s).mp hs
    obtain ⟨i, t, ht, -⟩ := hw.built.exists_of_gates hg
    have hq := (hw.requested i t ht).symm.trans (hn i t ht)
    rw [hl] at hq
    cases hq

theorem subscribed_after_rearm :
    let w := (assembled .admitNone ({} : Config).requirements (some Config.pickUpPosition) 1
      .standard).run [.command (.listen true), .command .rearm]
    let t : Trigger := { Trigger.ofRequirement (.standard "") 1
      ⟨.category .pickUpGesture, .pickUp, some Setting.pickUpKey, true⟩ with
      requested := true, registered := true }
    (∀ key, Platform.standard.settings.scopeOf? 1 key = none) ∧ w.bank.triggers[1]? = some t ∧
      w.platform.settings.scopeOf? 1 Setting.pickUpKey = some .all ∧
      ∀ user value, 1 ∈ (w.platform.put Setting.pickUpKey user value).1 := by
  intro w t
  have ho : ∀ key, Platform.standard.settings.scopeOf? 1 key = none := fun key => by
    simp [Platform.standard, Settings.scopeOf?]
  have ht : w.bank.triggers[1]? = some t := by decide +kernel
  have h := subscribed_unless_rearmed .admitNone ({} : Config).requirements
    (some Config.pickUpPosition) ho [.command (.listen true), .command .rearm]
  exact ⟨ho, ht, (h.1 1 t Setting.pickUpKey ht rfl rfl).1 rfl (by decide)⟩

theorem unheard_when_rearmed_idle :
    let w := (assembled .admitNone ({} : Config).requirements (some Config.pickUpPosition) 1
      .standard).run [.command .rearm]
    (w.bank.triggers[1]?.map fun t => (t.configured, t.requested, t.setting)) =
        some (true, true, some Setting.pickUpKey) ∧
      w.platform.settings.scopeOf? 1 Setting.pickUpKey = none ∧
      (w.platform.put Setting.pickUpKey User.system false).1 = [] := by
  decide +kernel

end World

end AmbientPulse
