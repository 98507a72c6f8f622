import AmbientPulse.Proofs.Holding
import AmbientPulse.Proofs.Product
import AmbientPulse.Proofs.Recovery

namespace AmbientPulse

attribute [ext] Bank

namespace Command

/-- Commands that tell a bank how things are, and that may be given again or overtake one another.
A fire is used up by the first delivery, and a rearming starts all over each time. -/
def steady : Command → Bool
  | deliver _ _ => false
  | rearm => false
  | settingChanged _ => true
  | userSwitched => true
  | listen _ => true
  | suppress _ => true

/-- Of two commands that set the same flag the later one has the last word. -/
def rivals : Command → Command → Bool
  | listen _, listen _ => true
  | suppress _, suppress _ => true
  | _, _ => false

end Command

namespace Trigger

/-- What an update makes of a trigger that is not registered without a sensor. -/
def settled (t : Trigger) (p : Platform) : Trigger :=
  { t with registered := t.wanted p.settings && (t.registered || p.registry.accepting) }

/-- What the owner of a bank can say of a trigger. -/
inductive Flag where
  | requested
  | disabled

def Flag.get : Flag → Trigger → Bool
  | requested, t => t.requested
  | disabled, t => t.disabled

def Flag.put : Flag → Bool → Trigger → Trigger
  | requested, on, t => { t with requested := on }
  | disabled, on, t => { t with disabled := on }

def told (g : Flag) (on : Bool) (t : Trigger) (p : Platform) : Trigger :=
  if g.get t = on then t else (g.put on t).settled p

theorem told_of_eq {g : Flag} {on : Bool} {t : Trigger} (h : g.get t = on) (p : Platform) :
    t.told g on p = t :=
  if_pos h

/-- What a steady command makes of a trigger. -/
def heeding (c : Command) (suppressible : Bool) (t : Trigger) (p : Platform) : Trigger :=
  match c with
  | .listen on => t.told .requested on p
  | .suppress on => if suppressible then t.told .disabled on p else t
  | .userSwitched => t.settled p
  | .settingChanged c => if c.concerns p.settings.currentUser then t.settled p else t
  | .deliver _ _ => t
  | .rearm => t

theorem heeding_settingChanged (e : SettingChange) (b : Bool) (t : Trigger) (p : Platform) :
    t.heeding (.settingChanged e) b p =
      if e.concerns p.settings.currentUser then t.settled p else t := rfl

section Outlooks

variable {p q : Platform} (h : q.outlook = p.outlook)

include h

theorem settled_of_outlook (t : Trigger) : t.settled q = t.settled p := by
  have ha : q.registry.accepting = p.registry.accepting := congrArg Outlook.accepting h
  rw [settled, settled, t.wanted_of_outlook h, ha]

theorem told_of_outlook (g : Flag) (on : Bool) (t : Trigger) : t.told g on q = t.told g on p := by
  rw [told, told, settled_of_outlook h]

theorem heeding_of_outlook (c : Command) (b : Bool) (t : Trigger) :
    t.heeding c b q = t.heeding c b p := by
  have hu : q.settings.currentUser = p.settings.currentUser := congrArg Outlook.currentUser h
  cases c with
  | listen on => exact told_of_outlook h .requested on t
  | suppress on => rw [heeding, heeding, told_of_outlook h]
  | userSwitched => exact settled_of_outlook h t
  | settingChanged e =>
    rw [heeding_settingChanged, heeding_settingChanged, settled_of_outlook h, hu]
  | deliver | rearm => rfl

end Outlooks

section Guarded

variable {t : Trigger} (ht : t.Guarded) (p : Platform)

theorem guarded_settled (t : Trigger) (p : Platform) : (t.settled p).Guarded := by
  intro hr
  have hw : (t.settled p).wanted p.settings = true := (Bool.and_eq_true_iff.mp hr).1
  exact guarded_of_wanted hw hr

include ht

theorem update_fst_settled : (t.update p).1 = t.settled p :=
  update_eq (fun hr => (ht hr).2.1) p

theorem setRequested_fst_told (on : Bool) : (t.setRequested on p).1 = t.told .requested on p := by
  by_cases h : t.requested = on
  · rw [setRequested, if_pos h, told_of_eq (g := .requested) h]
  · rw [setRequested, if_neg h, told, if_neg (show ¬ Flag.requested.get t = on from h)]
    exact update_eq (t := { t with requested := on }) (fun hr => (ht hr).2.1) p

theorem setDisabled_fst_told (on : Bool) : (t.setDisabled on p).1 = t.told .disabled on p := by
  by_cases h : t.disabled = on
  · rw [setDisabled, if_pos h, told_of_eq (g := .disabled) h]
  · rw [setDisabled, if_neg h, told, if_neg (show ¬ Flag.disabled.get t = on from h)]
    exact update_eq (t := { t with disabled := on }) (fun hr => (ht hr).2.1) p

theorem guarded_told (g : Flag) (on : Bool) : (t.told g on p).Guarded := by
  unfold told
  split
  · exact ht
  · exact guarded_settled _ p

/-- Nothing is left of an old registration when a flag changes: a registered trigger has its flags set
to what it takes, so the change can only be against it. -/
theorem told_of_ne {g : Flag} {on : Bool} (hg : g.get t ≠ on) :
    t.told g on p = (g.put on t.spent).settled p := by
  rw [told, if_neg hg]
  cases hr : t.registered with
  | false => cases g <;> simp [Flag.put, settled, wanted, enabled, spent, hr]
  | true =>
    obtain ⟨-, -, hq, hd⟩ := ht hr
    cases g with
    | requested =>
      obtain rfl : on = false := by simpa [Flag.get, hq] using hg
      simp [Flag.put, settled, wanted, spent]
    | disabled =>
      obtain rfl : on = true := by simpa [Flag.get, hd] using hg
      simp [Flag.put, settled, wanted, spent]

end Guarded

/-- A second look finds what the first one found, even if what it asked for was refused. -/
theorem settled_settled (t : Trigger) (p : Platform) : (t.settled p).settled p = t.settled p := by
  have hb : ∀ w r a : Bool, (w && ((w && (r || a)) || a)) = (w && (r || a)) := by decide
  exact congrArg (fun r => { t with registered := r })
    (hb (t.wanted p.settings) t.registered p.registry.accepting)

theorem get_told_of_ne {g h : Flag} (hn : g ≠ h) (on : Bool) (t : Trigger) (p : Platform) :
    g.get (t.told h on p) = g.get t := by
  unfold told
  split
  · rfl
  · cases g <;> cases h <;> first | rfl | exact absurd rfl hn

section Commuting

variable {t : Trigger} (ht : t.Guarded) (p : Platform)

include ht

theorem told_settled (g : Flag) (on : Bool) :
    (t.settled p).told g on p = (t.told g on p).settled p := by
  have hs : g.get (t.settled p) = g.get t := by cases g <;> rfl
  by_cases hg : g.get t = on
  · rw [told_of_eq hg, told_of_eq (hs.trans hg)]
  · rw [told_of_ne (guarded_settled t p) p (hs ▸ hg), told_of_ne ht p hg, settled_settled]
    rfl

theorem told_told {g h : Flag} (hn : g ≠ h) (on off : Bool) :
    (t.told h off p).told g on p = (t.told g on p).told h off p := by
  have hg := get_told_of_ne hn off t p
  have hh := get_told_of_ne hn.symm on t p
  by_cases hon : g.get t = on
  · rw [told_of_eq (hg.trans hon), told_of_eq hon]
  by_cases hoff : h.get t = off
  · rw [told_of_eq hoff, told_of_eq (hh.trans hoff)]
  · rw [told_of_ne (guarded_told ht p h off) p (hg ▸ hon), told_of_ne ht p hoff,
      told_of_ne (guarded_told ht p g on) p (hh ▸ hoff), told_of_ne ht p hon]
    cases g <;> cases h <;> first | rfl | exact absurd rfl hn

theorem heeding_suppress (on off b : Bool) :
    (t.heeding (.suppress off) b p).told .requested on p =
      (t.told .requested on p).heeding (.suppress off) b p := by
  cases b with
  | true => exact told_told ht p (nofun : Flag.requested ≠ .disabled) on off
  | false => rfl

theorem heeding_settled (c : Command) (b : Bool) :
    (t.settled p).heeding c b p = (t.heeding c b p).settled p := by
  cases c with
  | listen on => exact told_settled ht p .requested on
  | suppress on =>
    cases b with
    | true => exact told_settled ht p .disabled on
    | false => rfl
  | settingChanged e =>
    rw [heeding_settingChanged, heeding_settingChanged]
    split <;> rfl
  | userSwitched | deliver | rearm => rfl

/-- A command that sets no flag can come before or after any other. -/
theorem heeding_flagless (c : Command) {d : Command} (hl : ∀ on, d ≠ .listen on)
    (hs : ∀ on, d ≠ .suppress on) (b : Bool) :
    (t.heeding c b p).heeding d b p = (t.heeding d b p).heeding c b p := by
  cases d with
  | listen on => exact absurd rfl (hl on)
  | suppress on => exact absurd rfl (hs on)
  | userSwitched => exact (heeding_settled ht p c b).symm
  | settingChanged e =>
    rw [heeding_settingChanged, heeding_settingChanged]
    split
    · exact (heeding_settled ht p c b).symm
    · rfl
  | deliver | rearm => rfl

theorem heeding_comm {c d : Command} (hn : c.rivals d = false) (b : Bool) :
    (t.heeding c b p).heeding d b p = (t.heeding d b p).heeding c b p := by
  cases c with
  | deliver | rearm | userSwitched | settingChanged =>
    exact (heeding_flagless ht p d (by simp) (by simp) b).symm
  | listen on =>
    cases d with
    | deliver | rearm | userSwitched | settingChanged =>
      exact heeding_flagless ht p _ (by simp) (by simp) b
    | listen => cases hn
    | suppress off => exact (heeding_suppress ht p on off b).symm
  | suppress off =>
    cases d with
    | deliver | rearm | userSwitched | settingChanged =>
      exact heeding_flagless ht p _ (by simp) (by simp) b
    | listen on => exact heeding_suppress ht p on off b
    | suppress => cases hn

end Commuting

theorem outlook_startTrigger (t : Trigger) (s : Watch × Platform) :
    (Bank.startTrigger t s).2.2.outlook = s.2.outlook := by
  have ha := Platform.Passed.attach (i := t.listener) (b := false) (t.setRequested true s.2).1 s.1
    (t.setRequested true s.2).2
  exact ha.outlook.trans (outlook_setRequested true t s.2)

end Trigger

namespace World

variable {rs : List Requirement} {r : Registry} {w : World}

namespace Orderly

theorem turn (hw : w.Orderly rs r) (k : Turn) : (w.turn k).Orderly rs r :=
  ⟨hw.built.turn k, fun i => guarded_turn hw.built (hw.guarded i) k⟩

theorem sweep_updates (hw : w.Orderly rs r) {p : Platform} (hp : p.outlook = w.platform.outlook) :
    (sweep Trigger.update w.bank.triggers p).1 = w.bank.triggers.map (·.settled w.platform) :=
  sweep_fst Trigger.outlook_update fun t ht q hq => by
    rw [Trigger.update_fst_settled (hw.of_mem ht), Trigger.settled_of_outlook (hq.trans hp)]

theorem sweep_starts (hw : w.Orderly rs r) (x : Watch) {p : Platform}
    (hp : p.outlook = w.platform.outlook) :
    (sweep Bank.startTrigger w.bank.triggers (x, p)).1 =
      w.bank.triggers.map (·.told .requested true w.platform) :=
  sweep_fst (v := fun s => s.2.outlook) Trigger.outlook_startTrigger fun t ht s hs => by
    rw [Bank.startTrigger, Trigger.setRequested_fst_told (hw.of_mem ht),
      Trigger.told_of_outlook (hs.trans hp)]

theorem sweep_stops (hw : w.Orderly rs r) {p : Platform} (hp : p.outlook = w.platform.outlook) :
    (sweep (Trigger.setRequested false) w.bank.triggers p).1 =
      w.bank.triggers.map (·.told .requested false w.platform) :=
  sweep_fst (Trigger.outlook_setRequested false) fun t ht q hq => by
    rw [Trigger.setRequested_fst_told (hw.of_mem ht), Trigger.told_of_outlook (hq.trans hp)]

theorem trigger_suppress (hw : w.Orderly rs r) (on : Bool) (i : Nat) :
    (w.bank.suppress on w.platform).1.triggers[i]? = w.bank.triggers[i]?.map
      (·.heeding (.suppress on) (w.bank.suppressible == some i) w.platform) := by
  cases hb : w.bank.suppressible with
  | none => simp [Bank.suppress, hb, Trigger.heeding]
  | some j =>
    cases hj : w.bank.triggers[j]? with
    | none =>
      by_cases hji : j = i
      · subst hji
        simp [Bank.suppress, hb, hj]
      · simp [Bank.suppress, hb, hj, hji, Trigger.heeding]
    | some t =>
      have hd := Trigger.setDisabled_fst_told (hw.guarded j t hj) w.platform on
      by_cases hji : j = i
      · subst hji
        simp [Bank.suppress, hb, hj, getElem?_setTrigger _ hj, hd, Trigger.heeding]
      · simp [Bank.suppress, hb, hj, hji, getElem?_setTrigger_ne _ hji, Trigger.heeding]

/-- Each trigger heeds a steady command by itself. -/
theorem trigger_turn (hw : w.Orderly rs r) (hc : w.closed = false) {c : Command}
    (hs : c.steady = true) (i : Nat) :
    (w.turn (.command c)).bank.triggers[i]? = w.bank.triggers[i]?.map
      (·.heeding c (w.bank.suppressible == some i) w.platform) := by
  have swept : ∀ {ts : List Trigger} {g : Trigger → Trigger}, ts = w.bank.triggers.map g →
      ts[i]? = w.bank.triggers[i]?.map g := fun h => by rw [h, List.getElem?_map]
  rw [World.turn, if_neg (by simp [hc])]
  cases c with
  | deliver | rearm => cases hs
  | userSwitched => exact swept (hw.sweep_updates rfl)
  | settingChanged e =>
    simp only [ask, Bank.apply, Bank.quietly, Bank.settingChanged, Trigger.heeding]
    split
    · exact swept (hw.sweep_updates rfl)
    · simp
  | listen on =>
    cases on with
    | true => exact swept (hw.sweep_starts w.bank.watch rfl)
    | false =>
      simp only [ask, Bank.apply, Bank.quietly, Bank.listen, Bank.stop, Bank.sweepTriggers]
      exact swept (hw.sweep_stops rfl)
  | suppress on => exact hw.trigger_suppress on i

end Orderly

theorem outlook_turn_command (w : World) (c : Command) :
    (w.turn (.command c)).platform.outlook = w.platform.outlook := by
  rw [turn_performed w (by simp), outlook_perform]

theorem closed_turn_command (w : World) (c : Command) :
    (w.turn (.command c)).closed = w.closed := by
  simp only [turn]
  split <;> rfl

section Subscriptions

/-- The subscriptions as the bank knows them and as the store does. -/
def subscriptions (w : World) : Watch × Settings :=
  (w.bank.watch, w.platform.settings)

def joined (x : Watch × Settings) (key : String) : Watch × Settings :=
  if x.1.isWatching key then x
  else ({ x.1 with keys := x.1.keys.insert key }, x.2.register x.1.observer key .all)

def dropped (x : Watch × Settings) : Watch × Settings :=
  if x.1.isSubscribed then ({ x.1 with keys := ∅ }, x.2.unregister x.1.observer) else x

theorem subscriptions_attach (w : World) (i : Nat) :
    (w.act (.attach i)).subscriptions =
      (w.bank.triggers[i]?.bind Trigger.gate?).elim w.subscriptions (joined w.subscriptions) := by
  simp only [act]
  cases w.bank.triggers[i]? with
  | none => rfl
  | some t =>
    simp only [Trigger.attach_eq, Option.bind_some]
    cases t.gate? with
    | none => rfl
    | some key =>
      simp only [Option.elim_some, subscriptions, joined, Watch.attach]
      split <;> rfl

theorem subscriptions_detach (w : World) :
    (w.act .detach).subscriptions = dropped w.subscriptions := by
  cases h : w.bank.watch.isSubscribed <;>
    simp [act, subscriptions, dropped, Watch.detach, h, Platform.unobserve, Platform.record]

theorem gate_of_built {v w : World} (hv : v.Built rs r) (hw : w.Built rs r) (i : Nat) :
    v.bank.triggers[i]?.bind Trigger.gate? = w.bank.triggers[i]?.bind Trigger.gate? := by
  have h : ∀ {u : World}, u.Built rs r → u.bank.triggers[i]?.bind Trigger.gate? =
      (rs[i]?.map (Trigger.ofRequirement r i)).bind Trigger.gate? := fun {u} hu => by
    rw [← hu i]
    cases u.bank.triggers[i]? <;> rfl
  rw [h hv, h hw]

/-- What comes of the subscriptions does not depend on the flags of the triggers. -/
theorem subscriptions_perform {v w : World} (hv : v.Built rs r) (hw : w.Built rs r)
    (h : v.subscriptions = w.subscriptions) (as : List Act) :
    (v.perform as).subscriptions = (w.perform as).subscriptions := by
  induction as generalizing v w with
  | nil => exact h
  | cons a as ih =>
    refine ih (hv.act a) (hw.act a) ?_
    cases hs : a.subscribes with
    | false =>
      have keep : ∀ u : World, (u.act a).subscriptions = u.subscriptions := fun u =>
        Prod.ext (u.frame_act hs).2 (u.frame_act hs).1
      rw [keep, keep, h]
    | true =>
      cases a with
      | attach i => rw [subscriptions_attach, subscriptions_attach, gate_of_built hv hw, h]
      | detach => rw [subscriptions_detach, subscriptions_detach, h]
      | note | request | suppress | update | deliver | shut => cases hs

theorem subscriptions_other (w : World) {c : Command} (hc : ∀ on, c ≠ .listen on) :
    (w.turn (.command c)).subscriptions = w.subscriptions :=
  Prod.ext (w.frame_command hc).2 (w.frame_command hc).1

theorem acts_listen_turn (w : World) (c : Command) (on : Bool) :
    (w.turn (.command c)).acts (.command (.listen on)) = w.acts (.command (.listen on)) := by
  have hf : ∀ f, (w.turn (.command c)).forEach f = w.forEach f := fun f => by
    rw [turn_performed w (by simp), forEach_perform]
  rw [acts, acts, closed_turn_command]
  cases on <;> rw [commandActs, commandActs, hf]

/-- A command that has nothing to do with subscriptions makes no difference to one that has. -/
theorem subscriptions_after_other (hw : w.Built rs r) {c : Command} (hc : ∀ on, c ≠ .listen on)
    (d : Command) :
    ((w.turn (.command c)).turn (.command d)).subscriptions =
      (w.turn (.command d)).subscriptions := by
  have h := w.subscriptions_other hc
  by_cases hd : ∀ on, d ≠ .listen on
  · rw [subscriptions_other _ hd, h, subscriptions_other _ hd]
  · obtain ⟨on, rfl⟩ : ∃ on, d = .listen on := not_forall_not.mp hd
    rw [turn_performed (w.turn (.command c)) (by simp), acts_listen_turn,
      turn_performed w (t := .command (.listen on)) (by simp)]
    exact subscriptions_perform (hw.turn _) hw h _

theorem subscriptions_comm (hw : w.Built rs r) {c d : Command} (hn : c.rivals d = false) :
    ((w.turn (.command c)).turn (.command d)).subscriptions =
      ((w.turn (.command d)).turn (.command c)).subscriptions := by
  by_cases hc : ∀ on, c ≠ .listen on
  · rw [subscriptions_after_other hw hc, subscriptions_other _ hc]
  · obtain ⟨on, rfl⟩ : ∃ on, c = .listen on := not_forall_not.mp hc
    have hd : ∀ off, d ≠ .listen off := by
      rintro off rfl
      cases hn
    rw [subscriptions_after_other hw hd, subscriptions_other _ hd]

end Subscriptions

theorem Orderly.triggers_comm (hw : w.Orderly rs r) (ho : w.closed = false) {c d : Command}
    (hc : c.steady = true) (hd : d.steady = true) (hn : c.rivals d = false) :
    ((w.turn (.command c)).turn (.command d)).bank.triggers =
      ((w.turn (.command d)).turn (.command c)).bank.triggers := by
  have twice : ∀ {c d : Command}, c.steady = true → d.steady = true → ∀ i : Nat,
      ((w.turn (.command c)).turn (.command d)).bank.triggers[i]? =
        w.bank.triggers[i]?.map fun t =>
          (t.heeding c (w.bank.suppressible == some i) w.platform).heeding d
            (w.bank.suppressible == some i) w.platform := by
    intro c d hc hd i
    have hs : (w.turn (.command c)).bank.suppressible = w.bank.suppressible :=
      w.suppressible_run [.command c]
    rw [(hw.turn _).trigger_turn ((w.closed_turn_command c).trans ho) hd, hs,
      hw.trigger_turn ho hc, Option.map_map]
    simp only [Function.comp_def, Trigger.heeding_of_outlook (w.outlook_turn_command c)]
  apply List.ext_getElem?
  intro i
  rw [twice hc hd, twice hd hc]
  cases ht : w.bank.triggers[i]? with
  | none => rfl
  | some t => exact congrArg some (Trigger.heeding_comm (hw.guarded i t ht) _ hn _)

/-- Steady commands that different tasks have posted may be handled in either order, whatever has not
been noticed so far and whether or not requests are accepted: the bank is the same in the end, and so
are the subscriptions in the store. -/
theorem steady_commands_commute (m : Subtype.Matcher) (rs : List Requirement)
    (suppressible : Option Nat) (o : Observer) (p : Platform) (ts : List Turn) :
    let w := (assembled m rs suppressible o p).run ts
    ∀ c d : Command, c.steady = true → d.steady = true → c.rivals d = false →
      ((w.turn (.command c)).turn (.command d)).bank =
        ((w.turn (.command d)).turn (.command c)).bank ∧
      ((w.turn (.command c)).turn (.command d)).platform.settings =
        ((w.turn (.command d)).turn (.command c)).platform.settings := by
  intro w c d hc hd hn
  cases ho : w.closed with
  | true =>
    have hk : ∀ c : Command, w.turn (.command c) = w := fun c => by simp [turn, ho]
    rw [hk c, hk d, hk c]
    exact ⟨rfl, rfl⟩
  | false =>
    have hw : w.Orderly rs p.registry := .run_assembled m rs suppressible o p ts
    have hs := subscriptions_comm hw.built hn
    let v := (w.turn (.command c)).turn (.command d)
    let u := (w.turn (.command d)).turn (.command c)
    have ht : v.bank.triggers = u.bank.triggers := hw.triggers_comm ho hc hd hn
    have hp : v.bank.suppressible = u.bank.suppressible :=
      (w.suppressible_run [.command c, .command d]).trans
        (w.suppressible_run [.command d, .command c]).symm
    have hm : v.bank.matcher = u.bank.matcher :=
      (w.matcher_run [.command c, .command d]).trans
        (w.matcher_run [.command d, .command c]).symm
    exact ⟨Bank.ext ht hp (congrArg Prod.fst hs) hm, congrArg Prod.snd hs⟩

theorem steady_commands_commute_unnoticed :
    let rs : List Requirement :=
      [⟨.category .significantMotion, .significantMotion, some "x", true⟩,
        ⟨.category .pickUpGesture, .pickUp, some "y", true⟩]
    let a : Sensor :=
      ⟨1, "Significant Motion", .significantMotion, "android.sensor.significant_motion"⟩
    let b : Sensor := ⟨2, "Pickup Gesture", .pickUpGesture, "android.sensor.pick_up_gesture"⟩
    let w := (assembled .admitNone rs none 1 .standard).run
      [.outside (.put "y" User.system false), .command (.listen true),
        .outside (.put "x" User.system false), .outside (.put "y" User.system true),
        .outside (.accepting false)]
    let c : Command := .listen false
    let d : Command := .settingChanged ⟨"x", User.system⟩
    c.steady = true ∧ d.steady = true ∧ c.rivals d = false ∧
      w.effects (.command d) = [.cancel 0 a true, .request 1 b false] ∧
      (w.turn (.command c)).effects (.command d) = [] ∧
      ((w.turn (.command c)).turn (.command d)).bank =
        ((w.turn (.command d)).turn (.command c)).bank ∧
      ((w.turn (.command c)).turn (.command d)).platform.settings =
        ((w.turn (.command d)).turn (.command c)).platform.settings := by
  intro rs a b w c d
  have hd : w.effects (.command d) = [.cancel 0 a true, .request 1 b false] := by decide +kernel
  have hn : (w.turn (.command c)).effects (.command d) = [] := by decide +kernel
  have h := steady_commands_commute .admitNone rs none 1 .standard
    [.outside (.put "y" User.system false), .command (.listen true),
      .outside (.put "x" User.system false), .outside (.put "y" User.system true),
      .outside (.accepting false)]
  exact ⟨rfl, rfl, rfl, hd, hn, h c d rfl rfl rfl⟩

end World

end AmbientPulse
