import AmbientPulse.Proofs.Guard
import AmbientPulse.Proofs.Subscription

namespace AmbientPulse

namespace Trigger

def Matched (t : Trigger) (p : Platform) : Prop :=
  t.registered = t.wanted p.settings

theorem matched_update {t : Trigger} {p : Platform} (ha : p.registry.accepting = true)
    (hs : t.registered = true → t.sensor.isSome = true) :
    (t.update p).1.Matched (t.update p).2 := by
  rw [Matched, settings_update, update_eq hs, ha, Bool.or_true, Bool.and_true]
  rfl

/-- Only the current user's value of the trigger's own setting makes a difference, and only while the
trigger is configured and requested. -/
theorem wanted_put {t : Trigger} {s : Settings} {key : String} {user : User} (value : Bool)
    (h : t.setting = some key → user = s.currentUser → t.configured = true →
      t.requested = false) : t.wanted (s.put key user value).2 = t.wanted s := by
  have hu : (s.put key user value).2.currentUser = s.currentUser := rfl
  unfold wanted enabled
  rw [hu]
  cases hk : t.setting with
  | none => rfl
  | some k =>
    by_cases he : key = k ∧ user = s.currentUser
    · obtain ⟨rfl, he⟩ := he
      cases hc : t.configured with
      | false => simp
      | true => simp [h hk he hc]
    · simp [Settings.get_put, he]

/-- While requests are accepted and the receiver of pulses holds out, a trigger that is as it should
be stays so. -/
theorem Step.matched {i : Nat} {m : Subtype.Matcher} {a : Act} {t t' : Trigger} {p q : Platform}
    (h : t.Step i m a p t' q) (ha : p.registry.accepting = true)
    (hb : p.callback.breaking = false) (hm : t.Matched p) : t'.Matched q := by
  cases h with
  | passed hp ht => exact hm.trans (t.wanted_of_outlook hp.outlook).symm
  | evaluated hd =>
    refine matched_update ha fun hr => ?_
    rw [Act.registered_prepare t hd, hm] at hr
    rw [sensor_of_bare (a.bare_prepare i t)]
    exact ((t.wanted_iff _).mp hr).1
  | broken e he hr hb' =>
    rw [hb] at hb'
    cases hb'
  | fired e he hr hb' =>
    have ha' : (t.struck m e p).registry.accepting = true := by simpa using ha
    exact matched_update ha' fun h => by cases h

end Trigger

namespace World

/-- Requests are accepted, and the receiver of pulses does not break down. -/
def Fit (w : World) : Prop :=
  w.platform.registry.accepting = true ∧ w.platform.callback.breaking = false

theorem Fit.act {w : World} (hw : w.Fit) (a : Act) : (w.act a).Fit := by
  have ha := congrArg Outlook.accepting (w.outlook_act a)
  have hc := congrArg Outlook.callback (w.outlook_act a)
  exact ⟨ha.trans hw.1, (congrArg Callback.breaking hc).trans hw.2⟩

section Commands

variable {rs : List Requirement} {r : Registry} {w : World} {i : Nat}

theorem matched_act_update (hw : w.Fit) (hg : w.At i fun t _ => t.Guarded) :
    (w.act (.update i)).At i Trigger.Matched := by
  intro t' ht'
  simp only [act] at ht' ⊢
  cases hi : w.bank.triggers[i]? with
  | none =>
    rw [change_none _ hi, hi] at ht'
    cases ht'
  | some t =>
    rw [change_some _ hi] at ht' ⊢
    obtain rfl := Option.some.inj ((getElem?_setTrigger _ hi).symm.trans ht')
    exact Trigger.matched_update hw.1 fun hr => (hg t hi hr).2.1

theorem matched_act (hw : w.Ordered) (hf : w.Fit) (hm : w.At i Trigger.Matched) (a : Act) :
    (w.act a).At i Trigger.Matched := by
  intro t' ht'
  obtain ⟨t, ht, hs⟩ := exists_step hw ht'
  exact hs.matched hf.1 hf.2 (hm t ht)

theorem matched_kept (hw : w.Built rs r) (hf : w.Fit) (hm : w.At i Trigger.Matched)
    (as : List Act) : (w.perform as).At i Trigger.Matched :=
  (perform_keeps (P := fun v => v.Built rs r ∧ v.Fit ∧ v.At i Trigger.Matched)
    (fun a _ _ ⟨hb, hf, hm⟩ => ⟨hb.act a, hf.act a, matched_act hb.ordered hf hm a⟩)
    ⟨hw, hf, hm⟩).2.2

theorem matched_forEach (hw : w.Built rs r) (hf : w.Fit) (hg : w.At i fun t _ => t.Guarded) :
    (w.perform (w.forEach fun j => [.update j])).At i Trigger.Matched := by
  intro t ht
  have hm : .update i ∈ w.forEach fun j => [.update j] := by
    simp [mem_forEach, lt_of_perform ht]
  refine perform_establishes (P := fun v => v.At i Trigger.Matched)
    (Q := fun v => v.Built rs r ∧ v.Fit ∧ v.At i fun t _ => t.Guarded) hm ?_ ?_ ?_ ⟨hw, hf, hg⟩ t ht
  · intro a _ v ⟨hb, hf, hg⟩
    exact ⟨hb.act a, hf.act a, hg.act hb.ordered fun _ _ _ _ _ _ hs ht => hs.guarded ht⟩
  · exact fun v ⟨_, hf, hg⟩ => matched_act_update hf hg
  · exact fun a _ v ⟨hb, hf, _⟩ hm => matched_act hb.ordered hf hm a

end Commands

end World

/-- A world in which all that happens outside is posted to the bank. `listening` is what the owner
of the bank told it last. -/
structure Exchange where
  world : World
  posted : List Command := []
  listening : Bool := false
  deriving DecidableEq

namespace Exchange

/-- What the outside posts: a change of a setting that the bank's observer hears of, a switch of the
user, and a fire of an armed listener. -/
def posts (w : World) : Outside → List Command
  | .put key user value =>
    if w.bank.watch.observer ∈ (w.platform.put key user value).1 then
      [.settingChanged ⟨key, user⟩]
    else []
  | .switchUser _ => [.userSwitched]
  | .fire l values timestamp => (w.platform.fire l values timestamp).1.toList.map (.deliver l ·)
  | _ => []

/-- The registry goes on accepting, and the receiver of pulses holds out. -/
def benign : Outside → Bool
  | .accepting on => on
  | .breaking on => !on
  | _ => true

/-- What can come of a world if the bank handles every post at some time, in any order. The owner
has the bank arm anew only while it listens. -/
inductive Reachable (w₀ : World) : Exchange → Prop
  | start : Reachable w₀ ⟨w₀, [], false⟩
  | outside {x : Exchange} (hx : Reachable w₀ x) (o : Outside) (ho : benign o = true) :
      Reachable w₀ ⟨x.world.turn (.outside o), x.posted ++ posts x.world o, x.listening⟩
  | listen {x : Exchange} (hx : Reachable w₀ x) (on : Bool) :
      Reachable w₀ ⟨x.world.turn (.command (.listen on)), x.posted, on⟩
  | rearm {x : Exchange} (hx : Reachable w₀ x) (hl : x.listening = true) :
      Reachable w₀ ⟨x.world.turn (.command .rearm), x.posted, x.listening⟩
  | suppress {x : Exchange} (hx : Reachable w₀ x) (on : Bool) :
      Reachable w₀ ⟨x.world.turn (.command (.suppress on)), x.posted, x.listening⟩
  | handle {x : Exchange} (hx : Reachable w₀ x) {c : Command} {before after : List Command}
      (hc : x.posted = before ++ c :: after) :
      Reachable w₀ ⟨x.world.turn (.command c), before ++ after, x.listening⟩

/-- A post that will make the bank look at all its triggers again, if the user stays. -/
def Outstanding (posted : List Command) (user : User) : Prop :=
  .userSwitched ∈ posted ∨ ∃ key, .settingChanged ⟨key, user⟩ ∈ posted

def reports : Command → Bool
  | .deliver _ _ => true
  | .settingChanged _ => true
  | .userSwitched => true
  | _ => false

theorem reports_of_mem_posts {w : World} {o : Outside} {c : Command} (hc : c ∈ posts w o) :
    reports c = true := by
  cases o with
  | put key user value =>
    simp only [posts] at hc
    split at hc
    · rw [List.mem_singleton.mp hc]
      rfl
    · cases hc
  | switchUser user =>
    rw [List.mem_singleton.mp hc]
    rfl
  | fire l values timestamp =>
    obtain ⟨e, -, rfl⟩ := List.mem_map.mp hc
    rfl
  | accepting | confirming | failing | breaking => cases hc

theorem fit_outside {w : World} (hw : w.Fit) {o : Outside} (ho : benign o = true) :
    (w.turn (.outside o)).Fit := by
  obtain ⟨ha, hb⟩ := hw
  cases o with
  | accepting on => exact ⟨ho, hb⟩
  | breaking on =>
    cases on with
    | true => cases ho
    | false => exact ⟨ha, rfl⟩
  | fire l values timestamp =>
    refine ⟨?_, hb⟩
    rw [← ha]
    simp only [World.turn, World.outside, Platform.outside, Platform.fire, Registry.fire]
    split <;> rfl
  | put | switchUser | confirming | failing => exact ⟨ha, hb⟩

/-- What holds of an exchange throughout. Each trigger is as it should be, or else a post will see
to it. -/
structure Settling (rs : List Requirement) (r : Registry) (x : Exchange) : Prop where
  built : x.world.Built rs r
  running : x.world.closed = false
  fit : x.world.Fit
  guarded : ∀ i, x.world.At i fun t _ => t.Guarded
  requested : ∀ i, x.world.Requested x.listening i
  subscribed : x.world.Subscribed
  watched : x.listening = true → ∀ i, x.world.Watched i
  posted : ∀ c ∈ x.posted, reports c = true
  settled : (∀ i, x.world.At i Trigger.Matched) ∨
    Outstanding x.posted x.world.platform.settings.currentUser

theorem Outstanding.drop {before after : List Command} {c : Command} {user : User}
    (h : Outstanding (before ++ c :: after) user) (hu : c ≠ .userSwitched)
    (hs : ∀ key, c ≠ .settingChanged ⟨key, user⟩) : Outstanding (before ++ after) user := by
  have hm : ∀ d ∈ before ++ c :: after, d = c ∨ d ∈ before ++ after := by simp; tauto
  obtain h | ⟨key, h⟩ := h
  · exact .inl ((hm _ h).resolve_left hu.symm)
  · exact .inr ⟨key, (hm _ h).resolve_left (hs key).symm⟩

namespace Settling

variable {rs : List Requirement} {r : Registry} {x : Exchange}

theorem command (hx : x.Settling rs r) (c : Command) {posted : List Command} {listening : Bool}
    (hq : ∀ i, (x.world.perform (x.world.commandActs c)).Requested listening i)
    (hw : listening = true → ∀ i, (x.world.perform (x.world.commandActs c)).Watched i)
    (hp : ∀ d ∈ posted, reports d = true)
    (hs : (∀ i, (x.world.perform (x.world.commandActs c)).At i Trigger.Matched) ∨
      Outstanding posted x.world.platform.settings.currentUser) :
    Settling rs r ⟨x.world.turn (.command c), posted, listening⟩ := by
  have ht : x.world.turn (.command c) = x.world.perform (x.world.commandActs c) := by
    simp [World.turn, hx.running, World.ask_performed]
  have hu : (x.world.perform (x.world.commandActs c)).platform.settings.currentUser =
      x.world.platform.settings.currentUser :=
    congrArg Outlook.currentUser (x.world.outlook_perform _)
  have hr : (x.world.turn (.command c)).closed = false := by
    simp [World.turn, World.ask, hx.running]
  rw [ht] at hr ⊢
  exact {
    built := World.perform_keeps (fun a _ _ hv => hv.act a) hx.built
    running := hr
    fit := World.perform_keeps (fun a _ _ hv => hv.act a) hx.fit
    guarded := fun i => (hx.guarded i).perform hx.built fun _ _ _ _ _ _ _ _ hs ht => hs.guarded ht
    requested := hq
    subscribed := World.perform_keeps (fun a _ _ hv => hv.act a) hx.subscribed
    watched := hw
    posted := hp
    settled := by rw [hu]; exact hs }

theorem listen (hx : x.Settling rs r) (on : Bool) :
    Settling rs r ⟨x.world.turn (.command (.listen on)), x.posted, on⟩ := by
  refine hx.command _ (fun i => World.requested_listen hx.built on) ?_ hx.posted ?_
  · rintro rfl i
    exact World.watched_listen hx.built
  · exact hx.settled.imp_left fun hm i => World.matched_kept hx.built hx.fit (hm i) _

theorem rearm (hx : x.Settling rs r) (hl : x.listening = true) :
    Settling rs r ⟨x.world.turn (.command .rearm), x.posted, x.listening⟩ := by
  refine hx.command _ (fun i => ?_) (fun h i => ?_) hx.posted ?_
  · rw [hl]
    exact World.requested_rearm hx.built
  · exact World.watched_kept hx.built (by simp) (hx.watched h i)
  · exact hx.settled.imp_left fun hm i => World.matched_kept hx.built hx.fit (hm i) _

theorem suppress (hx : x.Settling rs r) (on : Bool) :
    Settling rs r ⟨x.world.turn (.command (.suppress on)), x.posted, x.listening⟩ := by
  refine hx.command _ (fun i => ?_) (fun h i => ?_) hx.posted ?_
  · exact World.requested_kept hx.built (by simp) (by simp) (hx.requested i)
  · exact World.watched_kept hx.built (by simp) (hx.watched h i)
  · exact hx.settled.imp_left fun hm i => World.matched_kept hx.built hx.fit (hm i) _

/-- A post that matters puts everything right. Any other leaves the one that does. -/
theorem settled_handle (hx : x.Settling rs r) {c : Command} {before after : List Command}
    (hc : x.posted = before ++ c :: after) :
    (∀ i, (x.world.perform (x.world.commandActs c)).At i Trigger.Matched) ∨
      Outstanding (before ++ after) x.world.platform.settings.currentUser := by
  have hs := hx.settled
  rw [hc] at hs
  have kept : (∀ i, x.world.At i Trigger.Matched) →
      ∀ i, (x.world.perform (x.world.commandActs c)).At i Trigger.Matched :=
    fun hm i => World.matched_kept hx.built hx.fit (hm i) _
  have hr : reports c = true := hx.posted c (by simp [hc])
  -- A fire keeps what is right, and is not what an outstanding change waits for.
  cases c with
  | deliver l e => exact hs.imp kept fun h => h.drop (by simp) (by simp)
  | settingChanged ch =>
    cases hu : ch.concerns x.world.platform.settings.currentUser with
    | true =>
      refine .inl fun i => ?_
      rw [World.commandActs, if_pos hu]
      exact World.matched_forEach hx.built hx.fit (hx.guarded i)
    | false =>
      refine hs.imp kept fun h => h.drop (by simp) fun key he => ?_
      obtain rfl := Command.settingChanged.inj he
      simp [SettingChange.concerns] at hu
  | userSwitched =>
    refine .inl fun i => ?_
    let n : Notice := .userSwitched x.world.platform.settings.currentUser
    exact World.matched_forEach (hx.built.act (.note n)) (hx.fit.act (.note n)) (hx.guarded i)
  | listen | rearm | suppress => cases hr

theorem handle (hx : x.Settling rs r) {c : Command} {before after : List Command}
    (hc : x.posted = before ++ c :: after) :
    Settling rs r ⟨x.world.turn (.command c), before ++ after, x.listening⟩ := by
  have hr : reports c = true := hx.posted c (by simp [hc])
  have hl : ∀ on, c ≠ .listen on := by
    rintro on rfl
    cases hr
  have hr' : c ≠ .rearm := by
    rintro rfl
    cases hr
  refine hx.command _ (fun i => World.requested_kept hx.built hl hr' (hx.requested i))
    (fun h i => World.watched_kept hx.built (hl false) (hx.watched h i)) (fun d hd => ?_)
    (hx.settled_handle hc)
  refine hx.posted d ?_
  rw [hc]
  simp only [List.mem_append, List.mem_cons] at hd ⊢
  tauto

/-- A change that the bank's observer does not hear of does not matter to any trigger. -/
theorem unheard (hx : x.Settling rs r) {key : String} {user : User} (value : Bool) {i : Nat}
    {t : Trigger} (ht : x.world.bank.triggers[i]? = some t)
    (hn : user = x.world.platform.settings.currentUser →
      x.world.bank.watch.observer ∉ (x.world.platform.put key user value).1) :
    t.wanted (x.world.platform.settings.put key user value).2 =
      t.wanted x.world.platform.settings := by
  refine Trigger.wanted_put value fun hk hu hc => ?_
  rw [hx.requested i t ht]
  cases hl : x.listening with
  | false => rfl
  | true =>
    have hm := hx.watched hl i t key ht hc hk
    refine absurd ?_ (hn hu)
    exact (Settings.mem_interested _ _ _ _).mpr ⟨.all, hx.subscribed key hm, rfl⟩

theorem settled_outside (hx : x.Settling rs r) (o : Outside) :
    (∀ i, (x.world.turn (.outside o)).At i Trigger.Matched) ∨
      Outstanding (x.posted ++ posts x.world o)
        (x.world.turn (.outside o)).platform.settings.currentUser := by
  have grown : ∀ {user : User}, Outstanding x.posted user →
      Outstanding (x.posted ++ posts x.world o) user := by
    rintro user (h | ⟨key, h⟩)
    · exact .inl (by simp [h])
    · exact .inr ⟨key, by simp [h]⟩
  cases o with
  | put key user value =>
    by_cases hn : user = x.world.platform.settings.currentUser →
      x.world.bank.watch.observer ∉ (x.world.platform.put key user value).1
    · refine hx.settled.imp (fun hm i t ht => ?_) grown
      exact (hm i t ht).trans (hx.unheard value ht hn).symm
    · -- The observer hears of a change for the current user, so it is posted.
      obtain ⟨rfl, ho⟩ := Classical.not_imp.mp hn
      refine .inr (.inr ⟨key, ?_⟩)
      simp only [posts, if_pos (not_not.mp ho)]
      exact List.mem_append_right _ (List.mem_singleton.mpr rfl)
  | switchUser user => exact .inr (.inl (by simp [posts]))
  | fire | accepting | confirming | failing | breaking => exact hx.settled.imp_right grown

theorem outside (hx : x.Settling rs r) (o : Outside) (ho : benign o = true) :
    Settling rs r ⟨x.world.turn (.outside o), x.posted ++ posts x.world o, x.listening⟩ where
  built := hx.built.turn _
  running := hx.running
  fit := fit_outside hx.fit ho
  guarded := hx.guarded
  requested := hx.requested
  subscribed := by cases o <;> exact hx.subscribed
  watched := hx.watched
  posted c hc := (List.mem_append.mp hc).elim (hx.posted c) reports_of_mem_posts
  settled := hx.settled_outside o

theorem start (m : Subtype.Matcher) (rs : List Requirement) (suppressible : Option Nat)
    (o : Observer) {p : Platform} (ha : p.registry.accepting = true)
    (hb : p.callback.breaking = false) :
    Settling rs p.registry ⟨.assembled m rs suppressible o p, [], false⟩ := by
  have hw := World.built_assembled m rs suppressible o p
  have hi : ∀ (i : Nat) (t : Trigger),
      (World.assembled m rs suppressible o p).bank.triggers[i]? = some t →
        t.registered = false ∧ t.requested = false := by
    intro i t ht
    obtain ⟨q, -, rfl⟩ := World.trigger_assembled ht
    exact ⟨rfl, rfl⟩
  exact {
    built := hw
    running := rfl
    fit := ⟨ha, hb⟩
    guarded := fun i t ht => Trigger.guarded_of_idle (hi i t ht).1
    requested := fun i t ht => (hi i t ht).2
    subscribed := fun key hk => by simp [World.assembled, Bank.assemble] at hk
    watched := fun h => by cases h
    posted := by simp
    settled := .inl fun i t ht => by simp [Trigger.Matched, Trigger.wanted, hi i t ht] }

end Settling

theorem Reachable.settling {m : Subtype.Matcher} {rs : List Requirement}
    {suppressible : Option Nat} {o : Observer} {p : Platform}
    (ha : p.registry.accepting = true) (hb : p.callback.breaking = false) {x : Exchange}
    (hx : Reachable (.assembled m rs suppressible o p) x) : x.Settling rs p.registry := by
  induction hx with
  | start => exact .start m rs suppressible o ha hb
  | outside _ o ho ih => exact ih.outside o ho
  | listen _ on ih => exact ih.listen on
  | rearm _ hl ih => exact ih.rearm hl
  | suppress _ on ih => exact ih.suppress on
  | handle _ hc ih => exact ih.handle hc

/-- Once every post has been handled, each trigger is registered just when it should be, by what the
store says now. -/
theorem no_update_lost (m : Subtype.Matcher) (rs : List Requirement) (suppressible : Option Nat)
    (o : Observer) {p : Platform} (ha : p.registry.accepting = true)
    (hb : p.callback.breaking = false) {x : Exchange}
    (hx : Reachable (.assembled m rs suppressible o p) x) (hp : x.posted = []) {i : Nat}
    {t : Trigger} (ht : x.world.bank.triggers[i]? = some t) :
    let s := x.world.platform.settings
    t.registered = (t.configured && t.sensor.isSome && t.requested && !t.disabled &&
      t.setting.all fun key => s.get key s.currentUser true) := by
  intro s
  have hs := hx.settling ha hb
  obtain hm | h | ⟨key, h⟩ := hs.settled
  · refine (hm i t ht).trans ?_
    unfold Trigger.wanted Trigger.enabled
    cases t.setting <;> rfl
  · simp [hp] at h
  · simp [hp] at h

theorem change_not_lost :
    let w := World.assembled .admitNone ({} : Config).requirements (some Config.pickUpPosition) 1
      .standard
    let o := Outside.put Setting.pickUpKey User.system false
    let x : Exchange := ⟨w.turn (.command (.listen true)), [], true⟩
    let y : Exchange := ⟨x.world.turn (.outside o), x.posted ++ posts x.world o, true⟩
    let c := Command.settingChanged ⟨Setting.pickUpKey, User.system⟩
    let z : Exchange := ⟨y.world.turn (.command c), [], true⟩
    let t : Trigger := { Trigger.ofRequirement (.standard "") 1
      ⟨.category .pickUpGesture, .pickUp, some Setting.pickUpKey, true⟩ with requested := true }
    y.posted = [c] ∧ y.world.bank.triggers[1]? = some { t with registered := true } ∧
      Reachable w z ∧ z.world.bank.triggers[1]? = some t ∧
      let s := z.world.platform.settings
      t.registered = (t.configured && t.sensor.isSome && t.requested && !t.disabled &&
        t.setting.all fun key => s.get key s.currentUser true) := by
  intro w o x y c z t
  have hy : y.posted = [c] := by decide +kernel
  have hx : Reachable w y := .outside (.listen .start true) o rfl
  have hc : y.posted = [] ++ c :: [] := hy
  have hz : Reachable w z := .handle hx hc
  have ht : z.world.bank.triggers[1]? = some t := by decide +kernel
  exact ⟨hy, by decide +kernel, hz, ht, no_update_lost .admitNone _ _ 1 rfl rfl hz rfl ht⟩

end Exchange

end AmbientPulse
