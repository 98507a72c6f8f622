import AmbientPulse.Proofs.Attention
import AmbientPulse.Proofs.Emission
import AmbientPulse.Proofs.Policy

namespace AmbientPulse

def Effect.subscribes : Effect → Bool
  | .observe _ _ _ => true
  | .unobserve _ => true
  | _ => false

theorem Effect.subscribes_of_registers {e : Effect} (h : e.registers = true) :
    e.subscribes = false := by
  cases e with
  | request | cancel => rfl
  | observe | unobserve | acquire | release | metric | pulse => cases h

def Requirement.gate? (q : Requirement) : Option String :=
  if q.configured then q.setting.filter (· ≠ "") else none

/-- The settings that a bank watches while it listens: each once, and in the order of the first
requirements that bring them. -/
def settingKeys (rs : List Requirement) : List String :=
  (rs.filterMap Requirement.gate?).eraseDups

theorem mem_settingKeys (rs : List Requirement) (key : String) :
    key ∈ settingKeys rs ↔ Gates rs key := by
  rw [settingKeys, List.mem_eraseDups, List.mem_filterMap]
  refine exists_congr fun q => and_congr_right fun _ => ?_
  unfold Requirement.gate?
  split
  · next hc => simp [hc, Option.filter_eq_some_iff]
  · next hc => simp [hc]

theorem nodup_eraseDups (xs : List String) : xs.eraseDups.Nodup := by
  match xs with
  | [] => simp
  | x :: xs =>
    have h := nodup_eraseDups (xs.filter fun y => !y == x)
    rw [List.eraseDups_cons, List.nodup_cons]
    exact ⟨by simp, h⟩
termination_by xs.length
decreasing_by exact Nat.lt_succ_of_le (List.length_filter_le _ _)

namespace Attention

/-- What a change of attention means for the store: all keys are subscribed to when the bank comes to
listen, and dropped at once when it ceases to. -/
def switchCalls (o : Observer) (keys : List String) (a b : Attention) : List Effect :=
  if a ≠ .listening ∧ b = .listening then keys.map (.observe o · .all)
  else if a = .listening ∧ b ≠ .listening ∧ keys ≠ [] then [.unobserve o]
  else []

def bookkeeping (o : Observer) (keys : List String) : Attention → List Turn → List Effect
  | _, [] => []
  | a, k :: ks => switchCalls o keys a (a.after k) ++ bookkeeping o keys (a.after k) ks

theorem switchCalls_same (o : Observer) (keys : List String) {a b : Attention}
    (h : a = .listening ↔ b = .listening) : switchCalls o keys a b = [] := by
  unfold switchCalls
  by_cases hb : b = .listening
  · simp [h.mpr hb, hb]
  · simp [mt h.mp hb, hb]

theorem switchCalls_on (o : Observer) (keys : List String) {a : Attention} (ha : a ≠ .listening) :
    switchCalls o keys a .listening = keys.map (.observe o · .all) := by
  simp [switchCalls, ha]

theorem switchCalls_off (o : Observer) (keys : List String) {b : Attention} (hb : b ≠ .listening) :
    switchCalls o keys .listening b = if keys = [] then [] else [.unobserve o] := by
  by_cases hk : keys = [] <;> simp [switchCalls, hb, hk]

end Attention

namespace Trigger

theorem gate?_of_bare {t u : Trigger} (h : t.bare = u.bare) : t.gate? = u.gate? := by
  have hc : t.configured = u.configured := congrArg (fun v => v.configured) h
  have hs : t.setting = u.setting := congrArg (fun v => v.setting) h
  rw [gate?, gate?, hc, hs]

theorem calls_unsubscribing (t : Trigger) (p : Platform) :
    (t.calls p).filter Effect.subscribes = [] := by
  refine List.filter_eq_nil_iff.mpr fun e he => ?_
  rw [Effect.subscribes_of_registers (t.calls_registers p e he)]
  exact Bool.false_ne_true

theorem requestCalls_unsubscribing (on : Bool) (t : Trigger) (p : Platform) :
    (t.requestCalls on p).filter Effect.subscribes = [] := by
  unfold requestCalls
  split
  · rfl
  · exact calls_unsubscribing _ p

theorem disableCalls_unsubscribing (on : Bool) (t : Trigger) (p : Platform) :
    (t.disableCalls on p).filter Effect.subscribes = [] := by
  unfold disableCalls
  split
  · rfl
  · exact calls_unsubscribing _ p

theorem fireCalls_unsubscribing (t : Trigger) (m : Subtype.Matcher) (e : Event) (p : Platform) :
    (t.fireCalls m e p).filter Effect.subscribes = [] := by
  have hc := t.spent.calls_unsubscribing p
  unfold fireCalls strike
  cases p.callback.breaking <;> split <;> simp [hc, Effect.subscribes]

theorem bare_setRequested (on : Bool) (t : Trigger) (p : Platform) :
    (t.setRequested on p).1.bare = t.bare := by
  unfold setRequested
  split
  · rfl
  · exact bare_update _ p

end Trigger

/-- Starting subscribes to what is not watched yet, in the order of the triggers. -/
theorem sweep_start_observes (ts : List Trigger) (w : Watch) (p : Platform) :
    (sweep Bank.startTrigger ts (w, p)).2.2.trace.filter Effect.subscribes =
      p.trace.filter Effect.subscribes ++
        ((ts.filterMap Trigger.gate?).filter (!w.isWatching ·)).eraseDups.map
          (.observe w.observer · .all) := by
  induction ts generalizing w p with
  | nil => simp [sweep]
  | cons t ts ih =>
    let r := t.setRequested true p
    have hr : r.2.trace.filter Effect.subscribes = p.trace.filter Effect.subscribes := by
      rw [t.trace_setRequested, List.filter_append, t.requestCalls_unsubscribing, List.append_nil]
    have hg : r.1.gate? = t.gate? := Trigger.gate?_of_bare (t.bare_setRequested true p)
    have hs : sweep Bank.startTrigger (t :: ts) (w, p) =
        (r.1 :: (sweep Bank.startTrigger ts (r.1.attach w r.2)).1,
          (sweep Bank.startTrigger ts (r.1.attach w r.2)).2) := rfl
    rw [hs, r.1.attach_eq, hg, List.filterMap_cons]
    cases t.gate? with
    | none => exact (ih w r.2).trans (by rw [hr])
    | some key =>
      dsimp only [Option.elim_some, Watch.attach]
      cases hk : w.isWatching key with
      | true =>
        rw [List.filter_cons_of_neg (by simp [hk])]
        exact (ih w r.2).trans (by rw [hr])
      | false =>
        have hf : ∀ x, (!x == key && !w.isWatching x) =
            !Watch.isWatching { w with keys := w.keys.insert key } x := fun x => by
          by_cases hx : x = key
          · simp [Watch.isWatching, Std.ExtTreeSet.contains_insert, hx]
          · have hc : (compare key x == .eq) = false := by simpa using Ne.symm hx
            simp [Watch.isWatching, Std.ExtTreeSet.contains_insert, hx, hc]
        rw [List.filter_cons_of_pos (by simp [hk]), List.eraseDups_cons, List.filter_filter]
        refine (ih _ _).trans ?_
        simp [Platform.observe, Platform.record, Effect.subscribes, List.filter_cons, hr, hf]

namespace World

variable {rs : List Requirement} {r : Registry} {o : Observer} {a : Attention} {w : World}

theorem Built.gates_eq (hw : w.Built rs r) :
    w.bank.triggers.filterMap Trigger.gate? = rs.filterMap Requirement.gate? := by
  have hb : w.bank.triggers.map Trigger.bare = rs.mapIdx (Trigger.ofRequirement r) := by
    refine List.ext_getElem? fun i => ?_
    rw [List.getElem?_map, List.getElem?_mapIdx]
    exact hw i
  calc w.bank.triggers.filterMap Trigger.gate?
      = (w.bank.triggers.map Trigger.bare).filterMap Trigger.gate? := by
        rw [List.filterMap_map]
        exact List.filterMap_congr fun t _ => Trigger.gate?_of_bare rfl
    _ = (rs.zipIdx.map Prod.fst).filterMap Requirement.gate? := by
        rw [hb, List.mapIdx_eq_zipIdx_map, List.filterMap_map, List.filterMap_map]
        exact List.filterMap_congr fun q _ => rfl
    _ = rs.filterMap Requirement.gate? := by rw [List.zipIdx_map_fst]

theorem emits_unsubscribing (w : World) {a : Act} (ha : a.subscribes = false) :
    (w.emits a).filter Effect.subscribes = [] := by
  cases a with
  | request i on =>
    rw [emits]
    cases w.bank.triggers[i]? with
    | none => rfl
    | some t => exact t.requestCalls_unsubscribing on _
  | suppress i on =>
    rw [emits]
    cases w.bank.triggers[i]? with
    | none => rfl
    | some t => exact t.disableCalls_unsubscribing on _
  | update i =>
    rw [emits]
    cases w.bank.triggers[i]? with
    | none => rfl
    | some t => exact t.calls_unsubscribing _
  | deliver l e =>
    rw [emits]
    cases w.bank.triggers[l]? with
    | none => rfl
    | some t =>
      rw [Option.elim_some]
      split
      · exact t.fireCalls_unsubscribing _ e _
      · rfl
  | note | shut => rfl
  | attach | detach => cases ha

theorem emitted_unsubscribing {w : World} {as : List Act} (h : ∀ a ∈ as, a.subscribes = false) :
    (w.emitted as).filter Effect.subscribes = [] := by
  induction as generalizing w with
  | nil => rfl
  | cons a as ih =>
    rw [emitted, List.filter_append, w.emits_unsubscribing (h a (by simp)),
      ih fun b hb => h b (by simp [hb]), List.append_nil]

namespace Attended

theorem unwatched (hw : w.Attended rs r o a) (ha : a ≠ .listening) (key : String) :
    w.bank.watch.isWatching key = false :=
  Bool.eq_false_iff.mpr fun h => ha ((hw.keys key).mp (Std.ExtTreeSet.mem_iff_contains.mpr h)).1

/-- A bank that comes to listen subscribes to all its keys, and one that listens already to none. -/
theorem observes (hw : w.Attended rs r o a) (ha : a ≠ .gone) :
    (w.effects (.command (.listen true))).filter Effect.subscribes =
      a.switchCalls o (settingKeys rs) .listening := by
  have hc : w.closed = false := Bool.eq_false_iff.mpr fun h => ha (hw.closed.mp h)
  have ht := w.trace_turn (.command (.listen true))
  have hs := sweep_start_observes w.bank.triggers w.bank.watch (w.platform.note (.listening true))
  have hp : (w.turn (.command (.listen true))).platform =
      (sweep Bank.startTrigger w.bank.triggers
        (w.bank.watch, w.platform.note (.listening true))).2.2 := by
    simp [World.turn, hc, World.ask, Bank.apply, Bank.quietly, Bank.listen, Bank.start]
  rw [← hp, ht, List.filter_append, Platform.trace_note, hw.built.gates_eq, hw.observer] at hs
  rw [List.append_cancel_left hs]
  by_cases hl : a = .listening
  · -- Everything is watched already.
    have hn : (rs.filterMap Requirement.gate?).filter (!w.bank.watch.isWatching ·) = [] := by
      refine List.filter_eq_nil_iff.mpr fun key hk => ?_
      have hg : Gates rs key := (mem_settingKeys rs key).mp (List.mem_eraseDups.mpr hk)
      have hm := Std.ExtTreeSet.mem_iff_contains.mp ((hw.keys key).mpr ⟨hl, hg⟩)
      simpa [Watch.isWatching] using hm
    rw [hn, Attention.switchCalls_same o _ (by simp [hl])]
    rfl
  · rw [Attention.switchCalls_on o _ hl, settingKeys]
    congr 2
    exact List.filter_eq_self.mpr fun key _ => by simp [hw.unwatched hl key]

theorem isSubscribed_iff (hw : w.Attended rs r o a) :
    w.bank.watch.isSubscribed = true ↔ a = .listening ∧ settingKeys rs ≠ [] := by
  have hn : w.bank.watch.keys = ∅ ↔ ∀ key, key ∉ w.bank.watch.keys := by
    refine ⟨fun h key hk => ?_, fun h => Std.ExtTreeSet.ext_mem fun key => ?_⟩
    · rw [h] at hk
      exact Std.ExtTreeSet.not_mem_empty hk
    · simp [h key]
  rw [Watch.isSubscribed, Bool.not_eq_true', ← Bool.not_eq_true, Std.ExtTreeSet.isEmpty_iff, hn,
    not_forall_not, ne_eq, List.eq_nil_iff_forall_not_mem, not_forall_not]
  simp only [hw.keys, mem_settingKeys, exists_and_left]

/-- Stopping drops all subscriptions at once, if there are any. -/
theorem unobserves (hw : w.Attended rs r o a) {b : Attention} (hb : b ≠ .listening) :
    (w.emitted (w.commandActs (.listen false))).filter Effect.subscribes =
      a.switchCalls o (settingKeys rs) b := by
  let as : List Act := .note (.listening false) :: w.forEach fun i => [.request i false]
  have hn : ∀ b ∈ as, b.subscribes = false := by
    grind [mem_forEach, Act.subscribes]
  have hk : (w.perform as).bank.watch = w.bank.watch := watch_perform hn
  have he : w.emitted (w.commandActs (.listen false)) = w.emitted as ++ w.bank.watch.detachCalls := by
    rw [← hk]
    exact (w.emitted_append as [.detach]).trans (by rw [emitted_singleton, emits])
  rw [he, List.filter_append, emitted_unsubscribing hn, List.nil_append, Watch.detachCalls,
    hw.observer]
  by_cases ha : a = .listening
  · rw [ha, Attention.switchCalls_off o _ hb]
    by_cases hs : settingKeys rs = []
    · rw [if_neg (by rw [hw.isSubscribed_iff]; simp [hs]), if_pos hs]
      rfl
    · rw [if_pos (hw.isSubscribed_iff.mpr ⟨ha, hs⟩), if_neg hs]
      rfl
  · rw [if_neg (by rw [hw.isSubscribed_iff]; simp [ha]),
      Attention.switchCalls_same o _ (by simp [ha, hb])]
    rfl

theorem command_subscribes (hw : w.Attended rs r o a) (ha : a ≠ .gone) (c : Command) :
    (w.effects (.command c)).filter Effect.subscribes =
      a.switchCalls o (settingKeys rs) (a.after (.command c)) := by
  have hc : w.closed = false := Bool.eq_false_iff.mpr fun h => ha (hw.closed.mp h)
  have he : w.effects (.command c) = w.emitted (w.commandActs c) := by
    rw [effects_eq, World.acts, hc]
    rfl
  have quiet (hl : ∀ on, c ≠ .listen on)
      (hk : a = .listening ↔ a.after (.command c) = .listening) :
      (w.effects (.command c)).filter Effect.subscribes =
        a.switchCalls o (settingKeys rs) (a.after (.command c)) := by
    rw [he, emitted_unsubscribing fun b hb => subscribes_of_mem_commandActs hl hb,
      Attention.switchCalls_same o _ hk]
  cases c with
  | listen on =>
    rw [Attention.after_listen ha]
    cases on with
    | true => exact hw.observes ha
    | false =>
      rw [he]
      exact hw.unobserves (by simp)
  | rearm => exact quiet (by simp) a.after_rearm_listening.symm
  | deliver | settingChanged | userSwitched | suppress =>
    exact quiet (by simp) (by rw [a.after_other (by simp) (by simp)])

theorem turn_subscribes (hw : w.Attended rs r o a) (k : Turn) :
    (w.effects k).filter Effect.subscribes = a.switchCalls o (settingKeys rs) (a.after k) := by
  by_cases ha : a = .gone
  · have hn : w.acts k = [] := by
      cases k <;> simp [World.acts, hw.closed.mpr ha]
    have hk : a.after k = .gone := by
      rw [ha]
      rfl
    rw [effects_eq, hn, hk, Attention.switchCalls_same o _ (by simp [ha])]
    rfl
  · cases k with
    | outside e =>
      rw [Attention.after_outside, Attention.switchCalls_same o _ Iff.rfl, effects_eq]
      rfl
    | command c => exact hw.command_subscribes ha c
    | close =>
      have hc : w.closed = false := Bool.eq_false_iff.mpr fun h => ha (hw.closed.mp h)
      have he : w.effects .close = w.emitted (w.commandActs (.listen false)) ++ [] := by
        rw [effects_eq, World.acts, hc, if_neg (by simp), emitted_append, emitted_singleton, emits]
      rw [he, List.append_nil, Attention.after_close]
      exact hw.unobserves (by simp)

theorem run_subscribes (hw : w.Attended rs r o a) (ts : List Turn) :
    (w.run ts).platform.trace.filter Effect.subscribes =
      w.platform.trace.filter Effect.subscribes ++ a.bookkeeping o (settingKeys rs) ts := by
  induction ts generalizing w a with
  | nil => simp [Attention.bookkeeping]
  | cons k ts ih =>
    calc ((w.turn k).run ts).platform.trace.filter Effect.subscribes
        = (w.turn k).platform.trace.filter Effect.subscribes ++
            (a.after k).bookkeeping o (settingKeys rs) ts := ih (hw.turn k)
      _ = w.platform.trace.filter Effect.subscribes ++
            (a.switchCalls o (settingKeys rs) (a.after k) ++
              (a.after k).bookkeeping o (settingKeys rs) ts) := by
        rw [trace_turn, List.filter_append, hw.turn_subscribes, List.append_assoc]

end Attended

/-- While a bank listens, its watch and the store agree that its observer is down for the settings of
all its triggers, whosever they are changed for, and otherwise they agree that it is down for none.
It registers for each of these settings once when it comes to listen and drops them in one call when
it ceases to, if there are any, and makes no other call of the kind. -/
theorem subscriptions_accounted (m : Subtype.Matcher) (rs : List Requirement)
    (suppressible : Option Nat) {o : Observer} {p : Platform}
    (ho : ∀ key, p.settings.scopeOf? o key = none) (ts : List Turn) :
    let w := (assembled m rs suppressible o p).run ts
    let keys := settingKeys rs
    (keys.Nodup ∧ ∀ key, key ∈ keys ↔ Gates rs key) ∧
      (∀ key, key ∈ w.bank.watch.keys ↔ Attention.ofRun ts = .listening ∧ key ∈ keys) ∧
      (∀ key s, w.platform.settings.scopeOf? o key = some s ↔
        s = .all ∧ key ∈ w.bank.watch.keys) ∧
      w.platform.trace.filter Effect.subscribes =
        p.trace.filter Effect.subscribes ++ Attention.bookkeeping o keys .idle ts := by
  intro w keys
  have h₀ := Attended.assembled m rs suppressible ho
  have hw : w.Attended rs p.registry o (Attention.ofRun ts) := h₀.run ts
  refine ⟨⟨nodup_eraseDups _, mem_settingKeys rs⟩, fun key => ?_, fun key s => ?_,
    h₀.run_subscribes ts⟩
  · rw [hw.keys, mem_settingKeys]
  · rw [hw.scope, hw.keys]

theorem subscriptions_accounted_standard :
    let c : Config := { doubleTapType := "tap" }
    let keys := [Setting.pickUpKey, Setting.doubleTapKey]
    let ts := [.command .rearm, .command (.listen true), .command (.listen true),
      .command (.suppress true), .command (.listen false), .command .rearm, .close]
    let w := (assembled .admitNone c.requirements (some Config.pickUpPosition) 1 .standard).run ts
    (∀ key, Platform.standard.settings.scopeOf? 1 key = none) ∧ settingKeys c.requirements = keys ∧
      w.platform.trace.filter Effect.subscribes =
        [.observe 1 Setting.pickUpKey .all, .observe 1 Setting.doubleTapKey .all, .unobserve 1] := by
  intro c keys ts w
  have ho : ∀ key, Platform.standard.settings.scopeOf? 1 key = none := fun key => by
    simp [Platform.standard, Settings.scopeOf?]
  have hk : settingKeys c.requirements = keys := by decide +kernel
  obtain ⟨-, -, -, h⟩ := subscriptions_accounted .admitNone c.requirements
    (some Config.pickUpPosition) ho ts
  rw [hk] at h
  exact ⟨ho, hk, h⟩

end World

end AmbientPulse
