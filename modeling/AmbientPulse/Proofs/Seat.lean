import AmbientPulse.Proofs.Step

namespace AmbientPulse

/-- A call for the registry as the trigger tells it that makes it. -/
inductive Call where
  | request (sensor : Sensor) (accepted : Bool)
  | cancel (sensor : Sensor) (confirmed : Bool)
  deriving DecidableEq, Repr

def Effect.call? (i : Listener) : Effect → Option Call
  | .request l s accepted => if l = i then some (.request s accepted) else none
  | .cancel l s confirmed => if l = i then some (.cancel s confirmed) else none
  | _ => none

namespace Outlook

/-- A store without observers. A trigger sees no more of one. -/
def settings (v : Outlook) : Settings where
  currentUser := v.currentUser
  values := v.values

def outside (v : Outlook) : Outside → Outlook
  | .put key user value => { v with values := v.values.insert (key, user) value }
  | .switchUser user => { v with currentUser := user }
  | .fire _ _ _ => v
  | .accepting on => { v with accepting := on }
  | .confirming on => { v with confirming := on }
  | .failing on => { v with callback := { v.callback with failing := on } }
  | .breaking on => { v with callback := { v.callback with breaking := on } }

end Outlook

/-- One trigger by itself, with all of the world that matters to it. Its position in a bank does not,
so it is given the first one. -/
@[ext]
structure Seat where
  trigger : Trigger
  suppressible : Bool
  outlook : Outlook
  armed : Option Sensor
  calls : List Call
  closed : Bool

/-- What a trigger at a seat is made to do. -/
inductive Move where
  | request (on : Bool)
  | suppress (on : Bool)
  | update
  | fire
  | shut
  deriving DecidableEq, Repr

namespace Seat

def arm (s : Seat) (h : Sensor) : Seat :=
  { s with
    trigger := { s.trigger with registered := s.outlook.accepting }
    armed := if s.outlook.accepting then some h else s.armed
    calls := s.calls ++ [.request h s.outlook.accepting] }

def disarm (s : Seat) (h : Sensor) : Seat :=
  { s with
    trigger := { s.trigger with registered := false }
    armed := if s.outlook.confirming then none else s.armed
    calls := s.calls ++ [.cancel h (s.outlook.confirming && s.armed.isSome)] }

def update (s : Seat) : Seat :=
  match s.trigger.sensor with
  | none => s
  | some h =>
    match s.trigger.wanted s.outlook.settings, s.trigger.registered with
    | true, false => s.arm h
    | false, true => s.disarm h
    | _, _ => s

def move (s : Seat) : Move → Seat
  | .request on =>
    if s.trigger.requested = on then s
    else update { s with trigger := { s.trigger with requested := on } }
  | .suppress on =>
    if s.trigger.disabled = on then s
    else update { s with trigger := { s.trigger with disabled := on } }
  | .update => s.update
  | .fire =>
    if s.trigger.registered then
      let spent := { s with trigger := s.trigger.spent }
      if s.outlook.callback.breaking then spent else spent.update
    else s
  | .shut => { s with closed := true }

/-- What a command comes to for the one trigger that it reaches. -/
def moves (s : Seat) : Command → List Move
  | .deliver _ _ => [.fire]
  | .settingChanged c => if c.concerns s.outlook.currentUser then [.update] else []
  | .userSwitched => [.update]
  | .listen on => [.request on]
  | .rearm => [.request false, .request true]
  | .suppress on => if s.suppressible then [.suppress on] else []

def perform (s : Seat) (ms : List Move) : Seat :=
  ms.foldl move s

def turn (s : Seat) : Turn → Seat
  | .command c => if s.closed then s else s.perform (s.moves c)
  | .close => if s.closed then s else s.perform [.request false, .shut]
  | .outside (.fire _ _ _) => { s with armed := none }
  | .outside o => { s with outlook := s.outlook.outside o }

/-- The trigger as it stands in its world. -/
def of (i : Listener) (suppressible closed : Bool) (t : Trigger) (p : Platform) : Seat where
  trigger := { t with listener := 0 }
  suppressible := suppressible
  outlook := p.outlook
  armed := p.registry.armed[i]?
  calls := p.trace.filterMap (Effect.call? i)
  closed := closed

section Triggers

variable {i : Listener} {b c : Bool} {t : Trigger} {p q : Platform}

theorem of_passed (hp : p.Passed i false q) : of i b c t q = of i b c t p := by
  obtain ⟨es, ht, hes⟩ := hp.trace
  have hn : es.filterMap (Effect.call? i) = [] := by
    refine List.filterMap_eq_nil_iff.mpr fun e he => ?_
    have hm := hes e he
    cases e <;> simp_all [Effect.mark?, Effect.call?]
  simp [of, hp.outlook, hp.armed, ht, hn]

theorem update_of :
    (of i b c t p).update =
      match t.sensor with
      | none => of i b c t p
      | some h =>
        match t.wanted p.settings, t.registered with
        | true, false => (of i b c t p).arm h
        | false, true => (of i b c t p).disarm h
        | _, _ => of i b c t p := rfl

theorem of_arm (hl : t.listener = i) (h : Sensor) :
    of i b c (t.arm h p).1 (t.arm h p).2 = (of i b c t p).arm h := by
  subst hl
  refine Seat.ext rfl rfl rfl ?_ ?_ rfl
  · refine (Registry.armed_request _ _ _ _).trans ?_
    cases ha : p.registry.accepting <;> simp [arm, of, Platform.outlook, ha]
  · simp [of, arm, Trigger.arm, Effect.call?, Platform.outlook]

theorem of_disarm (hl : t.listener = i) (h : Sensor) :
    of i b c (t.disarm h p).1 (t.disarm h p).2 = (of i b c t p).disarm h := by
  subst hl
  refine Seat.ext rfl rfl rfl ?_ ?_ rfl
  · refine (Registry.armed_cancel _ _ _).trans ?_
    cases hc : p.registry.confirming <;> simp [disarm, of, Platform.outlook, hc]
  · simp [of, disarm, Trigger.disarm, Effect.call?, Platform.outlook, Registry.isArmed]

theorem of_update (hl : t.listener = i) :
    of i b c (t.update p).1 (t.update p).2 = (of i b c t p).update := by
  rw [update_of]
  obtain ⟨hn, hu, -⟩ | ⟨h, hs, hw, hr, hu, -⟩ | ⟨h, hs, hw, hr, hu, -⟩ := t.update_cases p
  · rw [hu]
    obtain hs | hw := hn
    · rw [hs]
    · rw [hw]
      cases t.sensor <;> cases t.registered <;> rfl
  · rw [hu, hs, hw, hr]
    exact of_arm hl h
  · rw [hu, hs, hw, hr]
    exact of_disarm hl h

theorem of_setRequested (hl : t.listener = i) (on : Bool) :
    of i b c (t.setRequested on p).1 (t.setRequested on p).2 =
      (of i b c t p).move (.request on) := by
  have hr : (of i b c t p).trigger.requested = t.requested := rfl
  simp only [Trigger.setRequested, move, hr]
  split
  · rfl
  · exact of_update (t := { t with requested := on }) hl

theorem of_setDisabled (hl : t.listener = i) (on : Bool) :
    of i b c (t.setDisabled on p).1 (t.setDisabled on p).2 =
      (of i b c t p).move (.suppress on) := by
  have hd : (of i b c t p).trigger.disabled = t.disabled := rfl
  simp only [Trigger.setDisabled, move, hd]
  split
  · rfl
  · exact of_update (t := { t with disabled := on }) hl

theorem move_fire_idle (hr : t.registered = false) :
    (of i b c t p).move .fire = of i b c t p := by
  have hr' : (of i b c t p).trigger.registered = false := hr
  simp [move, hr']

theorem of_broken (m : Subtype.Matcher) (e : Event) (hr : t.registered = true)
    (hb : p.callback.breaking = true) :
    of i b c t.spent (t.struck m e p).release = (of i b c t p).move .fire := by
  have hr' : (of i b c t p).trigger.registered = true := hr
  have hb' : (of i b c t p).outlook.callback.breaking = true := hb
  rw [of_passed ((Platform.Passed.struck t m e p).trans (.release _))]
  simp only [move, hr', hb', if_true]
  rfl

theorem of_fired (hl : t.listener = i) (m : Subtype.Matcher) (e : Event)
    (hr : t.registered = true) (hb : p.callback.breaking = false) :
    of i b c (t.spent.update (t.struck m e p)).1 (t.spent.update (t.struck m e p)).2.release =
      (of i b c t p).move .fire := by
  have hr' : (of i b c t p).trigger.registered = true := hr
  have hb' : (of i b c t p).outlook.callback.breaking = false := hb
  have hs : of i b c t.spent p = { of i b c t p with trigger := (of i b c t p).trigger.spent } := rfl
  rw [of_passed (.release _), of_update (t := t.spent) hl, of_passed (.struck t m e p), hs]
  simp [move, hr', hb']

end Triggers

end Seat

namespace Act

/-- What an act makes the trigger at a position do. -/
def move? (i : Nat) : Act → Option Move
  | .request j on => if j = i then some (.request on) else none
  | .suppress j on => if j = i then some (.suppress on) else none
  | .update j => if j = i then some .update else none
  | .deliver l _ => if l = i then some .fire else none
  | .shut => some .shut
  | _ => none

end Act

namespace World

def seat? (w : World) (i : Nat) : Option Seat :=
  w.bank.triggers[i]?.map fun t =>
    Seat.of i (w.bank.suppressible == some i) w.closed t w.platform

theorem suppressible_change (w : World) (i : Nat) (f : Trigger → Platform → Trigger × Platform) :
    (w.change i f).bank.suppressible = w.bank.suppressible ∧ (w.change i f).closed = w.closed := by
  unfold change
  split <;> exact ⟨rfl, rfl⟩

@[simp] theorem suppressible_act (w : World) (a : Act) :
    (w.act a).bank.suppressible = w.bank.suppressible := by
  cases a with
  | request i on | suppress i on | update i => exact (w.suppressible_change i _).1
  | attach i =>
    simp only [act]
    split <;> rfl
  | deliver l e =>
    obtain ⟨-, n, h⟩ | ⟨t, -, -, ⟨-, h⟩ | ⟨-, h⟩⟩ := w.deliver_cases l e <;> rw [h] <;> rfl
  | note n | detach | shut => rfl

theorem closed_act (w : World) {a : Act} (ha : a ≠ .shut) : (w.act a).closed = w.closed := by
  cases a with
  | request i on | suppress i on | update i => exact (w.suppressible_change i _).2
  | attach i =>
    simp only [act]
    split <;> rfl
  | note n | detach | deliver l e => rfl
  | shut => exact absurd rfl ha

section Seats

variable {w : World} {i : Nat} {s : Seat}

theorem seat_passed (hw : w.Ordered) {a : Act} (ha : a.concerns i = false) (hn : a ≠ .shut) :
    (w.act a).seat? i = w.seat? i := by
  obtain ⟨ht, hp⟩ := act_passed hw ha
  rw [seat?, ht, suppressible_act, closed_act w hn]
  exact congrArg (w.bank.triggers[i]?.map ·) (funext fun t => Seat.of_passed hp)

theorem seat_change {f : Trigger → Platform → Trigger × Platform} {m : Move} (hw : w.Ordered)
    (hf : ∀ b c t p, t.listener = i →
      Seat.of i b c (f t p).1 (f t p).2 = (Seat.of i b c t p).move m)
    (hs : w.seat? i = some s) : (w.change i f).seat? i = some (s.move m) := by
  obtain ⟨t, ht, rfl⟩ := Option.map_eq_some_iff.mp hs
  rw [change_some f ht, seat?, getElem?_setTrigger _ ht]
  exact congrArg some (hf _ _ t _ (hw i t ht))

theorem seat_deliver (hw : w.Ordered) (e : Event) (hs : w.seat? i = some s) :
    (w.act (.deliver i e)).seat? i = some (s.move .fire) := by
  obtain ⟨t, ht, rfl⟩ := Option.map_eq_some_iff.mp hs
  obtain ⟨hr, n, h⟩ | ⟨u, hu, hr, h⟩ := w.deliver_cases i e
  · rw [h, Seat.move_fire_idle (hr t ht)]
    exact hs
  · obtain rfl : u = t := Option.some.inj (hu.symm.trans ht)
    obtain ⟨hb, h⟩ | ⟨hb, h⟩ := h
    · rw [h, seat?, getElem?_setTrigger _ ht]
      exact congrArg some (Seat.of_broken _ e hr hb)
    · rw [h, seat?, getElem?_setTrigger _ ht]
      exact congrArg some (Seat.of_fired (hw i u ht) _ e hr hb)

/-- What an act makes a trigger do follows from nothing but what the trigger sees. -/
theorem seat_act (hw : w.Ordered) (a : Act) (hs : w.seat? i = some s) :
    (w.act a).seat? i = some ((a.move? i).elim s s.move) := by
  have passed : a.concerns i = false → a ≠ .shut → (w.act a).seat? i = some s := fun ha hn =>
    (seat_passed hw ha hn).trans hs
  cases a with
  | request j on =>
    by_cases hj : j = i
    · rw [hj, Act.move?, if_pos rfl]
      exact seat_change hw (fun _ _ _ _ hl => Seat.of_setRequested hl on) hs
    · rw [Act.move?, if_neg hj]
      exact passed (by simp [Act.concerns, hj]) (by simp)
  | suppress j on =>
    by_cases hj : j = i
    · rw [hj, Act.move?, if_pos rfl]
      exact seat_change hw (fun _ _ _ _ hl => Seat.of_setDisabled hl on) hs
    · rw [Act.move?, if_neg hj]
      exact passed (by simp [Act.concerns, hj]) (by simp)
  | update j =>
    by_cases hj : j = i
    · rw [hj, Act.move?, if_pos rfl]
      exact seat_change hw (m := .update) (fun _ _ _ _ hl => Seat.of_update hl) hs
    · rw [Act.move?, if_neg hj]
      exact passed (by simp [Act.concerns, hj]) (by simp)
  | deliver l e =>
    by_cases hl : l = i
    · rw [hl, Act.move?, if_pos rfl]
      exact seat_deliver hw e hs
    · rw [Act.move?, if_neg hl]
      exact passed (by simp [Act.concerns, hl]) (by simp)
  | note n => exact passed rfl (by simp)
  | attach j => exact passed rfl (by simp)
  | detach => exact passed rfl (by simp)
  | shut =>
    obtain ⟨t, ht, rfl⟩ := Option.map_eq_some_iff.mp hs
    simp only [act, seat?, ht]
    rfl

end Seats

end World

end AmbientPulse
