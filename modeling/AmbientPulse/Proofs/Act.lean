import AmbientPulse.Proofs.Registration
import AmbientPulse.Proofs.World

namespace AmbientPulse

/-- The steps that a bank's turns are made of. Each concerns one trigger, or the watch, or no part
of the bank at all. -/
inductive Act where
  | note (n : Notice)
  | request (i : Nat) (on : Bool)
  | suppress (i : Nat) (on : Bool)
  | update (i : Nat)
  | attach (i : Nat)
  | detach
  | deliver (l : Listener) (e : Event)
  | shut

namespace World

def change (w : World) (i : Nat) (f : Trigger → Platform → Trigger × Platform) : World :=
  match w.bank.triggers[i]? with
  | none => w
  | some t =>
    let r := f t w.platform
    { w with bank := w.bank.setTrigger i r.1, platform := r.2 }

def act (w : World) : Act → World
  | .note n => { w with platform := w.platform.note n }
  | .request i on => w.change i (Trigger.setRequested on)
  | .suppress i on => w.change i (Trigger.setDisabled on)
  | .update i => w.change i Trigger.update
  | .attach i =>
    match w.bank.triggers[i]? with
    | none => w
    | some t =>
      let r := t.attach w.bank.watch w.platform
      { w with bank := { w.bank with watch := r.1 }, platform := r.2 }
  | .detach =>
    let r := w.bank.watch.detach w.platform
    { w with bank := { w.bank with watch := r.1 }, platform := r.2 }
  | .deliver l e =>
    let r := w.bank.deliver l e w.platform
    { w with bank := r.1.2, platform := r.2 }
  | .shut => { w with closed := true }

def perform (w : World) (as : List Act) : World :=
  as.foldl act w

@[simp] theorem perform_nil (w : World) : w.perform [] = w := rfl

@[simp] theorem perform_cons (w : World) (a : Act) (as : List Act) :
    w.perform (a :: as) = (w.act a).perform as := rfl

theorem perform_append (w : World) (as bs : List Act) :
    w.perform (as ++ bs) = (w.perform as).perform bs :=
  List.foldl_append

theorem perform_keeps {P : World → Prop} {as : List Act}
    (h : ∀ a ∈ as, ∀ w, P w → P (act w a)) {w : World} (hw : P w) : P (w.perform as) := by
  induction as generalizing w with
  | nil => exact hw
  | cons a as ih => exact ih (fun b hb => h b (by simp [hb])) (h a (by simp) w hw)

/-- What one of the acts brings about and the others keep, holds after them. -/
theorem perform_establishes {Q P : World → Prop} {as : List Act} {a : Act} (ha : a ∈ as)
    (hQ : ∀ b ∈ as, ∀ w, Q w → Q (act w b)) (hset : ∀ w, Q w → P (act w a))
    (hkeep : ∀ b ∈ as, ∀ w, Q w → P w → P (act w b)) {w : World} (hw : Q w) :
    P (w.perform as) := by
  obtain ⟨xs, ys, rfl⟩ := List.append_of_mem ha
  have hx : Q (w.perform xs) := perform_keeps (fun b hb => hQ b (by simp [hb])) hw
  have hy : ∀ b ∈ ys, ∀ v, Q v ∧ P v → Q (act v b) ∧ P (act v b) := fun b hb v hv =>
    ⟨hQ b (by simp [hb]) v hv.1, hkeep b (by simp [hb]) v hv.1 hv.2⟩
  rw [perform_append, perform_cons]
  exact (perform_keeps hy ⟨hQ a ha _ hx, hset _ hx⟩).2

def forEach (w : World) (f : Nat → List Act) : List Act :=
  (List.range w.bank.triggers.length).flatMap f

theorem mem_forEach {w : World} {f : Nat → List Act} {a : Act} :
    a ∈ w.forEach f ↔ ∃ i < w.bank.triggers.length, a ∈ f i := by
  simp [forEach]

def commandActs (w : World) : Command → List Act
  | .deliver l e => [.deliver l e]
  | .settingChanged c =>
    if c.concerns w.platform.settings.currentUser then w.forEach fun i => [.update i]
    else [.note (.changeIgnored c w.platform.settings.currentUser)]
  | .userSwitched =>
    .note (.userSwitched w.platform.settings.currentUser) :: w.forEach fun i => [.update i]
  | .listen true => .note (.listening true) :: w.forEach fun i => [.request i true, .attach i]
  | .listen false => .note (.listening false) :: (w.forEach fun i => [.request i false]) ++ [.detach]
  | .rearm => (w.forEach fun i => [.request i false]) ++ w.forEach fun i => [.request i true]
  | .suppress on => w.bank.suppressible.toList.map fun i => .suppress i on

def acts (w : World) : Turn → List Act
  | .command c => if w.closed then [] else w.commandActs c
  | .close => if w.closed then [] else w.commandActs (.listen false) ++ [.shut]
  | .outside _ => []

/-- A sweep over the triggers is performed trigger by trigger. `join` tells how a list of triggers
and the state of the sweep make up a world. -/
theorem sweep_performed {σ : Type} (f : Trigger → σ → Trigger × σ) (g : Nat → List Act)
    (join : List Trigger → σ → World)
    (h : ∀ done t rest s, (join (done ++ t :: rest) s).perform (g done.length) =
      join (done ++ (f t s).1 :: rest) (f t s).2)
    (done rest : List Trigger) (s : σ) :
    (join (done ++ rest) s).perform ((List.range' done.length rest.length).flatMap g) =
      join (done ++ (sweep f rest s).1) (sweep f rest s).2 := by
  induction rest generalizing done s with
  | nil => simp [sweep]
  | cons t rest ih =>
    have hs := ih (done ++ [(f t s).1]) (f t s).2
    rw [List.append_assoc, List.singleton_append, List.length_append, List.length_singleton] at hs
    rw [List.length_cons, List.range'_succ, List.flatMap_cons, perform_append, h, hs]
    simp [sweep]

theorem length_sweep {σ : Type} (f : Trigger → σ → Trigger × σ) (ts : List Trigger) (s : σ) :
    (sweep f ts s).1.length = ts.length := by
  induction ts generalizing s with
  | nil => rfl
  | cons t ts ih => simp [sweep, ih]

theorem sweepTriggers_performed (w : World) (f : Trigger → Platform → Trigger × Platform)
    (g : Nat → Act) (hg : ∀ v i, act v (g i) = v.change i f) :
    w.perform (w.forEach fun i => [g i]) =
      { w with bank := (w.bank.sweepTriggers f w.platform).1
               platform := (w.bank.sweepTriggers f w.platform).2 } := by
  have h := sweep_performed f (fun i => [g i])
    (fun ts p => { w with bank := { w.bank with triggers := ts }, platform := p })
    (fun done t rest p => by simp [hg, change, Bank.setTrigger]) [] w.bank.triggers w.platform
  rw [forEach, List.range_eq_range']
  exact h

theorem start_performed (w : World) :
    w.perform (w.forEach fun i => [.request i true, .attach i]) =
      { w with bank := (w.bank.start w.platform).1, platform := (w.bank.start w.platform).2 } := by
  have h := sweep_performed Bank.startTrigger (fun i => [.request i true, .attach i])
    (fun ts s => { w with bank := { w.bank with triggers := ts, watch := s.1 }, platform := s.2 })
    (fun done t rest s => by simp [act, change, Bank.setTrigger, Bank.startTrigger])
    [] w.bank.triggers (w.bank.watch, w.platform)
  rw [forEach, List.range_eq_range']
  exact h

theorem listen_performed (w : World) (on : Bool) :
    w.perform (w.commandActs (.listen on)) =
      { w with bank := (w.bank.listen on w.platform).1
               platform := (w.bank.listen on w.platform).2 } := by
  cases on with
  | true => exact start_performed { w with platform := w.platform.note (.listening true) }
  | false =>
    have h := sweepTriggers_performed { w with platform := w.platform.note (.listening false) }
      (Trigger.setRequested false) (.request · false) (fun _ _ => rfl)
    rw [commandActs, List.cons_append, perform_cons, perform_append]
    exact congrArg (fun v => v.perform [.detach]) h

theorem rearm_performed (w : World) :
    w.perform (w.commandActs .rearm) =
      { w with bank := (w.bank.rearm w.platform).1, platform := (w.bank.rearm w.platform).2 } := by
  let v := w.perform (w.forEach fun i => [.request i false])
  let r := w.bank.sweepTriggers (Trigger.setRequested false) w.platform
  have hv : v = { w with bank := r.1, platform := r.2 } :=
    sweepTriggers_performed w (Trigger.setRequested false) (.request · false) (fun _ _ => rfl)
  have hn : v.bank.triggers.length = w.bank.triggers.length := by
    rw [hv]
    exact length_sweep _ _ _
  have hf : v.forEach (fun i => [.request i true]) = w.forEach fun i => [.request i true] := by
    rw [forEach, hn, forEach]
  have h := sweepTriggers_performed v (Trigger.setRequested true) (.request · true) (fun _ _ => rfl)
  rw [hf] at h
  rw [commandActs, perform_append]
  refine h.trans ?_
  rw [hv]
  rfl

theorem ask_performed (w : World) (c : Command) : w.ask c = w.perform (w.commandActs c) := by
  cases c with
  | deliver l e => rfl
  | settingChanged c =>
    cases hc : c.concerns w.platform.settings.currentUser with
    | true =>
      have h := sweepTriggers_performed w Trigger.update .update (fun _ _ => rfl)
      simp only [commandActs, hc, ask, Bank.apply, Bank.quietly, Bank.settingChanged, if_true]
      exact h.symm
    | false => simp [commandActs, hc, ask, Bank.apply, Bank.quietly, Bank.settingChanged, act]
  | userSwitched =>
    exact (sweepTriggers_performed
      { w with platform := w.platform.note (.userSwitched w.platform.settings.currentUser) }
      Trigger.update .update (fun _ _ => rfl)).symm
  | listen on => exact (w.listen_performed on).symm
  | rearm => exact w.rearm_performed.symm
  | suppress on =>
    cases hs : w.bank.suppressible with
    | none => simp [commandActs, hs, ask, Bank.apply, Bank.quietly, Bank.suppress]
    | some i =>
      cases ht : w.bank.triggers[i]? <;>
        simp [commandActs, hs, ht, ask, Bank.apply, Bank.quietly, Bank.suppress, act, change]

/-- Every turn of the bank is performed act by act. -/
theorem turn_performed (w : World) {t : Turn} (ht : ∀ o, t ≠ .outside o) :
    w.turn t = w.perform (w.acts t) := by
  cases t with
  | command c =>
    cases hc : w.closed with
    | true => simp [turn, acts, hc]
    | false => simpa [turn, acts, hc] using w.ask_performed c
  | close =>
    cases hc : w.closed with
    | true => simp [turn, acts, hc]
    | false => simp [turn, acts, hc, perform_append, listen_performed, close, Bank.close, act]
  | outside o => exact absurd rfl (ht o)

theorem turn_deliver {w : World} (hc : w.closed = false) (l : Listener) (e : Event) :
    w.turn (.command (.deliver l e)) = w.act (.deliver l e) := by
  simp [turn, hc, act, ask, Bank.apply]

theorem turn_cases (w : World) (t : Turn) :
    (∃ o, t = .outside o) ∨ ((∀ o, t ≠ .outside o) ∧ w.turn t = w.perform (w.acts t)) := by
  by_cases ho : ∃ o, t = .outside o
  · exact .inl ho
  · have ht : ∀ o, t ≠ .outside o := fun o h => ho ⟨o, h⟩
    exact .inr ⟨ht, w.turn_performed ht⟩

theorem turn_keeps {P : World → Prop} (ha : ∀ w a, P w → P (w.act a))
    (ho : ∀ w o, P w → P (w.outside o)) {w : World} (hw : P w) (t : Turn) : P (w.turn t) := by
  obtain ⟨o, rfl⟩ | ⟨-, h⟩ := w.turn_cases t
  · exact ho w o hw
  · rw [h]
    exact perform_keeps (fun a _ v hv => ha v a hv) hw

end World

end AmbientPulse
