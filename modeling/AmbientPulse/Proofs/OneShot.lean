import Mathlib.Data.List.Basic
import Mathlib.Data.List.Induction
import AmbientPulse.Registry
import AmbientPulse.Proofs.History

namespace AmbientPulse.Registry

/-- What a registry can be asked, or told. -/
inductive Call where
  | request (l : Listener) (s : Sensor)
  | cancel (l : Listener)
  | fire (l : Listener) (values : List Number.Single) (timestamp : UInt64)
  | accepting (on : Bool)
  | confirming (on : Bool)
  deriving DecidableEq, Repr

inductive Answer where
  | verdict (b : Bool)
  | event (e? : Option Event)
  | nothing
  deriving DecidableEq, Repr

def call (r : Registry) : Call → Answer × Registry
  | .request l s => (.verdict (r.request l s).1, (r.request l s).2)
  | .cancel l => (.verdict (r.cancel l).1, (r.cancel l).2)
  | .fire l values timestamp =>
    (.event (r.fire l values timestamp).1, (r.fire l values timestamp).2)
  | .accepting on => (.nothing, { r with accepting := on })
  | .confirming on => (.nothing, { r with confirming := on })

def after (r : Registry) (cs : List Call) : Registry :=
  cs.foldl (fun r c => (r.call c).2) r

/-- All calls with what each was answered. -/
def log (r : Registry) : List Call → List (Call × Answer)
  | [] => []
  | c :: cs => (c, (r.call c).1) :: log (r.call c).2 cs

@[simp]
theorem after_nil (r : Registry) : r.after [] = r := rfl

theorem after_cons (r : Registry) (c : Call) (cs : List Call) :
    r.after (c :: cs) = (r.call c).2.after cs := rfl

theorem after_concat (r : Registry) (cs : List Call) (c : Call) :
    r.after (cs ++ [c]) = ((r.after cs).call c).2 := by
  simp [after]

section Calls

def Call.accepting? : Call → Option Bool
  | .accepting on => some on
  | _ => none

def Call.confirming? : Call → Option Bool
  | .confirming on => some on
  | _ => none

def Call.requested? : Call → Option Listener
  | .request l _ => some l
  | _ => none

def Call.canceled? : Call → Option Listener
  | .cancel l => some l
  | _ => none

/-- What a call makes of a registry, apart from who is armed. -/
theorem call_snd (r : Registry) (c : Call) :
    (r.call c).2 =
      { sensors := r.sensors
        armed := (r.call c).2.armed
        accepting := c.accepting?.getD r.accepting
        confirming := c.confirming?.getD r.confirming
        requests := c.requested?.toList ++ r.requests
        cancels := c.canceled?.toList ++ r.cancels } := by
  cases c with
  | fire l values timestamp =>
    simp only [call, fire]
    cases r.armed[l]? <;> rfl
  | _ => rfl

theorem accepting_call (r : Registry) (c : Call) :
    (r.call c).2.accepting = c.accepting?.getD r.accepting :=
  congrArg accepting (call_snd r c)

theorem confirming_call (r : Registry) (c : Call) :
    (r.call c).2.confirming = c.confirming?.getD r.confirming :=
  congrArg confirming (call_snd r c)

theorem requests_call (r : Registry) (c : Call) :
    (r.call c).2.requests = c.requested?.toList ++ r.requests :=
  congrArg requests (call_snd r c)

theorem cancels_call (r : Registry) (c : Call) :
    (r.call c).2.cancels = c.canceled?.toList ++ r.cancels :=
  congrArg cancels (call_snd r c)

end Calls

section Flags

/-- Whether requests are accepted after some calls: as was last said, and at first they are. -/
def accepts (cs : List Call) : Bool :=
  (latest? Call.accepting? cs).getD true

def confirms (cs : List Call) : Bool :=
  (latest? Call.confirming? cs).getD true

variable (sensors : List Sensor) (cs : List Call)

theorem accepting_after : (after { sensors } cs).accepting = accepts cs := by
  induction cs using List.reverseRecOn with
  | nil => rfl
  | append_singleton cs c ih =>
    rw [after_concat, accepting_call, ih, accepts, accepts, latest?_concat_getD]

theorem confirming_after : (after { sensors } cs).confirming = confirms cs := by
  induction cs using List.reverseRecOn with
  | nil => rfl
  | append_singleton cs c ih =>
    rw [after_concat, confirming_call, ih, confirms, confirms, latest?_concat_getD]

end Flags

section Standing

/-- Whether a call decides anew if the listener is armed: an accepted request for it, a fire, and a
cancellation while these are confirmed. -/
def Call.settles (l : Listener) (accepting confirming : Bool) : Call → Bool
  | .request l' _ => l' == l && accepting
  | .cancel l' => l' == l && confirming
  | .fire l' _ _ => l' == l
  | .accepting _ | .confirming _ => false

def Call.sensor? : Call → Option Sensor
  | .request _ s => some s
  | _ => none

theorem armed_call (r : Registry) (c : Call) (l : Listener) :
    (r.call c).2.armed[l]? =
      if c.settles l r.accepting r.confirming then c.sensor? else r.armed[l]? := by
  cases c with
  | request l' s => simp [call, armed_request, Call.settles, Call.sensor?, and_comm]
  | cancel l' => simp [call, armed_cancel, Call.settles, Call.sensor?, and_comm]
  | fire l' values timestamp => simp [call, armed_fire, Call.settles, Call.sensor?]
  | accepting | confirming => rfl

theorem isArmed_eq (r : Registry) (l : Listener) : r.isArmed l = r.armed[l]?.isSome :=
  Std.ExtTreeMap.contains_eq_isSome_getElem?

theorem isArmed_call (r : Registry) (c : Call) (l : Listener) :
    (r.call c).2.isArmed l =
      if c.settles l r.accepting r.confirming then c.sensor?.isSome else r.isArmed l := by
  rw [isArmed_eq, isArmed_eq, armed_call]
  split <;> rfl

/-- Whether a call settles the matter when it comes after some others. -/
def Call.settlesAfter (l : Listener) (cs : List Call) (c : Call) : Bool :=
  c.settles l (accepts cs) (confirms cs)

/-- A request of the listener was accepted, and no call after it has settled the matter again. -/
def Stands (cs : List Call) (l : Listener) (s : Sensor) : Prop :=
  ∃ before later, cs = before ++ .request l s :: later ∧ accepts before = true ∧
    ∀ mid c rest, later = mid ++ c :: rest →
      c.settlesAfter l (before ++ .request l s :: mid) = false

theorem not_stands_nil (l : Listener) (s : Sensor) : ¬ Stands [] l s := by
  rintro ⟨before, later, he, -⟩
  simp at he

theorem stands_concat (cs : List Call) (c : Call) (l : Listener) (s : Sensor) :
    Stands (cs ++ [c]) l s ↔
      if c.settlesAfter l cs then c.sensor? = some s else Stands cs l s := by
  constructor
  · rintro ⟨before, later, he, ha, hn⟩
    obtain rfl | ⟨later, d, rfl⟩ := List.eq_nil_or_concat' later
    · obtain ⟨rfl, rfl⟩ := List.append_singleton_inj.mp he
      simp [Call.settlesAfter, Call.settles, ha, Call.sensor?]
    · obtain ⟨rfl, rfl⟩ : cs = before ++ .request l s :: later ∧ c = d :=
        List.append_singleton_inj.mp (by simpa using he)
      rw [if_neg (by simp [hn later c [] rfl])]
      exact ⟨before, later, rfl, ha, fun mid d rest hd => hn mid d (rest ++ [c]) (by simp [hd])⟩
  · intro h
    split at h
    · next hs =>
      cases c with
      | request l' s' =>
        simp only [Call.settlesAfter, Call.settles, Bool.and_eq_true, beq_iff_eq] at hs
        obtain ⟨rfl, ha⟩ := hs
        cases h
        exact ⟨cs, [], rfl, ha, by simp⟩
      | cancel | fire | accepting | confirming => cases h
    · next hs =>
      obtain ⟨before, later, rfl, ha, hn⟩ := h
      refine ⟨before, later ++ [c], by simp, ha, fun mid d rest hd => ?_⟩
      obtain rfl | ⟨rest, e, rfl⟩ := List.eq_nil_or_concat' rest
      · obtain ⟨rfl, rfl⟩ := List.append_singleton_inj.mp hd
        simpa using hs
      · obtain ⟨rfl, rfl⟩ : later = mid ++ d :: rest ∧ c = e :=
          List.append_singleton_inj.mp (by simpa using hd)
        exact hn mid d rest rfl

variable (sensors : List Sensor) (cs : List Call) (l : Listener)

theorem armed_after (s : Sensor) :
    (after { sensors } cs).armed[l]? = some s ↔ Stands cs l s := by
  induction cs using List.reverseRecOn with
  | nil => simp [not_stands_nil]
  | append_singleton cs c ih =>
    rw [after_concat, armed_call, accepting_after, confirming_after, ← Call.settlesAfter,
      stands_concat]
    by_cases h : c.settlesAfter l cs = true
    · rw [if_pos h, if_pos h]
    · rw [if_neg h, if_neg h]
      exact ih

theorem isArmed_after : (after { sensors } cs).isArmed l = true ↔ ∃ s, Stands cs l s := by
  simp only [isArmed_eq, Option.isSome_iff_exists, armed_after]

theorem armedListeners_after :
    l ∈ (after { sensors } cs).armedListeners ↔ ∃ s, Stands cs l s := by
  rw [mem_armedListeners]
  simp only [armed_after]

theorem fire_after (values : List Number.Single) (timestamp : UInt64) (e : Event) :
    ((after { sensors } cs).fire l values timestamp).1 = some e ↔
      ∃ s, Stands cs l s ∧ e = ⟨s, timestamp, values⟩ := by
  rw [fire_event, Option.map_eq_some_iff]
  simp only [armed_after, eq_comm (b := e)]

theorem cancel_after :
    ((after { sensors } cs).cancel l).1 = true ↔ confirms cs = true ∧ ∃ s, Stands cs l s := by
  rw [cancel, Bool.and_eq_true, confirming_after, isArmed_after]

/-- The armed listeners are named in ascending order, each once. -/
theorem armedListeners_ascending (r : Registry) : r.armedListeners.Pairwise (· < ·) :=
  Std.ExtTreeMap.ordered_keys.imp Nat.compare_eq_lt.mp

end Standing

section Counting

theorem filterMap_concat {α β : Type} (f : α → Option β) (xs : List α) (x : α) :
    ((xs ++ [x]).filterMap f).reverse = (f x).toList ++ (xs.filterMap f).reverse := by
  cases h : f x <;> simp [h]

variable (sensors : List Sensor) (cs : List Call)

theorem requests_after :
    (after { sensors } cs).requests = (cs.filterMap Call.requested?).reverse := by
  induction cs using List.reverseRecOn with
  | nil => rfl
  | append_singleton cs c ih => rw [after_concat, requests_call, ih, filterMap_concat]

theorem cancels_after :
    (after { sensors } cs).cancels = (cs.filterMap Call.canceled?).reverse := by
  induction cs using List.reverseRecOn with
  | nil => rfl
  | append_singleton cs c ih => rw [after_concat, cancels_call, ih, filterMap_concat]

end Counting

section Balance

def accepted (l : Listener) : Call × Answer → Bool
  | (.request l' _, .verdict b) => l' == l && b
  | _ => false

def revoked (l : Listener) : Call × Answer → Bool
  | (.cancel l', .verdict b) => l' == l && b
  | _ => false

def fired (l : Listener) : Call × Answer → Bool
  | (.fire l' _ _, .event e?) => l' == l && e?.isSome
  | _ => false

/-- A fire that gives an event and a cancellation that is confirmed use up a registration, and only
an accepted request makes one. -/
theorem balance_call (r : Registry) (c : Call) (l : Listener) :
    (fired l (c, (r.call c).1)).toNat + (revoked l (c, (r.call c).1)).toNat +
        ((r.call c).2.isArmed l).toNat ≤
      (r.isArmed l).toNat + (accepted l (c, (r.call c).1)).toNat := by
  rw [isArmed_call]
  cases c with
  | request l' s =>
    by_cases h : l' == l && r.accepting
    · simp [call, request, fired, revoked, accepted, Call.settles, Call.sensor?, h]
    · simp [call, request, fired, revoked, accepted, Call.settles, h]
  | cancel l' =>
    by_cases hl : l' = l
    · subst hl
      cases hc : r.confirming <;>
        simp [call, cancel, fired, revoked, accepted, Call.settles, Call.sensor?, hc]
    · have hn : (l' == l) = false := beq_false_of_ne hl
      simp [call, cancel, fired, revoked, accepted, Call.settles, hn]
  | fire l' values timestamp =>
    by_cases hl : l' = l
    · subst hl
      simp [call, fire_event, fired, revoked, accepted, Call.settles, Call.sensor?, isArmed_eq]
    · have hn : (l' == l) = false := beq_false_of_ne hl
      simp [call, fire_event, fired, revoked, accepted, Call.settles, hn]
  | accepting | confirming => simp [fired, revoked, accepted, Call.settles]

theorem balance_log (r : Registry) (cs : List Call) (l : Listener) :
    (r.log cs).countP (fired l) + (r.log cs).countP (revoked l) + ((r.after cs).isArmed l).toNat ≤
      (r.isArmed l).toNat + (r.log cs).countP (accepted l) := by
  induction cs generalizing r with
  | nil => simp [log]
  | cons c cs ih =>
    have hc := balance_call r c l
    have hcs := ih (r.call c).2
    simp only [log, List.countP_cons, after_cons]
    have hn : ∀ b : Bool, (if b = true then 1 else 0) = b.toNat := by decide
    simp only [hn]
    omega

end Balance

section Locality

def Call.names (l : Listener) : Call → Bool
  | .request l' _ | .cancel l' | .fire l' _ _ => l' == l
  | .accepting _ | .confirming _ => false

/-- The calls that name the listener, and those that name none. -/
def Call.concerns (l : Listener) : Call → Bool
  | .accepting _ | .confirming _ => true
  | c => c.names l

/-- All that a registry has of one listener. -/
structure View where
  armed : Option Sensor
  accepting : Bool
  confirming : Bool
  requests : Nat
  cancels : Nat

def view (r : Registry) (l : Listener) : View :=
  ⟨r.armed[l]?, r.accepting, r.confirming, r.requests.count l, r.cancels.count l⟩

theorem view_call (r : Registry) (c : Call) (l : Listener) :
    (r.call c).2.view l =
      ⟨if c.settles l r.accepting r.confirming then c.sensor? else r.armed[l]?,
        c.accepting?.getD r.accepting, c.confirming?.getD r.confirming,
        c.requested?.toList.count l + r.requests.count l,
        c.canceled?.toList.count l + r.cancels.count l⟩ := by
  rw [view, armed_call, accepting_call, confirming_call, requests_call, cancels_call,
    List.count_append, List.count_append]

theorem view_unconcerned (r : Registry) {c : Call} {l : Listener} (hc : c.concerns l = false) :
    (r.call c).2.view l = r.view l := by
  rw [view_call]
  cases c <;>
    simp_all [Call.concerns, Call.names, Call.settles, Call.accepting?, Call.confirming?,
      Call.requested?, Call.canceled?, view]

theorem view_congr {r r' : Registry} {l : Listener} (h : r.view l = r'.view l) (c : Call) :
    (r.call c).2.view l = (r'.call c).2.view l := by
  injection h with ha ho hc hr hk
  rw [view_call, view_call, ha, ho, hc, hr, hk]

theorem answer_congr {r r' : Registry} {c : Call} {l : Listener} (h : r.view l = r'.view l)
    (hc : c.names l = true) : (r.call c).1 = (r'.call c).1 := by
  injection h with ha ho hf
  cases c with
  | request l' s => exact congrArg Answer.verdict ho
  | cancel l' =>
    obtain rfl : l' = l := by simpa [Call.names] using hc
    simp only [call, cancel, isArmed_eq, ha, hf]
  | fire l' values timestamp =>
    obtain rfl : l' = l := by simpa [Call.names] using hc
    simp only [call, fire_event, ha]
  | accepting | confirming => cases hc

theorem view_after {r r' : Registry} {l : Listener} (h : r.view l = r'.view l) (cs : List Call) :
    (r.after cs).view l = (r'.after (cs.filter (·.concerns l))).view l := by
  induction cs generalizing r r' with
  | nil => exact h
  | cons c cs ih =>
    cases hc : c.concerns l with
    | true =>
      rw [List.filter_cons_of_pos hc]
      exact ih (view_congr h c)
    | false =>
      rw [List.filter_cons_of_neg (by simp [hc])]
      exact ih ((view_unconcerned r hc).trans h)

/-- What was answered about a listener can be told from the calls that concern it. -/
theorem log_filter {r r' : Registry} {l : Listener} (h : r.view l = r'.view l) (cs : List Call) :
    (r.log cs).filter (·.1.names l) =
      (r'.log (cs.filter (·.concerns l))).filter (·.1.names l) := by
  induction cs generalizing r r' with
  | nil => rfl
  | cons c cs ih =>
    cases hc : c.concerns l with
    | true =>
      rw [List.filter_cons_of_pos hc, log, log, List.filter_cons, List.filter_cons,
        ih (view_congr h c)]
      by_cases hn : c.names l = true
      · rw [if_pos hn, if_pos hn, answer_congr h hn]
      · rw [if_neg hn, if_neg hn]
    | false =>
      have hn : c.names l = false := by cases c <;> simp_all [Call.concerns]
      rw [List.filter_cons_of_neg (by simp [hc]), log, List.filter_cons_of_neg (by simp [hn])]
      exact ih ((view_unconcerned r hc).trans h)

end Locality

/-- A registry is one-shot, listener by listener. After any calls a listener is armed with the
sensor of its last accepted request, unless a fire or a confirmed cancellation has used that up. An
event is that sensor's, a cancellation succeeds only for an armed listener while these are
confirmed, and a request is answered with what was last said of accepting. The armed listeners are
named in ascending order, and every request and cancellation is counted. No listener gives more
events and confirmed cancellations than it had requests accepted, and nothing of a listener depends
on the sensors there are or on the calls that name another. -/
theorem one_shot (sensors : List Sensor) (cs : List Call) (l : Listener) :
    let r := after { sensors } cs
    (∀ s, r.armed[l]? = some s ↔ Stands cs l s) ∧
    (r.isArmed l = true ↔ ∃ s, Stands cs l s) ∧
    (∀ values timestamp e, (r.fire l values timestamp).1 = some e ↔
      ∃ s, Stands cs l s ∧ e = ⟨s, timestamp, values⟩) ∧
    ((r.cancel l).1 = true ↔ confirms cs = true ∧ ∃ s, Stands cs l s) ∧
    (∀ s, (r.request l s).1 = accepts cs) ∧
    r.armedListeners.Pairwise (· < ·) ∧
    (l ∈ r.armedListeners ↔ ∃ s, Stands cs l s) ∧
    r.requests.length = cs.countP (·.requested?.isSome) ∧
    r.requests.count l = cs.countP (·.requested? == some l) ∧
    r.cancels.length = cs.countP (·.canceled?.isSome) ∧
    r.cancels.count l = cs.countP (·.canceled? == some l) ∧
    (log { sensors } cs).countP (fired l) + (log { sensors } cs).countP (revoked l) ≤
      (log { sensors } cs).countP (accepted l) ∧
    ∀ others, let r' := after { sensors := others } (cs.filter (·.concerns l))
      r.view l = r'.view l ∧
      (log { sensors } cs).filter (·.1.names l) =
        (log { sensors := others } (cs.filter (·.concerns l))).filter (·.1.names l) := by
  refine ⟨armed_after sensors cs l, isArmed_after sensors cs l, fire_after sensors cs l,
    cancel_after sensors cs l, fun _ => accepting_after sensors cs, armedListeners_ascending _,
    armedListeners_after sensors cs l, ?_, ?_, ?_, ?_, ?_, fun others => ?_⟩
  · rw [requests_after, List.length_reverse, List.length_filterMap_eq_countP]
  · rw [requests_after, List.count_reverse, List.count_filterMap]
  · rw [cancels_after, List.length_reverse, List.length_filterMap_eq_countP]
  · rw [cancels_after, List.count_reverse, List.count_filterMap]
  · have h := balance_log { sensors } cs l
    have h' : isArmed { sensors } l = false := rfl
    rw [h', Bool.toNat_false] at h
    omega
  · have h : view { sensors } l = view { sensors := others } l := rfl
    exact ⟨view_after h cs, log_filter h cs⟩

end AmbientPulse.Registry
