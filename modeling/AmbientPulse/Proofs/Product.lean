import AmbientPulse.Proofs.Seat

namespace AmbientPulse

def Command.alone? (i : Listener) : Command → Option Command
  | .deliver l e => if l = i then some (.deliver 0 e) else none
  | c => some c

def Outside.alone? (i : Listener) : Outside → Option Outside
  | .fire l values timestamp => if l = i then some (.fire 0 values timestamp) else none
  | o => some o

/-- A turn as a bank has it that consists of one trigger of a larger bank only: without the fires for
other triggers, and with the fires for this one going to the first position. -/
def Turn.alone? (i : Listener) : Turn → Option Turn
  | .command c => (c.alone? i).map .command
  | .close => some .close
  | .outside o => (o.alone? i).map .outside

theorem Turn.alone?_alone {i : Listener} {k k' : Turn} (h : k.alone? i = some k') :
    k'.alone? 0 = some k' := by
  cases k with
  | close =>
    obtain rfl := Option.some.inj h
    rfl
  | command c =>
    obtain ⟨c', hc, rfl⟩ := Option.map_eq_some_iff.mp h
    cases c with
    | deliver l e =>
      obtain ⟨-, hc⟩ := Option.ite_none_right_eq_some.mp hc
      obtain rfl := Option.some.inj hc
      rfl
    | settingChanged | userSwitched | listen | rearm | suppress =>
      obtain rfl := Option.some.inj hc
      rfl
  | outside o =>
    obtain ⟨o', ho, rfl⟩ := Option.map_eq_some_iff.mp h
    cases o with
    | fire l values timestamp =>
      obtain ⟨-, ho⟩ := Option.ite_none_right_eq_some.mp ho
      obtain rfl := Option.some.inj ho
      rfl
    | put | switchUser | accepting | confirming | failing | breaking =>
      obtain rfl := Option.some.inj ho
      rfl

/-- A list made from a range to which only one number contributes. -/
theorem flatMap_range_single {α : Type} {g : Nat → List α} {i n : Nat} (hi : i < n)
    (hg : ∀ j, j ≠ i → g j = []) : (List.range n).flatMap g = g i := by
  induction n with
  | zero => cases hi
  | succ n ih =>
    rw [List.range_succ, List.flatMap_append]
    by_cases h : i = n
    · subst h
      have hn : (List.range i).flatMap g = [] := by
        refine List.flatMap_eq_nil_iff.mpr fun j hj => hg j ?_
        exact Nat.ne_of_lt (List.mem_range.mp hj)
      simp [hn]
    · rw [ih (by omega)]
      simp [hg n (Ne.symm h)]

namespace World

variable {rs : List Requirement} {r : Registry} {w : World} {i : Nat} {s : Seat}

theorem seat_perform (hw : w.Built rs r) (as : List Act) (hs : w.seat? i = some s) :
    (w.perform as).seat? i = some (s.perform (as.filterMap (Act.move? i))) := by
  induction as generalizing w s with
  | nil => exact hs
  | cons a as ih =>
    have ha := seat_act hw.ordered a hs
    rw [perform_cons, List.filterMap_cons]
    cases hm : a.move? i with
    | none =>
      rw [hm] at ha
      exact ih (hw.act a) ha
    | some m =>
      rw [hm] at ha
      exact ih (hw.act a) ha

theorem moves_forEach {f : Nat → List Act} (hi : i < w.bank.triggers.length)
    (hf : ∀ j, j ≠ i → (f j).filterMap (Act.move? i) = []) :
    (w.forEach f).filterMap (Act.move? i) = (f i).filterMap (Act.move? i) := by
  rw [forEach, List.filterMap_flatMap]
  exact flatMap_range_single hi hf

theorem moves_updates (hi : i < w.bank.triggers.length) :
    (w.forEach fun j => [.update j]).filterMap (Act.move? i) = [.update] := by
  rw [moves_forEach hi fun j hj => by simp [Act.move?, hj]]
  simp [Act.move?]

theorem moves_requests (hi : i < w.bank.triggers.length) (on : Bool) :
    (w.forEach fun j => [.request j on]).filterMap (Act.move? i) = [.request on] := by
  rw [moves_forEach hi fun j hj => by simp [Act.move?, hj]]
  simp [Act.move?]

theorem moves_starts (hi : i < w.bank.triggers.length) :
    (w.forEach fun j => [.request j true, .attach j]).filterMap (Act.move? i) =
      [.request true] := by
  rw [moves_forEach hi fun j hj => by simp [Act.move?, hj]]
  simp [Act.move?]

theorem moves_commandActs (hs : w.seat? i = some s) (c : Command) :
    (w.commandActs c).filterMap (Act.move? i) = (c.alone? i).elim [] s.moves := by
  obtain ⟨t, ht, rfl⟩ := Option.map_eq_some_iff.mp hs
  have hi : i < w.bank.triggers.length := (List.getElem?_eq_some_iff.mp ht).1
  cases c with
  | deliver l e =>
    by_cases hl : l = i <;> simp [commandActs, Command.alone?, Act.move?, Seat.moves, hl]
  | settingChanged ch =>
    change _ = if ch.concerns w.platform.settings.currentUser then [Move.update] else []
    rw [commandActs]
    split
    · exact moves_updates hi
    · rfl
  | userSwitched => exact moves_updates hi
  | listen on =>
    cases on with
    | true => exact moves_starts hi
    | false =>
      rw [commandActs, List.cons_append, List.filterMap_cons_none rfl, List.filterMap_append,
        moves_requests hi]
      rfl
  | rearm =>
    rw [commandActs, List.filterMap_append, moves_requests hi, moves_requests hi]
    rfl
  | suppress on =>
    cases hp : w.bank.suppressible with
    | none => simp [commandActs, hp, Command.alone?, Seat.moves, Seat.of]
    | some j =>
      by_cases hj : j = i <;>
        simp [commandActs, hp, Act.move?, Command.alone?, Seat.moves, Seat.of, hj]

theorem outlook_outside (p : Platform) (o : Outside) :
    (p.outside o).outlook = p.outlook.outside o := by
  cases o with
  | fire l values timestamp =>
    simp only [Platform.outside, Platform.fire, Registry.fire]
    split <;> rfl
  | put | switchUser | accepting | confirming | failing | breaking => rfl

theorem seat_outside (o : Outside) (hs : w.seat? i = some s) :
    (w.outside o).seat? i = some ((o.alone? i).elim s fun o => s.turn (.outside o)) := by
  obtain ⟨t, ht, rfl⟩ := Option.map_eq_some_iff.mp hs
  have hv := outlook_outside w.platform o
  cases o with
  | fire l values timestamp =>
    have ha := w.platform.registry.armed_fire l i values timestamp
    rw [seat?, outside, ht]
    by_cases hl : l = i
    · rw [if_pos hl] at ha
      simp only [Outside.alone?, if_pos hl]
      exact congrArg some (Seat.ext rfl rfl hv ha rfl rfl)
    · rw [if_neg hl] at ha
      simp only [Outside.alone?, if_neg hl]
      exact congrArg some (Seat.ext rfl rfl hv ha rfl rfl)
  | put | switchUser | accepting | confirming | failing | breaking =>
    rw [seat?, outside, ht]
    exact congrArg some (Seat.ext rfl rfl hv rfl rfl rfl)

/-- What a turn does to a trigger follows from nothing but what the trigger sees. -/
theorem seat_turn (hw : w.Built rs r) (k : Turn) (hs : w.seat? i = some s) :
    (w.turn k).seat? i = some ((k.alone? i).elim s s.turn) := by
  have hc : s.closed = w.closed := by
    obtain ⟨t, -, rfl⟩ := Option.map_eq_some_iff.mp hs
    rfl
  have hp := seat_perform hw (w.acts k) hs
  cases k with
  | outside o =>
    rw [Turn.alone?, Option.elim_map]
    exact seat_outside o hs
  | command c =>
    rw [turn_performed _ (by simp), hp]
    cases ha : c.alone? i <;> cases hc' : w.closed <;>
      simp [acts, hc, hc', moves_commandActs hs, ha, Turn.alone?, Seat.turn, Seat.perform]
  | close =>
    have hl := moves_commandActs hs (.listen false)
    rw [turn_performed _ (by simp), hp]
    cases hc' : w.closed <;>
      simp [acts, hc, hc', hl, Command.alone?, Seat.moves, Act.move?, Turn.alone?, Seat.turn,
        Seat.perform]

theorem seat_run (hw : w.Built rs r) (ts : List Turn) (hs : w.seat? i = some s) :
    (w.run ts).seat? i = some ((ts.filterMap (Turn.alone? i)).foldl Seat.turn s) := by
  induction ts generalizing w s with
  | nil => exact hs
  | cons k ts ih =>
    have hk := ih (hw.turn k) (seat_turn hw k hs)
    rw [List.filterMap_cons]
    cases ha : k.alone? i with
    | none => rwa [ha] at hk
    | some k' => rwa [ha] at hk

/-- A platform for a bank of one trigger. It has for the first listener what the original has for the
listener `i`, and what concerns no listener as the original has it. -/
structure Copies (q p : Platform) (i : Listener) : Prop where
  sensors : q.registry.sensors = p.registry.sensors
  outlook : q.outlook = p.outlook
  armed : q.registry.armed[0]? = p.registry.armed[i]?
  calls : q.trace.filterMap (Effect.call? 0) = p.trace.filterMap (Effect.call? i)

theorem resolve?_of_sensors {r r' : Registry} (h : r'.sensors = r.sensors) (s : Source) :
    s.resolve? r' = s.resolve? r := by
  cases s <;> simp [Source.resolve?, Registry.ofCategory?, Registry.ofType?, h]

theorem suppressible_assembled (m : Subtype.Matcher) (suppressible : Option Nat) (o : Observer)
    (p : Platform) (hi : i < rs.length) :
    (assembled m rs suppressible o p).bank.suppressible = some i ↔ suppressible = some i := by
  simp [assembled, Bank.assemble, hi]

theorem seat_assembled (m : Subtype.Matcher) (suppressible : Option Nat) (o : Observer)
    (p : Platform) {q : Requirement} (hq : rs[i]? = some q) :
    (assembled m rs suppressible o p).seat? i =
      some (.of i (suppressible == some i) false (.ofRequirement p.registry i q) p) := by
  obtain ⟨hi, -⟩ := List.getElem?_eq_some_iff.mp hq
  have ht : (assembled m rs suppressible o p).bank.triggers[i]? =
      some (.ofRequirement p.registry i q) := by
    simp [assembled, Bank.assemble, hq]
  have hb : ((assembled m rs suppressible o p).bank.suppressible == some i) =
      (suppressible == some i) := by
    rw [Bool.eq_iff_iff, beq_iff_eq, beq_iff_eq]
    exact suppressible_assembled m suppressible o p hi
  rw [seat?, ht, hb]
  rfl

/-- A bank of one trigger starts as the trigger of a larger bank does. -/
theorem seat_assembled_alone (m : Subtype.Matcher) (suppressible : Option Nat) (o o' : Observer)
    {p p' : Platform} {q : Requirement} (hq : rs[i]? = some q) (hp : Copies p' p i) :
    (assembled m [q] (if suppressible = some i then some 0 else none) o' p').seat? 0 =
      (assembled m rs suppressible o p).seat? i := by
  have hq' : [q][0]? = some q := rfl
  rw [seat_assembled m suppressible o p hq, seat_assembled m _ o' p' hq']
  refine congrArg some (Seat.ext ?_ ?_ hp.outlook hp.armed hp.calls rfl)
  · simp [Seat.of, Trigger.ofRequirement, resolve?_of_sensors hp.sensors]
  · by_cases hs : suppressible = some i <;> simp [Seat.of, hs]

@[simp] theorem suppressible_run (w : World) (ts : List Turn) :
    (w.run ts).bank.suppressible = w.bank.suppressible := by
  refine run_keeps (P := fun v => v.bank.suppressible = w.bank.suppressible)
    (fun v k hv => ?_) rfl ts
  exact turn_keeps (P := fun v => v.bank.suppressible = w.bank.suppressible)
    (fun v a hv => (v.suppressible_act a).trans hv) (fun _ _ hv => hv) hv k

theorem filterMap_alone (i : Listener) (ts : List Turn) :
    (ts.filterMap (Turn.alone? i)).filterMap (Turn.alone? 0) = ts.filterMap (Turn.alone? i) := by
  rw [List.filterMap_filterMap]
  refine List.filterMap_congr fun k _ => ?_
  cases h : k.alone? i with
  | none => rfl
  | some k' => exact Turn.alone?_alone h

theorem Built.single {q : Requirement} (hw : w.Built [q] r) :
    ∃ t, w.bank.triggers = [t] ∧ t.listener = 0 := by
  obtain ⟨t, ht⟩ := hw.trigger (i := 0) (Nat.zero_lt_one)
  have hn : w.bank.triggers[1]? = none := by simpa using hw 1
  refine ⟨t, ?_, hw.ordered 0 t ht⟩
  rw [List.getElem?_eq_none_iff] at hn
  obtain ⟨h, rfl⟩ := List.getElem?_eq_some_iff.mp ht
  exact List.eq_getElem_of_length_eq_one _ (by omega)

/-- Two triggers that see the same differ in nothing but their positions. -/
theorem eq_of_seat {b c b' c' : Bool} {t u : Trigger} {p p' : Platform} (hu : u.listener = 0)
    (h : Seat.of 0 b' c' u p' = Seat.of i b c t p) :
    u = { t with listener := 0 } ∧ p'.registry.armed[0]? = p.registry.armed[i]? ∧
      p'.trace.filterMap (Effect.call? 0) = p.trace.filterMap (Effect.call? i) := by
  refine ⟨?_, congrArg Seat.armed h, congrArg Seat.calls h⟩
  have ht : { u with listener := 0 } = { t with listener := 0 } := congrArg Seat.trigger h
  rw [← ht, ← hu]

theorem seat_suppress (hw : w.Built rs r) (hn : w.bank.suppressible ≠ some i) (on : Bool)
    (hs : w.seat? i = some s) : (w.turn (.command (.suppress on))).seat? i = some s := by
  have hf : s.suppressible = false := by
    obtain ⟨t, -, rfl⟩ := Option.map_eq_some_iff.mp hs
    simpa [Seat.of] using hn
  rw [seat_turn hw _ hs]
  simp [Turn.alone?, Command.alone?, Seat.turn, Seat.moves, Seat.perform, hf]

/-- For each trigger of a bank it is as though the bank consisted of nothing else: its flags, its
registration and its calls come out as in a bank of its own, on a copy of the platform, from which
the fires for other triggers are kept away. Neither such a fire nor a command to suppress another
trigger makes a difference to it. -/
theorem trigger_as_if_alone (m : Subtype.Matcher) (rs : List Requirement)
    (suppressible : Option Nat) (o o' : Observer) {p p' : Platform} {i : Nat} {q : Requirement}
    (hq : rs[i]? = some q) (hp : Copies p' p i) (ts : List Turn) :
    let w := (assembled m rs suppressible o p).run ts
    let v := (assembled m [q] (if suppressible = some i then some 0 else none) o' p').run
      (ts.filterMap (Turn.alone? i))
    (∃ t, w.bank.triggers[i]? = some t ∧ v.bank.triggers = [{ t with listener := 0 }]) ∧
      v.platform.registry.armed[0]? = w.platform.registry.armed[i]? ∧
      v.platform.trace.filterMap (Effect.call? 0) = w.platform.trace.filterMap (Effect.call? i) ∧
      (∀ k, k.alone? i = none → (w.turn k).seat? i = w.seat? i) ∧
      (suppressible ≠ some i → ∀ on, (w.turn (.command (.suppress on))).seat? i = w.seat? i) := by
  intro w v
  have hw : w.Built rs p.registry := (built_assembled m rs suppressible o p).run ts
  have hv : v.Built [q] p'.registry := (built_assembled m [q] _ o' p').run _
  have hs := seat_assembled m suppressible o p hq
  have hs' := (seat_assembled_alone m suppressible o o' hq hp).trans hs
  have hws := seat_run (built_assembled m rs suppressible o p) ts hs
  have hvs := seat_run (built_assembled m [q] _ o' p') (ts.filterMap (Turn.alone? i)) hs'
  rw [filterMap_alone] at hvs
  obtain ⟨t, ht, hto⟩ := Option.map_eq_some_iff.mp hws
  obtain ⟨u, hu, hl⟩ := hv.single
  have huo : v.seat? 0 = some (.of 0 (v.bank.suppressible == some 0) v.closed u v.platform) := by
    rw [seat?, hu]
    rfl
  obtain ⟨rfl, ha, hc⟩ := eq_of_seat hl ((Option.some.inj (huo.symm.trans hvs)).trans hto.symm)
  refine ⟨⟨t, ht, hu⟩, ha, hc, ?_, ?_⟩
  · intro k hk
    rw [seat_turn hw k hws, hk]
    exact hws.symm
  · intro hn on
    obtain ⟨hi, -⟩ := List.getElem?_eq_some_iff.mp hq
    refine (seat_suppress hw ?_ on hws).trans hws.symm
    rw [suppressible_run, ne_eq, suppressible_assembled m suppressible o p hi]
    exact hn

theorem trigger_as_if_alone_standard :
    let rs := ({} : Config).requirements
    let q : Requirement := ⟨.category .pickUpGesture, .pickUp, some Setting.pickUpKey, true⟩
    let e : Event := ⟨⟨1, "", .significantMotion, ""⟩, 0, []⟩
    let ts := [.command (.listen true), .outside (.fire 1 [] 0), .command (.deliver 0 e),
      .outside (.breaking true), .command (.deliver 1 e), .command (.suppress true), .command .rearm]
    let w := assembled .admitNone rs (some Config.pickUpPosition) 1 .standard
    let v := assembled .admitNone [q] (some 0) 2 .standard
    rs[1]? = some q ∧ Copies .standard .standard 1 ∧
      ts.filterMap (Turn.alone? 1) =
        [.command (.listen true), .outside (.fire 0 [] 0), .outside (.breaking true),
          .command (.deliver 0 e), .command (.suppress true), .command .rearm] ∧
      (v.run (ts.filterMap (Turn.alone? 1))).platform.trace.filterMap (Effect.call? 0) =
        (w.run ts).platform.trace.filterMap (Effect.call? 1) := by
  intro rs q e ts w v
  have hq : rs[1]? = some q := rfl
  have hp : Copies .standard .standard 1 := ⟨rfl, rfl, by decide +kernel, rfl⟩
  obtain ⟨-, -, h, -⟩ :=
    trigger_as_if_alone .admitNone rs (some Config.pickUpPosition) 1 2 hq hp ts
  rw [show (if some Config.pickUpPosition = some 1 then some 0 else none) = some 0 from rfl] at h
  refine ⟨hq, hp, by decide +kernel, ?_⟩
  simp only [v, w]
  exact h

end World

end AmbientPulse
