import AmbientPulse.Simulation
import AmbientPulse.Proofs.Notification
import AmbientPulse.Proofs.OneShot

namespace AmbientPulse

namespace Simulation

/-- How a tick fires: it uses up one registration, if there is any, and touches no other. -/
structure Fires (c : Choice) (fired : Option (Listener × Sensor)) (p p' : Platform)
    (posted : Option Command) : Prop where
  idle : fired = none ↔ ∀ l : Listener, p.registry.armed[l]? = none
  armed : ∀ l s, fired = some (l, s) → p.registry.armed[l]? = some s
  registry : p'.registry =
    match fired with
    | none => p.registry
    | some (l, _) => { p.registry with armed := p.registry.armed.erase l }
  settings : p'.settings = p.settings
  posted : posted = fired.map fun f =>
    .deliver f.1 ⟨f.2, c.timestamp, [Number.Single.ofNat c.subtype]⟩

/-- How a tick flips the pickup setting. Whoever observes its key, that of the user who is current
included, makes the tick post it. -/
structure Flips (p p' : Platform) (posted : Option Command) : Prop where
  registry : p'.registry = p.registry
  settings : p'.settings =
    (p.settings.put Setting.pickUpKey p.settings.currentUser
      (!p.settings.get Setting.pickUpKey p.settings.currentUser true)).2
  told : (∃ o scope, p.settings.scopeOf? o Setting.pickUpKey = some scope) →
    posted = some (.settingChanged ⟨Setting.pickUpKey, p.settings.currentUser⟩)
  untold : (¬ ∃ o scope, p.settings.scopeOf? o Setting.pickUpKey = some scope) → posted = none

/-- What a tick does while there is a receiver. -/
inductive Turn (number : ℕ) (c : Choice) (p : Platform) : Platform → List Command → Prop
  | plain {fired : Option (Listener × Sensor)} {p' : Platform} {e : Option Command}
      (hn : number % 5 ≠ 0) (hf : Fires c fired p p' e) : Turn number c p p' e.toList
  | fifth {fired : Option (Listener × Sensor)} {q p' : Platform} {e f : Option Command}
      (hn : number % 5 = 0) (hf : Fires c fired p q e) (hs : Flips q p' f) :
      Turn number c p p' (e.toList ++ f.toList)

section Tick

variable (number : ℕ) (c : Choice) (p : Platform)

theorem getElem?_mod_eq_none_iff (ls : List Listener) (i : ℕ) :
    ls[i % ls.length]? = none ↔ ls = [] := by
  rw [List.getElem?_eq_none_iff, ← List.length_eq_zero_iff]
  constructor
  · intro h
    by_contra hn
    exact absurd (Nat.mod_lt i (Nat.pos_of_ne_zero hn)) (not_lt.mpr h)
  · intro h
    omega

theorem fires_fireSome : ∃ fired, Fires c fired p (fireSome c p).2 (fireSome c p).1 := by
  unfold fireSome
  dsimp only
  split
  · next hn =>
    rw [getElem?_mod_eq_none_iff, Registry.armedListeners_eq_nil] at hn
    exact ⟨none, by simpa using hn, by simp, rfl, rfl, rfl⟩
  · next l hl =>
    obtain ⟨s, hs⟩ := (Registry.mem_armedListeners _ _).mp (List.mem_of_getElem? hl)
    have hf : p.fire l [Number.Single.ofNat c.subtype] c.timestamp =
        (some ⟨s, c.timestamp, [Number.Single.ofNat c.subtype]⟩,
          { p with registry := { p.registry with armed := p.registry.armed.erase l } }) := by
      simp only [Platform.fire, Registry.fire, hs]
    rw [hf]
    have hne : some (l, s) ≠ none := Option.some_ne_none _
    refine ⟨some (l, s), ⟨fun h => absurd h hne, fun h => ?_⟩, ?_, rfl, rfl, rfl⟩
    · rw [h l] at hs
      cases hs
    · rintro l' s' ⟨rfl, rfl⟩
      exact hs

theorem interested_iff (s : Settings) (key : String) :
    s.interested key s.currentUser ≠ [] ↔ ∃ o scope, s.scopeOf? o key = some scope := by
  rw [ne_eq, List.eq_nil_iff_forall_not_mem, not_forall_not]
  refine exists_congr fun o => ?_
  rw [Settings.mem_interested_iff]
  constructor
  · rintro (h | ⟨h, -⟩)
    · exact ⟨_, h⟩
    · exact ⟨_, h⟩
  · rintro ⟨scope, h⟩
    cases scope with
    | all => exact .inl h
    | current => exact .inr ⟨h, rfl⟩

theorem flips_flipSetting : Flips p (flipSetting p).2 (flipSetting p).1 where
  registry := rfl
  settings := rfl
  told h := by
    rw [← interested_iff] at h
    simp [flipSetting, Platform.put, Settings.put, h]
  untold h := by
    rw [← interested_iff, not_not] at h
    simp [flipSetting, Platform.put, Settings.put, h]

theorem turn_tick :
    Turn number c p (tick number true c p).2 (tick number true c p).1.posted ∧
      (tick number true c p).1.gaveUp = false := by
  obtain ⟨fired, hf⟩ := fires_fireSome c p
  by_cases hn : number % 5 = 0
  · have ht : tick number true c p =
        (⟨(fireSome c p).1.toList ++ (flipSetting (fireSome c p).2).1.toList, false⟩,
          (flipSetting (fireSome c p).2).2) := by
      simp [tick, flipInterval, hn]
    rw [ht]
    exact ⟨.fifth hn hf (flips_flipSetting _), rfl⟩
  · have ht : tick number true c p = (⟨(fireSome c p).1.toList, false⟩, (fireSome c p).2) := by
      simp [tick, flipInterval, hn]
    rw [ht]
    exact ⟨.plain hn hf, rfl⟩

end Tick

section Turn

variable {number : ℕ} {c : Choice} {fired : Option (Listener × Sensor)} {p p' : Platform}
  {posted : List Command} {l : Listener} {e : Event}

theorem Fires.armed_after {f : Option Command} (h : Fires c fired p p' f) (l : Listener) :
    p'.registry.armed[l]? = if fired.map (·.1) = some l then none else p.registry.armed[l]? := by
  rw [h.registry]
  cases fired with
  | none => rfl
  | some x => simp [Std.ExtTreeMap.getElem?_erase]

theorem Flips.not_delivers {f : Option Command} (h : Flips p p' f) :
    f ≠ some (.deliver l e) := by
  by_cases hs : ∃ o scope, p.settings.scopeOf? o Setting.pickUpKey = some scope
  · simp [h.told hs]
  · simp [h.untold hs]

/-- What a tick does to a registry, it does by its fire. -/
theorem Turn.exists_fires (h : Turn number c p p' posted) :
    ∃ fired q f, Fires c fired p q f ∧ p'.registry = q.registry ∧
      ∀ l e, .deliver l e ∈ posted → f = some (.deliver l e) := by
  cases h with
  | plain hn hf => exact ⟨_, _, _, hf, rfl, fun l e h => Option.mem_toList.mp h⟩
  | fifth hn hf hs =>
    refine ⟨_, _, _, hf, hs.registry, fun l e h => ?_⟩
    obtain h | h := List.mem_append.mp h
    · exact Option.mem_toList.mp h
    · exact absurd (Option.mem_toList.mp h) hs.not_delivers

theorem Turn.unarmed (h : Turn number c p p' posted) (hl : p.registry.armed[l]? = none) :
    p'.registry.armed[l]? = none := by
  obtain ⟨fired, q, f, hf, hr, -⟩ := h.exists_fires
  rw [hr, hf.armed_after, hl, ite_self]

theorem Turn.consumed (h : Turn number c p p' posted) (he : .deliver l e ∈ posted) :
    p.registry.armed[l]? ≠ none ∧ p'.registry.armed[l]? = none := by
  obtain ⟨fired, q, f, hf, hr, hd⟩ := h.exists_fires
  obtain ⟨⟨l', s⟩, rfl, hl⟩ := Option.map_eq_some_iff.mp (hf.posted.symm.trans (hd l e he))
  obtain rfl : l' = l := (Command.deliver.inj hl).1
  rw [hr, hf.armed_after, hf.armed l' s rfl]
  exact ⟨Option.some_ne_none _, if_pos rfl⟩

theorem Turn.currentUser (h : Turn number c p p' posted) :
    p'.settings.currentUser = p.settings.currentUser := by
  cases h with
  | plain _ hf => rw [hf.settings]
  | fifth _ hf hs => rw [hs.settings, ← hf.settings]; rfl

theorem Turn.get (h : Turn number c p p' posted) (key : String) (user : User) (d : Bool) :
    p'.settings.get key user d =
      if number % 5 = 0 ∧ key = Setting.pickUpKey ∧ user = p.settings.currentUser
      then !p.settings.get Setting.pickUpKey p.settings.currentUser true
      else p.settings.get key user d := by
  cases h with
  | plain hn hf => rw [hf.settings, if_neg fun h => hn h.1]
  | fifth hn hf hs =>
    rw [hs.settings, Settings.get_put, hf.settings]
    simp only [hn, true_and, eq_comm]

end Turn

end Simulation

/-- A simulator beside a platform that others change too. -/
structure Simulator where
  platform : Platform
  ticks : ℕ := 0
  posted : List Command := []
  gaveUp : Bool := false

namespace Simulator

/-- A tick, or what others do between two ticks. -/
inductive Move where
  | tick (c : Choice)
  | registry (c : Registry.Call)
  | settings (c : Settings.Call)

def Move.isTick : Move → Bool
  | .tick _ => true
  | _ => false

def Move.settings? : Move → Option Settings.Call
  | .settings c => some c
  | _ => none

/-- Others do not put the pickup setting of a user, and do not switch the user. -/
def Move.leaves (user : User) : Move → Bool
  | .settings c => c.stored? Setting.pickUpKey user = none ∧ c.user? = none
  | _ => true

/-- What is posted in a move. -/
def posts (receiver : Bool) (s : Simulator) : Move → List Command
  | .tick c =>
    if s.gaveUp then [] else (Simulation.tick (s.ticks + 1) receiver c s.platform).1.posted
  | _ => []

def move (receiver : Bool) (s : Simulator) : Move → Simulator
  | .tick c =>
    if s.gaveUp then s
    else
      let r := Simulation.tick (s.ticks + 1) receiver c s.platform
      ⟨r.2, s.ticks + 1, s.posted ++ r.1.posted, r.1.gaveUp⟩
  | .registry c =>
    { s with platform := { s.platform with registry := (s.platform.registry.call c).2 } }
  | .settings c =>
    { s with platform := { s.platform with settings := s.platform.settings.call c } }

/-- A session steps as its simulator ticks, and then its bank serves what was posted. -/
theorem step_session (s : Simulation.Session) (c : Choice) :
    s.step c =
      let t := (⟨s.platform, s.ticks, [], s.gaveUp⟩ : Simulator).move s.bank.isSome (.tick c)
      Simulation.Session.serve ⟨s.bank, t.platform, t.ticks, t.gaveUp⟩ t.posted := by
  obtain ⟨bank, platform, ticks, gaveUp⟩ := s
  cases gaveUp with
  | true => cases bank <;> rfl
  | false => rfl

def run (receiver : Bool) (s : Simulator) (ms : List Move) : Simulator :=
  ms.foldl (move receiver) s

/-- The moves of a run, each with what it started from. -/
def trail (receiver : Bool) (s : Simulator) : List Move → List (Simulator × Move)
  | [] => []
  | m :: ms => (s, m) :: trail receiver (s.move receiver m) ms

section Runs

variable (receiver : Bool) (s : Simulator)

theorem run_concat (ms : List Move) (m : Move) :
    s.run receiver (ms ++ [m]) = (s.run receiver ms).move receiver m := by
  simp [run]

theorem trail_concat (ms : List Move) (m : Move) :
    s.trail receiver (ms ++ [m]) = s.trail receiver ms ++ [(s.run receiver ms, m)] := by
  induction ms generalizing s with
  | nil => rfl
  | cons m' ms ih => exact congrArg ((s, m') :: ·) (ih _)

theorem posted_move (m : Move) :
    (s.move receiver m).posted = s.posted ++ s.posts receiver m := by
  cases m with
  | tick c =>
    simp only [move, posts]
    split
    · exact (List.append_nil _).symm
    · rfl
  | registry | settings => exact (List.append_nil _).symm

theorem posted_run (ms : List Move) :
    (s.run receiver ms).posted =
      s.posted ++ (s.trail receiver ms).flatMap fun x => x.1.posts receiver x.2 := by
  induction ms using List.reverseRecOn with
  | nil => simp [run, trail]
  | append_singleton ms m ih =>
    rw [run_concat, posted_move, ih, trail_concat, List.flatMap_append, List.append_assoc,
      List.flatMap_singleton]

/-- A trail is that of some moves, one more move, and the trail of the rest from there. -/
theorem trail_split {s a : Simulator} {ms : List Move} {m : Move} {xs ys : List (Simulator × Move)}
    (h : s.trail receiver ms = xs ++ (a, m) :: ys) :
    ∃ before rest, xs = s.trail receiver before ∧ a = s.run receiver before ∧
      ys = (a.move receiver m).trail receiver rest := by
  induction xs generalizing s ms with
  | nil =>
    cases ms with
    | nil => cases h
    | cons m' ms =>
      obtain ⟨hp, rfl⟩ := List.cons.inj h
      obtain ⟨rfl, rfl⟩ := Prod.mk.inj hp
      exact ⟨[], ms, rfl, rfl, rfl⟩
  | cons x xs ih =>
    cases ms with
    | nil => cases h
    | cons m' ms =>
      obtain ⟨rfl, ht⟩ := List.cons.inj h
      obtain ⟨before, rest, rfl, rfl, rfl⟩ := ih ht
      exact ⟨m' :: before, rest, rfl, rfl, rfl⟩

end Runs

section Steps

variable {s : Simulator}

theorem move_tick (h : s.gaveUp = false) (c : Choice) :
    (s.move true (.tick c)).gaveUp = false ∧ (s.move true (.tick c)).ticks = s.ticks + 1 ∧
      Simulation.Turn (s.ticks + 1) c s.platform (s.move true (.tick c)).platform
        (s.posts true (.tick c)) := by
  obtain ⟨ht, hg⟩ := Simulation.turn_tick (s.ticks + 1) c s.platform
  rw [move, posts, if_neg (by simp [h]), if_neg (by simp [h])]
  exact ⟨hg, rfl, ht⟩

theorem gaveUp_run (h : s.gaveUp = false) (ms : List Move) : (s.run true ms).gaveUp = false := by
  induction ms using List.reverseRecOn with
  | nil => exact h
  | append_singleton ms m ih =>
    rw [run_concat]
    cases m with
    | tick c => exact (move_tick ih c).1
    | registry | settings => exact ih

theorem turn_of_mem_trail (h : s.gaveUp = false) {a : Simulator} {ms : List Move} {c : Choice}
    (ha : (a, .tick c) ∈ s.trail true ms) :
    Simulation.Turn (a.ticks + 1) c a.platform (a.move true (.tick c)).platform
      (a.posts true (.tick c)) := by
  obtain ⟨xs, ys, ht⟩ := List.append_of_mem ha
  obtain ⟨before, rest, -, rfl, -⟩ := trail_split true ht
  exact (move_tick (gaveUp_run h before) c).2.2

theorem filterMap_settings {m : Move} (hm : m.settings? = none) (ms : List Move) :
    (ms ++ [m]).filterMap Move.settings? = ms.filterMap Move.settings? := by
  rw [List.filterMap_append, List.filterMap_cons_none hm, List.filterMap_nil, List.append_nil]

/-- What holds after some moves of what was there before them. -/
structure Kept (p : Platform) (ms : List Move) (s : Simulator) : Prop where
  gaveUp : s.gaveUp = false
  ticks : s.ticks = ms.countP (·.isTick)
  user : s.platform.settings.currentUser = p.settings.currentUser
  pickUp : s.platform.settings.get Setting.pickUpKey p.settings.currentUser true =
    Bool.not^[s.ticks / 5] (p.settings.get Setting.pickUpKey p.settings.currentUser true)
  others : ∀ key user d, ¬(key = Setting.pickUpKey ∧ user = p.settings.currentUser) →
    s.platform.settings.get key user d =
      (p.settings.after (ms.filterMap Move.settings?)).get key user d

theorem Kept.move {p : Platform} {ms : List Move} (h : Kept p ms s) {m : Move}
    (hm : m.leaves p.settings.currentUser = true) : Kept p (ms ++ [m]) (s.move true m) := by
  cases m with
  | tick c =>
    obtain ⟨hg, hk, ht⟩ := move_tick h.gaveUp c
    refine ⟨hg, ?_, ht.currentUser.trans h.user, ?_, fun key user d hn => ?_⟩
    · rw [hk, h.ticks, List.countP_append]
      rfl
    · rw [ht.get, h.user, hk, h.pickUp]
      by_cases hf : (s.ticks + 1) % 5 = 0
      · have hq : (s.ticks + 1) / 5 = s.ticks / 5 + 1 := by omega
        rw [if_pos ⟨hf, rfl, rfl⟩, hq, Function.iterate_succ_apply']
      · have hq : (s.ticks + 1) / 5 = s.ticks / 5 := by omega
        rw [if_neg fun h => hf h.1, hq]
    · rw [ht.get, h.user, if_neg fun h => hn h.2, h.others key user d hn, filterMap_settings rfl]
  | registry c =>
    refine ⟨h.gaveUp, ?_, h.user, h.pickUp, fun key user d hn => ?_⟩
    · exact h.ticks.trans (by simp [Move.isTick])
    · rw [filterMap_settings rfl]
      exact h.others key user d hn
  | settings c =>
    obtain ⟨hs, hu⟩ :
        c.stored? Setting.pickUpKey p.settings.currentUser = none ∧ c.user? = none := by
      simpa [Move.leaves] using hm
    refine ⟨h.gaveUp, ?_, ?_, ?_, fun key user d hn => ?_⟩
    · exact h.ticks.trans (by simp [Move.isTick])
    · exact (Settings.currentUser_call _ c).trans (by rw [hu]; exact h.user)
    · exact (Settings.get_call ..).trans (by rw [hs]; exact h.pickUp)
    · have hf : (ms ++ [Move.settings c]).filterMap Move.settings? =
          ms.filterMap Move.settings? ++ [c] := by
        simp [Move.settings?]
      rw [hf, Settings.after_concat, Settings.get_call, ← h.others key user d hn]
      exact Settings.get_call ..

theorem Kept.run (p : Platform) {ms : List Move}
    (hm : ∀ m ∈ ms, m.leaves p.settings.currentUser = true) :
    Kept p ms (Simulator.run true { platform := p } ms) := by
  induction ms using List.reverseRecOn with
  | nil =>
    exact {
      gaveUp := rfl
      ticks := rfl
      user := rfl
      pickUp := by simp [Simulator.run]
      others := fun _ _ _ _ => rfl }
  | append_singleton ms m ih =>
    rw [run_concat]
    exact (ih fun m hi => hm m (List.mem_append_left _ hi)).move (hm m (by simp))

theorem ticks_trail (p : Platform) {ms : List Move}
    (hm : ∀ m ∈ ms, m.leaves p.settings.currentUser = true) :
    ((Simulator.trail true { platform := p } ms).filter (·.2.isTick)).map (·.1.ticks) =
      List.range (ms.countP (·.isTick)) := by
  induction ms using List.reverseRecOn with
  | nil => rfl
  | append_singleton ms m ih =>
    have hi : ∀ m ∈ ms, m.leaves p.settings.currentUser = true := fun m hi =>
      hm m (List.mem_append_left _ hi)
    rw [trail_concat, List.filter_append, List.map_append, ih hi, List.countP_append]
    cases ht : m.isTick with
    | true => simp [ht, (Kept.run p hi).ticks, List.range_succ]
    | false => simp [ht]

end Steps

section Registrations

variable {s : Simulator} {l : Listener}

/-- Only an accepted request arms a listener. -/
theorem unarmed_move {m : Move} (hl : s.platform.registry.armed[l]? = none)
    (hm : ∀ sensor, m = .registry (.request l sensor) → s.platform.registry.accepting = false) :
    (s.move true m).platform.registry.armed[l]? = none := by
  cases m with
  | tick c =>
    cases hg : s.gaveUp with
    | true => simpa [move, hg] using hl
    | false => exact (move_tick hg c).2.2.unarmed hl
  | registry c =>
    refine (Registry.armed_call ..).trans ?_
    rw [hl]
    split
    · next hc =>
      cases c with
      | request l' sensor =>
        obtain ⟨rfl, ha⟩ : l' = l ∧ s.platform.registry.accepting = true := by
          simpa [Registry.Call.settles] using hc
        exact absurd ((hm sensor rfl).symm.trans ha) Bool.false_ne_true
      | cancel | fire | accepting | confirming => rfl
    · rfl
  | settings c => exact hl

theorem unarmed_run {ms : List Move} (hl : s.platform.registry.armed[l]? = none)
    (hx : ∀ d sensor, (d, .registry (.request l sensor)) ∈ s.trail true ms →
      d.platform.registry.accepting = false) :
    (s.run true ms).platform.registry.armed[l]? = none := by
  induction ms generalizing s with
  | nil => exact hl
  | cons m ms ih =>
    refine ih (unarmed_move hl ?_) fun d sensor hd => hx d sensor (List.mem_cons_of_mem _ hd)
    rintro sensor rfl
    exact hx s sensor List.mem_cons_self

theorem consumed_move {c : Choice} {e : Event} (he : .deliver l e ∈ s.posts true (.tick c)) :
    s.platform.registry.armed[l]? ≠ none ∧
      (s.move true (.tick c)).platform.registry.armed[l]? = none := by
  cases hg : s.gaveUp with
  | true => simp [posts, hg] at he
  | false => exact (move_tick hg c).2.2.consumed he

end Registrations

/-- A simulator posts what it did. While others leave the pickup setting of the user who is current
alone, and the user too, it has flipped that setting on every fifth tick and changed no other one.
It has posted, tick by tick, the event of the registration that the tick used up and then the change
if somebody observes the setting. A listener that gives two events was armed anew between them, and
a simulator that has a receiver never gives up. -/
theorem posts_what_it_did (p : Platform) (ms : List Move)
    (hm : ∀ m ∈ ms, m.leaves p.settings.currentUser = true) :
    let s := Simulator.run true { platform := p } ms
    let trail := Simulator.trail true { platform := p } ms
    let user := p.settings.currentUser
    (s.gaveUp = false ∧ s.ticks = ms.countP (·.isTick) ∧
      (trail.filter (·.2.isTick)).map (·.1.ticks) = List.range s.ticks) ∧
    (s.platform.settings.currentUser = user ∧
      s.platform.settings.get Setting.pickUpKey user true =
        Bool.not^[s.ticks / 5] (p.settings.get Setting.pickUpKey user true) ∧
      ∀ key user' d, ¬(key = Setting.pickUpKey ∧ user' = user) →
        s.platform.settings.get key user' d =
          (p.settings.after (ms.filterMap Move.settings?)).get key user' d) ∧
    s.posted = (trail.flatMap fun x => x.1.posts true x.2) ∧
    (∀ a c, (a, .tick c) ∈ trail →
      Simulation.Turn (a.ticks + 1) c a.platform (a.move true (.tick c)).platform
        (a.posts true (.tick c))) ∧
    ∀ xs a c ys b c' zs, trail = xs ++ (a, .tick c) :: (ys ++ (b, .tick c') :: zs) →
      ∀ l e e', .deliver l e ∈ a.posts true (.tick c) → .deliver l e' ∈ b.posts true (.tick c') →
        ∃ d sensor, (d, .registry (.request l sensor)) ∈ ys ∧
          d.platform.registry.accepting = true := by
  intro s trail user
  have h := Kept.run p hm
  refine ⟨⟨h.gaveUp, h.ticks, ?_⟩, ⟨h.user, h.pickUp, h.others⟩, ?_, fun a c ha => ?_, ?_⟩
  · rw [h.ticks]
    exact ticks_trail p hm
  · exact posted_run true { platform := p } ms
  · exact turn_of_mem_trail rfl ha
  · intro xs a c ys b c' zs ht l e e' he he'
    obtain ⟨-, rest, -, -, hr⟩ := trail_split true ht
    obtain ⟨mid, -, rfl, rfl, -⟩ := trail_split true hr.symm
    -- The first of the ticks disarms the listener, and the second one finds it armed.
    by_contra hn
    refine (consumed_move he').1 (unarmed_run (consumed_move he).2 fun d sensor hd => ?_)
    rw [← Bool.not_eq_true]
    exact fun ha => hn ⟨d, sensor, hd, ha⟩

/-- The same listener fires twice, and between the ticks it is armed anew. -/
theorem posts_what_it_did_twice :
    let user := User.system
    let sensor : Sensor := ⟨2, "Pickup Gesture", .pickUpGesture, "android.sensor.pick_up_gesture"⟩
    let e : Event := ⟨sensor, 9, [Number.Single.ofNat 1]⟩
    let p : Platform := { registry := .standard "", settings := { currentUser := user } }
    let c : Choice := ⟨0, 1, 9⟩
    let request : Move := .registry (.request 7 sensor)
    let ms := [request, .tick c, request, .settings (.register 1 Setting.pickUpKey .current),
      .tick c, .tick c, .settings (.put Setting.doubleTapKey user false), .tick c, .tick c]
    let s := Simulator.run true { platform := p } ms
    let a := Simulator.run true { platform := p } [request]
    (∀ m ∈ ms, m.leaves user = true) ∧ s.gaveUp = false ∧
      s.platform.settings.get Setting.pickUpKey user true = false ∧
      s.platform.settings.get Setting.doubleTapKey user true = false ∧
      s.posted = [.deliver 7 e, .deliver 7 e, .settingChanged ⟨Setting.pickUpKey, user⟩] ∧
      Simulation.Turn 1 c a.platform (a.move true (.tick c)).platform [.deliver 7 e] ∧
      ∃ d sensor', (d, .registry (.request 7 sensor')) ∈
        Simulator.trail true (a.move true (.tick c))
          [request, .settings (.register 1 Setting.pickUpKey .current)] ∧
        d.platform.registry.accepting = true := by
  intro user sensor e p c request ms s a
  have hm : ∀ m ∈ ms, m.leaves p.settings.currentUser = true := by decide
  obtain ⟨⟨hg, hk, -⟩, ⟨-, hp, ho⟩, hposts, ht, hr⟩ := posts_what_it_did p ms hm
  have hn : (Simulator.run true { platform := p } ms).ticks = 5 := hk
  rw [hn] at hp
  have ha : a.ticks + 1 = 1 := by decide +kernel
  have he : a.posts true (.tick c) = [.deliver 7 e] := by decide +kernel
  simp only [s]
  refine ⟨hm, hg, hp, ?_, hposts.trans (by decide +kernel), ?_, ?_⟩
  · exact (ho Setting.doubleTapKey user true (by decide)).trans (by decide +kernel)
  · have h := ht a c (.tail _ (.head _))
    rwa [he, ha] at h
  · refine hr [_] a c _ _ c _ rfl 7 e e ?_ ?_
    · rw [he]
      decide +kernel
    · decide +kernel

end Simulator

end AmbientPulse
