import AmbientPulse.Proofs.Act

namespace AmbientPulse

namespace World

def handle (w : World) (c : Command) : Outcome × World :=
  let r := w.bank.handle c w.platform
  (r.1.1, { w with bank := r.1.2, platform := r.2 })

/-- Handle what comes from a queue while things go on outside. A breakdown leaves the rest undone. -/
def drain (w : World) : List (Command ⊕ Outside) → Outcome × World
  | [] => (.done, w)
  | .inr o :: ks => (w.outside o).drain ks
  | .inl c :: ks =>
    let r := w.handle c
    match r.1 with
    | .broken reason => (.broken reason, r.2)
    | _ => r.2.drain ks

/-- Serve a queue until it is closed, then stop listening. A bank that breaks down is given up. -/
def serve (w : World) (ks : List (Command ⊕ Outside)) : Outcome × World :=
  let r := drain { w with platform := w.platform.note .queueOpened } ks
  match r.1 with
  | .broken reason => (.broken reason, r.2.close)
  | _ => (.done, (r.2.ask (.listen false)).act (.note .queueClosed))

/-- Whether or not a queue gets served to its end, the bank is stopped after it. -/
theorem serve_cases (w : World) (ks : List (Command ⊕ Outside)) :
    let v := (drain { w with platform := w.platform.note .queueOpened } ks).2
    (w.serve ks).2 = v.close ∨ (w.serve ks).2 = (v.ask (.listen false)).act (.note .queueClosed) := by
  unfold serve
  dsimp only
  split
  · exact .inl rfl
  · exact .inr rfl

/-- The log is all that handling a command leaves more behind than applying it. -/
theorem handle_performed (w : World) (c : Command) :
    ∃ ns : List Notice, (w.handle c).2 = w.perform (w.commandActs c ++ ns.map .note) := by
  have hc : w.ask c = w.perform (w.commandActs c) := w.ask_performed c
  unfold handle Bank.handle
  dsimp only
  split
  · next l e reason hr =>
    refine ⟨[.pulseFailed l (Outcome.refused reason).message], ?_⟩
    rw [perform_append, ← hc]
    rfl
  · refine ⟨[], ?_⟩
    rw [List.map_nil, List.append_nil, ← hc]
    rfl

theorem drain_keeps {P : World → Prop} (ha : ∀ w a, P w → P (w.act a))
    (ho : ∀ w o, P w → P (w.outside o)) {w : World} (hw : P w) (ks : List (Command ⊕ Outside)) :
    P (w.drain ks).2 := by
  induction ks generalizing w with
  | nil => exact hw
  | cons k ks ih =>
    cases k with
    | inr o => exact ih (ho w o hw)
    | inl c =>
      have hc : P (w.handle c).2 := by
        obtain ⟨ns, h⟩ := w.handle_performed c
        rw [h]
        exact perform_keeps (fun a _ v hv => ha v a hv) hw
      unfold drain
      dsimp only
      split
      · exact hc
      · exact ih hc

/-- While nothing happens outside, a queue is drained as the bank drains it. -/
theorem drain_commands (w : World) (cs : List Command) :
    w.drain (cs.map .inl) =
      ((w.bank.drain cs w.platform).1.1,
        { w with bank := (w.bank.drain cs w.platform).1.2
                 platform := (w.bank.drain cs w.platform).2 }) := by
  induction cs generalizing w with
  | nil => rfl
  | cons c cs ih =>
    rw [List.map_cons, drain, Bank.drain]
    dsimp only [handle]
    cases (w.bank.handle c w.platform).1.1 with
    | broken reason => rfl
    | done | refused => exact ih _

theorem serve_commands (w : World) (cs : List Command) :
    (w.serve (cs.map .inl)).1 = (w.bank.serve cs w.platform).1.1 ∧
      (w.serve (cs.map .inl)).2.platform = (w.bank.serve cs w.platform).2 ∧
      ∀ b, (w.bank.serve cs w.platform).1.2 = some b → (w.serve (cs.map .inl)).2.bank = b := by
  rw [serve, drain_commands, Bank.serve]
  dsimp only
  cases (w.bank.drain cs (w.platform.note .queueOpened)).1.1 with
  | broken reason => exact ⟨rfl, rfl, by simp⟩
  | done | refused => exact ⟨rfl, rfl, fun b hb => Option.some.inj hb⟩

end World

end AmbientPulse
