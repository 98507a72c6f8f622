import AmbientPulse.Bank

namespace AmbientPulse

/-- What can be asked of a bank. -/
inductive Command where
  | deliver (listener : Listener) (event : Event)
  | settingChanged (change : SettingChange)
  | userSwitched
  | listen (on : Bool)
  | rearm
  | suppress (on : Bool)
  deriving DecidableEq, Repr

namespace Bank

def quietly (r : Bank × Platform) : (Outcome × Bank) × Platform :=
  ((.done, r.1), r.2)

def apply (b : Bank) (c : Command) (p : Platform) : (Outcome × Bank) × Platform :=
  match c with
  | .deliver l e => b.deliver l e p
  | .settingChanged c => quietly (b.settingChanged c p)
  | .userSwitched => quietly (b.userSwitched p)
  | .listen on => quietly (b.listen on p)
  | .rearm => quietly (b.rearm p)
  | .suppress on => quietly (b.suppress on p)

/-- Apply a command from a queue: a refused pulse is noted and then forgotten. -/
def handle (b : Bank) (c : Command) (p : Platform) : (Outcome × Bank) × Platform :=
  let r := b.apply c p
  match c, r.1.1 with
  | .deliver l _, .refused reason =>
    ((.done, r.1.2), r.2.note (.pulseFailed l (Outcome.refused reason).message))
  | _, _ => r

/-- Handle commands in order. A breakdown leaves the rest undone. -/
def drain (b : Bank) : List Command → Platform → (Outcome × Bank) × Platform
  | [], p => ((.done, b), p)
  | c :: cs, p =>
    let r := b.handle c p
    match r.1.1 with
    | .broken reason => ((.broken reason, r.1.2), r.2)
    | _ => r.1.2.drain cs r.2

/-- Serve a queue until it is closed, then stop listening. A bank that breaks down is lost. -/
def serve (b : Bank) (cs : List Command) (p : Platform) : (Outcome × Option Bank) × Platform :=
  let r := b.drain cs (p.note .queueOpened)
  match r.1.1 with
  | .broken reason => ((.broken reason, none), r.1.2.close r.2)
  | _ =>
    let s := r.1.2.listen false r.2
    ((.done, some s.1), s.2.note .queueClosed)

end Bank

end AmbientPulse
