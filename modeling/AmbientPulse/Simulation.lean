import AmbientPulse.Command
import AmbientPulse.Config.Basic

namespace AmbientPulse

/-- What chance and the clock decide on one tick. -/
structure Choice where
  index : Nat
  subtype : Nat
  timestamp : UInt64
  deriving Repr

/-- A simulator's tick: the commands it posted, and whether it gave up for want of a receiver. -/
structure Tick where
  posted : List Command
  gaveUp : Bool
  deriving DecidableEq

namespace Simulation

/-- On every tick with this divisor the pickup setting is flipped. -/
def flipInterval : Nat := 5

/-- Fire one of the armed listeners, if there are any. -/
def fireSome (c : Choice) (p : Platform) : Option Command × Platform :=
  let armed := p.registry.armedListeners
  match armed[c.index % armed.length]? with
  | none => (none, p)
  | some l =>
    let r := p.fire l [Number.Single.ofNat c.subtype] c.timestamp
    match r.1 with
    | none => (none, r.2)
    | some e => (some (.deliver l e), r.2.note (.simulatedFire l e))

/-- Flip the current user's pickup setting. The change is posted if anybody observes it. -/
def flipSetting (p : Platform) : Option Command × Platform :=
  let user := p.settings.currentUser
  let value := !p.settings.get Setting.pickUpKey user true
  let r := p.put Setting.pickUpKey user value
  (if r.1.isEmpty then none else some (.settingChanged ⟨Setting.pickUpKey, user⟩),
    r.2.note (.simulatedFlip Setting.pickUpKey value user))

/-- A simulator without a receiver gives up as soon as it has something to post. -/
def tick (number : Nat) (receiver : Bool) (c : Choice) (p : Platform) : Tick × Platform :=
  let f := fireSome c p
  if f.1.isSome && !receiver then (⟨[], true⟩, f.2)
  else if number % flipInterval = 0 then
    let s := flipSetting f.2
    if s.1.isSome && !receiver then (⟨[], true⟩, s.2)
    else (⟨f.1.toList ++ s.1.toList, false⟩, s.2)
  else (⟨f.1.toList, false⟩, f.2)

/-- A simulator beside a bank that serves its posts. There is no bank once it has been given up. -/
structure Session where
  bank : Option Bank
  platform : Platform
  ticks : Nat := 0
  gaveUp : Bool := false
  deriving DecidableEq

namespace Session

def serve (s : Session) (cs : List Command) : Session :=
  match s.bank with
  | none => s
  | some b =>
    let r := b.drain cs s.platform
    match r.1.1 with
    | .broken _ => { s with bank := none, platform := r.1.2.close r.2 }
    | _ => { s with bank := some r.1.2, platform := r.2 }

def begin (b : Bank) (p : Platform) : Session :=
  ⟨some b, p.note .queueOpened, 0, false⟩

/-- One tick, after which the bank serves all that was posted. -/
def step (s : Session) (c : Choice) : Session :=
  if s.gaveUp then s
  else
    let r := tick (s.ticks + 1) s.bank.isSome c s.platform
    { s with platform := r.2, ticks := s.ticks + 1, gaveUp := r.1.gaveUp }.serve r.1.posted

def steps (s : Session) (cs : List Choice) : Session :=
  cs.foldl step s

/-- Give the bank up in the middle of its work. -/
def abandon (s : Session) : Session :=
  match s.bank with
  | none => s
  | some b => { s with bank := none, platform := b.close s.platform }

/-- The queue is closed and the bank, if there still is one, stops listening. -/
def finish (s : Session) : Session :=
  match s.bank with
  | none => s
  | some b =>
    let r := b.listen false s.platform
    { s with bank := some r.1, platform := r.2.note .queueClosed }

end Session

end Simulation

end AmbientPulse
