import AmbientPulse.Trigger

namespace AmbientPulse

/-- All triggers of one owner. A trigger's listener is its position. `suppressible` is the trigger
that proximity sensing gets in the way of. -/
structure Bank where
  triggers : List Trigger
  suppressible : Option Nat
  watch : Watch
  matcher : Subtype.Matcher
  deriving DecidableEq

/-- Give every trigger its turn, in order. -/
def sweep {σ : Type} (f : Trigger → σ → Trigger × σ) : List Trigger → σ → List Trigger × σ
  | [], s => ([], s)
  | t :: ts, s =>
    let r := f t s
    let rs := sweep f ts r.2
    (r.1 :: rs.1, rs.2)

namespace Bank

def unresolvedNotices (registry : Registry) (rs : List Requirement) : List Notice :=
  (rs.filter fun r => (r.source.resolve? registry).isNone).map fun r => .unresolved r.source r.reason

/-- A suppressible position beyond the last trigger is none. -/
def assemble (m : Subtype.Matcher) (rs : List Requirement) (suppressible : Option Nat)
    (o : Observer) (p : Platform) : Bank × Platform :=
  let triggers := rs.mapIdx (Trigger.ofRequirement p.registry)
  (⟨triggers, suppressible.filter (· < triggers.length), ⟨o, ∅⟩, m⟩,
    (p.noteAll (unresolvedNotices p.registry rs)).note
      (.assembled triggers.length (triggers.countP (·.sensor.isSome))))

def trigger? (b : Bank) (l : Listener) : Option Trigger :=
  b.triggers[l]?

def sweepTriggers (b : Bank) (f : Trigger → Platform → Trigger × Platform) (p : Platform) :
    Bank × Platform :=
  let r := sweep f b.triggers p
  ({ b with triggers := r.1 }, r.2)

def updateAll (b : Bank) (p : Platform) : Bank × Platform :=
  b.sweepTriggers Trigger.update p

def startTrigger (t : Trigger) (s : Watch × Platform) : Trigger × (Watch × Platform) :=
  let r := t.setRequested true s.2
  (r.1, r.1.attach s.1 r.2)

def start (b : Bank) (p : Platform) : Bank × Platform :=
  let r := sweep startTrigger b.triggers (b.watch, p)
  ({ b with triggers := r.1, watch := r.2.1 }, r.2.2)

def stop (b : Bank) (p : Platform) : Bank × Platform :=
  let r := b.sweepTriggers (Trigger.setRequested false) p
  let w := r.1.watch.detach r.2
  ({ r.1 with watch := w.1 }, w.2)

def listen (b : Bank) (on : Bool) (p : Platform) : Bank × Platform :=
  if on then b.start (p.note (.listening on)) else b.stop (p.note (.listening on))

/-- Disarm and arm everything again, for when the registry may have lost track. -/
def rearm (b : Bank) (p : Platform) : Bank × Platform :=
  let r := b.sweepTriggers (Trigger.setRequested false) p
  r.1.sweepTriggers (Trigger.setRequested true) r.2

def userSwitched (b : Bank) (p : Platform) : Bank × Platform :=
  b.updateAll (p.note (.userSwitched p.settings.currentUser))

def settingChanged (b : Bank) (c : SettingChange) (p : Platform) : Bank × Platform :=
  if c.concerns p.settings.currentUser then b.updateAll p
  else (b, p.note (.changeIgnored c p.settings.currentUser))

def setTrigger (b : Bank) (i : Nat) (t : Trigger) : Bank :=
  { b with triggers := b.triggers.set i t }

/-- Keep the suppressible trigger disarmed, or let it go again. -/
def suppress (b : Bank) (on : Bool) (p : Platform) : Bank × Platform :=
  match b.suppressible with
  | none => (b, p)
  | some i =>
    match b.triggers[i]? with
    | none => (b, p)
    | some t =>
      let r := t.setDisabled on p
      (b.setTrigger i r.1, r.2)

/-- A fire for nobody, or for a trigger disarmed while the fire was under way, is dropped. -/
def deliver (b : Bank) (l : Listener) (e : Event) (p : Platform) : (Outcome × Bank) × Platform :=
  match b.triggers[l]? with
  | none => ((.done, b), p.note (.unknownListener l))
  | some t =>
    if t.registered then
      let r := t.fire b.matcher e p
      ((r.1.1, b.setTrigger l r.1.2), r.2)
    else ((.done, b), p.note (.staleFire l e))

/-- A bank that is given up stops listening. -/
def close (b : Bank) (p : Platform) : Platform :=
  (b.listen false p).2

def text (b : Bank) : String :=
  String.join (b.triggers.map fun t => "  " ++ t.reason.name ++ ": " ++ t.text ++ "\n")

end Bank

end AmbientPulse
