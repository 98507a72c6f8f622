import AmbientPulse.Notice
import AmbientPulse.WakeLock

namespace AmbientPulse.WakeLock

/-- Code that uses a wake lock. `hold` keeps the lock for a block, `leave` ends the block it stands
in, and `shield` stops a breakdown inside its block. -/
inductive Action where
  | acquire
  | release
  | hold (block : List Action)
  | leave
  | breakDown (text : String)
  | shield (block : List Action)

inductive Mark where
  | acquired
  | released
  | holding
  | held
  | left
  | brokeDown (text : String)
  | shielded
  deriving DecidableEq, Repr

/-- The lock, and what has happened to it: every mark with the lock as it was then. -/
structure History where
  lock : WakeLock := {}
  marks : List (Mark × WakeLock) := []
  log : List Notice := []

namespace History

def mark (h : History) (m : Mark) : History :=
  { h with marks := h.marks ++ [(m, h.lock)] }

def acquire (h : History) : History :=
  { h with lock := h.lock.acquire }

def release (h : History) : History :=
  { h with lock := h.lock.release }

def note (h : History) (n : Notice) : History :=
  { h with log := h.log ++ [n] }

end History

/-- How an action ends: the next one follows, its block is left, or it breaks down. -/
inductive Ending where
  | next
  | left
  | broken (text : String)
  deriving DecidableEq, Repr

/-- The lock is given back after the block, whichever way the block ends. -/
def afterHold (r : Ending × History) : Ending × History :=
  let h := r.2.release.note .lockReleased
  match r.1 with
  | .broken text => (.broken text, h)
  | _ => (.next, h.mark .held)

def afterShield (r : Ending × History) : Ending × History :=
  match r.1 with
  | .broken text => (.next, (r.2.mark (.brokeDown text)).mark .shielded)
  | _ => (.next, r.2.mark .shielded)

mutual

def Action.run (h : History) : Action → Ending × History
  | .acquire => (.next, h.acquire.mark .acquired)
  | .release => (.next, h.release.mark .released)
  | .hold block => afterHold (runBlock ((h.acquire.note .lockAcquired).mark .holding) block)
  | .leave => (.left, h.mark .left)
  | .breakDown text => (.broken text, h)
  | .shield block => afterShield (runBlock h block)

def runBlock (h : History) : List Action → Ending × History
  | [] => (.next, h)
  | a :: as =>
    let r := a.run h
    match r.1 with
    | .next => runBlock r.2 as
    | ending => (ending, r.2)

end

end AmbientPulse.WakeLock
