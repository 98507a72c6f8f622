import Mathlib.Data.List.Basic
import AmbientPulse.Command
import AmbientPulse.Config.Basic

namespace AmbientPulse

/-- What happens to a platform without its bank. -/
inductive Outside where
  | put (key : String) (user : User) (value : Bool)
  | switchUser (user : User)
  | fire (listener : Listener) (values : List Number.Single) (timestamp : UInt64)
  | accepting (on : Bool)
  | confirming (on : Bool)
  | failing (on : Bool)
  | breaking (on : Bool)
  deriving DecidableEq, Repr

def Platform.outside (p : Platform) : Outside → Platform
  | .put key user value => (p.put key user value).2
  | .switchUser user => p.switchUser user
  | .fire l values timestamp => (p.fire l values timestamp).2
  | .accepting on => { p with registry := { p.registry with accepting := on } }
  | .confirming on => { p with registry := { p.registry with confirming := on } }
  | .failing on => { p with callback := { p.callback with failing := on } }
  | .breaking on => { p with callback := { p.callback with breaking := on } }

@[simp] theorem Platform.trace_outside (p : Platform) (o : Outside) :
    (p.outside o).trace = p.trace := by
  cases o <;> rfl

/-- A device with significant motion and pickup sensors that nobody has used yet. -/
def Platform.standard : Platform where
  registry := .standard ""
  settings := { currentUser := User.system }

/-- A turn is the bank's, asked for something or given up, or belongs to the outside. -/
inductive Turn where
  | command (c : Command)
  | close
  | outside (o : Outside)
  deriving DecidableEq, Repr

def Turn.delivers (i : Listener) : Turn → Bool
  | .command (.deliver l _) => l == i
  | _ => false

/-- A bank on its platform. A bank that has been given up takes no more commands. -/
structure World where
  bank : Bank
  platform : Platform
  closed : Bool := false
  deriving DecidableEq

namespace World

def ask (w : World) (c : Command) : World :=
  let r := w.bank.apply c w.platform
  { w with bank := r.1.2, platform := r.2 }

/-- Giving a bank up stops it first. What is left of the bank is only looked at. -/
def close (w : World) : World :=
  { w with
    bank := (w.bank.listen false w.platform).1
    platform := w.bank.close w.platform
    closed := true }

def outside (w : World) (o : Outside) : World :=
  { w with platform := w.platform.outside o }

def turn (w : World) : Turn → World
  | .command c => if w.closed then w else w.ask c
  | .close => if w.closed then w else w.close
  | .outside o => w.outside o

def run (w : World) (ts : List Turn) : World :=
  ts.foldl turn w

/-- A bank that has just been put together on a platform, whatever happened there before. -/
def assembled (m : Subtype.Matcher) (rs : List Requirement) (suppressible : Option Nat)
    (o : Observer) (p : Platform) : World :=
  let r := Bank.assemble m rs suppressible o p
  { bank := r.1, platform := r.2 }

def effects (w : World) (t : Turn) : List Effect :=
  (w.turn t).platform.trace.drop w.platform.trace.length

@[simp] theorem run_nil (w : World) : w.run [] = w := rfl

theorem run_keeps {P : World → Prop} (h : ∀ w t, P w → P (w.turn t)) {w : World} (hw : P w)
    (ts : List Turn) : P (w.run ts) := by
  induction ts generalizing w with
  | nil => exact hw
  | cons t ts ih => exact ih (h w t hw)

end World

end AmbientPulse
