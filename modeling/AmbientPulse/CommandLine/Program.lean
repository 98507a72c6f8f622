import AmbientPulse.CommandLine.Arguments
import AmbientPulse.CommandLine.Log
import AmbientPulse.Config.File
import AmbientPulse.Simulation

namespace AmbientPulse.CommandLine

/-- All that a run starts from. -/
structure Surroundings where
  arguments : List String
  environment : Environment
  files : String → FileState

/-- What is left of a run: its exit code, its output and its log. -/
structure Report where
  code : Nat
  output : String := ""
  log : List LogLine := []

def say (level : Level) (text : String) : LogLine :=
  ⟨level, "doze_sim", text⟩

def opening : LogLine :=
  say .info "Starting doze sensor simulation"

def versionText : String :=
  "doze-sim 0.1.0\n"

def helpText : String :=
  "Trigger sensor coordination for ambient display pulses\n\n" ++
    "Usage: doze-sim [OPTIONS]\n\nOptions:\n" ++
    "  -c, --config <CONFIG>                      JSON device config [env: DOZE_CONFIG=]\n" ++
    "      --fire-interval-ms <FIRE_INTERVAL_MS>  Milliseconds between fires [default: 2000]\n" ++
    "      --duration-secs <DURATION_SECS>        Stop after this many seconds\n" ++
    "  -h, --help                                 Print help\n" ++
    "  -V, --version                              Print version\n"

/-- A run that has got as far as its first tick. -/
structure Running where
  options : Options
  session : Simulation.Session
  log : List LogLine

def configPath (s : Surroundings) (o : Options) : String :=
  o.config.getD <|
    Config.defaultPath ((s.environment.path? "HOME").getD "") (s.environment.path? "XDG_CONFIG_HOME")

def describeConfig (c : Config) : List LogLine := [
  say .info "Configuration loaded:",
  say .info s!"  Sig motion: {c.pulseOnSignificantMotion}",
  say .info s!"  Pickup: {c.pulseOnPickUp}",
  say .info ("  Double tap type: " ++ Text.quoted c.doubleTapType)]

/-- A device without a double-tap sensor still has one in the simulation, of a type of its own. -/
def simulatedType (c : Config) : String :=
  if c.doubleTapType = "" then "vendor.sim.double_tap" else c.doubleTapType

def platformFor (c : Config) : Platform where
  registry := Registry.standard (simulatedType c)
  settings := { currentUser := User.system }
  reporting := true

def startWith (o : Options) (c : Config) : Except Report Running :=
  let log := opening :: describeConfig c
  match Bank.ofConfig c 1 (platformFor c) with
  | .error e =>
    .error ⟨1, "", log ++ [say .error ("Failed to create doze sensors: " ++ e.message)]⟩
  | .ok (b, p) =>
    let session := (Simulation.Session.begin b { p with log := [] }).serve [.listen true]
    .ok ⟨o, session,
      log ++ p.log.map LogLine.ofNotice ++ [say .info ("Trigger sensors:\n" ++ b.text)]⟩

def start (s : Surroundings) : Except Report Running :=
  match parse s.arguments (s.environment.path? "DOZE_CONFIG") with
  | .error f => .error ⟨2, f.message, [opening]⟩
  | .ok .help => .error ⟨0, helpText, [opening]⟩
  | .ok .version => .error ⟨0, versionText, [opening]⟩
  | .ok (.run o) =>
    let path := configPath s o
    match Config.load (s.files path) s.environment with
    | .error e => .error ⟨1, "", [opening, say .error s!"Failed to load {path}: {e.message}"]⟩
    | .ok c => startWith o c

namespace Running

def lines (r : Running) : List LogLine :=
  r.log ++ r.session.platform.log.map LogLine.ofNotice

def step (r : Running) (c : Choice) : Running :=
  { r with session := r.session.step c }

/-- Ticks come at once and then after every interval. None comes when the time is up. -/
def tickCount (r : Running) : Nat :=
  match r.options.duration with
  | none => 0
  | some seconds =>
    let interval := r.options.interval.toNat
    if interval = 0 then 0 else (seconds.toNat * 1000 + interval - 1) / interval

def closingWords (r : Running) : String :=
  if r.options.duration.isSome then "Duration elapsed" else "Received shutdown signal"

/-- Stop listening, say how things stand, and give the bank up. -/
def finish (r : Running) : Report :=
  let session := r.session.finish
  let notices := (session.platform.log.drop r.session.platform.log.length).map LogLine.ofNotice
  let rest :=
    match session.bank with
    | none => [say .error "Dispatch task failed"]
    | some b =>
      let p := b.close { session.platform with log := [] }
      say .info ("Final trigger state:\n" ++ b.text) :: p.log.map LogLine.ofNotice
  ⟨0, "", r.lines ++ [say .info r.closingWords] ++ notices ++ rest ++
    [say .info "Doze sensor simulation stopped"]⟩

end Running

/-- A whole run, given what chance decides. -/
def run (s : Surroundings) (choose : Nat → Choice) : Report :=
  match start s with
  | .error report => report
  | .ok r => ((List.range r.tickCount).foldl (fun r i => r.step (choose i)) r).finish

/-- Without word from the environment, what is worth informing of passes. -/
def logFilter (env : Environment) : LogFilter × List String :=
  LogFilter.read ((env.text? "RUST_LOG").getD "info")

/-- The lines that are written to the log, complaints about the filter first. -/
def Report.logText (r : Report) (env : Environment) : List String :=
  let f := logFilter env
  f.2 ++ (r.log.filter f.1.admits).map LogLine.render

end AmbientPulse.CommandLine
