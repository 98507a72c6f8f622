import Std.Time.DateTime.Timestamp
import AmbientPulse.CommandLine.Program
import AmbientPulse.CommandLine.Stamp

namespace AmbientPulse.CommandLine

/-- The variables that a run looks at. -/
def variableNames : List String :=
  ["DOZE_PULSE_ON_SIG_MOTION", "DOZE_PICKUP_SUPPORTED", "DOZE_AMBIENT_AVAILABLE",
    "DOZE_DOUBLE_TAP_TYPE", "DOZE_PICKUP_PROX_SUBTYPES", "DOZE_CONFIG", "RUST_LOG", "HOME",
    "XDG_CONFIG_HOME"]

def readVariables : IO Environment := do
  let entries ← variableNames.filterMapM fun name => do
    return (← IO.getEnv name).map fun value => (name, value.toUTF8)
  return Environment.ofList entries

def readState (path : String) : IO FileState := do
  try
    return .content (← IO.FS.readBinFile path)
  catch
    | .inappropriateType .. => return .directory
    | _ => return .absent

def milliseconds : IO Nat := do
  return (← Std.Time.Timestamp.now).toMillisecondsSinceUnixEpoch.val.toNat

def stamped (now : Nat) (line : String) : String :=
  match line.toList with
  | '[' :: rest => "[" ++ stamp now ++ " " ++ String.ofList rest
  | _ => line

def writeLog (env : Environment) (lines : List LogLine) : IO Unit := do
  let now ← milliseconds
  for l in lines.filter (logFilter env).1.admits do
    IO.eprintln (stamped now l.render)

def choose : IO Choice := do
  let index ← IO.rand 0 1000000
  let subtype ← IO.rand 0 3
  return ⟨index, subtype, UInt64.ofNat ((← milliseconds) * 1000000)⟩

/-- How long to sleep before the next tick when `left` milliseconds remain. -/
def pauseBefore (interval : Nat) (left : Option Nat) : Nat :=
  min interval (min (left.getD 3600000) 3600000)

/-- Sleep through an interval that may be longer than one sleep can be. -/
partial def rest (interval : Nat) (left : Option Nat) : IO (Option Nat) := do
  if interval == 0 || left == some 0 then return left
  let pause := pauseBefore interval left
  IO.sleep (UInt32.ofNat pause)
  rest (interval - pause) (left.map (· - pause))

/-- Tick until the time is up, or for ever. Without an interval there are no ticks. -/
partial def keepTicking (env : Environment) (left : Option Nat) (r : Running) : IO Running := do
  if left == some 0 then return r
  let interval := r.options.interval.toNat
  if interval == 0 then
    keepTicking env (← rest 1000 left) r
  else
    let next := r.step (← choose)
    writeLog env (next.lines.drop r.lines.length)
    keepTicking env (← rest interval left) next

def surroundings (args : List String) (env : Environment) : IO Surroundings := do
  let bare : Surroundings := ⟨args, env, fun _ => .absent⟩
  match parse args (env.path? "DOZE_CONFIG") with
  | .ok (.run o) =>
    let state ← readState (configPath bare o)
    return { bare with files := fun _ => state }
  | _ => return bare

end AmbientPulse.CommandLine

open AmbientPulse AmbientPulse.CommandLine
def main (args : List String) : IO UInt32 := do
  let env ← readVariables
  for warning in (logFilter env).2 do
    IO.eprintln warning
  match start (← surroundings args env) with
  | .error report =>
    writeLog env report.log
    if report.code = 0 then IO.print report.output else IO.eprint report.output
    return UInt32.ofNat report.code
  | .ok r =>
    writeLog env r.lines
    let last ← keepTicking env (r.options.duration.map fun seconds => seconds.toNat * 1000) r
    let report := last.finish
    writeLog env (report.log.drop last.lines.length)
    return UInt32.ofNat report.code
