import ChatFeed.Config.Startup
import ChatFeed.Hub.Basic

/-!
# The server

The server hosts one shard. It reads its configuration, reports that it starts,
and runs until its input ends. Then it releases everyone who waits.
-/

namespace ChatFeed.Server

/-- What stands at a path. -/
def readConfigFile (path : String) : IO ConfigFile := do
  match ← (IO.FS.readBinFile path).toBaseIO with
  | .ok bytes => return .contents bytes
  | .error (.noFileOrDirectory _ _ _) => return .absent
  | .error _ => return .unreadable

/-- The variables that a configuration may take over. -/
def readEnvironment : IO Environment := do
  let values ← Config.variableNames.filterMapM fun name => do
    return (← IO.getEnv name).map (name, ·)
  return fun name => values.lookup name

/-- Writes a record to the log. -/
def log (logging : Logging) (record : LogRecord) : IO Unit := do
  if let some line := logging.text? record then IO.println line

/-- Waits for the end of the input. -/
partial def awaitEnd (input : IO.FS.Stream) : IO Unit := do
  unless (← input.getLine).isEmpty do awaitEnd input

/-- Runs a server. The argument is the path of its configuration file. -/
def run (arguments : List String) : IO UInt32 := do
  let place := ConfigPath.choose arguments (← IO.getEnv "COURIER_CONFIG_PATH")
  match Config.load (← readConfigFile place.path) (← readEnvironment) with
  | .error e =>
    IO.eprintln s!"failed to load configuration: {e.message}"
    return 1
  | .ok config =>
    let hub := Hub.ofConfig config (some .accepting)
    log config.logging (.configChosen place)
    log config.logging (.starting config)
    awaitEnd (← IO.getStdin)
    let _ := hub.shutDown
    log config.logging .stopped
    return 0

end ChatFeed.Server

/-- Runs a server until its input ends. -/
def main (arguments : List String) : IO UInt32 :=
  ChatFeed.Server.run arguments
