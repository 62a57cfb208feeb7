import ChatFeed.Config.Document

/-!
# Loading a configuration

A configuration is read from a file, if there is one. Variables of the
environment take precedence over the file. A variable that should hold a number
and does not is ignored.

## Main definitions

* `Config.override`: takes over the variables of an environment
* `Config.load`: the configuration to start with
-/

namespace ChatFeed

/-- What stands where a configuration file is looked for. -/
inductive ConfigFile where
  | absent
  /-- Something that cannot be read, such as a directory. -/
  | unreadable
  | contents (bytes : ByteArray)

/-- The values of environment variables. -/
abbrev Environment := String → Option String

/-- The number below `bound` that a variable holds, or else `current`. -/
def Environment.numberD (env : Environment) (name : String) (current bound : Nat) : Nat :=
  match (env name).bind Numeral.unsigned? with
  | some n => if n < bound then n else current
  | none => current

namespace Config

/-- The configuration that a file gives. -/
def ofFile : ConfigFile → Except ConfigError Config
  | .absent => .ok {}
  | .unreadable => .error .unreadable
  | .contents bytes =>
    match String.fromUTF8? bytes with
    | none => .error .unreadable
    | some s =>
      match ofDocument? s with
      | none => .error .malformed
      | some config => .ok config

/-- The variables that take precedence over a file. -/
def variableNames : List String :=
  ["COURIER_SHARD_ID", "COURIER_SYNC_DEFAULT_TIMEOUT_MS", "COURIER_SYNC_MAX_TIMEOUT_MS",
    "COURIER_SYNC_DEFAULT_LIMIT", "COURIER_SYNC_MAX_LIMIT", "COURIER_LOG_LEVEL",
    "COURIER_LOG_JSON"]

/-- The configuration with the variables of the environment in the place of its own values. -/
def override (env : Environment) (config : Config) : Config :=
  let limits := config.limits
  { shard := ⟨env.numberD "COURIER_SHARD_ID" config.shard.value UInt32.size⟩
    limits :=
      { defaultTimeout :=
          env.numberD "COURIER_SYNC_DEFAULT_TIMEOUT_MS" limits.defaultTimeout UInt64.size
        maxTimeout := env.numberD "COURIER_SYNC_MAX_TIMEOUT_MS" limits.maxTimeout UInt64.size
        defaultLimit := env.numberD "COURIER_SYNC_DEFAULT_LIMIT" limits.defaultLimit UInt64.size
        maxLimit := env.numberD "COURIER_SYNC_MAX_LIMIT" limits.maxLimit UInt64.size }
    logging :=
      { level := (env "COURIER_LOG_LEVEL").getD config.logging.level
        json :=
          match env "COURIER_LOG_JSON" with
          | none => config.logging.json
          | some value => value = "true" || value = "1" } }

/-- The configuration to start with. -/
def load (file : ConfigFile) (env : Environment) : Except ConfigError Config :=
  match ofFile file with
  | .error e => .error e
  | .ok config => (config.override env).validate

end Config

end ChatFeed
