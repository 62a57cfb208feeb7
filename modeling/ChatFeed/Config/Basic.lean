import ChatFeed.Hub.Limits
import ChatFeed.Token.Basic

/-!
# Configurations

## Main definitions

* `Config`: what a server is told before it starts
* `Config.validate`: whether it can start so
-/

namespace ChatFeed

/-- How the server writes its log. -/
structure Logging where
  /-- Which records are written, such as `info`. -/
  level : String := "info"
  json : Bool := false
deriving DecidableEq, Repr

/-- What a server is told before it starts. -/
structure Config where
  shard : ShardId := ⟨1⟩
  limits : Limits := {}
  logging : Logging := {}
deriving DecidableEq, Repr

/-- Why there is no configuration. -/
inductive ConfigError where
  /-- The file exists and is not readable as text. -/
  | unreadable
  /-- The file does not hold a configuration. -/
  | malformed
  | shardOutOfRange (shard : Nat)
  | noPageSize
deriving DecidableEq, Repr

namespace Config

/-- The highest shard id that fits its field of a stream token. -/
def maxShard : Nat := 64 * 64 - 1

/-- Refuses a configuration whose shard id does not fit a stream token, or whose pages are always
empty. -/
def validate (config : Config) : Except ConfigError Config :=
  if config.shard.value = 0 ∨ maxShard < config.shard.value then
    .error (.shardOutOfRange config.shard.value)
  else if config.limits.maxLimit = 0 then .error .noPageSize
  else .ok config

end Config

/-- The wording of the error. -/
def ConfigError.message : ConfigError → String
  | .unreadable => "failed to read config file"
  | .malformed => "failed to parse config file"
  | .shardOutOfRange shard =>
    s!"invalid configuration: shard.id must be between 1 and {Config.maxShard}, got {shard}"
  | .noPageSize => "invalid configuration: sync.max_limit must be positive"

end ChatFeed
