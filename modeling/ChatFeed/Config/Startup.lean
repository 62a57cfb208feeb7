import ChatFeed.Config.Load
import ChatFeed.Json.Printer

/-!
# Starting up

A server is told where its configuration file is by its first argument or by
its environment, and reports how it starts.

## Main definitions

* `ConfigPath.choose`: where the configuration file is looked for
* `LogRecord`, `Logging.text?`: a record of the log, and the line that it makes
-/

namespace ChatFeed

/-- Where a configuration file is looked for, and who said so. -/
structure ConfigPath where
  path : String
  source : String
deriving DecidableEq, Repr

namespace ConfigPath

/-- Whether the character is white space of any script. -/
def isSpace (c : Char) : Bool :=
  let n := c.toNat
  (0x09 ≤ n && n ≤ 0x0D) || n = 0x20 || n = 0x85 || n = 0xA0 || n = 0x1680 ||
    (0x2000 ≤ n && n ≤ 0x200A) || n = 0x2028 || n = 0x2029 || n = 0x202F || n = 0x205F ||
    n = 0x3000

/-- The text, unless it is nothing but white space. -/
def unlessBlank (s : String) : Option String :=
  if s.toList.all isSpace then none else some s

/-- The first argument, or else the variable of the environment, or else the standard path. -/
def choose (arguments : List String) (setting : Option String) : ConfigPath :=
  match arguments.head?.bind unlessBlank with
  | some path => ⟨path, "cli-arg"⟩
  | none =>
    match setting.bind unlessBlank with
    | some path => ⟨path, "env-var"⟩
    | none => ⟨"config.toml", "default"⟩

/-- The record that tells where the configuration file was looked for. -/
def describe (place : ConfigPath) : List (String × Json) :=
  [("source", .ofString place.source), ("path", .ofString place.path)]

end ConfigPath

/-- Something worth telling, with its circumstances. -/
structure LogRecord where
  message : String
  fields : List (String × Json) := []

namespace LogRecord

/-- The configuration file has been chosen. -/
def configChosen (place : ConfigPath) : LogRecord :=
  ⟨"resolved startup configuration path", place.describe⟩

/-- The server starts. -/
def starting (config : Config) : LogRecord where
  message := "starting courier server"
  fields :=
    [("shard_id", .ofNat config.shard.value), ("shard_index", .ofNat config.shard.index),
      ("shard_count", .ofNat config.shard.totalCount),
      ("default_timeout_ms", .ofNat config.limits.defaultTimeout),
      ("max_timeout_ms", .ofNat config.limits.maxTimeout),
      ("max_limit", .ofNat config.limits.maxLimit)]

/-- The server has ended. -/
def stopped : LogRecord :=
  ⟨"courier server shut down", []⟩

/-- The record as a JSON value. -/
def toJson (record : LogRecord) : Json :=
  .record [("level", .ofString "INFO"),
    ("fields", .record (("message", .ofString record.message) :: record.fields))]

/-- The record as a line of text. -/
def toText (record : LogRecord) : String :=
  record.fields.foldl (fun line (name, value) => s!"{line} {name}={value.toText}")
    ("INFO " ++ record.message)

end LogRecord

/-- The line for a record, unless the log is kept for warnings and errors. -/
def Logging.text? (logging : Logging) (record : LogRecord) : Option String :=
  if ["off", "error", "warn"].contains logging.level then none
  else if logging.json then some record.toJson.toText
  else some record.toText

end ChatFeed
