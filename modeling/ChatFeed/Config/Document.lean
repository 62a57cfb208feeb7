import ChatFeed.Config.Basic
import ChatFeed.Toml.Document

/-!
# Configuration documents

A document gives a section for each part of a configuration. Sections and
settings that it does not have keep their standard values, and what else it has
does not matter.

## Main definitions

* `Config.ofDocument?`: the configuration that a document gives
-/

namespace ChatFeed

open Toml (Item Entries)

/-- The settings of one section. -/
abbrev Settings := String → Option Item

namespace Settings

/-- The setting as a number below `bound`. -/
def number? (settings : Settings) (name : String) (standard bound : Nat) : Option Nat :=
  match settings name with
  | none => some standard
  | some (.integer n) => if 0 ≤ n ∧ n < bound then some n.toNat else none
  | some _ => none

/-- The setting as a text. -/
def text? (settings : Settings) (name : String) (standard : String) : Option String :=
  match settings name with
  | none => some standard
  | some (.string text) => some text
  | some _ => none

/-- The setting as a truth value. -/
def truth? (settings : Settings) (name : String) (standard : Bool) : Option Bool :=
  match settings name with
  | none => some standard
  | some (.boolean value) => some value
  | some _ => none

end Settings

/-- The settings of a section with the given names; a section that is missing has none. -/
def Toml.Entries.section? (entries : Entries) (name : String) (names : List String) :
    Option Settings :=
  match entries.lookup name with
  | none => some fun _ => none
  | some item => item.fields? names

/-- The shard that a section gives. -/
def ShardId.ofSettings? (settings : Settings) (standard : ShardId) : Option ShardId := do
  let value ← settings.number? "id" standard.value UInt32.size
  return ⟨value⟩

/-- The limits that a section gives. -/
def Limits.ofSettings? (settings : Settings) (standard : Limits) : Option Limits := do
  let defaultTimeout ← settings.number? "default_timeout_ms" standard.defaultTimeout UInt64.size
  let maxTimeout ← settings.number? "max_timeout_ms" standard.maxTimeout UInt64.size
  let defaultLimit ← settings.number? "default_limit" standard.defaultLimit UInt64.size
  let maxLimit ← settings.number? "max_limit" standard.maxLimit UInt64.size
  return { defaultTimeout, maxTimeout, defaultLimit, maxLimit }

/-- What a section gives on logging. -/
def Logging.ofSettings? (settings : Settings) (standard : Logging) : Option Logging := do
  let level ← settings.text? "level" standard.level
  let json ← settings.truth? "json" standard.json
  return { level, json }

namespace Config

/-- The configuration that a document with the given entries gives. -/
def ofEntries? (entries : Entries) : Option Config := do
  let standard : Config := {}
  let shard ← entries.section? "shard" ["id"]
  let sync ← entries.section? "sync"
    ["default_timeout_ms", "max_timeout_ms", "default_limit", "max_limit"]
  let logging ← entries.section? "logging" ["level", "json"]
  return {
    shard := ← ShardId.ofSettings? shard standard.shard
    limits := ← Limits.ofSettings? sync standard.limits
    logging := ← Logging.ofSettings? logging standard.logging }

/-- The configuration that the document with text `s` gives. -/
def ofDocument? (s : String) : Option Config :=
  (Toml.document? s).bind ofEntries?

end Config

end ChatFeed
