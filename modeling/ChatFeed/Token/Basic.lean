/-!
# Stream tokens

A stream token is the position from which a reader resumes. For each shard it
holds positions in that shard's logs: room cursors, which are a timeline and a
signal position, and user cursors, which are a presence position.

## Main definitions

* `ShardId`: a shard count and a shard's place in it, packed into one number
* `ShardTuple`, `StreamToken`: the positions of one shard and of all shards
* `TokenError`: why a text is no token, or a token has no text
-/

namespace ChatFeed

/-- Names one independently numbered shard. The highest set bit is the number of shards, which is
a power of two, and the bits below it are the place of this one: 6 is shard 2 of 4. -/
structure ShardId where
  value : Nat
deriving DecidableEq, Repr

/-- How many shards there are, by this id. -/
def ShardId.totalCount (shard : ShardId) : Nat :=
  if shard.value = 0 then 0 else 1 <<< shard.value.log2

/-- The place of the shard among them. -/
def ShardId.index (shard : ShardId) : Nat :=
  shard.value - shard.totalCount

/-- Positions in the logs of one shard. -/
structure ShardTuple where
  shard : ShardId
  event : Nat
  signal : Nat
deriving DecidableEq, Repr

/-- The room cursors and the user cursors of a reader. -/
structure StreamToken where
  rooms : List ShardTuple := []
  users : List ShardTuple := []
deriving DecidableEq, Repr

namespace StreamToken

/-- Whether the token holds no cursor at all. -/
def isEmpty (token : StreamToken) : Bool :=
  token.rooms.isEmpty && token.users.isEmpty

/-- The room cursors for `shard`: the first, if several are given. -/
def roomTuple? (token : StreamToken) (shard : ShardId) : Option ShardTuple :=
  token.rooms.find? fun tuple => tuple.shard = shard

/-- The user cursors for `shard`: the first, if several are given. -/
def userTuple? (token : StreamToken) (shard : ShardId) : Option ShardTuple :=
  token.users.find? fun tuple => tuple.shard = shard

/-- Ends a field of a tuple. -/
def fieldSeparator : Char := '.'

/-- Stands between two tuples of a group. -/
def tupleSeparator : Char := '_'

/-- Stands between the room group and the user group. -/
def groupSeparator : Char := '*'

/-- The most characters a shard field may have. -/
def maxShardLength : Nat := 2

/-- The most characters an index field may have. -/
def maxIndexLength : Nat := 8

end StreamToken

/-- Why a text is no token, or a token has no text. -/
inductive TokenError where
  /-- The character at `position` of its field, counted in characters, is no digit. -/
  | invalidCharacter (character : Char) (position : Nat)
  /-- A shard field has `length` bytes. -/
  | shardIdLength (length : Nat)
  /-- An index field has `length` bytes. -/
  | indexLength (length : Nat)
  /-- The group cannot be cut into tuples. -/
  | invalidTuple (group : String)
  | tooManyGroups
  /-- The shard id is too long, or follows another tuple and contains the separator. -/
  | unencodableShard (shard : Nat)
  | indexOverflow (index : Nat)
deriving DecidableEq, Repr

namespace TokenError

/-- Whether the error is one of the text that was read. -/
def isParseError : TokenError → Bool
  | .unencodableShard _ => false
  | .indexOverflow _ => false
  | _ => true

/-- The wording of the error. -/
def message : TokenError → String
  | .invalidCharacter character position =>
    s!"failed to parse stream token: invalid character '{character}' at index {position}"
  | .shardIdLength length => s!"failed to parse stream token: invalid shard id length: {length}"
  | .indexLength length => s!"failed to parse stream token: invalid index length: {length}"
  | .invalidTuple group => s!"failed to parse stream token: invalid tuple '{group}'"
  | .tooManyGroups => "failed to parse stream token: more than one group separator"
  | .unencodableShard shard => s!"cannot encode shard id {shard} at a non-leading tuple position"
  | .indexOverflow index =>
    s!"cannot encode index {index}: it needs more than {StreamToken.maxIndexLength} digits"

end TokenError

end ChatFeed
