import ChatFeed.Token.Base64
import ChatFeed.Token.Basic

/-!
# Reading stream tokens

A token is a room group, optionally followed by `*` and a user group. A group
is empty or consists of tuples `shard.event.signal` joined by `_`.

The character `_` is also a digit. A group is therefore cut at its dots first:
what stands between two dots in the middle of a group is an event field, or
the signal field of one tuple followed by `_` and the shard field of the next,
cut at its last `_`. So an index may hold `_` anywhere, and the shard field of
a group's first tuple too, but no later shard field.

## Main definitions

* `StreamToken.parse`: the token with a given text
-/

namespace ChatFeed.StreamToken

/-- The text before the first `sep`, and each piece of text after a `sep`. -/
def pieces (sep : Char) : List Char → List Char × List (List Char)
  | [] => ([], [])
  | c :: rest =>
    let (first, others) := pieces sep rest
    if c = sep then ([], first :: others) else (c :: first, others)

/-- The text before and after the last `sep`. -/
def splitLast? (sep : Char) : List Char → Option (List Char × List Char)
  | [] => none
  | c :: rest =>
    match splitLast? sep rest with
    | some (before, after) => some (c :: before, after)
    | none => if c = sep then some ([], rest) else none

/-- Consecutive members taken two by two; nothing if one is left over. -/
def pairs? : List (List Char) → Option (List (List Char × List Char))
  | [] => some []
  | [_] => none
  | a :: b :: rest => (pairs? rest).map ((a, b) :: ·)

/-- The number of bytes that encode the text. -/
def byteLength (cs : List Char) : Nat :=
  (String.ofList cs).utf8ByteSize

/-- The digits of a field, or its first character that is none. -/
def parseDigits (position : Nat) : List Char → Except TokenError (List Nat)
  | [] => .ok []
  | c :: rest =>
    match Base64.digitOf? c with
    | none => .error (.invalidCharacter c position)
    | some digit => (parseDigits (position + 1) rest).map (digit :: ·)

/-- The number in a field. -/
def parseValue (field : List Char) : Except TokenError Nat :=
  (parseDigits 0 field).map Base64.valueOf

/-- The shard id in a field. -/
def parseShardId (field : List Char) : Except TokenError ShardId :=
  let length := byteLength field
  if length = 0 ∨ maxShardLength < length then .error (.shardIdLength length)
  else (parseValue field).map ShardId.mk

/-- The index in a field. -/
def parseIndex (field : List Char) : Except TokenError Nat :=
  let length := byteLength field
  if length = 0 ∨ maxIndexLength < length then .error (.indexLength length)
  else parseValue field

/-- The tuple with the given fields. The leftmost field that cannot be read decides the error. -/
def parseTuple (shard event signal : List Char) : Except TokenError ShardTuple :=
  match parseShardId shard with
  | .error e => .error e
  | .ok shard =>
    match parseIndex event with
    | .error e => .error e
    | .ok event =>
      match parseIndex signal with
      | .error e => .error e
      | .ok signal => .ok ⟨shard, event, signal⟩

/-- The tuples of a group, given the shard field of the first and then, for each tuple, its event
field and its signal field together with the shard field of the next. -/
def parseTuples (group : List Char) (shard : List Char) :
    List (List Char × List Char) → Except TokenError (List ShardTuple)
  | [] => .ok []
  | [(event, signal)] => (parseTuple shard event signal).map ([·])
  | (event, tail) :: rest =>
    match splitLast? tupleSeparator tail with
    | none => .error (.invalidTuple (String.ofList group))
    | some (signal, next) =>
      match parseTuple shard event signal with
      | .error e => .error e
      | .ok tuple => (parseTuples group next rest).map (tuple :: ·)

/-- The tuples of a group. -/
def parseGroup (group : List Char) : Except TokenError (List ShardTuple) :=
  if group.isEmpty then .ok []
  else
    let (shard, fields) := pieces fieldSeparator group
    match pairs? fields with
    | none | some [] => .error (.invalidTuple (String.ofList group))
    | some tuples => parseTuples group shard tuples

/-- The token with text `s`; the empty text is the empty token. Both groups are read before a
third one is refused. -/
def parse (s : String) : Except TokenError StreamToken :=
  let (rooms, others) := pieces groupSeparator s.toList
  match parseGroup rooms with
  | .error e => .error e
  | .ok rooms =>
    match others with
    | [] => .ok ⟨rooms, []⟩
    | users :: more =>
      match parseGroup users with
      | .error e => .error e
      | .ok users => if more.isEmpty then .ok ⟨rooms, users⟩ else .error .tooManyGroups

end ChatFeed.StreamToken
