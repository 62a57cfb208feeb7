import ChatFeed.Token.Base64
import ChatFeed.Token.Basic

/-!
# Writing stream tokens

Every number is written as its minimal numeral. A token has a text if its
numbers fit their fields and no shard id after the first of a group needs the
digit `_`; the user group is left out, with its separator, when it is empty.

## Main definitions

* `StreamToken.encode`: the text of a token
-/

namespace ChatFeed.StreamToken

/-- The numeral of a shard id. Only the leading shard id of a group may contain `_`. -/
def encodeShard (leading : Bool) (shard : ShardId) : Except TokenError (List Char) :=
  let field := Base64.numeral shard.value
  if maxShardLength < field.length ∨ (!leading && field.contains tupleSeparator) then
    .error (.unencodableShard shard.value)
  else .ok field

/-- The numeral of an index. -/
def encodeIndex (index : Nat) : Except TokenError (List Char) :=
  let field := Base64.numeral index
  if maxIndexLength < field.length then .error (.indexOverflow index) else .ok field

/-- The text of a tuple. The leftmost number that does not fit decides the error. -/
def encodeTuple (leading : Bool) (tuple : ShardTuple) : Except TokenError (List Char) :=
  match encodeShard leading tuple.shard with
  | .error e => .error e
  | .ok shard =>
    match encodeIndex tuple.event with
    | .error e => .error e
    | .ok event =>
      match encodeIndex tuple.signal with
      | .error e => .error e
      | .ok signal => .ok (shard ++ fieldSeparator :: event ++ fieldSeparator :: signal)

/-- The texts of tuples that follow another, each with the separator before it. -/
def encodeFollowing : List ShardTuple → Except TokenError (List Char)
  | [] => .ok []
  | tuple :: rest =>
    match encodeTuple false tuple with
    | .error e => .error e
    | .ok text => (encodeFollowing rest).map (tupleSeparator :: text ++ ·)

/-- The text of a group. -/
def encodeGroup : List ShardTuple → Except TokenError (List Char)
  | [] => .ok []
  | tuple :: rest =>
    match encodeTuple true tuple with
    | .error e => .error e
    | .ok text => (encodeFollowing rest).map (text ++ ·)

/-- The text of a token. -/
def encode (token : StreamToken) : Except TokenError String :=
  match encodeGroup token.rooms with
  | .error e => .error e
  | .ok rooms =>
    if token.users.isEmpty then .ok (String.ofList rooms)
    else (encodeGroup token.users).map fun users =>
      String.ofList (rooms ++ groupSeparator :: users)

end ChatFeed.StreamToken
