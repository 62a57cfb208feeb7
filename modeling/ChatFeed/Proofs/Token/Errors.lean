import ChatFeed.Proofs.Outcome
import ChatFeed.Token.Parser
import ChatFeed.Token.Printer

/-!
# Errors of reading and of writing tokens

Reading a token fails only with errors of its text, and writing one only with errors
of its numbers, whichever step it is that fails.

## Main results

* `isParseError_of_parse`: every error of reading is one of the text
* `not_isParseError_of_encode`: no error of writing is
-/

namespace ChatFeed.StreamToken

variable {e : TokenError}

/-! ### Reading -/

theorem isParseError_of_parseValue {field : List Char} (failed : parseValue field = .error e) :
    e.isParseError = true := by
  have digits (position : Nat) (cs : List Char) (failed : parseDigits position cs = .error e) :
      e.isParseError = true := by
    induction cs generalizing position with
    | nil => simp [parseDigits] at failed
    | cons c rest ih =>
      rw [parseDigits] at failed
      split at failed
      next => exact Except.error.inj failed ▸ rfl
      next => exact ih _ (map_eq_error_iff.mp failed)
  exact digits 0 field (map_eq_error_iff.mp failed)

theorem isParseError_of_parseShardId {field : List Char} (failed : parseShardId field = .error e) :
    e.isParseError = true := by
  rw [parseShardId] at failed
  split at failed
  next => exact Except.error.inj failed ▸ rfl
  next => exact isParseError_of_parseValue (map_eq_error_iff.mp failed)

theorem isParseError_of_parseIndex {field : List Char} (failed : parseIndex field = .error e) :
    e.isParseError = true := by
  rw [parseIndex] at failed
  split at failed
  next => exact Except.error.inj failed ▸ rfl
  next => exact isParseError_of_parseValue failed

theorem isParseError_of_parseTuple {shard event signal : List Char}
    (failed : parseTuple shard event signal = .error e) : e.isParseError = true := by
  unfold parseTuple at failed
  split at failed
  next shard_failed => exact Except.error.inj failed ▸ isParseError_of_parseShardId shard_failed
  split at failed
  next event_failed => exact Except.error.inj failed ▸ isParseError_of_parseIndex event_failed
  split at failed
  next signal_failed => exact Except.error.inj failed ▸ isParseError_of_parseIndex signal_failed
  next => simp at failed

theorem isParseError_of_parseTuples {group shard : List Char}
    {pairs : List (List Char × List Char)} (failed : parseTuples group shard pairs = .error e) :
    e.isParseError = true := by
  -- Apart from a chunk that cannot be cut, it is a tuple that fails, this one or a later one.
  fun_induction parseTuples group shard pairs with
  | case1 => simp at failed
  | case2 => exact isParseError_of_parseTuple (map_eq_error_iff.mp failed)
  | case3 => exact Except.error.inj failed ▸ rfl
  | case4 _ _ _ _ _ _ _ _ _ tuple_failed =>
    exact Except.error.inj failed ▸ isParseError_of_parseTuple tuple_failed
  | case5 _ _ _ _ _ _ _ _ _ _ ih => exact ih (map_eq_error_iff.mp failed)

theorem isParseError_of_parseGroup {group : List Char} (failed : parseGroup group = .error e) :
    e.isParseError = true := by
  unfold parseGroup at failed
  split at failed
  next => simp at failed
  simp only at failed
  split at failed
  next => exact Except.error.inj failed ▸ rfl
  next => exact Except.error.inj failed ▸ rfl
  next => exact isParseError_of_parseTuples failed

/-- Reading fails only with errors of the text. -/
theorem isParseError_of_parse {s : String} (failed : parse s = .error e) :
    e.isParseError = true := by
  unfold parse at failed
  simp only at failed
  split at failed
  next rooms_failed => exact Except.error.inj failed ▸ isParseError_of_parseGroup rooms_failed
  split at failed
  next => simp at failed
  split at failed
  next users_failed => exact Except.error.inj failed ▸ isParseError_of_parseGroup users_failed
  split at failed
  next => simp at failed
  next => exact Except.error.inj failed ▸ rfl

/-! ### Writing -/

theorem not_isParseError_of_encodeTuple {leading : Bool} {tuple : ShardTuple}
    (failed : encodeTuple leading tuple = .error e) : e.isParseError = false := by
  have of_index {index : Nat} {e : TokenError} (failed : encodeIndex index = .error e) :
      e.isParseError = false := by
    rw [encodeIndex] at failed
    split at failed
    next => exact Except.error.inj failed ▸ rfl
    next => simp at failed
  unfold encodeTuple at failed
  split at failed
  next shard_failed =>
    rw [encodeShard] at shard_failed
    split at shard_failed
    next => exact Except.error.inj failed ▸ Except.error.inj shard_failed ▸ rfl
    next => simp at shard_failed
  split at failed
  next event_failed => exact Except.error.inj failed ▸ of_index event_failed
  split at failed
  next signal_failed => exact Except.error.inj failed ▸ of_index signal_failed
  next => simp at failed

theorem not_isParseError_of_encodeGroup {tuples : List ShardTuple}
    (failed : encodeGroup tuples = .error e) : e.isParseError = false := by
  have following (tuples : List ShardTuple) (failed : encodeFollowing tuples = .error e) :
      e.isParseError = false := by
    induction tuples with
    | nil => simp [encodeFollowing] at failed
    | cons tuple rest ih =>
      rw [encodeFollowing] at failed
      split at failed
      next tuple_failed =>
        exact Except.error.inj failed ▸ not_isParseError_of_encodeTuple tuple_failed
      next => exact ih (map_eq_error_iff.mp failed)
  unfold encodeGroup at failed
  split at failed
  next => simp at failed
  split at failed
  next tuple_failed => exact Except.error.inj failed ▸ not_isParseError_of_encodeTuple tuple_failed
  next => exact following _ (map_eq_error_iff.mp failed)

/-- Writing never fails with an error of a text. -/
theorem not_isParseError_of_encode {token : StreamToken} (failed : token.encode = .error e) :
    e.isParseError = false := by
  unfold encode at failed
  split at failed
  next rooms_failed => exact Except.error.inj failed ▸ not_isParseError_of_encodeGroup rooms_failed
  split at failed
  next => simp at failed
  next => exact not_isParseError_of_encodeGroup (map_eq_error_iff.mp failed)

end ChatFeed.StreamToken
