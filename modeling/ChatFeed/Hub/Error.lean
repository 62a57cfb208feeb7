import ChatFeed.Log.Feed
import ChatFeed.Room.Store
import ChatFeed.Token.Basic

/-!
# Errors of the hub

## Main definitions

* `HubError`: why the hub does not do what it was asked to
* `HubError.ofRoom`: how an error of the room store appears
-/

namespace ChatFeed

/-- Why the hub does not do what it was asked to. -/
inductive HubError where
  /-- The reader's token cannot be read. -/
  | badToken (cause : TokenError)
  | notFound (room : RoomId)
  /-- A direction is named by `f` or `b`. -/
  | badDirection (text : String)
  | forwardBounds (start stop : Nat)
  | backwardBounds (start stop : Nat)
  | forbidden (user : UserId) (room : RoomId)
  /-- The token for the next read has no text. -/
  | noToken (cause : TokenError)
  | membership (cause : MembershipError)
  | log (cause : LogError)
  | room (cause : RoomError)
deriving DecidableEq

namespace HubError

/-- The wording of the error. -/
def message : HubError → String
  | .badToken cause => s!"malformed stream token: {cause.message}"
  | .notFound id => s!"room not found: {id}"
  | .badDirection text => s!"invalid argument: direction must be 'f' or 'b', got '{text}'"
  | .forwardBounds start stop =>
    s!"invalid argument: forward pagination needs to >= from, got from={start} to={stop}"
  | .backwardBounds start stop =>
    s!"invalid argument: backward pagination needs to <= from, got from={start} to={stop}"
  | .forbidden user id => s!"{user} is not a member of {id}"
  | .noToken cause => s!"cannot encode stream token: {cause.message}"
  | .membership cause => cause.message
  | .log cause => cause.message
  | .room cause => cause.message

/-- An error of the room store as one of the hub. -/
def ofRoom : RoomError → HubError
  | .notFound id => .notFound id
  | e => .room e

end HubError

end ChatFeed
