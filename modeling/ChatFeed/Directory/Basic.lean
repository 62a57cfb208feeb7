import ChatFeed.Id

/-!
# Directories

A directory says who is in which room. Logs ask it for the recipients of what
they are given; it may fail to answer.

## Main definitions

* `Directory`: the questions a log may ask
* `MembershipError`: why one of them has no answer
-/

namespace ChatFeed

/-- Why a directory has no answer. -/
inductive MembershipError where
  | roomNotFound (room : RoomId)
  | userNotFound (user : UserId)
  | unavailable (reason : String)
deriving DecidableEq

/-- The wording of the error. -/
def MembershipError.message : MembershipError → String
  | .roomNotFound room => s!"room not found: {room}"
  | .userNotFound user => s!"user not found: {user}"
  | .unavailable reason => s!"membership store unavailable: {reason}"

/-- Answers about who is in which room. -/
structure Directory where
  /-- The users in a room. -/
  users : RoomId → Except MembershipError (List UserId)
  /-- A user and everyone who shares a room with them, ascending. -/
  peers : UserId → Except MembershipError (List UserId)
  /-- The rooms a user is in. -/
  rooms : UserId → Except MembershipError (List RoomId)

end ChatFeed
