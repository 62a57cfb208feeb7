import ChatFeed.Collection.Ascending
import ChatFeed.Directory.Basic

/-!
# Rosters

A roster is a directory that is given as a list, for a deployment whose rooms
are kept elsewhere. It may be out of reach as a whole, and it may know nothing
of some rooms or users.

## Main definitions

* `Roster`: who is in which room, as a list
* `Roster.directory`: its answers
-/

namespace ChatFeed

/-- Who is in which room, as a list. -/
structure Roster where
  rooms : List (RoomId × List UserId) := []
  /-- Whether asking for the users of an unlisted room is an error. -/
  strict : Bool := false
  /-- The reason why the roster is out of reach, if it is. -/
  outage : Option String := none
  /-- Users whom the roster does not know. -/
  unknownUsers : List UserId := []
deriving DecidableEq

namespace Roster

/-- The rooms whose list names `user`. -/
def roomsOf (roster : Roster) (user : UserId) : List RoomId :=
  (roster.rooms.filter fun room => room.2.contains user).map (·.1)

/-- Everyone who is listed with `user`, and `user`. -/
def peersOf (roster : Roster) (user : UserId) : List UserId :=
  Ascending.insert user
    (Ascending.ofList ((roster.rooms.filter fun room => room.2.contains user).flatMap (·.2)))

/-- The users listed for `room`, as they are listed. -/
def users (roster : Roster) (room : RoomId) : Except MembershipError (List UserId) :=
  match roster.outage with
  | some reason => .error (.unavailable reason)
  | none =>
    match roster.rooms.find? fun entry => entry.1 = room with
    | some (_, users) => .ok users
    | none => if roster.strict then .error (.roomNotFound room) else .ok []

/-- The answer to a question about `user`, whom the roster has to know. -/
def about {α : Type} (roster : Roster) (user : UserId) (answer : α) : Except MembershipError α :=
  match roster.outage with
  | some reason => .error (.unavailable reason)
  | none => if roster.unknownUsers.contains user then .error (.userNotFound user) else .ok answer

/-- The answers of a roster. -/
def directory (roster : Roster) : Directory where
  users := roster.users
  peers user := roster.about user (roster.peersOf user)
  rooms user := roster.about user (roster.roomsOf user)

end Roster

end ChatFeed
