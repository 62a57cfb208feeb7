import ChatFeed.Collection.Ascending
import ChatFeed.Collection.Table
import ChatFeed.Event.Basic

/-!
# Membership

Who is joined to which room is kept from both sides: the members of each room,
and the rooms of each user. No empty list is kept on either side.

## Main definitions

* `MemberIndex.join`, `MemberIndex.leave`, `MemberIndex.apply`: changes of membership
* `MemberIndex.isMember`, `MemberIndex.members`, `MemberIndex.rooms`: who is joined where
* `MemberIndex.peers`: everyone who shares a room with a user
-/

namespace ChatFeed

/-- Who is joined to which room. All lists are ascending. -/
structure MemberIndex where
  roomMembers : Table RoomId (List UserId) := ∅
  userRooms : Table UserId (List RoomId) := ∅
deriving DecidableEq

namespace MemberIndex

/-! ### Reading -/

/-- The members of a room, ascending. -/
def members (index : MemberIndex) (room : RoomId) : List UserId :=
  index.roomMembers.getD room []

/-- The rooms of a user, ascending. -/
def rooms (index : MemberIndex) (user : UserId) : List RoomId :=
  index.userRooms.getD user []

/-- Whether a user is joined to a room. -/
def isMember (index : MemberIndex) (room : RoomId) (user : UserId) : Bool :=
  (index.members room).contains user

/-- A user and everyone who shares a room with them, ascending. -/
def peers (index : MemberIndex) (user : UserId) : List UserId :=
  Ascending.insert user (Ascending.ofList ((index.rooms user).flatMap index.members))

/-! ### Writing -/

/-- Adds `b` to what `a` is related to. -/
def link {α β : Type} [DecidableEq α] [LT α] [DecidableLT α] [DecidableEq β] [LT β]
    [DecidableLT β] (a : α) (b : β) (table : Table α (List β)) : Table α (List β) :=
  table.insert a (Ascending.insert b (table.getD a []))

/-- Removes `b` from what `a` is related to, and `a` if nothing is left. -/
def unlink {α β : Type} [DecidableEq α] [LT α] [DecidableLT α] [DecidableEq β]
    (a : α) (b : β) (table : Table α (List β)) : Table α (List β) :=
  match Ascending.erase b (table.getD a []) with
  | [] => table.erase a
  | left => table.insert a left

/-- Joins a user to a room. -/
def join (index : MemberIndex) (room : RoomId) (user : UserId) : MemberIndex where
  roomMembers := link room user index.roomMembers
  userRooms := link user room index.userRooms

/-- Removes a user from a room. -/
def leave (index : MemberIndex) (room : RoomId) (user : UserId) : MemberIndex where
  roomMembers := unlink room user index.roomMembers
  userRooms := unlink user room index.userRooms

/-- Lets a membership take effect. An invitation or a knock has none. -/
def apply (index : MemberIndex) (room : RoomId) (user : UserId) : Membership → MemberIndex
  | .join => index.join room user
  | .leave | .ban => index.leave room user
  | .invite | .knock => index

end MemberIndex

end ChatFeed
