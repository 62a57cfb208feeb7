import ChatFeed.Directory.Basic
import ChatFeed.Event.Stamp
import ChatFeed.Room.Members

/-!
# Rooms

A room has state: for each event type and state key, the last state event set
for them. A membership event also lets the membership take effect, so the room
store knows who is joined to which room.

## Main definitions

* `RoomStore`: the state of every room, and the memberships
* `RoomStore.create`, `RoomStore.setState`: making a room and changing its state
* `RoomStore.state?`, `RoomStore.allState`: reading its state
* `RoomStore.directory`: who is in which room
-/

namespace ChatFeed

/-- Where a state event stands in the state of its room. -/
structure StateKey where
  eventType : String
  key : String
deriving DecidableEq, Repr

namespace StateKey

/-- State keys are ordered by event type, and by key where the types agree. -/
instance : LT StateKey :=
  ⟨fun a b => a.eventType < b.eventType ∨ a.eventType = b.eventType ∧ a.key < b.key⟩

instance : DecidableLT StateKey := fun a b =>
  inferInstanceAs
    (Decidable (a.eventType < b.eventType ∨ a.eventType = b.eventType ∧ a.key < b.key))

end StateKey

/-- Why a room cannot be read or changed. -/
inductive RoomError where
  | notFound (room : RoomId)
  /-- A membership is to be given to what is no user id. -/
  | invalidStateKey (key : String)
  /-- The store is locked by a writer that did not finish. -/
  | lockPoisoned
deriving DecidableEq

namespace RoomError

/-- The wording of the error. -/
def message : RoomError → String
  | .notFound room => s!"room not found: {room}"
  | .invalidStateKey key => s!"membership state key is not a user id: {key}"
  | .lockPoisoned => "room store lock poisoned"

/-- The error as one of the directory. -/
def toMembershipError : RoomError → MembershipError
  | .notFound room => .roomNotFound room
  | e => .unavailable e.message

end RoomError

/-- The state of one room. -/
abbrev RoomState := Table StateKey Event

/-- The state of every room, and who is joined to it. -/
structure RoomStore where
  rooms : Table RoomId RoomState := ∅
  members : MemberIndex := {}
deriving DecidableEq

namespace RoomStore

/-! ### Reading -/

/-- Whether a room has been made. -/
def hasRoom (store : RoomStore) (room : RoomId) : Bool :=
  store.rooms.contains room

/-- The state event for an event type and a state key. -/
def state? (store : RoomStore) (room : RoomId) (eventType key : String) :
    Except RoomError (Option Event) :=
  match store.rooms.get? room with
  | none => .error (.notFound room)
  | some state => .ok (state.get? ⟨eventType, key⟩)

/-- All state events of a room, by event type and then by state key. -/
def allState (store : RoomStore) (room : RoomId) : Except RoomError (List Event) :=
  match store.rooms.get? room with
  | none => .error (.notFound room)
  | some state => .ok state.values

/-! ### Writing -/

/-- Makes a room without state. The first result says whether it existed, in which case nothing is
changed. -/
def create (store : RoomStore) (room : RoomId) : Bool × RoomStore :=
  if store.hasRoom room then (true, store)
  else (false, { store with rooms := store.rooms.insert room ∅ })

/-- The membership that a piece of state gives, with the user to whom; an error if the key is no
user id. -/
def target (content : StateContent) (key : String) :
    Except RoomError (Option (Membership × UserId)) :=
  match content with
  | .member membership _ =>
    match Id.parse .user key with
    | .ok user => .ok (some (membership, user))
    | .error _ => .error (.invalidStateKey key)
  | _ => .ok none

/-- The content of a state event. -/
def contentOf? (event : Event) : Option StateContent :=
  match event.content with
  | .state _ content _ => some content
  | _ => none

/-- The event that sets a piece of state, where `state` is what the room has so far. -/
def stateEvent (stamp : Stamp) (room : RoomId) (sender : UserId) (content : StateContent)
    (key : String) (state : RoomState) : Event where
  id := stamp.eventId sender
  room := some room
  sender := sender
  time := stamp.time
  content := .state key content ((state.get? ⟨content.eventType, key⟩).bind contentOf?)

/-- Sets a piece of state. The event that does so carries the content it replaces. -/
def setState (store : RoomStore) (stamp : Stamp) (room : RoomId) (sender : UserId)
    (content : StateContent) (key : String) : Except RoomError Event × RoomStore :=
  match target content key with
  | .error e => (.error e, store)
  | .ok target =>
    match store.rooms.get? room with
    | none => (.error (.notFound room), store)
    | some state =>
      let event := stateEvent stamp room sender content key state
      (.ok event,
        { rooms := store.rooms.insert room (state.insert ⟨content.eventType, key⟩ event)
          members :=
            match target with
            | some (membership, user) => store.members.apply room user membership
            | none => store.members })

/-! ### The directory -/

/-- Who is in which room, by the memberships that took effect. -/
def directory (store : RoomStore) : Directory where
  users room :=
    if store.hasRoom room then .ok (store.members.members room) else .error (.roomNotFound room)
  peers user := .ok (store.members.peers user)
  rooms user := .ok (store.members.rooms user)

end RoomStore

end ChatFeed
