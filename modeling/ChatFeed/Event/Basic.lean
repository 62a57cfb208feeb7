import ChatFeed.Event.Timestamp
import ChatFeed.Id

/-!
# Events

Everything that happens is an event of one of four kinds: a message in a room,
a change of a room's state, the set of users typing in a room, or the presence
of a user. Which users an event concerns follows from its content alone.

## Main definitions

* `Event`: an event, with its content
* `Event.extraRecipient`: the user outside the room whom an event concerns
* `Envelope`: what a recipient-keyed log keeps of an event
* `Indexed`: an item of a log, with the index it was given
-/

namespace ChatFeed

/-- How a user stands to a room. -/
inductive Membership where
  | invite
  | join
  | knock
  | leave
  | ban
deriving DecidableEq, Repr

namespace Membership

/-- The name of the membership. -/
def name : Membership → String
  | .invite => "invite"
  | .join => "join"
  | .knock => "knock"
  | .leave => "leave"
  | .ban => "ban"

/-- The membership with a given name. -/
def ofName? : String → Option Membership
  | "invite" => some .invite
  | "join" => some .join
  | "knock" => some .knock
  | "leave" => some .leave
  | "ban" => some .ban
  | _ => none

/-- Whether the change is also told to the user it is about, who is not in the room. -/
def notifiesTarget : Membership → Bool
  | .invite | .knock | .ban => true
  | .join | .leave => false

@[simp] theorem ofName?_name (membership : Membership) :
    ofName? membership.name = some membership := by
  cases membership <;> rfl

end Membership

/-- Whether a user can be reached. -/
inductive Availability where
  | online
  | offline
  | unavailable
deriving DecidableEq, Repr

namespace Availability

/-- The name of the availability. -/
def name : Availability → String
  | .online => "online"
  | .offline => "offline"
  | .unavailable => "unavailable"

/-- The availability with a given name. -/
def ofName? : String → Option Availability
  | "online" => some .online
  | "offline" => some .offline
  | "unavailable" => some .unavailable
  | _ => none

@[simp] theorem ofName?_name (availability : Availability) :
    ofName? availability.name = some availability := by
  cases availability <;> rfl

end Availability

/-- What a user shows of themselves: whether they can be reached, and their profile. -/
structure Presence where
  availability : Availability := .offline
  statusMessage : Option String := none
  displayName : Option String := none
  avatarUrl : Option String := none
deriving DecidableEq, Repr

/-- A piece of room state. -/
inductive StateContent where
  | create (creator : UserId)
  | member (membership : Membership) (displayName : Option String)
  | name (name : String)
  | topic (topic : String)
deriving DecidableEq

/-- The event type of a piece of state. -/
def StateContent.eventType : StateContent → String
  | .create _ => "m.room.create"
  | .member _ _ => "m.room.member"
  | .name _ => "m.room.name"
  | .topic _ => "m.room.topic"

/-- What an event says. -/
inductive Content where
  | message (messageType body : String)
  /-- The state `content` replaces `previous` under its type and the key. -/
  | state (key : String) (content : StateContent) (previous : Option StateContent)
  | typing (users : List UserId)
  | presence (presence : Presence)
deriving DecidableEq

/-- An event. -/
structure Event where
  id : EventId
  room : Option RoomId
  sender : UserId
  time : Timestamp
  content : Content
deriving DecidableEq

/-- An item of a log, with the index it was given. -/
structure Indexed (α : Type) where
  index : Nat
  item : α
deriving DecidableEq

/-- What a recipient-keyed log keeps of an event: the room or user it belongs to, its identity,
its sender and its type. -/
structure Envelope where
  context : Key
  id : EventId
  sender : UserId
  eventType : String
deriving DecidableEq

namespace Event

/-- The type of signals about typing. -/
def typingType : String := "m.typing"

/-- The type of an event. -/
def eventType (event : Event) : String :=
  match event.content with
  | .message _ _ => "m.room.message"
  | .state _ content _ => content.eventType
  | .typing _ => typingType
  | .presence _ => "m.presence"

/-- The state key of a state event. -/
def stateKey? (event : Event) : Option String :=
  match event.content with
  | .state key _ _ => some key
  | _ => none

/-- The membership that an event gives to the user in its state key. -/
def membership? (event : Event) : Option Membership :=
  match event.content with
  | .state _ (.member membership _) _ => some membership
  | _ => none

/-- The user outside the room who is to be told of a membership change, as its state key names
them; an error if the key is no user id. -/
def target (event : Event) : Option (Except IdError UserId) :=
  match event.content with
  | .state key (.member membership _) _ =>
    if membership.notifiesTarget then some (Id.parse .user key) else none
  | _ => none

/-- The user whom an event concerns although they need not be in its room. -/
def extraRecipient (event : Event) : Option UserId :=
  match event.target with
  | some (.ok user) => some user
  | _ => none

/-- What a recipient-keyed log keeps of the event. Outside any room it belongs to its sender. -/
def envelope (event : Event) : Envelope where
  context :=
    match event.room with
    | some room => room.text
    | none => event.sender.text
  id := event.id
  sender := event.sender
  eventType := event.eventType

end Event

end ChatFeed
