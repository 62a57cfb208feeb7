import ChatFeed.Config.Basic
import ChatFeed.Hub.Error
import ChatFeed.Log.PresenceLog
import ChatFeed.Log.Signals
import ChatFeed.Log.Timeline

/-!
# The hub

The hub is one shard of a chat server: its rooms, its timeline, its typing
signals and its presence log, each numbered by its own counter, with the
multiplexer that wakes readers. What is written goes through the hub, which
tells everyone who may see it. The hub draws no numbers and has no clock of its
own: what makes an event is given a stamp, or the time.

## Main definitions

* `Hub`, `Hub.ofConfig`: a hub, and a new one
* `Hub.createRoom`, `Hub.setState`, `Hub.sendMessage`: writing to the timeline
* `Hub.setTyping`, `Hub.setAvailability`, `Hub.setProfile`: what is not kept in it
* `Hub.shutDown`: releasing everyone who waits
-/

namespace ChatFeed

/-- One shard of a chat server. -/
structure Hub where
  shard : ShardId
  limits : Limits
  rooms : RoomStore := {}
  messages : Timeline := {}
  messageCounter : Counter := {}
  signals : SignalLog := {}
  signalCounter : Counter := {}
  presence : PresenceLog := {}
  presenceCounter : Counter := {}
  /-- Who is typing in each room, ascending. -/
  typing : Table RoomId (List UserId) := ∅
  dispatcher : Dispatcher := {}

namespace Hub

/-- A hub in which nothing has happened. -/
def ofConfig (config : Config) (sink : Option Sink) : Hub where
  shard := config.shard
  limits := config.limits
  dispatcher := { sink }

/-- The signal that releases everyone who waits. -/
def shutdownSignal : SignalName := "shutdown"

/-- Replaces the multiplexer. -/
def setMux (hub : Hub) (mux : Multiplexer) : Hub :=
  { hub with dispatcher := { hub.dispatcher with mux } }

/-! ### Writing to the timeline -/

/-- Enters an event in the timeline and tells its recipients. -/
def post (hub : Hub) (event : Event) : Except HubError Nat × Hub :=
  let (result, feed) := Timeline.send hub.rooms.directory event
    ⟨hub.messages, hub.messageCounter, hub.dispatcher⟩
  (result.mapError .log,
    { hub with
      messages := feed.log
      messageCounter := feed.counter
      dispatcher := feed.dispatcher })

/-- Sets a piece of room state and enters the event that does so. A membership has taken effect
when the event goes out, so whoever joins is told of it. -/
def setState (hub : Hub) (stamp : Stamp) (sender : UserId) (room : RoomId)
    (content : StateContent) (key : String) : Except HubError Nat × Hub :=
  match hub.rooms.setState stamp room sender content key with
  | (.error e, _) => (.error (.ofRoom e), hub)
  | (.ok event, rooms) => { hub with rooms }.post event

/-- Makes a room with its creator as the first member, which takes two events. The result says
whether it is new; a room that exists is left alone. -/
def createRoom (hub : Hub) (first second : Stamp) (room : RoomId) (creator : UserId) :
    Except HubError Bool × Hub :=
  match hub.rooms.create room with
  | (true, _) => (.ok false, hub)
  | (false, rooms) =>
    match { hub with rooms }.setState first creator room (.create creator) "" with
    | (.error e, hub) => (.error e, hub)
    | (.ok _, hub) =>
      match hub.setState second creator room (.member .join none) creator.text with
      | (.error e, hub) => (.error e, hub)
      | (.ok _, hub) => (.ok true, hub)

/-- Why `user` may not write to `room`, if so. -/
def writeError? (hub : Hub) (user : UserId) (room : RoomId) : Option HubError :=
  if !hub.rooms.hasRoom room then some (.notFound room)
  else if !hub.rooms.members.isMember room user then some (.forbidden user room)
  else none

/-- The event of a message. -/
def messageEvent (stamp : Stamp) (sender : UserId) (room : RoomId) (messageType body : String) :
    Event where
  id := stamp.eventId sender
  room := some room
  sender := sender
  time := stamp.time
  content := .message messageType body

/-- Enters a message of a member of the room. -/
def sendMessage (hub : Hub) (stamp : Stamp) (sender : UserId) (room : RoomId)
    (messageType body : String) : Except HubError Nat × Hub :=
  match hub.writeError? sender room with
  | some e => (.error e, hub)
  | none => hub.post (messageEvent stamp sender room messageType body)

/-! ### Typing -/

/-- The users typing in a room, ascending. -/
def typingUsers (hub : Hub) (room : RoomId) : List UserId :=
  hub.typing.getD room []

/-- All typing signals of a room share one event identity, so that each replaces the one before. -/
def typingEventId (room : RoomId) : EventId :=
  Id.ofParts .event (Event.typingType ++ "." ++ room.localpart) room.domain

/-- The event that tells who is typing in a room. -/
def typingEvent (room : RoomId) (sender : UserId) (time : Timestamp) (users : List UserId) :
    Event where
  id := typingEventId room
  room := some room
  sender := sender
  time := time
  content := .typing users

/-- Notes that a member is typing, or no longer, and signals it to everyone in the room. -/
def setTyping (hub : Hub) (now : Instant) (user : UserId) (room : RoomId) (isTyping : Bool) :
    Except HubError Nat × Hub :=
  match hub.writeError? user room with
  | some e => (.error e, hub)
  | none =>
    let users :=
      if isTyping then Ascending.insert user (hub.typingUsers room)
      else Ascending.erase user (hub.typingUsers room)
    let noted := { hub with typing := hub.typing.insert room users }
    match hub.rooms.directory.users room with
    | .error e => (.error (.membership e), noted)
    | .ok members =>
      let event := typingEvent room user now.timestamp users
      let (index, signals, counter) :=
        hub.signals.push hub.signalCounter event.envelope (members.map (·.text))
      (.ok index,
        { noted with
          signals := signals
          signalCounter := counter
          dispatcher := hub.dispatcher.wake ⟨members, ⟨index, event⟩⟩ })

/-! ### Presence -/

/-- Updates a presence record and tells everyone who shares a room with its user. -/
def updatePresence (hub : Hub)
    (update : Feed PresenceLog → Except LogError (Indexed Event) × Feed PresenceLog) :
    Except HubError Nat × Hub :=
  let (result, feed) := update ⟨hub.presence, hub.presenceCounter, hub.dispatcher⟩
  ((result.mapError .log).map (·.index),
    { hub with
      presence := feed.log
      presenceCounter := feed.counter
      dispatcher := feed.dispatcher })

/-- Sets whether a user can be reached, and their status message. -/
def setAvailability (hub : Hub) (now : Instant) (user : UserId) (availability : Availability)
    (statusMessage : Option String) : Except HubError Nat × Hub :=
  hub.updatePresence
    (PresenceLog.setAvailability hub.rooms.directory now.timestamp user availability statusMessage)

/-- Sets how a user is shown. -/
def setProfile (hub : Hub) (now : Instant) (user : UserId) (profile : Profile) :
    Except HubError Nat × Hub :=
  hub.updatePresence (PresenceLog.setProfile hub.rooms.directory now.timestamp user profile)

/-! ### Timers and the end -/

/-- Lets `span` milliseconds pass for those who wait. -/
def elapse (hub : Hub) (span : Nat) : Hub :=
  hub.setMux (hub.dispatcher.mux.elapse span)

/-- Releases everyone who waits, now and later. -/
def shutDown (hub : Hub) : Hub :=
  hub.setMux (hub.dispatcher.mux.fire shutdownSignal)

end Hub

end ChatFeed
