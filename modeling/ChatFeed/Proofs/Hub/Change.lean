import ChatFeed.Hub.Basic
import ChatFeed.Proofs.Room.Store
import Mathlib.Logic.Relation

/-!
# What writing does to a hub

A write that is refused leaves the hub alone. Any other succeeds, and what it leaves behind
is said here once for each kind of write, down to the delivery that goes out. Together with
making a room and replacing the multiplexer these are all the changes there are, so what
each of them preserves is true of every hub that has come about.

## Main definitions

* `Hub.enter`: an event is entered in the timeline and goes out
* `Hub.afterState`, `Hub.afterMessage`, `Hub.afterTyping`, `Hub.afterUpdate`: the hub after a
  successful write
* `Hub.Change`: the changes there are

## Main results

* `Hub.setState_cases`, `Hub.sendMessage_cases`, `Hub.setTyping_cases`, `Hub.updatePresence_eq`:
  what a write gives and leaves behind
* `Hub.createRoom_of_hasRoom`, `Hub.createRoom_of_new`: what making a room gives
* `Hub.createRoom_eq`, `Hub.changes_createRoom`: making a room is a chain of changes
* `Hub.Changes.preserve`: what every change preserves, a chain of changes preserves
-/

namespace ChatFeed.Hub

/-! ### Writing to the timeline -/

/-- The delivery of an event that is entered in the timeline next, as one of `room`. -/
def eventDelivery (hub : Hub) (room : RoomId) (event : Event) : Delivery :=
  ⟨Timeline.recipients (hub.rooms.members.members room) event.extraRecipient,
    ⟨hub.messageCounter.current, event⟩⟩

/-- The hub after `event` has been entered in its timeline, as one of `room`, and has gone out. -/
def enter (hub : Hub) (room : RoomId) (event : Event) : Hub :=
  { hub with
    messages := hub.messages.record hub.messageCounter.current ⟨event, room, event.extraRecipient⟩
    messageCounter := hub.messageCounter.advance
    dispatcher := (Timeline.noteTarget event hub.dispatcher).dispatch .eventRefused
      (hub.eventDelivery room event) }

theorem post_eq (hub : Hub) {room : RoomId} {event : Event}
    (found : hub.rooms.hasRoom room = true) (in_room : event.room = some room) :
    hub.post event = (.ok hub.messageCounter.current, hub.enter room event) := by
  have users : hub.rooms.directory.users room = .ok (hub.rooms.members.members room) := if_pos found
  rw [post, Timeline.send, in_room]
  simp only [users]
  rfl

/-- The hub after a piece of state has been set and has taken effect, and before the event that
sets it goes out. -/
def settled (hub : Hub) (stamp : Stamp) (sender : UserId) (room : RoomId) (content : StateContent)
    (key : String) (state : RoomState) (target : Option (Membership × UserId)) : Hub :=
  { hub with
    rooms := hub.rooms.settle room state ⟨content.eventType, key⟩
      (RoomStore.stateEvent stamp room sender content key state) target }

/-- The hub after a piece of state has been set. -/
def afterState (hub : Hub) (stamp : Stamp) (sender : UserId) (room : RoomId)
    (content : StateContent) (key : String) (state : RoomState)
    (target : Option (Membership × UserId)) : Hub :=
  (hub.settled stamp sender room content key state target).enter room
    (RoomStore.stateEvent stamp room sender content key state)

/-- A piece of state is set at the next index of the timeline. -/
theorem setState_eq {hub : Hub} {room : RoomId} {content : StateContent} {key : String}
    {state : RoomState} {target : Option (Membership × UserId)}
    (found : hub.rooms.rooms.get? room = some state)
    (named : RoomStore.target content key = .ok target) (stamp : Stamp) (sender : UserId) :
    hub.setState stamp sender room content key =
      (.ok hub.messageCounter.current,
        hub.afterState stamp sender room content key state target) := by
  rw [setState, RoomStore.setState_eq found named]
  exact (hub.settled stamp sender room content key state target).post_eq
    (RoomStore.hasRoom_settle_self _ _ _ _) rfl

/-- A piece of state is refused, or set. -/
theorem setState_cases (hub : Hub) (stamp : Stamp) (sender : UserId) (room : RoomId)
    (content : StateContent) (key : String) :
    (∃ e, hub.setState stamp sender room content key = (.error e, hub)) ∨
      ∃ state target, hub.rooms.rooms.get? room = some state ∧
        RoomStore.target content key = .ok target ∧
        hub.setState stamp sender room content key =
          (.ok hub.messageCounter.current,
            hub.afterState stamp sender room content key state target) := by
  obtain ⟨e, refused⟩ | ⟨state, target, found, named, -⟩ :=
    hub.rooms.setState_cases stamp room sender content key
  · refine .inl ⟨.ofRoom e, ?_⟩
    rw [setState, refused]
  · exact .inr ⟨state, target, found, named, setState_eq found named stamp sender⟩

/-- A user may write to a room that exists and that they have joined. -/
theorem writeError?_eq_none_iff {hub : Hub} {user : UserId} {room : RoomId} :
    hub.writeError? user room = none ↔
      hub.rooms.hasRoom room = true ∧ hub.rooms.members.isMember room user = true := by
  unfold writeError?
  cases hub.rooms.hasRoom room <;> cases hub.rooms.members.isMember room user <;> simp

/-- The hub after a message has been sent. -/
def afterMessage (hub : Hub) (stamp : Stamp) (sender : UserId) (room : RoomId)
    (messageType body : String) : Hub :=
  hub.enter room (messageEvent stamp sender room messageType body)

/-- A message is entered at the next index of the timeline. -/
theorem sendMessage_eq {hub : Hub} {sender : UserId} {room : RoomId}
    (allowed : hub.writeError? sender room = none) (stamp : Stamp) (messageType body : String) :
    hub.sendMessage stamp sender room messageType body =
      (.ok hub.messageCounter.current, hub.afterMessage stamp sender room messageType body) := by
  rw [sendMessage, allowed]
  exact hub.post_eq (writeError?_eq_none_iff.mp allowed).1 rfl

/-- A message is refused, or entered. -/
theorem sendMessage_cases (hub : Hub) (stamp : Stamp) (sender : UserId) (room : RoomId)
    (messageType body : String) :
    (∃ e, hub.sendMessage stamp sender room messageType body = (.error e, hub)) ∨
      hub.writeError? sender room = none ∧
        hub.sendMessage stamp sender room messageType body =
          (.ok hub.messageCounter.current,
            hub.afterMessage stamp sender room messageType body) := by
  cases allowed : hub.writeError? sender room with
  | some e =>
    refine .inl ⟨e, ?_⟩
    rw [sendMessage, allowed]
  | none => exact .inr ⟨rfl, sendMessage_eq allowed stamp messageType body⟩

/-! ### Typing -/

/-- Who is typing in a room after `user` has started or stopped. -/
def typingAfter (hub : Hub) (user : UserId) (room : RoomId) (isTyping : Bool) : List UserId :=
  if isTyping then Ascending.insert user (hub.typingUsers room)
  else Ascending.erase user (hub.typingUsers room)

/-- The delivery that tells the members of a room who is typing after `user` has started or
stopped. -/
def typingDelivery (hub : Hub) (now : Instant) (user : UserId) (room : RoomId) (isTyping : Bool) :
    Delivery :=
  ⟨hub.rooms.members.members room, ⟨hub.signalCounter.current,
    typingEvent room user now.timestamp (hub.typingAfter user room isTyping)⟩⟩

/-- The hub after `user` has started or stopped typing. -/
def afterTyping (hub : Hub) (now : Instant) (user : UserId) (room : RoomId) (isTyping : Bool) :
    Hub :=
  { hub with
    typing := hub.typing.insert room (hub.typingAfter user room isTyping)
    signals := ⟨hub.signals.segments.record
      (hub.typingDelivery now user room isTyping).item.item.envelope hub.signalCounter.current
      ((hub.rooms.members.members room).map (·.text))⟩
    signalCounter := hub.signalCounter.advance
    dispatcher := hub.dispatcher.wake (hub.typingDelivery now user room isTyping) }

/-- A signal about typing is entered at the next index of the signals. -/
theorem setTyping_eq {hub : Hub} {user : UserId} {room : RoomId}
    (allowed : hub.writeError? user room = none) (now : Instant) (isTyping : Bool) :
    hub.setTyping now user room isTyping =
      (.ok hub.signalCounter.current, hub.afterTyping now user room isTyping) := by
  have users : hub.rooms.directory.users room = .ok (hub.rooms.members.members room) :=
    if_pos (writeError?_eq_none_iff.mp allowed).1
  rw [setTyping, allowed]
  simp only [users]
  rfl

/-- A signal about typing is refused, or entered. -/
theorem setTyping_cases (hub : Hub) (now : Instant) (user : UserId) (room : RoomId)
    (isTyping : Bool) :
    (∃ e, hub.setTyping now user room isTyping = (.error e, hub)) ∨
      hub.writeError? user room = none ∧
        hub.setTyping now user room isTyping =
          (.ok hub.signalCounter.current, hub.afterTyping now user room isTyping) := by
  cases allowed : hub.writeError? user room with
  | some e =>
    refine .inl ⟨e, ?_⟩
    rw [setTyping, allowed]
  | none => exact .inr ⟨rfl, setTyping_eq allowed now isTyping⟩

/-! ### Presence -/

/-- The record of a user after a change. -/
def recordAfter (hub : Hub) (time : Timestamp) (user : UserId) (change : Presence → Presence) :
    PresenceRecord :=
  ⟨change (hub.presence.presence user), time⟩

/-- The delivery that tells the peers of a user of a change of their record. -/
def presenceDelivery (hub : Hub) (time : Timestamp) (user : UserId)
    (change : Presence → Presence) : Delivery :=
  ⟨hub.rooms.members.peers user, ⟨hub.presenceCounter.current,
    PresenceLog.event user (hub.recordAfter time user change)⟩⟩

/-- The hub after a change of a user's presence record. -/
def afterUpdate (hub : Hub) (time : Timestamp) (user : UserId) (change : Presence → Presence) :
    Hub :=
  { hub with
    presence := ⟨hub.presence.records.insert user
      ⟨hub.presenceCounter.current, hub.recordAfter time user change⟩⟩
    presenceCounter := hub.presenceCounter.advance
    dispatcher := hub.dispatcher.dispatch .presenceRefused (hub.presenceDelivery time user change) }

/-- A presence record is changed at the next index of the presence log. -/
theorem updatePresence_eq (hub : Hub) (time : Timestamp) (user : UserId)
    (change : Presence → Presence) :
    hub.updatePresence (PresenceLog.update hub.rooms.directory time user change) =
      (.ok hub.presenceCounter.current, hub.afterUpdate time user change) := rfl

theorem setAvailability_eq (hub : Hub) (now : Instant) (user : UserId) (status : Availability)
    (statusMessage : Option String) : hub.setAvailability now user status statusMessage =
      (.ok hub.presenceCounter.current, hub.afterUpdate now.timestamp user fun presence =>
        { presence with availability := status, statusMessage := statusMessage }) := by
  rw [setAvailability, PresenceLog.setAvailability, updatePresence_eq]

theorem setProfile_eq (hub : Hub) (now : Instant) (user : UserId) (profile : Profile) :
    hub.setProfile now user profile =
      (.ok hub.presenceCounter.current, hub.afterUpdate now.timestamp user fun presence =>
        { presence with displayName := profile.displayName, avatarUrl := profile.avatarUrl }) := by
  rw [setProfile, PresenceLog.setProfile, updatePresence_eq]

/-! ### All changes -/

/-- The hub after a room has been made. -/
def afterCreation (hub : Hub) (room : RoomId) : Hub :=
  { hub with rooms := { hub.rooms with rooms := hub.rooms.rooms.insert room ∅ } }

/-- The changes there are. -/
inductive Change (hub : Hub) : Hub → Prop where
  | mux (mux : Multiplexer) : hub.Change (hub.setMux mux)
  | creation (room : RoomId) (new : hub.rooms.hasRoom room = false) :
    hub.Change (hub.afterCreation room)
  | state (stamp : Stamp) (sender : UserId) (room : RoomId) (content : StateContent)
    (key : String) (state : RoomState) (target : Option (Membership × UserId))
    (found : hub.rooms.rooms.get? room = some state)
    (named : RoomStore.target content key = .ok target) :
    hub.Change (hub.afterState stamp sender room content key state target)
  | message (stamp : Stamp) (sender : UserId) (room : RoomId) (messageType body : String)
    (allowed : hub.writeError? sender room = none) :
    hub.Change (hub.afterMessage stamp sender room messageType body)
  | typing (now : Instant) (user : UserId) (room : RoomId) (isTyping : Bool)
    (allowed : hub.writeError? user room = none) :
    hub.Change (hub.afterTyping now user room isTyping)
  | presence (time : Timestamp) (user : UserId) (change : Presence → Presence) :
    hub.Change (hub.afterUpdate time user change)

/-- A chain of changes. -/
abbrev Changes : Hub → Hub → Prop :=
  Relation.ReflTransGen Change

/-- What every change preserves is preserved by a chain of changes. -/
theorem Changes.preserve {P : Hub → Prop} (kept : ∀ hub later, hub.Change later → P hub → P later)
    {hub later : Hub} (changes : hub.Changes later) (before : P hub) : P later := by
  induction changes with
  | refl => exact before
  | tail _ change now => exact kept _ _ change now

/-- No change takes a room away. -/
theorem Change.hasRoom {hub later : Hub} {room : RoomId} (change : hub.Change later)
    (found : hub.rooms.hasRoom room = true) : later.rooms.hasRoom room = true := by
  cases change with
  | mux mux => exact found
  | creation made new => exact RoomStore.hasRoom_insert found made ∅
  | state stamp sender changed content key state target _ named =>
    exact RoomStore.hasRoom_insert found changed _
  | message stamp sender changed messageType body allowed => exact found
  | typing now user changed isTyping allowed => exact found
  | presence time user change => exact found

theorem changes_setState (hub : Hub) (stamp : Stamp) (sender : UserId) (room : RoomId)
    (content : StateContent) (key : String) :
    hub.Changes (hub.setState stamp sender room content key).2 := by
  obtain ⟨e, refused⟩ | ⟨state, target, found, named, set⟩ :=
    hub.setState_cases stamp sender room content key
  · rw [refused]
  · rw [set]
    exact .single (.state stamp sender room content key state target found named)

/-- A room that exists is left alone. -/
theorem createRoom_of_hasRoom {hub : Hub} {room : RoomId} (found : hub.rooms.hasRoom room = true)
    (first second : Stamp) (creator : UserId) :
    hub.createRoom first second room creator = (.ok false, hub) := by
  rw [createRoom, RoomStore.create, found]
  rfl

/-- A new room is an empty one in which two pieces of state are set: who has created it, which never
fails, and that they have joined it, which decides the result. -/
theorem createRoom_of_new {hub : Hub} {room : RoomId} (new : hub.rooms.hasRoom room = false)
    (first second : Stamp) (creator : UserId) :
    let created := (hub.afterCreation room).setState first creator room (.create creator) ""
    let joined := created.2.setState second creator room (.member .join none) creator.text
    hub.createRoom first second room creator = (joined.1.map fun _ => true, joined.2) := by
  have made : (hub.afterCreation room).rooms.rooms.get? room = some ∅ :=
    Table.get?_insert_self _ _ _
  have unnamed : RoomStore.target (.create creator) "" = .ok none := rfl
  have created := setState_eq made unnamed first creator
  rw [createRoom, RoomStore.create, new]
  simp only [Bool.false_eq_true, if_false]
  rw [afterCreation] at created ⊢
  rw [created]
  simp only
  split
  next failed =>
    rw [failed]
    rfl
  next joined =>
    rw [joined]
    rfl

theorem createRoom_eq {hub : Hub} {room : RoomId} (new : hub.rooms.hasRoom room = false)
    (first second : Stamp) (creator : UserId) : (hub.createRoom first second room creator).2 =
      (((hub.afterCreation room).setState first creator room (.create creator) "").2.setState
        second creator room (.member .join none) creator.text).2 :=
  congrArg Prod.snd (createRoom_of_new new first second creator)

/-- What making an empty room and setting pieces of state in it preserve is preserved by making a
room. -/
theorem createRoom_preserve {P : Hub → Prop} (hub : Hub) (first second : Stamp) (room : RoomId)
    (creator : UserId) (before : P hub)
    (created : hub.rooms.hasRoom room = false → P (hub.afterCreation room))
    (kept : ∀ hub stamp content key, P hub → P (hub.setState stamp creator room content key).2) :
    P (hub.createRoom first second room creator).2 := by
  cases new : hub.rooms.hasRoom room with
  | true =>
    rw [createRoom_of_hasRoom new]
    exact before
  | false =>
    rw [createRoom_eq new]
    exact kept _ _ _ _ (kept _ _ _ _ (created new))

theorem changes_createRoom (hub : Hub) (first second : Stamp) (room : RoomId) (creator : UserId) :
    hub.Changes (hub.createRoom first second room creator).2 := by
  apply hub.createRoom_preserve first second room creator .refl
  · intro new
    exact .single (.creation room new)
  · intro written stamp content key changes
    exact changes.trans (written.changes_setState stamp creator room content key)

end ChatFeed.Hub
