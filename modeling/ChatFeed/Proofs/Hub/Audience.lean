import ChatFeed.Proofs.Hub.Reader
import ChatFeed.Proofs.Log.PresenceLog
import ChatFeed.Proofs.Log.Signals
import ChatFeed.Proofs.Log.Writing

/-!
# Who is told

What is written to a hub wakes those who can read it, and nobody else: whoever is among the
recipients finds it when they sync from the position before the write, and whoever finds it
there is among the recipients, once. Writing goes by the members of a room, the user whom an
event concerns and the peers of a user; reading goes by the rooms of the reader, what a
posting says, the signals held for the reader and the peers of the reader. They agree
because a membership takes effect before its event goes out, and on both sides at once.

## Main definitions

* `Hub.Write`, `Hub.write`: what is written to a hub and told to others
* `Hub.Write.IsGivenIn`: a response gives what was written
* `Hub.position`: the end of the three logs
* `Hub.HandsOut`: a write hands out one delivery, whoever listens
* `Hub.Tells`: that delivery goes to those who then find what was written

## Main results

* `Hub.IsSound.mem_missedEvents_iff`: the event at a reader's position is given if they can see it
* `Hub.told_iff_given`: those who are told are those who are given what was written
-/

namespace ChatFeed

/-! ### Recipients -/

theorem Timeline.mem_recipients_iff {users : List UserId} {extra : Option UserId} {user : UserId} :
    user ∈ recipients users extra ↔ user ∈ users ∨ extra = some user := by
  cases extra with
  | none => simp [recipients]
  | some other =>
    rw [recipients, Option.some.injEq]
    by_cases listed : other ∈ users
    · rw [if_pos (List.contains_iff_mem.mpr listed)]
      refine (or_iff_left_of_imp ?_).symm
      rintro rfl
      exact listed
    · rw [if_neg (mt List.contains_iff_mem.mp listed), List.mem_append, List.mem_singleton,
        eq_comm]

/-- The user whom an event concerns is not listed again if they are in the room. -/
theorem Timeline.nodup_recipients {users : List UserId} (nodup : users.Nodup)
    (extra : Option UserId) : (recipients users extra).Nodup := by
  cases extra with
  | none => exact nodup
  | some other =>
    rw [recipients]
    split
    next => exact nodup
    next unlisted =>
      have outside : other ∉ users := mt List.contains_iff_mem.mpr unlisted
      rw [List.nodup_append]
      refine ⟨nodup, List.nodup_singleton other, fun a mem b single => ?_⟩
      rw [List.mem_singleton.mp single]
      exact ne_of_mem_of_not_mem mem outside

namespace Hub

variable {hub later : Hub} {user : UserId} {room : RoomId} {now : Instant}

/-! ### Lists in order -/

/-- Whether signals are as entering leaves them, and members are listed in order. -/
structure IsOrdered (hub : Hub) : Prop where
  signals : hub.signals.segments.IsSound hub.signalCounter.current
  members : hub.rooms.members.IsAscending

theorem isOrdered_ofConfig (config : Config) (sink : Option Sink) :
    (ofConfig config sink).IsOrdered where
  signals := Segments.isSound_empty _
  members := MemberIndex.isAscending_empty

theorem Change.isOrdered (change : hub.Change later) (ordered : hub.IsOrdered) :
    later.IsOrdered := by
  obtain ⟨signals, members⟩ := ordered
  cases change with
  | mux mux => exact ⟨signals, members⟩
  | creation room new => exact ⟨signals, members⟩
  | message stamp sender room messageType body allowed => exact ⟨signals, members⟩
  | presence time user change => exact ⟨signals, members⟩
  | state stamp sender room content key state target found named =>
    refine ⟨signals, ?_⟩
    cases target with
    | none => exact members
    | some change => exact members.apply room change.2 change.1
  | typing now user room isTyping allowed =>
    exact ⟨(signals.mono (Nat.le_succ _)).record (Nat.lt_succ_self _) _, members⟩

theorem isOrdered_run (config : Config) (sink : Option Sink) (operations : List Operation) :
    ((ofConfig config sink).run operations).IsOrdered :=
  (changes_run _ operations).preserve (fun _ _ => Change.isOrdered) (isOrdered_ofConfig config sink)

theorem nodup_members (ordered : hub.IsOrdered) (room : RoomId) :
    (hub.rooms.members.members room).Nodup :=
  Ascending.nodup_of_pairwise (ordered.members room)

theorem nodup_eventDelivery (ordered : hub.IsOrdered) (room : RoomId) (event : Event) :
    (hub.eventDelivery room event).recipients.Nodup :=
  Timeline.nodup_recipients (nodup_members ordered room) event.extraRecipient

/-! ### What is found at the reader's position -/

/-- A reader who is not at the end of the timeline moves on. -/
theorem IsSound.lt_nextMessage (sound : hub.IsSound) (paged : 0 < hub.limits.limit none)
    (user : UserId) {since : Nat} (ahead : since < hub.messageCounter.current) :
    since < hub.nextMessage since (hub.missedEvents user since) := by
  obtain ⟨-, shows⟩ := sound.shows_missedEvents paged user since
  by_cases full : (hub.missedEvents user since).length = hub.limits.limit none
  · cases is_last : (hub.missedEvents user since).getLast? with
    | none =>
      rw [List.getLast?_eq_none_iff.mp is_last] at full
      exact absurd full (Nat.ne_of_lt paged)
    | some last =>
      obtain ⟨above, -⟩ :=
        (shows.mem_iff last.index last.item).mp (List.mem_of_getLast? is_last)
      rw [nextMessage_of_full full is_last]
      exact Nat.lt_succ_of_le above
  · rw [nextMessage_of_short full]
    exact Nat.lt_of_lt_of_le ahead (Nat.le_max_left _ _)

/-- The event at a reader's position is given to them if they can see it, whatever the size of a
page. -/
theorem IsSound.mem_missedEvents_iff (sound : hub.IsSound) (paged : 0 < hub.limits.limit none)
    (user : UserId) {since : Nat} (ahead : since < hub.messageCounter.current) {event : Event} :
    ⟨since, event⟩ ∈ hub.missedEvents user since ↔
      hub.eventAt? since = some event ∧ hub.CanSee user event := by
  obtain ⟨-, shows⟩ := sound.shows_missedEvents paged user since
  have moves_on := sound.lt_nextMessage paged user ahead
  rw [shows.mem_iff]
  constructor
  · rintro ⟨-, -, at_index, can_see⟩
    exact ⟨at_index, can_see⟩
  · rintro ⟨at_index, can_see⟩
    exact ⟨Nat.le_refl _, moves_on, at_index, can_see⟩

/-- Those who are told of an event that is entered are those who can see it. Entering it leaves the
members as they were when the recipients were looked up. -/
theorem mem_eventDelivery_iff_canSee {event : Event} (in_room : event.room = some room) :
    user ∈ (hub.eventDelivery room event).recipients ↔
      (hub.enter room event).CanSee user event := by
  rw [CanSee, in_room]
  simp only [Option.some.injEq, exists_eq_left', MemberIndex.isMember_iff]
  exact Timeline.mem_recipients_iff

/-- So they are those who find it. -/
theorem mem_eventDelivery_iff {event : Event} (in_room : event.room = some room)
    (sound : (hub.enter room event).IsSound)
    (paged : 0 < (hub.enter room event).limits.limit none) :
    user ∈ (hub.eventDelivery room event).recipients ↔
      (hub.eventDelivery room event).item ∈
        (hub.enter room event).missedEvents user hub.messageCounter.current := by
  have ahead : hub.messageCounter.current < (hub.enter room event).messageCounter.current :=
    Nat.lt_succ_self _
  have found : (hub.eventDelivery room event).item ∈
      (hub.enter room event).missedEvents user hub.messageCounter.current ↔
      (hub.enter room event).CanSee user event :=
    (sound.mem_missedEvents_iff paged user ahead).trans
      (and_iff_right (hub.eventAt?_enter room event))
  rw [found]
  exact mem_eventDelivery_iff_canSee in_room

/-- A reader is told who is typing in the room of each signal they hold between the bounds. -/
theorem mem_missedTyping_iff {clock : RoomId → Instant} {since : Nat} {entry : Event} :
    entry ∈ hub.missedTyping clock user since ↔ ∃ index envelope room, since ≤ index ∧
      index < hub.signalCounter.current ∧
      ⟨index, envelope⟩ ∈ hub.signals.segments.held user.text ∧
      Id.parse? .room envelope.context = some room ∧
      entry =
        { id := envelope.id
          room := some room
          sender := envelope.sender
          time := (clock room).timestamp
          content := .typing (hub.typingUsers room) } := by
  rw [missedTyping, List.mem_filterMap]
  simp only [SignalLog.mem_range_iff, Option.map_eq_some_iff]
  constructor
  · rintro ⟨envelope, ⟨index, above, below, mem⟩, room, parsed, rfl⟩
    exact ⟨index, envelope, room, above, below, mem, parsed, rfl⟩
  · rintro ⟨index, envelope, room, above, below, mem, parsed, rfl⟩
    exact ⟨envelope, ⟨index, above, below, mem⟩, room, parsed, rfl⟩

/-- Those who are told that a user is typing are those who find it. -/
theorem mem_typingDelivery_iff (ordered : hub.IsOrdered)
    (proper : Id.parse .room room.text = .ok room) (clock : RoomId → Instant) {typist : UserId}
    {isTyping : Bool} :
    user ∈ (hub.typingDelivery now typist room isTyping).recipients ↔
      ∃ entry ∈ (hub.afterTyping now typist room isTyping).missedTyping clock user
        hub.signalCounter.current, entry.room = some room := by
  simp only [mem_missedTyping_iff]
  constructor
  · intro member
    have parsed : Id.parse? .room room.text = some room := by
      rw [Id.parse?, proper]
      rfl
    have listed : user.text ∈ (hub.rooms.members.members room).map (·.text) :=
      List.mem_map_of_mem member
    have held : ⟨hub.signalCounter.current,
        (hub.typingDelivery now typist room isTyping).item.item.envelope⟩ ∈
        (hub.afterTyping now typist room isTyping).signals.segments.held user.text :=
      (ordered.signals.mono (Nat.le_succ _)).mem_held_record (Nat.lt_succ_self _) listed
    exact ⟨_, ⟨_, _, room, Nat.le_refl _, Nat.lt_succ_self _, held, parsed, rfl⟩, rfl⟩
  · rintro ⟨entry, ⟨index, envelope, found, above, -, held, -⟩, -⟩
    rcases Segments.eq_or_mem_of_mem_held_record held with ⟨listed, -⟩ | old
    · obtain ⟨member, mem, same⟩ := List.mem_map.mp listed
      rw [← Id.text_injective same]
      exact mem
    -- No signal held before is as late as this one.
    · have below := (ordered.signals user.text).below _ old
      exact absurd below (Nat.not_lt_of_le above)

/-- Those who are told of a change of presence are those who find it. -/
theorem mem_presenceDelivery_iff (coherent : hub.rooms.members.IsCoherent) {time : Timestamp}
    {subject : UserId} {change : Presence → Presence} :
    user ∈ (hub.presenceDelivery time subject change).recipients ↔
      (hub.presenceDelivery time subject change).item ∈
        (hub.afterUpdate time subject change).missedPresence user hub.presenceCounter.current := by
  have peers : (hub.presenceDelivery time subject change).recipients =
      hub.rooms.members.peers subject := rfl
  rw [peers, coherent.mem_peers_comm]
  refine Iff.trans ?_ PresenceLog.mem_range_iff.symm
  constructor
  · intro peer
    exact ⟨Nat.le_refl _, Nat.lt_succ_self _, subject, peer, _, Table.get?_insert_self _ _ _, rfl⟩
  · rintro ⟨-, -, found, peer, record, -, same⟩
    -- The sender of a record's event is its user.
    obtain rfl : found = subject := congrArg Event.sender same
    exact peer

/-! ### Writes -/

/-- What is written to a hub and told to others. -/
inductive Write where
  | state (stamp : Stamp) (sender : UserId) (room : RoomId) (content : StateContent) (key : String)
  | message (stamp : Stamp) (sender : UserId) (room : RoomId) (messageType body : String)
  | typing (now : Instant) (user : UserId) (room : RoomId) (isTyping : Bool)
  | availability (now : Instant) (user : UserId) (status : Availability)
    (statusMessage : Option String)
  | profile (now : Instant) (user : UserId) (shown : Profile)

/-- The outcome of a write, and the hub after it. -/
def write (hub : Hub) : Write → Except HubError Nat × Hub
  | .state stamp sender room content key => hub.setState stamp sender room content key
  | .message stamp sender room messageType body =>
    hub.sendMessage stamp sender room messageType body
  | .typing now user room isTyping => hub.setTyping now user room isTyping
  | .availability now user status statusMessage =>
    hub.setAvailability now user status statusMessage
  | .profile now user shown => hub.setProfile now user shown

namespace Write

/-- A write is one of the operations. -/
def operation : Write → Operation
  | state stamp sender room content key => .setState stamp sender room content key
  | message stamp sender room messageType body => .sendMessage stamp sender room messageType body
  | typing now user room isTyping => .setTyping now user room isTyping
  | availability now user status statusMessage => .setAvailability now user status statusMessage
  | profile now user shown => .setProfile now user shown

/-- Whether the write is offered to the sink. -/
def isOffered : Write → Bool
  | typing _ _ _ _ => false
  | _ => true

/-- The room whose typing the write is about. -/
def typingRoom? : Write → Option RoomId
  | typing _ _ room _ => some room
  | _ => none

/-- Whether a response gives the item that was written: the event of the timeline or of presence, or
who is typing in the room. -/
def IsGivenIn (write : Write) (item : Indexed Event) (response : SyncResponse) : Prop :=
  match write with
  | state _ _ _ _ _ | message _ _ _ _ _ => item ∈ response.events
  | typing _ _ room _ => ∃ entry ∈ response.typing, entry.room = some room
  | availability _ _ _ _ | profile _ _ _ => item ∈ response.presence

end Write

theorem write_eq_perform (hub : Hub) (write : Write) :
    (hub.write write).2 = hub.perform write.operation := by
  cases write <;> rfl

/-- The end of the three logs. -/
def position (hub : Hub) : Cursors :=
  ⟨hub.messageCounter.current, hub.signalCounter.current, hub.presenceCounter.current⟩

/-! ### Handing out -/

/-- Whether a delivery is all that has been handed out from one dispatcher to the next: to
listeners, and to the sink if it is offered to it and there is one. -/
structure Hands (before after : Dispatcher) (offered : Bool) (delivery : Delivery) : Prop where
  woken : after.mux = before.mux.send delivery.recipients delivery.item
  called : after.calls =
    if offered && before.sink.isSome then before.calls ++ [delivery] else before.calls

/-- Replaces the dispatcher. -/
def setDispatcher (hub : Hub) (dispatcher : Dispatcher) : Hub :=
  { hub with dispatcher }

/-- Whether a write hands out one delivery, whoever listens at the time and whether there is a sink
or not. -/
def HandsOut (hub : Hub) (write : Write) (delivery : Delivery) : Prop :=
  ∀ dispatcher : Dispatcher,
    Hands dispatcher ((hub.setDispatcher dispatcher).write write).2.dispatcher write.isOffered
      delivery

/-- A warning about the target of an event reaches neither listeners nor the sink. -/
theorem hands_enter (hub : Hub) (room : RoomId) (event : Event) :
    Hands hub.dispatcher (hub.enter room event).dispatcher true (hub.eventDelivery room event) := by
  obtain ⟨sink, calls, mux⟩ := Timeline.noteTarget_eq event hub.dispatcher
  constructor
  case woken => rw [enter, Dispatcher.mux_dispatch, mux]
  case called => rw [enter, Dispatcher.calls_dispatch, calls, sink, Bool.true_and]

theorem handsOut_state {content : StateContent} {key : String} {state : RoomState}
    {target : Option (Membership × UserId)} (found : hub.rooms.rooms.get? room = some state)
    (named : RoomStore.target content key = .ok target) (stamp : Stamp) (sender : UserId) :
    hub.HandsOut (.state stamp sender room content key)
      ((hub.settled stamp sender room content key state target).eventDelivery room
        (RoomStore.stateEvent stamp room sender content key state)) := by
  intro dispatcher
  -- The event is made of the state and the stamp, neither of which the dispatcher decides.
  have still_found : (hub.setDispatcher dispatcher).rooms.rooms.get? room = some state := found
  rw [Hub.write, setState_eq still_found named stamp sender]
  exact hands_enter
    ((hub.settled stamp sender room content key state target).setDispatcher dispatcher) room _

theorem handsOut_message {sender : UserId} (allowed : hub.writeError? sender room = none)
    (stamp : Stamp) (messageType body : String) :
    hub.HandsOut (.message stamp sender room messageType body)
      (hub.eventDelivery room (messageEvent stamp sender room messageType body)) := by
  intro dispatcher
  have still_allowed : (hub.setDispatcher dispatcher).writeError? sender room = none := allowed
  rw [Hub.write, sendMessage_eq still_allowed]
  exact hands_enter (hub.setDispatcher dispatcher) room _

theorem handsOut_typing {typist : UserId} (allowed : hub.writeError? typist room = none)
    (now : Instant) (isTyping : Bool) :
    hub.HandsOut (.typing now typist room isTyping)
      (hub.typingDelivery now typist room isTyping) := by
  intro dispatcher
  have still_allowed : (hub.setDispatcher dispatcher).writeError? typist room = none := allowed
  rw [Hub.write, setTyping_eq still_allowed]
  exact ⟨rfl, rfl⟩

/-- Both kinds of update are handed out alike. -/
theorem handsOut_presence {write : Write} {subject : UserId} {change : Presence → Presence}
    (updates : ∀ hub : Hub, hub.write write =
      (.ok hub.presenceCounter.current, hub.afterUpdate now.timestamp subject change))
    (offered : write.isOffered = true) :
    hub.HandsOut write (hub.presenceDelivery now.timestamp subject change) := by
  intro dispatcher
  rw [updates, afterUpdate, offered]
  exact ⟨Dispatcher.mux_dispatch _ _ _, Dispatcher.calls_dispatch _ _ _⟩

/-! ### Those who are told -/

/-- Whether a delivery is what a write hands out, at `index`, and goes once to each user whom a
collection from the position before gives what was written. -/
structure Tells (hub : Hub) (write : Write) (index : Nat) (delivery : Delivery) : Prop where
  handed : hub.HandsOut write delivery
  index : delivery.item.index = index
  nodup : delivery.recipients.Nodup
  mem_iff : ∀ clock user response,
    (hub.write write).2.collect clock user hub.position = .ok response →
    (user ∈ delivery.recipients ↔ write.IsGivenIn delivery.item response)

theorem tells_state (sound : hub.IsSound) (ordered : hub.IsOrdered)
    (paged : 0 < hub.limits.limit none) {content : StateContent} {key : String} {state : RoomState}
    {target : Option (Membership × UserId)} (found : hub.rooms.rooms.get? room = some state)
    (named : RoomStore.target content key = .ok target) (stamp : Stamp) (sender : UserId) :
    hub.Tells (.state stamp sender room content key) hub.messageCounter.current
      ((hub.settled stamp sender room content key state target).eventDelivery room
        (RoomStore.stateEvent stamp room sender content key state)) := by
  have change : hub.Change (hub.afterState stamp sender room content key state target) :=
    .state stamp sender room content key state target found named
  -- The membership in the event counts when the recipients are looked up.
  have settled : (hub.settled stamp sender room content key state target).IsOrdered :=
    ⟨ordered.signals, (change.isOrdered ordered).members⟩
  refine ⟨handsOut_state found named stamp sender, rfl, nodup_eventDelivery settled room _, ?_⟩
  intro clock user response collected
  rw [Hub.write, setState_eq found named stamp sender] at collected
  rw [Write.IsGivenIn, events_of_collect collected]
  exact mem_eventDelivery_iff rfl (change.grows.sound sound) paged

theorem tells_message (sound : hub.IsSound) (ordered : hub.IsOrdered)
    (paged : 0 < hub.limits.limit none) {sender : UserId}
    (allowed : hub.writeError? sender room = none) (stamp : Stamp) (messageType body : String) :
    hub.Tells (.message stamp sender room messageType body) hub.messageCounter.current
      (hub.eventDelivery room (messageEvent stamp sender room messageType body)) := by
  have change : hub.Change (hub.afterMessage stamp sender room messageType body) :=
    .message stamp sender room messageType body allowed
  refine ⟨handsOut_message allowed stamp messageType body, rfl, nodup_eventDelivery ordered room _,
    ?_⟩
  intro clock user response collected
  rw [Hub.write, sendMessage_eq allowed] at collected
  rw [Write.IsGivenIn, events_of_collect collected]
  exact mem_eventDelivery_iff rfl (change.grows.sound sound) paged

theorem tells_typing (ordered : hub.IsOrdered) (proper : Id.parse .room room.text = .ok room)
    {typist : UserId} (allowed : hub.writeError? typist room = none) (now : Instant)
    (isTyping : Bool) : hub.Tells (.typing now typist room isTyping) hub.signalCounter.current
      (hub.typingDelivery now typist room isTyping) := by
  refine ⟨handsOut_typing allowed now isTyping, rfl, nodup_members ordered room, ?_⟩
  intro clock user response collected
  rw [Hub.write, setTyping_eq allowed] at collected
  obtain ⟨-, typing, -⟩ := parts_of_collect collected
  rw [Write.IsGivenIn, typing]
  exact mem_typingDelivery_iff ordered proper clock

/-- Both kinds of update are told alike. -/
theorem tells_presence (sound : hub.IsSound) {write : Write} {subject : UserId}
    {change : Presence → Presence}
    (updates : ∀ hub : Hub, hub.write write =
      (.ok hub.presenceCounter.current, hub.afterUpdate now.timestamp subject change))
    (offered : write.isOffered = true)
    (given : ∀ item response, write.IsGivenIn item response ↔ item ∈ response.presence) :
    hub.Tells write hub.presenceCounter.current
      (hub.presenceDelivery now.timestamp subject change) := by
  refine ⟨handsOut_presence updates offered, rfl, MemberIndex.nodup_peers _ _, ?_⟩
  intro clock user response collected
  rw [updates] at collected
  obtain ⟨-, -, presence⟩ := parts_of_collect collected
  rw [given, presence]
  exact mem_presenceDelivery_iff sound.members

/-- A successful write tells those who then find what was written. -/
theorem exists_tells (sound : hub.IsSound) (ordered : hub.IsOrdered)
    (paged : 0 < hub.limits.limit none) {write : Write} {index : Nat}
    (proper : ∀ room ∈ write.typingRoom?, Id.parse .room room.text = .ok room)
    (written : (hub.write write).1 = .ok index) : ∃ delivery, hub.Tells write index delivery := by
  -- The cases are the kinds of writes; a refused one is excluded by `written`.
  cases write with
  | state stamp sender room content key =>
    rw [Hub.write] at written
    obtain ⟨e, refused⟩ | ⟨state, target, found, named, set⟩ :=
      hub.setState_cases stamp sender room content key
    · rw [refused] at written
      contradiction
    · rw [set] at written
      obtain rfl := Except.ok.inj written
      exact ⟨_, tells_state sound ordered paged found named stamp sender⟩
  | message stamp sender room messageType body =>
    rw [Hub.write] at written
    obtain ⟨e, refused⟩ | ⟨allowed, sent⟩ :=
      hub.sendMessage_cases stamp sender room messageType body
    · rw [refused] at written
      contradiction
    · rw [sent] at written
      obtain rfl := Except.ok.inj written
      exact ⟨_, tells_message sound ordered paged allowed stamp messageType body⟩
  | typing now typist room isTyping =>
    rw [Hub.write] at written
    obtain ⟨e, refused⟩ | ⟨allowed, signalled⟩ := hub.setTyping_cases now typist room isTyping
    · rw [refused] at written
      contradiction
    · rw [signalled] at written
      obtain rfl := Except.ok.inj written
      exact ⟨_, tells_typing ordered (proper room rfl) allowed now isTyping⟩
  | availability now subject status statusMessage =>
    have updates (hub : Hub) := hub.setAvailability_eq now subject status statusMessage
    rw [Hub.write, updates] at written
    obtain rfl := Except.ok.inj written
    exact ⟨_, tells_presence sound updates rfl fun _ _ => Iff.rfl⟩
  | profile now subject shown =>
    have updates (hub : Hub) := hub.setProfile_eq now subject shown
    rw [Hub.write, updates] at written
    obtain rfl := Except.ok.inj written
    exact ⟨_, tells_presence sound updates rfl fun _ _ => Iff.rfl⟩

/-- A successful write hands one delivery to listeners and, typing apart, to the sink. No user is
among its recipients twice, and a user is among them exactly if they are given what was written when
they sync at once from the position before the write. -/
theorem told_iff_given (config : Config) (sink : Option Sink) (operations : List Operation)
    (write : Write) (index : Nat) (accepted : config.validate = .ok config)
    (paged : 0 < min config.limits.defaultLimit config.limits.maxLimit)
    (proper : ∀ room ∈ write.typingRoom?, Id.parse .room room.text = .ok room)
    (written : (((ofConfig config sink).run operations).write write).1 = .ok index)
    (bounded : (((ofConfig config sink).run operations).write write).2.CountersBelow (2 ^ 48)) :
    let hub := (ofConfig config sink).run operations
    let after := (hub.write write).2
    ∃ delivery, hub.HandsOut write delivery ∧
      delivery.item.index = index ∧
      delivery.recipients.Nodup ∧
      (∃ text, after.since (some text) = .ok hub.position) ∧
      ∀ clock user token, after.since token = .ok hub.position →
        ∃ response, (after.sync clock user token (some 0)).1 = .ok (.done response) ∧
          (user ∈ delivery.recipients ↔ write.IsGivenIn delivery.item response) := by
  intro hub after
  have grows : (ofConfig config sink).Grows hub := (changes_run _ operations).grows
  have sound : hub.IsSound := grows.sound (isSound_ofConfig config sink)
  have ordered : hub.IsOrdered := isOrdered_run config sink operations
  have pages : 0 < hub.limits.limit none := by
    rw [grows.limits]
    exact paged
  have grows_after : hub.Grows after := by
    change hub.Grows (hub.write write).2
    rw [write_eq_perform]
    exact hub.grows_perform _
  have fits : after.Fits := bounded.fits accepted (grows_after.shard.trans grows.shard)
  -- The position before the write is at most the one after it, so there is a token for it too.
  have fit : hub.position.Fit :=
    ⟨(grows_after.fits fits).messages, (grows_after.fits fits).signals,
      (grows_after.fits fits).presence⟩
  obtain ⟨delivery, handed, at_index, nodup, mem_iff⟩ :=
    exists_tells sound ordered pages proper written
  obtain ⟨text, encoded⟩ := exists_encode_token fits.shard fit
  refine ⟨delivery, handed, at_index, nodup, ⟨text, since_of_encode_token encoded⟩, ?_⟩
  intro clock user token read
  obtain ⟨response, collected⟩ : ∃ response,
      after.collect clock user hub.position = .ok response :=
    (grows_after.sound sound).exists_collect fits fit clock user
  exact ⟨response, sync_without_wait read collected, mem_iff clock user response collected⟩

section Ban

open Reader

/-- A room with its creator and a guest. -/
def gathering : List Operation :=
  [.createRoom (drawn 0) (drawn 1) lobby host,
    .setState (drawn 2) host lobby (.member .join none) guest.text]

/-- The guest is banned. -/
def ban : Write :=
  .state (drawn 3) host lobby (.member .ban none) guest.text

/-- A ban is told to those who find it, the banned guest among them. -/
theorem told_iff_given_ban :
    let hub := (ofConfig smallPages (some .accepting)).run gathering
    let after := (hub.write ban).2
    ∃ delivery, hub.HandsOut ban delivery ∧ delivery.item.index = 3 ∧ delivery.recipients.Nodup ∧
      (∃ text, after.since (some text) = .ok hub.position) ∧
      ∀ clock user token, after.since token = .ok hub.position →
        ∃ response, (after.sync clock user token (some 0)).1 = .ok (.done response) ∧
          (user ∈ delivery.recipients ↔ delivery.item ∈ response.events) := by
  have accepted : smallPages.validate = .ok smallPages := by decide
  have paged : 0 < min smallPages.limits.defaultLimit smallPages.limits.maxLimit := by decide
  have reached :
      let written := ((ofConfig smallPages (some .accepting)).run gathering).write ban
      (written.1, written.2.messageCounter.current, written.2.signalCounter.current,
        written.2.presenceCounter.current) = (.ok 3, 4, 0, 0) := by
    decide +kernel
  simp only [Prod.mk.injEq] at reached
  obtain ⟨written, messages, signals, presence⟩ := reached
  exact told_iff_given smallPages (some .accepting) gathering ban 3 accepted paged nofun written
    ⟨by rw [messages]; decide, by rw [signals]; decide, by rw [presence]; decide⟩

end Ban

end Hub

end ChatFeed
