import ChatFeed.Proofs.Hub.Permanence
import ChatFeed.Proofs.Hub.Reader
import ChatFeed.Proofs.Room.Replay

/-!
# Room state is the replay of the timeline

The state of a room, its members and its part of the timeline are kept in three places and written
one after another. They never come apart: going through the state events of a room in the timeline
leads to its state and to its members, and each of these events names the content it replaced.

## Main definitions

* `Hub.history`, `Hub.stateEvents`: what the timeline has of a room
* `Hub.IsReplayed`: the timeline leads to the state and the members of every room

## Main results

* `Hub.Addition.isReplayed`: every addition keeps it so
* `Hub.state_is_replay`: room state is the replay of the timeline
-/

namespace ChatFeed.Hub

/-- The events of a room in the timeline, by ascending index. -/
def history (hub : Hub) (room : RoomId) : List Event :=
  (hub.messages.window none [room] 0 hub.messageCounter.current).map (·.item)

/-- The state events among them. -/
def stateEvents (hub : Hub) (room : RoomId) : List Event :=
  (hub.history room).filter (·.place?.isSome)

variable {hub later : Hub} {room other : RoomId} {event : Event} {stamp : Stamp} {sender : UserId}
  {content : StateContent} {key : String} {state : RoomState}
  {target : Option (Membership × UserId)}

/-! ### Histories -/

/-- What is entered comes last in the history of its room. -/
theorem history_enter (sound : hub.messages.IsSound hub.messageCounter.current)
    (fresh : hub.messages.indices.get? event.id = none) :
    (hub.enter room event).history other =
      hub.history other ++ if room = other then [event] else [] := by
  have grown : (hub.enter room event).messages.window none [other] 0
      (hub.messageCounter.current + 1) = _ := sound.window_record fresh (Nat.zero_le _)
  have visible : Timeline.isVisible none [other] ⟨event, room, event.extraRecipient⟩ =
      decide (room = other) := by
    simp [Timeline.isVisible]
  change ((hub.enter room event).messages.window none [other] 0
    (hub.messageCounter.current + 1)).map (·.item) = _
  rw [grown, List.map_append, visible, history]
  by_cases same : room = other <;> simp [same]

theorem stateEvents_enter (sound : hub.messages.IsSound hub.messageCounter.current)
    (fresh : hub.messages.indices.get? event.id = none) :
    (hub.enter room event).stateEvents other =
      hub.stateEvents other ++ if room = other ∧ event.place?.isSome then [event] else [] := by
  rw [stateEvents, history_enter sound fresh, List.filter_append, stateEvents]
  by_cases same : room = other <;> by_cases stated : event.place?.isSome = true <;>
    simp [same, stated]

/-- A message is no state event. -/
theorem stateEvents_afterMessage (sound : hub.IsSound)
    (fresh : hub.messages.indices.get? (stamp.eventId sender) = none) (messageType body : String) :
    (hub.afterMessage stamp sender room messageType body).stateEvents other =
      hub.stateEvents other := by
  have entered : (hub.afterMessage stamp sender room messageType body).stateEvents other =
      hub.stateEvents other ++ if room = other ∧ false then [_] else [] :=
    stateEvents_enter sound.timeline fresh
  rw [entered]
  simp

/-- The event that sets a piece of state comes last among the state events of its room. -/
theorem stateEvents_afterState (sound : hub.IsSound)
    (fresh : hub.messages.indices.get? (stamp.eventId sender) = none) :
    (hub.afterState stamp sender room content key state target).stateEvents other =
      hub.stateEvents other ++ if room = other then
        [RoomStore.stateEvent stamp room sender content key state] else [] := by
  have entered : (hub.afterState stamp sender room content key state target).stateEvents other =
      hub.stateEvents other ++ if room = other ∧ true then [_] else [] :=
    stateEvents_enter sound.timeline fresh
  rw [entered]
  simp

/-! ### Replaying -/

/-- Whether a state event names the content of the one before it that has the same place, and none
if it is the first, where `earlier` are the state events before it. -/
def CarriesPrevious (earlier : List Event) (event : Event) : Prop :=
  event.previous? =
    (earlier.filter (·.place? = event.place?)).getLast?.bind RoomStore.contentOf?

/-- Whether the state events of every room lead to its state and to its members, and carry what
they replaced. A room that has not been made has none. -/
structure IsReplayed (hub : Hub) : Prop where
  sound : hub.IsSound
  state : ∀ room state, hub.rooms.rooms.get? room = some state →
    state = .replay (hub.stateEvents room)
  unmade : ∀ room, hub.rooms.hasRoom room = false → hub.stateEvents room = []
  previous : ∀ room earlier event, earlier ++ [event] <+: hub.stateEvents room →
    CarriesPrevious earlier event
  members : ∀ room, hub.rooms.members.members room = replayMembers (hub.stateEvents room)

theorem isReplayed_ofConfig (config : Config) (sink : Option Sink) :
    (ofConfig config sink).IsReplayed where
  sound := isSound_ofConfig config sink
  state _ _ found := nomatch found
  unmade _ _ := rfl
  previous room earlier event begins := by
    have nothing : earlier ++ [event] = [] := List.prefix_nil.mp begins
    simp at nothing
  members _ := rfl

/-- Where neither rooms nor state events change, nothing does. -/
theorem IsReplayed.of_same (replayed : hub.IsReplayed) (sound : later.IsSound)
    (rooms : later.rooms = hub.rooms)
    (events : ∀ room, later.stateEvents room = hub.stateEvents room) : later.IsReplayed where
  sound := sound
  state room state found := by
    rw [rooms] at found
    rw [events]
    exact replayed.state room state found
  unmade room missing := by
    rw [rooms] at missing
    rw [events]
    exact replayed.unmade room missing
  previous room earlier event begins := by
    rw [events] at begins
    exact replayed.previous room earlier event begins
  members room := by
    rw [rooms, events]
    exact replayed.members room

/-- A room that is not there after a change was not there before it. -/
theorem IsReplayed.unmade_before (replayed : hub.IsReplayed) (change : hub.Change later)
    (missing : later.rooms.hasRoom room = false) : hub.stateEvents room = [] := by
  refine replayed.unmade room (Bool.eq_false_iff.mpr fun found => ?_)
  have still_found := change.hasRoom found
  rw [missing] at still_found
  contradiction

/-- A room that is made has neither state nor events. -/
theorem IsReplayed.afterCreation (replayed : hub.IsReplayed)
    (new : hub.rooms.hasRoom room = false) : (hub.afterCreation room).IsReplayed where
  sound := (Change.creation room new).grows.sound replayed.sound
  previous := replayed.previous
  members := replayed.members
  state made state found := by
    rw [Hub.afterCreation, Table.get?_insert] at found
    split at found
    next same =>
      subst same
      obtain rfl := Option.some.inj found
      change ∅ = RoomState.replay (hub.stateEvents room)
      rw [replayed.unmade room new]
      rfl
    next => exact replayed.state made state found
  unmade _ missing := replayed.unmade_before (.creation room new) missing

/-- A piece of state is set as its event is replayed. -/
theorem IsReplayed.afterState (replayed : hub.IsReplayed)
    (found : hub.rooms.rooms.get? room = some state)
    (named : RoomStore.target content key = .ok target)
    (fresh : hub.messages.indices.get? (stamp.eventId sender) = none) :
    (hub.afterState stamp sender room content key state target).IsReplayed where
  sound :=
    (Change.state stamp sender room content key state target found named).grows.sound replayed.sound
  state changed state' found' := by
    have settled : (hub.rooms.rooms.insert room (state.insert ⟨content.eventType, key⟩
      (RoomStore.stateEvent stamp room sender content key state))).get? changed = some state' :=
      found'
    rw [stateEvents_afterState replayed.sound fresh]
    rw [Table.get?_insert] at settled
    -- In the room itself one more event is replayed, and any other room is as it was.
    split at settled
    next same =>
      subst same
      obtain rfl := Option.some.inj settled
      rw [if_pos rfl, RoomState.replay_concat, ← replayed.state room state found]
      rfl
    next distinct =>
      rw [if_neg distinct, List.append_nil]
      exact replayed.state changed state' settled
  unmade other missing := by
    have distinct : room ≠ other := by
      rintro rfl
      have present :
          (hub.afterState stamp sender room content key state target).rooms.hasRoom room = true :=
        RoomStore.hasRoom_settle_self _ _ _ _
      rw [present] at missing
      contradiction
    rw [stateEvents_afterState replayed.sound fresh, if_neg distinct, List.append_nil]
    have change : hub.Change (hub.afterState stamp sender room content key state target) :=
      .state stamp sender room content key state target found named
    exact replayed.unmade_before change missing
  previous other earlier event begins := by
    rw [stateEvents_afterState replayed.sound fresh] at begins
    split at begins
    next same =>
      subst same
      -- The event has just been entered, or it was there before.
      rcases List.prefix_concat_iff.mp begins with last | before
      · obtain ⟨rfl, rfl⟩ := List.append_singleton_inj.mp last
        -- The content it carries was looked up in the state, which the events before it lead to.
        change (state.get? ⟨content.eventType, key⟩).bind RoomStore.contentOf? =
          ((hub.stateEvents room).filter
            (·.place? = some ⟨content.eventType, key⟩)).getLast?.bind RoomStore.contentOf?
        rw [← RoomState.get?_replay, ← replayed.state room state found]
      · exact replayed.previous room earlier event before
    next =>
      rw [List.append_nil] at begins
      exact replayed.previous other earlier event begins
  members other := by
    rw [stateEvents_afterState replayed.sound fresh]
    split
    next same =>
      subst same
      rw [replayMembers_concat, ← replayed.members room]
      exact RoomStore.members_applied named stamp sender state
    next distinct =>
      rw [List.append_nil, ← replayed.members other]
      exact RoomStore.members_applied_of_ne distinct target

/-- Every addition leaves the timeline leading to the state and the members of every room. -/
theorem Addition.isReplayed (addition : hub.Addition later) (replayed : hub.IsReplayed) :
    later.IsReplayed := by
  obtain ⟨change, fresh⟩ := addition
  have sound := change.grows.sound replayed.sound
  cases change with
  | mux mux => exact replayed.of_same sound rfl fun _ => rfl
  | creation room new => exact replayed.afterCreation new
  | state stamp sender room content key state target found named =>
    have new := fresh (RoomStore.stateEvent stamp room sender content key state)
      (eventAt?_enter _ room _)
    exact replayed.afterState found named new
  | message stamp sender room messageType body allowed =>
    have new := fresh (messageEvent stamp sender room messageType body) (eventAt?_enter _ room _)
    exact replayed.of_same sound rfl fun _ =>
      stateEvents_afterMessage replayed.sound new messageType body
  | typing now user room isTyping allowed => exact replayed.of_same sound rfl fun _ => rfl
  | presence time user change => exact replayed.of_same sound rfl fun _ => rfl

theorem Additions.isReplayed (additions : hub.Additions later) (replayed : hub.IsReplayed) :
    later.IsReplayed := by
  induction additions with
  | refl => exact replayed
  | tail _ addition replayed => exact addition.isReplayed replayed

/-- Room state is the replay of the timeline if no identity is given twice. The state of a room is
what its state events lead to, of which the last one for each place counts, and a room that has not
been made has none. Each of them carries the content of the one before it that has the same place,
and none if it is the first. The members of the room are those whom they let in and not out again.
-/
theorem state_is_replay (config : Config) (sink : Option Sink) (operations : List Operation)
    (distinct : MakeDistinct operations) (room : RoomId) :
    let hub := (ofConfig config sink).run operations
    let events := hub.stateEvents room
    (hub.rooms.allState room =
      if hub.rooms.hasRoom room then .ok (RoomState.replay events).values
      else .error (.notFound room)) ∧
    (hub.rooms.hasRoom room = false → events = []) ∧
    (∀ place, (RoomState.replay events).get? place =
      (events.filter (·.place? = some place)).getLast?) ∧
    (∀ earlier event, earlier ++ [event] <+: events →
      event.previous? =
        (earlier.filter (·.place? = event.place?)).getLast?.bind RoomStore.contentOf?) ∧
    hub.rooms.members.members room = replayMembers events := by
  intro hub events
  have additions : (ofConfig config sink).Additions hub :=
    (makes_run _ operations).additions [] (hasOnly_ofConfig config sink) distinct
  have replayed : hub.IsReplayed := additions.isReplayed (isReplayed_ofConfig config sink)
  refine ⟨?_, replayed.unmade room, RoomState.get?_replay events, replayed.previous room,
    replayed.members room⟩
  rw [RoomStore.allState, RoomStore.hasRoom, Table.contains]
  cases found : hub.rooms.rooms.get? room with
  | none => rfl
  | some state =>
    obtain rfl := replayed.state room state found
    rfl

section Renamed

open Reader

/-- The host gives a room one name and then another, and a guest joins in between. -/
def renamed : List Operation :=
  [.createRoom (drawn 0) (drawn 1) lobby host, .setState (drawn 2) host lobby (.name "Lobby") "",
    .setState (drawn 3) host lobby (.member .join none) guest.text,
    .setState (drawn 4) host lobby (.name "Hall") ""]

/-- The room has the second name, which names the first one, and both users are in it. -/
theorem state_is_replay_renamed :
    let hub := (ofConfig smallPages none).run renamed
    MakeDistinct renamed ∧
    hub.rooms.allState lobby = .ok (RoomState.replay (hub.stateEvents lobby)).values ∧
    (((RoomState.replay (hub.stateEvents lobby)).get? ⟨"m.room.name", ""⟩).bind (·.previous?) =
      some (.name "Lobby")) ∧
    replayMembers (hub.stateEvents lobby) = [guest, host] := by
  intro hub
  have distinct : MakeDistinct renamed := by decide +kernel
  have made : hub.rooms.hasRoom lobby = true := by decide +kernel
  obtain ⟨state, -, last, -, members⟩ := state_is_replay smallPages none renamed distinct lobby
  refine ⟨distinct, state.trans (if_pos made), ?_, ?_⟩
  · rw [last]
    decide +kernel
  · rw [← members]
    decide +kernel

end Renamed

end ChatFeed.Hub
