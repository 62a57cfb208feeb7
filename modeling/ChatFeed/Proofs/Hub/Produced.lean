import ChatFeed.Hub.Pages
import ChatFeed.Proofs.Collection.Sorted
import ChatFeed.Proofs.Event.Edit
import ChatFeed.Proofs.Event.Stamp
import ChatFeed.Proofs.Hub.Collect
import ChatFeed.Proofs.Hub.Reader
import ChatFeed.Proofs.Hub.Routing
import ChatFeed.Proofs.Hub.Typists
import ChatFeed.Proofs.Log.PresenceLog

/-!
# What a hub produces reads back

A hub builds identifiers from parts and does not check them. As long as the identifiers that are
passed to it are read back from their texts, so are those that it builds, and with them every event
that it gives out.

## Main definitions

* `Hub.Operation.IsProper`: all identifiers that are passed to an operation are read back
* `Hub.IsProper`: so are all identifiers in what a hub holds
* `Hub.Produces`: an event is given out by a hub

## Main results

* `Hub.IsProper.perform`, `Hub.isProper_run`: proper operations keep a hub proper
* `Hub.IsProper.of_produces`: what a proper hub gives out is proper
* `Hub.text_round_trip`: what has been read and what is given out reads back
-/

namespace ChatFeed

/-! ### Identifiers that are built -/

theorem PresenceLog.isProper_eventId {user : UserId} (proper : user.IsProper) :
    (eventId user).IsProper := by
  refine Id.isProper_ofParts ?_ (Id.isProper_iff.mp proper).2
  simp [Id.beforeColon]

theorem Hub.isProper_typingEventId {room : RoomId} (proper : room.IsProper) :
    (typingEventId room).IsProper := by
  refine Id.isProper_ofParts ?_ (Id.isProper_iff.mp proper).2
  simp [Id.beforeColon, Event.typingType]

/-! ### Logs -/

namespace Timeline

variable {timeline : Timeline}

/-- Nothing comes into a timeline but what is entered. -/
theorem eq_or_mem_of_mem_values_record {index : Nat} {posting found : Posting}
    (mem : found ∈ (timeline.record index posting).postings.values) :
    found = posting ∨ found ∈ timeline.postings.values := by
  rw [record] at mem
  refine (Table.eq_or_mem_of_mem_values_insert mem).imp_right fun kept => ?_
  split at kept
  next => exact (List.filter_sublist.map _).subset kept
  next => exact kept

/-- A reader is given events of the timeline. -/
theorem exists_posting_of_mem_range {counter : Counter} {viewer : Option UserId}
    {rooms : List RoomId} {start stop limit : Nat} {item : Indexed Event}
    (mem : item ∈ timeline.range counter viewer rooms start stop limit) :
    ∃ posting ∈ timeline.postings.values, posting.event = item.item := by
  have of_window {low high : Nat} (mem : item ∈ timeline.window viewer rooms low high) :
      ∃ posting ∈ timeline.postings.values, posting.event = item.item := by
    obtain ⟨entry, visible, rfl⟩ := List.mem_map.mp mem
    exact ⟨entry.2, List.mem_map_of_mem (List.mem_filter.mp visible).1, rfl⟩
  rw [range] at mem
  split at mem
  next => exact of_window (List.mem_reverse.mp (List.mem_of_mem_take mem))
  next => exact of_window (List.mem_of_mem_take mem)

end Timeline

namespace Hub

/-! ### Proper operations -/

/-- Whether all identifiers that are passed to an operation, and that it writes, are read back. -/
def Operation.IsProper : Operation → Prop
  | .createRoom _ _ room creator => room.IsProper ∧ creator.IsProper
  | .setState _ sender room content _ => sender.IsProper ∧ room.IsProper ∧ content.IsProper
  | .sendMessage _ sender room _ _ => sender.IsProper ∧ room.IsProper
  | .setTyping _ user room _ => user.IsProper ∧ room.IsProper
  | .setAvailability _ user _ _ | .setProfile _ user _ => user.IsProper
  | .sync _ _ _ _ | .resume _ _ | .abandon _ | .elapse _ | .shutDown => True

/-- Whether all identifiers are read back in what a hub holds. -/
structure IsProper (hub : Hub) : Prop where
  postings : ∀ posting ∈ hub.messages.postings.values, posting.event.IsProper
  state : ∀ state ∈ hub.rooms.rooms.values, ∀ event ∈ state.values, event.IsProper
  signals : ∀ recipient, ∀ entry ∈ hub.signals.segments.held recipient,
    entry.item.id.IsProper ∧ entry.item.sender.IsProper
  typing : ∀ room, ∀ user ∈ hub.typingUsers room, user.IsProper
  presence : ∀ user record, hub.presence.records.get? user = some record → user.IsProper

variable {hub : Hub} {clock : RoomId → Instant} {stamp : Stamp} {sender user : UserId}
  {room : RoomId} {content : StateContent} {key : String}

theorem isProper_ofConfig (config : Config) (sink : Option Sink) :
    (ofConfig config sink).IsProper where
  postings _ mem := absurd mem List.not_mem_nil
  state _ mem := absurd mem List.not_mem_nil
  signals _ _ mem := absurd mem List.not_mem_nil
  typing _ _ mem := absurd mem List.not_mem_nil
  presence _ _ found := nomatch found

namespace IsProper

/-! ### Events that are made -/

theorem stateEvent {state : RoomState} (proper : hub.IsProper) (sender_proper : sender.IsProper)
    (room_proper : room.IsProper) (content_proper : content.IsProper)
    (found : hub.rooms.rooms.get? room = some state) :
    (RoomStore.stateEvent stamp room sender content key state).IsProper where
  id := stamp.isProper_eventId sender_proper
  room := by
    rintro _ ⟨⟩
    exact room_proper
  sender := sender_proper
  content := by
    refine ⟨content_proper, fun previous mem => ?_⟩
    -- What is replaced stands in an event that is proper.
    obtain ⟨event, at_place, carries⟩ := Option.bind_eq_some_iff.mp mem
    have event_proper := proper.state state (Table.mem_values_of_get? found) event
      (Table.mem_values_of_get? at_place)
    have carried := event_proper.content
    unfold RoomStore.contentOf? at carries
    split at carries
    next key piece replaced told =>
      obtain rfl := Option.some.inj carries
      rw [told] at carried
      exact carried.1
    next => contradiction

theorem messageEvent (stamp : Stamp) (sender_proper : sender.IsProper)
    (room_proper : room.IsProper) (messageType body : String) :
    (messageEvent stamp sender room messageType body).IsProper where
  id := stamp.isProper_eventId sender_proper
  room := by
    rintro _ ⟨⟩
    exact room_proper
  sender := sender_proper
  content := trivial

theorem typingEvent (user_proper : user.IsProper) (room_proper : room.IsProper) (time : Timestamp)
    {users : List UserId} (users_proper : ∀ typist ∈ users, typist.IsProper) :
    (typingEvent room user time users).IsProper where
  id := isProper_typingEventId room_proper
  room := by
    rintro _ ⟨⟩
    exact room_proper
  sender := user_proper
  content := users_proper

theorem presenceEvent (user_proper : user.IsProper) (record : PresenceRecord) :
    (PresenceLog.event user record).IsProper where
  id := PresenceLog.isProper_eventId user_proper
  room := nofun
  sender := user_proper
  content := trivial

theorem typingAfter (proper : hub.IsProper) (user_proper : user.IsProper) (room : RoomId)
    (isTyping : Bool) : ∀ typist ∈ hub.typingAfter user room isTyping, typist.IsProper := by
  intro typist mem
  rw [Hub.typingAfter] at mem
  split at mem
  next =>
    rcases Ascending.mem_insert.mp mem with rfl | old
    · exact user_proper
    · exact proper.typing room typist old
  next => exact proper.typing room typist (Ascending.mem_erase.mp mem).1

/-! ### Single operations -/

theorem setMux (proper : hub.IsProper) (mux : Multiplexer) : (hub.setMux mux).IsProper :=
  { proper with }

theorem enter (proper : hub.IsProper) (room : RoomId) {event : Event}
    (event_proper : event.IsProper) : (hub.enter room event).IsProper :=
  { proper with
    postings := by
      intro posting mem
      rcases Timeline.eq_or_mem_of_mem_values_record mem with rfl | old
      · exact event_proper
      · exact proper.postings posting old }

theorem afterCreation (proper : hub.IsProper) (room : RoomId) :
    (hub.afterCreation room).IsProper :=
  { proper with
    state := by
      intro state mem
      rcases Table.eq_or_mem_of_mem_values_insert mem with rfl | old
      · exact fun _ mem => absurd mem List.not_mem_nil
      · exact proper.state state old }

theorem settled (proper : hub.IsProper) {state : RoomState}
    {target : Option (Membership × UserId)} (found : hub.rooms.rooms.get? room = some state)
    (event_proper : (RoomStore.stateEvent stamp room sender content key state).IsProper) :
    (hub.settled stamp sender room content key state target).IsProper :=
  { proper with
    state := by
      intro changed mem
      rcases Table.eq_or_mem_of_mem_values_insert mem with rfl | old
      · intro event mem
        rcases Table.eq_or_mem_of_mem_values_insert mem with rfl | old
        · exact event_proper
        · exact proper.state state (Table.mem_values_of_get? found) event old
      · exact proper.state changed old }

theorem setState (proper : hub.IsProper) (stamp : Stamp) (sender_proper : sender.IsProper)
    (room_proper : room.IsProper) (content_proper : content.IsProper) (key : String) :
    (hub.setState stamp sender room content key).2.IsProper := by
  obtain ⟨e, refused⟩ | ⟨state, target, found, -, set⟩ :=
    hub.setState_cases stamp sender room content key
  · rw [refused]
    exact proper
  · have event_proper : (RoomStore.stateEvent stamp room sender content key state).IsProper :=
      proper.stateEvent sender_proper room_proper content_proper found
    rw [set]
    exact (proper.settled found event_proper).enter room event_proper

theorem setTyping (proper : hub.IsProper) (now : Instant) (user_proper : user.IsProper)
    (room_proper : room.IsProper) (isTyping : Bool) :
    (hub.setTyping now user room isTyping).2.IsProper := by
  obtain ⟨e, refused⟩ | ⟨-, entered⟩ := hub.setTyping_cases now user room isTyping
  · rw [refused]
    exact proper
  rw [entered]
  exact
    { proper with
      signals := by
        intro recipient entry mem
        rcases Segments.eq_or_mem_of_mem_held_record mem with ⟨-, rfl⟩ | old
        · exact ⟨isProper_typingEventId room_proper, user_proper⟩
        · exact proper.signals recipient entry old
      typing := by
        intro other typist mem
        rw [mem_typingUsers_afterTyping_iff] at mem
        split at mem
        next mine => exact mine.1 ▸ user_proper
        next => exact proper.typing other typist mem }

theorem afterUpdate (proper : hub.IsProper) (time : Timestamp) (user_proper : user.IsProper)
    (change : Presence → Presence) : (hub.afterUpdate time user change).IsProper :=
  { proper with
    presence := by
      intro other record found
      by_cases same : user = other
      · exact same ▸ user_proper
      · rw [Hub.afterUpdate, Table.get?_insert_of_ne _ same] at found
        exact proper.presence other record found }

/-! ### All operations -/

/-- A proper operation keeps a hub proper. -/
theorem perform (proper : hub.IsProper) {operation : Operation}
    (operation_proper : operation.IsProper) : (hub.perform operation).IsProper := by
  -- What writes nothing replaces the multiplexer, which holds no identifier that is written.
  by_cases reading : operation.IsReading
  · obtain ⟨mux, changed⟩ := hub.perform_reading reading
    rw [changed]
    exact proper.setMux mux
  cases operation with
  | createRoom first second room creator =>
    obtain ⟨room_proper, creator_proper⟩ := operation_proper
    rw [Hub.perform]
    cases new : hub.rooms.hasRoom room with
    | true =>
      rw [createRoom_of_hasRoom new]
      exact proper
    | false =>
      -- The room is made empty, and then two pieces of state are set in it.
      rw [createRoom_eq new]
      have creation_proper : (StateContent.create creator).IsProper := creator_proper
      have joining_proper : (StateContent.member .join none).IsProper := trivial
      have created := (proper.afterCreation room).setState first creator_proper room_proper
        creation_proper ""
      exact created.setState second creator_proper room_proper joining_proper _
  | setState stamp sender room content key =>
    exact proper.setState stamp operation_proper.1 operation_proper.2.1 operation_proper.2.2 key
  | sendMessage stamp sender room messageType body =>
    rw [Hub.perform]
    obtain ⟨e, refused⟩ | ⟨-, sent⟩ := hub.sendMessage_cases stamp sender room messageType body
    · rw [refused]
      exact proper
    · rw [sent]
      exact proper.enter room
        (messageEvent stamp operation_proper.1 operation_proper.2 messageType body)
  | setTyping now user room isTyping =>
    exact proper.setTyping now operation_proper.1 operation_proper.2 isTyping
  | setAvailability now user availability statusMessage =>
    rw [Hub.perform, setAvailability_eq]
    have user_proper : user.IsProper := operation_proper
    exact proper.afterUpdate now.timestamp user_proper _
  | setProfile now user profile =>
    rw [Hub.perform, setProfile_eq]
    have user_proper : user.IsProper := operation_proper
    exact proper.afterUpdate now.timestamp user_proper _
  | _ => exact (reading trivial).elim

/-! ### What is given out -/

/-- What goes out when a piece of state is set is proper. -/
theorem of_stateDelivery? {delivery : Delivery} (proper : hub.IsProper)
    (sender_proper : sender.IsProper) (room_proper : room.IsProper)
    (content_proper : content.IsProper)
    (sent : hub.stateDelivery? stamp sender room content key = some delivery) :
    delivery.item.item.IsProper := by
  unfold stateDelivery? at sent
  split at sent
  next state target found named =>
    obtain rfl := Option.some.inj sent
    exact proper.stateEvent sender_proper room_proper content_proper found
  next => contradiction

/-- What goes out during a proper operation is proper. -/
theorem of_mem_deliveries {operation : Operation} {delivery : Delivery} (proper : hub.IsProper)
    (operation_proper : operation.IsProper) (sent : delivery ∈ hub.deliveries operation) :
    delivery.item.item.IsProper := by
  cases operation with
  | createRoom first second room creator =>
    obtain ⟨room_proper, creator_proper⟩ := operation_proper
    rw [deliveries] at sent
    split at sent
    next => contradiction
    next =>
      have creation_proper : (StateContent.create creator).IsProper := creator_proper
      have joining_proper : (StateContent.member .join none).IsProper := trivial
      have made := proper.afterCreation room
      have created := made.setState first creator_proper room_proper creation_proper ""
      rcases List.mem_append.mp sent with creation | joining
      · exact made.of_stateDelivery? creator_proper room_proper creation_proper
          (Option.mem_toList.mp creation)
      · exact created.of_stateDelivery? creator_proper room_proper joining_proper
          (Option.mem_toList.mp joining)
  | setState stamp sender room content key =>
    exact proper.of_stateDelivery? operation_proper.1 operation_proper.2.1 operation_proper.2.2
      (Option.mem_toList.mp sent)
  | sendMessage stamp sender room messageType body =>
    rw [deliveries] at sent
    split at sent
    next => contradiction
    next =>
      rw [List.mem_singleton.mp sent]
      exact messageEvent stamp operation_proper.1 operation_proper.2 messageType body
  | setTyping now user room isTyping =>
    rw [deliveries] at sent
    split at sent
    next => contradiction
    next =>
      rw [List.mem_singleton.mp sent]
      exact typingEvent operation_proper.1 operation_proper.2 now.timestamp
        (proper.typingAfter operation_proper.1 room isTyping)
  | setAvailability now user availability statusMessage =>
    have user_proper : user.IsProper := operation_proper
    rw [List.mem_singleton.mp sent]
    exact presenceEvent user_proper _
  | setProfile now user profile =>
    have user_proper : user.IsProper := operation_proper
    rw [List.mem_singleton.mp sent]
    exact presenceEvent user_proper _
  | _ => contradiction

end IsProper

/-- The events that a hub gives out: those that a reader has missed, those on the pages of a room,
the state of a room, and what goes out during an operation. -/
inductive Produces (hub : Hub) : Event → Prop where
  | event {clock : RoomId → Instant} {user : UserId} {since : Cursors} {response : SyncResponse}
    {item : Indexed Event} (collected : hub.collect clock user since = .ok response)
    (mem : item ∈ response.events) :
    hub.Produces item.item
  | typing {clock : RoomId → Instant} {user : UserId} {since : Cursors} {response : SyncResponse}
    {entry : Event} (collected : hub.collect clock user since = .ok response)
    (mem : entry ∈ response.typing) :
    hub.Produces entry
  | presence {clock : RoomId → Instant} {user : UserId} {since : Cursors} {response : SyncResponse}
    {item : Indexed Event} (collected : hub.collect clock user since = .ok response)
    (mem : item ∈ response.presence) :
    hub.Produces item.item
  | page {user : UserId} {room : RoomId} {start stop limit : Option Nat} {direction : Direction}
    {page : Page} {item : Indexed Event}
    (read : hub.page user room start stop direction limit = .ok page) (mem : item ∈ page.events) :
    hub.Produces item.item
  | state {room : RoomId} {events : List Event} {event : Event}
    (read : hub.rooms.allState room = .ok events) (mem : event ∈ events) : hub.Produces event
  | sent {operation : Operation} {delivery : Delivery} (proper : operation.IsProper)
    (mem : delivery ∈ hub.deliveries operation) : hub.Produces delivery.item.item

namespace IsProper

theorem of_mem_range {viewer : Option UserId} {rooms : List RoomId} {start stop limit : Nat}
    {item : Indexed Event} (proper : hub.IsProper)
    (mem : item ∈ hub.messages.range hub.messageCounter viewer rooms start stop limit) :
    item.item.IsProper := by
  obtain ⟨posting, held, same⟩ := Timeline.exists_posting_of_mem_range mem
  exact same ▸ proper.postings posting held

theorem of_mem_missedEvents {since : Nat} {item : Indexed Event} (proper : hub.IsProper)
    (mem : item ∈ hub.missedEvents user since) : item.item.IsProper := by
  rw [missedEvents] at mem
  split at mem
  next => exact proper.of_mem_range mem
  next => contradiction

theorem of_mem_missedTyping {since : Nat} {entry : Event} (proper : hub.IsProper)
    (mem : entry ∈ hub.missedTyping clock user since) : entry.IsProper := by
  -- The room is read from the envelope, and everything else was proper when it was noted.
  obtain ⟨index, envelope, room, -, -, held, parsed, rfl⟩ := mem_missedTyping_iff.mp mem
  obtain ⟨id_proper, sender_proper⟩ := proper.signals user.text _ held
  refine ⟨id_proper, ?_, sender_proper, proper.typing room⟩
  rintro _ ⟨⟩
  exact Id.isProper_of_parse? parsed

theorem of_mem_missedPresence {since : Nat} {item : Indexed Event} (proper : hub.IsProper)
    (mem : item ∈ hub.missedPresence user since) : item.item.IsProper := by
  obtain ⟨index, event⟩ := item
  obtain ⟨-, -, subject, -, record, found, rfl⟩ := PresenceLog.mem_range_iff.mp mem
  exact presenceEvent (proper.presence subject _ found) record

/-- What a proper hub gives out is proper. -/
theorem of_produces {event : Event} (proper : hub.IsProper) (produced : hub.Produces event) :
    event.IsProper := by
  cases produced with
  | event collected mem =>
    rw [(parts_of_collect collected).1] at mem
    exact proper.of_mem_missedEvents mem
  | typing collected mem =>
    rw [(parts_of_collect collected).2.1] at mem
    exact proper.of_mem_missedTyping mem
  | presence collected mem =>
    rw [(parts_of_collect collected).2.2] at mem
    exact proper.of_mem_missedPresence mem
  | page read mem =>
    rw [Hub.page] at read
    split at read
    next => contradiction
    next =>
      split at read
      next => contradiction
      next =>
        obtain rfl := Except.ok.inj read
        have visited := (List.mem_filter.mp mem).1
        split at visited
        next => exact proper.of_mem_range visited
        next => exact proper.of_mem_range visited
  | state read mem =>
    rw [RoomStore.allState] at read
    split at read
    next => contradiction
    next state found =>
      obtain rfl := Except.ok.inj read
      exact proper.state state (Table.mem_values_of_get? found) _ mem
  | sent operation_proper mem => exact proper.of_mem_deliveries operation_proper mem

end IsProper

/-- Proper operations keep a hub proper. -/
theorem isProper_run (config : Config) (sink : Option Sink) {operations : List Operation}
    (proper : ∀ operation ∈ operations, operation.IsProper) :
    ((ofConfig config sink).run operations).IsProper := by
  induction operations using List.reverseRecOn with
  | nil => exact isProper_ofConfig config sink
  | append_singleton front last ih =>
    rw [List.forall_mem_append, List.forall_mem_singleton] at proper
    rw [run_concat]
    exact (ih proper.1).perform proper.2

/-! ### Texts of events -/

/-- An event that has been read from a text is read back from its own text, and so is every event
that a hub gives out if all identifiers that are passed to the hub are read back. What is read back
has that text again. An event is also read from every text that differs from one of its texts by the
order of the members of objects, and by members that are unknown where they stand, as long as those
inside its content can be held. -/
theorem text_round_trip :
    (∀ text event, Event.ofText? text = some event → event.ReadsBack ∧
      ∀ value value' text', Json.ofText? text = some value →
        Relation.ReflTransGen event.Edit value value' → Json.ofText? text' = some value' →
        Event.ofText? text' = some event) ∧
    ∀ config sink operations, (∀ operation ∈ operations, Operation.IsProper operation) →
      ∀ event, ((ofConfig config sink).run operations).Produces event → event.ReadsBack := by
  refine ⟨fun text event read => ⟨(Event.isProper_of_ofText? read).readsBack, ?_⟩, ?_⟩
  · intro value value' text' values edits values'
    exact Event.ofText?_edits read values values' edits
  · intro config sink operations proper event produced
    exact ((isProper_run config sink proper).of_produces produced).readsBack

section Greeting

open Reader Event

/-- A member that is unknown in the content of the greeting. -/
def thread : Quoted × Json :=
  (some "thread", .array [.null, .object []])

/-- The greeting with a member added to its content, and with its own members in another order. -/
def rearranged : Json :=
  .object ((some "content", .object (thread :: greetingMembers)) :: greetingFront)

/-- A hub with one room. -/
def lobbyHub : Hub :=
  (ofConfig smallPages none).run [.createRoom (drawn 0) (drawn 1) lobby host]

/-- The rearranged greeting is read as the greeting, and what goes out when the host starts typing
is read back. -/
theorem text_round_trip_greeting :
    Event.ofText? rearranged.toText = some greeting ∧ greeting.ReadsBack ∧
      ∃ event, lobbyHub.Produces event ∧ event.content = .typing [host] ∧ event.ReadsBack := by
  obtain ⟨of_text, of_hub⟩ := text_round_trip
  have read : Event.ofText? greeting.toText = some greeting := by decide +kernel
  obtain ⟨reads_back, edited⟩ := of_text greeting.toText greeting read
  refine ⟨?_, reads_back, ?_⟩
  · have added : greeting.content.Edit (.object greetingMembers)
        (.object (thread :: greetingMembers)) := Json.Edit.add (by decide) rfl
    have widened : greeting.Edit
        (.object (greetingFront ++ [(some "content", .object greetingMembers)]))
        (.object (greetingFront ++ [(some "content", .object (thread :: greetingMembers))])) :=
      Json.Edit.field ⟨rfl, added⟩
    have reordered : greeting.Edit
        (.object (greetingFront ++ [(some "content", .object (thread :: greetingMembers))]))
        rearranged :=
      Json.Edit.reorder List.perm_append_comm
    exact edited greeting.toJson rearranged _ (Json.ofText?_toText _)
      (.tail (.single widened) reordered) (Json.ofText?_toText _)
  · have room_proper : lobby.IsProper := by decide +kernel
    have host_proper : host.IsProper := by decide +kernel
    have proper : ∀ operation ∈ [Operation.createRoom (drawn 0) (drawn 1) lobby host],
        operation.IsProper :=
      List.forall_mem_singleton.mpr ⟨room_proper, host_proper⟩
    have typing_proper : (Operation.setTyping epoch host lobby true).IsProper :=
      ⟨host_proper, room_proper⟩
    have allowed : lobbyHub.writeError? host lobby = none := by decide +kernel
    have sent : lobbyHub.typingDelivery epoch host lobby true ∈
        lobbyHub.deliveries (.setTyping epoch host lobby true) := by
      rw [deliveries, allowed]
      exact List.mem_singleton_self _
    have produced : lobbyHub.Produces (lobbyHub.typingDelivery epoch host lobby true).item.item :=
      .sent typing_proper sent
    exact ⟨_, produced, by decide +kernel, of_hub _ _ _ proper _ produced⟩

end Greeting

end Hub

end ChatFeed
