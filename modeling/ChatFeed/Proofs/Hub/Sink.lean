import ChatFeed.Hub.Pages
import ChatFeed.Proofs.Board.Sink
import ChatFeed.Proofs.Hub.Typists

/-!
# A hub and its sink

A hub passes its dispatcher through the timeline and the presence log and otherwise looks only at
its multiplexer. So what holds of those logs holds of the hub: whether there is a sink, and what it
answers, makes no difference to anything that is written, collected, waited for or given back. The
sink in turn is called once for each event and each change of presence that is entered, with what
listeners are handed, and for nothing else.

## Main definitions

* `Hub.silent`, `Hub.setSink`: a hub without its sink, and with another one
* `Hub.IgnoresSink`: what is done to a hub comes to the same without a sink
* `Hub.Outcome`, `Hub.outcomes`: what operations give
* `Hub.WriteOffers`, `Hub.RunOffers`: what a write, and a run, offers to the sink

## Main results

* `Hub.ignoresSink_step`, `Hub.outcomes_silent`: the sink has no say in anything
* `Hub.run_offers`: the sink is called once for each write that goes out, and for nothing else
* `Hub.sink_changes_nothing`: both, for boards and for hubs
-/

namespace ChatFeed

namespace Hub

/-- The hub without its sink. -/
def silent (hub : Hub) : Hub :=
  { hub with dispatcher := hub.dispatcher.silent }

/-- The hub with another sink, or with none. -/
def setSink (hub : Hub) (sink : Option Sink) : Hub :=
  { hub with dispatcher := { hub.dispatcher with sink } }

/-- Whether what is done to a hub gives the same without a sink, and leaves the same behind. -/
def IgnoresSink {α : Type} (action : Hub → α × Hub) : Prop :=
  ∀ hub, (action hub.silent).1 = (action hub).1 ∧
    (action hub.silent).2.silent = (action hub).2.silent

/-- What ignores the sink comes to the same for hubs that differ in nothing else. -/
theorem IgnoresSink.congr {α : Type} {action : Hub → α × Hub} (ignores : IgnoresSink action)
    {hub other : Hub} (same : hub.silent = other.silent) :
    (action hub).1 = (action other).1 ∧ (action hub).2.silent = (action other).2.silent := by
  obtain ⟨given, after⟩ := ignores hub
  obtain ⟨given_other, after_other⟩ := ignores other
  rw [← given, ← given_other, ← after, ← after_other, same]
  exact ⟨rfl, rfl⟩

/-! ### Writing -/

theorem ignoresSink_post (event : Event) : IgnoresSink (·.post event) := by
  intro hub
  obtain ⟨result, after⟩ := Timeline.send_silent hub.rooms.directory event
    ⟨hub.messages, hub.messageCounter, hub.dispatcher⟩
  -- The hub looks at nothing that the timeline gives back, and puts it in its place.
  have put_back := congrArg
    (fun feed : Feed Timeline =>
      { hub with
        messages := feed.log, messageCounter := feed.counter, dispatcher := feed.dispatcher })
    after
  exact ⟨congrArg (Except.mapError _) result, put_back⟩

theorem ignoresSink_setState (stamp : Stamp) (sender : UserId) (room : RoomId)
    (content : StateContent) (key : String) :
    IgnoresSink (·.setState stamp sender room content key) := by
  intro hub
  have same_rooms : hub.silent.rooms = hub.rooms := rfl
  simp only [setState, same_rooms]
  obtain ⟨result, rooms⟩ := hub.rooms.setState stamp room sender content key
  cases result with
  | error e => exact ⟨rfl, rfl⟩
  | ok event => exact ignoresSink_post event { hub with rooms }

theorem ignoresSink_createRoom (first second : Stamp) (room : RoomId) (creator : UserId) :
    IgnoresSink (·.createRoom first second room creator) := by
  intro hub
  have same_room : hub.silent.rooms.hasRoom room = hub.rooms.hasRoom room := rfl
  cases new : hub.rooms.hasRoom room with
  | true =>
    simp only [createRoom_of_hasRoom new, createRoom_of_hasRoom (same_room.trans new)]
    exact ⟨trivial, rfl⟩
  | false =>
    simp only [createRoom_of_new new, createRoom_of_new (same_room.trans new)]
    have made : (hub.silent.afterCreation room).silent = (hub.afterCreation room).silent := rfl
    obtain ⟨-, created⟩ := (ignoresSink_setState first creator room (.create creator) "").congr made
    obtain ⟨joined, after⟩ :=
      (ignoresSink_setState second creator room (.member .join none) creator.text).congr created
    exact ⟨congrArg (Except.map _) joined, after⟩

theorem ignoresSink_sendMessage (stamp : Stamp) (sender : UserId) (room : RoomId)
    (messageType body : String) :
    IgnoresSink (·.sendMessage stamp sender room messageType body) := by
  intro hub
  have same_standing : hub.silent.writeError? sender room = hub.writeError? sender room := rfl
  simp only [sendMessage, same_standing]
  cases hub.writeError? sender room with
  | some e => exact ⟨rfl, rfl⟩
  | none => exact ignoresSink_post (messageEvent stamp sender room messageType body) hub

theorem ignoresSink_setTyping (now : Instant) (user : UserId) (room : RoomId) (isTyping : Bool) :
    IgnoresSink (·.setTyping now user room isTyping) := by
  intro hub
  have same_standing : hub.silent.writeError? user room = hub.writeError? user room := rfl
  cases allowed : hub.writeError? user room with
  | some e =>
    simp only [setTyping, same_standing, allowed]
    exact ⟨trivial, rfl⟩
  | none =>
    simp only [setTyping_eq allowed, setTyping_eq (same_standing.trans allowed)]
    exact ⟨rfl, rfl⟩

theorem ignoresSink_update (time : Timestamp) (change : Presence → Presence) (user : UserId) :
    IgnoresSink fun hub => hub.updatePresence
      (PresenceLog.update hub.rooms.directory time user change) := by
  intro hub
  obtain ⟨result, after⟩ := PresenceLog.update_silent hub.rooms.directory time user change
    ⟨hub.presence, hub.presenceCounter, hub.dispatcher⟩
  have put_back := congrArg
    (fun feed : Feed PresenceLog =>
      { hub with
        presence := feed.log, presenceCounter := feed.counter, dispatcher := feed.dispatcher })
    after
  exact ⟨congrArg (fun result => (result.mapError HubError.log).map (·.index)) result, put_back⟩

theorem ignoresSink_setAvailability (now : Instant) (user : UserId) (availability : Availability)
    (statusMessage : Option String) :
    IgnoresSink (·.setAvailability now user availability statusMessage) :=
  ignoresSink_update now.timestamp
    (fun presence => { presence with availability, statusMessage }) user

theorem ignoresSink_setProfile (now : Instant) (user : UserId) (profile : Profile) :
    IgnoresSink (·.setProfile now user profile) :=
  ignoresSink_update now.timestamp
    (fun presence =>
      { presence with displayName := profile.displayName, avatarUrl := profile.avatarUrl })
    user

/-! ### Syncing -/

theorem ignoresSink_resume (clock : RoomId → Instant) (sync : PendingSync) :
    IgnoresSink (·.resume clock sync) := by
  intro hub
  have same_mux : hub.silent.dispatcher.mux = hub.dispatcher.mux := rfl
  have same_collection : hub.silent.collect clock sync.user sync.since =
      hub.collect clock sync.user sync.since := rfl
  simp only [resume, same_mux, same_collection]
  obtain ⟨found, mux⟩ := hub.dispatcher.mux.poll sync.ticket (some sync.timeout)
  rcases found with _ | _ | _ | _ <;> exact ⟨rfl, rfl⟩

theorem ignoresSink_sync (clock : RoomId → Instant) (user : UserId) (token : Option String)
    (timeout : Option Nat) : IgnoresSink (·.sync clock user token timeout) := by
  intro hub
  have same_start : hub.silent.since token = hub.since token := rfl
  simp only [sync, same_start]
  cases hub.since token with
  | error e => exact ⟨rfl, rfl⟩
  | ok since =>
    -- What has been missed is collected from the logs, whoever else listens.
    have listening (mux : Multiplexer) : (hub.silent.setMux mux).collect clock user since =
        (hub.setMux mux).collect clock user since := rfl
    have same_mux : hub.silent.dispatcher.mux = hub.dispatcher.mux := rfl
    have same_limits : hub.silent.limits = hub.limits := rfl
    simp only [listening, same_mux, same_limits]
    cases (hub.setMux (hub.dispatcher.mux.listen user shutdownSignal).2).collect clock user since
    with
    | error e => exact ⟨rfl, rfl⟩
    | ok response =>
      simp only
      split
      next => exact ⟨rfl, rfl⟩
      next =>
        exact ignoresSink_resume clock _
          (hub.setMux (hub.dispatcher.mux.listen user shutdownSignal).2)

/-! ### Operations -/

/-- What an operation gives. -/
inductive Outcome where
  | made (result : Except HubError Bool)
  | written (result : Except HubError Nat)
  | synced (result : Except HubError SyncProgress)
  | nothing

/-- What an operation gives, and the hub after it. -/
def step (hub : Hub) : Operation → Outcome × Hub
  | .createRoom first second room creator =>
    let (result, after) := hub.createRoom first second room creator
    (.made result, after)
  | .setState stamp sender room content key =>
    let (result, after) := hub.setState stamp sender room content key
    (.written result, after)
  | .sendMessage stamp sender room messageType body =>
    let (result, after) := hub.sendMessage stamp sender room messageType body
    (.written result, after)
  | .setTyping now user room isTyping =>
    let (result, after) := hub.setTyping now user room isTyping
    (.written result, after)
  | .setAvailability now user availability statusMessage =>
    let (result, after) := hub.setAvailability now user availability statusMessage
    (.written result, after)
  | .setProfile now user profile =>
    let (result, after) := hub.setProfile now user profile
    (.written result, after)
  | .sync clock user token timeout =>
    let (result, after) := hub.sync clock user token timeout
    (.synced result, after)
  | .resume clock sync =>
    let (result, after) := hub.resume clock sync
    (.synced result, after)
  | .abandon sync => (.nothing, hub.abandon sync)
  | .elapse span => (.nothing, hub.elapse span)
  | .shutDown => (.nothing, hub.shutDown)

theorem step_eq_perform (hub : Hub) (operation : Operation) :
    (hub.step operation).2 = hub.perform operation := by
  cases operation <;> rfl

/-- What a sequence of operations gives, in order. -/
def outcomes (hub : Hub) : List Operation → List Outcome
  | [] => []
  | operation :: rest => (hub.step operation).1 :: (hub.perform operation).outcomes rest

/-- Every operation ignores the sink. -/
theorem ignoresSink_step (operation : Operation) : IgnoresSink (·.step operation) := by
  intro hub
  cases operation with
  | createRoom first second room creator =>
    exact (ignoresSink_createRoom first second room creator hub).imp_left (congrArg Outcome.made)
  | setState stamp sender room content key =>
    exact (ignoresSink_setState stamp sender room content key hub).imp_left
      (congrArg Outcome.written)
  | sendMessage stamp sender room messageType body =>
    exact (ignoresSink_sendMessage stamp sender room messageType body hub).imp_left
      (congrArg Outcome.written)
  | setTyping now user room isTyping =>
    exact (ignoresSink_setTyping now user room isTyping hub).imp_left (congrArg Outcome.written)
  | setAvailability now user availability statusMessage =>
    exact (ignoresSink_setAvailability now user availability statusMessage hub).imp_left
      (congrArg Outcome.written)
  | setProfile now user profile =>
    exact (ignoresSink_setProfile now user profile hub).imp_left (congrArg Outcome.written)
  | sync clock user token timeout =>
    exact (ignoresSink_sync clock user token timeout hub).imp_left (congrArg Outcome.synced)
  | resume clock sync =>
    exact (ignoresSink_resume clock sync hub).imp_left (congrArg Outcome.synced)
  | abandon sync => exact ⟨rfl, rfl⟩
  | elapse span => exact ⟨rfl, rfl⟩
  | shutDown => exact ⟨rfl, rfl⟩

/-- Hubs that are the same without their sinks give the same and remain the same. -/
theorem outcomes_silent {hub other : Hub} (same : hub.silent = other.silent)
    (operations : List Operation) :
    hub.outcomes operations = other.outcomes operations ∧
      (hub.run operations).silent = (other.run operations).silent := by
  induction operations generalizing hub other with
  | nil => exact ⟨rfl, same⟩
  | cons operation rest ih =>
    obtain ⟨outcome, after⟩ := (ignoresSink_step operation).congr same
    simp only [step_eq_perform] at after
    obtain ⟨later, at_the_end⟩ := ih after
    rw [outcomes, outcomes, later]
    exact ⟨congrArg (· :: _) outcome, at_the_end⟩

/-- Hubs that are the same without their sinks have the same pages. -/
theorem page_silent {hub other : Hub} (same : hub.silent = other.silent) :
    hub.page = other.page := by
  change hub.silent.page = other.silent.page
  rw [same]

/-! ### What the sink is told -/

/-- Whether a hub has an item as what was written: the event at its index in the timeline, who is
typing in the room now, or the record of the user. -/
def Write.IsKept (write : Write) (item : Indexed Event) (hub : Hub) : Prop :=
  match write with
  | .state _ _ _ _ _ | .message _ _ _ _ _ => hub.eventAt? item.index = some item.item
  | .typing now user room _ =>
    item.item = typingEvent room user now.timestamp (hub.typingUsers room)
  | .availability _ user _ _ | .profile _ user _ =>
    ∃ record, hub.presence.records.get? user = some ⟨item.index, record⟩ ∧
      item.item = PresenceLog.event user record

/-- Whether `calls` are what a write offers to the sink: the item that it has written at the index
that it gives, as it is handed to listeners too, unless it is about typing. A write that fails
changes nothing. -/
def WriteOffers (hub : Hub) (write : Write) (calls : List Delivery) : Prop :=
  match (hub.write write).1 with
  | .ok index => ∃ delivery, calls = (if write.isOffered then [delivery] else []) ∧
      delivery.item.index = index ∧ write.IsKept delivery.item (hub.write write).2 ∧
      hub.HandsOut write delivery
  | .error _ => calls = [] ∧ (hub.write write).2 = hub

/-- A write that succeeds hands out what it has written, with its index. -/
theorem write_hands_out (hub : Hub) (write : Write) :
    (∃ e, hub.write write = (.error e, hub)) ∨
      ∃ delivery, hub.HandsOut write delivery ∧ (hub.write write).1 = .ok delivery.item.index ∧
        write.IsKept delivery.item (hub.write write).2 := by
  cases write with
  | state stamp sender room content key =>
    obtain ⟨e, refused⟩ | ⟨state, target, found, named, set⟩ :=
      hub.setState_cases stamp sender room content key
    · exact .inl ⟨e, refused⟩
    · rw [Hub.write, set]
      exact .inr ⟨_, handsOut_state found named stamp sender, rfl, eventAt?_enter _ room _⟩
  | message stamp sender room messageType body =>
    obtain ⟨e, refused⟩ | ⟨allowed, sent⟩ :=
      hub.sendMessage_cases stamp sender room messageType body
    · exact .inl ⟨e, refused⟩
    · rw [Hub.write, sent]
      exact .inr ⟨_, handsOut_message allowed stamp messageType body, rfl, eventAt?_enter _ room _⟩
  | typing now user room isTyping =>
    obtain ⟨e, refused⟩ | ⟨allowed, signalled⟩ := hub.setTyping_cases now user room isTyping
    · exact .inl ⟨e, refused⟩
    · rw [Hub.write, signalled]
      refine .inr ⟨_, handsOut_typing allowed now isTyping, rfl, ?_⟩
      rw [Write.IsKept, typingUsers_afterTyping]
      rfl
  | availability now user status statusMessage =>
    have updates (hub : Hub) := hub.setAvailability_eq now user status statusMessage
    rw [Hub.write, updates]
    exact .inr ⟨_, handsOut_presence updates rfl, rfl, _, Table.get?_insert_self _ _ _, rfl⟩
  | profile now user shown =>
    have updates (hub : Hub) := hub.setProfile_eq now user shown
    rw [Hub.write, updates]
    exact .inr ⟨_, handsOut_presence updates rfl, rfl, _, Table.get?_insert_self _ _ _, rfl⟩

/-- No change replaces the sink. -/
theorem Change.sink {hub later : Hub} (change : hub.Change later) :
    later.dispatcher.sink = hub.dispatcher.sink := by
  have entered (hub : Hub) (room : RoomId) (event : Event) :
      (hub.enter room event).dispatcher.sink = hub.dispatcher.sink :=
    (Dispatcher.sink_dispatch _ _ _).trans (Timeline.noteTarget_eq _ _).1
  cases change with
  | mux mux => rfl
  | creation room new => rfl
  | state stamp sender room content key state target found named => exact entered _ room _
  | message stamp sender room messageType body allowed => exact entered _ room _
  | typing now user room isTyping allowed => rfl
  | presence time user change => exact Dispatcher.sink_dispatch _ _ _

theorem sink_perform (hub : Hub) (operation : Operation) :
    (hub.perform operation).dispatcher.sink = hub.dispatcher.sink :=
  (hub.changes_perform operation).preserve (fun _ _ change => change.sink.trans) rfl

/-- The sink is called with what a write offers. -/
theorem write_offers (hub : Hub) (write : Write) :
    ∃ calls, hub.WriteOffers write calls ∧
      hub.dispatcher.HasCalled (hub.write write).2.dispatcher calls := by
  unfold WriteOffers
  obtain ⟨e, failed⟩ | ⟨delivery, hands, index, kept⟩ := hub.write_hands_out write
  · rw [failed]
    exact ⟨[], ⟨rfl, rfl⟩, .of_same rfl rfl⟩
  · rw [index]
    have sink : (hub.write write).2.dispatcher.sink = hub.dispatcher.sink := by
      rw [write_eq_perform]
      exact hub.sink_perform _
    exact ⟨_, ⟨delivery, rfl, rfl, kept, hands⟩, (hands hub.dispatcher).hasCalled sink⟩

/-- The write that tells who has made a room. -/
def creation (stamp : Stamp) (room : RoomId) (creator : UserId) : Write :=
  .state stamp creator room (.create creator) ""

/-- The write that makes them its first member. -/
def firstJoin (stamp : Stamp) (room : RoomId) (creator : UserId) : Write :=
  .state stamp creator room (.member .join none) creator.text

/-- Whether `calls` are what an operation offers to the sink. A room that is new comes to two
writes; what is no write offers nothing. -/
def Offers (hub : Hub) (operation : Operation) (calls : List Delivery) : Prop :=
  match operation with
  | .createRoom first second room creator =>
    if hub.rooms.hasRoom room then calls = []
    else
      ∃ created joined, calls = created ++ joined ∧
        (hub.afterCreation room).WriteOffers (creation first room creator) created ∧
        ((hub.afterCreation room).write (creation first room creator)).2.WriteOffers
          (firstJoin second room creator) joined
  | .setState stamp sender room content key =>
    hub.WriteOffers (.state stamp sender room content key) calls
  | .sendMessage stamp sender room messageType body =>
    hub.WriteOffers (.message stamp sender room messageType body) calls
  | .setTyping now user room isTyping => hub.WriteOffers (.typing now user room isTyping) calls
  | .setAvailability now user availability statusMessage =>
    hub.WriteOffers (.availability now user availability statusMessage) calls
  | .setProfile now user profile => hub.WriteOffers (.profile now user profile) calls
  | _ => calls = []

/-- Whether `calls` are, in order, what the operations of a run offer to the sink. -/
def RunOffers (hub : Hub) : List Operation → List Delivery → Prop
  | [], calls => calls = []
  | operation :: rest, calls => ∃ first others, calls = first ++ others ∧
      hub.Offers operation first ∧ (hub.perform operation).RunOffers rest others

theorem createRoom_offers (hub : Hub) (first second : Stamp) (room : RoomId) (creator : UserId) :
    ∃ calls, hub.Offers (.createRoom first second room creator) calls ∧
      hub.dispatcher.HasCalled (hub.createRoom first second room creator).2.dispatcher calls := by
  cases new : hub.rooms.hasRoom room with
  | true =>
    refine ⟨[], ?_, ?_⟩
    · rw [Offers, if_pos new]
    · rw [createRoom_of_hasRoom new]
      exact .of_same rfl rfl
  | false =>
    obtain ⟨created, made, called⟩ :=
      (hub.afterCreation room).write_offers (creation first room creator)
    obtain ⟨joined, entered, called_again⟩ :=
      ((hub.afterCreation room).write (creation first room creator)).2.write_offers
        (firstJoin second room creator)
    refine ⟨created ++ joined, ?_, ?_⟩
    · rw [Offers, if_neg (Bool.eq_false_iff.mp new)]
      exact ⟨created, joined, rfl, made, entered⟩
    · rw [createRoom_eq new]
      exact called.trans called_again

theorem perform_offers (hub : Hub) (operation : Operation) :
    ∃ calls, hub.Offers operation calls ∧
      hub.dispatcher.HasCalled (hub.perform operation).dispatcher calls := by
  by_cases reading : operation.IsReading
  · obtain ⟨mux, changed⟩ := hub.perform_reading reading
    rw [changed]
    refine ⟨[], ?_, .of_same rfl rfl⟩
    cases operation <;> first | rfl | exact reading.elim
  cases operation with
  | createRoom first second room creator => exact hub.createRoom_offers first second room creator
  | setState stamp sender room content key =>
    exact hub.write_offers (.state stamp sender room content key)
  | sendMessage stamp sender room messageType body =>
    exact hub.write_offers (.message stamp sender room messageType body)
  | setTyping now user room isTyping => exact hub.write_offers (.typing now user room isTyping)
  | setAvailability now user availability statusMessage =>
    exact hub.write_offers (.availability now user availability statusMessage)
  | setProfile now user profile => exact hub.write_offers (.profile now user profile)
  | _ => exact (reading trivial).elim

/-- All that the sink is told in a run is what is offered to it. -/
theorem run_offers (hub : Hub) (operations : List Operation) :
    ∃ calls, hub.RunOffers operations calls ∧
      hub.dispatcher.HasCalled (hub.run operations).dispatcher calls := by
  induction operations generalizing hub with
  | nil => exact ⟨[], rfl, .of_same rfl rfl⟩
  | cons operation rest ih =>
    obtain ⟨first, offered, called⟩ := hub.perform_offers operation
    obtain ⟨others, offered_later, called_later⟩ := ih (hub.perform operation)
    exact ⟨first ++ others, ⟨first, others, rfl, offered, offered_later⟩,
      called.trans called_later⟩

/-! ### Both together -/

/-- Boards and hubs that differ in their sinks alone give the same and remain the same, to every
reader of what they hold, whatever is done to them. And a sink is told of each write to a timeline
or a presence log that succeeds, once, with the same as the listeners, and of nothing else. -/
theorem sink_changes_nothing :
    (∀ (board : Board) (sink other : Option Sink) (operations : List Board.Operation),
      ((board.setSink sink).run operations).1 = ((board.setSink other).run operations).1 ∧
        ((board.setSink sink).run operations).2.silent =
          ((board.setSink other).run operations).2.silent) ∧
    (∀ (board : Board) (operations : List Board.Operation),
      ∃ calls, board.RunOffers operations calls ∧
        board.dispatcher.HasCalled (board.run operations).2.dispatcher calls) ∧
    (∀ (hub : Hub) (sink other : Option Sink) (operations : List Operation),
      (hub.setSink sink).outcomes operations = (hub.setSink other).outcomes operations ∧
        ((hub.setSink sink).run operations).silent = ((hub.setSink other).run operations).silent ∧
        ((hub.setSink sink).run operations).page = ((hub.setSink other).run operations).page) ∧
    ∀ (hub : Hub) (operations : List Operation),
      ∃ calls, hub.RunOffers operations calls ∧
        hub.dispatcher.HasCalled (hub.run operations).dispatcher calls := by
  refine ⟨?_, Board.run_offers, ?_, run_offers⟩
  · intro board sink other operations
    have same : (board.setSink sink).silent = (board.setSink other).silent := rfl
    exact Board.run_silent same operations
  · intro hub sink other operations
    have same : (hub.setSink sink).silent = (hub.setSink other).silent := rfl
    obtain ⟨outcomes, after⟩ := outcomes_silent same operations
    exact ⟨outcomes, after, page_silent after⟩

/-- A sink that refuses everything is told of all three events all the same. -/
example :
    let hub := (ofConfig Reader.smallPages (some (.refusing "down"))).run gathering
    hub.dispatcher.calls.map (·.item.index) = [0, 1, 2] ∧ hub.messageCounter.current = 3 := by
  decide +kernel

end Hub

end ChatFeed
