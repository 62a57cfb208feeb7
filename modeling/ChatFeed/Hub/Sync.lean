import ChatFeed.Hub.Basic
import ChatFeed.Token.Parser
import ChatFeed.Token.Printer

/-!
# Syncing

A reader syncs to get what they have missed, and the token from which to go on.
If they have missed nothing, the sync waits until something is sent to them.

A sync registers a listener before it looks for what was missed, so that nothing
written in between is lost. When the listener has been handed an event, the logs
are read again from the same position. When the wait ends otherwise, the sync
gives what it found at first, which is nothing, and a token from which
everything since is still ahead.

## Main definitions

* `Hub.collect`: what a reader has missed
* `Hub.sync`, `Hub.resume`, `Hub.abandon`: starting, continuing and giving up a sync
-/

namespace ChatFeed

/-- Positions in the three logs of a hub. -/
structure Cursors where
  messages : Nat := 0
  signals : Nat := 0
  presence : Nat := 0
deriving DecidableEq, Repr

/-- What a reader has missed. -/
structure SyncResponse where
  /-- Events of the timeline, by ascending index. -/
  events : List (Indexed Event)
  /-- Who is typing, for every room where that has changed. -/
  typing : List Event
  /-- Changed presence records, by ascending index. -/
  presence : List (Indexed Event)
  /-- The token from which to go on. -/
  nextBatch : String
deriving DecidableEq

/-- Whether nothing was missed. -/
def SyncResponse.isEmpty (response : SyncResponse) : Bool :=
  response.events.isEmpty && response.typing.isEmpty && response.presence.isEmpty

/-- A sync that waits. -/
structure PendingSync where
  ticket : Ticket
  user : UserId
  since : Cursors
  timeout : Nat
  /-- What the reader had missed when the sync started. -/
  first : SyncResponse
deriving DecidableEq

/-- How far a sync has come. -/
inductive SyncProgress where
  | done (response : SyncResponse)
  | waiting (sync : PendingSync)
deriving DecidableEq

namespace Hub

/-- The positions in a token that are for this shard. Those not given are at the start. -/
def cursors (hub : Hub) (token : StreamToken) : Cursors :=
  let rooms := token.roomTuple? hub.shard
  let users := token.userTuple? hub.shard
  { messages := (rooms.map (·.event)).getD 0
    signals := (rooms.map (·.signal)).getD 0
    presence := (users.map (·.event)).getD 0 }

/-! ### Collecting -/

/-- The page of the timeline that a reader gets. -/
def missedEvents (hub : Hub) (user : UserId) (since : Nat) : List (Indexed Event) :=
  if since < hub.messageCounter.current then
    hub.messages.range hub.messageCounter (some user) (hub.rooms.members.rooms user) since
      hub.messageCounter.current (hub.limits.limit none)
  else []

/-- The timeline position after a page: right after a full page, and otherwise the end of the
timeline, unless the reader was past it. -/
def nextMessage (hub : Hub) (since : Nat) (events : List (Indexed Event)) : Nat :=
  match events.getLast? with
  | some last =>
    if events.length = hub.limits.limit none then last.index + 1
    else max hub.messageCounter.current since
  | none => max hub.messageCounter.current since

/-- Who is typing now in the rooms whose signals a reader has missed. The clock is read for each
room on its own. -/
def missedTyping (hub : Hub) (clock : RoomId → Instant) (user : UserId) (since : Nat) :
    List Event :=
  (hub.signals.range user.text since hub.signalCounter.current).1.filterMap fun envelope =>
    (Id.parse? .room envelope.context).map fun room =>
      { id := envelope.id
        room := some room
        sender := envelope.sender
        time := (clock room).timestamp
        content := .typing (hub.typingUsers room) }

/-- The presence records of a reader's peers that have changed. -/
def missedPresence (hub : Hub) (user : UserId) (since : Nat) : List (Indexed Event) :=
  hub.presence.range (hub.rooms.members.peers user) since hub.presenceCounter.current

/-- The token that stands for positions in this shard. -/
def token (hub : Hub) (cursors : Cursors) : StreamToken where
  rooms := [⟨hub.shard, cursors.messages, cursors.signals⟩]
  users := [⟨hub.shard, cursors.presence, 0⟩]

/-- What `user` has missed since the given positions. -/
def collect (hub : Hub) (clock : RoomId → Instant) (user : UserId) (since : Cursors) :
    Except HubError SyncResponse :=
  let events := hub.missedEvents user since.messages
  let next : Cursors :=
    { messages := hub.nextMessage since.messages events
      signals := max hub.signalCounter.current since.signals
      presence := max hub.presenceCounter.current since.presence }
  match (hub.token next).encode with
  | .error e => .error (.noToken e)
  | .ok nextBatch =>
    .ok
      { events := events
        typing := hub.missedTyping clock user since.signals
        presence := hub.missedPresence user since.presence
        nextBatch := nextBatch }

/-! ### Waiting -/

/-- Looks whether a waiting sync is done. -/
def resume (hub : Hub) (clock : RoomId → Instant) (sync : PendingSync) :
    Except HubError SyncProgress × Hub :=
  match hub.dispatcher.mux.poll sync.ticket (some sync.timeout) with
  | (some .pending, mux) => (.ok (.waiting sync), hub.setMux mux)
  | (some (.delivered _), mux) =>
    ((hub.collect clock sync.user sync.since).map .done, hub.setMux mux)
  | (_, mux) => (.ok (.done sync.first), hub.setMux mux)

/-- Gives up a waiting sync. -/
def abandon (hub : Hub) (sync : PendingSync) : Hub :=
  hub.setMux (hub.dispatcher.mux.drop sync.ticket)

/-- The positions from which a sync starts: those in its token, or without one the start. -/
def since (hub : Hub) : Option String → Except HubError Cursors
  | none => .ok {}
  | some text => ((StreamToken.parse text).mapError .badToken).map hub.cursors

/-- Starts a sync of `user`. It waits only if there is nothing to give, the time to wait is not
zero, and the hub has not been shut down. -/
def sync (hub : Hub) (clock : RoomId → Instant) (user : UserId) (token : Option String)
    (timeout : Option Nat) : Except HubError SyncProgress × Hub :=
  match hub.since token with
  | .error e => (.error e, hub)
  | .ok since =>
    let timeout := hub.limits.timeout timeout
    let (ticket, mux) := hub.dispatcher.mux.listen user shutdownSignal
    let listening := hub.setMux mux
    match listening.collect clock user since with
    | .error e => (.error e, listening.setMux (mux.drop ticket))
    | .ok response =>
      if !response.isEmpty || timeout = 0 || mux.hasFired shutdownSignal then
        (.ok (.done response), listening.setMux (mux.drop ticket))
      else listening.resume clock ⟨ticket, user, since, timeout, response⟩

end Hub

end ChatFeed
