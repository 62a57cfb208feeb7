import ChatFeed.Proofs.Hub.Waiting

/-!
# A reader's chain of syncs

A reader syncs again and again, each time from where the last response left off, while
anything else may be done to the hub, also while a sync waits. Each response then
shows one stretch of the timeline, as the hub is when it is collected, and the next
response begins where that stretch ends. Nothing is left out and nothing comes twice.

The reader's position is what carries this from one response to the next: it only
moves forward, and all that has been received lies before it.

## Main definitions

* `Reader`, `Move`, `Reader.run`: a reader, and what can happen while they read
* `Exchange`: a token with the response to it and the moment at which that was collected
* `Reader.Tracks`: the reader has received just what lies before their position

## Main results

* `Reader.Tracks.step`: whatever happens, this remains so
* `Reader.sync_chain_exact`: what a reader receives along a chain of syncs
-/

namespace ChatFeed

/-- The timeline position in a token: the one given for `shard`, or else the start of the timeline.
What is no token gives no position. -/
def StreamToken.position? (shard : ShardId) : Option String → Option Nat
  | none => some 0
  | some text =>
    match parse text with
    | .error _ => none
    | .ok token => some (((token.roomTuple? shard).map (·.event)).getD 0)

/-- A sync that has come to its end. -/
structure Exchange where
  /-- The token that was passed, if any. -/
  since : Option String
  response : SyncResponse
  /-- The moment at which what was given in response was collected. -/
  collected : Moment

/-- Whether the response is what was collected, and shows the timeline between the position in the
token that was passed and the one in the token that was received. -/
def Exchange.IsExact (exchange : Exchange) (shard : ShardId) (user : UserId) : Prop :=
  (∃ since, exchange.collected.hub.since exchange.since = .ok since ∧
    exchange.collected.collect user since = .ok exchange.response) ∧
  ∃ start stop, StreamToken.position? shard exchange.since = some start ∧
    StreamToken.position? shard (some exchange.response.nextBatch) = some stop ∧
    start ≤ stop ∧ exchange.collected.hub.Shows user start stop exchange.response.events

/-- A reader who syncs in a chain, and the hub they read from. -/
structure Reader where
  hub : Hub
  /-- The token that is passed next: the last that was received. -/
  token : Option String
  /-- The sync that waits, with the moment at which it was started. -/
  waiting : Option (PendingSync × Moment) := none
  /-- The syncs that have come to their end, oldest first. -/
  received : List Exchange := []
  failures : List HubError := []

/-- What can happen while a reader reads: anything that others do, and the reader's own steps. -/
inductive Move where
  | other (operation : Hub.Operation)
  | sync (clock : RoomId → Instant) (timeout : Option Nat)
  | poll (clock : RoomId → Instant)
  | abandon

namespace Reader

/-- Takes note of how far a sync has come. -/
def note (reader : Reader) (start collected : Moment) : Except HubError SyncProgress × Hub → Reader
  | (.error e, hub) =>
    { reader with hub, waiting := none, failures := reader.failures ++ [e] }
  | (.ok (.waiting sync), hub) => { reader with hub, waiting := some (sync, start) }
  | (.ok (.done response), hub) =>
    { reader with
      hub
      token := some response.nextBatch
      waiting := none
      received := reader.received ++ [⟨reader.token, response, collected⟩] }

/-- The reader after a move of `user`. They have at most one sync under way. -/
def step (user : UserId) (reader : Reader) : Move → Reader
  | .other operation => { reader with hub := reader.hub.perform operation }
  | .sync clock timeout =>
    match reader.waiting with
    | some _ => reader
    | none =>
      reader.note ⟨reader.hub, clock⟩ ⟨reader.hub, clock⟩
        (reader.hub.sync clock user reader.token timeout)
  | .poll clock =>
    match reader.waiting with
    | some (sync, start) =>
      reader.note start (Moment.collectedAt ⟨reader.hub, clock⟩ start sync)
        (reader.hub.resume clock sync)
    | none => reader
  | .abandon =>
    match reader.waiting with
    | some (sync, _) => { reader with hub := reader.hub.abandon sync, waiting := none }
    | none => reader

/-- The reader after a schedule. -/
def run (user : UserId) (reader : Reader) (schedule : List Move) : Reader :=
  schedule.foldl (step user) reader

/-- The events that a reader has received, in the order in which they came. -/
def events (reader : Reader) : List (Indexed Event) :=
  reader.received.flatMap (·.response.events)

end Reader

/-! ### Positions -/

/-- The shard of a configuration that has been accepted fits a token. -/
theorem Config.shard_lt_of_validate (config : Config) (accepted : config.validate = .ok config) :
    config.shard.value < 64 ^ 2 := by
  unfold validate at accepted
  split at accepted
  next => contradiction
  next in_range =>
    rw [not_or, Nat.not_lt] at in_range
    exact Nat.lt_of_le_of_lt in_range.2 (by decide)

namespace Hub

variable {hub later : Hub} {since : Cursors} {token : Option String} {shard : ShardId}

/-- Positions are read from a token for the shard. -/
theorem since_eq_of_shard (same : later.shard = hub.shard) (token : Option String) :
    later.since token = hub.since token := by
  cases token with
  | none => rfl
  | some text =>
    have same_cursors : later.cursors = hub.cursors := by
      funext token
      rw [cursors, cursors, same]
    rw [Hub.since, Hub.since, same_cursors]

/-- Positions are read from every token that can be parsed. -/
theorem exists_since (hub : Hub)
    (readable : ∀ text ∈ token, ∃ parsed, StreamToken.parse text = .ok parsed) :
    ∃ since, hub.since token = .ok since := by
  cases token with
  | none => exact ⟨_, rfl⟩
  | some text =>
    obtain ⟨parsed, read⟩ := readable text rfl
    rw [Hub.since, read]
    exact ⟨_, rfl⟩

theorem position?_of_since (read : hub.since token = .ok since) :
    StreamToken.position? hub.shard token = some since.messages := by
  cases token with
  | none =>
    obtain rfl := Except.ok.inj read
    rfl
  | some text =>
    rw [Hub.since, map_eq_ok_iff] at read
    obtain ⟨token, parsed, rfl⟩ := read
    rw [mapError_eq_ok_iff] at parsed
    rw [StreamToken.position?, parsed]
    rfl

/-- Whether no counter of a hub has come to `bound`. -/
structure CountersBelow (hub : Hub) (bound : Nat) : Prop where
  messages : hub.messageCounter.current < bound
  signals : hub.signalCounter.current < bound
  presence : hub.presenceCounter.current < bound

theorem countersBelow_iff {bound : Nat} : hub.CountersBelow bound ↔
    hub.messageCounter.current < bound ∧ hub.signalCounter.current < bound ∧
      hub.presenceCounter.current < bound :=
  ⟨fun below => ⟨below.messages, below.signals, below.presence⟩,
    fun ⟨messages, signals, presence⟩ => ⟨messages, signals, presence⟩⟩

instance (hub : Hub) (bound : Nat) : Decidable (hub.CountersBelow bound) :=
  decidable_of_iff _ countersBelow_iff.symm

/-- A hub whose configuration has been accepted fits a token as long as its counters do. -/
theorem CountersBelow.fits {config : Config} (bounded : hub.CountersBelow (2 ^ 48))
    (accepted : config.validate = .ok config) (shard : hub.shard = config.shard) : hub.Fits where
  shard := by
    rw [shard]
    exact config.shard_lt_of_validate accepted
  messages := bounded.messages
  signals := bounded.signals
  presence := bounded.presence

/-- A hub from which a reader can go on. -/
structure IsReady (hub : Hub) (shard : ShardId) : Prop where
  sound : hub.IsSound
  shard : hub.shard = shard
  paged : 0 < hub.limits.limit none

theorem IsReady.grows (ready : hub.IsReady shard) (grows : hub.Grows later) :
    later.IsReady shard where
  sound := grows.sound ready.sound
  shard := grows.shard.trans ready.shard
  paged := by
    rw [grows.limits]
    exact ready.paged

end Hub

/-- Whether a sync of `user` that waits was started at this moment with `token`. -/
structure Moment.HasStarted (start : Moment) (sync : PendingSync) (shard : ShardId) (user : UserId)
    (token : Option String) : Prop where
  ready : start.hub.IsReady shard
  mine : sync.user = user
  since : start.hub.since token = .ok sync.since
  first : start.collect sync.user sync.since = .ok sync.first

namespace Reader

variable {user : UserId} {first : Option String} {shard : ShardId} {reader : Reader} {hub : Hub}
  {since : Cursors}

theorem hub_note (start collected : Moment) (outcome : Except HubError SyncProgress × Hub) :
    (reader.note start collected outcome).hub = outcome.2 := by
  unfold note
  split <;> rfl

theorem grows_step (user : UserId) (reader : Reader) (move : Move) :
    reader.hub.Grows (reader.step user move).hub := by
  cases move with
  | other operation => exact reader.hub.grows_perform operation
  | sync clock timeout =>
    rw [step]
    split
    next => exact .refl _
    next =>
      rw [hub_note]
      exact reader.hub.grows_perform (.sync clock user reader.token timeout)
  | poll clock =>
    rw [step]
    split
    next sync start _ =>
      rw [hub_note]
      exact reader.hub.grows_perform (.resume clock sync)
    next => exact .refl _
  | abandon =>
    rw [step]
    split
    next sync _ _ => exact reader.hub.grows_perform (.abandon sync)
    next => exact .refl _

theorem grows_run (user : UserId) (reader : Reader) (schedule : List Move) :
    reader.hub.Grows (reader.run user schedule).hub := by
  induction schedule generalizing reader with
  | nil => exact .refl _
  | cons move rest ih => exact (grows_step user reader move).trans (ih (reader.step user move))

/-! ### The position of a reader -/

/-- Whether a reader of `shard` has received, since the token `first`, just what lies before their
position, and a sync that waits has been started from there. -/
structure Tracks (reader : Reader) (user : UserId) (first : Option String) (shard : ShardId) :
    Prop where
  ready : reader.hub.IsReady shard
  /-- The token passed next can be read. -/
  readable : ∃ since, reader.hub.since reader.token = .ok since
  waiting : ∀ sync start, reader.waiting = some (sync, start) →
    start.HasStarted sync shard user reader.token
  unfailed : reader.failures = []
  /-- What is passed is what was received before, from the first token on. -/
  chained : reader.received.map (·.since) ++ [reader.token] =
    first :: reader.received.map fun exchange => some exchange.response.nextBatch
  exact : ∀ exchange ∈ reader.received, exchange.IsExact shard user
  ascending : reader.events.Pairwise (·.index < ·.index)
  below : ∀ since, reader.hub.since reader.token = .ok since →
    ∀ event ∈ reader.events, event.index < since.messages

namespace Tracks

/-- Nothing that happens to the hub gets in the way of the reader. -/
theorem grows (tracks : reader.Tracks user first shard) (grows : reader.hub.Grows hub)
    (waiting : Option (PendingSync × Moment))
    (started : ∀ sync start, waiting = some (sync, start) →
      start.HasStarted sync shard user reader.token) :
    ({ reader with hub, waiting } : Reader).Tracks user first shard := by
  have same_since := Hub.since_eq_of_shard grows.shard reader.token
  constructor
  case ready => exact tracks.ready.grows grows
  case unfailed => exact tracks.unfailed
  case chained => exact tracks.chained
  case exact => exact tracks.exact
  case ascending => exact tracks.ascending
  case waiting => exact started
  case readable =>
    obtain ⟨since, read⟩ := tracks.readable
    exact ⟨since, same_since.trans read⟩
  case below =>
    intro since read
    exact tracks.below since (same_since.symm.trans read)

/-- A response goes on where the last one left off. -/
theorem receive {start collected : Moment} {response : SyncResponse}
    (tracks : reader.Tracks user first shard) (grows : reader.hub.Grows hub)
    (collected_ready : collected.hub.IsReady shard)
    (read : reader.hub.since reader.token = .ok since)
    (given : collected.collect user since = .ok response) :
    (reader.note start collected (.ok (.done response), hub)).Tracks user first shard := by
  obtain ⟨forward, shows⟩ :=
    collected_ready.sound.shows_missedEvents collected_ready.paged user since.messages
  -- The hub may have moved on since it was collected from, but both read tokens alike.
  have same_since (token : Option String) : collected.hub.since token = hub.since token :=
    Hub.since_eq_of_shard
      (collected_ready.shard.trans (tracks.ready.grows grows).shard.symm) token
  have read_before : collected.hub.since reader.token = .ok since := by
    rw [same_since, Hub.since_eq_of_shard grows.shard, read]
  have read_after := Hub.since_nextBatch given
  have events_eq := Hub.events_of_collect given
  have one_more : (reader.note start collected (.ok (.done response), hub)).received =
      reader.received ++ [⟨reader.token, response, collected⟩] := rfl
  have all_events : (reader.note start collected (.ok (.done response), hub)).events =
      reader.events ++ response.events := by
    rw [events, one_more, List.flatMap_append, List.flatMap_singleton, events]
  constructor
  case ready => exact tracks.ready.grows grows
  case readable => exact ⟨_, (same_since _).symm.trans read_after⟩
  case waiting => rintro sync start ⟨⟩
  case unfailed => exact tracks.unfailed
  case chained =>
    rw [one_more, List.map_append, List.map_append, List.map_singleton, tracks.chained]
    rfl
  case exact =>
    intro exchange mem
    rcases List.mem_append.mp mem with earlier | last
    · exact tracks.exact exchange earlier
    · rw [List.mem_singleton.mp last]
      refine ⟨⟨since, read_before, given⟩, since.messages,
        (collected.hub.nextCursors user since).messages, ?_, ?_, forward, ?_⟩
      · rw [← collected_ready.shard]
        exact Hub.position?_of_since read_before
      · rw [← collected_ready.shard]
        exact Hub.position?_of_since read_after
      · rw [events_eq]
        exact shows
  -- What was received lies before the position, and what is new from there on.
  case ascending =>
    rw [all_events, List.pairwise_append, events_eq]
    refine ⟨tracks.ascending, shows.ascending, ?_⟩
    intro event earlier later mem
    obtain ⟨above, -⟩ := (shows.mem_iff later.index later.item).mp mem
    exact Nat.lt_of_lt_of_le (tracks.below since read event earlier) above
  case below =>
    intro next read_next event mem
    have same_next : collected.hub.nextCursors user since = next :=
      Except.ok.inj (read_after.symm.trans ((same_since _).trans read_next))
    rw [← same_next]
    rw [all_events, List.mem_append, events_eq] at mem
    rcases mem with earlier | new
    · exact Nat.lt_of_lt_of_le (tracks.below since read event earlier) forward
    · obtain ⟨-, below, -⟩ := (shows.mem_iff event.index event.item).mp new
      exact below

/-- Starting a sync either completes it or leaves it waiting from the reader's position. -/
theorem sync (tracks : reader.Tracks user first shard) (fits : reader.hub.Fits)
    (clock : RoomId → Instant) (timeout : Option Nat) :
    (reader.note ⟨reader.hub, clock⟩ ⟨reader.hub, clock⟩
      (reader.hub.sync clock user reader.token timeout)).Tracks user first shard := by
  have grows := reader.hub.grows_perform (.sync clock user reader.token timeout)
  rw [Hub.perform] at grows
  obtain ⟨since, read⟩ := tracks.readable
  obtain ⟨response, collected⟩ := tracks.ready.sound.exists_collect fits
    (Hub.fit_of_since read) clock user
  have outcome := Hub.outcome_sync read collected timeout
  generalize reader.hub.sync clock user reader.token timeout = result at grows outcome ⊢
  obtain ⟨progress, hub⟩ := result
  rcases outcome with done | ⟨sync, waits, mine, same, at_start⟩
  · obtain rfl : progress = .ok (.done response) := done
    exact tracks.receive grows tracks.ready read collected
  · obtain rfl : progress = .ok (.waiting sync) := waits
    have first_collected : reader.hub.collect clock sync.user sync.since = .ok sync.first := by
      rw [mine, same, at_start, collected]
    have started : (⟨reader.hub, clock⟩ : Moment).HasStarted sync shard user reader.token :=
      { ready := tracks.ready
        mine := mine
        since := by rw [same, read]
        first := first_collected }
    refine tracks.grows grows (some (sync, ⟨reader.hub, clock⟩)) ?_
    rintro _ _ ⟨⟩
    exact started

/-- A sync that is resumed gives one of its two collections, and both begin at the reader's
position. -/
theorem poll (tracks : reader.Tracks user first shard) (fits : reader.hub.Fits)
    (clock : RoomId → Instant) {sync : PendingSync} {start : Moment}
    (waits : reader.waiting = some (sync, start)) :
    (reader.note start (Moment.collectedAt ⟨reader.hub, clock⟩ start sync)
      (reader.hub.resume clock sync)).Tracks user first shard := by
  have grows := reader.hub.grows_perform (.resume clock sync)
  rw [Hub.perform] at grows
  have started := tracks.waiting sync start waits
  have same_shard := tracks.ready.shard.trans started.ready.shard.symm
  have read : reader.hub.since reader.token = .ok sync.since := by
    rw [Hub.since_eq_of_shard same_shard, started.since]
  obtain ⟨response, collected⟩ := tracks.ready.sound.exists_collect fits
    (Hub.fit_of_since read) clock sync.user
  -- The second collection, if there is one, starts from the same position as the first.
  have outcome := Moment.outcome_resume ⟨reader.hub, clock⟩ start started.first collected
  dsimp only at outcome
  generalize reader.hub.resume clock sync = result at grows outcome ⊢
  obtain ⟨progress, hub⟩ := result
  rcases outcome with still_waits | ⟨given, done, at_collection⟩
  · obtain rfl : progress = .ok (.waiting sync) := still_waits
    refine tracks.grows grows (some (sync, start)) ?_
    rintro _ _ ⟨⟩
    exact started
  · obtain rfl : progress = .ok (.done given) := done
    have ready :
        (Moment.collectedAt ⟨reader.hub, clock⟩ start sync).hub.IsReady shard := by
      unfold Moment.collectedAt
      split
      next => exact tracks.ready
      next => exact started.ready
    rw [started.mine] at at_collection
    exact tracks.receive grows ready read at_collection

/-- Whatever happens, the reader has received just what lies before their position, as long as
the counters fit a token. -/
theorem step (tracks : reader.Tracks user first shard) (move : Move)
    (fits : (reader.step user move).hub.Fits) :
    (reader.step user move).Tracks user first shard := by
  have grows := grows_step user reader move
  have fits_before := grows.fits fits
  cases move with
  | other operation => exact tracks.grows grows _ tracks.waiting
  | sync clock timeout =>
    rw [Reader.step]
    split
    next => exact tracks
    next => exact tracks.sync fits_before clock timeout
  | poll clock =>
    rw [Reader.step]
    split
    next waits => exact tracks.poll fits_before clock waits
    next => exact tracks
  | abandon =>
    rw [Reader.step] at grows ⊢
    split
    next sync start waits =>
      rw [waits] at grows
      refine tracks.grows grows none ?_
      rintro _ _ ⟨⟩
    next => exact tracks

/-- So it remains along every schedule. -/
theorem run (tracks : reader.Tracks user first shard) (schedule : List Move)
    (fits : (reader.run user schedule).hub.Fits) :
    (reader.run user schedule).Tracks user first shard := by
  induction schedule generalizing reader with
  | nil => exact tracks
  | cons move rest ih =>
    -- Counters are never set back, so those that fit at the end have always fitted.
    have now_fits := (grows_run user (reader.step user move) rest).fits fits
    exact ih (tracks.step move now_fits) fits

end Tracks

/-- Before anything has happened, there is nothing to keep track of. -/
theorem tracks_initial {config : Config} (paged : 0 < config.limits.limit none) (sink : Option Sink)
    {token : Option String} (read : (Hub.ofConfig config sink).since token = .ok since) :
    ({ hub := .ofConfig config sink, token } : Reader).Tracks user token config.shard where
  ready := ⟨Hub.isSound_ofConfig config sink, rfl, paged⟩
  readable := ⟨since, read⟩
  waiting := by rintro sync start ⟨⟩
  unfailed := rfl
  chained := rfl
  exact _ mem := absurd mem List.not_mem_nil
  ascending := List.Pairwise.nil
  below _ _ _ mem := absurd mem List.not_mem_nil

/-- A reader who syncs in a chain, from a token that can be read or from the start, never fails.
Each response shows what they can see of the timeline, as it is when the response is collected,
from the position in the token passed up to the one in the token received, and no index is
received twice. -/
theorem sync_chain_exact (config : Config) (sink : Option Sink) (user : UserId)
    (token : Option String) (schedule : List Move) (accepted : config.validate = .ok config)
    (paged : 0 < min config.limits.defaultLimit config.limits.maxLimit)
    (readable : ∀ text ∈ token, ∃ parsed, StreamToken.parse text = .ok parsed)
    (bounded :
      (run user { hub := .ofConfig config sink, token } schedule).hub.CountersBelow (2 ^ 48)) :
    let reader := run user { hub := .ofConfig config sink, token } schedule
    reader.failures = [] ∧
    (reader.received.map (·.since) ++ [reader.token] =
      token :: reader.received.map fun exchange => some exchange.response.nextBatch) ∧
    (∀ exchange ∈ reader.received, exchange.IsExact config.shard user) ∧
    reader.events.Pairwise (·.index < ·.index) := by
  intro reader
  obtain ⟨since, read⟩ := Hub.exists_since (Hub.ofConfig config sink) readable
  have same_shard : reader.hub.shard = config.shard := (grows_run user _ schedule).shard
  have fits : reader.hub.Fits := bounded.fits accepted same_shard
  have tracks := (tracks_initial paged sink read).run schedule fits
  exact ⟨tracks.unfailed, tracks.chained, tracks.exact, tracks.ascending⟩

/-! ### A late joiner -/

/-- A user who creates a room. -/
def host : UserId := Id.ofParts .user "host" "example.org"

/-- A user who joins it later. -/
def guest : UserId := Id.ofParts .user "guest" "example.org"

/-- The room. -/
def lobby : RoomId := Id.ofParts .room "lobby" "example.org"

/-- Pages of two events. -/
def smallPages : Config where
  limits := { defaultLimit := 2 }

/-- The start of 1970. -/
def epoch : Instant := default

/-- A clock that has stopped there. -/
def stopped : RoomId → Instant := fun _ => epoch

/-- A stamp of that time. -/
def drawn (number : BitVec 128) : Stamp := ⟨number, epoch⟩

/-- The guest waits, is joined to the room and woken, reads it from the start in two pages, and
waits again until their time is up. -/
def lateJoin : List Move :=
  [.other (.createRoom (drawn 0) (drawn 1) lobby host), .sync stopped (some 500), .poll stopped,
    .other (.setState (drawn 2) host lobby (.member .join none) guest.text),
    .other (.sendMessage (drawn 3) host lobby "m.text" "welcome"), .poll stopped,
    .sync stopped none, .sync stopped (some 500), .other (.elapse 500), .poll stopped]

/-- The late joiner receives all four events of the room, each once. -/
theorem sync_chain_exact_lateJoin :
    let reader := run guest { hub := .ofConfig smallPages none, token := none } lateJoin
    reader.events.map (·.index) = [0, 1, 2, 3] ∧ reader.received.length = 3 ∧
      reader.failures = [] ∧ (∀ exchange ∈ reader.received, exchange.IsExact ⟨1⟩ guest) ∧
      reader.events.Pairwise (·.index < ·.index) := by
  have accepted : smallPages.validate = .ok smallPages := by decide
  have paged : 0 < min smallPages.limits.defaultLimit smallPages.limits.maxLimit := by decide
  have reached :
      let reader := run guest { hub := .ofConfig smallPages none, token := none } lateJoin
      (reader.hub.messageCounter.current, reader.hub.signalCounter.current,
        reader.hub.presenceCounter.current, reader.events.map (·.index),
        reader.received.length) = (4, 0, 0, [0, 1, 2, 3], 3) := by
    decide +kernel
  simp only [Prod.mk.injEq] at reached
  obtain ⟨messages, signals, presence, indices, count⟩ := reached
  have bounded : (run guest { hub := .ofConfig smallPages none, token := none }
      lateJoin).hub.CountersBelow (2 ^ 48) :=
    ⟨by rw [messages]; decide, by rw [signals]; decide, by rw [presence]; decide⟩
  obtain ⟨unfailed, -, exact, ascending⟩ :=
    sync_chain_exact smallPages none guest none lateJoin accepted paged nofun bounded
  exact ⟨indices, count, unfailed, exact, ascending⟩

end Reader

end ChatFeed
