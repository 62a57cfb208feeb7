import ChatFeed.Proofs.Hub.Operation
import ChatFeed.Proofs.Token.RoundTrip

/-!
# What a reader is given

A reader who has come to a position is given the visible events of the timeline from
there up to the position of the next token, all of them and nothing else, whether the
page is full, ends the timeline, or was asked for beyond its end. The next token can
be written as long as the counters fit its fields, and stands for those positions.

## Main definitions

* `Hub.CanSee`: who can see an event
* `Hub.Shows`: a list is what a user can see in a stretch of the timeline
* `Cursors.Fit`, `Hub.Fits`: positions that fit the fields of a token

## Main results

* `Hub.IsSound.shows_missedEvents`: a page shows the timeline up to the next position
* `Hub.IsSound.exists_collect`: a reader is given something
* `Hub.since_nextBatch`: the next token stands for the next positions
-/

namespace ChatFeed

/-- Whether positions fit the fields of a token. -/
structure Cursors.Fit (cursors : Cursors) : Prop where
  messages : cursors.messages < 64 ^ 8
  signals : cursors.signals < 64 ^ 8
  presence : cursors.presence < 64 ^ 8

namespace Hub

/-- Whether a user can see an event: they have joined its room, or it concerns them by itself. -/
def CanSee (hub : Hub) (user : UserId) (event : Event) : Prop :=
  (∃ room, event.room = some room ∧ hub.rooms.members.isMember room user = true) ∨
    event.extraRecipient = some user

/-- The event at an index of the timeline. -/
def eventAt? (hub : Hub) (index : Nat) : Option Event :=
  (hub.messages.postings.get? index).map (·.event)

/-- Whether `events` is, in order, what a user can see of the timeline from `start` up to below
`stop`. -/
structure Shows (hub : Hub) (user : UserId) (start stop : Nat) (events : List (Indexed Event)) :
    Prop where
  ascending : events.Pairwise (·.index < ·.index)
  mem_iff : ∀ index event, ⟨index, event⟩ ∈ events ↔
    start ≤ index ∧ index < stop ∧ hub.eventAt? index = some event ∧ hub.CanSee user event

/-- Whether the shard and the counters of a hub fit the fields of a token. -/
structure Fits (hub : Hub) : Prop where
  shard : hub.shard.value < 64 ^ 2
  messages : hub.messageCounter.current < 64 ^ 8
  signals : hub.signalCounter.current < 64 ^ 8
  presence : hub.presenceCounter.current < 64 ^ 8

/-- A hub fits if one that it grows into does. -/
theorem Grows.fits {hub later : Hub} (grows : hub.Grows later) (fits : later.Fits) : hub.Fits where
  shard := by
    rw [← grows.shard]
    exact fits.shard
  messages := Nat.lt_of_le_of_lt grows.messages fits.messages
  signals := Nat.lt_of_le_of_lt grows.signals fits.signals
  presence := Nat.lt_of_le_of_lt grows.presence fits.presence

variable {hub : Hub} {clock : RoomId → Instant} {user : UserId} {since : Cursors}

/-! ### Pages -/

/-- Events are entered below the end of the timeline. -/
theorem IsSound.lt_of_eventAt? (sound : hub.IsSound) {index : Nat} {event : Event}
    (found : hub.eventAt? index = some event) : index < hub.messageCounter.current := by
  rw [eventAt?, Option.map_eq_some_iff] at found
  obtain ⟨posting, at_index, -⟩ := found
  exact sound.timeline.below index posting at_index

/-- What is entered stands where the timeline ended. -/
theorem eventAt?_enter (hub : Hub) (room : RoomId) (event : Event) :
    (hub.enter room event).eventAt? hub.messageCounter.current = some event := by
  rw [eventAt?, enter, Timeline.get?_postings_record, if_pos rfl]
  rfl

theorem IsSound.isVisible_iff (sound : hub.IsSound) {index : Nat} {posting : Posting}
    (found : hub.messages.postings.get? index = some posting) :
    Timeline.isVisible (some user) (hub.rooms.members.rooms user) posting = true ↔
      hub.CanSee user posting.event := by
  rw [Timeline.isVisible, CanSee, sound.timeline.room index posting found,
    sound.timeline.extraRecipient index posting found]
  simp only [Bool.or_eq_true, List.contains_iff_mem, Option.isSome_some, Bool.true_and,
    decide_eq_true_eq, Option.some.injEq, exists_eq_left', MemberIndex.isMember_iff,
    sound.members posting.room user]

/-- The window of a user shows the timeline up to its bound. -/
theorem IsSound.shows_window (sound : hub.IsSound) (user : UserId) (start stop : Nat) :
    hub.Shows user start stop
      (hub.messages.window (some user) (hub.rooms.members.rooms user) start stop) where
  ascending := sound.timeline.ascending_window
  mem_iff index event := by
    rw [sound.timeline.mem_window_iff, eventAt?]
    simp only [Option.map_eq_some_iff]
    constructor
    · rintro ⟨above, below, posting, found, rfl, visible⟩
      exact ⟨above, below, ⟨posting, found, rfl⟩, (sound.isVisible_iff found).mp visible⟩
    · rintro ⟨above, below, ⟨posting, found, rfl⟩, can_see⟩
      exact ⟨above, below, posting, found, rfl, (sound.isVisible_iff found).mpr can_see⟩

/-- A shorter stretch is shown by the events in it. -/
theorem Shows.of_mem_iff {start stop mid : Nat} {events page : List (Indexed Event)}
    (shows : hub.Shows user start stop events) (short : mid ≤ stop) (sublist : page.Sublist events)
    (mem_iff : ∀ item, item ∈ page ↔ item ∈ events ∧ item.index < mid) :
    hub.Shows user start mid page where
  ascending := shows.ascending.sublist sublist
  mem_iff index event := by
    rw [mem_iff, shows.mem_iff]
    constructor
    · rintro ⟨⟨above, -, at_index, can_see⟩, below⟩
      exact ⟨above, below, at_index, can_see⟩
    · rintro ⟨above, below, at_index, can_see⟩
      exact ⟨⟨above, Nat.lt_of_lt_of_le below short, at_index, can_see⟩, below⟩

/-- Where there is nothing between the bounds, there is nothing to show. -/
theorem shows_nil {start stop : Nat} (empty : stop ≤ start) : hub.Shows user start stop [] where
  ascending := List.Pairwise.nil
  mem_iff index event := by
    refine iff_of_false List.not_mem_nil ?_
    rintro ⟨above, below, -⟩
    omega

theorem nextMessage_of_full {since : Nat} {events : List (Indexed Event)} {last : Indexed Event}
    (full : events.length = hub.limits.limit none) (is_last : events.getLast? = some last) :
    hub.nextMessage since events = last.index + 1 := by
  rw [nextMessage, is_last]
  exact if_pos full

theorem nextMessage_of_short {since : Nat} {events : List (Indexed Event)}
    (short : events.length ≠ hub.limits.limit none) :
    hub.nextMessage since events = max hub.messageCounter.current since := by
  rw [nextMessage]
  cases events.getLast? with
  | none => rfl
  | some last => exact if_neg short

/-- A page is as much of the window of a user as has room in it. -/
theorem missedEvents_eq_take (hub : Hub) (user : UserId) (since : Nat) :
    hub.missedEvents user since = (hub.messages.window (some user) (hub.rooms.members.rooms user)
      since hub.messageCounter.current).take (hub.limits.limit none) := by
  rw [missedEvents]
  split
  next ahead => rw [Timeline.range, if_neg (Nat.lt_asymm ahead), Nat.min_self]
  next not_ahead => rw [Timeline.window_eq_nil (Nat.le_of_not_lt not_ahead), List.take_nil]

/-- The position after a page is not beyond both the end of the timeline and where it was. -/
theorem IsSound.nextMessage_le (sound : hub.IsSound) (user : UserId) (since : Nat) :
    hub.nextMessage since (hub.missedEvents user since) ≤
      max hub.messageCounter.current since := by
  rw [nextMessage]
  cases is_last : (hub.missedEvents user since).getLast? with
  | none => exact Nat.le_refl _
  | some last =>
    have last_mem := List.mem_of_getLast? is_last
    rw [missedEvents_eq_take] at last_mem
    obtain ⟨-, below, -⟩ := ((sound.shows_window user since _).mem_iff last.index last.item).mp
      (List.mem_of_mem_take last_mem)
    dsimp only
    split
    next => exact Nat.le_trans below (Nat.le_max_left _ _)
    next => exact Nat.le_refl _

/-- A page shows the timeline from where it starts up to the position after it. -/
theorem IsSound.shows_missedEvents (sound : hub.IsSound) (paged : 0 < hub.limits.limit none)
    (user : UserId) (since : Nat) :
    let events := hub.missedEvents user since
    let next := hub.nextMessage since events
    since ≤ next ∧ hub.Shows user since next events := by
  intro events next
  by_cases ahead : since < hub.messageCounter.current
  · have shows := sound.shows_window user since hub.messageCounter.current
    have page : events = (hub.messages.window (some user) (hub.rooms.members.rooms user) since
        hub.messageCounter.current).take (hub.limits.limit none) :=
      missedEvents_eq_take hub user since
    -- A full page ends at its last event; a page that is not full holds all of the window.
    by_cases full : events.length = hub.limits.limit none
    · obtain ⟨last, is_last⟩ : ∃ last, events.getLast? = some last := by
        cases found : events.getLast? with
        | some last => exact ⟨last, rfl⟩
        | none =>
          rw [List.getLast?_eq_none_iff.mp found] at full
          exact absurd full (Nat.ne_of_lt paged)
      have after_last : next = last.index + 1 := nextMessage_of_full full is_last
      have last_mem := List.mem_of_getLast? is_last
      rw [page] at last_mem is_last
      obtain ⟨above, below, -⟩ :=
        (shows.mem_iff last.index last.item).mp (List.mem_of_mem_take last_mem)
      rw [after_last]
      refine ⟨Nat.le_succ_of_le above, ?_⟩
      rw [page]
      refine shows.of_mem_iff below (List.take_sublist _ _) fun item => ?_
      rw [Indexed.mem_take_iff shows.ascending is_last, Nat.lt_succ_iff]
    · have at_end : next = hub.messageCounter.current := by
        rw [← Nat.max_eq_left (Nat.le_of_lt ahead)]
        exact nextMessage_of_short full
      rw [page] at full
      rw [at_end, page, take_eq_self_of_length_ne full]
      exact ⟨Nat.le_of_lt ahead, shows⟩
  -- Beyond the end of the timeline the position stays, for what is still to come.
  · have nothing : events = [] := if_neg ahead
    have stays : next = since := by
      change hub.nextMessage since events = since
      rw [nothing]
      exact Nat.max_eq_right (Nat.le_of_not_lt ahead)
    rw [stays, nothing]
    exact ⟨Nat.le_refl _, shows_nil (Nat.le_refl _)⟩

/-! ### The next token -/

/-- The positions in a token that can be read fit the fields of a token. -/
theorem fit_of_since {token : Option String} (read : hub.since token = .ok since) : since.Fit := by
  cases token with
  | none =>
    obtain rfl : {} = since := Except.ok.inj read
    exact ⟨by decide, by decide, by decide⟩
  | some text =>
    rw [Hub.since, map_eq_ok_iff] at read
    obtain ⟨token, parsed, rfl⟩ := read
    rw [mapError_eq_ok_iff] at parsed
    have rooms {tuple : ShardTuple} (found : token.roomTuple? hub.shard = some tuple) :=
      StreamToken.positions_lt_of_parse parsed (.inl (List.mem_of_find?_eq_some found))
    have users {tuple : ShardTuple} (found : token.userTuple? hub.shard = some tuple) :=
      StreamToken.positions_lt_of_parse parsed (.inr (List.mem_of_find?_eq_some found))
    constructor
    case messages =>
      rw [cursors]
      cases found : token.roomTuple? hub.shard with
      | none => simp
      | some tuple => exact (rooms found).1
    case signals =>
      rw [cursors]
      cases found : token.roomTuple? hub.shard with
      | none => simp
      | some tuple => exact (rooms found).2
    case presence =>
      rw [cursors]
      cases found : token.userTuple? hub.shard with
      | none => simp
      | some tuple => exact (users found).1

/-- The token for positions that fit can be written. -/
theorem exists_encode_token (shard : hub.shard.value < 64 ^ 2) (fit : since.Fit) :
    ∃ text, (hub.token since).encode = .ok text := by
  rw [StreamToken.exists_encode_iff]
  constructor
  · exact StreamToken.fitsGroup_singleton_iff.mpr ⟨shard, fit.messages, fit.signals⟩
  · exact StreamToken.fitsGroup_singleton_iff.mpr ⟨shard, fit.presence, Nat.two_pow_pos 48⟩

/-- The token for positions stands for them. -/
theorem since_of_encode_token {text : String} (written : (hub.token since).encode = .ok text) :
    hub.since (some text) = .ok since := by
  rw [Hub.since, StreamToken.parse_of_encode_eq_ok written]
  -- The token has one tuple in each group, and it is the one of the hub's shard.
  change Except.ok (hub.cursors (hub.token since)) = Except.ok since
  simp [cursors, token, StreamToken.roomTuple?, StreamToken.userTuple?]

/-- The positions after what a reader is given. -/
def nextCursors (hub : Hub) (user : UserId) (since : Cursors) : Cursors where
  messages := hub.nextMessage since.messages (hub.missedEvents user since.messages)
  signals := max hub.signalCounter.current since.signals
  presence := max hub.presenceCounter.current since.presence

theorem collect_eq (hub : Hub) (clock : RoomId → Instant) (user : UserId) (since : Cursors) :
    hub.collect clock user since = match (hub.token (hub.nextCursors user since)).encode with
    | .error e => .error (.noToken e)
    | .ok nextBatch =>
      .ok
        { events := hub.missedEvents user since.messages
          typing := hub.missedTyping clock user since.signals
          presence := hub.missedPresence user since.presence
          nextBatch := nextBatch } := rfl

/-- The next token is the one for the next positions. -/
theorem encode_nextCursors {response : SyncResponse}
    (collected : hub.collect clock user since = .ok response) :
    (hub.token (hub.nextCursors user since)).encode = .ok response.nextBatch := by
  rw [collect_eq] at collected
  split at collected
  next => contradiction
  next text written =>
    obtain rfl := Except.ok.inj collected
    exact written

/-- The next token stands for the next positions. -/
theorem since_nextBatch {response : SyncResponse}
    (collected : hub.collect clock user since = .ok response) :
    hub.since (some response.nextBatch) = .ok (hub.nextCursors user since) :=
  since_of_encode_token (encode_nextCursors collected)

/-- A reader is given a page of the timeline, who is typing, and changed presence records. -/
theorem parts_of_collect {response : SyncResponse}
    (collected : hub.collect clock user since = .ok response) :
    response.events = hub.missedEvents user since.messages ∧
      response.typing = hub.missedTyping clock user since.signals ∧
      response.presence = hub.missedPresence user since.presence := by
  rw [collect_eq] at collected
  split at collected
  next => contradiction
  next =>
    obtain rfl := Except.ok.inj collected
    exact ⟨rfl, rfl, rfl⟩

theorem events_of_collect {response : SyncResponse}
    (collected : hub.collect clock user since = .ok response) :
    response.events = hub.missedEvents user since.messages :=
  (parts_of_collect collected).1

/-- A reader is given something if the positions fit. -/
theorem IsSound.exists_collect (sound : hub.IsSound) (fits : hub.Fits) (fit : since.Fit)
    (clock : RoomId → Instant) (user : UserId) :
    ∃ response, hub.collect clock user since = .ok response := by
  -- No position moves beyond both its counter and where it was.
  have bound := sound.nextMessage_le user since.messages
  have next_fit : (hub.nextCursors user since).Fit :=
    { messages := Nat.lt_of_le_of_lt bound (Nat.max_lt.mpr ⟨fits.messages, fit.messages⟩)
      signals := Nat.max_lt.mpr ⟨fits.signals, fit.signals⟩
      presence := Nat.max_lt.mpr ⟨fits.presence, fit.presence⟩ }
  obtain ⟨text, written⟩ := exists_encode_token fits.shard next_fit
  rw [collect_eq, written]
  exact ⟨_, rfl⟩

end Hub

end ChatFeed
