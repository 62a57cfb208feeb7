import ChatFeed.Proofs.Hub.Answer
import ChatFeed.Proofs.Hub.Audience

/-!
# The token from which to go on

Whoever syncs with a token that can be read is given another one that can be read, and it never
stands for less: the position in the timeline is the one after a full page, and otherwise all three
are at the end of the logs or where they already were. A token may hold positions of other shards,
and several for this one. Only the first of this shard is looked at, in each group. Whoever syncs
again with the token they were given, while nothing is written, finds nothing that they have had
already.

## Main definitions

* `StreamToken.own`: what counts of a token for a shard
* `Hub.Follows`: positions are those after a collection

## Main results

* `Hub.IsSound.follows_nextCursors`: the next positions
* `Hub.collect_again`: what is collected from there while nothing is written
* `Hub.next_token_faithful`: the token that a sync gives
-/

namespace ChatFeed

/-! ### Tuples that count -/

namespace StreamToken

/-- What counts of a token for a shard: the first tuple of that shard in each group. -/
def own (token : StreamToken) (shard : ShardId) : StreamToken where
  rooms := (token.rooms.filter fun tuple => tuple.shard = shard).take 1
  users := (token.users.filter fun tuple => tuple.shard = shard).take 1

theorem find?_eq_head?_own (tuples : List ShardTuple) (shard : ShardId) :
    tuples.find? (fun tuple => tuple.shard = shard) =
      ((tuples.filter fun tuple => tuple.shard = shard).take 1).head? := by
  rw [List.head?_take, if_neg Nat.one_ne_zero, List.head?_filter]

end StreamToken

namespace Hub

variable {hub : Hub} {clock : RoomId → Instant} {user : UserId} {since : Cursors}

theorem cursors_eq_of_own {token other : StreamToken}
    (same : token.own hub.shard = other.own hub.shard) : hub.cursors token = hub.cursors other := by
  have rooms : token.roomTuple? hub.shard = other.roomTuple? hub.shard := by
    rw [StreamToken.roomTuple?, StreamToken.roomTuple?, StreamToken.find?_eq_head?_own,
      StreamToken.find?_eq_head?_own]
    exact congrArg (·.rooms.head?) same
  have users : token.userTuple? hub.shard = other.userTuple? hub.shard := by
    rw [StreamToken.userTuple?, StreamToken.userTuple?, StreamToken.find?_eq_head?_own,
      StreamToken.find?_eq_head?_own]
    exact congrArg (·.users.head?) same
  rw [cursors, cursors, rooms, users]

/-- A sync reads nothing of a token but its positions. -/
theorem sync_eq_of_since {token other : Option String} (same : hub.since token = hub.since other)
    (clock : RoomId → Instant) (user : UserId) (timeout : Option Nat) :
    hub.sync clock user token timeout = hub.sync clock user other timeout := by
  rw [sync, sync, same]

/-! ### The next positions -/

/-- Whether `next` are the positions after `events` have been collected from `since`. -/
structure Follows (hub : Hub) (since : Cursors) (events : List (Indexed Event)) (next : Cursors) :
    Prop where
  /-- Right after the last event of a full page. -/
  full : ∀ last, events.getLast? = some last → events.length = hub.limits.limit none →
    next.messages = last.index + 1
  /-- After any other page at the end of the timeline, unless the reader was past it. -/
  short : events = [] ∨ events.length ≠ hub.limits.limit none →
    next.messages = max hub.messageCounter.current since.messages
  signals : next.signals = max hub.signalCounter.current since.signals
  presence : next.presence = max hub.presenceCounter.current since.presence
  messages_le : since.messages ≤ next.messages
  signals_le : since.signals ≤ next.signals
  presence_le : since.presence ≤ next.presence

/-- No page leads back. -/
theorem IsSound.le_nextMessage (sound : hub.IsSound) (user : UserId) (since : Nat) :
    since ≤ hub.nextMessage since (hub.missedEvents user since) := by
  rw [nextMessage]
  cases is_last : (hub.missedEvents user since).getLast? with
  | none => exact Nat.le_max_right _ _
  | some last =>
    have last_mem := List.mem_of_getLast? is_last
    rw [missedEvents_eq_take] at last_mem
    obtain ⟨above, -⟩ := ((sound.shows_window user since _).mem_iff last.index last.item).mp
      (List.mem_of_mem_take last_mem)
    dsimp only
    split
    next => exact Nat.le_succ_of_le above
    next => exact Nat.le_max_right _ _

theorem IsSound.follows_nextCursors (sound : hub.IsSound) (user : UserId) (since : Cursors) :
    hub.Follows since (hub.missedEvents user since.messages) (hub.nextCursors user since) where
  full last is_last full := nextMessage_of_full full is_last
  short reason := by
    rcases reason with nothing | short
    · rw [nextCursors, nothing]
      rfl
    · exact nextMessage_of_short short
  signals := rfl
  presence := rfl
  messages_le := sound.le_nextMessage user since.messages
  signals_le := Nat.le_max_right _ _
  presence_le := Nat.le_max_right _ _

/-! ### Syncing again -/

theorem run_reading {operations : List Operation}
    (reading : ∀ operation ∈ operations, operation.IsReading) (hub : Hub) :
    ∃ mux, hub.run operations = hub.setMux mux := by
  induction operations generalizing hub with
  | nil => exact ⟨hub.dispatcher.mux, rfl⟩
  | cons operation rest ih =>
    obtain ⟨first, performed⟩ :=
      hub.perform_reading (reading operation List.mem_cons_self)
    obtain ⟨second, rested⟩ :=
      ih (fun other mem => reading other (List.mem_cons_of_mem _ mem)) (hub.setMux first)
    refine ⟨second, ?_⟩
    change (hub.perform operation).run rest = hub.setMux second
    rw [performed, rested]
    rfl

theorem missedEvents_eq_nil {since : Nat} (past : hub.messageCounter.current ≤ since) :
    hub.missedEvents user since = [] :=
  if_neg (Nat.not_lt_of_le past)

theorem missedTyping_eq_nil {since : Nat} (past : hub.signalCounter.current ≤ since) :
    hub.missedTyping clock user since = [] := by
  have nothing : (hub.signals.range user.text since hub.signalCounter.current).1 = [] := by
    refine List.eq_nil_iff_forall_not_mem.mpr fun envelope mem => ?_
    obtain ⟨index, above, below, -⟩ := SignalLog.mem_range_iff.mp mem
    omega
  rw [missedTyping, nothing]
  rfl

theorem missedPresence_eq_nil {since : Nat} (past : hub.presenceCounter.current ≤ since) :
    hub.missedPresence user since = [] := by
  refine List.eq_nil_iff_forall_not_mem.mpr fun item mem => ?_
  obtain ⟨above, below, -⟩ := PresenceLog.mem_range_iff.mp mem
  omega

theorem le_messages_nextCursors
    (short : (hub.missedEvents user since.messages).length ≠ hub.limits.limit none) :
    hub.messageCounter.current ≤ (hub.nextCursors user since).messages := by
  have at_end : (hub.nextCursors user since).messages =
      max hub.messageCounter.current since.messages := nextMessage_of_short short
  rw [at_end]
  exact Nat.le_max_left _ _

/-- After a page that is not full, the positions stay. -/
theorem nextCursors_nextCursors
    (short : (hub.missedEvents user since.messages).length ≠ hub.limits.limit none) :
    hub.nextCursors user (hub.nextCursors user since) = hub.nextCursors user since := by
  have past := le_messages_nextCursors short
  have signals : hub.signalCounter.current ≤ (hub.nextCursors user since).signals :=
    Nat.le_max_left _ _
  have presence : hub.presenceCounter.current ≤ (hub.nextCursors user since).presence :=
    Nat.le_max_left _ _
  generalize hub.nextCursors user since = next at past signals presence
  rw [nextCursors, missedEvents_eq_nil past, Nat.max_eq_right signals, Nat.max_eq_right presence]
  exact congrArg (Cursors.mk · next.signals next.presence) (Nat.max_eq_right past)

/-- Who collects again from where they have got to, while nothing is written, is given what did not
fit on the page, and nothing else. -/
theorem collect_again (sound : hub.IsSound) (fits : hub.Fits) {response : SyncResponse}
    (collected : hub.collect clock user since = .ok response) (later : RoomId → Instant) :
    ∃ again, hub.collect later user (hub.nextCursors user since) = .ok again ∧
      again.typing = [] ∧ again.presence = [] ∧
      (response.events.length ≠ hub.limits.limit none →
        again.events = [] ∧ again.nextBatch = response.nextBatch) := by
  have fit : (hub.nextCursors user since).Fit := fit_of_since (since_nextBatch collected)
  obtain ⟨again, collected_again⟩ := sound.exists_collect fits fit later user
  obtain ⟨events, typing, presence⟩ := parts_of_collect collected_again
  refine ⟨again, collected_again, ?_, ?_, fun short => ⟨?_, ?_⟩⟩
  · rw [typing]
    exact missedTyping_eq_nil (Nat.le_max_left _ _)
  · rw [presence]
    exact missedPresence_eq_nil (Nat.le_max_left _ _)
  · rw [events_of_collect collected] at short
    rw [events]
    exact missedEvents_eq_nil (le_messages_nextCursors short)
  · rw [events_of_collect collected] at short
    have written := encode_nextCursors collected_again
    rw [nextCursors_nextCursors short, encode_nextCursors collected] at written
    exact (Except.ok.inj written).symm

/-! ### Syncs do not fail -/

variable {token : Option String} {timeout : Option Nat} {e : HubError}

theorem IsSound.sync_ne_error (sound : hub.IsSound) (fits : hub.Fits)
    (read : hub.since token = .ok since) (clock : RoomId → Instant) (user : UserId)
    (timeout : Option Nat) : (hub.sync clock user token timeout).1 ≠ .error e := by
  intro failed
  obtain ⟨response, collected⟩ := sound.exists_collect fits (fit_of_since read) clock user
  obtain done | ⟨sync, waits, -⟩ := outcome_sync read collected timeout
  · rw [done] at failed
    cases failed
  · rw [waits] at failed
    cases failed

/-- The positions from which a sync waits fit the fields of a token, and still do when it is
resumed. -/
theorem IsSound.resume_ne_error (sound : hub.IsSound) (fits : hub.Fits) {start : Hub}
    {sync : PendingSync}
    (waits : (start.sync clock user token timeout).1 = .ok (.waiting sync))
    (later : RoomId → Instant) : (hub.resume later sync).1 ≠ .error e := by
  intro failed
  obtain ⟨-, read, first⟩ := collect_of_sync_waiting waits
  obtain ⟨response, collected⟩ := sound.exists_collect fits (fit_of_since read) later sync.user
  obtain still_waits | ⟨given, done, -⟩ :=
    Moment.outcome_resume ⟨hub, later⟩ ⟨start, clock⟩ first collected
  · rw [still_waits] at failed
    cases failed
  · rw [done] at failed
    cases failed

/-- As long as the counters of a hub fit the fields of a token, a sync with a token that can be read
does not fail, neither when it is started nor when it is resumed. Whenever it is answered, the token
in the answer can be read, and stands for the positions after the collection that is given, none of
which is before the one in the token that was passed. Whoever syncs with it at once, while nothing
has been written, is told of no typing and no presence, and after a page that was not full they are
given no event and the same token. Of the token that was passed, nothing counts but the first tuple
for the shard in each group. -/
theorem next_token_faithful (config : Config) (sink : Option Sink) (operations : List Operation)
    (user : UserId) (token : Option String) (timeout : Option Nat)
    (accepted : config.validate = .ok config)
    (readable : ∀ text ∈ token, ∃ parsed, StreamToken.parse text = .ok parsed)
    (bounded : ((ofConfig config sink).run operations).CountersBelow (2 ^ 48)) :
    let hub := (ofConfig config sink).run operations
    (∀ clock e, (hub.sync clock user token timeout).1 ≠ .error e) ∧
    (∀ clock sync between, (hub.sync clock user token timeout).1 = .ok (.waiting sync) →
      let later := (hub.sync clock user token timeout).2.run between
      later.CountersBelow (2 ^ 48) → ∀ clock e, (later.resume clock sync).1 ≠ .error e) ∧
    (∃ since, hub.since token = .ok since ∧
      ∀ collected response, hub.Answers user token timeout collected response →
        ∃ next, collected.hub.since (some response.nextBatch) = .ok next ∧
          collected.hub.Follows since response.events next ∧
          (collected.hub.CountersBelow (2 ^ 48) →
            ∀ (reads : List Operation) clock, (∀ operation ∈ reads, operation.IsReading) →
              let outcome :=
                (collected.hub.run reads).sync clock user (some response.nextBatch) (some 0)
              ∃ again, outcome.1 = .ok (.done again) ∧
                again.typing = [] ∧ again.presence = [] ∧
                (response.events.length ≠ collected.hub.limits.limit none →
                  again.events = [] ∧ again.nextBatch = response.nextBatch))) ∧
    ∀ text other parsed parsed', StreamToken.parse text = .ok parsed →
      StreamToken.parse other = .ok parsed' → parsed.own hub.shard = parsed'.own hub.shard →
      ∀ clock, hub.sync clock user (some text) timeout =
        hub.sync clock user (some other) timeout := by
  intro hub
  have grows : (ofConfig config sink).Grows hub := (changes_run _ operations).grows
  have sound : hub.IsSound := grows.sound (isSound_ofConfig config sink)
  -- Later hubs are sound, and fit the fields of a token as long as their counters do.
  have fits_of {later : Hub} (since : hub.Grows later) (below : later.CountersBelow (2 ^ 48)) :
      later.Fits := below.fits accepted (since.shard.trans grows.shard)
  obtain ⟨since, read⟩ := hub.exists_since readable
  refine ⟨?_, ?_, ⟨since, read, ?_⟩, ?_⟩
  · exact fun clock e => sound.sync_ne_error (fits_of (.refl hub) bounded) read clock user timeout
  · intro clock sync between waits later below later_clock e
    have since_hub : hub.Grows later :=
      (changes_run hub (.sync clock user token timeout :: between)).grows
    exact (since_hub.sound sound).resume_ne_error (fits_of since_hub below) waits later_clock
  · intro collected response answers
    obtain ⟨⟨before, is_later⟩, start, read_start, given⟩ := answers.exists_collect
    obtain rfl : start = since := Except.ok.inj (read_start.symm.trans read)
    have since_hub : hub.Grows collected.hub := by
      rw [is_later]
      exact (changes_run hub before).grows
    have still_sound := since_hub.sound sound
    refine ⟨_, since_nextBatch given, ?_, fun below reads clock reading => ?_⟩
    · rw [events_of_collect given]
      exact still_sound.follows_nextCursors user start
    · obtain ⟨mux, unchanged⟩ := run_reading reading collected.hub
      obtain ⟨again, collected_again, rest⟩ :=
        collect_again still_sound (fits_of since_hub below) given clock
      refine ⟨again, ?_, rest⟩
      -- Readers replace the multiplexer, and what is collected does not depend on it.
      rw [unchanged]
      have read_again := (since_eq_of_shard rfl _).trans (since_nextBatch given)
      exact sync_without_wait read_again ((collect_setMux _ mux _ _ _).trans collected_again)
  · intro text other parsed parsed' read read' same clock
    refine sync_eq_of_since ?_ clock user timeout
    rw [Hub.since, Hub.since, read, read']
    exact congrArg Except.ok (cursors_eq_of_own same)

section Foreign

open Reader

/-- With positions of another shard, and more than one for this shard, the guest is given what they
would be given without the others, from the first of those for this shard. -/
theorem next_token_faithful_foreign :
    let hub := (ofConfig smallPages none).run gathering
    let text := "C.D.E_B.B.A_B.C.C*C.D.E_B.A.A"
    smallPages.validate = .ok smallPages ∧ hub.CountersBelow (2 ^ 48) ∧
      hub.sync stopped guest (some text) (some 0) =
        hub.sync stopped guest (some "B.B.A*B.A.A") (some 0) ∧
      ∃ response next again,
        (hub.sync stopped guest (some text) (some 0)).1 = .ok (.done response) ∧
        hub.since (some response.nextBatch) = .ok next ∧
        hub.Follows ⟨1, 0, 0⟩ response.events next ∧
        (hub.sync stopped guest (some response.nextBatch) (some 0)).1 = .ok (.done again) ∧
        again.typing = [] ∧ again.presence = [] := by
  intro hub text
  have accepted : smallPages.validate = .ok smallPages := by decide
  have bounded : hub.CountersBelow (2 ^ 48) := by
    constructor <;> decide +kernel
  have parsed : StreamToken.parse text =
      .ok ⟨[⟨⟨2⟩, 3, 4⟩, ⟨⟨1⟩, 1, 0⟩, ⟨⟨1⟩, 2, 2⟩], [⟨⟨2⟩, 3, 4⟩, ⟨⟨1⟩, 0, 0⟩]⟩ := by
    decide +kernel
  have parsed' : StreamToken.parse "B.B.A*B.A.A" = .ok ⟨[⟨⟨1⟩, 1, 0⟩], [⟨⟨1⟩, 0, 0⟩]⟩ := by
    decide +kernel
  have readable : ∀ other ∈ some text, ∃ parsed, StreamToken.parse other = .ok parsed := by
    intro other same
    obtain rfl := Option.some.inj same
    exact ⟨_, parsed⟩
  obtain ⟨-, -, ⟨since, read, answered⟩, own⟩ :=
    next_token_faithful smallPages none gathering guest (some text) (some 0) accepted readable
      bounded
  have start : hub.since (some text) = .ok ⟨1, 0, 0⟩ := by
    rw [Hub.since, parsed]
    decide +kernel
  obtain rfl : since = ⟨1, 0, 0⟩ := Except.ok.inj (read.symm.trans start)
  obtain ⟨response, collected⟩ : ∃ response, hub.collect stopped guest ⟨1, 0, 0⟩ = .ok response :=
    exists_of_isSome_toOption (by decide +kernel)
  have done := sync_without_wait start collected
  obtain ⟨next, stands, follows, goes_on⟩ := answered ⟨hub, stopped⟩ response (.atOnce done)
  obtain ⟨again, done_again, typing, presence, -⟩ :=
    goes_on bounded [] stopped fun _ mem => absurd mem List.not_mem_nil
  rw [show hub.run [] = hub from List.foldl_nil] at done_again
  exact ⟨accepted, bounded, own text "B.B.A*B.A.A" _ _ parsed parsed' (by decide +kernel) stopped,
    response, next, again, done, stands, follows, done_again, typing, presence⟩

end Foreign

end Hub

end ChatFeed
