import ChatFeed.Directory.Roster
import ChatFeed.Proofs.Collection.Latest
import ChatFeed.Proofs.Log.Timeline
import Mathlib.Data.List.Nodup

/-!
# Timelines as what has been sent

A timeline is written in place: an event that is sent again is taken out at its old index and put in
at a new one, and indices that other logs take from the counter leave holes. All of this comes to
little if it is told along with what has been sent so far, numbered as it was. Of that a timeline
holds the last with each identity, and of what it holds a range gives the part between its bounds.

## Main definitions

* `Timeline.Step`, `Timeline.run`: what happens to a timeline and its counter
* `Timeline.history`: what has been sent, with the index of each
* `Timeline.Records`: a timeline holds the last with each identity

## Main results

* `Timeline.IsSound.entries_record`: entering an event moves the one with its identity to the end
* `Timeline.records_run`: a timeline holds the last of what has been sent
* `Timeline.refines_history`: so it is found, by identity and between bounds
-/

namespace ChatFeed.Timeline

/-! ### What is sent -/

/-- What happens to a timeline: an event is sent, and its recipients are looked up in a directory,
or another log takes an index from the counter. -/
inductive Step where
  | send (directory : Directory) (event : Event)
  | pass

/-- The feed after a step, whether it succeeds or not. -/
def perform (feed : Feed Timeline) : Step → Feed Timeline
  | .send directory event => (send directory event feed).2
  | .pass => { feed with counter := feed.counter.advance }

/-- The feed after a sequence of steps. -/
def run (feed : Feed Timeline) (steps : List Step) : Feed Timeline :=
  steps.foldl perform feed

namespace Step

/-- What a step enters at index `next`. Only what happens in a room is entered, but it is whether
or not the recipients are found. -/
def entered? (next : Nat) : Step → Option (Indexed Posting)
  | send _ event => event.room.map fun room => ⟨next, event, room, event.extraRecipient⟩
  | pass => none

/-- The index that is next after a step. -/
def after (next : Nat) : Step → Nat
  | send _ event => if event.room.isSome then next + 1 else next
  | pass => next + 1

end Step

/-- What a sequence of steps enters from index `next` on, in order. -/
def history (next : Nat) : List Step → List (Indexed Posting)
  | [] => []
  | step :: rest => (step.entered? next).toList ++ history (step.after next) rest

/-- The identity of what has been sent. -/
def sentId (sent : Indexed Posting) : EventId :=
  sent.item.event.id

variable {timeline : Timeline} {next : Nat} {feed : Feed Timeline} {step : Step}
  {steps : List Step} {sent : List (Indexed Posting)}

/-! ### Entering -/

/-- What is entered comes last, and the event with its identity is gone. -/
theorem IsSound.entries_record (sound : timeline.IsSound next) (posting : Posting) :
    (timeline.record next posting).postings.entries =
      timeline.postings.entries.filter (fun entry => entry.2.event.id ≠ posting.event.id) ++
        [(next, posting)] := by
  -- The index is that of the event with the identity, and of no other.
  have indexed {entry : Nat × Posting} (mem : entry ∈ timeline.postings.entries) :
      timeline.indices.get? posting.event.id = some entry.1 ↔
        entry.2.event.id = posting.event.id := by
    have found : timeline.postings.get? entry.1 = some entry.2 :=
      sound.sorted.mem_entries_iff.mp mem
    rw [sound.indexed, found]
    simp
  have below {entry : Nat × Posting} (mem : entry ∈ timeline.postings.entries) : entry.1 < next :=
    sound.below entry.1 entry.2 (sound.sorted.mem_entries_iff.mp mem)
  rw [Timeline.record]
  cases old : timeline.indices.get? posting.event.id with
  | none =>
    have kept : timeline.postings.entries.filter
        (fun entry => entry.2.event.id ≠ posting.event.id) = timeline.postings.entries := by
      rw [List.filter_eq_self]
      intro entry mem
      rw [decide_eq_true_eq, Ne, ← indexed mem, old]
      exact (Option.some_ne_none _).symm
    rw [kept]
    exact Table.place_of_forall_lt fun entry mem => below mem
  | some index =>
    have kept : (timeline.postings.erase index).entries = timeline.postings.entries.filter
        (fun entry => entry.2.event.id ≠ posting.event.id) := by
      refine List.filter_congr fun entry mem => ?_
      have same : entry.1 = index ↔ entry.2.event.id = posting.event.id := by
        rw [← indexed mem, old, Option.some.injEq, eq_comm]
      simp only [Ne, same]
    rw [← kept]
    exact Table.place_of_forall_lt fun entry mem => below (List.mem_filter.mp mem).1

/-! ### Steps -/

/-- Whether a feed has come about by what has been sent: its timeline holds the last with each
identity, and all had lower indices than the next. -/
structure Records (feed : Feed Timeline) (sent : List (Indexed Posting)) : Prop where
  sound : feed.log.IsSound feed.counter.current
  entries : feed.log.postings.entries =
    (latest sentId sent).map fun posted => (posted.index, posted.item)
  below : ∀ posted ∈ sent, posted.index < feed.counter.current
  nodup : sent.Nodup

/-- Indices are given out as they are counted, and what is entered is entered there. -/
theorem perform_eq (feed : Feed Timeline) (step : Step) :
    (perform feed step).counter.current = step.after feed.counter.current ∧
      (perform feed step).log =
        match step.entered? feed.counter.current with
        | some posted => feed.log.record posted.index posted.item
        | none => feed.log := by
  cases step with
  | pass => exact ⟨rfl, rfl⟩
  | send directory event =>
    rw [perform, Step.after, Step.entered?, send]
    cases event.room with
    | none => exact ⟨rfl, rfl⟩
    | some room =>
      simp only
      cases directory.users room <;> exact ⟨rfl, rfl⟩

theorem Step.le_after (step : Step) (next : Nat) : next ≤ step.after next := by
  cases step with
  | pass => exact Nat.le_succ next
  | send directory event =>
    rw [after]
    split
    next => exact Nat.le_succ next
    next => exact Nat.le_refl next

/-- What is entered uses up the next index. -/
theorem Step.of_entered? {posted : Indexed Posting} (entered : step.entered? next = some posted) :
    posted.index = next ∧ step.after next = next + 1 := by
  cases step with
  | pass => contradiction
  | send directory event =>
    obtain ⟨room, in_room, rfl⟩ := Option.map_eq_some_iff.mp entered
    refine ⟨rfl, ?_⟩
    rw [after, in_room]
    rfl

theorem IsSound.perform (sound : feed.log.IsSound feed.counter.current) (step : Step) :
    (perform feed step).log.IsSound (perform feed step).counter.current := by
  cases step with
  | send directory event => exact sound.send directory event
  | pass => exact sound.mono (Nat.le_succ _)

/-- Every step adds what it enters. -/
theorem Records.perform (records : Records feed sent) (step : Step) :
    Records (perform feed step) (sent ++ (step.entered? feed.counter.current).toList) := by
  obtain ⟨counter, log⟩ := perform_eq feed step
  have sound := records.sound.perform step
  cases entered : step.entered? feed.counter.current with
  -- Another log has taken an index, or the event is in no room.
  | none =>
    rw [entered] at log
    rw [Option.toList_none, List.append_nil]
    refine ⟨sound, ?_, fun posted mem => ?_, records.nodup⟩
    · rw [log]
      exact records.entries
    · rw [counter]
      exact Nat.lt_of_lt_of_le (records.below posted mem) (step.le_after _)
  | some posted =>
    obtain ⟨at_next, advanced⟩ := Step.of_entered? entered
    rw [entered] at log
    simp only [at_next] at log
    rw [advanced] at counter
    -- What is sent again is told apart by its index, which is above all others.
    have fresh : posted ∉ sent := by
      intro mem
      have below := records.below posted mem
      omega
    rw [Option.toList_some]
    constructor
    case sound => exact sound
    case entries =>
      rw [log, records.sound.entries_record, records.entries, latest_concat fresh, List.map_append,
        List.filter_map, List.map_singleton, at_next]
      rfl
    case below =>
      intro other mem
      rw [counter]
      rcases List.mem_append.mp mem with old | new
      · exact Nat.lt_succ_of_lt (records.below other old)
      · rw [List.mem_singleton.mp new, at_next]
        exact Nat.lt_succ_self _
    case nodup =>
      rw [List.nodup_append]
      refine ⟨records.nodup, List.nodup_singleton posted, fun other mem last single => ?_⟩
      rw [List.mem_singleton.mp single]
      exact ne_of_mem_of_not_mem mem fresh

/-! ### Runs -/

theorem run_concat (feed : Feed Timeline) (steps : List Step) (last : Step) :
    run feed (steps ++ [last]) = perform (run feed steps) last :=
  List.foldl_append

/-- What follows is numbered as the feed goes on. -/
theorem history_append (feed : Feed Timeline) (earlier later : List Step) :
    history feed.counter.current (earlier ++ later) =
      history feed.counter.current earlier ++
        history (run feed earlier).counter.current later := by
  induction earlier generalizing feed with
  | nil => rfl
  | cons step rest ih =>
    rw [List.cons_append, history, history, ← (perform_eq feed step).1, ih, List.append_assoc]
    rfl

theorem records_empty (counter : Counter) (dispatcher : Dispatcher) :
    Records { log := {}, counter, dispatcher } [] where
  sound := isSound_empty
  entries := rfl
  below _ mem := absurd mem List.not_mem_nil
  nodup := List.nodup_nil

/-- A timeline that has been empty holds the last of what has been sent since. -/
theorem records_run (counter : Counter) (dispatcher : Dispatcher) (steps : List Step) :
    Records (run { log := {}, counter, dispatcher } steps) (history counter.current steps) := by
  induction steps using List.reverseRecOn with
  | nil => exact records_empty counter dispatcher
  | append_singleton front last ih =>
    have numbered := history_append { log := {}, counter, dispatcher } front [last]
    rw [run_concat, numbered]
    simpa [history] using ih.perform last

/-! ### Reading -/

section Reading

variable {viewer : Option UserId} {rooms : List RoomId} {low high : Nat}

/-- What a viewer sees between two bounds of what has been sent and stands. -/
def shown (sent : List (Indexed Posting)) (viewer : Option UserId) (rooms : List RoomId)
    (low high : Nat) : List (Indexed Event) :=
  ((latest sentId sent).filter fun posted =>
    low ≤ posted.index ∧ posted.index < high ∧
      (posted.item.room ∈ rooms ∨ viewer.isSome ∧ posted.item.extraRecipient = viewer)).map
    fun posted => ⟨posted.index, posted.item.event⟩

theorem Records.window_eq (records : Records feed sent) :
    feed.log.window viewer rooms low high = shown sent viewer rooms low high := by
  rw [window, records.entries, List.filter_map, List.map_map, shown]
  refine congrArg _ (List.filter_congr fun posted _ => ?_)
  simp [isVisible]

theorem length_shown_le (sent : List (Indexed Posting)) :
    (shown sent viewer rooms low high).length ≤ sent.length := by
  rw [shown, List.length_map]
  exact Nat.le_trans (List.length_filter_le _ _) (List.length_filter_le _ _)

/-- A range is what is shown between the lower of its bounds and the upper one, or the end of the
timeline if that is lower still, from the bound at which it starts. -/
theorem Records.range_eq (records : Records feed sent) (viewer : Option UserId)
    (rooms : List RoomId) (start stop limit : Nat) :
    feed.log.range feed.counter viewer rooms start stop limit =
      let inside := shown sent viewer rooms (min start stop)
        (min (max start stop) feed.counter.current)
      (if stop < start then inside.reverse else inside).take limit := by
  rw [range]
  split
  next back =>
    rw [Nat.min_eq_right (Nat.le_of_lt back), Nat.max_eq_left (Nat.le_of_lt back),
      records.window_eq]
  next forth =>
    rw [Nat.min_eq_left (Nat.le_of_not_lt forth), Nat.max_eq_right (Nat.le_of_not_lt forth),
      records.window_eq]

/-- A range without a limit is the one with its bounds exchanged, read backwards. -/
theorem Records.range_swap (records : Records feed sent) (viewer : Option UserId)
    (rooms : List RoomId) (start stop : Nat) {limit : Nat} (unlimited : sent.length ≤ limit) :
    feed.log.range feed.counter viewer rooms stop start limit =
      (feed.log.range feed.counter viewer rooms start stop limit).reverse := by
  have all : (shown sent viewer rooms (min start stop)
      (min (max start stop) feed.counter.current)).length ≤ limit :=
    Nat.le_trans (length_shown_le sent) unlimited
  rw [records.range_eq, records.range_eq, Nat.min_comm stop, Nat.max_comm stop]
  dsimp only
  rcases Nat.lt_trichotomy start stop with forth | same | back
  · rw [if_pos forth, if_neg (Nat.lt_asymm forth), List.take_of_length_le all,
      List.take_of_length_le (Nat.le_trans (Nat.le_of_eq List.length_reverse) all)]
  -- There is nothing between a bound and itself.
  · subst same
    rw [← records.window_eq, Nat.min_self, Nat.max_self, window_eq_nil (Nat.min_le_left _ _)]
    simp
  · rw [if_neg (Nat.lt_asymm back), if_pos back, List.take_of_length_le all,
      List.take_of_length_le (Nat.le_trans (Nat.le_of_eq List.length_reverse) all),
      List.reverse_reverse]

theorem Records.ascending (records : Records feed sent) :
    (latest sentId sent).Pairwise (·.index < ·.index) := by
  have sorted := records.sound.sorted
  rw [Table.IsSorted, Table.keys, records.entries, List.map_map, List.pairwise_map] at sorted
  exact sorted

/-- A send that succeeds gives the index at which the event is entered. -/
theorem of_send_eq_ok {directory : Directory} {event : Event} {index : Nat}
    (answered : (send directory event feed).1 = .ok index) :
    ∃ room, event.room = some room ∧ (Step.send directory event).entered? feed.counter.current =
      some ⟨index, event, room, event.extraRecipient⟩ := by
  unfold send at answered
  split at answered
  next => contradiction
  next room in_room =>
    refine ⟨room, in_room, ?_⟩
    rw [Step.entered?, in_room]
    cases found : directory.users room with
    | error e =>
      simp only [found] at answered
      contradiction
    | ok users =>
      simp only [found] at answered
      obtain rfl := Except.ok.inj answered
      rfl

end Reading

/-- A timeline that has been written from the start, from whatever index, while other logs took
indices from its counter, holds the last of what has been sent with each identity, with the room and
the user outside it that were settled then, at the index that was given, and nothing else. Of each
identity it has one, and what leads from identities to indices is the inverse of what leads back. A
range gives as many as are wanted of those between its bounds that are in one of the rooms or
concern the viewer, from the bound at which it starts; without a limit it gives the same read
backwards if its bounds are exchanged. -/
theorem refines_history (counter : Counter) (dispatcher : Dispatcher) (steps : List Step) :
    let empty : Feed Timeline := { log := {}, counter, dispatcher }
    let feed := run empty steps
    let sent := history counter.current steps
    feed.log.postings.entries =
      (latest sentId sent).map (fun posted => (posted.index, posted.item)) ∧
    (latest sentId sent).Pairwise (·.index < ·.index) ∧
    (∀ id, (latest sentId sent).filter (fun posted => sentId posted = id) =
      (latest? sentId sent id).toList) ∧
    (∀ id index, feed.log.indices.get? id = some index ↔
      ∃ posting, feed.log.postings.get? index = some posting ∧ posting.event.id = id) ∧
    (∀ earlier directory event later index, steps = earlier ++ .send directory event :: later →
      (send directory event (run empty earlier)).1 = .ok index →
      ∃ room, event.room = some room ∧ ⟨index, event, room, event.extraRecipient⟩ ∈ sent) ∧
    (∀ viewer rooms start stop limit,
      feed.log.range feed.counter viewer rooms start stop limit =
        let inside :=
          shown sent viewer rooms (min start stop) (min (max start stop) feed.counter.current)
        (if stop < start then inside.reverse else inside).take limit) ∧
    ∀ viewer rooms start stop limit, sent.length ≤ limit →
      feed.log.range feed.counter viewer rooms stop start limit =
        (feed.log.range feed.counter viewer rooms start stop limit).reverse := by
  intro empty feed sent
  have records : Records feed sent := records_run counter dispatcher steps
  refine ⟨records.entries, records.ascending, filter_latest records.nodup, records.sound.indexed,
    ?_, records.range_eq,
    fun viewer rooms start stop limit => records.range_swap viewer rooms start stop⟩
  rintro earlier directory event later index rfl answered
  obtain ⟨room, in_room, entered⟩ := of_send_eq_ok answered
  refine ⟨room, in_room, ?_⟩
  have numbered := history_append empty earlier (.send directory event :: later)
  change _ ∈ history empty.counter.current (earlier ++ .send directory event :: later)
  rw [numbered, history, entered]
  simp

section Resent

/-- A message in the lobby. -/
def greeting (name body : String) : Event where
  id := Id.ofParts .event name "example.org"
  room := some (Id.ofParts .room "lobby" "example.org")
  sender := Id.ofParts .user "host" "example.org"
  time := default
  content := .message "m.text" body

/-- A first message is recorded and goes out to nobody, another log takes an index, a second message
follows, and the first one is sent again. -/
def resent : List Step :=
  [.send (Roster.directory { outage := some "offline" }) (greeting "first" "hello"), .pass,
    .send (Roster.directory {}) (greeting "second" "welcome"),
    .send (Roster.directory {}) (greeting "first" "hello again")]

/-- The second message stands at its index, and the first one at its new index. -/
theorem refines_history_resent :
    let feed := run { log := {}, counter := ⟨7⟩, dispatcher := {} } resent
    let lobby : RoomId := Id.ofParts .room "lobby" "example.org"
    feed.log.postings.entries = [(9, ⟨greeting "second" "welcome", lobby, none⟩),
      (10, ⟨greeting "first" "hello again", lobby, none⟩)] ∧
    (∃ room, (greeting "second" "welcome").room = some room ∧
      ⟨9, greeting "second" "welcome", room, none⟩ ∈ history 7 resent) ∧
    feed.log.range feed.counter none [lobby] 20 0 3 =
      (feed.log.range feed.counter none [lobby] 0 20 3).reverse := by
  intro feed lobby
  obtain ⟨entries, -, -, -, answers, -, swap⟩ := refines_history ⟨7⟩ {} resent
  refine ⟨?_, ?_, swap none [lobby] 0 20 3 (by decide +kernel)⟩
  · rw [entries]
    decide +kernel
  · exact answers (resent.take 2) (Roster.directory {}) (greeting "second" "welcome")
      (resent.drop 3) 9 rfl (by decide +kernel)

end Resent

end ChatFeed.Timeline
