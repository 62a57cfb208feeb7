import ChatFeed.Directory.Roster
import ChatFeed.Proofs.Collection.Sorted
import ChatFeed.Proofs.Collection.Standing
import ChatFeed.Proofs.Id
import ChatFeed.Proofs.Log.FanOut
import ChatFeed.Proofs.Log.Writing

/-!
# Presence logs as what has been set

A record is made of two parts that are set apart from each other, and each time either is set the
record gets a new index and the other part has to be taken over. Told along with the updates so far,
numbered as they were, a user shows what they last set of either part, at the index of their last
update of any kind; whether anyone could be told of an update leaves no trace.

A record that is updated leaves the place where a reader may not have been yet, and goes beyond
wherever they are. So a reader who asks for one window after another, each up to the counter, has
been given what everyone shows after each of them, and no record twice at the same index.

## Main definitions

* `PresenceLog.Step`, `PresenceLog.run`: what happens to a presence log and its counter
* `PresenceLog.history`: what has been set, with the index of each update
* `PresenceLog.shown`: what a user shows by what has been set
* `PresenceLog.Records`: a presence log shows what has been set
* `PresenceLog.Poller`: a reader who asks for one window after another

## Main results

* `PresenceLog.Records.perform`: whatever happens adds what is set
* `PresenceLog.Records.latest?_range`: a window has the record of a user once, or not at all
* `PresenceLog.Poller.Tracks.poll`: a poll catches up with the counter
* `PresenceLog.polls_refine_updates`: so presence is read and polled
-/

namespace ChatFeed.PresenceLog

/-! ### What is set -/

/-- A part of a record, as it is set. -/
inductive Change where
  | status (availability : Availability) (statusMessage : Option String)
  | profile (profile : Profile)

namespace Change

/-- The availability and status message that are set. -/
def status? : Change → Option (Availability × Option String)
  | .status availability statusMessage => some (availability, statusMessage)
  | .profile _ => none

/-- The profile that is set. -/
def profile? : Change → Option Profile
  | .status _ _ => none
  | .profile given => some given

/-- What a user shows after a change. -/
def apply : Change → Presence → Presence
  | .status availability statusMessage, presence => { presence with availability, statusMessage }
  | .profile given, presence =>
    { presence with displayName := given.displayName, avatarUrl := given.avatarUrl }

end Change

/-- What a user sets, and when. -/
structure Update where
  time : Timestamp
  user : UserId
  change : Change

/-- What happens to a presence log: a part of a record is set, and the user's peers are looked up in
a directory, or another log takes an index from the counter. -/
inductive Step where
  | update (directory : Directory) (update : Update)
  | pass

/-- The feed after a step, whether it succeeds or not. -/
def perform (feed : Feed PresenceLog) : Step → Feed PresenceLog
  | .update directory ⟨time, user, .status availability statusMessage⟩ =>
    (setAvailability directory time user availability statusMessage feed).2
  | .update directory ⟨time, user, .profile profile⟩ =>
    (setProfile directory time user profile feed).2
  | .pass => { feed with counter := feed.counter.advance }

/-- The feed after a sequence of steps. -/
def run (feed : Feed PresenceLog) (steps : List Step) : Feed PresenceLog :=
  steps.foldl perform feed

/-- What a step sets at index `next`, whether or not anyone is told. -/
def Step.set? (next : Nat) : Step → Option (Indexed Update)
  | .update _ entry => some ⟨next, entry⟩
  | .pass => none

/-- What a sequence of steps sets from index `next` on, in order. -/
def history (next : Nat) : List Step → List (Indexed Update)
  | [] => []
  | step :: rest => (step.set? next).toList ++ history (next + 1) rest

/-- The user whose record is updated. -/
def updater (entry : Indexed Update) : UserId :=
  entry.item.user

/-- The last of what a user has set of one part. -/
def lastSet? {α : Type} (part : Change → Option α) (updates : List (Indexed Update))
    (user : UserId) : Option α :=
  ((updates.filter fun entry => updater entry = user).filterMap
    fun entry => part entry.item.change).getLast?

/-- What a user shows by what has been set: of either part the last, or what is shown by default. -/
def shown (updates : List (Indexed Update)) (user : UserId) : Presence :=
  let status := (lastSet? Change.status? updates user).getD (.offline, none)
  let profile := (lastSet? Change.profile? updates user).getD {}
  ⟨status.1, status.2, profile.displayName, profile.avatarUrl⟩

/-- The record of a user by what has been set: what they show, as of their last update. -/
def recordOf? (updates : List (Indexed Update)) (user : UserId) :
    Option (Indexed PresenceRecord) :=
  (latest? updater updates user).map fun last =>
    ⟨last.index, shown updates user, last.item.time⟩

variable {log : PresenceLog} {feed : Feed PresenceLog} {updates : List (Indexed Update)}
  {user : UserId}

/-! ### One more update -/

section LastSet

variable {α : Type} (part : Change → Option α)

theorem lastSet?_append (earlier later : List (Indexed Update)) :
    lastSet? part (earlier ++ later) user =
      (lastSet? part later user).or (lastSet? part earlier user) := by
  rw [lastSet?, List.filter_append, List.filterMap_append, List.getLast?_append]
  rfl

theorem lastSet?_singleton (entry : Indexed Update) : lastSet? part [entry] user =
    if updater entry = user then part entry.item.change else none := by
  rw [lastSet?, List.filter_singleton]
  by_cases own : updater entry = user
  · cases set : part entry.item.change <;> simp [own, set]
  · simp [own]

/-- What is set later counts, if it is the user's own and of this part. -/
theorem lastSet?_concat (last : Indexed Update) : lastSet? part (updates ++ [last]) user =
    if updater last = user then (part last.item.change).or (lastSet? part updates user)
    else lastSet? part updates user := by
  rw [lastSet?_append, lastSet?_singleton]
  split <;> rfl

end LastSet

/-- The part that is not set stays as it was. -/
theorem shown_concat_self (last : Indexed Update) : shown (updates ++ [last]) (updater last) =
    last.item.change.apply (shown updates (updater last)) := by
  rw [shown, lastSet?_concat, lastSet?_concat, if_pos rfl, if_pos rfl]
  cases last.item.change <;> rfl

theorem shown_concat_of_ne {last : Indexed Update} (other : updater last ≠ user) :
    shown (updates ++ [last]) user = shown updates user := by
  rw [shown, lastSet?_concat, lastSet?_concat, if_neg other, if_neg other]
  rfl

theorem recordOf?_concat (last : Indexed Update) : recordOf? (updates ++ [last]) user =
    if updater last = user then
      some ⟨last.index, shown (updates ++ [last]) user, last.item.time⟩
    else recordOf? updates user := by
  rw [recordOf?, latest?_concat]
  by_cases own : updater last = user
  · rw [if_pos own, if_pos own]
    rfl
  · rw [if_neg own, if_neg own, shown_concat_of_ne own]
    rfl

/-- Who has set nothing shows what is shown by default. -/
theorem shown_of_latest?_eq_none (nothing : latest? updater updates user = none) :
    shown updates user = {} := by
  have own : updates.filter (fun entry => updater entry = user) = [] :=
    List.getLast?_eq_none_iff.mp nothing
  rw [shown, lastSet?, lastSet?, own]
  rfl

/-! ### Steps -/

/-- Whether a feed has come about by what has been set: its log has the record of each user, and all
updates had lower indices than the next. -/
structure Records (feed : Feed PresenceLog) (updates : List (Indexed Update)) : Prop where
  sorted : feed.log.records.IsSorted
  record : ∀ user, feed.log.records.get? user = recordOf? updates user
  below : ∀ entry ∈ updates, entry.index < feed.counter.current
  ascending : updates.Pairwise (·.index < ·.index)

/-- What a user shows is what they have set. -/
theorem Records.presence_eq (records : Records feed updates) (user : UserId) :
    feed.log.presence user = shown updates user := by
  rw [presence, records.record, recordOf?]
  cases last : latest? updater updates user with
  | none => exact (shown_of_latest?_eq_none last).symm
  | some entry => rfl

/-- A part of a record is set by changing the record. -/
theorem perform_update (feed : Feed PresenceLog) (directory : Directory) (entry : Update) :
    perform feed (.update directory entry) =
      (PresenceLog.update directory entry.time entry.user entry.change.apply feed).2 := by
  obtain ⟨time, user, change⟩ := entry
  cases change <;> rfl

/-- A part of a record is set at the next index, whether or not anyone is told. -/
theorem perform_eq (feed : Feed PresenceLog) (step : Step) :
    (perform feed step).counter.current = feed.counter.current + 1 ∧
      (perform feed step).log.records =
        match step.set? feed.counter.current with
        | some entry => feed.log.records.insert (updater entry)
            ⟨entry.index, entry.item.change.apply (feed.log.presence (updater entry)),
              entry.item.time⟩
        | none => feed.log.records := by
  cases step with
  | pass => exact ⟨rfl, rfl⟩
  | update directory entry =>
    rw [perform_update]
    obtain ⟨cause, -, updated⟩ | ⟨peers, item, -, -, updated⟩ :=
      update_cases directory entry.time entry.user entry.change.apply feed
    · rw [updated]
      exact ⟨rfl, rfl⟩
    · rw [updated]
      exact ⟨rfl, rfl⟩

theorem Step.index_of_set? {step : Step} {next : Nat} {entry : Indexed Update}
    (set : step.set? next = some entry) : entry.index = next := by
  cases step with
  | pass => contradiction
  | update directory entry => exact (Option.some.inj set) ▸ rfl

/-- Every step adds what it sets. -/
theorem Records.perform (records : Records feed updates) (step : Step) :
    Records (perform feed step) (updates ++ (step.set? feed.counter.current).toList) := by
  obtain ⟨counter, log⟩ := perform_eq feed step
  cases set : step.set? feed.counter.current with
  -- Another log has taken an index.
  | none =>
    simp only [set] at log
    rw [Option.toList_none, List.append_nil]
    refine ⟨?_, fun user => ?_, fun entry mem => ?_, records.ascending⟩
    · rw [log]
      exact records.sorted
    · rw [log]
      exact records.record user
    · rw [counter]
      exact Nat.lt_succ_of_lt (records.below entry mem)
  | some last =>
    have at_next := Step.index_of_set? set
    simp only [set] at log
    rw [Option.toList_some]
    constructor
    case sorted =>
      rw [log]
      exact records.sorted.insert _ _
    case record =>
      intro user
      rw [log, Table.get?_insert, recordOf?_concat]
      by_cases own : updater last = user
      · rw [if_pos own, if_pos own, ← own, shown_concat_self, records.presence_eq]
      · rw [if_neg own, if_neg own]
        exact records.record user
    case below =>
      intro entry mem
      rw [counter]
      rcases List.mem_append.mp mem with old | new
      · exact Nat.lt_succ_of_lt (records.below entry old)
      · rw [List.mem_singleton.mp new, at_next]
        exact Nat.lt_succ_self _
    case ascending =>
      rw [List.pairwise_append]
      refine ⟨records.ascending, List.pairwise_singleton _ last, fun entry old other single => ?_⟩
      rw [List.mem_singleton.mp single, at_next]
      exact records.below entry old

/-! ### Runs -/

theorem run_concat (feed : Feed PresenceLog) (steps : List Step) (last : Step) :
    run feed (steps ++ [last]) = perform (run feed steps) last :=
  List.foldl_append

/-- What follows is numbered as the feed goes on. -/
theorem history_append (feed : Feed PresenceLog) (earlier later : List Step) :
    history feed.counter.current (earlier ++ later) =
      history feed.counter.current earlier ++
        history (run feed earlier).counter.current later := by
  induction earlier generalizing feed with
  | nil => rfl
  | cons step rest ih =>
    rw [List.cons_append, history, history, ← (perform_eq feed step).1, ih, List.append_assoc]
    rfl

theorem records_empty (counter : Counter) (dispatcher : Dispatcher) :
    Records { log := {}, counter, dispatcher } [] where
  sorted := List.Pairwise.nil
  record _ := rfl
  below _ mem := absurd mem List.not_mem_nil
  ascending := List.Pairwise.nil

/-- A presence log that has been empty shows what has been set since. -/
theorem records_run (counter : Counter) (dispatcher : Dispatcher) (steps : List Step) :
    Records (run { log := {}, counter, dispatcher } steps) (history counter.current steps) := by
  induction steps using List.reverseRecOn with
  | nil => exact records_empty counter dispatcher
  | append_singleton front last ih =>
    have numbered := history_append { log := {}, counter, dispatcher } front [last]
    rw [run_concat, numbered]
    simpa [history] using ih.perform last

/-! ### Reading -/

/-- The event that tells of what a user shows now. -/
def told? (log : PresenceLog) (user : UserId) : Option (Indexed Event) :=
  (log.records.get? user).map fun record => ⟨record.index, event user record.item⟩

/-- The user whose record an event tells of. -/
def teller (item : Indexed Event) : UserId :=
  item.item.sender

theorem teller_of_told? {item : Indexed Event} (told : log.told? user = some item) :
    teller item = user := by
  obtain ⟨record, -, rfl⟩ := Option.map_eq_some_iff.mp told
  rfl

/-- A window has the records of the users asked for that were last updated in it. -/
theorem range_eq (log : PresenceLog) (users : List UserId) (start stop : Nat) :
    log.range users start stop = sortByIndex (users.filterMap fun user =>
      (log.told? user).filter fun item => start ≤ item.index ∧ item.index < stop) := by
  rw [range]
  refine congrArg sortByIndex (List.filterMap_congr fun user _ => ?_)
  rw [told?]
  cases log.records.get? user with
  | none => rfl
  | some record =>
    rw [Option.map_some, Option.filter_some]
    simp only [decide_eq_true_eq]

theorem mem_range_iff_told {users : List UserId} {start stop : Nat} {item : Indexed Event} :
    item ∈ log.range users start stop ↔
      start ≤ item.index ∧ item.index < stop ∧ ∃ user ∈ users, log.told? user = some item := by
  rw [range_eq, mem_sortByIndex_iff, List.mem_filterMap]
  simp only [Option.filter_eq_some_iff, decide_eq_true_eq]
  constructor
  · rintro ⟨user, mem, told, above, below⟩
    exact ⟨above, below, user, mem, told⟩
  · rintro ⟨above, below, user, mem, told⟩
    exact ⟨user, mem, told, above, below⟩

/-- Of a user asked for, a window has their record if they were last updated in it. -/
theorem latest?_range {users : List UserId} (mem : user ∈ users) (start stop : Nat) :
    latest? teller (log.range users start stop) user =
      (log.told? user).filter fun item => start ≤ item.index ∧ item.index < stop := by
  refine Option.ext fun item => ?_
  rw [Option.filter_eq_some_iff, decide_eq_true_eq]
  constructor
  · intro last
    obtain ⟨given, own⟩ := mem_of_latest? last
    obtain ⟨above, below, other, -, told⟩ := mem_range_iff_told.mp given
    obtain rfl : other = user := (teller_of_told? told).symm.trans own
    exact ⟨told, above, below⟩
  · rintro ⟨told, above, below⟩
    have given : item ∈ log.range users start stop :=
      mem_range_iff_told.mpr ⟨above, below, user, mem, told⟩
    have teller_mem : user ∈ (log.range users start stop).map teller :=
      List.mem_map.mpr ⟨item, given, teller_of_told? told⟩
    obtain ⟨last, is_last, own⟩ := exists_latest? teller_mem
    obtain ⟨-, -, other, -, last_told⟩ := mem_range_iff_told.mp (mem_of_latest? is_last).1
    obtain rfl : other = user := (teller_of_told? last_told).symm.trans own
    rw [is_last, ← last_told, told]

/-- The record of a user has the index of their last update. -/
theorem Records.told?_eq (records : Records feed updates) {item : Indexed Event} :
    feed.log.told? user = some item ↔ ∃ last, latest? updater updates user = some last ∧
      item = ⟨last.index, event user ⟨shown updates user, last.item.time⟩⟩ := by
  rw [told?, records.record, recordOf?, Option.map_map, Option.map_eq_some_iff]
  refine exists_congr fun last => and_congr_right fun _ => ?_
  rw [eq_comm]
  rfl

/-- What is set stands at the counter, so a record below it has been there. -/
theorem told?_of_told?_perform {step : Step} {item : Indexed Event}
    (told : (perform feed step).log.told? user = some item)
    (below : item.index < feed.counter.current) : feed.log.told? user = some item := by
  have log := (perform_eq feed step).2
  rw [told?] at told ⊢
  cases set : step.set? feed.counter.current with
  | none =>
    simp only [set] at log
    rwa [log] at told
  | some last =>
    simp only [set] at log
    rw [log, Table.get?_insert] at told
    by_cases own : updater last = user
    · rw [if_pos own, Option.map_some, Option.some.injEq] at told
      have at_next := Step.index_of_set? set
      have at_last : item.index = last.index := (congrArg Indexed.index told).symm
      omega
    · rwa [if_neg own] at told

/-- The last update of a user has the highest index of all of theirs. -/
theorem Records.le_of_latest? (records : Records feed updates) {entry last : Indexed Update}
    (is_last : latest? updater updates user = some last) (mem : entry ∈ updates)
    (own : updater entry = user) : entry.index ≤ last.index := by
  have ascending : (updates.filter fun entry => updater entry = user).Pairwise
      (·.index < ·.index) := records.ascending.filter _
  have own_mem : entry ∈ updates.filter fun entry => updater entry = user :=
    List.mem_filter.mpr ⟨mem, decide_eq_true own⟩
  obtain ⟨front, own_updates⟩ := List.getLast?_eq_some_iff.mp is_last
  rw [own_updates] at ascending own_mem
  rcases List.mem_append.mp own_mem with earlier | single
  · exact Nat.le_of_lt
      ((List.pairwise_append.mp ascending).2.2 entry earlier last (List.mem_singleton_self last))
  · exact Nat.le_of_eq (congrArg Indexed.index (List.mem_singleton.mp single))

/-- Who has set anything has a record, which is not older than that, and at an index given out. -/
theorem Records.told?_of_mem (records : Records feed updates) {entry : Indexed Update}
    (mem : entry ∈ updates) : ∃ item, feed.log.told? (updater entry) = some item ∧
      entry.index ≤ item.index ∧ item.index < feed.counter.current := by
  obtain ⟨last, is_last, -⟩ := exists_latest? (List.mem_map_of_mem mem : _ ∈ updates.map updater)
  exact ⟨_, records.told?_eq.mpr ⟨last, is_last, rfl⟩, records.le_of_latest? is_last mem rfl,
    records.below last (mem_of_latest? is_last).1⟩

/-- No two users have a record at one index. -/
theorem Records.eq_of_index_eq (records : Records feed updates) {user other : UserId}
    {item item' : Indexed Event} (told : feed.log.told? user = some item)
    (told' : feed.log.told? other = some item') (same : item.index = item'.index) :
    user = other := by
  obtain ⟨last, is_last, rfl⟩ := records.told?_eq.mp told
  obtain ⟨last', is_last', rfl⟩ := records.told?_eq.mp told'
  obtain ⟨mem, rfl⟩ := mem_of_latest? is_last
  obtain ⟨mem', rfl⟩ := mem_of_latest? is_last'
  have nodup : (updates.map (·.index)).Nodup :=
    List.pairwise_map.mpr (records.ascending.imp Nat.ne_of_lt)
  exact congrArg updater (List.inj_on_of_nodup_map nodup mem mem' same)

/-- In a window of a set of users indices ascend. -/
theorem Records.ascending_range (records : Records feed updates) {users : List UserId}
    (nodup : users.Nodup) (start stop : Nat) :
    (feed.log.range users start stop).Pairwise (·.index < ·.index) := by
  rw [range_eq]
  refine ascending_sortByIndex (List.Pairwise.filterMap _ ?_ nodup)
  intro user other distinct item given item' given' same
  exact distinct (records.eq_of_index_eq (Option.filter_eq_some_iff.mp given).1
    (Option.filter_eq_some_iff.mp given').1 same)

/-! ### Polling -/

/-- What can happen while a reader polls: anything that is done to the log or its counter, and the
next poll. -/
inductive Turn where
  | other (step : Step)
  | poll

/-- A reader who polls, and the log they read from. -/
structure Poller where
  feed : Feed PresenceLog
  /-- Where the next window starts. -/
  cursor : Nat
  /-- What the polls gave, oldest first. -/
  polls : List (List (Indexed Event)) := []

namespace Poller

/-- The poller after a turn. Each window goes from where the one before ended to the counter. -/
def step (users : List UserId) (poller : Poller) : Turn → Poller
  | .other step => { poller with feed := perform poller.feed step }
  | .poll =>
    let stop := poller.feed.counter.current
    { poller with
      cursor := stop
      polls := poller.polls ++ [poller.feed.log.range users poller.cursor stop] }

/-- The poller after a sequence of turns. -/
def run (users : List UserId) (poller : Poller) (turns : List Turn) : Poller :=
  turns.foldl (step users) poller

end Poller

/-- What is done to the log or its counter while a reader polls. -/
def Turn.step? : Turn → Option Step
  | .other step => some step
  | .poll => none

namespace Poller

variable {users : List UserId} {first : Nat} {poller : Poller}

theorem run_concat (users : List UserId) (poller : Poller) (turns : List Turn) (last : Turn) :
    run users poller (turns ++ [last]) = step users (run users poller turns) last :=
  List.foldl_append

/-- Polls leave the log alone. -/
theorem feed_run (users : List UserId) (poller : Poller) (turns : List Turn) :
    (run users poller turns).feed = PresenceLog.run poller.feed (turns.filterMap Turn.step?) := by
  induction turns using List.reverseRecOn with
  | nil => rfl
  | append_singleton front last ih =>
    rw [run_concat, List.filterMap_append]
    cases last with
    | other step =>
      change _ = PresenceLog.run _ (_ ++ [step])
      rw [PresenceLog.run_concat, ← ih]
      rfl
    | poll =>
      change _ = PresenceLog.run _ (_ ++ [])
      rw [List.append_nil, ← ih]
      rfl

/-- Whether the polls since the cursor was at `first` have told the users' records from there up to
the cursor last, and nothing twice. Before the first poll the cursor may be above the counter. -/
structure Tracks (users : List UserId) (first : Nat) (poller : Poller) : Prop where
  records : ∃ updates, Records poller.feed updates
  cursor : poller.polls = [] ∧ poller.cursor = first ∨
    poller.cursor ≤ poller.feed.counter.current
  passed : ∀ item ∈ poller.polls.flatten, item.index < poller.cursor
  ascending : poller.polls.flatten.Pairwise (·.index < ·.index)
  current : ∀ user ∈ users, ∀ item, poller.feed.log.told? user = some item → first ≤ item.index →
    item.index < poller.cursor → latest? teller poller.polls.flatten user = some item

theorem tracks_start {feed : Feed PresenceLog} (records : Records feed updates) :
    Tracks users first { feed, cursor := first } where
  records := ⟨updates, records⟩
  cursor := .inl ⟨rfl, rfl⟩
  passed _ mem := absurd mem List.not_mem_nil
  ascending := List.Pairwise.nil
  current _ _ _ _ from_first below := absurd below (Nat.not_lt.mpr from_first)

/-- What has been told was there to be told. -/
theorem Tracks.below_counter (tracks : Tracks users first poller) :
    ∀ item ∈ poller.polls.flatten, item.index < poller.feed.counter.current := by
  intro item mem
  rcases tracks.cursor with ⟨nothing, -⟩ | inside
  · rw [nothing] at mem
    contradiction
  · exact Nat.lt_of_lt_of_le (tracks.passed item mem) inside

/-- A record that is updated goes beyond the cursor. -/
theorem Tracks.other (tracks : Tracks users first poller) (step : Step) :
    Tracks users first (poller.step users (.other step)) := by
  obtain ⟨updates, records⟩ := tracks.records
  constructor
  case records => exact ⟨_, records.perform step⟩
  case cursor =>
    refine tracks.cursor.imp_right fun inside => Nat.le_trans inside ?_
    exact Nat.le_trans (Nat.le_succ _) (Nat.le_of_eq (perform_eq poller.feed step).1.symm)
  case passed => exact tracks.passed
  case ascending => exact tracks.ascending
  case current =>
    intro user mem item told from_first below
    rcases tracks.cursor with ⟨-, unmoved⟩ | inside
    · exact absurd (unmoved ▸ below) (Nat.not_lt.mpr from_first)
    · have told_before := told?_of_told?_perform told (Nat.lt_of_lt_of_le below inside)
      exact tracks.current user mem item told_before from_first below

/-- A poll catches up with the counter. -/
theorem Tracks.poll (tracks : Tracks users first poller) (nodup : users.Nodup) :
    Tracks users first (poller.step users .poll) := by
  obtain ⟨updates, records⟩ := tracks.records
  have polled : (poller.step users .poll).polls.flatten = poller.polls.flatten ++
      poller.feed.log.range users poller.cursor poller.feed.counter.current := by
    rw [step, List.flatten_append, List.flatten_singleton]
  constructor
  case records => exact ⟨updates, records⟩
  case cursor => exact .inr (Nat.le_refl _)
  case passed =>
    rw [polled]
    intro item mem
    rcases List.mem_append.mp mem with earlier | now
    · exact tracks.below_counter item earlier
    · exact (mem_range_iff_told.mp now).2.1
  case ascending =>
    rw [polled, List.pairwise_append]
    refine ⟨tracks.ascending, records.ascending_range nodup _ _, fun item earlier later now => ?_⟩
    exact Nat.lt_of_lt_of_le (tracks.passed item earlier) (mem_range_iff_told.mp now).1
  case current =>
    intro user mem item told from_first below
    change poller.feed.log.told? user = some item at told
    change item.index < poller.feed.counter.current at below
    rw [polled, latest?_append, latest?_range mem, told, Option.filter_some]
    rcases Nat.lt_or_ge item.index poller.cursor with passed | ahead
    -- The record has not been updated since the last poll, so it is not told again.
    · have outside : ¬(poller.cursor ≤ item.index ∧ item.index < poller.feed.counter.current) :=
        fun within => Nat.not_lt.mpr within.1 passed
      rw [decide_eq_false outside]
      exact tracks.current user mem item told from_first passed
    · rw [decide_eq_true ⟨ahead, below⟩]
      rfl

theorem Tracks.run (tracks : Tracks users first poller) (nodup : users.Nodup) (turns : List Turn) :
    Tracks users first (poller.run users turns) := by
  induction turns generalizing poller with
  | nil => exact tracks
  | cons turn rest ih =>
    cases turn with
    | other step => exact ih (tracks.other step)
    | poll => exact ih (tracks.poll nodup)

end Poller

/-- A presence log that has been written from the start, from whatever index and while other logs
took indices from its counter, shows of every user the last availability, status message and profile
that they set, whether or not anyone could be told of it, and an update of one user changes nothing
that others show. It has one record of each user, at the index of their last update. A window has
the records of the users asked for with indices in it, and there indices ascend. A reader who asks
for one window after another, from any index on and each up to the counter, while the log is written
to, has after each poll been told of every user asked for with an update since that index, and what
they were told last is the record of that user; over all polls indices ascend, so no record is told
twice at one index. -/
theorem polls_refine_updates (counter : Counter) (dispatcher : Dispatcher) (steps : List Step)
    (users : List UserId) (first : Nat) (turns : List Turn) (nodup : users.Nodup) :
    let empty : Feed PresenceLog := { log := {}, counter, dispatcher }
    let feed := run empty steps
    let updates := history counter.current steps
    (∀ user, feed.log.presence user = shown updates user ∧
      feed.log.records.get? user = recordOf? updates user) ∧
    feed.log.records.keys.Pairwise (· < ·) ∧
    (∀ user directory entry, entry.user ≠ user →
      (perform feed (.update directory entry)).log.presence user = feed.log.presence user ∧
      (perform feed (.update directory entry)).log.records.get? user =
        feed.log.records.get? user) ∧
    (∀ start stop item, item ∈ feed.log.range users start stop ↔
      start ≤ item.index ∧ item.index < stop ∧ ∃ user ∈ users, feed.log.told? user = some item) ∧
    (∀ start stop, (feed.log.range users start stop).Pairwise (·.index < ·.index)) ∧
    let poller := (({ feed, cursor := first } : Poller).run users turns).step users .poll
    let updates_since := history counter.current (steps ++ turns.filterMap Turn.step?)
    poller.feed = run empty (steps ++ turns.filterMap Turn.step?) ∧
    (∀ user ∈ users, (∃ entry ∈ updates_since, updater entry = user ∧ first ≤ entry.index) →
      ∃ item, poller.feed.log.told? user = some item ∧
        latest? teller poller.polls.flatten user = some item) ∧
    poller.polls.flatten.Pairwise (·.index < ·.index) := by
  intro empty feed updates
  have records : Records feed updates := records_run counter dispatcher steps
  refine ⟨fun user => ⟨records.presence_eq user, records.record user⟩, records.sorted, ?_,
    fun start stop item => mem_range_iff_told, records.ascending_range nodup, ?_⟩
  · intro user directory entry other
    have records_after := records.perform (.update directory entry)
    rw [records_after.presence_eq, records.presence_eq, records_after.record, records.record]
    exact ⟨shown_concat_of_ne other, (recordOf?_concat _).trans (if_neg other)⟩
  intro poller updates_since
  have tracks : Poller.Tracks users first poller :=
    ((Poller.tracks_start records).run nodup turns).poll nodup
  have written : poller.feed = run empty (steps ++ turns.filterMap Turn.step?) :=
    (Poller.feed_run users _ turns).trans List.foldl_append.symm
  have records_since : Records poller.feed updates_since :=
    written ▸ records_run counter dispatcher _
  refine ⟨written, ?_, tracks.ascending⟩
  rintro user mem ⟨entry, entry_mem, rfl, from_first⟩
  obtain ⟨item, told, newer, below⟩ := records_since.told?_of_mem entry_mem
  exact ⟨item, told, tracks.current _ mem item told (Nat.le_trans from_first newer) below⟩

section Overtaken

/-- A user of the lobby. -/
def resident (name : String) : UserId := Id.ofParts .user name "example.org"

/-- A resident sets a part of their record, and the others are told. -/
def sets (name : String) (change : Change) : Step :=
  .update (Roster.directory {}) ⟨default, resident name, change⟩

/-- The first resident comes online and the second one takes a name. Nobody can be told of the
first. -/
def arrivals : List Step :=
  [.update (Roster.directory { outage := some "offline" })
      ⟨default, resident "first", .status .online (some "here")⟩,
    sets "second" (.profile { displayName := some "Second" })]

/-- The first resident takes a name after a reader has been told that they are online, and another
log takes an index. -/
def named : List Turn :=
  [.poll, .other .pass, .other (sets "first" (.profile { displayName := some "First" }))]

/-- In the end the reader has been told that the first resident is online and has a name. -/
theorem polls_refine_updates_named :
    let feed := run { log := {}, counter := ⟨5⟩, dispatcher := {} } arrivals
    let users := [resident "first", resident "second"]
    let poller := (({ feed, cursor := 5 } : Poller).run users named).step users .poll
    feed.log.presence (resident "first") = ⟨.online, some "here", none, none⟩ ∧
      latest? teller poller.polls.flatten (resident "first") =
        some ⟨8, event (resident "first")
          ⟨⟨.online, some "here", some "First", none⟩, default⟩⟩ := by
  intro feed users poller
  obtain ⟨shows, -, -, -, -, -, told, -⟩ := polls_refine_updates ⟨5⟩ {} arrivals users 5 named
    (by decide +kernel)
  refine ⟨(shows (resident "first")).1.trans (by decide +kernel), ?_⟩
  obtain ⟨item, current, last⟩ := told (resident "first") List.mem_cons_self
    (by decide +kernel)
  rw [last, ← current]
  decide +kernel

end Overtaken

end ChatFeed.PresenceLog
