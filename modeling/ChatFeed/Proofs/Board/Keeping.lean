import ChatFeed.Proofs.Board.Numbering
import ChatFeed.Proofs.Id
import ChatFeed.Proofs.Log.PresenceLog
import Mathlib.Data.List.Perm.Subperm

/-!
# What timelines and presence logs keep

A timeline keeps events by their identities, and a presence log keeps records by their users. The
events that tell of records have an identity for each user, so both come to the same: a log keeps
one event of each identity, the last that was entered, and a range gives what is kept between its
bounds to those whom it is for.

## Main definitions

* `AnyLog.eventOf?`: the event as which something is entered
* `AnyLog.Keeps`, `Board.Keeps`: an event is kept at an index
* `Board.Question`, `Board.ask?`: reading a timeline or a presence log
* `Board.IsSound`: the timelines of a board are as entering events leaves them

## Main results

* `AnyLog.keeps_of_enter?`: what is entered takes the place of the one with its identity
* `Board.isSound_run`: operations keep the timelines so
* `Board.mem_answer_iff`: what is kept is read
-/

namespace ChatFeed

/-- The events that tell of different users' records have different identities. -/
theorem PresenceLog.eventId_injective : Function.Injective eventId := by
  intro user other same
  -- Behind the same first characters, the texts of the identities are those of the users.
  have texts := congrArg Id.text same
  rw [eventId, eventId, Id.text_ofParts, Id.text_ofParts] at texts
  have chars := congrArg String.toList texts
  simp only [String.toList_ofList, String.toList_append, List.append_assoc] at chars
  exact Id.eq_of_joined (List.append_cancel_left (List.tail_eq_of_cons_eq chars))

/-- Whether an event is for a reader of a range: one that happens in a room, if it is one of the
rooms asked for or concerns the reader by itself; any other, if its sender is asked for. -/
def Event.IsFor (event : Event) (viewer : Option UserId) (users : List UserId)
    (rooms : List RoomId) : Prop :=
  match event.room with
  | some room => room ∈ rooms ∨ viewer.isSome ∧ event.extraRecipient = viewer
  | none => event.sender ∈ users

namespace AnyLog

/-! ### Keeping -/

/-- The event as which something is entered in a timeline or a presence log. -/
def eventOf? (log : AnyLog) (entry : Entry) : Option Event :=
  match log, entry with
  | timeline _, .event event => some event
  | presence log, .availability time user availability statusMessage =>
    some (PresenceLog.event user ⟨{ log.presence user with availability, statusMessage }, time⟩)
  | presence log, .profile time user profile =>
    let shown := { log.presence user with
      displayName := profile.displayName, avatarUrl := profile.avatarUrl }
    some (PresenceLog.event user ⟨shown, time⟩)
  | _, _ => none

/-- Whether an event is kept at an index: in a timeline under its identity, its room and the user
outside the room whom it concerns, in a presence log as the record of its user. -/
def Keeps (log : AnyLog) (item : Indexed Event) : Prop :=
  match log with
  | timeline log =>
    log.indices.get? item.item.id = some item.index ∧ ∃ room, item.item.room = some room ∧
      log.postings.get? item.index = some ⟨item.item, room, item.item.extraRecipient⟩
  | presence log => ∃ user record,
    log.records.get? user = some ⟨item.index, record⟩ ∧ PresenceLog.event user record = item.item
  | _ => False

/-- Whether a log is as entering events leaves it, when `next` is the index to be given out next. -/
def IsSound (log : AnyLog) (next : Nat) : Prop :=
  match log with
  | timeline log => log.IsSound next
  | _ => True

variable {log : AnyLog} {next : Nat} {directory : Directory} {entry : Entry} {event : Event}
  {feed after : Feed AnyLog} {result : Except LogError Receipt} {item : Indexed Event}

theorem IsSound.mono (sound : log.IsSound next) {later : Nat} (le : next ≤ later) :
    log.IsSound later := by
  cases log with
  | timeline log => exact Timeline.IsSound.mono sound le
  | _ => trivial

theorem isSound_of_mem_unused (mem : log ∈ unused) : log.IsSound next := by
  simp only [unused, List.mem_cons, List.not_mem_nil, or_false] at mem
  rcases mem with rfl | rfl | rfl | rfl | rfl
  case inr.inr.inr.inl => exact Timeline.isSound_empty
  all_goals trivial

/-- An event that is entered in a timeline takes out the one with its identity. -/
theorem keeps_record_iff {timeline : Timeline} (sound : timeline.IsSound next) {room : RoomId}
    (in_room : event.room = some room) :
    (AnyLog.timeline (timeline.record next ⟨event, room, event.extraRecipient⟩)).Keeps item ↔
      item = ⟨next, event⟩ ∨ item.item.id ≠ event.id ∧ (AnyLog.timeline timeline).Keeps item := by
  obtain ⟨index, other⟩ := item
  simp only [Keeps, Timeline.get?_indices_record, Timeline.get?_postings_record, Indexed.mk.injEq]
  by_cases same : event.id = other.id
  -- The identity leads to the new index, where the event itself stands.
  · rw [if_pos same, or_iff_left fun distinct => distinct.1 same.symm]
    constructor
    · rintro ⟨at_next, _, -, found⟩
      rw [if_pos (Option.some.inj at_next)] at found
      obtain ⟨rfl, -⟩ := Posting.mk.inj (Option.some.inj found)
      exact ⟨(Option.some.inj at_next).symm, rfl⟩
    · rintro ⟨rfl, rfl⟩
      exact ⟨rfl, room, in_room, if_pos rfl⟩
  -- Another identity leads where it did, which is neither the new index nor the one vacated.
  · have elsewhere (led : timeline.indices.get? other.id = some index) :
        next ≠ index ∧ timeline.indices.get? event.id ≠ some index := by
      obtain ⟨posting, found, named⟩ := (sound.indexed other.id index).mp led
      refine ⟨Nat.ne_of_gt (sound.below index posting found), fun vacated => same ?_⟩
      obtain ⟨again, found_again, named_again⟩ := (sound.indexed event.id index).mp vacated
      rw [found] at found_again
      rw [← named, ← named_again, Option.some.inj found_again]
    rw [if_neg same]
    constructor
    · rintro ⟨led, kept⟩
      obtain ⟨not_new, not_vacated⟩ := elsewhere led
      rw [if_neg not_new, if_neg not_vacated] at kept
      exact .inr ⟨Ne.symm same, led, kept⟩
    · rintro (⟨-, rfl⟩ | ⟨-, led, kept⟩)
      · exact absurd rfl same
      · obtain ⟨not_new, not_vacated⟩ := elsewhere led
        rw [if_neg not_new, if_neg not_vacated]
        exact ⟨led, kept⟩

/-- A record that is entered in a presence log takes the place of the user's last one. -/
theorem keeps_insert_iff {log : PresenceLog} {user : UserId} {record : PresenceRecord} :
    (presence ⟨log.records.insert user ⟨next, record⟩⟩).Keeps item ↔
      item = ⟨next, PresenceLog.event user record⟩ ∨
        item.item.id ≠ PresenceLog.eventId user ∧ (presence log).Keeps item := by
  obtain ⟨index, event⟩ := item
  simp only [Keeps, Table.get?_insert]
  constructor
  · rintro ⟨other, shown, found, rfl⟩
    split at found
    next same =>
      obtain ⟨rfl, rfl⟩ := Indexed.mk.inj (Option.some.inj found)
      exact .inl (same ▸ rfl)
    next distinct =>
      refine .inr ⟨fun same => distinct ?_, other, shown, found, rfl⟩
      exact (PresenceLog.eventId_injective same).symm
  · rintro (same | ⟨distinct, other, shown, found, rfl⟩)
    · obtain ⟨rfl, rfl⟩ := Indexed.mk.inj same
      exact ⟨user, record, if_pos rfl, rfl⟩
    · refine ⟨other, shown, ?_, rfl⟩
      rw [if_neg]
      · exact found
      · rintro rfl
        exact distinct rfl

/-! ### Entering -/

/-- An update changes the record of its user, and leaves all others as they are. -/
theorem keeps_update_iff (directory : Directory) (time : Timestamp) (user : UserId)
    (change : Presence → Presence) (feed : Feed PresenceLog) :
    (presence (PresenceLog.update directory time user change feed).2.log).Keeps item ↔
      item = ⟨feed.counter.current,
          PresenceLog.event user ⟨change (feed.log.presence user), time⟩⟩ ∨
        item.item.id ≠ PresenceLog.eventId user ∧ (presence feed.log).Keeps item := by
  obtain ⟨cause, -, kept⟩ | ⟨peers, told, -, -, sent⟩ :=
    PresenceLog.update_cases directory time user change feed
  · rw [kept]
    exact keeps_insert_iff
  · rw [sent]
    exact keeps_insert_iff

/-- What is entered is kept at the next index, in place of the event with its identity, whether or
not the directory answers. -/
theorem keeps_of_enter? (sound : feed.log.IsSound feed.counter.current)
    (is_event : feed.log.eventOf? entry = some event)
    (entered : enter? directory entry feed = some (result, after))
    (taken : result ≠ .error (.noRoom event.id)) :
    after.log.Keeps item ↔ item = ⟨feed.counter.current, event⟩ ∨
      item.item.id ≠ event.id ∧ feed.log.Keeps item := by
  obtain ⟨log, counter, dispatcher⟩ := feed
  simp only [eventOf?] at is_event
  -- The cases are the entries that are kept as events, each in its own kind of log.
  split at is_event
  next log sent =>
    obtain rfl := Option.some.inj is_event
    have sending : some ((Timeline.send directory sent ⟨log, counter, dispatcher⟩).1.map .index,
        (Timeline.send directory sent ⟨log, counter, dispatcher⟩).2.wrap timeline) =
          some (result, after) := entered
    obtain ⟨-, ends⟩ | ⟨room, cause, in_room, -, ends⟩ | ⟨room, users, in_room, -, ends⟩ :=
      Timeline.send_cases directory sent ⟨log, counter, dispatcher⟩
    all_goals
      rw [ends] at sending
      obtain ⟨rfl, rfl⟩ := Prod.mk.inj (Option.some.inj sending)
    · exact absurd rfl taken
    · exact keeps_record_iff sound in_room
    · exact keeps_record_iff sound in_room
  next log time user availability statusMessage =>
    obtain rfl := Option.some.inj is_event
    obtain ⟨rfl, rfl⟩ := Prod.mk.inj (Option.some.inj entered)
    exact keeps_update_iff directory time user
      (fun shown => { shown with availability, statusMessage }) ⟨log, counter, dispatcher⟩
  next log time user profile =>
    obtain rfl := Option.some.inj is_event
    obtain ⟨rfl, rfl⟩ := Prod.mk.inj (Option.some.inj entered)
    exact keeps_update_iff directory time user
      (fun shown =>
        { shown with displayName := profile.displayName, avatarUrl := profile.avatarUrl })
      ⟨log, counter, dispatcher⟩
  next => contradiction

theorem IsSound.enter? (sound : feed.log.IsSound feed.counter.current)
    (entered : enter? directory entry feed = some (result, after)) :
    after.log.IsSound after.counter.current := by
  obtain ⟨log, counter, dispatcher⟩ := feed
  cases log <;> cases entry
  case timeline.event log event =>
    obtain ⟨-, rfl⟩ := Prod.mk.inj (Option.some.inj entered)
    exact @Timeline.IsSound.send ⟨log, counter, dispatcher⟩ sound directory event
  -- The other logs have nothing to keep up, if they take the entry at all.
  all_goals first
    | contradiction
    | obtain ⟨-, rfl⟩ := Prod.mk.inj (Option.some.inj entered)
      trivial

end AnyLog

/-! ### Reading -/

namespace Board

/-- What may be asked of a timeline or a presence log. -/
inductive Question where
  | event (user : UserId) (id : EventId)
  | range (viewer : Option UserId) (users : List UserId) (rooms : List RoomId)
    (start stop limit : Nat)
  | presence (user : UserId)
  | profile (user : UserId)
  | max
deriving DecidableEq

/-- What is answered. -/
inductive Reply where
  | event (found : Except LogError (Option Event))
  | items (items : List (Indexed Event))
  | presence (shown : Presence)
  | profile (profile : Profile)
  | index (index : Nat)
deriving DecidableEq

end Board

namespace AnyLog

open Board (Question Reply)

/-- Reads a timeline or a presence log, with the directory it asks and its counter. -/
def ask? (log : AnyLog) (directory : Directory) (counter : Counter) (question : Question) :
    Option Reply :=
  match log, question with
  | timeline log, .event user id => some (.event (log.event? directory user id))
  | timeline log, .range viewer _ rooms start stop limit =>
    some (.items (log.range counter viewer rooms start stop limit))
  | presence log, .range _ users _ start stop _ => some (.items (log.range users start stop))
  | presence log, .presence user => some (.presence (log.presence user))
  | presence log, .profile user => some (.profile (log.profile user))
  | timeline _, .max | presence _, .max => some (.index counter.current)
  | _, _ => none

variable {log : AnyLog} {directory : Directory} {counter : Counter} {item : Indexed Event}
  {viewer : Option UserId} {users : List UserId} {rooms : List RoomId} {start stop limit : Nat}
  {items : List (Indexed Event)}

/-- There is at most one event at an index, so a window is no longer than it is wide. -/
theorem length_window_le {timeline : Timeline} {next : Nat} (sound : timeline.IsSound next) :
    (timeline.window viewer rooms start stop).length ≤ stop - start := by
  have distinct : ((timeline.window viewer rooms start stop).map (·.index)).Nodup :=
    List.pairwise_map.mpr (sound.ascending_window.imp Nat.ne_of_lt)
  have inside : (timeline.window viewer rooms start stop).map (·.index) ⊆
      List.range' start (stop - start) := by
    intro index mem
    obtain ⟨⟨_, event⟩, given, rfl⟩ := List.mem_map.mp mem
    obtain ⟨above, below, -⟩ := sound.mem_window_iff.mp given
    rw [List.mem_range'_1]
    dsimp only
    omega
  simpa using (List.subperm_of_subset distinct inside).length_le

/-- A range that has room for all between its bounds gives what is kept there to those whom it is
for. -/
theorem mem_answer_iff (sound : log.IsSound counter.current) (forth : start ≤ stop)
    (wide : stop - start ≤ limit)
    (answer : log.ask? directory counter (.range viewer users rooms start stop limit) =
      some (.items items)) :
    item ∈ items ↔ start ≤ item.index ∧ item.index < stop ∧ log.Keeps item ∧
      item.item.IsFor viewer users rooms := by
  obtain ⟨index, event⟩ := item
  cases log with
  | timeline timeline =>
    obtain rfl := Reply.items.inj (Option.some.inj answer)
    -- Neither the limit nor the counter cuts anything off, so the range is the window.
    have all := Nat.le_trans
      (@length_window_le viewer rooms start stop timeline _ sound) wide
    rw [Timeline.IsSound.range_eq sound, if_neg (Nat.not_lt.mpr forth),
      List.take_of_length_le all, Timeline.IsSound.mem_window_iff sound]
    refine and_congr_right fun _ => and_congr_right fun _ => ?_
    constructor
    · rintro ⟨posting, found, rfl, visible⟩
      -- A posting is filed under the room and the target of its own event.
      have in_room := sound.room index posting found
      have concerns := sound.extraRecipient index posting found
      refine ⟨⟨(sound.indexed _ _).mpr ⟨posting, found, rfl⟩, posting.room, in_room, ?_⟩, ?_⟩
      · rw [concerns]
        exact found
      · rw [Event.IsFor, in_room, concerns]
        simpa [Timeline.isVisible] using visible
    · rintro ⟨⟨-, room, in_room, found⟩, is_for⟩
      rw [Event.IsFor, in_room] at is_for
      exact ⟨_, found, rfl, by simpa [Timeline.isVisible] using is_for⟩
  | presence log =>
    obtain rfl := Reply.items.inj (Option.some.inj answer)
    rw [PresenceLog.mem_range_iff]
    refine and_congr_right fun _ => and_congr_right fun _ => ?_
    constructor
    · rintro ⟨user, asked, record, found, rfl⟩
      exact ⟨⟨user, record, found, rfl⟩, asked⟩
    · rintro ⟨⟨user, record, found, rfl⟩, asked⟩
      exact ⟨user, asked, record, found, rfl⟩
  | _ => contradiction

/-- Of the directory only the rooms of a user are asked for. -/
theorem ask?_congr {other : Directory} (same : ∀ user, directory.rooms user = other.rooms user)
    (question : Question) :
    log.ask? directory counter question = log.ask? other counter question := by
  cases log with
  | timeline timeline =>
    cases question with
    | event user id =>
      apply congrArg fun found => some (Reply.event found)
      rw [Timeline.event?, Timeline.event?, same]
    | _ => rfl
  | _ => cases question <;> rfl

end AnyLog

namespace Board

variable {board : Board} {name : String} {entry : Entry} {item : Indexed Event}
  {placed : PlacedLog} {feed : Feed AnyLog} {result : Except LogError Receipt}

/-- The event as which something is entered in a timeline or a presence log of the board. -/
def eventOf? (board : Board) (name : String) (entry : Entry) : Option Event :=
  (board.logs.get? name).bind fun placed => placed.log.eventOf? entry

/-- Whether a log of the board keeps an event at an index. -/
def Keeps (board : Board) (name : String) (item : Indexed Event) : Prop :=
  ∃ placed, board.logs.get? name = some placed ∧ placed.log.Keeps item

theorem keeps_iff_of_get? (found : board.logs.get? name = some placed) :
    board.Keeps name item ↔ placed.log.Keeps item := by
  rw [Keeps, found]
  simp

/-- Reads a timeline or a presence log of the board. -/
def ask? (board : Board) (name : String) (question : Question) : Option Reply :=
  (board.logs.get? name).bind fun placed =>
    placed.log.ask? board.directory (board.counter placed.counter) question

/-! ### Boards as operations leave them -/

/-- Whether every log of the board is as entering events leaves it. -/
def IsSound (board : Board) : Prop :=
  ∀ name placed, board.logs.get? name = some placed →
    placed.log.IsSound (board.counter placed.counter).current

/-- No operation sets a counter back. -/
theorem le_counter_perform (board : Board) (operation : Operation) (counterName : String) :
    (board.counter counterName).current ≤
      ((board.perform operation).2.counter counterName).current := by
  obtain ⟨count, -, counted⟩ := board.exists_taken_eq counterName operation
  rw [counted]
  exact Nat.le_add_right _ _

theorem IsSound.putFeed (sound : board.IsSound) (found : board.logs.get? name = some placed)
    (entered : AnyLog.enter? board.directory entry (board.feed placed) = some (result, feed)) :
    (board.putFeed name id placed.counter feed).IsSound := by
  obtain ⟨count, enters⟩ := AnyLog.enters_of_enter? entered
  intro other beside at_other
  rw [get?_logs_putFeed] at at_other
  split at at_other
  next =>
    obtain rfl := Option.some.inj at_other
    rw [counter_putFeed, if_pos rfl]
    have own := sound name placed found
    exact AnyLog.IsSound.enter? own entered
  next => exact (sound other beside at_other).mono (le_counter_putFeed name enters beside.counter)

theorem IsSound.perform (sound : board.IsSound) (operation : Operation) :
    (board.perform operation).2.IsSound := by
  cases operation with
  | direct directory => exact sound
  | act action => exact sound
  | increment counterName =>
    intro name placed found
    exact (sound name placed found).mono
      (board.le_counter_perform (.increment counterName) placed.counter)
  | write name entry =>
    rw [Board.perform]
    obtain ⟨e, -, refused⟩ | ⟨placed, result, feed, found, entered, written⟩ :=
      board.write_cases name entry
    · rw [refused]
      exact sound
    · rw [written]
      exact sound.putFeed found entered

theorem IsSound.run (sound : board.IsSound) (operations : List Operation) :
    (board.run operations).2.IsSound := by
  induction operations generalizing board with
  | nil => exact sound
  | cons operation rest ih => exact ih (sound.perform operation)

theorem isSound_of_unused (unused : ∀ entry ∈ board.logs.entries, entry.2.log ∈ AnyLog.unused) :
    board.IsSound := by
  intro name placed found
  exact AnyLog.isSound_of_mem_unused (unused _ (Table.mem_of_lookup found))

/-- What a log keeps is read between any bounds by those whom it is for. -/
theorem mem_answer_iff {viewer : Option UserId} {users : List UserId} {rooms : List RoomId}
    {start stop limit : Nat} {items : List (Indexed Event)} (sound : board.IsSound)
    (forth : start ≤ stop) (wide : stop - start ≤ limit)
    (answer : board.ask? name (.range viewer users rooms start stop limit) =
      some (.items items)) :
    item ∈ items ↔ start ≤ item.index ∧ item.index < stop ∧ board.Keeps name item ∧
      item.item.IsFor viewer users rooms := by
  obtain ⟨placed, found, answer⟩ := Option.bind_eq_some_iff.mp answer
  rw [keeps_iff_of_get? found]
  exact AnyLog.mem_answer_iff (sound name placed found) forth wide answer

end Board

end ChatFeed
