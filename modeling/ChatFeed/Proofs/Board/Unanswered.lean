import ChatFeed.Proofs.Board.Keeping
import ChatFeed.Proofs.Board.Sink

/-!
# Writes that the directory leaves unanswered

A timeline and a presence log enter first, and ask the directory afterwards who is to be told. If it
does not answer, the write fails and nobody is told, but what has been entered stays. So nothing
that is kept, counted or read from then on depends on what the directory has answered to writes.
Only an event of no room is turned away before anything is done.

## Main definitions

* `Entry.audience`: who is to be told of an entry
* `Board.Records`: a board with one more event in a log
* `Board.WriteEnds`: a write ends by what the directory answers
* `Board.SameLogs`: boards with the same logs and counters

## Main results

* `Board.write_ends`: how every write of an event ends
* `Board.run_filter_sameLogs`: the logs are what has been entered, whoever could be told of it
* `Board.unanswered_writes_are_kept`: both, after any operations
-/

namespace ChatFeed

open Hub (Hands)

/-! ### Who is to be told -/

/-- Who is to be told of an entry: of an event, the users in its room and then the user outside it
whom it concerns, unless listed already; of a record, the peers of its user; of anything else,
nobody. -/
def Entry.audience (directory : Directory) : Entry → Except LogError (List UserId)
  | .event sent =>
    match sent.room with
    | none => .error (.noRoom sent.id)
    | some room => ((directory.users room).mapError .membership).map fun users =>
      users ++ sent.extraRecipient.toList.filter (· ∉ users)
  | .availability _ user _ _ | .profile _ user _ => (directory.peers user).mapError .membership
  | _ => .ok []

theorem Timeline.recipients_eq (users : List UserId) (extraRecipient : Option UserId) :
    recipients users extraRecipient =
      users ++ extraRecipient.toList.filter (· ∉ users) := by
  cases extraRecipient with
  | none => exact (List.append_nil users).symm
  | some user => by_cases listed : user ∈ users <;> simp [recipients, listed]

/-- An event is entered whether or not the directory answers, and whoever listens. -/
theorem Timeline.send_congr (directory answering : Directory) (event : Event)
    (feed : Feed Timeline) (dispatcher : Dispatcher) :
    (send directory event feed).2.log = (send answering event { feed with dispatcher }).2.log ∧
      (send directory event feed).2.counter =
        (send answering event { feed with dispatcher }).2.counter := by
  unfold send
  cases event.room with
  | none => exact ⟨rfl, rfl⟩
  | some room =>
    simp only
    cases directory.users room <;> cases answering.users room <;> exact ⟨rfl, rfl⟩

/-- So is a record. -/
theorem PresenceLog.update_congr (directory answering : Directory) (time : Timestamp)
    (user : UserId) (change : Presence → Presence) (feed : Feed PresenceLog)
    (dispatcher : Dispatcher) :
    (update directory time user change feed).2.log =
        (update answering time user change { feed with dispatcher }).2.log ∧
      (update directory time user change feed).2.counter =
        (update answering time user change { feed with dispatcher }).2.counter := by
  unfold update
  simp only
  cases directory.peers user <;> cases answering.peers user <;> exact ⟨rfl, rfl⟩

namespace AnyLog

variable {log : AnyLog} {entry : Entry} {event : Event}

/-- What a write comes to is the event as which it is entered, on its way to its audience. -/
theorem told?_eq (log : AnyLog) (directory : Directory) (entry : Entry) (next : Nat) :
    log.told? directory entry next = (log.eventOf? entry).map fun event =>
      (entry.audience directory).map fun recipients => ⟨recipients, ⟨next, event⟩⟩ := by
  cases log with
  | timeline log =>
    cases entry with
    | event event =>
      apply congrArg some
      rw [Timeline.told, Entry.audience]
      cases event.room with
      | none => rfl
      | some room =>
        simp only
        cases directory.users room with
        | error cause => rfl
        | ok users =>
          simp only [Timeline.recipients_eq]
          rfl
    | _ => rfl
  | presence log =>
    cases entry with
    | availability time user availability statusMessage =>
      apply congrArg some
      rw [PresenceLog.told, Entry.audience]
      cases directory.peers user <;> rfl
    | profile time user profile =>
      apply congrArg some
      rw [PresenceLog.told, Entry.audience]
      cases directory.peers user <;> rfl
    | _ => rfl
  | _ => cases entry <;> rfl

/-- What an entry makes of a log and its counter does not depend on the directory, nor on who
listens. -/
theorem enter?_congr (directory answering : Directory) (entry : Entry) {feed other : Feed AnyLog}
    (same_log : feed.log = other.log) (same_counter : feed.counter = other.counter) :
    (enter? directory entry feed).map (fun ends => (ends.2.log, ends.2.counter)) =
      (enter? answering entry other).map fun ends => (ends.2.log, ends.2.counter) := by
  obtain ⟨log, counter, dispatcher⟩ := feed
  obtain ⟨_, _, waiting⟩ := other
  obtain rfl : log = _ := same_log
  obtain rfl : counter = _ := same_counter
  cases log <;> cases entry
  case timeline.event log event =>
    obtain ⟨same_log, same_counter⟩ := Timeline.send_congr directory answering event
      ⟨log, counter, dispatcher⟩ waiting
    exact congrArg some (Prod.ext (congrArg timeline same_log) same_counter)
  case presence.availability log time user availability statusMessage =>
    obtain ⟨same_log, same_counter⟩ := PresenceLog.update_congr directory answering time user
      (fun shown => { shown with availability, statusMessage }) ⟨log, counter, dispatcher⟩ waiting
    exact congrArg some (Prod.ext (congrArg presence same_log) same_counter)
  case presence.profile log time user profile =>
    obtain ⟨same_log, same_counter⟩ := PresenceLog.update_congr directory answering time user
      (fun shown =>
        { shown with displayName := profile.displayName, avatarUrl := profile.avatarUrl })
      ⟨log, counter, dispatcher⟩ waiting
    exact congrArg some (Prod.ext (congrArg presence same_log) same_counter)
  -- No other log looks at either of them.
  all_goals rfl

/-- What is entered as an event is one thing to be numbered. -/
theorem size_of_eventOf? (is_event : log.eventOf? entry = some event) : entry.size = 1 := by
  cases log <;> cases entry <;> first | rfl | contradiction

end AnyLog

namespace Board

variable {board other : Board} {name : String} {entry : Entry} {event : Event}
  {placed : PlacedLog} {feed : Feed AnyLog} {result : Except LogError Receipt}
  {starts : String → Nat}

/-! ### One write -/

/-- Whether one board is the other with one more event in a log, at the next index, where no log
with the same counter kept anything. It takes the place of the event with its identity. -/
structure Records (before after : Board) (name : String) (item : Indexed Event) : Prop where
  next : before.max? name = some item.index
  taken : after.max? name = some (item.index + 1)
  fresh : ∀ other, before.counterOf? other = before.counterOf? name →
    ¬before.Stores other item.index
  kept : ∀ kept, after.Keeps name kept ↔
    kept = item ∨ kept.item.id ≠ item.item.id ∧ before.Keeps name kept
  logs : ∀ other, other ≠ name → after.logs.get? other = before.logs.get? other
  counters : ∀ counterName, before.counterOf? name ≠ some counterName →
    after.counter counterName = before.counter counterName

/-- Whether nothing on a board has changed. -/
structure IsUntouched (before after : Board) : Prop where
  logs : ∀ name, after.logs.get? name = before.logs.get? name
  counters : ∀ counterName, after.counter counterName = before.counter counterName
  directory : after.directory = before.directory
  dispatcher : after.dispatcher = before.dispatcher

/-- How a write ends that is to enter `item`, by what the directory answers when it is asked for the
audience. -/
def WriteEnds (board : Board) (name : String) (entry : Entry) (item : Indexed Event) : Prop :=
  let outcome := (board.write name entry).1
  let after := (board.write name entry).2
  match entry.audience board.directory with
  | .error (.noRoom id) => outcome = .error (.log (.noRoom id)) ∧ board.IsUntouched after
  | .error (.membership cause) => outcome = .error (.log (.membership cause)) ∧
    board.Records after name item ∧ after.dispatcher.calls = board.dispatcher.calls ∧
      after.dispatcher.mux = board.dispatcher.mux
  | .ok recipients => ∃ receipt, outcome = .ok receipt ∧ receipt.IsFor entry item ∧
    board.Records after name item ∧ Hands board.dispatcher after.dispatcher true ⟨recipients, item⟩

theorem records_putFeed (numbered : board.IsNumbered starts) (sound : board.IsSound)
    (found : board.logs.get? name = some placed)
    (is_event : placed.log.eventOf? entry = some event)
    (entered : AnyLog.enter? board.directory entry (board.feed placed) = some (result, feed))
    (counted : feed.counter.current = (board.counter placed.counter).current + 1)
    (taken : result ≠ .error (.noRoom event.id)) :
    board.Records (board.putFeed name id placed.counter feed) name
      ⟨(board.counter placed.counter).current, event⟩ := by
  have found_after : (board.putFeed name id placed.counter feed).logs.get? name =
      some ⟨feed.log, placed.counter⟩ := by
    rw [get?_logs_putFeed, if_pos rfl]
  constructor
  case next => exact max?_of_get? found
  case taken =>
    rw [max?_of_get? found_after, counter_putFeed, if_pos rfl, counted]
  case fresh =>
    -- What is kept by a log with the counter stands below where the counter does.
    rintro other same ⟨beside, at_other, stores⟩
    rw [counterOf?_of_get? found, counterOf?_of_get? at_other] at same
    have within := numbered.within other beside _ at_other stores
    rw [Option.some.inj same] at within
    exact Nat.lt_irrefl _ within.2
  case kept =>
    intro kept
    rw [keeps_iff_of_get? found, keeps_iff_of_get? found_after]
    have own : (board.feed placed).log.IsSound (board.feed placed).counter.current :=
      sound name placed found
    exact AnyLog.keeps_of_enter? own is_event entered taken
  case logs =>
    intro other distinct
    rw [get?_logs_putFeed, if_neg (Ne.symm distinct)]
  case counters =>
    intro counterName foreign
    rw [counterOf?_of_get? found] at foreign
    rw [counter_putFeed, if_neg fun same => foreign (congrArg some same)]

theorem isUntouched_putFeed (found : board.logs.get? name = some placed) :
    board.IsUntouched (board.putFeed name id placed.counter (board.feed placed)) where
  logs other := by
    rw [get?_logs_putFeed]
    split
    next same =>
      subst same
      exact found.symm
    next => rfl
  counters counterName := by
    rw [counter_putFeed]
    split
    next same => exact congrArg board.counter same
    next => rfl
  directory := rfl
  dispatcher := rfl

/-- How every write ends that is to enter an event. -/
theorem write_ends (numbered : board.IsNumbered starts) (sound : board.IsSound) {next : Nat}
    (is_event : board.eventOf? name entry = some event) (at_next : board.max? name = some next) :
    board.WriteEnds name entry ⟨next, event⟩ := by
  obtain ⟨placed, found, is_event⟩ := Option.bind_eq_some_iff.mp is_event
  obtain rfl := Option.some.inj (at_next.symm.trans (max?_of_get? found))
  have comes_to := (board.feed placed).log.told?_eq board.directory entry
    (board.feed placed).counter.current
  rw [show (board.feed placed).log.eventOf? entry = some event from is_event,
    Option.map_some] at comes_to
  obtain ⟨result, feed, entered, gives, leaves⟩ := AnyLog.enter?_of_told?_eq_some comes_to
  obtain ⟨count, enters⟩ := AnyLog.enters_of_enter? entered
  -- If anything is entered it is one event, so one index is taken.
  have records (single : count = 1) (taken : result ≠ .error (.noRoom event.id)) :=
    records_putFeed numbered sound found is_event entered (single ▸ enters.counter) taken
  rw [WriteEnds, write_of_enter? found entered]
  cases asked : entry.audience board.directory with
  | error cause =>
    rw [asked] at gives leaves
    obtain rfl : result = .error cause := gives
    obtain ⟨-, calls, mux⟩ := leaves
    cases cause with
    | noRoom id =>
      cases enters.numbers with
      | refused _ unchanged =>
        rw [unchanged]
        exact ⟨rfl, isUntouched_putFeed found⟩
    | membership cause =>
      have single : count = 1 := by
        cases enters.numbers with
        | kept _ _ => rfl
      exact ⟨rfl, records single nofun, calls, mux⟩
  | ok recipients =>
    rw [asked] at gives leaves
    obtain ⟨receipt, rfl, is_for⟩ := gives
    obtain ⟨-, hands⟩ := leaves
    have single : count = 1 := by
      cases enters.numbers with
      | given _ _ => exact AnyLog.size_of_eventOf? is_event
    exact ⟨receipt, rfl, is_for, records single nofun, hands⟩

/-! ### Runs -/

/-- Whether two boards have the same logs and counters. -/
structure SameLogs (board other : Board) : Prop where
  logs : board.logs = other.logs
  counters : board.counters = other.counters

/-- Whether an operation is for the logs and their counters, and not for the directory or the
listeners. -/
def Operation.isForLogs : Operation → Bool
  | .write _ _ | .increment _ => true
  | .direct _ | .act _ => false

theorem SameLogs.write (same : board.SameLogs other) (name : String) (entry : Entry) :
    (board.write name entry).2.SameLogs (other.write name entry).2 := by
  rw [write_eq, write_eq, same.logs]
  cases other.logs.get? name with
  | none => exact same
  | some placed =>
    have same_counter : (board.feed placed).counter = (other.feed placed).counter := by
      simp only [Board.feed, counter, same.counters]
    have ends := @AnyLog.enter?_congr board.directory other.directory entry (board.feed placed)
      (other.feed placed) rfl same_counter
    -- So the log takes the entry on both boards, or on neither.
    simp only
    cases entered : AnyLog.enter? board.directory entry (board.feed placed) with
    | none =>
      rw [entered, Option.map_none, eq_comm, Option.map_eq_none_iff] at ends
      rw [ends]
      exact same
    | some ended =>
      rw [entered, Option.map_some, eq_comm, Option.map_eq_some_iff] at ends
      obtain ⟨other_ended, entered_too, alike⟩ := ends
      obtain ⟨log, counter⟩ := Prod.mk.inj alike
      rw [entered_too]
      refine ⟨?_, ?_⟩
      · simp only [putFeed, put, log, same.logs]
      · simp only [putFeed, put, counter, same.counters]

theorem SameLogs.perform (same : board.SameLogs other) (operation : Operation) :
    (board.perform operation).2.SameLogs (other.perform operation).2 := by
  cases operation with
  | write name entry => exact same.write name entry
  | increment counterName =>
    refine ⟨same.logs, ?_⟩
    simp only [Board.perform, increment, counter, same.counters]
  | direct directory => exact ⟨same.logs, same.counters⟩
  | act action => exact ⟨same.logs, same.counters⟩

/-- The directory and the listeners have no logs. -/
theorem sameLogs_perform {operation : Operation} (not_for_logs : operation.isForLogs = false) :
    (board.perform operation).2.SameLogs board := by
  cases operation with
  | direct directory => exact ⟨rfl, rfl⟩
  | act action => exact ⟨rfl, rfl⟩
  | _ => contradiction

/-- The logs are what has been entered, whatever the directory has answered and whoever has
listened. -/
theorem run_filter_sameLogs (same : board.SameLogs other) (operations : List Operation) :
    (board.run operations).2.SameLogs (other.run (operations.filter Operation.isForLogs)).2 := by
  induction operations generalizing board other with
  | nil => exact same
  | cons operation rest ih =>
    cases for_logs : operation.isForLogs with
    | true =>
      rw [List.filter_cons_of_pos for_logs]
      exact ih (same.perform operation)
    | false =>
      -- The other run leaves this operation out.
      obtain ⟨logs, counters⟩ := @sameLogs_perform board operation for_logs
      rw [List.filter_cons_of_neg (Bool.eq_false_iff.mp for_logs)]
      exact ih ⟨logs.trans same.logs, counters.trans same.counters⟩

/-- What is read from logs that are the same is the same, if the same is learned from the directory
about the rooms of users. -/
theorem SameLogs.ask? (same : board.SameLogs other)
    (rooms : ∀ user, board.directory.rooms user = other.directory.rooms user) (name : String)
    (question : Question) : board.ask? name question = other.ask? name question := by
  rw [Board.ask?, Board.ask?, same.logs]
  apply congrArg (Option.bind _)
  funext placed
  rw [AnyLog.ask?_congr rooms, counter, counter, same.counters]

/-- Nothing has been entered in the logs of a board. Whatever is then done to it, a write of an
event or a record ends by what the directory answers. An event of no room is turned away, and
nothing has changed. If the directory does not answer, its error is what the write gives, and
neither the sink nor a listener has been handed anything; if it answers, the write succeeds and is
handed out to those whom the directory names, and last to the user outside the room, unless named
already. Either way what was to be entered is kept at the next index, where nothing stood, in place
of what had its identity, and what is kept is read by those whom it is for. So nothing that is read
depends on what the directory has answered to writes, nor on anything that happened to listeners:
another board that started with the same logs and was told to enter the same has the same logs and
counters, and gives the same answers to the same questions, as far as the directory then gives the
same rooms. -/
theorem unanswered_writes_are_kept (board : Board)
    (unused : ∀ entry ∈ board.logs.entries, entry.2.log ∈ AnyLog.unused)
    (operations : List Operation) :
    let done := (board.run operations).2
    (∀ name entry event next, done.eventOf? name entry = some event → done.max? name = some next →
      done.WriteEnds name entry ⟨next, event⟩) ∧
    (∀ name viewer users rooms start stop limit items, start ≤ stop → stop - start ≤ limit →
      done.ask? name (.range viewer users rooms start stop limit) = some (.items items) →
      ∀ item, item ∈ items ↔ start ≤ item.index ∧ item.index < stop ∧ done.Keeps name item ∧
        item.item.IsFor viewer users rooms) ∧
    ∀ directory dispatcher others,
      others.filter Operation.isForLogs = operations.filter Operation.isForLogs →
      let other := ({ board with directory, dispatcher }.run others).2
      done.SameLogs other ∧ ∀ first second : Directory,
        (∀ user, first.rooms user = second.rooms user) → ∀ name question,
          { done with directory := first }.ask? name question =
            { other with directory := second }.ask? name question := by
  intro done
  have numbered := (isNumbered_of_unused unused).run operations
  have sound := (isSound_of_unused unused).run operations
  refine ⟨?_, ?_, ?_⟩
  · intro name entry event next is_event at_next
    exact write_ends numbered sound is_event at_next
  · intro name viewer users rooms start stop limit items forth wide answer item
    exact mem_answer_iff sound forth wide answer
  · intro directory dispatcher others entered other
    -- Both runs are compared with one that does nothing but enter.
    have start : board.SameLogs { board with directory, dispatcher } := ⟨rfl, rfl⟩
    have here := run_filter_sameLogs start operations
    have there := @run_filter_sameLogs { board with directory, dispatcher } _ ⟨rfl, rfl⟩ others
    rw [entered] at there
    have same : done.SameLogs other :=
      ⟨here.logs.trans there.logs.symm, here.counters.trans there.counters.symm⟩
    refine ⟨same, fun first second rooms name question => ?_⟩
    have alike : { done with directory := first }.SameLogs { other with directory := second } :=
      ⟨same.logs, same.counters⟩
    exact alike.ask? rooms name question

/-- A message is sent again while the directory does not answer. It is kept at its new index alone,
as if the directory had answered from the start. -/
theorem unanswered_writes_are_kept_shared :
    let done := (shared.run mixed).2
    let message := saying (some (Id.ofParts .room "lobby" "example.org"))
    let after := (done.write "lobby" (.event message)).2
    (done.write "lobby" (.event message)).1 =
        .error (.log (.membership (.unavailable "offline"))) ∧
      done.Keeps "lobby" ⟨7, message⟩ ∧ after.Keeps "lobby" ⟨9, message⟩ ∧
      ¬after.Keeps "lobby" ⟨7, message⟩ ∧
      done.SameLogs ({ shared with directory := Roster.directory {} }.run mixed).2 := by
  intro done message after
  obtain ⟨ends, reads, same⟩ := unanswered_writes_are_kept shared (by decide +kernel) mixed
  have ended := ends "lobby" (.event message) message 9 (by decide +kernel) (by decide +kernel)
  have asked : (Entry.event message).audience done.directory =
      .error (.membership (.unavailable "offline")) := by decide +kernel
  simp only [WriteEnds] at ended
  rw [asked] at ended
  obtain ⟨outcome, records, -⟩ := ended
  have read : done.ask? "lobby" (.range none [] [Id.ofParts .room "lobby" "example.org"] 0 9 9) =
      some (.items [⟨7, message⟩]) := by decide +kernel
  have kept := (reads "lobby" none [] _ 0 9 9 _ (by decide) (by decide) read ⟨7, message⟩).mp
    (List.mem_singleton_self _)
  refine ⟨outcome, kept.2.2.1, (records.kept _).mpr (.inl rfl), fun still => ?_,
    (same (Roster.directory {}) {} mixed rfl).1⟩
  rcases (records.kept _).mp still with new | ⟨distinct, -⟩
  · exact absurd (congrArg Indexed.index new) (by decide)
  · exact distinct rfl

end Board

end ChatFeed
