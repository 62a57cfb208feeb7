import ChatFeed.Proofs.Board.Operation
import ChatFeed.Proofs.Hub.Audience

/-!
# A board and its sink

A sink is told of what goes out, and that is all. What a write gives and leaves behind, up to who is
woken, is settled before the sink is called and whatever it answers, so boards that differ in their
sinks alone cannot be told apart by what is learned from them. And what the sink is told is settled
before anybody listens: a write to a timeline or a presence log that succeeds comes to one delivery,
and one that fails comes to none.

## Main definitions

* `Board.silent`, `Board.setSink`: a board without its sink, and with another one
* `AnyLog.told?`: what a write to a timeline or a presence log comes to
* `Board.HandsOut`: a write hands out one delivery, whoever listens
* `Board.WriteOffers`, `Board.RunOffers`: what a write, and a run, offers to the sink

## Main results

* `Board.run_silent`: the sink has no say in anything
* `Board.run_offers`: the sink is called once for each write that goes out, and for nothing else
-/

namespace ChatFeed

open Hub (Hands)

/-! ### Without a sink -/

namespace AnyLog

/-- What ends the same way without a sink does so as a write to a log of any kind. -/
theorem wrap_silent {Log α : Type} {write : Feed Log → Except LogError α × Feed Log}
    {feed : Feed Log} {kind : Log → AnyLog} {receive : α → Receipt}
    (same : (write feed.silent).1 = (write feed).1 ∧
      (write feed.silent).2.silent = (write feed).2.silent) :
    ∃ result after quiet,
      some ((write feed).1.map receive, (write feed).2.wrap kind) = some (result, after) ∧
      some ((write feed.silent).1.map receive, (write feed.silent).2.wrap kind) =
        some (result, quiet) ∧
      quiet.silent = after.silent := by
  obtain ⟨result, after⟩ := same
  obtain ⟨log, counter, mux⟩ := Feed.silent_eq_iff.mp after
  refine ⟨_, _, (write feed.silent).2.wrap kind, rfl, ?_,
    Feed.silent_eq_iff.mpr ⟨congrArg kind log, counter, mux⟩⟩
  rw [result]

/-- Without a sink a log takes an entry just the same. -/
theorem enter?_silent (directory : Directory) (entry : Entry) (feed : Feed AnyLog) :
    enter? directory entry feed = none ∧ enter? directory entry feed.silent = none ∨
      ∃ result after quiet, enter? directory entry feed = some (result, after) ∧
        enter? directory entry feed.silent = some (result, quiet) ∧
        quiet.silent = after.silent := by
  obtain ⟨log, counter, dispatcher⟩ := feed
  cases log <;> cases entry
  case timeline.event log event =>
    exact .inr (wrap_silent (Timeline.send_silent directory event ⟨log, counter, dispatcher⟩))
  case presence.availability log time user availability statusMessage =>
    have same := PresenceLog.update_silent directory time user
      (fun shown => { shown with availability, statusMessage }) ⟨log, counter, dispatcher⟩
    exact .inr (wrap_silent same)
  case presence.profile log time user profile =>
    have same := PresenceLog.update_silent directory time user
      (fun shown =>
        { shown with displayName := profile.displayName, avatarUrl := profile.avatarUrl })
      ⟨log, counter, dispatcher⟩
    exact .inr (wrap_silent same)
  -- No other log looks at the dispatcher.
  all_goals first | exact .inl ⟨rfl, rfl⟩ | exact .inr ⟨_, _, _, rfl, rfl, rfl⟩

end AnyLog

namespace Board

/-- The board without its sink. -/
def silent (board : Board) : Board :=
  { board with dispatcher := board.dispatcher.silent }

/-- The board with another sink, or with none. -/
def setSink (board : Board) (sink : Option Sink) : Board :=
  { board with dispatcher := { board.dispatcher with sink } }

theorem silent_putFeed {board : Board} {name counterName : String} {feed quiet : Feed AnyLog}
    (same : quiet.silent = feed.silent) :
    (board.silent.putFeed name id counterName quiet).silent =
      (board.putFeed name id counterName feed).silent := by
  obtain ⟨log, counter, mux⟩ := Feed.silent_eq_iff.mp same
  rw [putFeed, putFeed, log, counter, silent, silent, Dispatcher.silent, Dispatcher.silent, mux]
  rfl

/-- Without a sink a write gives the same, and leaves the same behind. -/
theorem write_silent (board : Board) (name : String) (entry : Entry) :
    (board.silent.write name entry).1 = (board.write name entry).1 ∧
      (board.silent.write name entry).2.silent = (board.write name entry).2.silent := by
  have same_logs : board.silent.logs = board.logs := rfl
  have same_directory : board.silent.directory = board.directory := rfl
  rw [write_eq, write_eq, same_logs, same_directory]
  cases board.logs.get? name with
  | none => exact ⟨rfl, rfl⟩
  | some placed =>
    have same_feed : board.silent.feed placed = (board.feed placed).silent := rfl
    simp only [same_feed]
    obtain ⟨refused, refused_too⟩ | ⟨result, after, quiet, entered, entered_too, same⟩ :=
      AnyLog.enter?_silent board.directory entry (board.feed placed)
    · rw [refused, refused_too]
      exact ⟨rfl, rfl⟩
    · rw [entered, entered_too]
      exact ⟨rfl, silent_putFeed same⟩

theorem perform_silent (board : Board) (operation : Operation) :
    (board.silent.perform operation).1 = (board.perform operation).1 ∧
      (board.silent.perform operation).2.silent = (board.perform operation).2.silent := by
  cases operation with
  | write name entry =>
    obtain ⟨outcome, after⟩ := board.write_silent name entry
    exact ⟨congrArg Answer.written outcome, after⟩
  | increment counterName => exact ⟨rfl, rfl⟩
  | direct directory => exact ⟨rfl, rfl⟩
  | act action => exact ⟨rfl, rfl⟩

/-- Boards that are the same without their sinks give the same answers and remain the same. -/
theorem run_silent {board other : Board} (same : board.silent = other.silent)
    (operations : List Operation) :
    (board.run operations).1 = (other.run operations).1 ∧
      (board.run operations).2.silent = (other.run operations).2.silent := by
  induction operations generalizing board other with
  | nil => exact ⟨rfl, same⟩
  | cons operation rest ih =>
    -- Each of the two is compared with what it is without its sink, where they are the same.
    obtain ⟨answer, after⟩ := board.perform_silent operation
    obtain ⟨answer_other, after_other⟩ := other.perform_silent operation
    have same_answer : (board.perform operation).1 = (other.perform operation).1 := by
      rw [← answer, ← answer_other, same]
    have same_after : (board.perform operation).2.silent = (other.perform operation).2.silent := by
      rw [← after, ← after_other, same]
    obtain ⟨answers, at_the_end⟩ := ih same_after
    rw [run_cons, run_cons, same_answer, answers]
    exact ⟨rfl, at_the_end⟩

end Board

/-! ### What the sink is told -/

/-- What a write comes to: the delivery that goes out, or the reason why none does. -/
abbrev Told := Except LogError Delivery

/-- Whether a dispatcher has been left as a write leaves it that comes to `told`. -/
def Told.Leaves (told : Told) (before after : Dispatcher) : Prop :=
  after.sink = before.sink ∧
    match told with
    | .ok delivery => Hands before after true delivery
    | .error _ => after.calls = before.calls ∧ after.mux = before.mux

/-- A dispatched delivery is handed out. -/
theorem hands_dispatch (before : Dispatcher) (refused : DeliveryError → Warning)
    (delivery : Delivery) : Hands before (before.dispatch refused delivery) true delivery where
  woken := before.mux_dispatch refused delivery
  called := by rw [Dispatcher.calls_dispatch, Bool.true_and]

/-- What is handed out is one call to the sink, if it is offered to it. -/
theorem Hub.Hands.hasCalled {before after : Dispatcher} {offered : Bool} {delivery : Delivery}
    (hands : Hands before after offered delivery) (sink : after.sink = before.sink) :
    before.HasCalled after (if offered then [delivery] else []) where
  sink := sink
  calls := by
    rw [hands.called]
    cases offered <;> simp

/-- What sending an event comes to at index `next`. -/
def Timeline.told (directory : Directory) (event : Event) (next : Nat) : Told :=
  match event.room with
  | none => .error (.noRoom event.id)
  | some room =>
    match directory.users room with
    | .error cause => .error (.membership cause)
    | .ok users => .ok ⟨recipients users event.extraRecipient, ⟨next, event⟩⟩

theorem Timeline.send_told (directory : Directory) (event : Event) (feed : Feed Timeline) :
    (send directory event feed).1 =
        (told directory event feed.counter.current).map (·.item.index) ∧
      (told directory event feed.counter.current).Leaves feed.dispatcher
        (send directory event feed).2.dispatcher := by
  obtain ⟨sink, calls, mux⟩ := noteTarget_eq event feed.dispatcher
  obtain ⟨roomless, refused⟩ | ⟨room, cause, in_room, unknown, kept⟩ |
    ⟨room, users, in_room, known, sent⟩ := send_cases directory event feed
  · rw [refused, told, roomless]
    exact ⟨rfl, rfl, rfl, rfl⟩
  · rw [kept, told, in_room]
    simp only [unknown]
    exact ⟨rfl, sink, calls, mux⟩
  · rw [sent, told, in_room]
    simp only [known]
    have hands := hands_dispatch (noteTarget event feed.dispatcher) .eventRefused
      ⟨recipients users event.extraRecipient, ⟨feed.counter.current, event⟩⟩
    refine ⟨rfl, (Dispatcher.sink_dispatch _ _ _).trans sink, ?_, ?_⟩
    · rw [hands.woken, mux]
    · rw [hands.called, sink, calls]

/-- What changing a user's record comes to at index `next`. -/
def PresenceLog.told (directory : Directory) (time : Timestamp) (user : UserId)
    (change : Presence → Presence) (log : PresenceLog) (next : Nat) : Told :=
  match directory.peers user with
  | .error cause => .error (.membership cause)
  | .ok peers => .ok ⟨peers, ⟨next, event user ⟨change (log.presence user), time⟩⟩⟩

theorem PresenceLog.update_told (directory : Directory) (time : Timestamp) (user : UserId)
    (change : Presence → Presence) (feed : Feed PresenceLog) :
    (update directory time user change feed).1 =
        (told directory time user change feed.log feed.counter.current).map (·.item) ∧
      (told directory time user change feed.log feed.counter.current).Leaves feed.dispatcher
        (update directory time user change feed).2.dispatcher := by
  obtain ⟨cause, unknown, kept⟩ | ⟨peers, item, known, rfl, sent⟩ :=
    update_cases directory time user change feed
  · rw [kept, told, unknown]
    exact ⟨rfl, rfl, rfl, rfl⟩
  · rw [sent, told, known]
    exact ⟨rfl, Dispatcher.sink_dispatch _ _ _, hands_dispatch _ _ _⟩

/-- Whether an entry is for a timeline or a presence log. -/
def Entry.goesOut : Entry → Bool
  | .event _ | .availability _ _ _ _ | .profile _ _ _ => true
  | _ => false

/-- Whether a receipt is for what has gone out: it gives the index at which the event of the entry
is, or all of the item. -/
def Receipt.IsFor (receipt : Receipt) (entry : Entry) (item : Indexed Event) : Prop :=
  match receipt, entry with
  | .index given, .event event => item = ⟨given, event⟩
  | .item given, _ => item = given
  | _, _ => False

/-- Whether a write gives what it comes to: a receipt for what goes out, or the reason why nothing
does. -/
def Told.Gives (told : Told) (entry : Entry) (result : Except LogError Receipt) : Prop :=
  match told with
  | .ok delivery => ∃ receipt, result = .ok receipt ∧ receipt.IsFor entry delivery.item
  | .error cause => result = .error cause

namespace AnyLog

/-- What a write to a timeline or a presence log comes to at index `next`. -/
def told? (log : AnyLog) (directory : Directory) (entry : Entry) (next : Nat) : Option Told :=
  match log, entry with
  | .timeline _, .event event => some (Timeline.told directory event next)
  | .presence log, .availability time user availability statusMessage =>
    some (PresenceLog.told directory time user
      (fun presence => { presence with availability, statusMessage }) log next)
  | .presence log, .profile time user profile =>
    some (PresenceLog.told directory time user
      (fun presence =>
        { presence with displayName := profile.displayName, avatarUrl := profile.avatarUrl })
      log next)
  | _, _ => none

/-- A send gives the index of the event that goes out. -/
theorem gives_index (directory : Directory) (event : Event) (next : Nat) :
    (Timeline.told directory event next).Gives (.event event)
      (((Timeline.told directory event next).map (·.item.index)).map .index) := by
  unfold Timeline.told
  cases event.room with
  | none => rfl
  | some room =>
    simp only
    cases directory.users room with
    | error cause => rfl
    | ok users => exact ⟨_, rfl, rfl⟩

/-- An update gives the item that goes out. -/
theorem gives_item {entry : Entry} (told : Told) :
    told.Gives entry ((told.map (·.item)).map .item) := by
  cases told with
  | ok delivery => exact ⟨_, rfl, rfl⟩
  | error cause => rfl

/-- What a write does that comes to something, it does as one to a log of any kind. -/
theorem wrap_told {Log α : Type} {write : Feed Log → Except LogError α × Feed Log}
    {feed : Feed Log} {kind : Log → AnyLog} {receive : α → Receipt} {item : Delivery → α}
    {entry : Entry} {told : Told}
    (does : (write feed).1 = told.map item ∧ told.Leaves feed.dispatcher (write feed).2.dispatcher)
    (gives : told.Gives entry ((told.map item).map receive)) :
    ∃ result after,
      some ((write feed).1.map receive, (write feed).2.wrap kind) = some (result, after) ∧
      told.Gives entry result ∧ told.Leaves feed.dispatcher after.dispatcher := by
  refine ⟨_, _, rfl, ?_, does.2⟩
  rw [does.1]
  exact gives

/-- A write to a timeline or a presence log does what it comes to. -/
theorem enter?_of_told?_eq_some {directory : Directory} {entry : Entry} {feed : Feed AnyLog}
    {told : Told} (comes_to : feed.log.told? directory entry feed.counter.current = some told) :
    ∃ result after, enter? directory entry feed = some (result, after) ∧
      told.Gives entry result ∧ told.Leaves feed.dispatcher after.dispatcher := by
  obtain ⟨log, counter, dispatcher⟩ := feed
  simp only [told?] at comes_to
  split at comes_to
  next log event =>
    obtain rfl := Option.some.inj comes_to
    exact wrap_told (Timeline.send_told directory event ⟨log, counter, dispatcher⟩)
      (gives_index directory event counter.current)
  next log time user availability statusMessage =>
    obtain rfl := Option.some.inj comes_to
    have does := PresenceLog.update_told directory time user
      (fun shown => { shown with availability, statusMessage }) ⟨log, counter, dispatcher⟩
    exact wrap_told does (gives_item _)
  next log time user profile =>
    obtain rfl := Option.some.inj comes_to
    have does := PresenceLog.update_told directory time user
      (fun shown =>
        { shown with displayName := profile.displayName, avatarUrl := profile.avatarUrl })
      ⟨log, counter, dispatcher⟩
    exact wrap_told does (gives_item _)
  next => contradiction

theorem goesOut_of_told?_eq_some {directory : Directory} {entry : Entry} {log : AnyLog}
    {next : Nat} {told : Told} (comes_to : log.told? directory entry next = some told) :
    entry.goesOut = true := by
  cases log <;> cases entry <;> first | rfl | contradiction

/-- No other log has a use for the dispatcher. -/
theorem of_told?_eq_none {directory : Directory} {entry : Entry} {feed after : Feed AnyLog}
    {result : Except LogError Receipt}
    (untold : feed.log.told? directory entry feed.counter.current = none)
    (entered : enter? directory entry feed = some (result, after)) :
    after.dispatcher = feed.dispatcher ∧ entry.goesOut = false := by
  obtain ⟨log, counter, dispatcher⟩ := feed
  -- Wherever log and entry go together, either what comes of it is told or the dispatcher stays.
  cases log <;> cases entry <;> first
    | contradiction
    | obtain ⟨-, rfl⟩ := Prod.mk.inj (Option.some.inj entered)
      exact ⟨rfl, rfl⟩

end AnyLog

namespace Board

variable {board : Board} {name : String} {entry : Entry}

/-- What a write comes to, if its entry is for a timeline or a presence log. -/
def told? (board : Board) (name : String) (entry : Entry) : Option Told :=
  (board.logs.get? name).bind fun placed =>
    placed.log.told? board.directory entry (board.counter placed.counter).current

/-- A write to a timeline or a presence log does what it comes to. -/
theorem write_of_told?_eq_some {told : Told} (comes_to : board.told? name entry = some told) :
    ∃ result, (board.write name entry).1 = result.mapError .log ∧ told.Gives entry result ∧
      told.Leaves board.dispatcher (board.write name entry).2.dispatcher := by
  obtain ⟨placed, found, comes_to⟩ := Option.bind_eq_some_iff.mp comes_to
  obtain ⟨result, after, entered, gives, leaves⟩ :=
    @AnyLog.enter?_of_told?_eq_some _ _ (board.feed placed) _ comes_to
  rw [write_of_enter? found entered]
  exact ⟨result, rfl, gives, leaves⟩

/-- Any other write leaves the dispatcher alone. -/
theorem write_of_told?_eq_none (untold : board.told? name entry = none) :
    (board.write name entry).2.dispatcher = board.dispatcher ∧
      ∀ receipt, (board.write name entry).1 = .ok receipt → entry.goesOut = false := by
  obtain ⟨e, -, refused⟩ | ⟨placed, result, after, found, entered, written⟩ :=
    board.write_cases name entry
  · rw [refused]
    exact ⟨rfl, fun receipt given => nomatch given⟩
  · have untold_there : (board.feed placed).log.told? board.directory entry
        (board.feed placed).counter.current = none := by
      rw [told?, found] at untold
      exact untold
    obtain ⟨same, stays⟩ := AnyLog.of_told?_eq_none untold_there entered
    rw [written]
    exact ⟨same, fun _ _ => stays⟩

/-- Whether a write hands out one delivery, whoever listens at the time and whether there is a sink
or not. -/
def HandsOut (board : Board) (name : String) (entry : Entry) (delivery : Delivery) : Prop :=
  ∀ dispatcher : Dispatcher,
    Hands dispatcher ({ board with dispatcher }.write name entry).2.dispatcher true delivery

/-- Whether `calls` are what a write offers to the sink: what its receipt is for, as it is handed to
listeners too, if the write succeeds and is to a timeline or a presence log. Otherwise there is
nothing to offer and nobody is woken. -/
def WriteOffers (board : Board) (name : String) (entry : Entry) (calls : List Delivery) : Prop :=
  match (board.write name entry).1, entry.goesOut with
  | .ok receipt, true => ∃ delivery, calls = [delivery] ∧ receipt.IsFor entry delivery.item ∧
      board.HandsOut name entry delivery
  | _, _ => calls = [] ∧ (board.write name entry).2.dispatcher.mux = board.dispatcher.mux

/-- The sink is called with what a write offers. -/
theorem write_offers (board : Board) (name : String) (entry : Entry) :
    ∃ calls, board.WriteOffers name entry calls ∧
      board.dispatcher.HasCalled (board.write name entry).2.dispatcher calls := by
  unfold WriteOffers
  cases comes_to : board.told? name entry with
  | none =>
    obtain ⟨same, stays⟩ := write_of_told?_eq_none comes_to
    refine ⟨[], ?_, .of_same (by rw [same]) (by rw [same])⟩
    split
    next receipt outcome goes_out => exact absurd goes_out (Bool.eq_false_iff.mp (stays _ outcome))
    next => exact ⟨rfl, congrArg Dispatcher.mux same⟩
  | some told =>
    obtain ⟨result, outcome, gives, sink, leaves⟩ := write_of_told?_eq_some comes_to
    rw [outcome]
    cases told with
    | error cause =>
      obtain ⟨calls, mux⟩ := leaves
      rw [show result = _ from gives]
      exact ⟨[], ⟨rfl, mux⟩, .of_same sink calls⟩
    | ok delivery =>
      obtain ⟨receipt, rfl, is_for⟩ := gives
      obtain ⟨placed, -, comes_to_there⟩ := Option.bind_eq_some_iff.mp comes_to
      rw [AnyLog.goesOut_of_told?_eq_some comes_to_there]
      have hands : Hands board.dispatcher (board.write name entry).2.dispatcher true delivery :=
        leaves
      refine ⟨[delivery], ⟨delivery, rfl, is_for, fun dispatcher => ?_⟩, hands.hasCalled sink⟩
      -- What it comes to is the same with any other dispatcher.
      have comes_to_too : { board with dispatcher }.told? name entry = some (.ok delivery) :=
        comes_to
      obtain ⟨-, -, -, -, hands_too⟩ := write_of_told?_eq_some comes_to_too
      exact hands_too

/-- Whether `calls` are what an operation offers to the sink. -/
def Offers (board : Board) (operation : Operation) (calls : List Delivery) : Prop :=
  match operation with
  | .write name entry => board.WriteOffers name entry calls
  | _ => calls = []

/-- Whether `calls` are, in order, what the operations of a run offer to the sink. -/
def RunOffers (board : Board) : List Operation → List Delivery → Prop
  | [], calls => calls = []
  | operation :: rest, calls => ∃ first others, calls = first ++ others ∧
      board.Offers operation first ∧ (board.perform operation).2.RunOffers rest others

theorem perform_offers (board : Board) (operation : Operation) :
    ∃ calls, board.Offers operation calls ∧
      board.dispatcher.HasCalled (board.perform operation).2.dispatcher calls := by
  cases operation with
  | write name entry => exact board.write_offers name entry
  | increment counterName => exact ⟨[], rfl, .of_same rfl rfl⟩
  | direct directory => exact ⟨[], rfl, .of_same rfl rfl⟩
  | act action => exact ⟨[], rfl, .of_same rfl rfl⟩

/-- All that the sink is told in a run is what is offered to it. -/
theorem run_offers (board : Board) (operations : List Operation) :
    ∃ calls, board.RunOffers operations calls ∧
      board.dispatcher.HasCalled (board.run operations).2.dispatcher calls := by
  induction operations generalizing board with
  | nil => exact ⟨[], rfl, .of_same rfl rfl⟩
  | cons operation rest ih =>
    obtain ⟨first, offered, called⟩ := board.perform_offers operation
    obtain ⟨others, offered_later, called_later⟩ := ih (board.perform operation).2
    exact ⟨first ++ others, ⟨first, others, rfl, offered, offered_later⟩,
      called.trans called_later⟩

end Board

end ChatFeed
