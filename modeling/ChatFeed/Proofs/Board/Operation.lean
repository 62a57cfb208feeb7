import ChatFeed.Board
import ChatFeed.Proofs.Log.Writing
import ChatFeed.Proofs.Multiplexer.Chronicle
import ChatFeed.Proofs.Outcome

/-!
# Operations of a board

A board passes an entry to the log it is for, with the counter of that log and the board's
dispatcher, and puts back what comes of it. Which kind of log it is matters only to the log itself:
seen from the board all writes are alike.

## Main definitions

* `AnyLog.enter?`: entering something in a log of any kind
* `Board.Operation`, `Board.perform`, `Board.run`: what can be done to a board, and what comes of it

## Main results

* `Board.write_cases`: a write is refused by the board, or is the log's own
* `Board.counter_putFeed`, `Board.get?_logs_putFeed`: what a write leaves where
-/

namespace ChatFeed

/-- The feed, with its log as one of any kind. -/
def Feed.wrap {Log : Type} (feed : Feed Log) (kind : Log → AnyLog) : Feed AnyLog :=
  { feed with log := kind feed.log }

/-- Enters something in a log of any kind, if it is of the kind that the log keeps. -/
def AnyLog.enter? (directory : Directory) (entry : Entry) (feed : Feed AnyLog) :
    Option (Except LogError Receipt × Feed AnyLog) :=
  match feed.log, entry with
  | .fanOut log, .fanOut envelope recipients =>
    let (index, log, counter) := log.send feed.counter envelope recipients
    some (.ok (.index index), { feed with log := .fanOut log, counter })
  | .fanOut log, .fanOutBatch batch =>
    let (indices, log, counter) := log.sendMany feed.counter batch
    some (.ok (.indices indices), { feed with log := .fanOut log, counter })
  | .fanIn log, .fanIn envelope recipient =>
    let (index, log, counter) := log.send feed.counter envelope recipient
    some (.ok (.index index), { feed with log := .fanIn log, counter })
  | .signals log, .signal envelope recipients =>
    let (index, log, counter) := log.push feed.counter envelope recipients
    some (.ok (.index index), { feed with log := .signals log, counter })
  | .timeline log, .event event =>
    let (result, written) := Timeline.send directory event { feed with log }
    some (result.map .index, written.wrap .timeline)
  | .presence log, .availability time user availability statusMessage =>
    let (result, written) := PresenceLog.setAvailability directory time user availability
      statusMessage { feed with log }
    some (result.map .item, written.wrap .presence)
  | .presence log, .profile time user profile =>
    let (result, written) := PresenceLog.setProfile directory time user profile { feed with log }
    some (result.map .item, written.wrap .presence)
  | _, _ => none

namespace Board

variable {board : Board} {name counterName : String} {entry : Entry}

/-! ### Writes -/

/-- A log of the board, with its counter and the board's dispatcher. -/
def feed (board : Board) (placed : PlacedLog) : Feed AnyLog :=
  ⟨placed.log, board.counter placed.counter, board.dispatcher⟩

/-- A write is what its log makes of it. -/
theorem write_eq (board : Board) (name : String) (entry : Entry) : board.write name entry =
    match board.logs.get? name with
    | none => (.error (.unknownLog name), board)
    | some placed =>
      match AnyLog.enter? board.directory entry (board.feed placed) with
      | none => (.error (.wrongKind name), board)
      | some (result, feed) =>
        (result.mapError .log, board.putFeed name id placed.counter feed) := by
  unfold write
  cases board.logs.get? name with
  | none => rfl
  | some placed =>
    obtain ⟨log, counter⟩ := placed
    -- Where log and entry go together, both sides put back the same parts.
    cases log <;> cases entry <;> first | rfl | (simp only [map_mapError]; rfl)

/-- An entry that its log takes is written as the log makes of it. -/
theorem write_of_enter? {placed : PlacedLog} {result : Except LogError Receipt}
    {feed : Feed AnyLog} (found : board.logs.get? name = some placed)
    (entered : AnyLog.enter? board.directory entry (board.feed placed) = some (result, feed)) :
    board.write name entry =
      (result.mapError .log, board.putFeed name id placed.counter feed) := by
  rw [write_eq, found]
  simp only [entered]

/-- The board refuses a write and stays as it is, or the log it is for takes it. -/
theorem write_cases (board : Board) (name : String) (entry : Entry) :
    (∃ e, (e = .unknownLog name ∨ e = .wrongKind name) ∧
      board.write name entry = (.error e, board)) ∨
    ∃ placed result feed, board.logs.get? name = some placed ∧
      AnyLog.enter? board.directory entry (board.feed placed) = some (result, feed) ∧
      board.write name entry =
        (result.mapError .log, board.putFeed name id placed.counter feed) := by
  rw [write_eq]
  cases board.logs.get? name with
  | none => exact .inl ⟨_, .inl rfl, rfl⟩
  | some placed =>
    simp only
    cases entered : AnyLog.enter? board.directory entry (board.feed placed) with
    | none => exact .inl ⟨_, .inr rfl, rfl⟩
    | some answer => exact .inr ⟨placed, answer.1, answer.2, rfl, entered, rfl⟩

/-- A write moves the counter of its log, and no other. -/
theorem counter_putFeed (board : Board) (name counterName : String) (feed : Feed AnyLog)
    (other : String) : (board.putFeed name id counterName feed).counter other =
      if counterName = other then feed.counter else board.counter other := by
  rw [counter, Table.getD, putFeed, put, Table.get?_insert]
  split <;> rfl

/-- A write changes its log, and no other, and leaves it in its place. -/
theorem get?_logs_putFeed (board : Board) (name counterName : String) (feed : Feed AnyLog)
    (other : String) : (board.putFeed name id counterName feed).logs.get? other =
      if name = other then some ⟨feed.log, counterName⟩ else board.logs.get? other :=
  Table.get?_insert _ _ _ _

/-! ### Operations -/

/-- What can be done to a board: writing to a log, taking an index from a counter, changing the
directory, and using the multiplexer. -/
inductive Operation where
  | write (name : String) (entry : Entry)
  | increment (counterName : String)
  | direct (directory : Directory)
  | act (action : Multiplexer.Action)

/-- What is learned from an operation. -/
inductive Answer where
  | written (outcome : Except BoardError Receipt)
  | counted (value : Nat)
  | directed
  | seen (occurrences : List Multiplexer.Occurrence)

/-- What is learned from an operation, and the board after it. -/
def perform (board : Board) : Operation → Answer × Board
  | .write name entry =>
    let (outcome, written) := board.write name entry
    (.written outcome, written)
  | .increment counterName =>
    let (value, counted) := board.increment counterName
    (.counted value, counted)
  | .direct directory => (.directed, { board with directory })
  | .act action =>
    (.seen (board.dispatcher.mux.occurrences action),
      { board with dispatcher := { board.dispatcher with mux := board.dispatcher.mux.act action } })

/-- What is learned from a sequence of operations, and the board after it. -/
def run (board : Board) : List Operation → List Answer × Board
  | [] => ([], board)
  | operation :: rest =>
    let (answer, board) := board.perform operation
    let (answers, board) := board.run rest
    (answer :: answers, board)

theorem run_cons (board : Board) (operation : Operation) (rest : List Operation) :
    board.run (operation :: rest) =
      ((board.perform operation).1 :: ((board.perform operation).2.run rest).1,
        ((board.perform operation).2.run rest).2) := rfl

end Board

end ChatFeed
