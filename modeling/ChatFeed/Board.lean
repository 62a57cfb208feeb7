import ChatFeed.Log.FanIn
import ChatFeed.Log.FanOut
import ChatFeed.Log.PresenceLog
import ChatFeed.Log.Signals
import ChatFeed.Log.Timeline

/-!
# Boards

A board is a collection of named logs of any kinds. Each log numbers its
entries from one of the board's counters, which other logs may use as well. The
timelines and presence logs of a board share its directory and its dispatcher.

## Main definitions

* `Board`: counters and logs by name
* `Board.write`: entering something in a log
* `Board.increment`: taking an index without entering anything
-/

namespace ChatFeed

/-- A log of any kind. -/
inductive AnyLog where
  | fanOut (log : FanOutLog)
  | fanIn (log : FanInLog)
  | signals (log : SignalLog)
  | timeline (log : Timeline)
  | presence (log : PresenceLog)
deriving DecidableEq

/-- A log in its place on a board. -/
structure PlacedLog where
  log : AnyLog
  /-- The name of the counter it uses. -/
  counter : String
deriving DecidableEq

/-- Named logs with their counters, their directory and their dispatcher. -/
structure Board where
  counters : Table String Counter := ∅
  logs : Table String PlacedLog := ∅
  directory : Directory
  dispatcher : Dispatcher := {}

/-- Something to be entered in a log of one kind. -/
inductive Entry where
  | fanOut (envelope : Envelope) (recipients : List Key)
  | fanOutBatch (batch : List (Envelope × List Key))
  | fanIn (envelope : Envelope) (recipient : Key)
  | signal (envelope : Envelope) (recipients : List Key)
  | event (event : Event)
  | availability (time : Timestamp) (user : UserId) (availability : Availability)
      (statusMessage : Option String)
  | profile (time : Timestamp) (user : UserId) (profile : Profile)
deriving DecidableEq

/-- What entering something gives back. -/
inductive Receipt where
  | index (index : Nat)
  | indices (indices : List Nat)
  | item (item : Indexed Event)
deriving DecidableEq

/-- Why nothing can be entered, or not without failing. -/
inductive BoardError where
  | unknownLog (name : String)
  /-- The log keeps entries of another kind. -/
  | wrongKind (name : String)
  | log (cause : LogError)
deriving DecidableEq

namespace Board

/-- The counter with a given name. One that has not been used starts at 0. -/
def counter (board : Board) (name : String) : Counter :=
  board.counters.getD name {}

/-- Takes an index from a counter. The result is where the counter then stands. -/
def increment (board : Board) (name : String) : Nat × Board :=
  let counter := (board.counter name).advance
  (counter.current, { board with counters := board.counters.insert name counter })

/-- Puts a log and its counter back in their places. -/
def put (board : Board) (name : String) (log : AnyLog) (counterName : String)
    (counter : Counter) : Board :=
  { board with
    counters := board.counters.insert counterName counter
    logs := board.logs.insert name ⟨log, counterName⟩ }

/-- Puts a feed's parts back in their places. -/
def putFeed {Log : Type} (board : Board) (name : String) (wrap : Log → AnyLog)
    (counterName : String) (feed : Feed Log) : Board :=
  { board.put name (wrap feed.log) counterName feed.counter with dispatcher := feed.dispatcher }

/-- Enters something in the log `name`. -/
def write (board : Board) (name : String) (entry : Entry) : Except BoardError Receipt × Board :=
  match board.logs.get? name with
  | none => (.error (.unknownLog name), board)
  | some placed =>
    let counter := board.counter placed.counter
    match placed.log, entry with
    | .fanOut log, .fanOut envelope recipients =>
      let (index, log, counter) := log.send counter envelope recipients
      (.ok (.index index), board.put name (.fanOut log) placed.counter counter)
    | .fanOut log, .fanOutBatch batch =>
      let (indices, log, counter) := log.sendMany counter batch
      (.ok (.indices indices), board.put name (.fanOut log) placed.counter counter)
    | .fanIn log, .fanIn envelope recipient =>
      let (index, log, counter) := log.send counter envelope recipient
      (.ok (.index index), board.put name (.fanIn log) placed.counter counter)
    | .signals log, .signal envelope recipients =>
      let (index, log, counter) := log.push counter envelope recipients
      (.ok (.index index), board.put name (.signals log) placed.counter counter)
    | .timeline log, .event event =>
      let (result, feed) := Timeline.send board.directory event ⟨log, counter, board.dispatcher⟩
      ((result.mapError .log).map .index, board.putFeed name .timeline placed.counter feed)
    | .presence log, .availability time user availability statusMessage =>
      let (result, feed) := PresenceLog.setAvailability board.directory time user availability
        statusMessage ⟨log, counter, board.dispatcher⟩
      ((result.mapError .log).map .item, board.putFeed name .presence placed.counter feed)
    | .presence log, .profile time user profile =>
      let (result, feed) := PresenceLog.setProfile board.directory time user profile
        ⟨log, counter, board.dispatcher⟩
      ((result.mapError .log).map .item, board.putFeed name .presence placed.counter feed)
    | _, _ => (.error (.wrongKind name), board)

end Board

end ChatFeed
