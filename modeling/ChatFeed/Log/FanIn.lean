import ChatFeed.Collection.Table
import ChatFeed.Log.Counter
import ChatFeed.Log.Selection

/-!
# Fan-in logs

A write to a fan-in log reaches one recipient, and a reader merges the entries
of many. Entries are never overwritten, so the position of an entry among its
recipient's is as lasting as its index.

## Main definitions

* `FanInLog.send`: writing an entry
* `FanInLog.backwards`: a page of one recipient's entries by position, newest first
* `FanInLog.forwards`: a window of several recipients' entries by index, oldest first
-/

namespace ChatFeed

/-- A log that each write enters for one recipient. -/
structure FanInLog where
  segments : Table Key (List (Indexed Envelope)) := ∅
deriving DecidableEq

namespace FanInLog

/-- Enters `envelope` at the next index for `recipient`. -/
def send (log : FanInLog) (counter : Counter) (envelope : Envelope) (recipient : Key) :
    Nat × FanInLog × Counter :=
  (counter.current,
    ⟨log.segments.insert recipient
      (log.segments.getD recipient [] ++ [⟨counter.current, envelope⟩])⟩,
    counter.advance)

/-- The entries of `recipient` at the positions from `stop` up to below `start`, newest first. The
start is cut to the number of entries. -/
def backwards (log : FanInLog) (recipient : Key) (start stop : Nat) :
    Except BoundsError Selection :=
  if start < stop then .error (.startBelowStop start stop)
  else
    match log.segments.get? recipient with
    | none => .ok (.empty 0 0)
    | some segment =>
      let start := min start segment.length
      if start ≤ stop then .ok (.empty start start)
      else .ok ⟨((segment.take start).drop stop).reverse.map (·.item), start, stop⟩

/-- The entries of one recipient from `start` up to below `stop`, newest first. The search starts at
the newest entry and ends at the first one below `start`. -/
def newestFirst (segment : List (Indexed Envelope)) (start stop : Nat) :
    List (Indexed Envelope) :=
  (segment.reverse.takeWhile fun entry => start ≤ entry.index).filter
    fun entry => entry.index < stop

/-- The entries of all `recipients` from `start` up to below `stop`, by ascending index. The end is
cut to the counter. A recipient listed twice contributes twice. -/
def forwards (log : FanInLog) (counter : Counter) (recipients : List Key) (start stop : Nat) :
    Except BoundsError Selection :=
  if stop < start then .error (.startAboveStop start stop)
  else
    let stop := min stop counter.current
    if stop ≤ start then .ok (.empty stop stop)
    else
      let merged := (recipients.filterMap log.segments.get?).flatMap fun segment =>
        newestFirst segment start stop
      .ok ⟨(sortByIndex merged).map (·.item), start, stop⟩

end FanInLog

end ChatFeed
