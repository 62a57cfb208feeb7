import ChatFeed.Log.Counter
import ChatFeed.Log.Segment

/-!
# Signal logs

Signals are short-lived: of each signal identity a recipient keeps the latest
only. Readers take a window of indices as it is, without cutting it to the
counter, and learn the highest index in it.

## Main definitions

* `SignalLog.push`: writing a signal
* `SignalLog.range`: the signals in a window, with the highest index among them
-/

namespace ChatFeed

/-- A log of the latest signals. -/
structure SignalLog where
  segments : Segments := ∅
deriving DecidableEq

namespace SignalLog

/-- Enters `envelope` at the next index for every recipient. -/
def push (log : SignalLog) (counter : Counter) (envelope : Envelope) (recipients : List Key) :
    Nat × SignalLog × Counter :=
  (counter.current, ⟨log.segments.record envelope counter.current recipients⟩, counter.advance)

/-- The signals of `recipient` from `start` up to below `stop`, in the order of the segment, and the
highest index among them, or 0 without any. -/
def range (log : SignalLog) (recipient : Key) (start stop : Nat) : List Envelope × Nat :=
  if stop ≤ start then ([], 0)
  else
    match log.segments.get? recipient with
    | none => ([], 0)
    | some segment =>
      let entries := segment.inRange start stop
      (entries.map (·.item), entries.foldl (fun highest entry => max highest entry.index) 0)

end SignalLog

end ChatFeed
