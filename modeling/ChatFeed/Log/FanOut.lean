import ChatFeed.Log.Counter
import ChatFeed.Log.Segment
import ChatFeed.Log.Selection

/-!
# Fan-out logs

A write to a fan-out log reaches many recipients, and each recipient reads its
own segment.

## Main definitions

* `FanOutLog.send`, `FanOutLog.sendMany`: writing an entry, or several
* `FanOutLog.forwards`: a window of a recipient's segment, as it stands
* `FanOutLog.range`: a page of such a window, by index
-/

namespace ChatFeed

/-- A log that each write enters for many recipients. -/
structure FanOutLog where
  segments : Segments := ∅
deriving DecidableEq

namespace FanOutLog

/-- Enters `envelope` at the next index for every recipient. -/
def send (log : FanOutLog) (counter : Counter) (envelope : Envelope) (recipients : List Key) :
    Nat × FanOutLog × Counter :=
  (counter.current, ⟨log.segments.record envelope counter.current recipients⟩, counter.advance)

/-- Enters each member of a batch in the segments, at its own index and in order. -/
def recordMany (segments : Segments) (counter : Counter) :
    List (Envelope × List Key) → List Nat × Segments × Counter
  | [] => ([], segments, counter)
  | (envelope, recipients) :: rest =>
    let index := counter.current
    let (indices, segments, counter) :=
      recordMany (segments.record envelope index recipients) counter.advance rest
    (index :: indices, segments, counter)

/-- Enters a batch, each member at its own index. Where members share an identity, the last one
wins. -/
def sendMany (log : FanOutLog) (counter : Counter) (batch : List (Envelope × List Key)) :
    List Nat × FanOutLog × Counter :=
  let (indices, segments, counter) := recordMany log.segments counter batch
  (indices, ⟨segments⟩, counter)

/-- The entries of `recipient` from `start` up to below `stop`, in the order of the segment. The
end is cut to the counter. -/
def forwards (log : FanOutLog) (counter : Counter) (recipient : Key) (start stop : Nat) :
    Except BoundsError Selection :=
  if stop < start then .error (.startAboveStop start stop)
  else if start = stop then .ok (.empty start start)
  else
    let stop := min stop counter.current
    if stop ≤ start then .ok (.empty stop stop)
    else
      match log.segments.get? recipient with
      | none => .ok (.empty start stop)
      | some segment => .ok ⟨(segment.inRange start stop).map (·.item), start, stop⟩

/-- The first `limit` entries that `forwards` selects, by ascending index. If there are more, the
selection stops right after the last one taken. -/
def range (log : FanOutLog) (counter : Counter) (recipient : Key) (start stop limit : Nat) :
    Except BoundsError Selection :=
  if stop < start then .error (.startAboveStop start stop)
  else if start = stop ∨ limit = 0 then .ok (.empty start start)
  else
    let stop := min stop counter.current
    if stop ≤ start then .ok (.empty stop stop)
    else
      match log.segments.get? recipient with
      | none => .ok (.empty start stop)
      | some segment =>
        let entries := sortByIndex (segment.inRange start stop)
        let page := entries.take limit
        let covered :=
          match page.getLast? with
          | some last => if limit < entries.length then last.index + 1 else stop
          | none => stop
        .ok ⟨page.map (·.item), start, covered⟩

end FanOutLog

end ChatFeed
