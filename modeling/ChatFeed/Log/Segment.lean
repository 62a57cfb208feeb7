import ChatFeed.Collection.Table
import ChatFeed.Event.Basic

/-!
# Segments

A segment holds what one recipient has been sent, one entry for each event
identity. A repeated identity overwrites the entry in its place, so entries
stand in the order in which identities first arrived, which need not be the
order of their indices.

## Main definitions

* `Segment.upsert`: adding or overwriting an entry
* `Segment.inRange`: the entries in a window of indices
* `Segments.record`: adding an entry for several recipients
-/

namespace ChatFeed

/-- What one recipient has been sent. -/
structure Segment where
  entries : List (Indexed Envelope) := []
  /-- Where the entry with an identity stands. -/
  positions : Table EventId Nat := ∅
deriving DecidableEq

namespace Segment

instance : EmptyCollection Segment := ⟨⟨[], ∅⟩⟩

/-- Adds `envelope` at `index`, in place of the entry with its identity if there is one. -/
def upsert (segment : Segment) (envelope : Envelope) (index : Nat) : Segment :=
  match segment.positions.get? envelope.id with
  | some position =>
    { segment with entries := segment.entries.set position ⟨index, envelope⟩ }
  | none =>
    { entries := segment.entries ++ [⟨index, envelope⟩]
      positions := segment.positions.insert envelope.id segment.entries.length }

/-- The entries with an index from `start` up to below `stop`, as they stand. -/
def inRange (segment : Segment) (start stop : Nat) : List (Indexed Envelope) :=
  segment.entries.filter fun entry => start ≤ entry.index ∧ entry.index < stop

end Segment

/-- A segment for each recipient. -/
abbrev Segments := Table Key Segment

namespace Segments

/-- Adds `envelope` at `index` for one recipient. -/
def recordFor (envelope : Envelope) (index : Nat) (segments : Segments) (recipient : Key) :
    Segments :=
  segments.insert recipient ((segments.getD recipient ∅).upsert envelope index)

/-- Adds `envelope` at `index` for every recipient. -/
def record (segments : Segments) (envelope : Envelope) (index : Nat) (recipients : List Key) :
    Segments :=
  recipients.foldl (recordFor envelope index) segments

end Segments

end ChatFeed
