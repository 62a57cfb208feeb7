import ChatFeed.Event.Basic

/-!
# Stamps

A new event is told from every other by a stamp, which is a number drawn for it
and the time. The identity of the event is made from the number and belongs to
the domain of the sender. Nothing here sees to it that no number is drawn twice.

## Main definitions

* `Stamp`: the number and the time of a new event
* `Stamp.eventId`: the identity of the event
-/

namespace ChatFeed

/-- The number and the time of a new event. -/
structure Stamp where
  number : BitVec 128
  now : Instant
deriving DecidableEq

namespace Stamp

/-- The time that the event carries. -/
def time (stamp : Stamp) : Timestamp :=
  stamp.now.timestamp

/-- The number in lower-case hexadecimal, with at least 32 digits. -/
def hexadecimal (n : Nat) : String :=
  let digits := Nat.toDigits 16 n
  String.ofList (List.replicate (32 - digits.length) '0' ++ digits)

/-- The identity of an event that `sender` makes. -/
def eventId (stamp : Stamp) (sender : UserId) : EventId :=
  Id.ofParts .event (hexadecimal stamp.number.toNat) sender.domain

end Stamp

end ChatFeed
