import ChatFeed.Delivery.Dispatcher
import ChatFeed.Directory.Basic
import ChatFeed.Log.Counter

/-!
# Feeds

A timeline or a presence log does more with an entry than keep it: the entry is
numbered, recipients are looked up, and it goes out to them. A feed is such a
log together with what it needs for that.

A write that fails because the directory does not answer has been recorded all
the same, and has gone out to nobody.

## Main definitions

* `Feed`: a log, its counter and its dispatcher
* `LogError`: why a write or a read fails
-/

namespace ChatFeed

/-- A log, the counter that numbers its entries and the ways out of it. -/
structure Feed (Log : Type) where
  log : Log
  counter : Counter := {}
  dispatcher : Dispatcher := {}

/-- Why a log does not do what it was asked to. -/
inductive LogError where
  /-- The directory has no answer. -/
  | membership (cause : MembershipError)
  /-- Only what happens in a room can be entered in a timeline. -/
  | noRoom (event : EventId)
deriving DecidableEq

/-- The wording of the error. -/
def LogError.message : LogError → String
  | .membership cause => cause.message
  | .noRoom event => s!"invalid argument: event {event} has no room"

end ChatFeed
