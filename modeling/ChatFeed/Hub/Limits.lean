/-!
# Limits

A reader may ask for a page size and for the time to wait. What they do not ask
for has a default, and what they get has an upper bound.

## Main definitions

* `Limits.timeout`, `Limits.limit`: what a reader gets
-/

namespace ChatFeed

/-- Defaults and upper bounds for what readers ask. Times are in milliseconds. -/
structure Limits where
  defaultTimeout : Nat := 30000
  maxTimeout : Nat := 120000
  defaultLimit : Nat := 50
  maxLimit : Nat := 1000
deriving DecidableEq, Repr

namespace Limits

/-- How long a reader waits. -/
def timeout (limits : Limits) (requested : Option Nat) : Nat :=
  min (requested.getD limits.defaultTimeout) limits.maxTimeout

/-- How many entries a page has at most. -/
def limit (limits : Limits) (requested : Option Nat) : Nat :=
  min (requested.getD limits.defaultLimit) limits.maxLimit

end Limits

end ChatFeed
