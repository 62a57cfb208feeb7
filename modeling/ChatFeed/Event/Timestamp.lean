/-!
# Timestamps

Clocks show the time in nanoseconds. Events carry the time at which they were
made as it is written, in whole milliseconds since the start of 1970. The
calendar reaches from the start of the year -262143 to the end of the year
262142.

## Main definitions

* `Timestamp`: a time within the calendar, in milliseconds
* `Timestamp.ofMillis?`: the time with a given number of milliseconds
* `Instant`: what a clock shows
* `Instant.timestamp`: the time that is written for it

## Main results

* `Instant.timestamp_le`: what is written is the last whole millisecond
-/

namespace ChatFeed

/-- A time within the calendar. -/
structure Timestamp where
  /-- Milliseconds since the start of 1970. -/
  millis : Int
  earliest_le : -8334601228800000 ≤ millis
  le_latest : millis ≤ 8210266876799999
deriving DecidableEq

namespace Timestamp

/-- The first millisecond of the calendar. -/
def earliest : Int := -8334601228800000

/-- The last millisecond of the calendar. -/
def latest : Int := 8210266876799999

instance : Inhabited Timestamp := ⟨⟨0, by decide, by decide⟩⟩

/-- The time `millis` milliseconds after the start of 1970, if the calendar reaches it. -/
def ofMillis? (millis : Int) : Option Timestamp :=
  if h : earliest ≤ millis ∧ millis ≤ latest then some ⟨millis, h.1, h.2⟩ else none

@[simp] theorem ofMillis?_millis (time : Timestamp) : ofMillis? time.millis = some time := by
  simp [ofMillis?, earliest, latest, time.earliest_le, time.le_latest]

end Timestamp

/-- What a clock shows within the calendar. -/
structure Instant where
  /-- Nanoseconds since the start of 1970. -/
  nanos : Int
  earliest_le : -8334601228800000000000 ≤ nanos
  le_latest : nanos ≤ 8210266876799999999999
deriving DecidableEq

namespace Instant

instance : Inhabited Instant := ⟨⟨0, by decide, by decide⟩⟩

/-- The time that is written, which leaves out what has passed of a millisecond. -/
def timestamp (now : Instant) : Timestamp where
  millis := now.nanos / 1000000
  earliest_le := by
    have := now.earliest_le
    omega
  le_latest := by
    have := now.le_latest
    omega

/-- What is written is the last whole millisecond, before 1970 as well. -/
theorem timestamp_le (now : Instant) :
    now.timestamp.millis * 1000000 ≤ now.nanos ∧
      now.nanos < (now.timestamp.millis + 1) * 1000000 := by
  have cut : now.timestamp.millis = now.nanos / 1000000 := rfl
  omega

end Instant

end ChatFeed
