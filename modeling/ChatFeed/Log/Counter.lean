/-!
# Counters

The logs of a shard number their entries from a counter, which several logs may
share. The counter stands one past the highest index given out.

## Main definitions

* `Counter`: the next index
* `Counter.advance`: the counter after one index has been given out
-/

namespace ChatFeed

/-- A source of indices. -/
structure Counter where
  /-- The index to be given out next. -/
  current : Nat := 0
deriving DecidableEq, Repr

/-- The counter after one more index has been given out. -/
def Counter.advance (counter : Counter) : Counter :=
  ⟨counter.current + 1⟩

@[simp] theorem Counter.current_advance (counter : Counter) :
    counter.advance.current = counter.current + 1 := rfl

end ChatFeed
