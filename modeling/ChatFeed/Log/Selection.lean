import ChatFeed.Event.Basic

/-!
# Selections

A reader asks a log for a window and gets the entries in it together with the
bounds that were covered, from which it can go on.

## Main definitions

* `Selection`: the entries of a window and the bounds covered
* `BoundsError`: bounds in the wrong order
-/

namespace ChatFeed

/-- The entries of a window, with the bounds that were covered. -/
structure Selection where
  events : List Envelope
  start : Nat
  stop : Nat
deriving DecidableEq

/-- The selection without entries. -/
def Selection.empty (start stop : Nat) : Selection :=
  ⟨[], start, stop⟩

/-- Bounds in the wrong order. -/
inductive BoundsError where
  /-- A forward window must not start above its end. -/
  | startAboveStop (start stop : Nat)
  /-- A backward window must not start below its end. -/
  | startBelowStop (start stop : Nat)
deriving DecidableEq, Repr

/-- The wording of the error. -/
def BoundsError.message : BoundsError → String
  | .startAboveStop start stop => s!"invalid arguments: from > to ({start} > {stop})"
  | .startBelowStop start stop => s!"invalid arguments: from < to ({start} < {stop})"

/-- Items of a log by ascending index; items with equal indices keep their order. -/
def sortByIndex {α : Type} (items : List (Indexed α)) : List (Indexed α) :=
  items.mergeSort fun a b => a.index ≤ b.index

end ChatFeed
