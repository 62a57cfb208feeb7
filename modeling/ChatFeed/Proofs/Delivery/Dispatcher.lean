import ChatFeed.Delivery.Dispatcher

/-!
# What goes out

A dispatched delivery goes to listeners and, where there is a sink, to the sink. What the
sink answers changes nothing but the warnings.

## Main definitions

* `Dispatcher.silent`: a dispatcher without its sink
* `Dispatcher.HasCalled`: the calls that a dispatcher has made to its sink since

## Main results

* `Dispatcher.mux_dispatch`: listeners of the recipients are handed the item
* `Dispatcher.calls_dispatch`: a sink is called once, with the same delivery
-/

namespace ChatFeed.Dispatcher

variable (d : Dispatcher) (refused : DeliveryError → Warning) (delivery : Delivery)

@[simp] theorem mux_offer : (d.offer refused delivery).mux = d.mux := by
  unfold offer
  split
  next => rfl
  next => split <;> rfl

@[simp] theorem sink_offer : (d.offer refused delivery).sink = d.sink := by
  unfold offer
  split
  next => rfl
  next => split <;> rfl

@[simp] theorem calls_offer : (d.offer refused delivery).calls =
    if d.sink.isSome then d.calls ++ [delivery] else d.calls := by
  unfold offer
  split
  next missing => simp [missing]
  next sink found =>
    rw [found, Option.isSome_some, if_pos rfl]
    split <;> rfl

theorem mux_dispatch : (d.dispatch refused delivery).mux =
    d.mux.send delivery.recipients delivery.item := by
  rw [dispatch, wake, mux_offer]

theorem calls_dispatch : (d.dispatch refused delivery).calls =
    if d.sink.isSome then d.calls ++ [delivery] else d.calls :=
  calls_offer d refused delivery

theorem sink_dispatch : (d.dispatch refused delivery).sink = d.sink :=
  sink_offer d refused delivery

/-- The dispatcher without its sink, and without what a sink leaves behind: the calls made to it and
the warnings. -/
def silent (d : Dispatcher) : Dispatcher :=
  { mux := d.mux }

/-- Whether `calls` are all that a dispatcher has made to its sink since, if it has one. -/
structure HasCalled (d later : Dispatcher) (calls : List Delivery) : Prop where
  sink : later.sink = d.sink
  calls : later.calls = if d.sink.isSome then d.calls ++ calls else d.calls

namespace HasCalled

variable {d} {middle later : Dispatcher} {calls more : List Delivery}

/-- None, if sink and calls are as they were. -/
theorem of_same (sink : later.sink = d.sink) (same : later.calls = d.calls) :
    d.HasCalled later [] where
  sink := sink
  calls := by rw [same, List.append_nil, ite_self]

theorem trans (first : d.HasCalled middle calls) (second : middle.HasCalled later more) :
    d.HasCalled later (calls ++ more) where
  sink := second.sink.trans first.sink
  calls := by
    rw [second.calls, first.sink, first.calls]
    split
    · rw [List.append_assoc]
    · rfl

end HasCalled

end ChatFeed.Dispatcher
