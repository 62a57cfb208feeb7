import ChatFeed.Delivery.Multiplexer

/-!
# Dispatching

What a log has recorded goes out in two ways: it is handed to a sink, such as a
bridge to another server, and it wakes the listeners of its recipients. A sink
may refuse; that is noted as a warning and otherwise ignored.

## Main definitions

* `Sink`: what a sink answers to each call
* `Dispatcher`: a sink with the calls made to it, the warnings and the multiplexer
* `Dispatcher.dispatch`: handing an item to the sink and to listeners
-/

namespace ChatFeed

/-- An item on its way to its recipients. -/
structure Delivery where
  recipients : List UserId
  item : Indexed Event
deriving DecidableEq

/-- Why a sink refused a delivery. -/
structure DeliveryError where
  reason : String
deriving DecidableEq, Repr

/-- The wording of the error. -/
def DeliveryError.message (e : DeliveryError) : String :=
  s!"event delivery failed: {e.reason}"

/-- A sink, by what it answers: nothing to the calls it accepts, an error to those it refuses. -/
structure Sink where
  /-- The answer to the call that follows `n` others. -/
  answer : (n : Nat) → Option DeliveryError

/-- The sink that accepts every call. -/
def Sink.accepting : Sink := ⟨fun _ => none⟩

/-- The sink that refuses every call for the same reason. -/
def Sink.refusing (reason : String) : Sink := ⟨fun _ => some ⟨reason⟩⟩

/-- What is worth a warning, though no operation fails for it. -/
inductive Warning where
  /-- A membership change that should be told to its target has a state key that names no user. -/
  | targetNotUser (cause : IdError)
  | eventRefused (cause : DeliveryError)
  | presenceRefused (cause : DeliveryError)
deriving DecidableEq, Repr

/-- The wording of the warning. -/
def Warning.message : Warning → String
  | .targetNotUser cause => s!"membership event state key is not a user id: {cause.message}"
  | .eventRefused cause => s!"failed to hand event to async sink: {cause.message}"
  | .presenceRefused cause => s!"failed to hand presence to async sink: {cause.message}"

/-- The ways out of the logs. -/
structure Dispatcher where
  sink : Option Sink := none
  /-- The calls made to the sink, oldest first. -/
  calls : List Delivery := []
  /-- The warnings given, oldest first. -/
  warnings : List Warning := []
  mux : Multiplexer := {}

namespace Dispatcher

/-- Gives a warning. -/
def warn (d : Dispatcher) (warning : Warning) : Dispatcher :=
  { d with warnings := d.warnings ++ [warning] }

/-- Hands a delivery to the sink, if there is one. A refusal is `refused` as a warning. -/
def offer (d : Dispatcher) (refused : DeliveryError → Warning) (delivery : Delivery) :
    Dispatcher :=
  match d.sink with
  | none => d
  | some sink =>
    let called := { d with calls := d.calls ++ [delivery] }
    match sink.answer d.calls.length with
    | none => called
    | some e => called.warn (refused e)

/-- Hands a delivery to listeners of its recipients. -/
def wake (d : Dispatcher) (delivery : Delivery) : Dispatcher :=
  { d with mux := d.mux.send delivery.recipients delivery.item }

/-- Hands a delivery to the sink and then to listeners. -/
def dispatch (d : Dispatcher) (refused : DeliveryError → Warning) (delivery : Delivery) :
    Dispatcher :=
  (d.offer refused delivery).wake delivery

end Dispatcher

end ChatFeed
