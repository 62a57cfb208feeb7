import ChatFeed.Collection.Table
import ChatFeed.Event.Basic

/-!
# The multiplexer

The multiplexer hands live events to waiting listeners. A listener waits for
one user and is handed at most one event, after which it is done. It also stops
waiting, without an event, when the cancel signal it watches fires, when the
time it waits for is up, or when the multiplexer closes.

The listeners of a user queue in the order of their registration. A slot in a
queue may outlive its use, since firing a signal does not touch the queues:
slots that can no longer be served are dropped when their user's queue is next
looked at. Waiting is resolved only by polling, so a listener whose time is up
keeps its slot until it is polled or dropped.

## Main definitions

* `Multiplexer`: the queues, with the listeners, signals and clock they depend on
* `Multiplexer.listen`, `Multiplexer.poll`, `Multiplexer.drop`: the life of a listener
* `Multiplexer.send`: handing an event to the oldest listener of each recipient
* `Multiplexer.fire`, `Multiplexer.elapse`, `Multiplexer.close`: what ends waiting
-/

namespace ChatFeed

/-- Names a listener. Tickets are given out in ascending order. -/
abbrev Ticket := Nat

/-- Names a cancel signal. -/
abbrev SignalName := String

/-- How long a listener waits. -/
inductive Wait where
  /-- It has not been polled yet, so its waiting has not begun. -/
  | unstarted
  | endless
  /-- Until the clock shows `deadline`. -/
  | due (deadline : Nat)
deriving DecidableEq, Repr

/-- A listener that is neither resolved nor dropped. -/
structure Listener where
  user : UserId
  signal : SignalName
  /-- The event it has been handed. -/
  handed : Option (Indexed Event) := none
  wait : Wait := .unstarted
deriving DecidableEq

namespace Listener

/-- The listener, waiting from now on: for at most `timeout` milliseconds, if that is given. -/
def start (listener : Listener) (now : Nat) (timeout : Option Nat) : Listener :=
  match listener.wait, timeout with
  | .unstarted, none => { listener with wait := .endless }
  | .unstarted, some timeout => { listener with wait := .due (now + timeout) }
  | _, _ => listener

/-- Whether the listener's time is up. -/
def isOverdue (listener : Listener) (now : Nat) : Bool :=
  match listener.wait with
  | .due deadline => deadline ≤ now
  | _ => false

end Listener

/-- What polling a listener finds. -/
inductive Poll where
  | pending
  | delivered (item : Indexed Event)
  /-- The listener has stopped waiting without an event. -/
  | released
deriving DecidableEq

/-- The queues of listeners, with the listeners, the cancel signals and the clock. -/
structure Multiplexer where
  /-- The slots of each user who has any, in order of registration. -/
  queues : Table UserId (List Ticket) := ∅
  listeners : Table Ticket Listener := ∅
  nextTicket : Ticket := 0
  /-- The signals that have fired. -/
  fired : List SignalName := []
  /-- Milliseconds on the clock. -/
  now : Nat := 0
  isOpen : Bool := true
deriving DecidableEq

namespace Multiplexer

/-- Whether a signal has fired. -/
def hasFired (m : Multiplexer) (signal : SignalName) : Bool :=
  m.fired.contains signal

/-- Whether the slot of a listener can still be served. -/
def isLive (m : Multiplexer) (ticket : Ticket) : Bool :=
  match m.listeners.get? ticket with
  | some listener => !m.hasFired listener.signal
  | none => false

/-- The slots of a user. -/
def queue (m : Multiplexer) (user : UserId) : List Ticket :=
  m.queues.getD user []

/-- The number of slots of a user, served or not. -/
def pending (m : Multiplexer) (user : UserId) : Nat :=
  (m.queue user).length

/-- Replaces the slots of a user. No empty queue is kept. -/
def setQueue (m : Multiplexer) (user : UserId) (queue : List Ticket) : Multiplexer :=
  { m with
    queues := if queue.isEmpty then m.queues.erase user else m.queues.insert user queue }

/-- Drops the slots of a user that can no longer be served. -/
def prune (m : Multiplexer) (user : UserId) : Multiplexer :=
  m.setQueue user ((m.queue user).filter m.isLive)

/-! ### Listeners -/

/-- Registers a listener for `user`. Its slot is served from now on. A listener that comes after
the multiplexer has closed gets no slot. -/
def listen (m : Multiplexer) (user : UserId) (signal : SignalName) : Ticket × Multiplexer :=
  let ticket := m.nextTicket
  let pruned := m.prune user
  let queued := if m.isOpen then pruned.setQueue user (pruned.queue user ++ [ticket]) else pruned
  (ticket,
    { queued with
      listeners := queued.listeners.insert ticket { user, signal }
      nextTicket := ticket + 1 })

/-- Gives up a listener, and its slot with it. -/
def drop (m : Multiplexer) (ticket : Ticket) : Multiplexer :=
  match m.listeners.get? ticket with
  | none => m
  | some listener => { m with listeners := m.listeners.erase ticket }.prune listener.user

/-- Looks whether a listener is done. The first time, its waiting begins, and only then does
`timeout` count. A listener that is done is given up; an event it has been handed comes before
every other reason to stop waiting. -/
def poll (m : Multiplexer) (ticket : Ticket) (timeout : Option Nat) : Option Poll × Multiplexer :=
  match m.listeners.get? ticket with
  | none => (none, m)
  | some listener =>
    let started := listener.start m.now timeout
    match started.handed with
    | some item => (some (.delivered item), m.drop ticket)
    | none =>
      if !m.isOpen || m.hasFired started.signal || started.isOverdue m.now then
        (some .released, m.drop ticket)
      else (some .pending, { m with listeners := m.listeners.insert ticket started })

/-! ### Sending -/

/-- Hands `item` to a listener. -/
def hand (m : Multiplexer) (ticket : Ticket) (item : Indexed Event) : Multiplexer :=
  match m.listeners.get? ticket with
  | none => m
  | some listener =>
    { m with listeners := m.listeners.insert ticket { listener with handed := some item } }

/-- Hands `item` to the oldest listener of `user` that can be served, and drops the slots before
it. -/
def sendTo (item : Indexed Event) (m : Multiplexer) (user : UserId) : Multiplexer :=
  match (m.queue user).dropWhile fun ticket => !m.isLive ticket with
  | [] => m.setQueue user []
  | ticket :: rest => (m.setQueue user rest).hand ticket item

/-- Hands `item` to one listener of each recipient, as often as the recipient is listed. A recipient
without a listener misses it. -/
def send (m : Multiplexer) (recipients : List UserId) (item : Indexed Event) : Multiplexer :=
  recipients.foldl (sendTo item) m

/-! ### The end of waiting -/

/-- Fires a cancel signal, for good. -/
def fire (m : Multiplexer) (signal : SignalName) : Multiplexer :=
  if m.hasFired signal then m else { m with fired := signal :: m.fired }

/-- Lets `span` milliseconds pass. -/
def elapse (m : Multiplexer) (span : Nat) : Multiplexer :=
  { m with now := m.now + span }

/-- Closes the multiplexer. Listeners keep what they have been handed. -/
def close (m : Multiplexer) : Multiplexer :=
  { m with queues := ∅, isOpen := false }

end Multiplexer

end ChatFeed
