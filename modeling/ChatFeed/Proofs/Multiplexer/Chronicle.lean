import ChatFeed.Proofs.Multiplexer.Slots

/-!
# The chronicle of a multiplexer

A multiplexer is used in a schedule of actions, and what is seen of it makes up
its chronicle: who registers, who is handed which event, what each poll finds, and
what ends waiting. All that is said of a listener can be read off the chronicle:
whether it has ended, what it has been handed, since when it waits, and whether it
is live, that is, still to be served.

## Main definitions

* `Action`, `run`: a schedule, and the multiplexer after it
* `Occurrence`, `chronicle`: what is seen, and all that is seen along a schedule
* `hasEnded`, `handedItem?`, `waitFrom`: what the chronicle says of a listener
* `liveTickets`: the live listeners of a user, in the order of their registration
-/

namespace ChatFeed

/-- How long a listener waits if `later` is settled after `wait`: what is settled first counts. -/
def Wait.orElse (wait later : Wait) : Wait :=
  match wait with
  | .unstarted => later
  | _ => wait

@[simp] theorem Wait.unstarted_orElse (later : Wait) : Wait.unstarted.orElse later = later := rfl

@[simp] theorem Wait.orElse_unstarted (wait : Wait) : wait.orElse .unstarted = wait := by
  cases wait <;> rfl

theorem Wait.orElse_assoc (first second third : Wait) :
    (first.orElse second).orElse third = first.orElse (second.orElse third) := by
  cases first <;> rfl

namespace Multiplexer

/-- What can be done to a multiplexer, its listeners, the signals and the clock. -/
inductive Action where
  | listen (user : UserId) (signal : SignalName)
  | poll (ticket : Ticket) (timeout : Option Nat)
  | drop (ticket : Ticket)
  | fire (signal : SignalName)
  | send (recipients : List UserId) (item : Indexed Event)
  | elapse (span : Nat)
  | close
deriving DecidableEq

/-- What is seen to happen. -/
inductive Occurrence where
  | registered (ticket : Ticket) (user : UserId) (signal : SignalName)
  | handed (ticket : Ticket) (item : Indexed Event)
  | polled (ticket : Ticket) (timeout : Option Nat) (result : Poll)
  | dropped (ticket : Ticket)
  | fired (signal : SignalName)
  | elapsed (span : Nat)
  | closed
deriving DecidableEq

/-! ### Schedules -/

/-- The multiplexer after an action. -/
def act (m : Multiplexer) : Action → Multiplexer
  | .listen user signal => (m.listen user signal).2
  | .poll ticket timeout => (m.poll ticket timeout).2
  | .drop ticket => m.drop ticket
  | .fire signal => m.fire signal
  | .send recipients item => m.send recipients item
  | .elapse span => m.elapse span
  | .close => m.close

/-- What is seen of an action. Nothing is seen of a listener that is gone. -/
def occurrences (m : Multiplexer) : Action → List Occurrence
  | .listen user signal => [.registered (m.listen user signal).1 user signal]
  | .poll ticket timeout => (m.poll ticket timeout).1.toList.map (.polled ticket timeout)
  | .drop ticket => (m.listeners.get? ticket).toList.map fun _ => .dropped ticket
  | .fire signal => [.fired signal]
  | .send recipients item => (handings item m recipients).map (.handed · item)
  | .elapse span => [.elapsed span]
  | .close => [.closed]

/-- The multiplexer after a schedule. -/
def run (m : Multiplexer) (schedule : List Action) : Multiplexer :=
  schedule.foldl act m

/-- All that is seen along a schedule. -/
def chronicle (m : Multiplexer) : List Action → List Occurrence
  | [] => []
  | action :: rest => m.occurrences action ++ chronicle (m.act action) rest

/-! ### Single occurrences -/

namespace Occurrence

/-- The listener that an occurrence concerns. -/
def ticket? : Occurrence → Option Ticket
  | registered ticket _ _ | handed ticket _ | polled ticket _ _ | dropped ticket => some ticket
  | fired _ | elapsed _ | closed => none

/-- Whether an occurrence is the end of a listener: it is dropped, or a poll finds it done. -/
def ends (ticket : Ticket) : Occurrence → Bool
  | polled t _ result => t = ticket ∧ result ≠ .pending
  | dropped t => t = ticket
  | _ => false

/-- The event that an occurrence hands to a listener. -/
def itemFor? (ticket : Ticket) : Occurrence → Option (Indexed Event)
  | handed t item => if t = ticket then some item else none
  | _ => none

/-- The time that passes. -/
def span : Occurrence → Nat
  | elapsed span => span
  | _ => 0

/-- How long a listener waits if an occurrence is its first poll. -/
def waitAt (ticket : Ticket) (now : Nat) : Occurrence → Wait
  | polled t none _ => if t = ticket then .endless else .unstarted
  | polled t (some timeout) _ => if t = ticket then .due (now + timeout) else .unstarted
  | _ => .unstarted

end Occurrence

/-- A listener as it was registered. -/
structure Registration where
  ticket : Ticket
  user : UserId
  signal : SignalName
deriving DecidableEq

/-- The registration that an occurrence is. -/
def Occurrence.registration? : Occurrence → Option Registration
  | registered ticket user signal => some ⟨ticket, user, signal⟩
  | _ => none

/-- The listener that an occurrence hands an event. -/
def Occurrence.handedTicket? : Occurrence → Option Ticket
  | handed ticket _ => some ticket
  | _ => none

/-! ### Reading a chronicle -/

section Reading

variable (history : List Occurrence)

/-- All listeners, in the order of their registration. -/
def registrations : List Registration :=
  history.filterMap Occurrence.registration?

/-- The listeners that have been handed an event, as often as they have been. -/
def handedTickets : List Ticket :=
  history.filterMap Occurrence.handedTicket?

/-- Whether a listener has been dropped, or a poll has found it done. -/
def hasEnded (ticket : Ticket) : Bool :=
  history.any (Occurrence.ends ticket)

/-- The event that a listener has been handed. -/
def handedItem? (ticket : Ticket) : Option (Indexed Event) :=
  history.findSome? (Occurrence.itemFor? ticket)

/-- Whether a signal has fired. -/
def hasFiredIn (signal : SignalName) : Bool :=
  history.contains (.fired signal)

/-- Whether the multiplexer is gone. -/
def isClosed : Bool :=
  history.contains .closed

/-- The listeners of a user that have been handed nothing, in the order of their registration. -/
def unservedTickets (user : UserId) : List Ticket :=
  ((registrations history).filter fun registration =>
    registration.user = user && (handedItem? history registration.ticket).isNone).map (·.ticket)

/-- Whether a listener is still to be served: it has not ended, has been handed nothing, and its
signal has not fired. -/
def isLiveIn (registration : Registration) : Bool :=
  !hasEnded history registration.ticket && (handedItem? history registration.ticket).isNone &&
    !hasFiredIn history registration.signal

/-- The live listeners of a user, in the order of their registration. -/
def liveTickets (user : UserId) : List Ticket :=
  ((registrations history).filter fun registration =>
    registration.user = user && isLiveIn history registration).map (·.ticket)

end Reading

/-- The time that has passed. -/
def elapsedTime : List Occurrence → Nat
  | [] => 0
  | occurrence :: rest => occurrence.span + elapsedTime rest

/-- How long a listener waits, by its first poll. The clock shows `now` before the chronicle. -/
def waitFrom (ticket : Ticket) (now : Nat) : List Occurrence → Wait
  | [] => .unstarted
  | occurrence :: rest =>
    (occurrence.waitAt ticket now).orElse (waitFrom ticket (now + occurrence.span) rest)

/-- Whether the time of a listener is up when it is polled with `timeout`. Its time counts from its
first poll, which may be this one, and so does the timeout given then. -/
def timeIsUp (history : List Occurrence) (ticket : Ticket) (timeout : Option Nat) : Bool :=
  match waitFrom ticket 0 (history ++ [.polled ticket timeout .pending]) with
  | .due deadline => deadline ≤ elapsedTime history
  | _ => false

/-- A listener as the chronicle describes it, unless it has ended. -/
def listenerIn? (history : List Occurrence) (ticket : Ticket) : Option Listener :=
  if hasEnded history ticket then none
  else
    ((registrations history).find? fun registration => registration.ticket = ticket).map
      fun registration =>
        { user := registration.user
          signal := registration.signal
          handed := handedItem? history ticket
          wait := waitFrom ticket 0 history }

/-! ### One more occurrence -/

section Append

variable (history : List Occurrence) (occurrence : Occurrence) (ticket : Ticket)

theorem registrations_append : registrations (history ++ [occurrence]) =
    registrations history ++ occurrence.registration?.toList := by
  simp only [registrations, List.filterMap_append]
  cases occurrence <;> rfl

theorem handedTickets_append : handedTickets (history ++ [occurrence]) =
    handedTickets history ++ occurrence.handedTicket?.toList := by
  simp only [handedTickets, List.filterMap_append]
  cases occurrence <;> rfl

theorem hasEnded_append : hasEnded (history ++ [occurrence]) ticket =
    (hasEnded history ticket || occurrence.ends ticket) := by
  simp [hasEnded]

theorem handedItem?_append : handedItem? (history ++ [occurrence]) ticket =
    (handedItem? history ticket).or (occurrence.itemFor? ticket) := by
  rw [handedItem?, List.findSome?_append, handedItem?, List.findSome?_singleton]

theorem hasFiredIn_append (signal : SignalName) : hasFiredIn (history ++ [occurrence]) signal =
    (hasFiredIn history signal || decide (.fired signal = occurrence)) := by
  simp [hasFiredIn]

theorem isClosed_append : isClosed (history ++ [occurrence]) =
    (isClosed history || decide (.closed = occurrence)) := by
  simp [isClosed]

theorem elapsedTime_append : elapsedTime (history ++ [occurrence]) =
    elapsedTime history + occurrence.span := by
  induction history with
  | nil => exact Nat.add_comm _ _
  | cons first rest ih => rw [List.cons_append, elapsedTime, ih, elapsedTime, Nat.add_assoc]

/-- The first poll of a listener settles how long it waits. -/
theorem waitFrom_append (now : Nat) : waitFrom ticket now (history ++ [occurrence]) =
    (waitFrom ticket now history).orElse
      (occurrence.waitAt ticket (now + elapsedTime history)) := by
  -- By induction on the chronicle, with the clock running along.
  induction history generalizing now with
  | nil => simp [waitFrom, elapsedTime]
  | cons first rest ih =>
    have later : now + first.span + elapsedTime rest = now + elapsedTime (first :: rest) :=
      Nat.add_assoc _ _ _
    rw [List.cons_append, waitFrom, ih, later, waitFrom, Wait.orElse_assoc]

/-- Who has been handed an event is no longer unserved. -/
theorem unservedTickets_append (user : UserId) (unregistered : occurrence.registration? = none) :
    unservedTickets (history ++ [occurrence]) user =
      (unservedTickets history user).filter fun ticket => (occurrence.itemFor? ticket).isNone := by
  rw [unservedTickets, registrations_append, unregistered, Option.toList_none, List.append_nil,
    unservedTickets, List.filter_map, List.filter_filter]
  congr 1
  apply List.filter_congr
  intro registration _
  rw [handedItem?_append, Function.comp_apply]
  cases handedItem? history registration.ticket <;>
    cases occurrence.itemFor? registration.ticket <;> simp

end Append

/-- A poll settles how long a listener waits, unless an earlier one has. -/
theorem start_eq (listener : Listener) (now : Nat) (timeout : Option Nat) (ticket : Ticket)
    (result : Poll) : listener.start now timeout =
      { listener with
        wait := listener.wait.orElse
          ((Occurrence.polled ticket timeout result).waitAt ticket now) } := by
  obtain ⟨user, signal, handed, wait⟩ := listener
  cases wait <;> cases timeout <;> simp [Listener.start, Wait.orElse, Occurrence.waitAt]

/-! ### Occurrences that concern others -/

namespace Occurrence

variable {occurrence : Occurrence} {ticket : Ticket}

theorem ends_of_ticket?_ne (foreign : occurrence.ticket? ≠ some ticket) :
    occurrence.ends ticket = false := by
  cases occurrence <;> simp_all [ends, ticket?]

theorem itemFor?_of_ticket?_ne (foreign : occurrence.ticket? ≠ some ticket) :
    occurrence.itemFor? ticket = none := by
  cases occurrence <;> simp_all [itemFor?, ticket?]

theorem waitAt_of_ticket?_ne (foreign : occurrence.ticket? ≠ some ticket) (now : Nat) :
    occurrence.waitAt ticket now = .unstarted := by
  cases occurrence with
  | polled t timeout result => cases timeout <;> simp_all [waitAt, ticket?]
  | _ => rfl

theorem ticket_of_registration? {registration : Registration}
    (registers : occurrence.registration? = some registration) :
    occurrence.ticket? = some registration.ticket := by
  cases occurrence <;> simp_all [registration?, ticket?]
  exact congrArg Registration.ticket registers

/-- An occurrence that concerns a listener is no signal, no passing of time and not the close. -/
theorem readings_append_of_ticket? (concerns : occurrence.ticket? = some ticket)
    (history : List Occurrence) :
    (∀ signal, hasFiredIn (history ++ [occurrence]) signal = hasFiredIn history signal) ∧
      isClosed (history ++ [occurrence]) = isClosed history ∧
      elapsedTime (history ++ [occurrence]) = elapsedTime history := by
  simp only [hasFiredIn_append, isClosed_append, elapsedTime_append]
  cases occurrence <;> simp_all [ticket?, span]

/-- The end of a listener concerns it, and registers and hands nothing. -/
theorem quiet_of_ends (is_end : occurrence.ends ticket = true) :
    occurrence.ticket? = some ticket ∧ occurrence.registration? = none ∧
      occurrence.handedTicket? = none := by
  cases occurrence <;> simp_all [ends, ticket?, registration?, handedTicket?]

end Occurrence

/-- Of a listener that no occurrence concerns, the chronicle says nothing. -/
theorem reading_of_unconcerned {history : List Occurrence} {ticket : Ticket}
    (unconcerned : ∀ occurrence ∈ history, occurrence.ticket? ≠ some ticket) :
    hasEnded history ticket = false ∧ handedItem? history ticket = none ∧
      (∀ registration ∈ registrations history, registration.ticket ≠ ticket) ∧
      ∀ now, waitFrom ticket now history = .unstarted := by
  refine ⟨?_, ?_, ?_, ?_⟩
  · rw [hasEnded, List.any_eq_false]
    intro occurrence mem
    simp [Occurrence.ends_of_ticket?_ne (unconcerned occurrence mem)]
  · rw [handedItem?, List.findSome?_eq_none_iff]
    exact fun occurrence mem => Occurrence.itemFor?_of_ticket?_ne (unconcerned occurrence mem)
  · rintro registration mem rfl
    obtain ⟨occurrence, occurrence_mem, registers⟩ := List.mem_filterMap.mp mem
    exact unconcerned occurrence occurrence_mem (Occurrence.ticket_of_registration? registers)
  · induction history with
    | nil => exact fun now => rfl
    | cons first rest ih =>
      intro now
      rw [waitFrom, Occurrence.waitAt_of_ticket?_ne (unconcerned first List.mem_cons_self),
        Wait.unstarted_orElse]
      exact ih (fun occurrence mem => unconcerned occurrence (List.mem_cons_of_mem _ mem)) _

theorem unservedTickets_append_registered {history : List Occurrence} {ticket : Ticket}
    {user : UserId} {signal : SignalName}
    (unconcerned : ∀ occurrence ∈ history, occurrence.ticket? ≠ some ticket) (other : UserId) :
    unservedTickets (history ++ [.registered ticket user signal]) other =
      unservedTickets history other ++ if user = other then [ticket] else [] := by
  have not_handed := (reading_of_unconcerned unconcerned).2.1
  have same (t : Ticket) :
      handedItem? (history ++ [.registered ticket user signal]) t = handedItem? history t := by
    rw [handedItem?_append]
    exact Option.or_none
  -- Nobody is handed anything, so the filter is the same and only the new registration is added.
  simp only [unservedTickets, same]
  rw [registrations_append, List.filter_append, List.map_append]
  congr 1
  by_cases mine : user = other <;> simp [Occurrence.registration?, not_handed, mine]

/-! ### Who has been handed what -/

section Handed

variable {history : List Occurrence} {ticket : Ticket} {item : Indexed Event} {user : UserId}

theorem mem_handedTickets_iff :
    ticket ∈ handedTickets history ↔ ∃ item, .handed ticket item ∈ history := by
  rw [handedTickets, List.mem_filterMap]
  constructor
  · rintro ⟨occurrence, mem, hands⟩
    cases occurrence <;> simp_all [Occurrence.handedTicket?]
    exact ⟨_, mem⟩
  · rintro ⟨item, mem⟩
    exact ⟨_, mem, rfl⟩

theorem handedItem?_eq_none_iff : handedItem? history ticket = none ↔
    ticket ∉ handedTickets history := by
  rw [mem_handedTickets_iff, handedItem?, List.findSome?_eq_none_iff]
  constructor
  · rintro none_for ⟨item, mem⟩
    simpa [Occurrence.itemFor?] using none_for _ mem
  · intro not_handed occurrence mem
    cases occurrence with
    | handed t item =>
      rw [Occurrence.itemFor?, if_neg]
      rintro rfl
      exact not_handed ⟨item, mem⟩
    | _ => rfl

/-- If nobody is handed two events, the first event handed to a listener is the only one. -/
theorem handedItem?_eq_some (handedOnce : (handedTickets history).Nodup)
    (mem : .handed ticket item ∈ history) : handedItem? history ticket = some item := by
  -- Nothing was handed to the listener before, or they would be listed twice.
  obtain ⟨before, after, cut⟩ := List.append_of_mem mem
  have handed_here : handedTickets history =
      handedTickets before ++ ticket :: handedTickets after := by
    rw [cut, handedTickets, List.filterMap_append]
    rfl
  have not_before : ticket ∉ handedTickets before := by
    intro found
    rw [handed_here, List.nodup_append] at handedOnce
    exact handedOnce.2.2 ticket found ticket List.mem_cons_self rfl
  rw [cut, handedItem?, List.findSome?_append, ← handedItem?,
    handedItem?_eq_none_iff.mpr not_before, Option.none_or]
  simp [Occurrence.itemFor?]

theorem mem_unservedTickets_iff : ticket ∈ unservedTickets history user ↔
    ∃ registration ∈ registrations history, registration.ticket = ticket ∧
      registration.user = user ∧ handedItem? history ticket = none := by
  simp only [unservedTickets, List.mem_map, List.mem_filter, Bool.and_eq_true, decide_eq_true_eq,
    Option.isNone_iff_eq_none]
  constructor
  · rintro ⟨registration, ⟨mem, mine, unserved⟩, rfl⟩
    exact ⟨registration, mem, rfl, mine, unserved⟩
  · rintro ⟨registration, mem, rfl, mine, unserved⟩
    exact ⟨registration, ⟨mem, mine, unserved⟩, rfl⟩

end Handed

end Multiplexer

end ChatFeed
