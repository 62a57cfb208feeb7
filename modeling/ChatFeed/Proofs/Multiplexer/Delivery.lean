import ChatFeed.Proofs.Multiplexer.Schedule

/-!
# Delivery

What a multiplexer owes its listeners, whatever has been done before. Sending hands
the event to the oldest live listeners of each recipient, and to no other. A listener
is handed at most one event in its life, and what it has been handed is what it gets
when it is next polled. Without an event, it is released once there is a reason, and
waits otherwise.

## Main results

* `Agrees.handed_mem_occurrences_iff`: who is handed an event
* `Agrees.poll_of_handed`, `Agrees.poll_of_unhanded`: what a poll finds
* `delivery_along_schedule`: all of it, after every schedule
-/

namespace ChatFeed.Multiplexer

namespace Agrees

variable {history : List Occurrence} {m : Multiplexer} {ticket : Ticket} {item : Indexed Event}
  {registration : Registration}

/-- Sending hands the event to the oldest live listeners of each recipient, as many as the
recipient is listed. -/
theorem handed_mem_occurrences_iff (agrees : Agrees history m) {recipients : List UserId}
    {handed : Indexed Event} :
    .handed ticket handed ∈ m.occurrences (.send recipients item) ↔
      handed = item ∧ isClosed history = false ∧
        ∃ user, ticket ∈ (liveTickets history user).take (recipients.count user) := by
  have found : .handed ticket handed ∈ m.occurrences (.send recipients item) ↔
      handed = item ∧ ticket ∈ handings item m recipients := by
    rw [occurrences, List.mem_map]
    constructor
    · rintro ⟨_, mem, ⟨⟩⟩
      exact ⟨rfl, mem⟩
    · rintro ⟨rfl, mem⟩
      exact ⟨ticket, mem, rfl⟩
  rw [found, mem_handings_iff]
  simp only [agrees.servable_eq]
  cases isClosed history <;> simp

-- A listener whose signal has fired does not take the event from the one behind it.
example (item : Indexed Event) :
    let user : UserId := Id.ofParts .user "reader" "example.org"
    let m := ({} : Multiplexer).run [.listen user "first", .listen user "second", .fire "first"]
    m.occurrences (.send [user] item) = [.handed 1 item] := by
  rfl

/-- A listener gets what it has been handed, whatever has happened since. -/
theorem poll_of_handed (agrees : Agrees history m) (handed : .handed ticket item ∈ history)
    (not_ended : hasEnded history ticket = false) (timeout : Option Nat) :
    (m.poll ticket timeout).1 = some (.delivered item) := by
  obtain ⟨registration, registered, rfl⟩ :=
    agrees.registered ticket (mem_handedTickets_iff.mpr ⟨item, handed⟩)
  have kept := agrees.listener_of_registration registered not_ended
  rw [Multiplexer.poll_of_handed kept (handedItem?_eq_some agrees.handedOnce handed)]

theorem isOverdue_start (agrees : Agrees history m) {listener : Listener}
    (waits : listener.wait = waitFrom ticket 0 history) (timeout : Option Nat) :
    (listener.start m.now timeout).isOverdue m.now = timeIsUp history ticket timeout := by
  -- The poll itself counts: if it is the first, it settles when the time is up.
  have settled : (listener.start m.now timeout).wait =
      waitFrom ticket 0 (history ++ [.polled ticket timeout .pending]) := by
    rw [waitFrom_append, ← waits, Nat.zero_add, ← agrees.now, start_eq _ _ _ ticket .pending]
  rewrite [Listener.isOverdue, settled, timeIsUp, agrees.now]
  rfl

/-- A listener that has been handed nothing waits until there is a reason to release it. -/
theorem poll_of_unhanded (agrees : Agrees history m)
    (registered : registration ∈ registrations history)
    (not_ended : hasEnded history registration.ticket = false)
    (unhanded : registration.ticket ∉ handedTickets history) (timeout : Option Nat) :
    (m.poll registration.ticket timeout).1 =
      some (if hasFiredIn history registration.signal || isClosed history ||
          timeIsUp history registration.ticket timeout then .released else .pending) := by
  have kept := agrees.listener_of_registration registered not_ended
  rw [poll_of_unserved kept (handedItem?_eq_none_iff.mpr unhanded),
    agrees.isOverdue_start rfl, agrees.fired, agrees.isOpen, Bool.not_not,
    Bool.or_comm (isClosed history)]
  split <;> rfl

end Agrees

/-- Whatever has been done to a multiplexer: sending hands the event to the oldest live listeners
of each recipient and to no other, no listener is ever handed two, who has been handed one gets it
when next polled, and who has not is released for a fired signal, an elapsed timeout or the close,
and for nothing else. -/
theorem delivery_along_schedule (past : List Action) :
    let m := run {} past
    let history := chronicle {} past
    (∀ recipients item ticket handed,
      .handed ticket handed ∈ m.occurrences (.send recipients item) ↔
        handed = item ∧ isClosed history = false ∧
          ∃ user, ticket ∈ (liveTickets history user).take (recipients.count user)) ∧
    (handedTickets history).Nodup ∧
    (∀ ticket item timeout, .handed ticket item ∈ history → hasEnded history ticket = false →
      (m.poll ticket timeout).1 = some (.delivered item)) ∧
    (∀ registration ∈ registrations history, ∀ timeout,
      hasEnded history registration.ticket = false →
      registration.ticket ∉ handedTickets history →
        (m.poll registration.ticket timeout).1 =
          some (if hasFiredIn history registration.signal || isClosed history ||
              timeIsUp history registration.ticket timeout then .released else .pending)) := by
  have agrees := agrees_run past
  refine ⟨?_, agrees.handedOnce, ?_, ?_⟩
  · intro recipients item ticket handed
    exact agrees.handed_mem_occurrences_iff
  · intro ticket item timeout handed not_ended
    exact agrees.poll_of_handed handed not_ended timeout
  · intro registration registered timeout not_ended unhanded
    exact agrees.poll_of_unhanded registered not_ended unhanded timeout

end ChatFeed.Multiplexer
