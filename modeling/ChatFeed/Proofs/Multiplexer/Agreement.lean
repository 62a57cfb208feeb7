import ChatFeed.Proofs.Multiplexer.Chronicle

/-!
# The multiplexer agrees with its chronicle

After any schedule, the listeners, signals and clock of a multiplexer are what its
chronicle says, and the slots of a user that can be served belong to the live
listeners of the user, in the order of their registration. Slots that can no longer
be served may stand anywhere between them.

## Main definitions

* `Agrees`: the multiplexer is as the chronicle says

## Main results

* `Agrees.listener_of_registration`: how a registered listener is kept
* `Agrees.servable_eq`: who can be served
* `Agrees.append_quiet`: most occurrences register and hand nothing, and keep the agreement
-/

namespace ChatFeed.Multiplexer

/-- The multiplexer is as the chronicle says. -/
structure Agrees (history : List Occurrence) (m : Multiplexer) : Prop where
  fired : ∀ signal, m.hasFired signal = hasFiredIn history signal
  isOpen : m.isOpen = !isClosed history
  now : m.now = elapsedTime history
  /-- Every ticket in the chronicle has been given out. -/
  givenOut : ∀ occurrence ∈ history, ∀ ticket ∈ occurrence.ticket?, ticket < m.nextTicket
  ascending : (registrations history).Pairwise fun earlier later => earlier.ticket < later.ticket
  handedOnce : (handedTickets history).Nodup
  registered : ∀ ticket ∈ handedTickets history,
    ∃ registration ∈ registrations history, registration.ticket = ticket
  listener : ∀ ticket, m.listeners.get? ticket = listenerIn? history ticket
  queued : ∀ user, ∀ ticket ∈ m.queue user, ticket < m.nextTicket
  served : ∀ user, m.servable user =
    if isClosed history then [] else (unservedTickets history user).filter m.isLive

section Listeners

variable {history : List Occurrence} {occurrence : Occurrence} {ticket : Ticket} {user : UserId}
  {signal : SignalName} {item : Indexed Event}

/-! ### Listeners after one more occurrence -/

/-- An occurrence changes nothing for the listeners that it does not concern. -/
theorem listenerIn?_append_of_ne (foreign : occurrence.ticket? ≠ some ticket) :
    listenerIn? (history ++ [occurrence]) ticket = listenerIn? history ticket := by
  have not_registered : occurrence.registration?.toList.find?
      (fun registration => registration.ticket = ticket) = none := by
    rw [List.find?_eq_none]
    intro registration mem same
    rw [Option.mem_toList] at mem
    rw [Occurrence.ticket_of_registration? mem, of_decide_eq_true same] at foreign
    exact foreign rfl
  rw [listenerIn?, hasEnded_append, registrations_append, handedItem?_append, waitFrom_append,
    Occurrence.ends_of_ticket?_ne foreign, Occurrence.itemFor?_of_ticket?_ne foreign,
    Occurrence.waitAt_of_ticket?_ne foreign, List.find?_append, not_registered, Bool.or_false,
    Option.or_none, Option.or_none, Wait.orElse_unstarted, listenerIn?]

/-- A listener that has just been registered waits for its first poll. -/
theorem listenerIn?_append_registered
    (unconcerned : ∀ occurrence ∈ history, occurrence.ticket? ≠ some ticket) :
    listenerIn? (history ++ [.registered ticket user signal]) ticket = some { user, signal } := by
  obtain ⟨not_ended, not_handed, not_registered, not_waiting⟩ := reading_of_unconcerned unconcerned
  have missing : (registrations history).find? (fun registration => registration.ticket = ticket) =
      none := by simpa using not_registered
  simp [listenerIn?, hasEnded_append, registrations_append, handedItem?_append, waitFrom_append,
    not_ended, not_handed, missing, not_waiting, Occurrence.ends, Occurrence.itemFor?,
    Occurrence.waitAt, Occurrence.registration?]

theorem listenerIn?_append_handed (not_handed : handedItem? history ticket = none) :
    listenerIn? (history ++ [.handed ticket item]) ticket =
      (listenerIn? history ticket).map fun listener => { listener with handed := some item } := by
  simp only [listenerIn?, hasEnded_append, registrations_append, handedItem?_append,
    waitFrom_append, not_handed, Occurrence.ends, Occurrence.itemFor?, Occurrence.waitAt,
    Occurrence.registration?, Option.toList_none, List.append_nil, Bool.or_false, if_pos,
    Option.none_or, Wait.orElse_unstarted]
  split
  · rfl
  · rw [Option.map_map]
    rfl

theorem listenerIn?_append_pending {timeout : Option Nat} :
    listenerIn? (history ++ [.polled ticket timeout .pending]) ticket =
      (listenerIn? history ticket).map fun listener =>
        listener.start (elapsedTime history) timeout := by
  simp only [start_eq _ _ timeout ticket .pending, listenerIn?, hasEnded_append,
    registrations_append, handedItem?_append, waitFrom_append, Occurrence.ends,
    Occurrence.itemFor?, Occurrence.registration?, Option.toList_none, List.append_nil,
    Option.or_none, ne_eq, not_true_eq_false, and_false, decide_false, Bool.or_false,
    Nat.zero_add]
  split
  · rfl
  · rw [Option.map_map]
    rfl

theorem listenerIn?_append_end (is_end : occurrence.ends ticket = true) :
    listenerIn? (history ++ [occurrence]) ticket = none := by
  rw [listenerIn?, hasEnded_append, is_end, Bool.or_true, if_pos rfl]

end Listeners

namespace Agrees

variable {history : List Occurrence} {occurrence : Occurrence} {m : Multiplexer}
  {registration : Registration} {ticket : Ticket}

/-! ### What the agreement says -/

theorem find?_registration (agrees : Agrees history m)
    (registered : registration ∈ registrations history) :
    (registrations history).find? (fun other => other.ticket = registration.ticket) =
      some registration := by
  -- Whoever was registered before has a smaller ticket, so the search does not stop there.
  obtain ⟨before, after, cut⟩ := List.append_of_mem registered
  have ascending := agrees.ascending
  rw [cut, List.pairwise_append] at ascending
  rw [cut, List.find?_append, List.find?_eq_none.mpr, Option.none_or]
  · simp
  · intro other mem same
    have earlier := ascending.2.2 other mem registration List.mem_cons_self
    exact Nat.ne_of_lt earlier (of_decide_eq_true same)

/-- A ticket names one registration only. -/
theorem registration_unique {other : Registration} (agrees : Agrees history m)
    (registered : registration ∈ registrations history)
    (other_registered : other ∈ registrations history)
    (same : other.ticket = registration.ticket) : other = registration := by
  have found := agrees.find?_registration other_registered
  rw [same, agrees.find?_registration registered] at found
  exact (Option.some.inj found).symm

/-- A listener that has not ended is kept as it was registered, with what has happened to it. -/
theorem listener_of_registration (agrees : Agrees history m)
    (registered : registration ∈ registrations history)
    (not_ended : hasEnded history registration.ticket = false) :
    m.listeners.get? registration.ticket =
      some { user := registration.user
             signal := registration.signal
             handed := handedItem? history registration.ticket
             wait := waitFrom registration.ticket 0 history } := by
  rw [agrees.listener, listenerIn?, not_ended, if_neg Bool.false_ne_true,
    agrees.find?_registration registered]
  rfl

theorem isLive_of_registration (agrees : Agrees history m)
    (registered : registration ∈ registrations history) :
    m.isLive registration.ticket =
      (!hasEnded history registration.ticket && !hasFiredIn history registration.signal) := by
  rw [isLive_eq_any]
  cases ended : hasEnded history registration.ticket with
  | false =>
    rw [agrees.listener_of_registration registered ended, Option.any_some, agrees.fired]
    rfl
  | true =>
    rw [agrees.listener, listenerIn?, ended]
    rfl

/-- The listeners that are live are those unserved ones whose slots can be served. -/
theorem filter_isLive_unservedTickets (agrees : Agrees history m) (user : UserId) :
    (unservedTickets history user).filter m.isLive = liveTickets history user := by
  rw [unservedTickets, liveTickets, List.filter_map, List.filter_filter]
  congr 1
  apply List.filter_congr
  intro registration registered
  rw [Function.comp_apply, agrees.isLive_of_registration registered, isLiveIn]
  cases handedItem? history registration.ticket <;>
    cases hasEnded history registration.ticket <;> simp [Bool.and_comm]

theorem servable_eq (agrees : Agrees history m) (user : UserId) :
    m.servable user = if isClosed history then [] else liveTickets history user := by
  rw [agrees.served, agrees.filter_isLive_unservedTickets]

theorem servable_of_isClosed (agrees : Agrees history m) (closed : isClosed history = true)
    (user : UserId) : m.servable user = [] := by
  rw [agrees.served, if_pos closed]

/-- Who can be served is registered for the user, and unserved. -/
theorem unserved_of_servable {user : UserId} (agrees : Agrees history m)
    (servable : ticket ∈ m.servable user) :
    isClosed history = false ∧ ∃ registration ∈ registrations history,
      registration.ticket = ticket ∧ registration.user = user ∧
        handedItem? history ticket = none := by
  rw [agrees.served] at servable
  split at servable
  next => contradiction
  next not_closed =>
    refine ⟨Bool.eq_false_iff.mpr not_closed, ?_⟩
    exact mem_unservedTickets_iff.mp (List.mem_filter.mp servable).1

theorem user_eq_of_servable {user other : UserId} (agrees : Agrees history m)
    (servable : ticket ∈ m.servable user) (other_servable : ticket ∈ m.servable other) :
    user = other := by
  obtain ⟨-, registration, registered, rfl, rfl, -⟩ := agrees.unserved_of_servable servable
  obtain ⟨-, again, again_registered, same, rfl, -⟩ := agrees.unserved_of_servable other_servable
  rw [agrees.registration_unique registered again_registered same]

theorem nodup_servable (agrees : Agrees history m) (user : UserId) :
    (m.servable user).Nodup := by
  rw [agrees.served]
  split
  · exact List.nodup_nil
  · have ascending : (unservedTickets history user).Pairwise (· < ·) :=
      List.pairwise_map.mpr (agrees.ascending.filter _)
    exact (ascending.imp Nat.ne_of_lt).filter _

theorem lt_nextTicket_of_registered (agrees : Agrees history m)
    (registered : registration ∈ registrations history) :
    registration.ticket < m.nextTicket := by
  obtain ⟨occurrence, mem, registers⟩ := List.mem_filterMap.mp registered
  exact agrees.givenOut occurrence mem _ (Occurrence.ticket_of_registration? registers)

theorem lt_nextTicket_of_listener {listener : Listener} (agrees : Agrees history m)
    (found : m.listeners.get? ticket = some listener) : ticket < m.nextTicket := by
  rw [agrees.listener, listenerIn?] at found
  split at found
  next => contradiction
  next =>
    obtain ⟨registration, registered, -⟩ := Option.map_eq_some_iff.mp found
    have same : registration.ticket = ticket := by simpa using List.find?_some registered
    exact same ▸ agrees.lt_nextTicket_of_registered (List.mem_of_find?_eq_some registered)

/-- The next ticket is new to the chronicle. -/
theorem unconcerned_nextTicket (agrees : Agrees history m) :
    ∀ occurrence ∈ history, occurrence.ticket? ≠ some m.nextTicket := by
  intro occurrence mem same
  exact Nat.lt_irrefl _ (agrees.givenOut occurrence mem _ same)

theorem lt_nextTicket_of_unserved {user : UserId} (agrees : Agrees history m)
    (unserved : ticket ∈ unservedTickets history user) : ticket < m.nextTicket := by
  obtain ⟨registration, registered, rfl, -⟩ := mem_unservedTickets_iff.mp unserved
  exact agrees.lt_nextTicket_of_registered registered

theorem givenOut_append (agrees : Agrees history m) {next : Ticket}
    (grows : m.nextTicket ≤ next) (given : ∀ ticket ∈ occurrence.ticket?, ticket < next) :
    ∀ old ∈ history ++ [occurrence], ∀ ticket ∈ old.ticket?, ticket < next := by
  intro old mem ticket concerned
  rcases List.mem_append.mp mem with earlier | last
  · exact Nat.lt_of_lt_of_le (agrees.givenOut old earlier ticket concerned) grows
  · rw [List.mem_singleton.mp last] at concerned
    exact given ticket concerned

/-! ### Occurrences that register and hand nothing -/

/-- An occurrence that registers and hands nothing leaves at most fewer listeners live. -/
theorem append_quiet (agrees : Agrees history m) {m' : Multiplexer}
    (unregistered : occurrence.registration? = none) (unhanded : occurrence.handedTicket? = none)
    (given : ∀ ticket ∈ occurrence.ticket?, ticket < m.nextTicket)
    (same_next : m'.nextTicket = m.nextTicket)
    (fired : ∀ signal, m'.hasFired signal = hasFiredIn (history ++ [occurrence]) signal)
    (isOpen : m'.isOpen = !isClosed (history ++ [occurrence]))
    (now : m'.now = elapsedTime (history ++ [occurrence]))
    (listener : ∀ ticket, m'.listeners.get? ticket = listenerIn? (history ++ [occurrence]) ticket)
    (queued : ∀ user, ∀ ticket ∈ m'.queue user, ticket ∈ m.queue user)
    (fewer : ∀ ticket, m'.isLive ticket = true → m.isLive ticket = true)
    (served : ∀ user, m'.servable user =
      if isClosed (history ++ [occurrence]) then [] else (m.servable user).filter m'.isLive) :
    Agrees (history ++ [occurrence]) m' where
  fired := fired
  isOpen := isOpen
  now := now
  givenOut := by
    rw [same_next]
    exact agrees.givenOut_append (Nat.le_refl _) given
  ascending := by
    rw [registrations_append, unregistered, Option.toList_none, List.append_nil]
    exact agrees.ascending
  handedOnce := by
    rw [handedTickets_append, unhanded, Option.toList_none, List.append_nil]
    exact agrees.handedOnce
  registered := by
    rw [handedTickets_append, unhanded, registrations_append, unregistered, Option.toList_none,
      Option.toList_none, List.append_nil, List.append_nil]
    exact agrees.registered
  listener := listener
  queued := by
    intro user ticket mem
    rw [same_next]
    exact agrees.queued user ticket (queued user ticket mem)
  served := by
    intro user
    have all_remain : (unservedTickets history user).filter
        (fun ticket => (occurrence.itemFor? ticket).isNone) = unservedTickets history user := by
      rw [List.filter_eq_self]
      intro ticket _
      cases occurrence with
      | handed => contradiction
      | _ => rfl
    rw [served, unservedTickets_append _ _ _ unregistered, all_remain, agrees.served,
      isClosed_append]
    -- Closing is for good: after it there is nothing to compare on either side.
    cases isClosed history with
    | true => simp
    | false =>
      rw [if_neg Bool.false_ne_true, List.filter_filter]
      congr 1
      apply List.filter_congr
      intro ticket _
      cases live : m'.isLive ticket with
      | false => rfl
      | true => rw [fewer ticket live, Bool.and_self]

end Agrees

end ChatFeed.Multiplexer
