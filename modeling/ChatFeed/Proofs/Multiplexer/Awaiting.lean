import ChatFeed.Proofs.Multiplexer.Schedule

/-!
# Waiting for the next event

A listener who is alone when they register is the oldest of their user for as long as they wait,
since those who come later queue up behind them. So they are handed the first event that is sent to
the user, unless their signal has fired before.

## Main definitions

* `Awaits`: a listener is the next of their user to be handed an event, or has been handed one

## Main results

* `Agrees.awaits_listen`: who is alone when they register
* `Awaits.listen`, `Awaits.drop`, `Awaits.poll_other`: what others do makes no difference
* `Awaits.send`: what is sent to the user is handed to the listener, unless their signal has fired
* `Awaits.poll_self`: a listener who goes on waiting
-/

namespace ChatFeed.Multiplexer

variable {m : Multiplexer} {ticket other : Ticket} {user : UserId} {signal : SignalName}
  {listener : Listener} {item : Indexed Event}

/-- A listener is the next of their user to be handed an event, unless they have been handed one or
their signal has fired. -/
structure Awaits (m : Multiplexer) (ticket : Ticket) (listener : Listener) : Prop where
  isOpen : m.isOpen = true
  found : m.listeners.get? ticket = some listener
  given : ticket < m.nextTicket
  queued : ∀ user, ∀ slot ∈ m.queue user, slot < m.nextTicket
  mine : ∀ user, ticket ∈ m.queue user → user = listener.user
  next : listener.handed = none → m.hasFired listener.signal = false →
    m.oldest? listener.user = some ticket

/-! ### Registering -/

/-- Whoever can be served is a listener of the user. -/
theorem Agrees.user_of_servable {history : List Occurrence} (agrees : Agrees history m)
    (servable : ticket ∈ m.servable user) :
    ∃ listener, m.listeners.get? ticket = some listener ∧ listener.user = user := by
  have live := (List.mem_filter.mp servable).2
  rw [isLive_eq_any, Option.any_eq_true] at live
  obtain ⟨listener, found, -⟩ := live
  refine ⟨listener, found, ?_⟩
  obtain ⟨-, registration, registered, rfl, rfl, -⟩ := agrees.unserved_of_servable servable
  -- The listener is kept as it was registered.
  rw [agrees.listener, listenerIn?] at found
  split at found
  next => contradiction
  next =>
    rw [agrees.find?_registration registered, Option.map_some] at found
    obtain rfl := Option.some.inj found
    rfl

/-- A listener who is alone when they register is the next to be handed an event. -/
theorem Agrees.awaits_listen {history : List Occurrence} (agrees : Agrees history m)
    (isOpen : m.isOpen = true)
    (alone : ∀ other listener, m.listeners.get? other = some listener → listener.user ≠ user)
    (signal : SignalName) : Awaits (m.listen user signal).2 m.nextTicket { user, signal } where
  isOpen := (isOpen_listen m user signal).trans isOpen
  found := by rw [get?_listeners_listen, if_pos rfl]
  given := by
    rw [nextTicket_listen]
    exact Nat.lt_succ_self _
  queued := (agrees.listen user signal).queued
  mine other mem := by
    rw [queue_listen] at mem
    split at mem
    next same => exact same.symm
    next => exact absurd (agrees.queued other _ mem) (Nat.lt_irrefl _)
  next _ waits := by
    have fresh : m.nextTicket ∉ m.queue user := fun mem =>
      Nat.lt_irrefl _ (agrees.queued user _ mem)
    have nobody : m.servable user = [] := by
      rw [List.eq_nil_iff_forall_not_mem]
      intro slot servable
      obtain ⟨listener, found, mine⟩ := agrees.user_of_servable servable
      exact alone slot listener found mine
    rw [hasFired_listen] at waits
    rw [oldest?, servable_listen _ _ _ _ fresh, nobody]
    simp [isOpen, waits]

namespace Awaits

/-- A listener who comes later queues up behind. -/
theorem listen (awaits : m.Awaits ticket listener) (user : UserId) (signal : SignalName) :
    (m.listen user signal).2.Awaits ticket listener where
  isOpen := (isOpen_listen m user signal).trans awaits.isOpen
  found := by rw [get?_listeners_listen, if_neg (Nat.ne_of_gt awaits.given), awaits.found]
  given := by
    rw [nextTicket_listen]
    exact Nat.lt_succ_of_lt awaits.given
  queued other slot mem := by
    rw [nextTicket_listen]
    rcases mem_queue_listen _ _ _ _ mem with earlier | rfl
    · exact Nat.lt_succ_of_lt (awaits.queued other slot earlier)
    · exact Nat.lt_succ_self _
  mine other mem := by
    rcases mem_queue_listen _ _ _ _ mem with earlier | same
    · exact awaits.mine other earlier
    · exact absurd same (Nat.ne_of_lt awaits.given)
  next unhanded waits := by
    have fresh : m.nextTicket ∉ m.queue listener.user := fun mem =>
      Nat.lt_irrefl _ (awaits.queued _ _ mem)
    rw [hasFired_listen] at waits
    have oldest := awaits.next unhanded waits
    rw [oldest?] at oldest ⊢
    rw [servable_listen _ _ _ _ fresh, List.head?_append, oldest, Option.some_or]

/-! ### Waiting and its end -/

/-- Another listener who is given up takes only their own slot with them. -/
theorem drop (awaits : m.Awaits ticket listener) (distinct : other ≠ ticket) :
    (m.drop other).Awaits ticket listener where
  isOpen := (isOpen_drop m other).trans awaits.isOpen
  found := by rw [get?_listeners_drop, if_neg distinct, awaits.found]
  given := by
    rw [nextTicket_drop]
    exact awaits.given
  queued user slot mem := by
    rw [nextTicket_drop]
    exact awaits.queued user slot (mem_queue_of_mem_queue_drop m other user mem)
  mine user mem := awaits.mine user (mem_queue_of_mem_queue_drop m other user mem)
  next unhanded waits := by
    rw [hasFired_drop] at waits
    obtain ⟨rest, oldest⟩ := List.head?_eq_some_iff.mp (awaits.next unhanded waits)
    rw [oldest?, servable_drop, oldest, List.filter_cons_of_pos (by simpa using distinct),
      List.head?_cons]

/-- So does one who goes on waiting, or ends. -/
theorem poll_other (awaits : m.Awaits ticket listener) (distinct : other ≠ ticket)
    (timeout : Option Nat) : (m.poll other timeout).2.Awaits ticket listener := by
  cases found : m.listeners.get? other with
  | none =>
    rw [poll_of_missing found]
    exact awaits
  | some polled =>
    cases handed : polled.handed with
    | some item =>
      rw [poll_of_handed found handed]
      exact awaits.drop distinct
    | none =>
      rw [poll_of_unserved found handed]
      split
      · exact awaits.drop distinct
      · have same_live := isLive_start found timeout
        refine { awaits with found := ?_, next := ?_ }
        · rw [Table.get?_insert_of_ne _ distinct, awaits.found]
        · intro unhanded waits
          rw [oldest?, servable, same_live]
          exact awaits.next unhanded waits

/-- A listener who is polled and finds no reason to stop goes on waiting. -/
theorem poll_self (awaits : m.Awaits ticket listener) (unhanded : listener.handed = none)
    (waits : m.hasFired listener.signal = false) {timeout : Option Nat}
    (in_time : (listener.start m.now timeout).isOverdue m.now = false) :
    (m.poll ticket timeout).1 = some .pending ∧
      (m.poll ticket timeout).2.Awaits ticket (listener.start m.now timeout) := by
  have same_live := isLive_start awaits.found timeout
  have pending : m.poll ticket timeout = (some .pending,
      { m with listeners := m.listeners.insert ticket (listener.start m.now timeout) }) := by
    rw [poll_of_unserved awaits.found unhanded, awaits.isOpen, waits, in_time]
    rfl
  rw [pending]
  refine ⟨rfl, { awaits with found := Table.get?_insert_self _ _ _, mine := ?_, next := ?_ }⟩
  · rw [Listener.user_start]
    exact awaits.mine
  · intro _ _
    rw [Listener.user_start, oldest?, servable, same_live]
    exact awaits.next unhanded waits

/-- A listener who has been handed an event is given it, whatever else has happened. -/
theorem poll_of_handed (awaits : m.Awaits ticket listener) (handed : listener.handed = some item)
    (timeout : Option Nat) : (m.poll ticket timeout).1 = some (.delivered item) := by
  rw [Multiplexer.poll_of_handed awaits.found handed]

/-- Any other stops waiting for the signal and the time, and for nothing else. -/
theorem poll_of_unhanded (awaits : m.Awaits ticket listener) (unhanded : listener.handed = none)
    (timeout : Option Nat) : (m.poll ticket timeout).1 =
      if m.hasFired listener.signal || (listener.start m.now timeout).isOverdue m.now then
        some .released
      else some .pending := by
  rw [poll_of_unserved awaits.found unhanded, awaits.isOpen, Bool.not_true, Bool.false_or]
  split <;> rfl

/-! ### Signals and clock -/

/-- Once the signal has fired, nothing more is handed. -/
theorem fire (awaits : m.Awaits ticket listener) :
    (m.fire listener.signal).Awaits ticket listener where
  isOpen := (isOpen_fire m _).trans awaits.isOpen
  found := by rw [listeners_fire, awaits.found]
  given := by
    rw [nextTicket_fire]
    exact awaits.given
  queued user slot mem := by
    rw [queue_fire] at mem
    rw [nextTicket_fire]
    exact awaits.queued user slot mem
  mine user mem := by
    rw [queue_fire] at mem
    exact awaits.mine user mem
  next _ waits := by simp [hasFired_fire] at waits

theorem elapse (awaits : m.Awaits ticket listener) (span : Nat) :
    (m.elapse span).Awaits ticket listener :=
  ⟨awaits.isOpen, awaits.found, awaits.given, awaits.queued, awaits.mine, awaits.next⟩

/-! ### Sending -/

theorem sendTo (awaits : m.Awaits ticket listener) (item : Indexed Event) (user : UserId) :
    ∃ handed, (m.sendTo item user).Awaits ticket { listener with handed } ∧
      (handed.isSome = true ↔ listener.handed.isSome = true ∨
        user = listener.user ∧ m.hasFired listener.signal = false) := by
  -- What remains to be said in each case is what the listener has been handed, and who is next.
  have built {handed : Option (Indexed Event)}
      (found : (m.sendTo item user).listeners.get? ticket = some { listener with handed })
      (next : handed = none → m.hasFired listener.signal = false →
        (m.sendTo item user).oldest? listener.user = some ticket) :
      (m.sendTo item user).Awaits ticket { listener with handed } :=
    { isOpen := isOpen_sendTo.trans awaits.isOpen
      found := found
      given := by
        rw [nextTicket_sendTo]
        exact awaits.given
      queued := by
        intro other slot mem
        rw [nextTicket_sendTo]
        exact awaits.queued other slot (mem_queue_of_mem_queue_sendTo mem)
      mine := fun other mem => awaits.mine other (mem_queue_of_mem_queue_sendTo mem)
      next := by
        intro unhanded waits
        rw [hasFired_sendTo] at waits
        exact next unhanded waits }
  by_cases served : m.oldest? user = some ticket
  · obtain ⟨rest, sent, -, cut⟩ := sendTo_of_oldest? served item
    have servable : ticket ∈ m.servable user := by
      rw [cut]
      exact List.mem_cons_self
    obtain ⟨queued, live⟩ := List.mem_filter.mp servable
    have waits : m.hasFired listener.signal = false := by
      rw [isLive_eq_any, awaits.found, Option.any_some, Bool.not_eq_true'] at live
      exact live
    refine ⟨some item, built ?_ nofun, ?_⟩
    · rw [sent, get?_listeners_hand, if_pos rfl, listeners_setQueue, awaits.found, Option.map_some]
    · exact iff_of_true rfl (.inr ⟨awaits.mine user queued, waits⟩)
  -- Otherwise whoever is served, if anyone, is not the listener.
  · have found : (m.sendTo item user).listeners.get? ticket = some listener := by
      cases oldest : m.oldest? user with
      | none =>
        rw [sendTo_of_oldest?_eq_none oldest, listeners_setQueue, awaits.found]
      | some slot =>
        obtain ⟨rest, sent, -⟩ := sendTo_of_oldest? oldest item
        have distinct : slot ≠ ticket := by
          rintro rfl
          exact served oldest
        rw [sent, get?_listeners_hand, if_neg distinct, listeners_setQueue, awaits.found]
    refine ⟨listener.handed, built found ?_, ?_⟩
    · intro unhanded waits
      have oldest := awaits.next unhanded waits
      have distinct : user ≠ listener.user := by
        rintro rfl
        exact served oldest
      rw [oldest?, servable_sendTo, if_neg distinct]
      exact oldest
    · refine (or_iff_left_of_imp ?_).symm
      rintro ⟨rfl, waits⟩
      rw [Option.isSome_iff_ne_none]
      exact fun unhanded => served (awaits.next unhanded waits)

/-- What is sent to the user is handed to the listener, unless the signal has fired. -/
theorem send (awaits : m.Awaits ticket listener) (recipients : List UserId)
    (item : Indexed Event) :
    ∃ handed, (m.send recipients item).Awaits ticket { listener with handed } ∧
      (handed.isSome = true ↔ listener.handed.isSome = true ∨
        listener.user ∈ recipients ∧ m.hasFired listener.signal = false) := by
  induction recipients generalizing m listener with
  | nil => exact ⟨listener.handed, awaits, by simp⟩
  | cons first rest ih =>
    obtain ⟨handed, sent, handed_iff⟩ := awaits.sendTo item first
    obtain ⟨last, sent_all, last_iff⟩ := ih sent
    refine ⟨last, sent_all, ?_⟩
    rw [last_iff, handed_iff, hasFired_sendTo, List.mem_cons, or_assoc, or_and_right,
      @eq_comm _ first]

end Awaits

end ChatFeed.Multiplexer
