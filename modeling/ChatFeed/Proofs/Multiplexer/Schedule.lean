import ChatFeed.Proofs.Multiplexer.Agreement

/-!
# The agreement along a schedule

A multiplexer starts out in agreement with the empty chronicle, and every action
keeps it in agreement with what has been seen since. This is shown action by action;
sending is a step for each recipient.

## Main results

* `Agrees.act`: every action keeps the agreement
* `agrees_run`: it holds after every schedule
-/

namespace ChatFeed.Multiplexer

namespace Agrees

variable {history : List Occurrence} {occurrence : Occurrence} {m : Multiplexer}
  {ticket : Ticket} {listener : Listener}

/-! ### Registering -/

theorem listen (agrees : Agrees history m) (user : UserId) (signal : SignalName) :
    Agrees (history ++ [.registered m.nextTicket user signal]) (m.listen user signal).2 where
  fired other := by
    rw [hasFired_listen, hasFiredIn_append, agrees.fired]
    simp
  isOpen := by
    rw [isOpen_listen, isClosed_append, agrees.isOpen]
    simp
  now := by
    rw [now_listen, elapsedTime_append, agrees.now]
    rfl
  givenOut := by
    rw [nextTicket_listen]
    refine agrees.givenOut_append (Nat.le_succ _) ?_
    rintro ticket ⟨⟩
    exact Nat.lt_succ_self _
  ascending := by
    rw [registrations_append, List.pairwise_append]
    refine ⟨agrees.ascending, List.pairwise_singleton _ _, ?_⟩
    intro earlier mem later last
    rw [List.mem_singleton.mp last]
    exact agrees.lt_nextTicket_of_registered mem
  handedOnce := by
    rw [handedTickets_append]
    simpa [Occurrence.handedTicket?] using agrees.handedOnce
  registered := by
    intro ticket handed
    rw [handedTickets_append] at handed
    obtain ⟨registration, mem, same⟩ :=
      agrees.registered ticket (by simpa [Occurrence.handedTicket?] using handed)
    rw [registrations_append]
    exact ⟨registration, List.mem_append_left _ mem, same⟩
  listener ticket := by
    rw [get?_listeners_listen]
    split
    next same =>
      subst same
      exact (listenerIn?_append_registered agrees.unconcerned_nextTicket).symm
    next distinct =>
      rw [agrees.listener, listenerIn?_append_of_ne]
      simpa [Occurrence.ticket?] using distinct
  queued other ticket mem := by
    rw [nextTicket_listen]
    rcases mem_queue_listen _ _ _ _ mem with earlier | rfl
    · exact Nat.lt_succ_of_lt (agrees.queued other ticket earlier)
    · exact Nat.lt_succ_self _
  served other := by
    -- Every ticket in a queue or in the chronicle is below the one given out now.
    have fresh : m.nextTicket ∉ m.queue other := fun mem =>
      Nat.lt_irrefl _ (agrees.queued other _ mem)
    have kept : (unservedTickets history other).filter (m.listen user signal).2.isLive =
        (unservedTickets history other).filter m.isLive := by
      apply List.filter_congr
      intro ticket mem
      exact isLive_listen _ _ _ (Nat.ne_of_gt (agrees.lt_nextTicket_of_unserved mem))
    rw [servable_listen _ _ _ _ fresh, agrees.served,
      unservedTickets_append_registered agrees.unconcerned_nextTicket, List.filter_append, kept,
      isClosed_append, agrees.isOpen]
    -- The new slot counts unless the close, another user or the signal speaks against it.
    cases isClosed history <;> by_cases mine : user = other <;>
      cases fired : m.hasFired signal <;> simp [mine, fired, isLive_listen_self]

/-! ### Waiting and its end -/

/-- A listener that has ended is given up, and its slot with it. -/
theorem drop (agrees : Agrees history m) (given : ticket < m.nextTicket)
    (is_end : occurrence.ends ticket = true) :
    Agrees (history ++ [occurrence]) (m.drop ticket) := by
  obtain ⟨concerns, unregistered, unhanded⟩ := Occurrence.quiet_of_ends is_end
  obtain ⟨same_fired, same_closed, same_time⟩ :=
    Occurrence.readings_append_of_ticket? concerns history
  apply agrees.append_quiet unregistered unhanded
  case given =>
    intro other same
    rw [concerns] at same
    cases same
    exact given
  case same_next => exact nextTicket_drop m ticket
  case fired =>
    intro signal
    rw [same_fired, ← agrees.fired, hasFired_drop]
  case isOpen => rw [isOpen_drop, same_closed, agrees.isOpen]
  case now => rw [now_drop, same_time, agrees.now]
  case listener =>
    intro other
    rw [get?_listeners_drop]
    split
    next same => rw [← same, listenerIn?_append_end is_end]
    next distinct =>
      rw [agrees.listener, listenerIn?_append_of_ne]
      simpa [concerns] using distinct
  case queued => exact fun user other mem => mem_queue_of_mem_queue_drop m ticket user mem
  case fewer =>
    intro other live
    rw [isLive_drop, Bool.and_eq_true] at live
    exact live.2
  case served =>
    intro user
    -- Giving up one listener takes the liveness of no other.
    have remaining : (m.drop ticket).servable user =
        (m.servable user).filter (m.drop ticket).isLive := by
      rw [servable_drop]
      apply List.filter_congr
      intro other mem
      rw [isLive_drop, (List.mem_filter.mp mem).2, Bool.and_true]
    rw [remaining, same_closed]
    split
    next closed => rw [agrees.servable_of_isClosed closed, List.filter_nil]
    next => rfl

/-- A listener that goes on waiting does so since its first poll. -/
theorem pending (agrees : Agrees history m) (found : m.listeners.get? ticket = some listener)
    (timeout : Option Nat) :
    Agrees (history ++ [.polled ticket timeout .pending])
      { m with listeners := m.listeners.insert ticket (listener.start m.now timeout) } := by
  have concerns : (Occurrence.polled ticket timeout .pending).ticket? = some ticket := rfl
  obtain ⟨same_fired, same_closed, same_time⟩ :=
    Occurrence.readings_append_of_ticket? concerns history
  have same_live := isLive_start found timeout
  apply agrees.append_quiet rfl rfl
  case given =>
    rintro other ⟨⟩
    exact agrees.lt_nextTicket_of_listener found
  case same_next => rfl
  case fired =>
    intro signal
    rw [same_fired, ← agrees.fired]
    rfl
  case isOpen => rw [same_closed, ← agrees.isOpen]
  case now => rw [same_time, ← agrees.now]
  case listener =>
    intro other
    rw [Table.get?_insert]
    split
    next same =>
      rw [← same, listenerIn?_append_pending, ← agrees.listener, found, ← agrees.now]
      rfl
    next distinct =>
      rw [agrees.listener, listenerIn?_append_of_ne]
      simpa [concerns] using distinct
  case queued => exact fun user other mem => mem
  case fewer =>
    intro other live
    rwa [same_live] at live
  case served =>
    intro user
    rw [same_closed, servable, same_live]
    split
    next closed => exact agrees.servable_of_isClosed closed user
    next => exact (filter_isLive_servable m user).symm

theorem poll (agrees : Agrees history m) (ticket : Ticket) (timeout : Option Nat) :
    Agrees (history ++ m.occurrences (.poll ticket timeout)) (m.poll ticket timeout).2 := by
  rw [occurrences]
  cases found : m.listeners.get? ticket with
  | none =>
    rw [poll_of_missing found, Option.toList_none, List.map_nil, List.append_nil]
    exact agrees
  | some listener =>
    have given := agrees.lt_nextTicket_of_listener found
    -- Two of the three outcomes are the end of the listener, and then the slot goes with it.
    cases handed : listener.handed with
    | some item =>
      rw [poll_of_handed found handed]
      exact agrees.drop given (by simp [Occurrence.ends])
    | none =>
      rw [poll_of_unserved found handed]
      split
      · exact agrees.drop given (by simp [Occurrence.ends])
      · exact agrees.pending found timeout

/-! ### Signals, clock and close -/

theorem fire (agrees : Agrees history m) (signal : SignalName) :
    Agrees (history ++ [.fired signal]) (m.fire signal) := by
  -- The queues stay as they are: slots whose signal has fired are left standing in them.
  have fewer (ticket : Ticket) (live : (m.fire signal).isLive ticket = true) :
      m.isLive ticket = true := by
    rw [isLive_eq_any, listeners_fire, Option.any_eq_true] at live
    obtain ⟨listener, found, waits⟩ := live
    rw [hasFired_fire, Bool.not_or, Bool.and_eq_true] at waits
    rw [isLive_eq_any, found]
    exact waits.1
  apply agrees.append_quiet rfl rfl
  case given => rintro ticket ⟨⟩
  case same_next => exact nextTicket_fire m signal
  case fired =>
    intro other
    rw [hasFired_fire, hasFiredIn_append, agrees.fired]
    congr 1
    simp [eq_comm]
  case isOpen =>
    rw [isOpen_fire, isClosed_append, agrees.isOpen]
    simp
  case now =>
    rw [now_fire, elapsedTime_append, agrees.now]
    rfl
  case listener =>
    intro ticket
    rw [listeners_fire, agrees.listener, listenerIn?_append_of_ne]
    rintro ⟨⟩
  case queued =>
    intro user ticket mem
    rwa [queue_fire] at mem
  case fewer => exact fewer
  case served =>
    intro user
    have remaining : (m.fire signal).servable user =
        (m.servable user).filter (m.fire signal).isLive := by
      rw [servable, queue_fire, servable, List.filter_filter]
      apply List.filter_congr
      intro ticket _
      cases live : (m.fire signal).isLive ticket with
      | false => rfl
      | true => rw [fewer ticket live, Bool.and_self]
    rw [remaining, agrees.served, isClosed_append]
    cases isClosed history <;> simp

theorem elapse (agrees : Agrees history m) (span : Nat) :
    Agrees (history ++ [.elapsed span]) (m.elapse span) := by
  apply agrees.append_quiet rfl rfl
  case given => rintro ticket ⟨⟩
  case same_next => rfl
  case fired =>
    intro signal
    rw [hasFiredIn_append, ← agrees.fired]
    simp [hasFired, Multiplexer.elapse]
  case isOpen =>
    rw [isClosed_append, Multiplexer.elapse, agrees.isOpen]
    simp
  case now =>
    rw [elapsedTime_append, Multiplexer.elapse, agrees.now]
    rfl
  case listener =>
    intro ticket
    rw [Multiplexer.elapse, agrees.listener, listenerIn?_append_of_ne]
    rintro ⟨⟩
  case queued => exact fun user ticket mem => mem
  case fewer => exact fun ticket live => live
  case served =>
    intro user
    have same_closed : isClosed (history ++ [.elapsed span]) = isClosed history := by
      simp [isClosed_append]
    rw [servable_elapse, isLive_elapse, filter_isLive_servable, same_closed]
    split
    next closed => exact agrees.servable_of_isClosed closed user
    next => rfl

theorem close (agrees : Agrees history m) : Agrees (history ++ [.closed]) m.close := by
  apply agrees.append_quiet rfl rfl
  case given => rintro ticket ⟨⟩
  case same_next => rfl
  case fired =>
    intro signal
    rw [hasFiredIn_append, ← agrees.fired]
    simp [hasFired, Multiplexer.close]
  case isOpen =>
    rw [isClosed_append]
    simp [Multiplexer.close]
  case now =>
    rw [elapsedTime_append, Multiplexer.close, agrees.now]
    rfl
  case listener =>
    intro ticket
    rw [Multiplexer.close, agrees.listener, listenerIn?_append_of_ne]
    rintro ⟨⟩
  case queued => exact fun user ticket mem => absurd mem List.not_mem_nil
  case fewer => exact fun ticket live => live
  case served =>
    intro user
    rw [isClosed_append]
    simp [servable, queue_close]

/-! ### Sending -/

/-- The oldest listener that can be served is handed the event. -/
theorem hand_oldest {user : UserId} (agrees : Agrees history m)
    (oldest : m.oldest? user = some ticket) (item : Indexed Event) :
    Agrees (history ++ [.handed ticket item]) (m.sendTo item user) := by
  obtain ⟨rest, sent, fewer, cut⟩ := sendTo_of_oldest? oldest item
  have servable : ticket ∈ m.servable user := by
    rw [cut]
    exact List.mem_cons_self
  obtain ⟨not_closed, registration, registered, named, mine, unserved⟩ :=
    agrees.unserved_of_servable servable
  -- So the listener is registered once, for this user, and has not been handed anything yet.
  have concerns : (Occurrence.handed ticket item).ticket? = some ticket := rfl
  obtain ⟨same_fired, same_closed, same_time⟩ :=
    Occurrence.readings_append_of_ticket? concerns history
  have same_registrations :
      registrations (history ++ [.handed ticket item]) = registrations history := by
    rw [registrations_append]
    exact List.append_nil _
  have one_more :
      handedTickets (history ++ [.handed ticket item]) = handedTickets history ++ [ticket] :=
    handedTickets_append _ _
  constructor
  case fired =>
    intro signal
    rw [sent, hasFired, fired_hand, fired_setQueue, same_fired, ← agrees.fired, hasFired]
  case isOpen => rw [sent, isOpen_hand, isOpen_setQueue, same_closed, agrees.isOpen]
  case now => rw [sent, now_hand, now_setQueue, same_time, agrees.now]
  case givenOut =>
    rw [sent, nextTicket_hand, nextTicket_setQueue]
    refine agrees.givenOut_append (Nat.le_refl _) ?_
    rintro other ⟨⟩
    exact named ▸ agrees.lt_nextTicket_of_registered registered
  case ascending =>
    rw [same_registrations]
    exact agrees.ascending
  case handedOnce =>
    rw [one_more, List.nodup_append]
    refine ⟨agrees.handedOnce, List.pairwise_singleton _ _, ?_⟩
    rintro other handed last mem rfl
    rw [List.mem_singleton.mp mem] at handed
    exact handedItem?_eq_none_iff.mp unserved handed
  case registered =>
    intro other handed
    rw [same_registrations]
    rw [one_more, List.mem_append, List.mem_singleton] at handed
    rcases handed with earlier | rfl
    · exact agrees.registered other earlier
    · exact ⟨registration, registered, named⟩
  case listener =>
    intro other
    rw [sent, get?_listeners_hand, listeners_setQueue]
    split
    next same => rw [← same, listenerIn?_append_handed unserved, agrees.listener]
    next distinct =>
      rw [agrees.listener, listenerIn?_append_of_ne]
      simpa [concerns] using distinct
  case queued =>
    intro other slot mem
    rw [sent, queue_hand, queue_setQueue] at mem
    rw [sent, nextTicket_hand, nextTicket_setQueue]
    split at mem
    next => exact agrees.queued user slot (fewer slot mem)
    next => exact agrees.queued other slot mem
  case served =>
    intro other
    -- On both sides exactly `ticket` goes, and it stands in the queue of `user` alone.
    have left : (unservedTickets (history ++ [.handed ticket item]) other).filter m.isLive =
        (m.servable other).filter (· ≠ ticket) := by
      rw [unservedTickets_append _ _ _ rfl, agrees.served,
        if_neg (Bool.eq_false_iff.mp not_closed), List.filter_filter, List.filter_filter]
      apply List.filter_congr
      intro slot _
      rw [Bool.and_comm]
      congr 1
      by_cases same : ticket = slot <;> simp [Occurrence.itemFor?, same, eq_comm]
    rw [same_closed, if_neg (Bool.eq_false_iff.mp not_closed), isLive_sendTo, left,
      servable_sendTo]
    split
    next same =>
      subst same
      have distinct := agrees.nodup_servable user
      rw [cut, List.nodup_cons] at distinct
      rw [cut, List.tail_cons, List.filter_cons_of_neg (by simp), eq_comm, List.filter_eq_self]
      intro slot mem
      rw [decide_eq_true_eq]
      rintro rfl
      exact distinct.1 mem
    next different =>
      rw [eq_comm, List.filter_eq_self]
      intro slot mem
      rw [decide_eq_true_eq]
      rintro rfl
      exact different (agrees.user_eq_of_servable servable mem)

theorem sendTo (agrees : Agrees history m) (item : Indexed Event) (user : UserId) :
    Agrees (history ++ (m.oldest? user).toList.map (.handed · item)) (m.sendTo item user) := by
  cases oldest : m.oldest? user with
  | some ticket => exact agrees.hand_oldest oldest item
  | none =>
    rw [Option.toList_none, List.map_nil, List.append_nil]
    -- The queue is emptied of slots that could not be served; nothing is seen of that.
    have nothing := List.head?_eq_none_iff.mp oldest
    rw [sendTo_of_oldest?_eq_none oldest]
    refine { agrees with queued := ?_, served := ?_ }
    · intro other slot mem
      rw [queue_setQueue] at mem
      split at mem
      next => contradiction
      next => exact agrees.queued other slot mem
    · intro other
      rw [isLive_setQueue, ← agrees.served, servable, isLive_setQueue, queue_setQueue]
      split
      next same => rw [← same, nothing]; rfl
      next => rfl

theorem send (agrees : Agrees history m) (recipients : List UserId) (item : Indexed Event) :
    Agrees (history ++ (handings item m recipients).map (.handed · item))
      (m.send recipients item) := by
  -- By induction on the recipients: each is served by the multiplexer that the last one left.
  induction recipients generalizing history m with
  | nil => simpa [handings, Multiplexer.send] using agrees
  | cons user rest ih =>
    rw [handings, List.map_append, ← List.append_assoc]
    exact ih (agrees.sendTo item user)

/-- What is seen of an action is what it does. -/
theorem act (agrees : Agrees history m) (action : Action) :
    Agrees (history ++ m.occurrences action) (m.act action) := by
  cases action with
  | listen user signal => exact agrees.listen user signal
  | poll ticket timeout => exact agrees.poll ticket timeout
  | drop ticket =>
    rw [occurrences, Multiplexer.act]
    cases found : m.listeners.get? ticket with
    | none =>
      rw [Multiplexer.drop, found, Option.toList_none, List.map_nil, List.append_nil]
      exact agrees
    | some listener =>
      exact agrees.drop (agrees.lt_nextTicket_of_listener found) (by simp [Occurrence.ends])
  | fire signal => exact agrees.fire signal
  | send recipients item => exact agrees.send recipients item
  | elapse span => exact agrees.elapse span
  | close => exact agrees.close

/-- What is seen along a schedule is what it does. -/
theorem run (agrees : Agrees history m) (schedule : List Action) :
    Agrees (history ++ m.chronicle schedule) (m.run schedule) := by
  induction schedule generalizing history m with
  | nil =>
    rw [chronicle, List.append_nil]
    exact agrees
  | cons action rest ih =>
    rw [chronicle, ← List.append_assoc]
    exact ih (agrees.act action)

end Agrees

theorem agrees_initial : Agrees [] {} where
  fired _ := rfl
  isOpen := rfl
  now := rfl
  givenOut _ mem := absurd mem List.not_mem_nil
  ascending := List.Pairwise.nil
  handedOnce := List.nodup_nil
  registered _ mem := absurd mem List.not_mem_nil
  listener _ := rfl
  queued _ _ mem := absurd mem List.not_mem_nil
  served _ := rfl

/-- After every schedule, the multiplexer is as the chronicle says. -/
theorem agrees_run (schedule : List Action) : Agrees (chronicle {} schedule) (run {} schedule) :=
  agrees_initial.run schedule

end ChatFeed.Multiplexer
