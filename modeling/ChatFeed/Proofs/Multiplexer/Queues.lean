import ChatFeed.Proofs.Multiplexer.Schedule
import Mathlib.Data.List.Sort

/-!
# The queues of a multiplexer

Slots are taken out of queues in three ways: they are served, they are passed over on the way to one
that is served, and they are pruned when their user's queue is next looked at. None of them leaves a
slot behind whose listener has ended or has been handed an event, and none takes a slot whose
listener can still be served. A slot whose signal has fired is the only one that may stand or go.

## Main definitions

* `IsTidy`: the queues hold listeners of their user who wait, the oldest first
* `Action.Names`: an action looks at the queue of a user

## Main results

* `IsTidy.act`, `isTidy_run`: the queues stay tidy
* `queue_act_of_not_names`: an action leaves the queues alone that it does not look at
* `queues_along_schedule`: who stands in the queues, after every schedule
-/

namespace ChatFeed.Multiplexer

open scoped List

variable {m : Multiplexer} {user other : UserId} {ticket : Ticket} {history : List Occurrence}

/-! ### Tidy queues -/

/-- Each queue holds listeners of its user who wait and have been handed nothing, in ascending
order, and no empty queue is kept. -/
structure IsTidy (m : Multiplexer) : Prop where
  occupied : ∀ user queue, m.queues.get? user = some queue → queue ≠ []
  waiting : ∀ user, ∀ ticket ∈ m.queue user, ∃ listener,
    m.listeners.get? ticket = some listener ∧ listener.user = user ∧ listener.handed = none
  ascending : ∀ user, (m.queue user).Pairwise (· < ·)

theorem get?_queues_setQueue (m : Multiplexer) (user other : UserId) (queue : List Ticket) :
    (m.setQueue user queue).queues.get? other =
      if user = other then (if queue.isEmpty then none else some queue)
      else m.queues.get? other := by
  rw [setQueue]
  split
  · rw [Table.get?_erase]
  · rw [Table.get?_insert]

theorem queue_sublist_setQueue {queue : List Ticket} (fewer : queue <+ m.queue user)
    (other : UserId) : (m.setQueue user queue).queue other <+ m.queue other := by
  rw [queue_setQueue]
  split
  next same => exact same ▸ fewer
  next => exact List.Sublist.refl _

/-- What is taken from the queue of a user is a part that is served or passed over, and whoever is
served stood before all that stay. -/
theorem sendTo_cases (item : Indexed Event) (m : Multiplexer) (user : UserId) :
    m.sendTo item user = m.setQueue user [] ∨
      ∃ ticket rest, ticket :: rest <:+ m.queue user ∧
        m.sendTo item user = (m.setQueue user rest).hand ticket item := by
  -- Slots that cannot be served stand at the front until one comes that can.
  have kept := List.dropWhile_suffix (l := m.queue user) fun ticket => !m.isLive ticket
  rw [sendTo]
  split
  next => exact .inl rfl
  next ticket rest cut => exact .inr ⟨ticket, rest, cut ▸ kept, rfl⟩

namespace IsTidy

theorem occupied_setQueue (tidy : m.IsTidy) (user : UserId) (queue : List Ticket) :
    ∀ other kept, (m.setQueue user queue).queues.get? other = some kept → kept ≠ [] := by
  intro other kept found
  rw [get?_queues_setQueue] at found
  split at found
  · split at found
    next => contradiction
    next occupied =>
      obtain rfl := Option.some.inj found
      exact fun empty => occupied (List.isEmpty_iff.mpr empty)
  · exact tidy.occupied other kept found

/-- Taking slots away keeps the queues tidy, as long as the listeners of those that stay do. -/
theorem setQueue (tidy : m.IsTidy) {queue : List Ticket} (fewer : queue <+ m.queue user)
    {listeners : Table Ticket Listener}
    (stay : ∀ other, ∀ ticket ∈ (m.setQueue user queue).queue other, ∀ listener,
      m.listeners.get? ticket = some listener → listener.user = other →
        listeners.get? ticket = some listener) :
    IsTidy { m.setQueue user queue with listeners } where
  occupied := tidy.occupied_setQueue user queue
  waiting other ticket mem := by
    obtain ⟨listener, found, mine, unhanded⟩ :=
      tidy.waiting other ticket ((queue_sublist_setQueue fewer other).subset mem)
    exact ⟨listener, stay other ticket mem listener found mine, mine, unhanded⟩
  ascending other := (tidy.ascending other).sublist (queue_sublist_setQueue fewer other)

/-- A listener may change in whatever else they are, as long as they are handed nothing. -/
theorem insert (tidy : m.IsTidy) {listener changed : Listener}
    (found : m.listeners.get? ticket = some listener) (same_user : changed.user = listener.user)
    (same_handed : changed.handed = listener.handed) :
    IsTidy { m with listeners := m.listeners.insert ticket changed } where
  occupied := tidy.occupied
  waiting user slot mem := by
    obtain ⟨waiting, waits, mine, unhanded⟩ := tidy.waiting user slot mem
    rw [Table.get?_insert]
    split
    next same =>
      -- The slot is the listener's own, so it is the same listener as before.
      rw [← same, found] at waits
      obtain rfl := Option.some.inj waits
      exact ⟨changed, rfl, same_user.trans mine, same_handed.trans unhanded⟩
    next => exact ⟨waiting, waits, mine, unhanded⟩
  ascending := tidy.ascending

/-! ### One action -/

theorem listen (tidy : m.IsTidy) (queued : ∀ user, ∀ ticket ∈ m.queue user, ticket < m.nextTicket)
    (user : UserId) (signal : SignalName) : (m.listen user signal).2.IsTidy where
  occupied := by
    have pruned := tidy.occupied_setQueue user ((m.queue user).filter m.isLive)
    intro other queue found
    rw [Multiplexer.listen] at found
    split at found
    · change ((m.prune user).setQueue user _).queues.get? other = some queue at found
      rw [get?_queues_setQueue] at found
      split at found
      · rw [if_neg (by simp)] at found
        obtain rfl := Option.some.inj found
        exact List.append_ne_nil_of_right_ne_nil _ (List.cons_ne_nil _ _)
      · exact pruned other queue found
    · exact pruned other queue found
  waiting other ticket mem := by
    rw [get?_listeners_listen]
    rw [queue_listen] at mem
    -- The slots from before have tickets of their own, so their listeners are not replaced.
    have earlier {slot : Ticket} (mem : slot ∈ m.queue other) :
        ∃ listener, (if m.nextTicket = slot then some { user, signal }
          else m.listeners.get? slot) = some listener ∧
            listener.user = other ∧ listener.handed = none := by
      rw [if_neg (Nat.ne_of_gt (queued other slot mem))]
      exact tidy.waiting other slot mem
    split at mem
    next same =>
      subst same
      rcases List.mem_append.mp mem with kept | last
      · exact earlier (List.mem_filter.mp kept).1
      · split at last
        · obtain rfl := List.mem_singleton.mp last
          exact ⟨_, if_pos rfl, rfl, rfl⟩
        · contradiction
    next => exact earlier mem
  ascending other := by
    rw [queue_listen]
    split
    next same =>
      rw [List.pairwise_append]
      refine ⟨(tidy.ascending user).filter _, ?_, ?_⟩
      · split
        · exact List.pairwise_singleton _ _
        · exact List.Pairwise.nil
      · intro slot kept last mem
        split at mem
        · rw [List.mem_singleton.mp mem]
          exact queued user slot (List.mem_filter.mp kept).1
        · contradiction
    next => exact tidy.ascending other

theorem drop (tidy : m.IsTidy) (ticket : Ticket) : (m.drop ticket).IsTidy := by
  rw [Multiplexer.drop]
  split
  next => exact tidy
  next listener found =>
    apply tidy.setQueue List.filter_sublist
    intro other slot mem waiting waits mine
    rw [Table.get?_erase, if_neg]
    · exact waits
    -- The slot of the listener itself is in their user's queue, and is pruned there.
    · rintro rfl
      rw [found] at waits
      obtain rfl := Option.some.inj waits
      rw [queue_setQueue, if_pos mine] at mem
      have live := (List.mem_filter.mp mem).2
      rw [isLive_eq_any, Table.get?_erase_self] at live
      contradiction

theorem poll (tidy : m.IsTidy) (ticket : Ticket) (timeout : Option Nat) :
    (m.poll ticket timeout).2.IsTidy := by
  cases found : m.listeners.get? ticket with
  | none =>
    rw [poll_of_missing found]
    exact tidy
  | some listener =>
    cases handed : listener.handed with
    | some item =>
      rw [poll_of_handed found handed]
      exact tidy.drop ticket
    | none =>
      rw [poll_of_unserved found handed]
      split
      · exact tidy.drop ticket
      · exact tidy.insert found (Listener.user_start ..) (Listener.handed_start ..)

theorem fire (tidy : m.IsTidy) (signal : SignalName) : (m.fire signal).IsTidy := by
  rw [Multiplexer.fire]
  split
  · exact tidy
  · exact ⟨tidy.occupied, tidy.waiting, tidy.ascending⟩

theorem elapse (tidy : m.IsTidy) (span : Nat) : (m.elapse span).IsTidy :=
  ⟨tidy.occupied, tidy.waiting, tidy.ascending⟩

theorem close (m : Multiplexer) : m.close.IsTidy where
  occupied _ _ found := nomatch found
  waiting _ _ mem := absurd mem List.not_mem_nil
  ascending _ := List.Pairwise.nil

theorem sendTo (tidy : m.IsTidy) (item : Indexed Event) (user : UserId) :
    (m.sendTo item user).IsTidy := by
  rcases sendTo_cases item m user with none_left | ⟨ticket, rest, stay, served⟩
  · rw [none_left]
    exact tidy.setQueue (List.nil_sublist _) fun _ _ _ _ found _ => found
  · rw [served, hand, listeners_setQueue]
    have fewer : rest <+ m.queue user := (List.sublist_cons_self ticket rest).trans stay.sublist
    split
    next => exact tidy.setQueue fewer fun _ _ _ _ found _ => found
    next listener found =>
      apply tidy.setQueue fewer
      intro other slot mem waiting waits mine
      rw [Table.get?_insert, if_neg]
      · exact waits
      -- Whoever is served has their slot in this queue only, and there only once.
      · rintro rfl
        obtain ⟨served_listener, again, served_mine, -⟩ :=
          tidy.waiting user ticket (stay.subset List.mem_cons_self)
        obtain rfl := Option.some.inj (again.symm.trans waits)
        rw [queue_setQueue, if_pos (served_mine.symm.trans mine)] at mem
        have ascending := (tidy.ascending user).sublist stay.sublist
        exact Nat.lt_irrefl _ (List.rel_of_pairwise_cons ascending mem)

theorem send (tidy : m.IsTidy) (recipients : List UserId) (item : Indexed Event) :
    (m.send recipients item).IsTidy := by
  induction recipients generalizing m with
  | nil => exact tidy
  | cons first rest ih => exact ih (tidy.sendTo item first)

/-- Every action keeps the queues tidy. -/
theorem act (tidy : m.IsTidy) (queued : ∀ user, ∀ ticket ∈ m.queue user, ticket < m.nextTicket)
    (action : Action) : (m.act action).IsTidy := by
  cases action with
  | listen user signal => exact tidy.listen queued user signal
  | poll ticket timeout => exact tidy.poll ticket timeout
  | drop ticket => exact tidy.drop ticket
  | fire signal => exact tidy.fire signal
  | send recipients item => exact tidy.send recipients item
  | elapse span => exact tidy.elapse span
  | close => exact close m

/-- The queues stay tidy along a schedule. -/
theorem run (tidy : m.IsTidy) (agrees : Agrees history m) (schedule : List Action) :
    (m.run schedule).IsTidy := by
  induction schedule generalizing history m with
  | nil => exact tidy
  | cons action rest ih => exact ih (tidy.act agrees.queued action) (agrees.act action)

end IsTidy

theorem isTidy_initial : IsTidy {} where
  occupied _ _ found := nomatch found
  waiting _ _ mem := absurd mem List.not_mem_nil
  ascending _ := List.Pairwise.nil

theorem isTidy_run (schedule : List Action) : (run {} schedule).IsTidy :=
  isTidy_initial.run agrees_initial schedule

/-! ### Who stands in the queues -/

namespace Agrees

variable {registration : Registration}

/-- Whoever stands in a queue is registered for its user and has not ended or been handed an
event. -/
theorem waiting_of_mem_queue (agrees : Agrees history m) (tidy : m.IsTidy)
    (mem : ticket ∈ m.queue user) : ∃ registration ∈ registrations history,
      registration.ticket = ticket ∧ registration.user = user ∧
        hasEnded history ticket = false ∧ ticket ∉ handedTickets history := by
  obtain ⟨listener, found, mine, unhanded⟩ := tidy.waiting user ticket mem
  rw [agrees.listener, listenerIn?] at found
  split at found
  next => contradiction
  next not_ended =>
    obtain ⟨registration, registered, rfl⟩ := Option.map_eq_some_iff.mp found
    refine ⟨registration, List.mem_of_find?_eq_some registered, ?_, mine,
      Bool.eq_false_iff.mpr not_ended, handedItem?_eq_none_iff.mp unhanded⟩
    simpa using List.find?_some registered

/-- Whoever can still be served stands in their user's queue once. -/
theorem count_queue_eq_one (agrees : Agrees history m) (tidy : m.IsTidy)
    (isOpen : isClosed history = false) (registered : registration ∈ registrations history)
    (not_ended : hasEnded history registration.ticket = false)
    (unhanded : registration.ticket ∉ handedTickets history)
    (not_fired : hasFiredIn history registration.signal = false) :
    (m.queue registration.user).count registration.ticket = 1 := by
  -- Before the close, whoever is live can be served, and so has a slot.
  have live : registration.ticket ∈ liveTickets history registration.user := by
    apply List.mem_map_of_mem
    rw [List.mem_filter]
    refine ⟨registered, ?_⟩
    simp [isLiveIn, not_ended, handedItem?_eq_none_iff.mpr unhanded, not_fired]
  have servable : registration.ticket ∈ m.servable registration.user := by
    rw [agrees.servable_eq, isOpen, if_neg Bool.false_ne_true]
    exact live
  have distinct : (m.queue registration.user).Nodup :=
    (tidy.ascending registration.user).imp Nat.ne_of_lt
  exact List.count_eq_one_of_mem distinct (List.mem_filter.mp servable).1

-- A slot whose signal has fired stands until its user's queue is next looked at.
example :
    let user : UserId := Id.ofParts .user "reader" "example.org"
    let m := ({} : Multiplexer).run [.listen user "first", .listen user "second", .fire "first"]
    m.queue user = [0, 1] ∧ (m.listen user "third").2.queue user = [1, 2] := by
  exact ⟨rfl, rfl⟩

/-- The queue of a user is in the order of registration. -/
theorem queue_sublist_registrations (agrees : Agrees history m) (tidy : m.IsTidy)
    (user : UserId) : m.queue user <+
      ((registrations history).filter (·.user = user)).map (·.ticket) := by
  -- Both are in ascending order, so it is enough that the one is among the other.
  apply List.sublist_of_subperm_of_pairwise _ (tidy.ascending user)
  · exact List.pairwise_map.mpr (agrees.ascending.filter _)
  · apply List.subperm_of_subset ((tidy.ascending user).imp Nat.ne_of_lt)
    intro ticket mem
    obtain ⟨registration, registered, rfl, rfl, -⟩ := agrees.waiting_of_mem_queue tidy mem
    apply List.mem_map_of_mem
    rw [List.mem_filter]
    exact ⟨registered, decide_eq_true rfl⟩

/-- Nothing is left of a user all of whose listeners have ended. -/
theorem pending_eq_zero (agrees : Agrees history m) (tidy : m.IsTidy)
    (ended : ∀ registration ∈ registrations history, registration.user = user →
      hasEnded history registration.ticket = true) : m.pending user = 0 := by
  rw [Multiplexer.pending, List.length_eq_zero_iff, List.eq_nil_iff_forall_not_mem]
  intro ticket mem
  obtain ⟨registration, registered, rfl, mine, not_ended, -⟩ :=
    agrees.waiting_of_mem_queue tidy mem
  rw [ended registration registered mine] at not_ended
  contradiction

end Agrees

/-! ### What is looked at -/

/-- Whether an action looks at the queue of a user: it names the user, or a listener of theirs who
has not ended. The close looks at all of them. -/
def Action.Names (m : Multiplexer) (user : UserId) : Action → Prop
  | .listen recipient _ => recipient = user
  | .send recipients _ => user ∈ recipients
  | .poll ticket _ | .drop ticket =>
    ∃ listener, m.listeners.get? ticket = some listener ∧ listener.user = user
  | .fire _ | .elapse _ => False
  | .close => True

theorem queue_drop_of_not_names (foreign : ¬(Action.drop ticket).Names m user) :
    (m.drop ticket).queue user = m.queue user := by
  rw [drop]
  split
  next => rfl
  next listener found =>
    rw [queue_prune, if_neg fun mine => foreign ⟨listener, found, mine⟩]
    rfl

theorem queue_sendTo_of_ne (item : Indexed Event) (distinct : other ≠ user) :
    (m.sendTo item other).queue user = m.queue user := by
  rcases sendTo_cases item m other with none_left | ⟨ticket, rest, -, served⟩
  · rw [none_left, queue_setQueue, if_neg distinct]
  · rw [served, queue_hand, queue_setQueue, if_neg distinct]

/-- Sending looks at the queues of the recipients only. -/
theorem queue_send_of_not_mem {recipients : List UserId} (item : Indexed Event)
    (foreign : user ∉ recipients) : (m.send recipients item).queue user = m.queue user := by
  induction recipients generalizing m with
  | nil => rfl
  | cons first rest ih =>
    rw [List.mem_cons, not_or] at foreign
    exact (ih foreign.2).trans (queue_sendTo_of_ne item (Ne.symm foreign.1))

/-- An action leaves the queues alone that it does not look at. -/
theorem queue_act_of_not_names {action : Action} (foreign : ¬action.Names m user) :
    (m.act action).queue user = m.queue user := by
  cases action with
  | listen recipient signal => exact (queue_listen m recipient user signal).trans (if_neg foreign)
  | poll ticket timeout =>
    change (m.poll ticket timeout).2.queue user = m.queue user
    rcases poll_cases m ticket timeout with dropped | ⟨listeners, started⟩
    · rw [dropped]
      exact queue_drop_of_not_names foreign
    · rw [started]
      rfl
  | drop ticket => exact queue_drop_of_not_names foreign
  | fire signal => exact queue_fire m signal user
  | send recipients item => exact queue_send_of_not_mem item foreign
  | elapse span => rfl
  | close => exact absurd trivial foreign

/-- Whatever has been done to a multiplexer: no empty queue is kept, whoever stands in a queue is a
listener of its user who has neither ended nor been handed an event, every such listener whose
signal has not fired stands there once until the close, and each queue is in the order of
registration. So nothing is left of a user all of whose listeners have ended, and an action that
names others only leaves the queue of a user as it is. -/
theorem queues_along_schedule (past : List Action) :
    let m := run {} past
    let history := chronicle {} past
    (∀ user queue, m.queues.get? user = some queue → queue ≠ []) ∧
    (∀ user, ∀ ticket ∈ m.queue user, ∃ registration ∈ registrations history,
      registration.ticket = ticket ∧ registration.user = user ∧
        hasEnded history ticket = false ∧ ticket ∉ handedTickets history) ∧
    (∀ registration ∈ registrations history, isClosed history = false →
      hasEnded history registration.ticket = false →
      registration.ticket ∉ handedTickets history →
      hasFiredIn history registration.signal = false →
        (m.queue registration.user).count registration.ticket = 1) ∧
    (∀ user, m.queue user <+
      ((registrations history).filter (·.user = user)).map (·.ticket)) ∧
    (∀ user, (∀ registration ∈ registrations history, registration.user = user →
      hasEnded history registration.ticket = true) → m.pending user = 0) ∧
    (∀ user action, ¬action.Names m user → (m.act action).queue user = m.queue user) := by
  have agrees := agrees_run past
  have tidy := isTidy_run past
  refine ⟨tidy.occupied, ?_, ?_, ?_, ?_, ?_⟩
  · intro user ticket mem
    exact agrees.waiting_of_mem_queue tidy mem
  · intro registration registered isOpen not_ended unhanded not_fired
    exact agrees.count_queue_eq_one tidy isOpen registered not_ended unhanded not_fired
  · exact agrees.queue_sublist_registrations tidy
  · intro user ended
    exact agrees.pending_eq_zero tidy ended
  · intro user action foreign
    exact queue_act_of_not_names foreign

end ChatFeed.Multiplexer
