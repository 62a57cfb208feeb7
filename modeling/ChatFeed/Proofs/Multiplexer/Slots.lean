import ChatFeed.Delivery.Multiplexer
import Mathlib.Data.List.TakeWhile

/-!
# Slots of the multiplexer

What each operation does to the queues, slot by slot. Operations on one user's
queue leave the queues of others, the listeners, the signals and the clock alone,
and a slot that cannot be served never gets in the way of one that can.

## Main definitions

* `Multiplexer.servable`: the slots of a user that can be served, the oldest first
* `Multiplexer.handings`: the listeners that are handed an event as it is sent

## Main results

* `Multiplexer.servable_sendTo`: handing an event to a user takes the oldest of them away
* `Multiplexer.mem_handings_iff`: sending takes as many as a recipient is listed
-/

namespace ChatFeed

/-! ### Listeners -/

namespace Listener

variable (listener : Listener) (now : Nat) (timeout : Option Nat)

@[simp] theorem user_start : (listener.start now timeout).user = listener.user := by
  unfold start
  split <;> rfl

@[simp] theorem handed_start : (listener.start now timeout).handed = listener.handed := by
  unfold start
  split <;> rfl

@[simp] theorem signal_start : (listener.start now timeout).signal = listener.signal := by
  unfold start
  split <;> rfl

end Listener

namespace Multiplexer

variable {m m' : Multiplexer} {user other : UserId} {queue : List Ticket} {ticket : Ticket}
  {item : Indexed Event}

/-! ### One queue -/

theorem queue_setQueue (m : Multiplexer) (user other : UserId) (queue : List Ticket) :
    (m.setQueue user queue).queue other = if user = other then queue else m.queue other := by
  unfold setQueue Multiplexer.queue Table.getD
  cases queue with
  | nil => by_cases same : user = other <;> simp [Table.get?_erase, same]
  | cons ticket rest => by_cases same : user = other <;> simp [Table.get?_insert, same]

@[simp] theorem listeners_setQueue : (m.setQueue user queue).listeners = m.listeners := rfl

@[simp] theorem nextTicket_setQueue : (m.setQueue user queue).nextTicket = m.nextTicket := rfl

@[simp] theorem fired_setQueue : (m.setQueue user queue).fired = m.fired := rfl

@[simp] theorem now_setQueue : (m.setQueue user queue).now = m.now := rfl

@[simp] theorem isOpen_setQueue : (m.setQueue user queue).isOpen = m.isOpen := rfl

/-- Whether a slot can be served depends on its listener and on the signals. -/
theorem isLive_eq_any (m : Multiplexer) (ticket : Ticket) :
    m.isLive ticket =
      (m.listeners.get? ticket).any fun listener => !m.hasFired listener.signal := by
  unfold isLive
  cases m.listeners.get? ticket <;> rfl

@[simp] theorem isLive_setQueue : (m.setQueue user queue).isLive = m.isLive := rfl

theorem queue_prune (m : Multiplexer) (user other : UserId) :
    (m.prune user).queue other =
      if user = other then (m.queue other).filter m.isLive else m.queue other := by
  rw [prune, queue_setQueue]
  split
  next same => rw [same]
  next => rfl

/-- The slots of a user that can be served, the oldest first. -/
def servable (m : Multiplexer) (user : UserId) : List Ticket :=
  (m.queue user).filter m.isLive

theorem filter_isLive_servable (m : Multiplexer) (user : UserId) :
    (m.servable user).filter m.isLive = m.servable user := by
  rw [servable, List.filter_filter]
  simp only [Bool.and_self]

/-- Dropping slots that cannot be served anyway makes no difference to those that can. -/
theorem servable_prune (m : Multiplexer) (user other : UserId) :
    (m.prune user).servable other = m.servable other := by
  change ((m.prune user).queue other).filter m.isLive = m.servable other
  rw [queue_prune, servable]
  split
  · rw [List.filter_filter]
    simp
  · rfl

/-! ### Registering and dropping -/

section Listen

variable (m : Multiplexer) (user other : UserId) (signal : SignalName)

/-- A new listener stands at the end of its user's queue, and the slots before it can be served. -/
theorem queue_listen : (m.listen user signal).2.queue other =
    if user = other then
      (m.queue user).filter m.isLive ++ (if m.isOpen then [m.nextTicket] else [])
    else m.queue other := by
  have unregistered : (m.listen user signal).2.queue other =
      (if m.isOpen then
        (m.prune user).setQueue user ((m.prune user).queue user ++ [m.nextTicket])
      else m.prune user).queue other := rfl
  rw [unregistered]
  cases m.isOpen with
  | false =>
    rw [if_neg Bool.false_ne_true, if_neg Bool.false_ne_true, List.append_nil, queue_prune]
    split
    next same => rw [same]
    next => rfl
  | true =>
    rw [if_pos rfl, if_pos rfl, queue_setQueue, queue_prune, if_pos rfl, queue_prune]
    split <;> rfl

theorem mem_queue_listen (mem : ticket ∈ (m.listen user signal).2.queue other) :
    ticket ∈ m.queue other ∨ ticket = m.nextTicket := by
  rw [queue_listen] at mem
  split at mem
  next same =>
    rcases List.mem_append.mp mem with earlier | last
    · exact .inl (same ▸ (List.mem_filter.mp earlier).1)
    · right
      split at last
      · exact List.mem_singleton.mp last
      · contradiction
  next => exact .inl mem

theorem get?_listeners_listen (ticket : Ticket) :
    (m.listen user signal).2.listeners.get? ticket =
      if m.nextTicket = ticket then some { user, signal } else m.listeners.get? ticket := by
  rw [listen]
  cases m.isOpen <;> exact Table.get?_insert _ _ _ _

@[simp] theorem nextTicket_listen : (m.listen user signal).2.nextTicket = m.nextTicket + 1 := by
  rw [listen]

@[simp] theorem fired_listen : (m.listen user signal).2.fired = m.fired := by
  rw [listen]
  cases m.isOpen <;> rfl

theorem hasFired_listen (other : SignalName) :
    (m.listen user signal).2.hasFired other = m.hasFired other := by
  rw [hasFired, fired_listen, hasFired]

@[simp] theorem now_listen : (m.listen user signal).2.now = m.now := by
  rw [listen]
  cases m.isOpen <;> rfl

@[simp] theorem isOpen_listen : (m.listen user signal).2.isOpen = m.isOpen := by
  rw [listen]
  cases open_ : m.isOpen <;> exact open_

/-- A new listener changes nothing for the slots given out before. -/
theorem isLive_listen (distinct : m.nextTicket ≠ ticket) :
    (m.listen user signal).2.isLive ticket = m.isLive ticket := by
  rw [isLive_eq_any, isLive_eq_any, get?_listeners_listen, if_neg distinct]
  simp only [hasFired_listen]

theorem isLive_listen_self : (m.listen user signal).2.isLive m.nextTicket = !m.hasFired signal := by
  rw [isLive_eq_any, get?_listeners_listen, if_pos rfl, Option.any_some, hasFired_listen]

/-- A new listener can be served after all others of its user, if it can be served at all. -/
theorem servable_listen (fresh : m.nextTicket ∉ m.queue other) :
    (m.listen user signal).2.servable other = m.servable other ++
      if user = other ∧ m.isOpen ∧ ¬m.hasFired signal then [m.nextTicket] else [] := by
  -- The slots given out before do not notice the new listener, since its ticket is none of theirs.
  have kept : (m.queue other).filter (m.listen user signal).2.isLive = m.servable other := by
    apply List.filter_congr
    intro ticket mem
    apply isLive_listen
    rintro rfl
    exact fresh mem
  rw [servable, queue_listen]
  split
  next same =>
    subst same
    have still_kept : ((m.queue user).filter m.isLive).filter (m.listen user signal).2.isLive =
        m.servable user := by
      rw [← servable, ← kept, List.filter_filter]
      simp
    rw [List.filter_append, still_kept]
    congr 1
    cases m.isOpen <;> cases fired : m.hasFired signal <;> simp [isLive_listen_self, fired]
  next distinct =>
    rw [kept, if_neg (fun holds => distinct holds.1), List.append_nil]

end Listen

section Drop

variable (m : Multiplexer) (dropped other : Ticket) (user : UserId)

@[simp] theorem listeners_prune : (m.prune user).listeners = m.listeners := rfl

theorem get?_listeners_drop : (m.drop dropped).listeners.get? other =
    if dropped = other then none else m.listeners.get? other := by
  unfold drop
  split
  next missing =>
    split
    next same => rw [← same, missing]
    next => rfl
  next => rw [listeners_prune, Table.get?_erase]

@[simp] theorem nextTicket_drop : (m.drop dropped).nextTicket = m.nextTicket := by
  unfold drop
  split <;> rfl

@[simp] theorem fired_drop : (m.drop dropped).fired = m.fired := by
  unfold drop
  split <;> rfl

@[simp] theorem now_drop : (m.drop dropped).now = m.now := by
  unfold drop
  split <;> rfl

@[simp] theorem isOpen_drop : (m.drop dropped).isOpen = m.isOpen := by
  unfold drop
  split <;> rfl

theorem hasFired_drop (signal : SignalName) :
    (m.drop dropped).hasFired signal = m.hasFired signal := by
  rw [hasFired, fired_drop, hasFired]

theorem isLive_drop : (m.drop dropped).isLive other =
    (decide (dropped ≠ other) && m.isLive other) := by
  rw [isLive_eq_any, isLive_eq_any, get?_listeners_drop]
  by_cases same : dropped = other <;> simp [same, hasFired_drop]

theorem mem_queue_of_mem_queue_drop {slot : Ticket} (mem : slot ∈ (m.drop dropped).queue user) :
    slot ∈ m.queue user := by
  unfold drop at mem
  split at mem
  next => exact mem
  next =>
    rw [queue_prune] at mem
    split at mem
    next => exact (List.mem_filter.mp mem).1
    next => exact mem

/-- Of the slots that can be served, only the one that is given up goes. -/
theorem servable_drop :
    (m.drop dropped).servable user = (m.servable user).filter (fun slot => dropped ≠ slot) := by
  -- Pruning the queue of the listener's user is invisible here: it takes out what cannot be served.
  have kept : (m.drop dropped).servable user = (m.queue user).filter (m.drop dropped).isLive := by
    rw [servable]
    unfold drop
    split
    next => rfl
    next listener _ =>
      exact servable_prune { m with listeners := m.listeners.erase dropped } listener.user user
  rw [kept, servable, List.filter_filter]
  congr 1
  funext slot
  exact isLive_drop m dropped slot

end Drop

section Poll

variable {listener : Listener}

theorem poll_of_missing (missing : m.listeners.get? ticket = none) (timeout : Option Nat) :
    m.poll ticket timeout = (none, m) := by
  rw [poll, missing]

/-- What a listener has been handed comes before every reason to stop waiting. -/
theorem poll_of_handed (found : m.listeners.get? ticket = some listener)
    (handed : listener.handed = some item) (timeout : Option Nat) :
    m.poll ticket timeout = (some (.delivered item), m.drop ticket) := by
  rw [poll, found]
  simp only [Listener.handed_start, handed]

theorem poll_of_unserved (found : m.listeners.get? ticket = some listener)
    (unserved : listener.handed = none) (timeout : Option Nat) :
    m.poll ticket timeout =
      if !m.isOpen || m.hasFired listener.signal ||
          (listener.start m.now timeout).isOverdue m.now then
        (some .released, m.drop ticket)
      else
        (some .pending,
          { m with listeners := m.listeners.insert ticket (listener.start m.now timeout) }) := by
  rw [poll, found]
  simp only [Listener.handed_start, Listener.signal_start, unserved]

/-- Polling gives up a listener or notes when its waiting has begun, and does nothing else. -/
theorem poll_cases (m : Multiplexer) (ticket : Ticket) (timeout : Option Nat) :
    (m.poll ticket timeout).2 = m.drop ticket ∨
      ∃ listeners, (m.poll ticket timeout).2 = { m with listeners } := by
  cases found : m.listeners.get? ticket with
  | none =>
    rw [poll_of_missing found]
    exact .inr ⟨m.listeners, rfl⟩
  | some listener =>
    cases handed : listener.handed with
    | some item =>
      rw [poll_of_handed found handed]
      exact .inl rfl
    | none =>
      rw [poll_of_unserved found handed]
      split
      · exact .inl rfl
      · exact .inr ⟨_, rfl⟩

/-- A listener that goes on waiting keeps its slot as it is. -/
theorem isLive_start (found : m.listeners.get? ticket = some listener) (timeout : Option Nat) :
    isLive { m with listeners := m.listeners.insert ticket (listener.start m.now timeout) } =
      m.isLive := by
  funext other
  rw [isLive_eq_any, isLive_eq_any, Table.get?_insert]
  split
  next same =>
    rw [← same, found, Option.any_some, Option.any_some, Listener.signal_start]
    rfl
  next => rfl

end Poll

/-! ### Signals, clock and end -/

section Ending

variable (m : Multiplexer) (signal other : SignalName) (user : UserId) (ticket : Ticket)

theorem hasFired_fire : (m.fire signal).hasFired other =
    (m.hasFired other || decide (signal = other)) := by
  unfold fire
  split
  next already =>
    by_cases same : signal = other
    · rw [← same, already, Bool.true_or]
    · simp [same]
  next =>
    rw [hasFired, hasFired, List.contains_cons, Bool.or_comm]
    congr 1
    exact decide_eq_decide.mpr eq_comm

@[simp] theorem queue_fire : (m.fire signal).queue user = m.queue user := by
  unfold fire
  split <;> rfl

@[simp] theorem listeners_fire : (m.fire signal).listeners = m.listeners := by
  unfold fire
  split <;> rfl

@[simp] theorem nextTicket_fire : (m.fire signal).nextTicket = m.nextTicket := by
  unfold fire
  split <;> rfl

@[simp] theorem now_fire : (m.fire signal).now = m.now := by
  unfold fire
  split <;> rfl

@[simp] theorem isOpen_fire : (m.fire signal).isOpen = m.isOpen := by
  unfold fire
  split <;> rfl

/-- Time passes without changing who can be served. -/
theorem servable_elapse (span : Nat) : (m.elapse span).servable user = m.servable user := rfl

theorem isLive_elapse (span : Nat) : (m.elapse span).isLive = m.isLive := rfl

theorem queue_close : m.close.queue user = [] := rfl

end Ending

/-! ### Handing -/

@[simp] theorem queue_hand : (m.hand ticket item).queue user = m.queue user := by
  unfold hand
  split <;> rfl

theorem get?_listeners_hand (m : Multiplexer) (ticket other : Ticket) (item : Indexed Event) :
    (m.hand ticket item).listeners.get? other =
      if ticket = other then
        (m.listeners.get? other).map fun listener => { listener with handed := some item }
      else m.listeners.get? other := by
  unfold hand
  split
  next missing =>
    split
    next same => rw [← same, missing]; rfl
    next => rfl
  next listener found =>
    rw [Table.get?_insert]
    split
    next same => rw [← same, found]; rfl
    next => rfl

@[simp] theorem nextTicket_hand : (m.hand ticket item).nextTicket = m.nextTicket := by
  unfold hand
  split <;> rfl

@[simp] theorem fired_hand : (m.hand ticket item).fired = m.fired := by
  unfold hand
  split <;> rfl

@[simp] theorem now_hand : (m.hand ticket item).now = m.now := by
  unfold hand
  split <;> rfl

@[simp] theorem isOpen_hand : (m.hand ticket item).isOpen = m.isOpen := by
  unfold hand
  split <;> rfl

/-- Handing an event to a listener does not touch its slot, nor any other. -/
@[simp] theorem isLive_hand : (m.hand ticket item).isLive = m.isLive := by
  funext other
  rw [isLive_eq_any, isLive_eq_any, get?_listeners_hand]
  split
  next => cases m.listeners.get? other <;> simp [hasFired]
  next => simp [hasFired]

/-- The oldest slot of a user that can be served. -/
def oldest? (m : Multiplexer) (user : UserId) : Option Ticket :=
  (m.servable user).head?

/-- Without a slot that can be served, nothing is handed out. -/
theorem sendTo_of_oldest?_eq_none (missing : m.oldest? user = none) :
    sendTo item m user = m.setQueue user [] := by
  have all_stale : (m.queue user).dropWhile (fun ticket => !m.isLive ticket) = [] := by
    rw [List.dropWhile_eq_nil_iff]
    intro ticket mem
    have stale := List.filter_eq_nil_iff.mp (List.head?_eq_none_iff.mp missing) ticket mem
    simpa using stale
  rw [sendTo, all_stale]

/-- Otherwise the oldest slot is served, and the slots behind it stay. -/
theorem sendTo_of_oldest? (found : m.oldest? user = some ticket) (item : Indexed Event) :
    ∃ rest, sendTo item m user = (m.setQueue user rest).hand ticket item ∧
      (∀ slot ∈ rest, slot ∈ m.queue user) ∧
      m.servable user = ticket :: rest.filter m.isLive := by
  rw [oldest?, servable, List.head?_filter] at found
  -- The queue is cut at its oldest live slot; whatever stands before that is stale.
  obtain ⟨live, stale, rest, cut, all_stale⟩ := List.find?_eq_some_iff_append.mp found
  have kept : (m.queue user).dropWhile (fun ticket => !m.isLive ticket) = ticket :: rest := by
    rw [cut, List.dropWhile_append_of_pos (by simpa using all_stale)]
    simp [live]
  have no_stale : stale.filter m.isLive = [] := by
    rw [List.filter_eq_nil_iff]
    simpa using all_stale
  refine ⟨rest, ?_, fun slot mem => ?_, ?_⟩
  · rw [sendTo, kept]
  · rw [cut]
    exact List.mem_append_right _ (List.mem_cons_of_mem _ mem)
  · rw [servable, cut, List.filter_append, no_stale, List.nil_append,
      List.filter_cons_of_pos live]

theorem isLive_sendTo : (sendTo item m user).isLive = m.isLive := by
  unfold sendTo
  split
  · rfl
  · rw [isLive_hand, isLive_setQueue]

theorem isOpen_sendTo : (sendTo item m user).isOpen = m.isOpen := by
  unfold sendTo
  split
  · rfl
  · rw [isOpen_hand, isOpen_setQueue]

theorem isOpen_send (recipients : List UserId) : (m.send recipients item).isOpen = m.isOpen := by
  induction recipients generalizing m with
  | nil => rfl
  | cons user rest ih => exact ih.trans isOpen_sendTo

theorem nextTicket_sendTo : (sendTo item m user).nextTicket = m.nextTicket := by
  unfold sendTo
  split
  · rfl
  · rw [nextTicket_hand, nextTicket_setQueue]

theorem hasFired_sendTo (signal : SignalName) :
    (sendTo item m user).hasFired signal = m.hasFired signal := by
  unfold sendTo
  split
  · rfl
  · rw [hasFired, fired_hand, fired_setQueue, hasFired]

theorem hasFired_send (signal : SignalName) (recipients : List UserId) :
    (m.send recipients item).hasFired signal = m.hasFired signal := by
  induction recipients generalizing m with
  | nil => rfl
  | cons user rest ih => exact ih.trans (hasFired_sendTo signal)

/-- Slots are taken from queues, and none is added. -/
theorem mem_queue_of_mem_queue_sendTo (mem : ticket ∈ (sendTo item m user).queue other) :
    ticket ∈ m.queue other := by
  cases found : m.oldest? user with
  | none =>
    rw [sendTo_of_oldest?_eq_none found, queue_setQueue] at mem
    split at mem
    next => contradiction
    next => exact mem
  | some oldest =>
    obtain ⟨rest, sent, fewer, -⟩ := sendTo_of_oldest? found item
    rw [sent, queue_hand, queue_setQueue] at mem
    split at mem
    next same => exact same ▸ fewer ticket mem
    next => exact mem

/-- Handing an event to a user takes away the oldest of the slots that can be served. -/
theorem servable_sendTo : (sendTo item m user).servable other =
    if user = other then (m.servable user).tail else m.servable other := by
  rw [servable, isLive_sendTo]
  cases found : m.oldest? user with
  | none =>
    rw [sendTo_of_oldest?_eq_none found, queue_setQueue]
    split
    next => rw [List.head?_eq_none_iff.mp found]; rfl
    next => rfl
  | some ticket =>
    obtain ⟨rest, sent, -, cut⟩ := sendTo_of_oldest? found item
    rw [sent, queue_hand, queue_setQueue]
    split
    next => rw [cut]; rfl
    next => rfl

/-- The listeners that are handed an event, recipient by recipient. -/
def handings (item : Indexed Event) : Multiplexer → List UserId → List Ticket
  | _, [] => []
  | m, user :: rest => (m.oldest? user).toList ++ handings item (sendTo item m user) rest

/-- The listeners that are handed an event are the oldest of each recipient, as many as the
recipient is listed. -/
theorem mem_handings_iff {recipients : List UserId} : ticket ∈ handings item m recipients ↔
    ∃ user, ticket ∈ (m.servable user).take (recipients.count user) := by
  induction recipients generalizing m with
  | nil => simp [handings]
  | cons first rest ih =>
    rw [handings, List.mem_append, ih]
    -- Listed once more, the first recipient has one more of their slots served, the oldest one.
    have front : ticket ∈ (m.servable first).take (List.count first (first :: rest)) ↔
        ticket ∈ (m.oldest? first).toList ∨
          ticket ∈ (m.servable first).tail.take (rest.count first) := by
      rw [List.count_cons_self, oldest?]
      cases m.servable first <;> simp
    constructor
    · rintro (oldest | ⟨user, mem⟩)
      · exact ⟨first, front.mpr (.inl oldest)⟩
      · rw [servable_sendTo] at mem
        split at mem
        next same => exact ⟨first, front.mpr (.inr (same ▸ mem))⟩
        next distinct => exact ⟨user, by rwa [List.count_cons_of_ne distinct]⟩
    · rintro ⟨user, mem⟩
      by_cases same : first = user
      · subst same
        refine (front.mp mem).imp_right fun later => ⟨first, ?_⟩
        rwa [servable_sendTo, if_pos rfl]
      · refine .inr ⟨user, ?_⟩
        rwa [servable_sendTo, if_neg same, ← List.count_cons_of_ne same]

end Multiplexer

end ChatFeed
