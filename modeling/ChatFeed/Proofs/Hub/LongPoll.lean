import ChatFeed.Proofs.Hub.Finding
import ChatFeed.Proofs.Hub.Waiting
import ChatFeed.Proofs.Multiplexer.Awaiting

/-!
# How waiting ends

A sync that finds nothing waits. Its listener is the next of the user to be handed an event, so the
first event that is sent to the user ends the waiting, as the time that is up does and the end of
the hub. Who is woken by an event collects again and is given something, unless somebody has left a
room in between. There is one exception: that somebody types is not told of a room whose name cannot
be parsed, though it wakes those who wait. Who is woken by nothing is given what was collected at
first, with a token for the positions at that time, which everything that was written meanwhile is
beyond.

## Main definitions

* `Hub.HasToWait`: a sync would find nothing and has time to wait
* `Hub.WaitsAlong`: some operations leave a sync waiting
* `Hub.RoutedIn`: one of some operations sends an event to a user in time
* `Hub.NobodyLeaves`: some operations take nobody out of a room
* `Hub.Waits`: how the listener of a waiting sync is kept

## Main results

* `Hub.Waits.perform`, `Hub.Waits.run`: what happens to a waiting sync
* `Hub.HasToWait.waits`: a sync that has to wait does
* `Hub.long_poll_resolution`: when waiting ends, and with what
* `Hub.exists_woken_for_nothing`: whoever is woken may be given nothing
-/

namespace ChatFeed.Hub

open Multiplexer (Awaits)

variable {hub start : Hub} {clock : RoomId → Instant} {user : UserId} {since : Cursors}
  {token : Option String} {timeout : Option Nat} {sync : PendingSync} {deadline : Nat}
  {routed : Prop} {operations : List Operation}

/-! ### Waiting -/

/-- Whether a sync would find nothing to give and have time to wait for it, with nobody before it in
the queue of its user. -/
structure HasToWait (hub : Hub) (clock : RoomId → Instant) (user : UserId) (token : Option String)
    (timeout : Option Nat) (since : Cursors) : Prop where
  read : hub.since token = .ok since
  reached : hub.HasReached since
  nothing : ∀ response, hub.collect clock user since = .ok response → response.isEmpty = true
  time : 0 < hub.limits.timeout timeout
  going : hub.dispatcher.mux.hasFired shutdownSignal = false
  alone : ∀ ticket listener, hub.dispatcher.mux.listeners.get? ticket = some listener →
    listener.user ≠ user

/-- Whether an operation leaves a waiting sync waiting. It is not given up, and if it is resumed,
then without success. -/
def LeavesWaiting (hub : Hub) (sync : PendingSync) : Operation → Prop
  | .resume clock other => other.ticket = sync.ticket →
    other = sync ∧ (hub.resume clock sync).1 = .ok (.waiting sync)
  | .abandon other => other.ticket ≠ sync.ticket
  | _ => True

/-- Whether each of some operations leaves a waiting sync waiting. -/
def WaitsAlong (start : Hub) (sync : PendingSync) (operations : List Operation) : Prop :=
  ∀ earlier operation, earlier ++ [operation] <+: operations →
    (start.run earlier).LeavesWaiting sync operation

/-- Whether one of some operations sends an event to a user before the hub is shut down. -/
def RoutedIn (start : Hub) (operations : List Operation) (user : UserId) : Prop :=
  ∃ earlier operation, earlier ++ [operation] <+: operations ∧
    .shutDown ∉ earlier ∧ (start.run earlier).Routes operation user

theorem routedIn_concat {last : Operation} : start.RoutedIn (operations ++ [last]) user ↔
    start.RoutedIn operations user ∨
      .shutDown ∉ operations ∧ (start.run operations).Routes last user :=
  exists_step_concat_iff

/-- Whether nobody is taken out of a room by any of some operations. -/
def NobodyLeaves (start : Hub) (operations : List Operation) : Prop :=
  ∀ earlier operation, earlier ++ [operation] <+: operations →
    ∀ user room, ¬(start.run earlier).Removes operation user room

/-- Whether waiting until `deadline` is over, even if nothing has come of it. -/
def IsOver (hub : Hub) (deadline : Nat) : Prop :=
  hub.dispatcher.mux.hasFired shutdownSignal = true ∨ deadline ≤ hub.dispatcher.mux.now

instance : Decidable (hub.IsOver deadline) :=
  inferInstanceAs (Decidable (_ ∨ _))

/-- Whether a sync waits until `deadline`, and its listener has been handed an event exactly if one
has been `routed`. -/
def Waits (hub : Hub) (sync : PendingSync) (deadline : Nat) (routed : Prop) : Prop :=
  ∃ handed, hub.dispatcher.mux.Awaits sync.ticket
      { user := sync.user, signal := shutdownSignal, handed, wait := .due deadline } ∧
    (handed.isSome = true ↔ routed)

/-! ### What a resumed sync gives -/

/-- A sync that has been sent an event collects again. -/
theorem Waits.resume_of_routed (waits : hub.Waits sync deadline routed) (sent : routed) :
    (hub.resume clock sync).1 = (hub.collect clock sync.user sync.since).map .done := by
  obtain ⟨handed, awaits, handed_iff⟩ := waits
  obtain ⟨item, rfl⟩ := Option.isSome_iff_exists.mp (handed_iff.mpr sent)
  rw [resume_eq, awaits.poll_of_handed rfl]

/-- Any other gives its first collection when the time is up or the hub has been shut down. -/
theorem Waits.resume_of_not_routed (waits : hub.Waits sync deadline routed) (unsent : ¬routed) :
    (hub.resume clock sync).1 =
      .ok (if hub.IsOver deadline then .done sync.first else .waiting sync) := by
  obtain ⟨handed, awaits, handed_iff⟩ := waits
  obtain rfl : handed = none := by
    rw [← Option.not_isSome_iff_eq_none, handed_iff]
    exact unsent
  rw [resume_eq, awaits.poll_of_unhanded rfl]
  simp only [Listener.start, Listener.isOverdue, Bool.or_eq_true, decide_eq_true_iff]
  by_cases ended : hub.IsOver deadline
  · rw [if_pos ended]
    rw [IsOver] at ended
    rw [if_pos ended]
  · rw [if_neg ended]
    rw [IsOver] at ended
    rw [if_neg ended]

/-- So a sync that goes on waiting has not been sent an event, and nothing else has ended it. -/
theorem Waits.not_ended (waits : hub.Waits sync deadline routed)
    (again : (hub.resume clock sync).1 = .ok (.waiting sync)) :
    ¬routed ∧ ¬hub.IsOver deadline := by
  have unsent : ¬routed := by
    intro sent
    rw [waits.resume_of_routed sent, map_eq_ok_iff] at again
    obtain ⟨response, -, done⟩ := again
    contradiction
  refine ⟨unsent, fun ended => ?_⟩
  rw [waits.resume_of_not_routed unsent, if_pos ended, Except.ok.injEq] at again
  contradiction

/-- A sync is done when it has been sent an event, the time is up or the hub has been shut down. -/
theorem Waits.done_iff (waits : hub.Waits sync deadline routed) {again : SyncResponse}
    (collected : hub.collect clock sync.user sync.since = .ok again) :
    (∃ response, (hub.resume clock sync).1 = .ok (.done response)) ↔
      routed ∨ hub.IsOver deadline := by
  by_cases sent : routed
  · rw [waits.resume_of_routed sent, collected]
    exact iff_of_true ⟨again, rfl⟩ (.inl sent)
  · rw [waits.resume_of_not_routed sent]
    split
    next ended => exact iff_of_true ⟨sync.first, rfl⟩ (.inr ended)
    next going => exact iff_of_false nofun (not_or.mpr ⟨sent, going⟩)

/-- One that is done without having been sent an event gives its first collection. -/
theorem Waits.eq_first (waits : hub.Waits sync deadline routed) (unsent : ¬routed)
    {response : SyncResponse} (done : (hub.resume clock sync).1 = .ok (.done response)) :
    response = sync.first := by
  rw [waits.resume_of_not_routed unsent, Except.ok.injEq] at done
  split at done
  next => exact (SyncProgress.done.inj done).symm
  next => contradiction

/-! ### What happens to a waiting sync -/

/-- A listener who waits is handed one of the events that are sent to the user, unless the hub has
been shut down. -/
theorem awaits_deliveries {m : Multiplexer} {ticket : Ticket} {listener : Listener}
    (awaits : m.Awaits ticket listener) (deliveries : List Delivery) :
    ∃ handed, (m.run (deliveries.map Delivery.action)).Awaits ticket { listener with handed } ∧
      (handed.isSome = true ↔ listener.handed.isSome = true ∨
        (∃ delivery ∈ deliveries, listener.user ∈ delivery.recipients) ∧
          m.hasFired listener.signal = false) := by
  induction deliveries generalizing m listener with
  | nil => exact ⟨listener.handed, awaits, by simp⟩
  | cons delivery rest ih =>
    obtain ⟨handed, sent, handed_iff⟩ := awaits.send delivery.recipients delivery.item
    obtain ⟨last, sent_all, last_iff⟩ := ih sent
    refine ⟨last, sent_all, ?_⟩
    rw [last_iff, handed_iff, Multiplexer.hasFired_send, or_assoc, ← or_and_right,
      List.exists_mem_cons_iff]

/-- A waiting sync is sent an event by every operation that sends one to the user, until the hub is
shut down. -/
theorem Waits.perform {operation : Operation} (waits : hub.Waits sync deadline routed)
    (leaves : hub.LeavesWaiting sync operation) :
    (hub.perform operation).Waits sync deadline (routed ∨
      hub.dispatcher.mux.hasFired shutdownSignal = false ∧ hub.Routes operation sync.user) := by
  obtain ⟨handed, awaits, handed_iff⟩ := id waits
  rw [Waits, mux_perform]
  by_cases writes : hub.actions operation = (hub.deliveries operation).map Delivery.action
  · obtain ⟨last, sent, last_iff⟩ := awaits_deliveries awaits (hub.deliveries operation)
    rw [writes]
    exact ⟨last, sent, last_iff.trans (or_congr handed_iff and_comm)⟩
  -- What is not a write sends nothing. It is about another listener, or about all of them.
  have silent : hub.deliveries operation = [] := by
    cases operation <;> first | rfl | exact absurd rfl writes
  have nobody : ¬hub.Routes operation sync.user := by simp [Routes, silent]
  refine ⟨handed, ?_, by simp [handed_iff, nobody]⟩
  cases operation with
  | sync clock other token timeout =>
    have later := awaits.listen other shutdownSignal
    have distinct := Nat.ne_of_gt awaits.given
    rw [actions]
    split
    next => exact awaits
    next =>
      split
      next => exact later.drop distinct
      next =>
        split
        next => exact later.drop distinct
        next => exact later.poll_other distinct _
  | resume clock other =>
    by_cases same : other.ticket = sync.ticket
    · obtain ⟨rfl, again⟩ := leaves same
      obtain ⟨unsent, not_ended⟩ := waits.not_ended again
      rw [IsOver, not_or, Bool.not_eq_true] at not_ended
      obtain rfl : handed = none := by
        rw [← Option.not_isSome_iff_eq_none, handed_iff]
        exact unsent
      -- The time to wait counts from the first poll, which was when the sync was started.
      exact (awaits.poll_self rfl not_ended.1 (decide_eq_false not_ended.2)).2
    · exact awaits.poll_other same _
  | abandon other => exact awaits.drop leaves
  | elapse span => exact awaits.elapse span
  | shutDown => exact awaits.fire
  | _ => exact absurd rfl writes

/-- So it is along a run. -/
theorem Waits.run (waits : start.Waits sync deadline False)
    (going : start.dispatcher.mux.hasFired shutdownSignal = false)
    (along : start.WaitsAlong sync operations) :
    (start.run operations).Waits sync deadline (start.RoutedIn operations sync.user) := by
  induction operations using List.reverseRecOn with
  | nil =>
    have nobody : ¬start.RoutedIn [] sync.user := by
      rintro ⟨earlier, operation, begins, -⟩
      simp at begins
    rw [iff_false_intro nobody]
    exact waits
  | append_singleton front last ih =>
    obtain ⟨along_front, leaves⟩ := forall_step_concat_iff.mp along
    have before := ih along_front
    have still_going : (start.run front).dispatcher.mux.hasFired shutdownSignal = false ↔
        .shutDown ∉ front := by
      rw [← Bool.not_eq_true, hasFired_run_iff, going, Bool.false_eq_true, false_or]
    rw [run_concat, routedIn_concat, ← still_going]
    exact before.perform leaves

/-- A sync that has to wait does, until its time is up. -/
theorem HasToWait.waits (must : hub.HasToWait clock user token timeout since)
    (isOpen : hub.dispatcher.mux.isOpen = true)
    {history : List Multiplexer.Occurrence} (agrees : Multiplexer.Agrees history hub.dispatcher.mux)
    {first : SyncResponse} (collected : hub.collect clock user since = .ok first) :
    ∃ sync, (hub.sync clock user token timeout).1 = .ok (.waiting sync) ∧ sync.user = user ∧
      sync.since = since ∧ sync.first = first ∧
      (hub.sync clock user token timeout).2.Waits sync
        (hub.dispatcher.mux.now + hub.limits.timeout timeout) False := by
  have same_time := Multiplexer.now_listen hub.dispatcher.mux user shutdownSignal
  have listening := (collect_setMux hub (hub.dispatcher.mux.listen user shutdownSignal).2 clock
    user since).trans collected
  have going : (hub.dispatcher.mux.listen user shutdownSignal).2.hasFired shutdownSignal =
      false := by
    rw [Multiplexer.hasFired_listen, must.going]
  have started : hub.sync clock user token timeout =
      (hub.setMux (hub.dispatcher.mux.listen user shutdownSignal).2).resume clock
        ⟨hub.dispatcher.mux.nextTicket, user, since, hub.limits.timeout timeout, first⟩ := by
    rw [Hub.sync, must.read]
    simp only [listening, must.nothing first collected, Nat.ne_of_gt must.time, going]
    rfl
  have awaits := agrees.awaits_listen isOpen must.alone shutdownSignal
  -- The time to wait starts with the first poll, which comes at once.
  rw [started, ← same_time]
  generalize (hub.dispatcher.mux.listen user shutdownSignal).2 = m at awaits going ⊢
  have in_time : (Listener.start { user, signal := shutdownSignal } m.now
      (some (hub.limits.timeout timeout))).isOverdue m.now = false :=
    decide_eq_false (Nat.not_le_of_gt (Nat.lt_add_of_pos_right must.time))
  obtain ⟨pending, awaits_later⟩ := awaits.poll_self rfl going in_time
  refine ⟨⟨hub.dispatcher.mux.nextTicket, user, since, hub.limits.timeout timeout, first⟩, ?_, rfl,
    rfl, rfl, none, ?_, by simp⟩
  · simp only [resume_eq, setMux, pending]
  · rw [mux_resume]
    exact awaits_later

/-! ### What ends the waiting, and with what -/

/-- Who is given nothing is given a token for the end of the logs. -/
theorem HasReached.since_nextBatch (reached : hub.HasReached since) {response : SyncResponse}
    (collected : hub.collect clock user since = .ok response) (nothing : response.isEmpty = true) :
    hub.since (some response.nextBatch) = .ok hub.position := by
  rw [SyncResponse.isEmpty, Bool.and_eq_true, Bool.and_eq_true, List.isEmpty_iff] at nothing
  have no_events : hub.missedEvents user since.messages = [] := by
    rw [← events_of_collect collected, nothing.1.1]
  have at_end : hub.nextCursors user since = hub.position := by
    rw [nextCursors, no_events]
    simp [position, nextMessage, reached.messages, reached.signals, reached.presence]
  rw [Hub.since_nextBatch collected, at_end]

/-- Who is sent an event is given something when they collect, unless somebody has left a room
since. -/
theorem Routes.isEmpty_eq_false {operation : Operation} (routes : hub.Routes operation user)
    {ids : List EventId} {rest : List Operation} (only : hub.HasOnly ids)
    (distinct : (ids ++ (operation.made ++ rest.flatMap Operation.made)).Nodup)
    (ordered : hub.IsOrdered) (paged : 0 < hub.limits.limit none) (reached : hub.HasReached since)
    (proper : ∀ room ∈ operation.typingRoom?, Id.parse .room room.text = .ok room)
    (stay : (hub.perform operation).NobodyLeaves rest) {response : SyncResponse}
    (collected : ((hub.perform operation).run rest).collect clock user since = .ok response) :
    response.isEmpty = false := by
  have changes := hub.changes_perform operation
  have changes_rest := (hub.perform operation).changes_run rest
  have only_after := (hub.makes_perform operation).hasOnly ids only
  have ordered_after := Changes.preserve (fun _ _ => Change.isOrdered) changes ordered
  -- Nothing that comes later has the identity of what is there after the operation.
  rw [← List.append_assoc] at distinct
  have additions := (makes_run (hub.perform operation) rest).additions _ only_after distinct
  have stays (room : RoomId) (member : UserId)
      (joined : (hub.perform operation).rooms.members.isMember room member = true) :
      ((hub.perform operation).run rest).rooms.members.isMember room member = true := by
    refine (isMember_run_or rest joined).resolve_right ?_
    rintro ⟨earlier, other, begins, removes⟩
    exact stay earlier other begins member room removes
  have grows := (Changes.grows changes).trans (Changes.grows changes_rest)
  have still_paged : 0 < ((hub.perform operation).run rest).limits.limit none := by
    rw [grows.limits]
    exact paged
  have still_ordered := Changes.preserve (fun _ _ => Change.isOrdered) changes_rest ordered_after
  -- What is found right after the operation is still found after the rest of them.
  have made_now := distinct.sublist (List.sublist_append_left _ _)
  have finds := routes.finds only made_now ordered reached proper
  exact (finds.additions additions only_after.sound ordered_after stays).isEmpty_eq_false
    (grows.sound only.sound) still_ordered still_paged collected

/-- A sync that finds nothing, has time and is the only one of its user waits. It is done as soon as
an event has been sent to the user, or the time is up, or the hub has been shut down, and no
earlier. If an event was sent in time, it gives something, unless somebody has left a room since; an
event about typing counts for this only if its room has a name that can be parsed, and no two events
are to have the same identity. If none was sent, it gives what was collected when it started, which
is nothing, with a token for the end of the logs at that time. Every log has been there or beyond
ever since, so what was written is still ahead. -/
theorem long_poll_resolution (config : Config) (sink : Option Sink) (operations : List Operation)
    (clock : RoomId → Instant) (user : UserId) (token : Option String) (timeout : Option Nat)
    (since : Cursors) (accepted : config.validate = .ok config)
    (paged : 0 < min config.limits.defaultLimit config.limits.maxLimit)
    (bounded : ((ofConfig config sink).run operations).CountersBelow (2 ^ 48))
    (must : ((ofConfig config sink).run operations).HasToWait clock user token timeout since) :
    let start := (ofConfig config sink).run operations
    let waiting := (start.sync clock user token timeout).2
    ∃ sync, (start.sync clock user token timeout).1 = .ok (.waiting sync) ∧
      ∀ later now, waiting.WaitsAlong sync later → (waiting.run later).CountersBelow (2 ^ 48) →
        let hub := waiting.run later
        let outcome := (hub.resume now sync).1
        (outcome = .ok (.waiting sync) ∨ ∃ response, outcome = .ok (.done response)) ∧
        ((∃ response, outcome = .ok (.done response)) ↔
          waiting.RoutedIn later user ∨
            start.dispatcher.mux.now + config.limits.timeout timeout ≤ hub.dispatcher.mux.now ∨
            .shutDown ∈ later) ∧
        (MakeDistinct (operations ++ later) →
          ∀ earlier operation rest, later = earlier ++ operation :: rest → .shutDown ∉ earlier →
          (waiting.run earlier).Routes operation user →
          (∀ room ∈ operation.typingRoom?, Id.parse .room room.text = .ok room) →
          (waiting.run (earlier ++ [operation])).NobodyLeaves rest →
          ∃ response, outcome = .ok (.done response) ∧ response.isEmpty = false) ∧
        (¬waiting.RoutedIn later user → ∀ response, outcome = .ok (.done response) →
          start.collect clock user since = .ok response ∧ response.isEmpty = true ∧
            hub.since (some response.nextBatch) = .ok start.position ∧
            ∀ earlier, earlier <+: later → (waiting.run earlier).HasReached start.position) := by
  intro start waiting
  have grows : (ofConfig config sink).Grows start := (changes_run _ operations).grows
  have sound : start.IsSound := grows.sound (isSound_ofConfig config sink)
  have limits : start.limits = config.limits := grows.limits
  obtain ⟨first, collected⟩ : ∃ first, start.collect clock user since = .ok first :=
    sound.exists_collect (bounded.fits accepted grows.shard) (fit_of_since must.read) clock user
  obtain ⟨isOpen, history, agrees⟩ := exists_agrees_run config sink operations
  -- The sync waits with its first collection, from the positions in the token.
  obtain ⟨sync, started, rfl, rfl, rfl, waits⟩ := must.waits isOpen agrees collected
  refine ⟨sync, started, fun later now along bounded_later => ?_⟩
  intro hub outcome
  -- Everything that is done from now on is part of one run from the beginning.
  have from_start (done : List Operation) : (ofConfig config sink).run
      (operations ++ .sync clock sync.user token timeout :: done) = waiting.run done :=
    (ofConfig config sink).run_append operations (.sync clock sync.user token timeout :: done)
  have grows_waiting (done : List Operation) : start.Grows (waiting.run done) :=
    (start.grows_perform (.sync clock sync.user token timeout)).trans
      (changes_run waiting done).grows
  have going : waiting.dispatcher.mux.hasFired shutdownSignal = false := by
    change (start.perform (.sync clock sync.user token timeout)).dispatcher.mux.hasFired _ = _
    rw [← Bool.not_eq_true, hasFired_perform_iff, must.going]
    simp
  have waits_now : hub.Waits sync _ (waiting.RoutedIn later sync.user) := waits.run going along
  have fits : hub.Fits :=
    bounded_later.fits accepted ((grows_waiting later).shard.trans grows.shard)
  obtain ⟨again, collected_again⟩ : ∃ again, hub.collect now sync.user sync.since = .ok again :=
    ((grows_waiting later).sound sound).exists_collect fits (fit_of_since must.read) now sync.user
  refine ⟨?outcome, ?done_iff, ?given, ?first⟩
  case outcome =>
    refine (Moment.outcome_resume ⟨hub, now⟩ ⟨start, clock⟩ collected collected_again).imp_right ?_
    rintro ⟨given, done, -⟩
    exact ⟨given, done⟩
  case done_iff =>
    rw [waits_now.done_iff collected_again, IsOver, hasFired_run_iff, going, limits]
    simp only [Bool.false_eq_true, false_or]
    exact or_congr_right or_comm
  case given =>
    rintro distinct earlier operation rest rfl running routes proper stay
    have begins : earlier ++ [operation] <+: earlier ++ operation :: rest := ⟨rest, by simp⟩
    have done : outcome = (hub.collect now sync.user sync.since).map .done :=
      waits_now.resume_of_routed ⟨earlier, operation, begins, running, routes⟩
    rw [collected_again] at done
    refine ⟨again, done, ?_⟩
    have whole : hub = ((waiting.run earlier).perform operation).run rest :=
      waiting.run_append earlier (operation :: rest)
    rw [whole] at collected_again
    rw [run_concat] at stay
    have only := hasOnly_run config sink
      (operations ++ .sync clock sync.user token timeout :: earlier)
    have ordered := isOrdered_run config sink
      (operations ++ .sync clock sync.user token timeout :: earlier)
    rw [from_start] at only ordered
    -- Nothing is made by starting the sync.
    have made_apart : ((operations ++ .sync clock sync.user token timeout :: earlier).flatMap
        Operation.made ++ (operation.made ++ rest.flatMap Operation.made)).Nodup := by
      simpa [MakeDistinct, Operation.made, Operation.stamps] using distinct
    have pages : 0 < (waiting.run earlier).limits.limit none := by
      rw [(grows_waiting earlier).limits, limits]
      exact paged
    exact routes.isEmpty_eq_false only made_apart ordered pages
      (must.reached.grows (grows_waiting earlier)) proper stay collected_again
  case first =>
    intro unsent response done
    obtain rfl := waits_now.eq_first unsent done
    have nothing := must.nothing sync.first collected
    refine ⟨collected, nothing, ?_, ?_⟩
    · rw [since_eq_of_shard (grows_waiting later).shard]
      exact must.reached.since_nextBatch collected nothing
    · intro earlier _
      exact HasReached.grows ⟨Nat.le_refl _, Nat.le_refl _, Nat.le_refl _⟩ (grows_waiting earlier)

section Woken

open Reader

/-- At a hub where nobody listens a sync that finds nothing waits if it has time to. -/
theorem hasToWait_of_nobody (read : hub.since token = .ok since) (reached : hub.HasReached since)
    (nothing : (hub.collect clock user since).toOption.map (·.isEmpty) = some true)
    (time : 0 < hub.limits.timeout timeout) (nobody : hub.dispatcher.mux = {}) :
    hub.HasToWait clock user token timeout since where
  read := read
  reached := reached
  nothing := by
    intro response collected
    rw [collected] at nothing
    exact Option.some.inj nothing
  time := time
  going := by
    rw [nobody]
    rfl
  alone := by
    intro ticket listener found
    rw [nobody, Table.get?_empty] at found
    contradiction

/-- The host invites a guest, a second later. -/
def invitation : List Operation :=
  [.elapse 1000, .setState (drawn 2) host lobby (.member .invite none) guest.text]

/-- A guest who waits for news of a room that they are not in is woken by their invitation. -/
theorem long_poll_resolution_invitation :
    let start := (ofConfig smallPages none).run [.createRoom (drawn 0) (drawn 1) lobby host]
    let waiting := (start.sync stopped guest none (some 5000)).2
    ∃ sync response, (start.sync stopped guest none (some 5000)).1 = .ok (.waiting sync) ∧
      ((waiting.run invitation).resume stopped sync).1 = .ok (.done response) ∧
      response.isEmpty = false := by
  intro start waiting
  have accepted : smallPages.validate = .ok smallPages := by decide
  have paged : 0 < min smallPages.limits.defaultLimit smallPages.limits.maxLimit := by decide
  have bounded : start.CountersBelow (2 ^ 48) := by decide +kernel
  have must : start.HasToWait stopped guest none (some 5000) {} :=
    hasToWait_of_nobody rfl ⟨Nat.zero_le _, Nat.zero_le _, Nat.zero_le _⟩ (by decide +kernel)
      (by decide) (by decide +kernel)
  obtain ⟨sync, started, resolution⟩ :=
    long_poll_resolution smallPages none [.createRoom (drawn 0) (drawn 1) lobby host] stopped guest
      none (some 5000) {} accepted paged bounded must
  have along : waiting.WaitsAlong sync invitation := by
    intro earlier operation begins
    have mem : operation ∈ invitation := begins.subset (by simp)
    rcases List.mem_pair.mp mem with rfl | rfl <;> trivial
  have bounded_later : (waiting.run invitation).CountersBelow (2 ^ 48) := by decide +kernel
  have invited : (waiting.run [.elapse 1000]).Routes
      (.setState (drawn 2) host lobby (.member .invite none) guest.text) guest := by
    unfold Routes
    decide +kernel
  have distinct : MakeDistinct ([.createRoom (drawn 0) (drawn 1) lobby host] ++ invitation) := by
    decide +kernel
  obtain ⟨-, -, given, -⟩ := resolution invitation stopped along bounded_later
  obtain ⟨response, done, some_given⟩ := given distinct [.elapse 1000] _ [] rfl (by simp) invited
    nofun (by simp [NobodyLeaves])
  exact ⟨sync, response, started, done, some_given⟩

/-- A room whose name cannot be parsed, as it lacks a part. -/
def nameless : RoomId := Id.ofParts .room "" "test"

/-- The host makes that room. -/
def foundingNameless : List Operation :=
  [.createRoom (drawn 0) (drawn 1) nameless host]

/-- The host waits for news of a room whose name cannot be parsed and starts typing there, which is
signalled to them in time. They are woken and given nothing, though nobody has left a room. -/
theorem exists_woken_for_nothing :
    let start := (ofConfig smallPages none).run foundingNameless
    let token := some "B.C.A*B.A.A"
    let waiting := (start.sync stopped host token (some 5000)).2
    let typing := Operation.setTyping epoch host nameless true
    smallPages.validate = .ok smallPages ∧
      0 < min smallPages.limits.defaultLimit smallPages.limits.maxLimit ∧
      start.CountersBelow (2 ^ 48) ∧
      start.HasToWait stopped host token (some 5000) ⟨2, 0, 0⟩ ∧
      MakeDistinct (foundingNameless ++ [typing]) ∧
      waiting.Routes typing host ∧ waiting.NobodyLeaves [typing] ∧
      ∃ sync response, (start.sync stopped host token (some 5000)).1 = .ok (.waiting sync) ∧
        waiting.WaitsAlong sync [typing] ∧
        ((waiting.run [typing]).resume stopped sync).1 = .ok (.done response) ∧
        response.isEmpty = true := by
  intro start token waiting typing
  have must : start.HasToWait stopped host token (some 5000) ⟨2, 0, 0⟩ :=
    hasToWait_of_nobody (by decide +kernel) ⟨by decide +kernel, Nat.zero_le _, Nat.zero_le _⟩
      (by decide +kernel) (by decide) (by decide +kernel)
  have routes : waiting.Routes typing host := by
    unfold Routes
    decide +kernel
  have stay : waiting.NobodyLeaves [typing] := by
    rintro earlier operation begins user room removes
    obtain ⟨stamp, sender, content, key, rfl, -⟩ := removes.exists_departure
    have mem : Operation.setState stamp sender room content key ∈ [typing] :=
      begins.subset (by simp)
    simp [typing] at mem
  refine ⟨by decide, by decide, by decide +kernel, must, by decide +kernel, routes, stay, ?_⟩
  obtain ⟨first, collected⟩ : ∃ first, start.collect stopped host ⟨2, 0, 0⟩ = .ok first :=
    exists_of_isSome_toOption (by decide +kernel)
  obtain ⟨isOpen, history, agrees⟩ := exists_agrees_run smallPages none foundingNameless
  -- The sync is woken: it collects again, from the same positions.
  obtain ⟨sync, started, mine, position, -, waits⟩ := must.waits isOpen agrees collected
  have along : waiting.WaitsAlong sync [typing] := by
    rintro earlier operation begins
    obtain rfl := List.mem_singleton.mp (begins.subset (by simp) : operation ∈ [typing])
    trivial
  have going : waiting.dispatcher.mux.hasFired shutdownSignal = false := by decide +kernel
  have sent : waiting.RoutedIn [typing] sync.user := by
    rw [mine]
    exact ⟨[], typing, List.prefix_refl _, List.not_mem_nil, routes⟩
  -- The signal is held, but what is collected leaves out a room whose name cannot be parsed.
  have empty_handed : ((waiting.run [typing]).collect stopped host ⟨2, 0, 0⟩).toOption.map
      (·.isEmpty) = some true := by
    decide +kernel
  obtain ⟨response, again⟩ : ∃ response,
      (waiting.run [typing]).collect stopped host ⟨2, 0, 0⟩ = .ok response :=
    exists_of_isSome_toOption (by decide +kernel)
  rw [again] at empty_handed
  refine ⟨sync, response, started, along, ?_, Option.some.inj empty_handed⟩
  rw [(waits.run going along).resume_of_routed sent, mine, position, again]
  rfl

end Woken

end ChatFeed.Hub
