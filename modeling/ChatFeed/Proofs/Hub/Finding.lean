import ChatFeed.Proofs.Hub.Membership
import ChatFeed.Proofs.Hub.Permanence
import ChatFeed.Proofs.Hub.Routing
import ChatFeed.Proofs.Hub.Typing

/-!
# What wakes a reader is found

An event that is sent to a user leaves something for them in one of the three logs, no earlier than
any position that the log had reached. It stays there as long as nobody leaves a room: an event of
the timeline stands where it was entered unless another comes with its identity, and a signal about
typing or a presence record gives way only to a newer one. So whoever is woken by an event is given
something when they collect.

## Main definitions

* `Hub.Finds`: there is something for a user in one of the logs, from given positions on
* `Hub.HasReached`: the logs have come as far as given positions

## Main results

* `Hub.Finds.isEmpty_eq_false`: whoever finds something is given something
* `Hub.Finds.additions`: what is found stays, as long as nobody leaves a room
* `Hub.Routes.finds`: who is sent an event finds something
-/

namespace ChatFeed.Hub

variable {hub later : Hub} {clock : RoomId → Instant} {user : UserId} {since : Cursors}
  {room : RoomId} {event : Event} {stamp : Stamp} {now : Instant} {operation : Operation}

/-- Whether there is something for a user in one of the logs, from the given positions on. -/
inductive Finds (hub : Hub) (user : UserId) (since : Cursors) : Prop where
  | event (index : Nat) (event : Event) (above : since.messages ≤ index)
    (at_index : hub.eventAt? index = some event) (seen : hub.CanSee user event)
  | typing (room : RoomId) (proper : Id.parse .room room.text = .ok room)
    (held : hub.HoldsSignal user room since.signals)
  | presence (peer : UserId) (index : Nat) (record : PresenceRecord)
    (shares : peer ∈ hub.rooms.members.peers user)
    (found : hub.presence.records.get? peer = some ⟨index, record⟩)
    (above : since.presence ≤ index) (below : index < hub.presenceCounter.current)

/-- Whoever finds something is given something. -/
theorem Finds.isEmpty_eq_false (finds : hub.Finds user since) (sound : hub.IsSound)
    (ordered : hub.IsOrdered) (paged : 0 < hub.limits.limit none) {response : SyncResponse}
    (collected : hub.collect clock user since = .ok response) : response.isEmpty = false := by
  obtain ⟨events, typing, presence⟩ := parts_of_collect collected
  rw [SyncResponse.isEmpty, events, typing, presence]
  cases finds with
  | event index event above at_index seen =>
    obtain ⟨-, shows⟩ := sound.shows_missedEvents paged user since.messages
    have some_events : hub.missedEvents user since.messages ≠ [] := by
      intro nothing
      -- A reader who is given nothing goes on from the end, which is beyond the event.
      rw [nothing] at shows
      have below := Nat.lt_of_lt_of_le (sound.lt_of_eventAt? at_index)
        (Nat.le_max_left _ since.messages)
      exact List.not_mem_nil ((shows.mem_iff index event).mpr ⟨above, below, at_index, seen⟩)
    simp [some_events]
  | typing room proper held =>
    obtain ⟨entry, mem, -⟩ := exists_mem_missedTyping ordered proper held clock
    simp [List.ne_nil_of_mem mem]
  | presence peer index record shares found above below =>
    have mem : ⟨index, PresenceLog.event peer record⟩ ∈
        hub.missedPresence user since.presence :=
      PresenceLog.mem_range_iff.mpr ⟨above, below, peer, shares, record, found, rfl⟩
    simp [List.ne_nil_of_mem mem]

/-! ### What is found stays -/

/-- A signal that is held gives way only to a newer one. -/
theorem Change.holdsSignal (change : hub.Change later) (ordered : hub.IsOrdered) {index : Nat}
    (held : hub.HoldsSignal user room index) : later.HoldsSignal user room index := by
  cases change with
  | mux mux => exact held
  | creation made new => exact held
  | state stamp sender changed content key state target found named => exact held
  | message stamp sender changed messageType body allowed => exact held
  | presence time subject change => exact held
  | typing now typist signalled isTyping allowed =>
    exact (holdsSignal_afterTyping_iff ordered).mpr (.inl held)

/-- Whether a user's presence record was changed at the index `since` or a later one. -/
def HasRecord (hub : Hub) (user : UserId) (since : Nat) : Prop :=
  ∃ index record, hub.presence.records.get? user = some ⟨index, record⟩ ∧ since ≤ index ∧
    index < hub.presenceCounter.current

/-- So does a presence record. -/
theorem Change.hasRecord (change : hub.Change later) {index : Nat}
    (has : hub.HasRecord user index) : later.HasRecord user index := by
  cases change with
  | mux mux => exact has
  | creation made new => exact has
  | state stamp sender changed content key state target found named => exact has
  | message stamp sender changed messageType body allowed => exact has
  | typing now typist signalled isTyping allowed => exact has
  | presence time subject change =>
    obtain ⟨old, record, found, above, below⟩ := has
    have after : (hub.afterUpdate time subject change).presence.records.get? user =
        if subject = user then
          some ⟨hub.presenceCounter.current, hub.recordAfter time subject change⟩
        else hub.presence.records.get? user := Table.get?_insert _ _ _ _
    by_cases same : subject = user
    · rw [if_pos same] at after
      exact ⟨_, _, after, Nat.le_of_lt (Nat.lt_of_le_of_lt above below), Nat.lt_succ_self _⟩
    · rw [if_neg same] at after
      exact ⟨old, record, after.trans found, above, Nat.lt_succ_of_lt below⟩

/-- What is found stays, as long as nobody leaves a room and no event takes the place of another. -/
theorem Finds.additions (finds : hub.Finds user since) (additions : hub.Additions later)
    (sound : hub.IsSound) (ordered : hub.IsOrdered)
    (stays : ∀ room member, hub.rooms.members.isMember room member = true →
      later.rooms.members.isMember room member = true) : later.Finds user since := by
  have changes := additions.changes
  have later_sound := changes.grows.sound sound
  cases finds with
  | event index event above at_index seen =>
    have unchanged : later.eventAt? index = hub.eventAt? index :=
      additions.eventAt?_eq (sound.lt_of_eventAt? at_index)
    refine .event index event above (unchanged.trans at_index) (seen.imp_left ?_)
    rintro ⟨room, in_room, joined⟩
    exact ⟨room, in_room, stays room user joined⟩
  | typing room proper held =>
    refine .typing room proper ?_
    -- That a signal gives way only to a newer one rests on the order in which they are held.
    have kept (before after : Hub) (change : before.Change after)
        (holds : before.IsOrdered ∧ before.HoldsSignal user room since.signals) :
        after.IsOrdered ∧ after.HoldsSignal user room since.signals :=
      ⟨change.isOrdered holds.1, change.holdsSignal holds.1 holds.2⟩
    exact (changes.preserve kept ⟨ordered, held⟩).2
  | presence peer index record shares found above below =>
    have kept (before after : Hub) (change : before.Change after)
        (has : before.HasRecord peer since.presence) : after.HasRecord peer since.presence :=
      change.hasRecord has
    obtain ⟨newer, newest, found_later, above_later, below_later⟩ :=
      changes.preserve kept ⟨index, record, found, above, below⟩
    refine .presence peer newer newest ?_ found_later above_later below_later
    -- The room that they share is one that neither has left.
    rw [MemberIndex.mem_peers_iff] at shares ⊢
    refine shares.imp_right ?_
    rintro ⟨room, mine, theirs⟩
    have both_stay (member : UserId) (joined : member ∈ hub.rooms.members.members room) :
        member ∈ later.rooms.members.members room :=
      MemberIndex.isMember_iff.mp (stays room member (MemberIndex.isMember_iff.mpr joined))
    have user_stays := both_stay user ((sound.members room user).mpr mine)
    exact ⟨room, (later_sound.members room user).mp user_stays, both_stay peer theirs⟩

/-! ### What is sent is found -/

/-- Whether the logs have come as far as the given positions. -/
structure HasReached (hub : Hub) (since : Cursors) : Prop where
  messages : since.messages ≤ hub.messageCounter.current
  signals : since.signals ≤ hub.signalCounter.current
  presence : since.presence ≤ hub.presenceCounter.current

theorem HasReached.grows (reached : hub.HasReached since) (grows : hub.Grows later) :
    later.HasReached since where
  messages := Nat.le_trans reached.messages grows.messages
  signals := Nat.le_trans reached.signals grows.signals
  presence := Nat.le_trans reached.presence grows.presence

/-- The room whose typing an operation is about. -/
def Operation.typingRoom? : Operation → Option RoomId
  | setTyping _ _ room _ => some room
  | _ => none

/-- Who is told of an event that is entered finds it. -/
theorem finds_enter {event : Event} (in_room : event.room = some room)
    (reached : since.messages ≤ hub.messageCounter.current)
    (told : user ∈ (hub.eventDelivery room event).recipients) :
    (hub.enter room event).Finds user since :=
  .event hub.messageCounter.current event reached (hub.eventAt?_enter room event)
    ((mem_eventDelivery_iff_canSee in_room).mp told)

theorem finds_setState {sender : UserId} {content : StateContent} {key : String}
    {delivery : Delivery}
    (sent : hub.stateDelivery? stamp sender room content key = some delivery)
    (reached : since.messages ≤ hub.messageCounter.current) (told : user ∈ delivery.recipients) :
    (hub.setState stamp sender room content key).2.Finds user since := by
  unfold stateDelivery? at sent
  split at sent
  next state target found named =>
    obtain rfl := Option.some.inj sent
    rw [setState_eq found named]
    exact finds_enter rfl reached told
  next => contradiction

/-- Who is told that a user is typing finds a signal. -/
theorem finds_afterTyping (ordered : hub.IsOrdered) (proper : Id.parse .room room.text = .ok room)
    (reached : since.signals ≤ hub.signalCounter.current) {typist : UserId} {isTyping : Bool}
    (told : user ∈ (hub.typingDelivery now typist room isTyping).recipients) :
    (hub.afterTyping now typist room isTyping).Finds user since := by
  have member : hub.rooms.members.isMember room user = true := MemberIndex.isMember_iff.mpr told
  exact .typing room proper
    ((holdsSignal_afterTyping_iff ordered).mpr (.inr ⟨rfl, reached, member⟩))

/-- Who is told of a change of presence finds the record. -/
theorem finds_afterUpdate (sound : hub.IsSound)
    (reached : since.presence ≤ hub.presenceCounter.current) {time : Timestamp} {subject : UserId}
    {change : Presence → Presence}
    (told : user ∈ (hub.presenceDelivery time subject change).recipients) :
    (hub.afterUpdate time subject change).Finds user since := by
  have shares : subject ∈ hub.rooms.members.peers user := sound.members.mem_peers_comm.mp told
  exact .presence subject _ _ shares (Table.get?_insert_self _ _ _) reached (Nat.lt_succ_self _)

/-- Who is sent an event finds something, from any position that the logs had reached. -/
theorem Routes.finds (routes : hub.Routes operation user) {ids : List EventId}
    (only : hub.HasOnly ids) (distinct : (ids ++ operation.made).Nodup) (ordered : hub.IsOrdered)
    (reached : hub.HasReached since)
    (proper : ∀ room ∈ operation.typingRoom?, Id.parse .room room.text = .ok room) :
    (hub.perform operation).Finds user since := by
  obtain ⟨delivery, sent, told⟩ := routes
  -- The cases are the kinds of writes; no other operation sends anything.
  cases operation with
  | createRoom first second room creator =>
    rw [deliveries] at sent
    split at sent
    next => contradiction
    next new =>
      rw [Bool.not_eq_true] at new
      rw [perform, createRoom_eq new]
      have creation : hub.Change (hub.afterCreation room) := .creation room new
      have changes : hub.Changes
          ((hub.afterCreation room).setState first creator room (.create creator) "").2 :=
        .head creation (changes_setState _ _ _ _ _ _)
      rcases List.mem_append.mp sent with created | joined
      -- What is found when the room has been created is still there when the creator has joined.
      · have finds := finds_setState (Option.mem_toList.mp created) reached.messages told
        -- The second event has an identity of its own, so it does not take out the first.
        have makes : hub.Makes [first.eventId creator] _ :=
          (Change.makes_of_same creation rfl []).trans
            (makes_setState _ first creator room (.create creator) "")
        have made_last : (ids ++ [first.eventId creator] ++ [second.eventId creator]).Nodup := by
          rw [List.append_assoc]
          exact distinct
        have joining := (makes_setState _ second creator room (.member .join none)
          creator.text).additions _ (makes.hasOnly ids only) made_last
        exact finds.additions joining (changes.grows.sound only.sound)
          (changes.preserve (fun _ _ => Change.isOrdered) ordered)
          fun _ _ => isMember_setState fun _ => id
      · exact finds_setState (Option.mem_toList.mp joined) (reached.grows changes.grows).messages
          told
  | setState stamp sender room content key =>
    exact finds_setState (Option.mem_toList.mp sent) reached.messages told
  | sendMessage stamp sender room messageType body =>
    rw [deliveries] at sent
    split at sent
    next => contradiction
    next allowed =>
      obtain rfl := List.mem_singleton.mp sent
      rw [perform, sendMessage_eq allowed]
      exact finds_enter rfl reached.messages told
  | setTyping now typist room isTyping =>
    rw [deliveries] at sent
    split at sent
    next => contradiction
    next allowed =>
      obtain rfl := List.mem_singleton.mp sent
      rw [perform, setTyping_eq allowed]
      exact finds_afterTyping ordered (proper room rfl) reached.signals told
  | setAvailability now subject status statusMessage =>
    obtain rfl := List.mem_singleton.mp sent
    rw [perform, setAvailability_eq]
    exact finds_afterUpdate only.sound reached.presence told
  | setProfile now subject profile =>
    obtain rfl := List.mem_singleton.mp sent
    rw [perform, setProfile_eq]
    exact finds_afterUpdate only.sound reached.presence told
  | _ => contradiction

end ChatFeed.Hub
