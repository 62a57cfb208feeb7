import ChatFeed.Proofs.Collection.Ascending
import ChatFeed.Proofs.Hub.Answer
import ChatFeed.Proofs.Hub.Typing
import ChatFeed.Proofs.Log.Segment

/-!
# What a sync says of typing

A signal about typing is written into the segment of everyone who is in the room, over the one of
the same room, and the room is all that tells signals apart. So what a user holds is, for every room
from which they have ever received a signal, the last one they received, however often they have
come and gone meanwhile, and the rooms stand in the order in which the first signals came. A sync
gives those that are recent enough. Who has sent a signal is remembered with it; who is typing is
looked up when the answer is collected.

## Main definitions

* `Hub.received`: the signals that a user receives along operations
* `Hub.HoldsReceived`: a user holds the last signal of each room
* `Hub.typingEntry`: what is told of a signal

## Main results

* `Hub.HoldsReceived.perform`: whatever happens adds the signal that is received
* `Hub.HoldsReceived.missedTyping_eq`: what is told are the last signals, as far as they are missed
* `Hub.typing_entries_exact`: so it is in the answer to a sync
-/

namespace ChatFeed.Hub

/-- What a signal says: somebody has started or stopped typing in a room. -/
structure TypingSignal where
  room : RoomId
  typist : UserId
deriving DecidableEq

/-- The room that tells signals apart. -/
def signalRoom (signal : Indexed TypingSignal) : RoomId :=
  signal.item.room

/-- The signal that a user receives by an operation: one about typing in a room that they are in, if
it is not refused. -/
def received? (hub : Hub) (user : UserId) : Operation → Option (Indexed TypingSignal)
  | .setTyping now typist room isTyping =>
    match (hub.setTyping now typist room isTyping).1 with
    | .ok index =>
      if hub.rooms.members.isMember room user then some ⟨index, room, typist⟩ else none
    | .error _ => none
  | _ => none

/-- The signals that a user receives along operations, oldest first. -/
def received (start : Hub) (user : UserId) : List Operation → List (Indexed TypingSignal)
  | [] => []
  | operation :: rest =>
    (start.received? user operation).toList ++ (start.perform operation).received user rest

/-- What is held of a signal. -/
def heldSignal (signal : Indexed TypingSignal) : Indexed Envelope :=
  ⟨signal.index, typingEnvelope signal.item.room signal.item.typist⟩

/-- What is told of a signal: its sender, and who is typing in its room now. -/
def typingEntry (hub : Hub) (clock : RoomId → Instant) (signal : Indexed TypingSignal) : Event :=
  typingEvent signal.item.room signal.item.typist (clock signal.item.room).timestamp
    (hub.typingUsers signal.item.room)

variable {hub later start : Hub} {clock : RoomId → Instant} {now : Instant}
  {user typist : UserId} {room : RoomId} {signals : List (Indexed TypingSignal)} {since : Nat}
  {operations : List Operation}

theorem received_concat (start : Hub) (user : UserId) (operations : List Operation)
    (last : Operation) : start.received user (operations ++ [last]) =
      start.received user operations ++ ((start.run operations).received? user last).toList := by
  induction operations generalizing start with
  | nil => simp [received, run]
  | cons first rest ih =>
    rw [List.cons_append, received, ih, received, List.append_assoc]
    rfl

theorem signalRoom_of_received? {isTyping : Bool} {signal : Indexed TypingSignal}
    (given : hub.received? user (.setTyping now typist room isTyping) = some signal) :
    signalRoom signal = room := by
  rw [received?] at given
  split at given
  next =>
    obtain ⟨-, same⟩ := Option.ite_none_right_eq_some.mp given
    obtain rfl := Option.some.inj same
    rfl
  next => contradiction

/-! ### Who is typing -/

/-- Whoever types in a room makes no difference to who is typing in another one. -/
theorem typingUsers_setTyping_of_ne {other : RoomId} (distinct : other ≠ room) (now : Instant)
    (typist : UserId) (isTyping : Bool) :
    (hub.setTyping now typist other isTyping).2.typingUsers room = hub.typingUsers room := by
  obtain ⟨e, refused⟩ | ⟨-, entered⟩ := hub.setTyping_cases now typist other isTyping
  · rw [refused]
  · rw [entered]
    exact typingUsers_afterTyping_of_ne distinct

theorem Change.ascending_typingUsers (change : hub.Change later)
    (ascending : ∀ room, (hub.typingUsers room).Pairwise (· < ·)) :
    ∀ room, (later.typingUsers room).Pairwise (· < ·) := by
  cases change with
  | mux mux => exact ascending
  | creation room new => exact ascending
  | state stamp sender room content key state target found named => exact ascending
  | message stamp sender room messageType body allowed => exact ascending
  | presence time user change => exact ascending
  | typing now typist room isTyping allowed =>
    intro other
    by_cases same : room = other
    · subst same
      have set : (hub.typing.insert room (hub.typingAfter typist room isTyping)).get? room =
          some (hub.typingAfter typist room isTyping) := Table.get?_insert_self _ _ _
      change ((hub.typing.insert room _).getD room []).Pairwise (· < ·)
      rw [Table.getD, set, Option.getD_some, typingAfter]
      split
      next => exact Ascending.pairwise_insert (ascending room) typist
      next => exact Ascending.pairwise_erase (ascending room) typist
    · rw [typingUsers_afterTyping_of_ne same]
      exact ascending other

/-- Nobody is listed twice as typing. -/
theorem ascending_typingUsers_run (config : Config) (sink : Option Sink)
    (operations : List Operation) (room : RoomId) :
    (((ofConfig config sink).run operations).typingUsers room).Pairwise (· < ·) :=
  (changes_run _ operations).preserve (fun _ _ => Change.ascending_typingUsers)
    (fun _ => List.Pairwise.nil) room

/-! ### What is held -/

/-- Whether a user holds the last signal of each room of those they have received, in the order in
which the rooms first came up. -/
structure HoldsReceived (hub : Hub) (user : UserId) (signals : List (Indexed TypingSignal)) :
    Prop where
  filed : hub.signals.segments.IsFiled
  held : hub.signals.segments.held user.text = (standing signalRoom signals).map heldSignal

/-- Rooms tell signals apart. -/
theorem entryId_heldSignal_eq_iff {signal other : Indexed TypingSignal} :
    Segment.entryId (heldSignal signal) = Segment.entryId (heldSignal other) ↔
      signalRoom signal = signalRoom other :=
  ⟨typingEventId_injective, congrArg typingEventId⟩

theorem HoldsReceived.of_sameTyping (holds : hub.HoldsReceived user signals)
    (same : hub.SameTyping later) : later.HoldsReceived user signals where
  filed := same.signals ▸ holds.filed
  held := same.signals ▸ holds.held

theorem HoldsReceived.setTyping (holds : hub.HoldsReceived user signals) (now : Instant)
    (typist : UserId) (room : RoomId) (isTyping : Bool) :
    (hub.perform (.setTyping now typist room isTyping)).HoldsReceived user
      (signals ++ (hub.received? user (.setTyping now typist room isTyping)).toList) := by
  rw [Hub.perform, received?]
  obtain ⟨e, refused⟩ | ⟨-, entered⟩ := hub.setTyping_cases now typist room isTyping
  · rw [refused]
    simpa using holds
  rw [entered]
  refine ⟨holds.filed.record _ _ _, ?_⟩
  have written : (hub.afterTyping now typist room isTyping).signals.segments.held user.text =
      if user.text ∈ (hub.rooms.members.members room).map (·.text) then
        putIn Segment.entryId (heldSignal ⟨hub.signalCounter.current, room, typist⟩)
          (hub.signals.segments.held user.text)
      else hub.signals.segments.held user.text := holds.filed.held_record _ _ _ _
  have listed : user.text ∈ (hub.rooms.members.members room).map (·.text) ↔
      hub.rooms.members.isMember room user = true := by
    rw [MemberIndex.isMember_iff, List.mem_map_of_injective fun _ _ => Id.text_injective]
  rw [written]
  simp only [listed]
  split
  next =>
    rw [holds.held, Option.toList_some, standing_concat,
      map_putIn heldSignal fun other => entryId_heldSignal_eq_iff]
  next => rw [Option.toList_none, List.append_nil, holds.held]

/-- Whatever happens adds the signal that is received. -/
theorem HoldsReceived.perform (holds : hub.HoldsReceived user signals) (operation : Operation) :
    (hub.perform operation).HoldsReceived user
      (signals ++ (hub.received? user operation).toList) := by
  obtain ⟨now, typist, room, isTyping, rfl⟩ | ⟨other, same⟩ :=
    hub.setTyping_or_sameTyping operation
  · exact holds.setTyping now typist room isTyping
  · have nothing : hub.received? user operation = none := by
      cases operation with
      | setTyping now typist room isTyping => exact absurd rfl (other now typist room isTyping)
      | _ => rfl
    rw [nothing, Option.toList_none, List.append_nil]
    exact holds.of_sameTyping same

/-- A user holds the last signal of each room of those they have received. -/
theorem holdsReceived_run (config : Config) (sink : Option Sink) (user : UserId)
    (operations : List Operation) : ((ofConfig config sink).run operations).HoldsReceived user
      ((ofConfig config sink).received user operations) := by
  induction operations using List.reverseRecOn with
  | nil => exact ⟨Segments.isFiled_empty, rfl⟩
  | append_singleton front last ih =>
    rw [run_concat, received_concat]
    exact ih.perform last

/-! ### What is told -/

/-- Of a signal is told what is typed in its room, if the room has a proper name. -/
theorem tell_heldSignal (hub : Hub) (clock : RoomId → Instant) (signal : Indexed TypingSignal) :
    ((Id.parse? .room (heldSignal signal).item.context).map fun room =>
      ({ id := (heldSignal signal).item.id
         room := some room
         sender := (heldSignal signal).item.sender
         time := (clock room).timestamp
         content := .typing (hub.typingUsers room) } : Event)) =
      if (signalRoom signal).IsProper then some (hub.typingEntry clock signal) else none := by
  change (Id.parse? .room (signalRoom signal).text).map _ = _
  rw [Id.parse?_text]
  split <;> rfl

/-- What is told of typing are the last signals of each room, of those rooms that have a proper name
and as far as they are missed. -/
theorem HoldsReceived.missedTyping_eq (holds : hub.HoldsReceived user signals)
    (ordered : hub.IsOrdered) (clock : RoomId → Instant) (since : Nat) :
    hub.missedTyping clock user since =
      ((standing signalRoom signals).filter fun signal =>
        since ≤ signal.index ∧ (signalRoom signal).IsProper).map (hub.typingEntry clock) := by
  have below : ∀ signal ∈ standing signalRoom signals,
      signal.index < hub.signalCounter.current := by
    intro signal mem
    refine (ordered.signals user.text).below (heldSignal signal) ?_
    change _ ∈ hub.signals.segments.held user.text
    rw [holds.held]
    exact List.mem_map_of_mem mem
  rw [missedTyping, SignalLog.range_eq, holds.held, List.filter_map, List.map_map,
    List.filterMap_map, ← List.filterMap_eq_map, List.filterMap_filter, List.filterMap_filter]
  refine List.filterMap_congr fun signal mem => ?_
  have missed : since ≤ (heldSignal signal).index ∧
      (heldSignal signal).index < hub.signalCounter.current ↔ since ≤ signal.index :=
    and_iff_left (below signal mem)
  simp only [Function.comp_apply, decide_eq_true_eq, missed, tell_heldSignal]
  by_cases recent : since ≤ signal.index
  · simp only [recent, if_true, true_and]
  · simp only [recent, if_false, false_and]

/-- An entry is there for the last signal of a room, if the room has a proper name and the signal is
missed. -/
theorem HoldsReceived.mem_missedTyping_iff (holds : hub.HoldsReceived user signals)
    (ordered : hub.IsOrdered) {entry : Event} :
    entry ∈ hub.missedTyping clock user since ∧ entry.room = some room ↔
      room.IsProper ∧ ∃ last, latest? signalRoom signals room = some last ∧ since ≤ last.index ∧
        entry = typingEvent room last.item.typist (clock room).timestamp
          (hub.typingUsers room) := by
  rw [holds.missedTyping_eq ordered, List.mem_map]
  simp only [List.mem_filter, mem_standing_iff, decide_eq_true_eq]
  constructor
  · rintro ⟨⟨last, ⟨is_last, recent, proper⟩, rfl⟩, in_room⟩
    obtain rfl : signalRoom last = room := Option.some.inj in_room
    exact ⟨proper, last, is_last, recent, rfl⟩
  · rintro ⟨proper, last, is_last, recent, rfl⟩
    obtain rfl : signalRoom last = room := (mem_of_latest? is_last).2
    exact ⟨⟨last, ⟨is_last, recent, proper⟩, rfl⟩, rfl⟩

/-- What is told stands in the order in which the first signals of the rooms were received. -/
theorem HoldsReceived.rooms_missedTyping (holds : hub.HoldsReceived user signals)
    (ordered : hub.IsOrdered) (clock : RoomId → Instant) (since : Nat) :
    ((hub.missedTyping clock user since).map (·.room)).Sublist
      ((signals.map signalRoom).eraseDups.map some) := by
  rw [holds.missedTyping_eq ordered, List.map_map, ← map_key_standing, List.map_map]
  exact List.filter_sublist.map _

/-- A signal about another room is not the last one of a room. -/
theorem latest?_received_of_ne {other : RoomId} (distinct : other ≠ room) (isTyping : Bool) :
    latest? signalRoom
        (signals ++ (hub.received? user (.setTyping now typist other isTyping)).toList) room =
      latest? signalRoom signals room := by
  cases given : hub.received? user (.setTyping now typist other isTyping) with
  | none => rw [Option.toList_none, List.append_nil]
  | some signal =>
    have about_other : signalRoom signal ≠ room := signalRoom_of_received? given ▸ distinct
    rw [Option.toList_some, latest?_concat, if_neg about_other]

/-- A signal about another room leaves what is told of a room at some time as it is. -/
theorem HoldsReceived.mem_missedTyping_setTyping_iff (holds : hub.HoldsReceived user signals)
    (ordered : hub.IsOrdered) {other : RoomId} (distinct : other ≠ room)
    {clock' : RoomId → Instant} (same_time : clock' room = clock room) (isTyping : Bool)
    {entry : Event} (in_room : entry.room = some room) :
    entry ∈ (hub.setTyping now typist other isTyping).2.missedTyping clock' user since ↔
      entry ∈ hub.missedTyping clock user since := by
  have before : entry ∈ hub.missedTyping clock user since ∧ entry.room = some room ↔ _ :=
    holds.mem_missedTyping_iff ordered
  have holds_after := holds.setTyping now typist other isTyping
  rw [Hub.perform] at holds_after
  -- Either way the entry is the one for the last signal of the room, which is the same.
  have changed : hub.Changes (hub.setTyping now typist other isTyping).2 :=
    hub.changes_perform (.setTyping now typist other isTyping)
  have ordered_after := changed.preserve (fun _ _ => Change.isOrdered) ordered
  have after : entry ∈ (hub.setTyping now typist other isTyping).2.missedTyping clock' user since ∧
      entry.room = some room ↔ _ := holds_after.mem_missedTyping_iff ordered_after
  rw [latest?_received_of_ne distinct, same_time, typingUsers_setTyping_of_ne distinct,
    ← before, and_iff_left in_room, and_iff_left in_room] at after
  exact after

/-! ### What a sync says -/

/-- The answer to a sync has been collected from the hub in which the sync was started or a later
one, and by whatever operations that hub has come about, it tells the user of typing as follows.
There is one entry for each room at most, of rooms that have a proper name. There is one for such a
room just if the last signal that the user received from it has at least the signal position in the
token that was passed; then it names whoever sent that signal, and those who are typing in the room
when the answer is collected, each of them once and in order. The entries stand in the order in
which the user first received a signal of their rooms. A signal about one room makes no difference
to what is told of another one. -/
theorem typing_entries_exact (config : Config) (sink : Option Sink) (operations : List Operation)
    (user : UserId) (token : Option String) (timeout : Option Nat) (collected : Moment)
    (response : SyncResponse)
    (answers : ((ofConfig config sink).run operations).Answers user token timeout collected
      response) :
    let start := ofConfig config sink
    (∃ more, collected.hub = start.run (operations ++ more)) ∧
    ∃ since, (start.run operations).since token = .ok since ∧
      ∀ history, collected.hub = start.run history →
      let signals := start.received user history
      (response.typing.map (·.room)).Nodup ∧
      (∀ entry ∈ response.typing, ∃ room, room.IsProper ∧ entry.room = some room) ∧
      (∀ room entry, entry ∈ response.typing ∧ entry.room = some room ↔
        room.IsProper ∧ ∃ last, latest? signalRoom signals room = some last ∧
          since.signals ≤ last.index ∧ entry = typingEvent room last.item.typist
            (collected.clock room).timestamp (collected.hub.typingUsers room)) ∧
      (∀ room, (collected.hub.typingUsers room).Pairwise (· < ·)) ∧
      (response.typing.map (·.room)).Sublist ((signals.map signalRoom).eraseDups.map some) ∧
      ∀ room now typist other isTyping clock later, other ≠ room →
        clock room = collected.clock room →
        (collected.hub.setTyping now typist other isTyping).2.collect clock user since =
          .ok later →
        ∀ entry, entry.room = some room → (entry ∈ later.typing ↔ entry ∈ response.typing) := by
  intro start
  obtain ⟨⟨more, reached⟩, since, read, gives⟩ := answers.exists_collect
  refine ⟨⟨more, by rw [reached, run_append]⟩, since, read, ?_⟩
  intro history is_history signals
  have holds : collected.hub.HoldsReceived user signals := by
    rw [is_history]
    exact holdsReceived_run config sink user history
  have ordered : collected.hub.IsOrdered := by
    rw [is_history]
    exact isOrdered_run config sink history
  have ascending (room : RoomId) : (collected.hub.typingUsers room).Pairwise (· < ·) := by
    rw [is_history]
    exact ascending_typingUsers_run config sink history room
  obtain ⟨-, typing, -⟩ := parts_of_collect gives
  have first_order := holds.rooms_missedTyping ordered collected.clock since.signals
  rw [← typing] at first_order
  refine ⟨?_, ?_, fun room entry => ?_, ascending, first_order, ?_⟩
  · exact first_order.nodup ((nodup_eraseDups _).map (Option.some_injective _))
  · intro entry mem
    rw [typing, holds.missedTyping_eq ordered] at mem
    obtain ⟨signal, given, rfl⟩ := List.mem_map.mp mem
    exact ⟨signalRoom signal, (of_decide_eq_true (List.mem_filter.mp given).2).2, rfl⟩
  · rw [typing]
    exact holds.mem_missedTyping_iff ordered
  · intro room now typist other isTyping clock later distinct same_time collected_later entry
      in_room
    obtain ⟨-, typing_later, -⟩ := parts_of_collect collected_later
    rw [typing_later, typing]
    exact holds.mem_missedTyping_setTyping_iff ordered distinct same_time isTyping in_room

section TwoRooms

open Reader

/-- A room whose name goes on where that of the lobby ends. -/
def lobbyBar : RoomId := Id.ofParts .room "lobby.bar" "example.org"

/-- The host types in two rooms, a guest starts typing in the first one and leaves it, and the host
stops typing there. -/
def twoRooms : List Operation :=
  [.createRoom (drawn 0) (drawn 1) lobby host,
    .setState (drawn 2) host lobby (.member .join none) guest.text,
    .createRoom (drawn 3) (drawn 4) lobbyBar host,
    .setState (drawn 5) host lobbyBar (.member .join none) guest.text,
    .setTyping epoch host lobby true, .setTyping epoch host lobbyBar true,
    .setTyping epoch guest lobby true,
    .setState (drawn 6) guest lobby (.member .leave none) guest.text,
    .setTyping epoch host lobby false]

/-- The guest is told of both rooms: of the first by their own signal, which is the last one that
reached them, and of the second by the signal of the host. -/
theorem typing_entries_exact_twoRooms :
    let hub := (ofConfig smallPages none).run twoRooms
    ∃ response, hub.Answers guest none (some 0) ⟨hub, stopped⟩ response ∧
      (response.typing.map (·.room)).Nodup ∧
      typingEvent lobby guest epoch.timestamp [guest] ∈ response.typing ∧
      typingEvent lobbyBar host epoch.timestamp [host] ∈ response.typing := by
  intro hub
  have given : (hub.collect stopped guest {}).toOption.isSome := by decide +kernel
  obtain ⟨response, collected⟩ := exists_of_isSome_toOption given
  have answers : hub.Answers guest none (some 0) ⟨hub, stopped⟩ response :=
    .atOnce (sync_without_wait rfl collected)
  obtain ⟨-, since, read, told⟩ :=
    typing_entries_exact smallPages none twoRooms guest none (some 0) ⟨hub, stopped⟩ response
      answers
  obtain rfl := Except.ok.inj read
  obtain ⟨nodup, -, entry_iff, -, -, -⟩ := told twoRooms rfl
  refine ⟨response, answers, nodup, ?_, ?_⟩
  · refine ((entry_iff lobby _).mpr ⟨by decide +kernel, ⟨2, lobby, guest⟩, ?_⟩).1
    decide +kernel
  · refine ((entry_iff lobbyBar _).mpr ⟨by decide +kernel, ⟨1, lobbyBar, host⟩, ?_⟩).1
    decide +kernel

end TwoRooms

end ChatFeed.Hub
