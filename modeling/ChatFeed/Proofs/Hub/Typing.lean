import ChatFeed.Proofs.Hub.Audience

/-!
# Who is told of typing

A signal about typing is held for those who were in the room when it was entered, and what it tells
is looked up when it is read. So whoever has left a room is still given the signals from before, and
with them who is typing there now. But from then on no other room is added to those of which they
are told, and of the others they learn nothing.

## Main definitions

* `Hub.HoldsSignal`: a user holds a signal about typing in a room
* `Hub.Signals`: an operation signals typing to a user
* `Hub.SignalledSince`: operations have signalled typing to a user

## Main results

* `Hub.holdsSignal_run_iff`: users hold the signals that were entered when they were in the room
* `Hub.typing_of_signalled_since`: what a user is told of typing
* `Hub.exists_typing_after_leaving`: whoever has left a room may be told who is typing there
-/

namespace ChatFeed.Hub

variable {hub later start : Hub} {user typist : UserId} {room signalled : RoomId}
  {since : Nat} {isTyping : Bool} {operations : List Operation} {now : Instant}
  {clock : RoomId → Instant}

/-! ### Signals -/

/-- Rooms have signals of their own. -/
theorem typingEventId_injective (same : typingEventId room = typingEventId signalled) :
    room = signalled := by
  have chars := congrArg String.toList (congrArg Id.text same)
  rw [typingEventId, typingEventId, Id.text_ofParts, Id.text_ofParts, String.toList_ofList,
    String.toList_ofList] at chars
  simp only [String.toList_append, List.append_assoc, List.cons.injEq, true_and,
    List.append_cancel_left_eq] at chars
  exact Id.eq_of_joined chars

/-- What is held of a signal about typing. -/
def typingEnvelope (room : RoomId) (typist : UserId) : Envelope :=
  ⟨room.text, typingEventId room, typist, Event.typingType⟩

/-- Whether all that users hold are signals about typing. -/
def HoldsTyping (hub : Hub) : Prop :=
  ∀ recipient, ∀ entry ∈ hub.signals.segments.held recipient,
    ∃ room typist, entry.item = typingEnvelope room typist

theorem Change.holdsTyping (change : hub.Change later) (holds : hub.HoldsTyping) :
    later.HoldsTyping := by
  cases change with
  | mux mux => exact holds
  | creation room new => exact holds
  | state stamp sender room content key state target found named => exact holds
  | message stamp sender room messageType body allowed => exact holds
  | presence time user change => exact holds
  | typing now typist room isTyping allowed =>
    intro recipient entry mem
    rcases Segments.eq_or_mem_of_mem_held_record mem with ⟨-, rfl⟩ | old
    · exact ⟨room, typist, rfl⟩
    · exact holds recipient entry old

theorem holdsTyping_run (config : Config) (sink : Option Sink) (operations : List Operation) :
    ((ofConfig config sink).run operations).HoldsTyping :=
  (changes_run _ operations).preserve (fun _ _ => Change.holdsTyping)
    fun _ _ mem => absurd mem List.not_mem_nil

/-- Whether a user holds a signal about typing in a room, at the index `since` or a later one. -/
def HoldsSignal (hub : Hub) (user : UserId) (room : RoomId) (since : Nat) : Prop :=
  ∃ index typist, since ≤ index ∧
    ⟨index, typingEnvelope room typist⟩ ∈ hub.signals.segments.held user.text

/-- Members hold a signal once it is entered. What it replaces was about the same room, so nobody is
left without one. -/
theorem holdsSignal_afterTyping_iff (ordered : hub.IsOrdered) :
    (hub.afterTyping now typist signalled isTyping).HoldsSignal user room since ↔
      hub.HoldsSignal user room since ∨ signalled = room ∧ since ≤ hub.signalCounter.current ∧
        hub.rooms.members.isMember room user = true := by
  have sound : hub.signals.segments.IsSound hub.signalCounter.advance.current :=
    ordered.signals.mono (Nat.le_succ _)
  have newest : hub.signalCounter.current < hub.signalCounter.advance.current :=
    Nat.lt_succ_self _
  constructor
  · rintro ⟨index, found, above, held⟩
    rcases Segments.eq_or_mem_of_mem_held_record held with ⟨listed, same⟩ | old
    -- It has just been entered, for somebody in the room, or it was held before.
    · obtain ⟨rfl, same_envelope⟩ := Indexed.mk.inj same
      obtain rfl : room = signalled := Id.text_injective (congrArg Envelope.context same_envelope)
      obtain ⟨member, mem, same_text⟩ := List.mem_map.mp listed
      obtain rfl := Id.text_injective same_text
      exact .inr ⟨rfl, above, MemberIndex.isMember_iff.mpr mem⟩
    · exact .inl ⟨index, found, above, old⟩
  · have given (listed : user.text ∈ (hub.rooms.members.members signalled).map (·.text)) :
        ⟨hub.signalCounter.current, typingEnvelope signalled typist⟩ ∈
          (hub.afterTyping now typist signalled isTyping).signals.segments.held user.text :=
      sound.mem_held_record newest listed
    rintro (⟨index, found, above, held⟩ | ⟨rfl, above, member⟩)
    · rcases sound.mem_held_record_or newest held with kept | ⟨listed, replaced⟩
      · exact ⟨index, found, above, kept⟩
      -- What replaces it is held at a later index.
      · obtain rfl : room = signalled := typingEventId_injective replaced
        have early : index < hub.signalCounter.current := (ordered.signals user.text).below _ held
        exact ⟨_, typist, Nat.le_of_lt (Nat.lt_of_le_of_lt above early), given listed⟩
    · have mem := MemberIndex.isMember_iff.mp member
      exact ⟨_, typist, above, given (List.mem_map_of_mem mem)⟩

/-! ### What operations signal -/

/-- Whether nothing is different about typing: neither the signals nor who is typing. -/
structure SameTyping (hub later : Hub) : Prop where
  signals : later.signals = hub.signals
  typing : later.typing = hub.typing

theorem SameTyping.trans {middle : Hub} (first : hub.SameTyping middle)
    (second : middle.SameTyping later) : hub.SameTyping later where
  signals := second.signals.trans first.signals
  typing := second.typing.trans first.typing

theorem sameTyping_setState (hub : Hub) (stamp : Stamp) (sender : UserId) (room : RoomId)
    (content : StateContent) (key : String) :
    hub.SameTyping (hub.setState stamp sender room content key).2 := by
  obtain ⟨e, refused⟩ | ⟨state, target, -, -, set⟩ :=
    hub.setState_cases stamp sender room content key
  · rw [refused]
    exact ⟨rfl, rfl⟩
  · rw [set]
    exact ⟨rfl, rfl⟩

theorem sameTyping_createRoom (hub : Hub) (first second : Stamp) (room : RoomId)
    (creator : UserId) : hub.SameTyping (hub.createRoom first second room creator).2 := by
  apply hub.createRoom_preserve first second room creator ⟨rfl, rfl⟩
  · intro _
    exact ⟨rfl, rfl⟩
  · intro written stamp content key same
    exact same.trans (written.sameTyping_setState stamp creator room content key)

/-- Only setting it makes a difference to typing. -/
theorem sameTyping_perform (hub : Hub) {operation : Operation}
    (other : ∀ now typist room isTyping, operation ≠ .setTyping now typist room isTyping) :
    hub.SameTyping (hub.perform operation) := by
  by_cases reading : operation.IsReading
  · obtain ⟨mux, changed⟩ := hub.perform_reading reading
    rw [changed]
    exact ⟨rfl, rfl⟩
  cases operation with
  | createRoom first second room creator =>
    exact hub.sameTyping_createRoom first second room creator
  | setState stamp sender room content key =>
    exact hub.sameTyping_setState stamp sender room content key
  | sendMessage stamp sender room messageType body =>
    rw [perform]
    obtain ⟨e, refused⟩ | ⟨-, sent⟩ := hub.sendMessage_cases stamp sender room messageType body
    · rw [refused]
      exact ⟨rfl, rfl⟩
    · rw [sent]
      exact ⟨rfl, rfl⟩
  | setTyping now typist room isTyping => exact absurd rfl (other now typist room isTyping)
  | setAvailability now user availability statusMessage => exact ⟨rfl, rfl⟩
  | setProfile now user profile => exact ⟨rfl, rfl⟩
  | _ => exact (reading trivial).elim

/-- An operation sets typing, or makes no difference to it. -/
theorem setTyping_or_sameTyping (hub : Hub) (operation : Operation) :
    (∃ now typist room isTyping, operation = .setTyping now typist room isTyping) ∨
      (∀ now typist room isTyping, operation ≠ .setTyping now typist room isTyping) ∧
        hub.SameTyping (hub.perform operation) := by
  by_cases sets : ∃ now typist room isTyping, operation = .setTyping now typist room isTyping
  · exact .inl sets
  · simp only [not_exists] at sets
    exact .inr ⟨sets, hub.sameTyping_perform sets⟩

/-- Whether an operation signals to a user who is in a room that somebody has started or stopped
typing there, at the index `since` or a later one. -/
def Signals (hub : Hub) (operation : Operation) (user : UserId) (room : RoomId) (since : Nat) :
    Prop :=
  ∃ now typist isTyping index, operation = .setTyping now typist room isTyping ∧
    (hub.setTyping now typist room isTyping).1 = .ok index ∧ since ≤ index ∧
    hub.rooms.members.isMember room user = true

/-- A user holds a signal after an operation if they held one before, or it signals to them. -/
theorem holdsSignal_perform_iff (ordered : hub.IsOrdered) (operation : Operation) :
    (hub.perform operation).HoldsSignal user room since ↔
      hub.HoldsSignal user room since ∨ hub.Signals operation user room since := by
  obtain ⟨now, typist, signalled, isTyping, rfl⟩ | ⟨other, same⟩ :=
    hub.setTyping_or_sameTyping operation
  · rw [perform]
    obtain ⟨e, refused⟩ | ⟨-, entered⟩ := hub.setTyping_cases now typist signalled isTyping
    -- Typing that is refused signals nothing and leaves the hub alone.
    · rw [refused]
      refine (or_iff_left ?_).symm
      rintro ⟨_, _, _, index, same, accepted, -⟩
      obtain ⟨rfl, rfl, rfl, rfl⟩ := Operation.setTyping.inj same
      rw [refused] at accepted
      contradiction
    · rw [entered, holdsSignal_afterTyping_iff ordered]
      refine or_congr_right ⟨?_, ?_⟩
      · rintro ⟨rfl, above, member⟩
        exact ⟨now, typist, isTyping, _, rfl, by rw [entered], above, member⟩
      · rintro ⟨_, _, _, index, same, accepted, above, member⟩
        obtain ⟨rfl, rfl, rfl, rfl⟩ := Operation.setTyping.inj same
        rw [entered] at accepted
        obtain rfl := Except.ok.inj accepted
        exact ⟨rfl, above, member⟩
  · rw [HoldsSignal, same.signals]
    refine (or_iff_left ?_).symm
    rintro ⟨now, typist, isTyping, _, sets, -⟩
    exact other now typist room isTyping sets

/-- Whether one of the operations has signalled typing in a room to a user who was in it, at the
index `since` or a later one. -/
def SignalledSince (start : Hub) (operations : List Operation) (user : UserId) (room : RoomId)
    (since : Nat) : Prop :=
  ∃ earlier operation, earlier ++ [operation] <+: operations ∧
    (start.run earlier).Signals operation user room since

theorem signalledSince_concat {last : Operation} :
    start.SignalledSince (operations ++ [last]) user room since ↔
      start.SignalledSince operations user room since ∨
        (start.run operations).Signals last user room since :=
  exists_step_concat_iff

/-- Users hold the signals that were entered when they were in the room. -/
theorem holdsSignal_run_iff (config : Config) (sink : Option Sink) (operations : List Operation) :
    ((ofConfig config sink).run operations).HoldsSignal user room since ↔
      (ofConfig config sink).SignalledSince operations user room since := by
  induction operations using List.reverseRecOn with
  | nil =>
    refine iff_of_false ?_ ?_
    · rintro ⟨_, _, -, held⟩
      exact absurd held List.not_mem_nil
    · rintro ⟨earlier, operation, begins, -⟩
      have nothing : earlier ++ [operation] = [] := List.prefix_nil.mp begins
      simp at nothing
  | append_singleton front last ih =>
    rw [run_concat, signalledSince_concat, ← ih]
    exact holdsSignal_perform_iff (isOrdered_run config sink front) last

/-! ### What is told -/

/-- A user is told who is typing now in the rooms whose signals they hold. -/
theorem exists_of_mem_missedTyping (holds : hub.HoldsTyping) {entry : Event}
    (mem : entry ∈ hub.missedTyping clock user since) :
    ∃ room, entry.room = some room ∧ entry.content = .typing (hub.typingUsers room) ∧
      hub.HoldsSignal user room since := by
  obtain ⟨index, envelope, room, above, -, held, parsed, rfl⟩ := mem_missedTyping_iff.mp mem
  obtain ⟨held_room, typist, same⟩ := holds user.text _ held
  have same_envelope : envelope = typingEnvelope held_room typist := same
  subst same_envelope
  obtain rfl : room = held_room := Id.text_injective (Id.text_of_parse? parsed)
  exact ⟨room, rfl, rfl, index, typist, above, held⟩

theorem exists_mem_missedTyping (ordered : hub.IsOrdered)
    (proper : Id.parse .room room.text = .ok room) (holds : hub.HoldsSignal user room since)
    (clock : RoomId → Instant) :
    ∃ entry ∈ hub.missedTyping clock user since, entry.room = some room := by
  obtain ⟨index, typist, above, held⟩ := holds
  have below : index < hub.signalCounter.current := (ordered.signals user.text).below _ held
  have parsed : Id.parse? .room room.text = some room := by
    rw [Id.parse?, proper]
    rfl
  exact ⟨_, mem_missedTyping_iff.mpr ⟨index, _, room, above, below, held, parsed, rfl⟩, rfl⟩

theorem typingUsers_afterTyping_of_ne {other : RoomId} (distinct : room ≠ other) :
    (hub.afterTyping now typist room isTyping).typingUsers other = hub.typingUsers other := by
  have untouched : (hub.typing.insert room (hub.typingAfter typist room isTyping)).get? other =
      hub.typing.get? other := Table.get?_insert_of_ne _ distinct _
  rw [typingUsers, typingUsers, Table.getD, Table.getD, ← untouched]
  rfl

/-- Whoever is not in a room is given the same signals as before. -/
theorem range_afterTyping (ordered : hub.IsOrdered)
    (outside : hub.rooms.members.isMember room user = false) :
    ((hub.afterTyping now typist room isTyping).signals.range user.text since
        (hub.afterTyping now typist room isTyping).signalCounter.current).1 =
      (hub.signals.range user.text since hub.signalCounter.current).1 := by
  have unlisted : user.text ∉ (hub.rooms.members.members room).map (·.text) := by
    intro listed
    obtain ⟨member, mem, same⟩ := List.mem_map.mp listed
    obtain rfl := Id.text_injective same
    have inside := MemberIndex.isMember_iff.mpr mem
    rw [outside] at inside
    contradiction
  have untouched : (hub.afterTyping now typist room isTyping).signals.segments.held user.text =
      hub.signals.segments.held user.text := Segments.held_record_of_notMem unlisted
  rw [SignalLog.range_eq, SignalLog.range_eq, untouched]
  congr 1
  -- What is held lies before the old end of the signals, so the new end cuts nothing off either.
  refine List.filter_congr fun entry mem => ?_
  have early : entry.index < hub.signalCounter.current :=
    (ordered.signals user.text).below entry mem
  have still_early :
      entry.index < (hub.afterTyping now typist room isTyping).signalCounter.current :=
    Nat.lt_succ_of_lt early
  simp [early, still_early]

/-- Whoever is not in a room is told of the same rooms as before. -/
theorem rooms_missedTyping_afterTyping (ordered : hub.IsOrdered)
    (outside : hub.rooms.members.isMember room user = false) :
    ((hub.afterTyping now typist room isTyping).missedTyping clock user since).map (·.room) =
      (hub.missedTyping clock user since).map (·.room) := by
  rw [missedTyping, missedTyping, range_afterTyping ordered outside, List.map_filterMap,
    List.map_filterMap]
  refine List.filterMap_congr fun envelope _ => ?_
  simp only [Option.map_map]
  rfl

/-- Whoever is not in a room, and is told nothing of it, is told the same as before. -/
theorem missedTyping_afterTyping (ordered : hub.IsOrdered)
    (outside : hub.rooms.members.isMember room user = false)
    (absent : ∀ entry ∈ hub.missedTyping clock user since, entry.room ≠ some room) :
    (hub.afterTyping now typist room isTyping).missedTyping clock user since =
      hub.missedTyping clock user since := by
  rw [missedTyping, range_afterTyping ordered outside]
  refine List.filterMap_congr fun envelope mem => ?_
  cases parsed : Id.parse? .room envelope.context with
  | none => rfl
  | some other =>
    -- A signal about the room itself would be told.
    have distinct : room ≠ other := by
      rintro rfl
      have told : (⟨envelope.id, some room, envelope.sender, (clock room).timestamp,
          .typing (hub.typingUsers room)⟩ : Event) ∈ hub.missedTyping clock user since := by
        refine List.mem_filterMap.mpr ⟨envelope, mem, ?_⟩
        rw [parsed]
        rfl
      exact absent _ told rfl
    rw [Option.map_some, Option.map_some, typingUsers_afterTyping_of_ne distinct]

/-- A reader who collects from a position is told who is typing now, in just the rooms in which
typing has been signalled since, while they were in the room. What is set in a room in which they
are not adds no room to these, and makes no difference to what they are told of other rooms. -/
theorem typing_of_signalled_since (config : Config) (sink : Option Sink)
    (operations : List Operation) (clock : RoomId → Instant) (user : UserId) (since : Cursors)
    (response : SyncResponse)
    (collected : ((ofConfig config sink).run operations).collect clock user since =
      .ok response) :
    let start := ofConfig config sink
    let hub := start.run operations
    (∀ entry ∈ response.typing, ∃ room, entry.room = some room ∧
      entry.content = .typing (hub.typingUsers room) ∧
      start.SignalledSince operations user room since.signals) ∧
    (∀ room, Id.parse .room room.text = .ok room →
      start.SignalledSince operations user room since.signals →
      ∃ entry ∈ response.typing, entry.room = some room) ∧
    ∀ room, hub.rooms.members.isMember room user = false → ∀ now typist isTyping later,
      (hub.setTyping now typist room isTyping).2.collect clock user since = .ok later →
      later.typing.map (·.room) = response.typing.map (·.room) ∧
        ((∀ entry ∈ response.typing, entry.room ≠ some room) →
          later.typing = response.typing) := by
  intro start hub
  have ordered : hub.IsOrdered := isOrdered_run config sink operations
  have holds : hub.HoldsTyping := holdsTyping_run config sink operations
  obtain ⟨-, typing, -⟩ := parts_of_collect collected
  rw [typing]
  refine ⟨?_, ?_, ?_⟩
  · intro entry mem
    obtain ⟨room, in_room, content, held⟩ := exists_of_mem_missedTyping holds mem
    exact ⟨room, in_room, content, (holdsSignal_run_iff config sink operations).mp held⟩
  · intro room proper signalled
    have held := (holdsSignal_run_iff config sink operations).mpr signalled
    exact exists_mem_missedTyping ordered proper held clock
  · intro room outside now typist isTyping later collected_later
    obtain ⟨-, typing_later, -⟩ := parts_of_collect collected_later
    rw [typing_later]
    obtain ⟨e, refused⟩ | ⟨-, signalled⟩ := hub.setTyping_cases now typist room isTyping
    · rw [refused]
      exact ⟨rfl, fun _ => rfl⟩
    · rw [signalled]
      exact ⟨rooms_missedTyping_afterTyping ordered outside,
        missedTyping_afterTyping ordered outside⟩

section Departure

open Reader

/-- The host starts typing, and a guest leaves. -/
def departure : List Operation :=
  [.createRoom (drawn 0) (drawn 1) lobby host,
    .setState (drawn 2) host lobby (.member .join none) guest.text,
    .setTyping epoch host lobby true,
    .setState (drawn 3) guest lobby (.member .leave none) guest.text]

theorem exists_collect_departure :
    let hub := (ofConfig smallPages none).run departure
    (∃ before, hub.collect stopped guest {} = .ok before) ∧
      ∃ later, (hub.setTyping epoch host lobby false).2.collect stopped guest {} = .ok later := by
  intro hub
  have given : (hub.collect stopped guest {}).toOption.isSome ∧
      ((hub.setTyping epoch host lobby false).2.collect stopped guest {}).toOption.isSome := by
    decide +kernel
  exact ⟨exists_of_isSome_toOption given.1, exists_of_isSome_toOption given.2⟩

theorem typing_of_signalled_since_departure :
    let start := ofConfig smallPages none
    let hub := start.run departure
    ∃ response, hub.collect stopped guest {} = .ok response ∧
      (∀ entry ∈ response.typing, ∃ room, entry.room = some room ∧
        entry.content = .typing (hub.typingUsers room) ∧
        start.SignalledSince departure guest room 0) ∧
      (∀ room, Id.parse .room room.text = .ok room →
        start.SignalledSince departure guest room 0 →
        ∃ entry ∈ response.typing, entry.room = some room) ∧
      ∀ room, hub.rooms.members.isMember room guest = false → ∀ now typist isTyping later,
        (hub.setTyping now typist room isTyping).2.collect stopped guest {} = .ok later →
        later.typing.map (·.room) = response.typing.map (·.room) ∧
          ((∀ entry ∈ response.typing, entry.room ≠ some room) →
            later.typing = response.typing) := by
  obtain ⟨⟨response, collected⟩, -⟩ := exists_collect_departure
  exact ⟨response, collected,
    typing_of_signalled_since smallPages none departure stopped guest {} response collected⟩

/-- The guest who has left is told who is typing in the room, and it makes a difference to them
that the host stops. -/
theorem exists_typing_after_leaving :
    let hub := (ofConfig smallPages none).run departure
    hub.rooms.members.isMember lobby guest = false ∧
      ∃ before later, (hub.sync stopped guest none (some 0)).1 = .ok (.done before) ∧
        ((hub.setTyping epoch host lobby false).2.sync stopped guest none (some 0)).1 =
          .ok (.done later) ∧
        (∃ entry ∈ before.typing, entry.room = some lobby) ∧ later.typing ≠ before.typing := by
  obtain ⟨⟨before, collected⟩, later, collected_later⟩ := exists_collect_departure
  obtain ⟨-, typing, -⟩ := parts_of_collect collected
  obtain ⟨-, typing_later, -⟩ := parts_of_collect collected_later
  refine ⟨by decide +kernel, before, later, sync_without_wait rfl collected,
    sync_without_wait rfl collected_later, ?_⟩
  rw [typing, typing_later]
  decide +kernel

end Departure

end ChatFeed.Hub
