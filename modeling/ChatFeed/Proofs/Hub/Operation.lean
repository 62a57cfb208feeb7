import ChatFeed.Hub.Sync
import ChatFeed.Proofs.Hub.Change
import ChatFeed.Proofs.Log.Timeline

/-!
# Operations of a hub

Whatever is done to a hub, by whomever, is a sequence of operations. None of them
changes the shard or the limits of the hub or sets a counter back, and each leaves a
sound hub sound: its timeline is as entering events leaves it, and its memberships
are one relation seen from both sides.

## Main definitions

* `Hub.Operation`, `Hub.perform`, `Hub.run`: what can be done to a hub
* `Hub.IsSound`: what is true of every hub that has come about
* `Hub.Grows`: what no operation undoes
* `Hub.Operation.IsReading`, `Hub.Operation.TouchesRooms`: what kind of operation it is

## Main results

* `Hub.changes_perform`, `Hub.changes_run`: operations are chains of changes
* `Hub.grows_perform`: every operation is a growth
* `Hub.sync_mux`, `Hub.resume_mux`: syncing changes nothing but the multiplexer
* `Hub.perform_reading`, `Hub.rooms_perform`: what an operation leaves alone
-/

namespace ChatFeed

namespace Hub

/-- What can be done to a hub. A sync that waits may be resumed or given up at any time. -/
inductive Operation where
  | createRoom (first second : Stamp) (room : RoomId) (creator : UserId)
  | setState (stamp : Stamp) (sender : UserId) (room : RoomId) (content : StateContent)
    (key : String)
  | sendMessage (stamp : Stamp) (sender : UserId) (room : RoomId) (messageType body : String)
  | setTyping (now : Instant) (user : UserId) (room : RoomId) (isTyping : Bool)
  | setAvailability (now : Instant) (user : UserId) (availability : Availability)
    (statusMessage : Option String)
  | setProfile (now : Instant) (user : UserId) (profile : Profile)
  | sync (clock : RoomId → Instant) (user : UserId) (token : Option String) (timeout : Option Nat)
  | resume (clock : RoomId → Instant) (sync : PendingSync)
  | abandon (sync : PendingSync)
  | elapse (span : Nat)
  | shutDown

/-- The hub after an operation, whether it succeeds or not. -/
def perform (hub : Hub) : Operation → Hub
  | .createRoom first second room creator => (hub.createRoom first second room creator).2
  | .setState stamp sender room content key => (hub.setState stamp sender room content key).2
  | .sendMessage stamp sender room messageType body =>
    (hub.sendMessage stamp sender room messageType body).2
  | .setTyping now user room isTyping => (hub.setTyping now user room isTyping).2
  | .setAvailability now user availability statusMessage =>
    (hub.setAvailability now user availability statusMessage).2
  | .setProfile now user profile => (hub.setProfile now user profile).2
  | .sync clock user token timeout => (hub.sync clock user token timeout).2
  | .resume clock sync => (hub.resume clock sync).2
  | .abandon sync => hub.abandon sync
  | .elapse span => hub.elapse span
  | .shutDown => hub.shutDown

/-- The hub after a sequence of operations. -/
def run (hub : Hub) (operations : List Operation) : Hub :=
  operations.foldl perform hub

theorem run_concat (hub : Hub) (operations : List Operation) (last : Operation) :
    hub.run (operations ++ [last]) = (hub.run operations).perform last :=
  List.foldl_append

theorem run_append (hub : Hub) (earlier later : List Operation) :
    hub.run (earlier ++ later) = (hub.run earlier).run later :=
  List.foldl_append

/-- An operation among some is one of the first of them or the last. -/
theorem step_concat_iff {earlier front : List Operation} {operation last : Operation} :
    earlier ++ [operation] <+: front ++ [last] ↔
      earlier ++ [operation] <+: front ∨ earlier = front ∧ operation = last := by
  rw [List.prefix_concat_iff, List.append_singleton_inj, or_comm]

theorem exists_step_concat_iff {P : List Operation → Operation → Prop} {front : List Operation}
    {last : Operation} :
    (∃ earlier operation, earlier ++ [operation] <+: front ++ [last] ∧ P earlier operation) ↔
      (∃ earlier operation, earlier ++ [operation] <+: front ∧ P earlier operation) ∨
        P front last := by
  simp [step_concat_iff, or_and_right, exists_or, and_assoc]

theorem forall_step_concat_iff {P : List Operation → Operation → Prop} {front : List Operation}
    {last : Operation} :
    (∀ earlier operation, earlier ++ [operation] <+: front ++ [last] → P earlier operation) ↔
      (∀ earlier operation, earlier ++ [operation] <+: front → P earlier operation) ∧
        P front last := by
  simp [step_concat_iff, or_imp, forall_and]

/-- What is true of every hub that has come about. -/
structure IsSound (hub : Hub) : Prop where
  timeline : hub.messages.IsSound hub.messageCounter.current
  members : hub.rooms.members.IsCoherent

/-- What no operation undoes. -/
structure Grows (hub later : Hub) : Prop where
  shard : later.shard = hub.shard
  limits : later.limits = hub.limits
  messages : hub.messageCounter.current ≤ later.messageCounter.current
  signals : hub.signalCounter.current ≤ later.signalCounter.current
  presence : hub.presenceCounter.current ≤ later.presenceCounter.current
  sound : hub.IsSound → later.IsSound

theorem isSound_ofConfig (config : Config) (sink : Option Sink) :
    (ofConfig config sink).IsSound where
  timeline := Timeline.isSound_empty
  members := MemberIndex.isCoherent_empty

namespace Grows

variable {hub middle later : Hub}

theorem refl (hub : Hub) : hub.Grows hub where
  shard := rfl
  limits := rfl
  messages := Nat.le_refl _
  signals := Nat.le_refl _
  presence := Nat.le_refl _
  sound := id

theorem trans (first : hub.Grows middle) (second : middle.Grows later) : hub.Grows later where
  shard := second.shard.trans first.shard
  limits := second.limits.trans first.limits
  messages := Nat.le_trans first.messages second.messages
  signals := Nat.le_trans first.signals second.signals
  presence := Nat.le_trans first.presence second.presence
  sound := second.sound ∘ first.sound

end Grows

/-- What leaves timeline and rooms alone is a growth if it sets no counter back. -/
theorem Grows.of_same_timeline {hub later : Hub} (shard : later.shard = hub.shard)
    (limits : later.limits = hub.limits) (rooms : later.rooms = hub.rooms)
    (messages : later.messages = hub.messages)
    (messageCounter : later.messageCounter = hub.messageCounter)
    (signals : hub.signalCounter.current ≤ later.signalCounter.current)
    (presence : hub.presenceCounter.current ≤ later.presenceCounter.current) :
    hub.Grows later where
  shard := shard
  limits := limits
  messages := Nat.le_of_eq (congrArg Counter.current messageCounter.symm)
  signals := signals
  presence := presence
  sound := by
    rintro ⟨timeline, members⟩
    constructor
    · rwa [messages, messageCounter]
    · rwa [rooms]

variable (hub : Hub)

theorem grows_setRooms (rooms : RoomStore)
    (coherent : hub.rooms.members.IsCoherent → rooms.members.IsCoherent) :
    hub.Grows { hub with rooms } where
  shard := rfl
  limits := rfl
  messages := Nat.le_refl _
  signals := Nat.le_refl _
  presence := Nat.le_refl _
  sound := fun sound => ⟨sound.timeline, coherent sound.members⟩

theorem grows_enter {room : RoomId} {event : Event} (in_room : event.room = some room) :
    hub.Grows (hub.enter room event) where
  shard := rfl
  limits := rfl
  messages := Nat.le_succ _
  signals := Nat.le_refl _
  presence := Nat.le_refl _
  sound := fun sound => ⟨sound.timeline.record in_room rfl, sound.members⟩

/-- Every change is a growth. -/
theorem Change.grows {hub later : Hub} (change : hub.Change later) : hub.Grows later := by
  cases change with
  | mux mux => exact .of_same_timeline rfl rfl rfl rfl rfl (Nat.le_refl _) (Nat.le_refl _)
  | creation room new => exact hub.grows_setRooms _ id
  | state stamp sender room content key state target found named =>
    -- The membership takes effect first, and then the event is entered.
    have settled : hub.Grows (hub.settled stamp sender room content key state target) :=
      hub.grows_setRooms _ fun coherent => RoomStore.isCoherent_applied coherent target
    exact settled.trans (grows_enter _ rfl)
  | message stamp sender room messageType body allowed => exact grows_enter _ rfl
  | typing now user room isTyping allowed =>
    exact .of_same_timeline rfl rfl rfl rfl rfl (Nat.le_succ _) (Nat.le_refl _)
  | presence time user change =>
    exact .of_same_timeline rfl rfl rfl rfl rfl (Nat.le_refl _) (Nat.le_succ _)

theorem Changes.grows {hub later : Hub} (changes : hub.Changes later) : hub.Grows later := by
  induction changes with
  | refl => exact .refl hub
  | tail _ change grows => exact grows.trans change.grows

/-! ### Syncing -/

/-- Resuming a sync changes nothing but the multiplexer. -/
theorem resume_mux (clock : RoomId → Instant) (sync : PendingSync) :
    ∃ mux, (hub.resume clock sync).2 = hub.setMux mux := by
  unfold resume
  split <;> exact ⟨_, rfl⟩

/-- Starting a sync changes nothing but the multiplexer. -/
theorem sync_mux (clock : RoomId → Instant) (user : UserId) (token : Option String)
    (timeout : Option Nat) : ∃ mux, (hub.sync clock user token timeout).2 = hub.setMux mux := by
  unfold sync
  split
  next => exact ⟨hub.dispatcher.mux, rfl⟩
  next =>
    simp only
    split
    next => exact ⟨_, rfl⟩
    next =>
      split
      next => exact ⟨_, rfl⟩
      next =>
        obtain ⟨mux, resumed⟩ := resume_mux
          (hub.setMux (hub.dispatcher.mux.listen user shutdownSignal).2) clock _
        exact ⟨mux, resumed⟩

/-! ### Operations -/

/-- Whether an operation writes nothing. -/
def Operation.IsReading : Operation → Prop
  | .sync _ _ _ _ | .resume _ _ | .abandon _ | .elapse _ | .shutDown => True
  | _ => False

/-- What writes nothing changes nothing but the multiplexer. -/
theorem perform_reading {operation : Operation} (reading : operation.IsReading) :
    ∃ mux, hub.perform operation = hub.setMux mux := by
  cases operation with
  | sync clock user token timeout => exact hub.sync_mux clock user token timeout
  | resume clock sync => exact hub.resume_mux clock sync
  | abandon sync => exact ⟨_, rfl⟩
  | elapse span => exact ⟨_, rfl⟩
  | shutDown => exact ⟨_, rfl⟩
  | _ => exact reading.elim

/-- Whether an operation makes a room or sets state in one. -/
def Operation.TouchesRooms : Operation → Prop
  | .createRoom _ _ _ _ | .setState _ _ _ _ _ => True
  | _ => False

/-- No other operation makes a difference to rooms. -/
theorem rooms_perform {operation : Operation} (other : ¬operation.TouchesRooms) :
    (hub.perform operation).rooms = hub.rooms := by
  by_cases reading : operation.IsReading
  · obtain ⟨mux, changed⟩ := hub.perform_reading reading
    rw [changed]
    rfl
  cases operation with
  | createRoom first second room creator => exact (other trivial).elim
  | setState stamp sender room content key => exact (other trivial).elim
  | sendMessage stamp sender room messageType body =>
    obtain ⟨e, refused⟩ | ⟨-, sent⟩ := hub.sendMessage_cases stamp sender room messageType body
    · rw [perform, refused]
    · rw [perform, sent]
      rfl
  | setTyping now user room isTyping =>
    obtain ⟨e, refused⟩ | ⟨-, signalled⟩ := hub.setTyping_cases now user room isTyping
    · rw [perform, refused]
    · rw [perform, signalled]
      rfl
  | setAvailability now user availability statusMessage => rfl
  | setProfile now user profile => rfl
  | _ => exact (reading trivial).elim

/-- Every operation is a chain of changes. -/
theorem changes_perform (operation : Operation) : hub.Changes (hub.perform operation) := by
  by_cases reading : operation.IsReading
  · obtain ⟨mux, changed⟩ := hub.perform_reading reading
    rw [changed]
    exact .single (.mux mux)
  cases operation with
  | createRoom first second room creator => exact hub.changes_createRoom first second room creator
  | setState stamp sender room content key =>
    exact hub.changes_setState stamp sender room content key
  | sendMessage stamp sender room messageType body =>
    rw [perform]
    obtain ⟨e, refused⟩ | ⟨allowed, sent⟩ :=
      hub.sendMessage_cases stamp sender room messageType body
    · rw [refused]
    · rw [sent]
      exact .single (.message stamp sender room messageType body allowed)
  | setTyping now user room isTyping =>
    rw [perform]
    obtain ⟨e, refused⟩ | ⟨allowed, signalled⟩ := hub.setTyping_cases now user room isTyping
    · rw [refused]
    · rw [signalled]
      exact .single (.typing now user room isTyping allowed)
  | setAvailability now user availability statusMessage =>
    rw [perform, setAvailability_eq]
    exact .single (.presence now.timestamp user _)
  | setProfile now user profile =>
    rw [perform, setProfile_eq]
    exact .single (.presence now.timestamp user _)
  | _ => exact (reading trivial).elim

/-- So is a run. -/
theorem changes_run (operations : List Operation) : hub.Changes (hub.run operations) := by
  induction operations generalizing hub with
  | nil => exact .refl
  | cons operation rest ih => exact (hub.changes_perform operation).trans (ih _)

/-- Every operation is a growth. -/
theorem grows_perform (operation : Operation) : hub.Grows (hub.perform operation) :=
  (hub.changes_perform operation).grows

end Hub

end ChatFeed
