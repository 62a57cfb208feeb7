import ChatFeed.Proofs.Hub.Answer
import ChatFeed.Proofs.Hub.Audience
import ChatFeed.Proofs.Hub.Membership
import ChatFeed.Proofs.Hub.Page

/-!
# What is written elsewhere

What goes on in a room makes no difference to what is read by users who are not in it, unless it is
their own membership. An event of the room takes up no place on their pages, since a page is filled
with what its reader can see before it is cut; it takes no other event out, since it has an identity
of its own; and who joins or leaves the room is nobody with whom they share it. Only the tokens and
the times at which they are woken could tell, and who is typing.

## Main definitions

* `IsMembershipOf`: a piece of state is the membership of a user
* `Hub.SameView`: a user reads the same of two hubs, from timeline and presence

## Main results

* `Hub.sameView_enter`: an event that a user cannot see leaves their view as it is
* `Hub.sameView_write`: so does whatever is written to a room in which they are not
* `Hub.reads_same_after_write_outside`: so they read the same
-/

namespace ChatFeed

/-- Whether a piece of state is the membership of a user. -/
def IsMembershipOf (content : StateContent) (key : String) (user : UserId) : Prop :=
  match content with
  | .member _ _ => key = user.text
  | _ => False

variable {content : StateContent} {key : String} {user : UserId}

/-- A membership is only given to the user whose it is. -/
theorem RoomStore.ne_of_not_isMembershipOf {target : Option (Membership × UserId)}
    (named : RoomStore.target content key = .ok target)
    (others : ¬IsMembershipOf content key user) : ∀ change ∈ target, change.2 ≠ user := by
  rintro ⟨membership, subject⟩ rfl rfl
  obtain ⟨displayName, rfl, parsed⟩ := target_eq_ok_some_iff.mp named
  exact others (Id.text_of_parse parsed).symm

/-- Only the membership of a user concerns them by itself. -/
theorem RoomStore.extraRecipient_stateEvent_ne (others : ¬IsMembershipOf content key user)
    (stamp : Stamp) (room : RoomId) (sender : UserId) (state : RoomState) :
    (stateEvent stamp room sender content key state).extraRecipient ≠ some user := by
  intro concerned
  cases content with
  | create creator => cases concerned
  | name name => cases concerned
  | topic topic => cases concerned
  | member membership displayName =>
    rw [Event.extraRecipient] at concerned
    split at concerned
    next subject aimed =>
      obtain rfl := Option.some.inj concerned
      have parsed : Id.parse .user key = .ok subject := by
        rw [Event.target, stateEvent] at aimed
        simp only at aimed
        split at aimed
        next => exact Option.some.inj aimed
        next => contradiction
      exact others (Id.text_of_parse parsed).symm
    next => contradiction

namespace Hub

variable {hub middle later : Hub} {room : RoomId} {event : Event}

/-- Whether a user reads the same of two hubs, from timeline and presence. -/
structure SameView (hub later : Hub) (user : UserId) : Prop where
  limits : later.limits = hub.limits
  hasRoom : ∀ room, later.rooms.hasRoom room = hub.rooms.hasRoom room
  rooms : later.rooms.members.rooms user = hub.rooms.members.rooms user
  peers : later.rooms.members.peers user = hub.rooms.members.peers user
  /-- Of their rooms, or by themselves, they see the same between any two bounds. -/
  window : ∀ viewer rooms low high, (viewer = none ∨ viewer = some user) →
    (∀ room ∈ rooms, room ∈ hub.rooms.members.rooms user) →
    later.messages.window viewer rooms low high = hub.messages.window viewer rooms low high
  messageCounter : hub.messageCounter.current ≤ later.messageCounter.current
  presence : later.presence = hub.presence
  presenceCounter : later.presenceCounter = hub.presenceCounter

namespace SameView

/-- What leaves rooms, timeline and presence alone leaves every view as it is. -/
theorem of_same_timeline (limits : later.limits = hub.limits) (rooms : later.rooms = hub.rooms)
    (messages : later.messages = hub.messages)
    (messageCounter : later.messageCounter = hub.messageCounter)
    (presence : later.presence = hub.presence)
    (presenceCounter : later.presenceCounter = hub.presenceCounter) :
    hub.SameView later user where
  limits := limits
  hasRoom _ := by rw [rooms]
  rooms := by rw [rooms]
  peers := by rw [rooms]
  window _ _ _ _ _ _ := by rw [messages]
  messageCounter := Nat.le_of_eq (congrArg Counter.current messageCounter.symm)
  presence := presence
  presenceCounter := presenceCounter

theorem refl (hub : Hub) (user : UserId) : hub.SameView hub user :=
  .of_same_timeline rfl rfl rfl rfl rfl rfl

theorem trans (first : hub.SameView middle user) (second : middle.SameView later user) :
    hub.SameView later user where
  limits := second.limits.trans first.limits
  hasRoom room := (second.hasRoom room).trans (first.hasRoom room)
  rooms := second.rooms.trans first.rooms
  peers := second.peers.trans first.peers
  window viewer rooms low high own joined := by
    have still_joined : ∀ room ∈ rooms, room ∈ middle.rooms.members.rooms user := by
      rw [first.rooms]
      exact joined
    exact (second.window viewer rooms low high own still_joined).trans
      (first.window viewer rooms low high own joined)
  messageCounter := Nat.le_trans first.messageCounter second.messageCounter
  presence := second.presence.trans first.presence
  presenceCounter := second.presenceCounter.trans first.presenceCounter

/-! ### Reading -/

theorem isMember (same : hub.SameView later user) (sound : hub.IsSound)
    (later_sound : later.IsSound) (room : RoomId) :
    later.rooms.members.isMember room user = hub.rooms.members.isMember room user := by
  rw [Bool.eq_iff_iff, MemberIndex.isMember_iff, MemberIndex.isMember_iff,
    later_sound.members room user, sound.members room user, same.rooms]

/-- The end of the timeline has moved on, but not past anything that the user can see. -/
theorem missedEvents (same : hub.SameView later user) (sound : hub.IsSound) (since : Nat) :
    later.missedEvents user since = hub.missedEvents user since := by
  have up_to_the_end : hub.messages.window (some user) (hub.rooms.members.rooms user) since
      later.messageCounter.current =
      hub.messages.window (some user) (hub.rooms.members.rooms user) since
        hub.messageCounter.current := by
    rw [← sound.timeline.window_min, Nat.min_eq_right same.messageCounter]
  rw [missedEvents_eq_take, missedEvents_eq_take, same.limits, same.rooms,
    same.window _ _ _ _ (.inr rfl) (fun _ joined => joined), up_to_the_end]

theorem missedPresence (same : hub.SameView later user) (since : Nat) :
    later.missedPresence user since = hub.missedPresence user since := by
  rw [Hub.missedPresence, Hub.missedPresence, same.presence, same.presenceCounter, same.peers]

theorem range (same : hub.SameView later user) (sound : hub.IsSound)
    (later_sound : later.IsSound) {viewer : Option UserId} {rooms : List RoomId}
    (own : viewer = none ∨ viewer = some user)
    (joined : ∀ room ∈ rooms, room ∈ hub.rooms.members.rooms user) (start stop limit : Nat) :
    later.messages.range later.messageCounter viewer rooms start stop limit =
      hub.messages.range hub.messageCounter viewer rooms start stop limit := by
  rw [later_sound.timeline.range_eq, sound.timeline.range_eq, same.window _ _ _ _ own joined,
    same.window _ _ _ _ own joined]

/-- Bounds that are given say what a page shows, whatever the timeline holds beyond. -/
theorem events_page (same : hub.SameView later user) (sound : hub.IsSound)
    (later_sound : later.IsSound) (room : RoomId) (start stop : Nat) (direction : Direction)
    (limit : Option Nat) :
    (later.page user room (some start) (some stop) direction limit).map (·.events) =
      (hub.page user room (some start) (some stop) direction limit).map (·.events) := by
  have bounds : later.pageBounds direction (some start) (some stop) =
      hub.pageBounds direction (some start) (some stop) := by
    cases direction <;> rfl
  have visited (near far size : Nat) :
      (if later.rooms.members.isMember room user then
          later.messages.range later.messageCounter none [room] near far size
        else later.messages.range later.messageCounter (some user) [] near far size) =
      if hub.rooms.members.isMember room user then
        hub.messages.range hub.messageCounter none [room] near far size
      else hub.messages.range hub.messageCounter (some user) [] near far size := by
    rw [same.isMember sound later_sound room]
    split
    next joined =>
      refine same.range sound later_sound (.inl rfl) ?_ near far size
      intro other mem
      rw [List.mem_singleton.mp mem, ← sound.members room user]
      exact MemberIndex.isMember_iff.mp joined
    next => exact same.range sound later_sound (.inr rfl) (List.forall_mem_nil _) near far size
  rw [page, page, same.hasRoom, bounds, same.limits]
  split
  next => rfl
  next =>
    split
    next => rfl
    next near far accepted =>
      simp only [Except.map]
      rw [visited]

end SameView

/-! ### Writing -/

/-- An event that a user cannot see leaves their view as it is. -/
theorem sameView_enter (sound : hub.IsSound)
    (fresh : hub.messages.indices.get? event.id = none)
    (outside : room ∉ hub.rooms.members.rooms user)
    (others : event.extraRecipient ≠ some user) : hub.SameView (hub.enter room event) user where
  limits := rfl
  hasRoom _ := rfl
  rooms := rfl
  peers := rfl
  window viewer rooms low high own joined := by
    refine sound.timeline.window_record_of_hidden fresh ?_
    have elsewhere : room ∉ rooms := fun listed => outside (joined room listed)
    rcases own with rfl | rfl <;> simp [Timeline.isVisible, elsewhere, others]
  messageCounter := Nat.le_succ _
  presence := rfl
  presenceCounter := rfl

/-- So does a membership that takes effect for somebody else in a room in which they are not. -/
theorem sameView_settled (sound : hub.IsSound) {state : RoomState}
    {target : Option (Membership × UserId)} (found : hub.rooms.rooms.get? room = some state)
    (outside : user ∉ hub.rooms.members.members room)
    (others : ∀ change ∈ target, change.2 ≠ user) (stamp : Stamp) (sender : UserId)
    (content : StateContent) (key : String) :
    hub.SameView (hub.settled stamp sender room content key state target) user where
  limits := rfl
  hasRoom := RoomStore.hasRoom_settle found _ _ _ _
  rooms := RoomStore.rooms_applied_of_ne room others
  peers := RoomStore.peers_applied sound.members outside others
  window _ _ _ _ _ _ := rfl
  messageCounter := Nat.le_refl _
  presence := rfl
  presenceCounter := rfl

/-- The room to which something is written. -/
def Write.room? : Write → Option RoomId
  | state _ _ room _ _ => some room
  | message _ _ room _ _ => some room
  | typing _ _ room _ => some room
  | availability _ _ _ _ | profile _ _ _ => none

/-- Whether what is written is the membership of a user. -/
def Write.SetsMembershipOf (write : Write) (user : UserId) : Prop :=
  match write with
  | state _ _ _ content key => IsMembershipOf content key user
  | _ => False

/-- What is written to a room in which a user is not, and is not their membership, leaves their view
as it is, unless it takes the identity of an event that is there. -/
theorem sameView_write (sound : hub.IsSound) {write : Write}
    (fresh : ∀ id ∈ write.operation.made, hub.messages.indices.get? id = none)
    (to_room : write.room? = some room) (others : ¬write.SetsMembershipOf user)
    (outside : hub.rooms.members.isMember room user = false) :
    hub.SameView (hub.write write).2 user := by
  have not_member : user ∉ hub.rooms.members.members room := by
    rw [← MemberIndex.isMember_iff, outside]
    exact Bool.false_ne_true
  have not_joined : room ∉ hub.rooms.members.rooms user := by
    rwa [← sound.members room user]
  cases write with
  | state stamp sender changed content key =>
    obtain rfl : changed = room := Option.some.inj to_room
    rw [write]
    obtain ⟨e, refused⟩ | ⟨state, target, found, named, set⟩ :=
      hub.setState_cases stamp sender changed content key
    · rw [refused]
      exact .refl hub user
    · rw [set]
      -- The membership takes effect first, and then the event is entered.
      have settled := sameView_settled sound found not_member
        (RoomStore.ne_of_not_isMembershipOf named others) stamp sender content key
      have new := fresh (stamp.eventId sender) (List.mem_singleton_self _)
      refine settled.trans (sameView_enter ?_ new ?_ ?_)
      · exact ⟨sound.timeline, RoomStore.isCoherent_applied sound.members target⟩
      · rwa [settled.rooms]
      · exact RoomStore.extraRecipient_stateEvent_ne others _ _ _ _
  | message stamp sender changed messageType body =>
    obtain rfl : changed = room := Option.some.inj to_room
    rw [write]
    obtain ⟨e, refused⟩ | ⟨-, sent⟩ :=
      hub.sendMessage_cases stamp sender changed messageType body
    · rw [refused]
      exact .refl hub user
    · rw [sent]
      have new := fresh (stamp.eventId sender) (List.mem_singleton_self _)
      have unconcerned : (messageEvent stamp sender changed messageType body).extraRecipient ≠
          some user := (Option.some_ne_none user).symm
      exact sameView_enter sound new not_joined unconcerned
  | typing now typist changed isTyping =>
    rw [write]
    obtain ⟨e, refused⟩ | ⟨-, signalled⟩ := hub.setTyping_cases now typist changed isTyping
    · rw [refused]
      exact .refl hub user
    · rw [signalled]
      exact .of_same_timeline rfl rfl rfl rfl rfl rfl
  | availability now subject status statusMessage => cases to_room
  | profile now subject shown => cases to_room

/-! ### What is read -/

/-- What is written to a room in which a user is not, and is not their membership, makes no
difference to the events and the presence they are given when they sync at once, to what a page
between given bounds shows them of any room, and to the rooms and peers they have. No two events are
to have the same identity. -/
theorem reads_same_after_write_outside (config : Config) (sink : Option Sink)
    (operations : List Operation) (write : Write) (room : RoomId) (user : UserId)
    (distinct : MakeDistinct (operations ++ [write.operation]))
    (to_room : write.room? = some room) (others : ¬write.SetsMembershipOf user)
    (outside : ((ofConfig config sink).run operations).rooms.members.isMember room user = false) :
    let hub := (ofConfig config sink).run operations
    let after := (hub.write write).2
    (∀ clock clock' token before later,
      (hub.sync clock user token (some 0)).1 = .ok (.done before) →
      (after.sync clock' user token (some 0)).1 = .ok (.done later) →
      later.events = before.events ∧ later.presence = before.presence) ∧
    (config.validate = .ok config → after.CountersBelow (2 ^ 48) →
      ∀ clock clock' token, (∀ text ∈ token, ∃ parsed, StreamToken.parse text = .ok parsed) →
      ∃ before later, (hub.sync clock user token (some 0)).1 = .ok (.done before) ∧
        (after.sync clock' user token (some 0)).1 = .ok (.done later)) ∧
    (∀ other start stop direction limit,
      (after.page user other (some start) (some stop) direction limit).map (·.events) =
        (hub.page user other (some start) (some stop) direction limit).map (·.events)) ∧
    after.rooms.directory.rooms user = hub.rooms.directory.rooms user ∧
    after.rooms.directory.peers user = hub.rooms.directory.peers user := by
  intro hub after
  have only := hasOnly_run config sink operations
  have sound : hub.IsSound := only.sound
  -- What the write is given has not been given before, so it stands nowhere in the timeline.
  have fresh : ∀ id ∈ write.operation.made, hub.messages.indices.get? id = none := by
    rw [MakeDistinct, List.flatMap_append, List.flatMap_singleton] at distinct
    exact fun id new => only.fresh fun old => List.disjoint_of_nodup_append distinct old new
  have grows : hub.Grows after := by
    change hub.Grows (hub.write write).2
    rw [write_eq_perform]
    exact hub.grows_perform _
  have later_sound : after.IsSound := grows.sound sound
  have same : hub.SameView after user := sameView_write sound fresh to_room others outside
  refine ⟨?_, ?_, ?_, ?_, ?_⟩
  · intro clock clock' token before later synced synced_later
    obtain ⟨-, since, read, collected⟩ := Answers.exists_collect (.atOnce synced)
    obtain ⟨-, since_later, read_later, collected_later⟩ :=
      Answers.exists_collect (.atOnce synced_later)
    -- Both start from the positions in the same token.
    rw [since_eq_of_shard grows.shard, read] at read_later
    obtain rfl := Except.ok.inj read_later
    obtain ⟨events, -, presence⟩ := parts_of_collect collected
    obtain ⟨events_later, -, presence_later⟩ := parts_of_collect collected_later
    rw [events, events_later, presence, presence_later]
    exact ⟨same.missedEvents sound _, same.missedPresence _⟩
  · intro accepted bounded clock clock' token readable
    have same_shard : hub.shard = config.shard := (changes_run _ operations).grows.shard
    have fits : after.Fits := bounded.fits accepted (grows.shard.trans same_shard)
    obtain ⟨since, read⟩ := exists_since hub readable
    have read_after : after.since token = .ok since := by
      rw [since_eq_of_shard grows.shard, read]
    obtain ⟨before, collected⟩ :=
      sound.exists_collect (grows.fits fits) (fit_of_since read) clock user
    obtain ⟨later, collected_later⟩ :=
      later_sound.exists_collect fits (fit_of_since read) clock' user
    exact ⟨before, later, sync_without_wait read collected,
      sync_without_wait read_after collected_later⟩
  · intro other start stop direction limit
    exact same.events_page sound later_sound other start stop direction limit
  · exact congrArg Except.ok same.rooms
  · exact congrArg Except.ok same.peers

section Invitation

open Reader

/-- The guest has been invited but is not in the room. -/
def invited : List Operation :=
  [.createRoom (drawn 0) (drawn 1) lobby host,
    .setState (drawn 2) host lobby (.member .invite none) guest.text]

/-- To the guest, who sees their invitation, a message of the host makes no difference. -/
theorem reads_same_after_write_outside_invited :
    let hub := (ofConfig smallPages none).run invited
    let write := Write.message (drawn 3) host lobby "m.text" "welcome"
    let after := (hub.write write).2
    MakeDistinct (invited ++ [write.operation]) ∧ write.room? = some lobby ∧
      ¬write.SetsMembershipOf guest ∧
      hub.rooms.members.isMember lobby guest = false ∧ smallPages.validate = .ok smallPages ∧
      after.CountersBelow (2 ^ 48) ∧
      (∃ before later, (hub.sync stopped guest none (some 0)).1 = .ok (.done before) ∧
        (after.sync stopped guest none (some 0)).1 = .ok (.done later) ∧
        later.events = before.events ∧ later.presence = before.presence) ∧
      (∀ limit, (after.page guest lobby (some 0) (some 9) .forward limit).map (·.events) =
        (hub.page guest lobby (some 0) (some 9) .forward limit).map (·.events)) ∧
      after.rooms.directory.rooms guest = hub.rooms.directory.rooms guest ∧
      after.rooms.directory.peers guest = hub.rooms.directory.peers guest := by
  intro hub write after
  have distinct : MakeDistinct (invited ++ [write.operation]) := by decide +kernel
  have to_room : write.room? = some lobby := rfl
  have others : ¬write.SetsMembershipOf guest := id
  have outside : hub.rooms.members.isMember lobby guest = false := by decide +kernel
  have accepted : smallPages.validate = .ok smallPages := by decide
  have bounded : after.CountersBelow (2 ^ 48) := by
    constructor <;> decide +kernel
  obtain ⟨synced, answered, paged, rooms, peers⟩ :=
    reads_same_after_write_outside smallPages none invited write lobby guest distinct to_room others
      outside
  obtain ⟨before, later, done, done_later⟩ := answered accepted bounded stopped stopped none nofun
  obtain ⟨same_events, same_presence⟩ := synced stopped stopped none before later done done_later
  exact ⟨distinct, to_room, others, outside, accepted, bounded,
    ⟨before, later, done, done_later, same_events, same_presence⟩,
    paged lobby 0 9 .forward, rooms, peers⟩

end Invitation

end Hub

end ChatFeed
