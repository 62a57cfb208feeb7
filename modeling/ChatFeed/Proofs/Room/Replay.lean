import ChatFeed.Proofs.Room.Store
import Mathlib.Data.List.Induction

/-!
# Replaying state events

The state of a room can be had from its state events by going through them in order: of the events
for one place the last one counts, and each membership event lets a user in or out. Setting a
piece of state and adding its event to those that are replayed come to the same.

## Main definitions

* `Event.place?`, `Event.previous?`: what a state event says of the state it changes
* `RoomState.replay`: the state that events lead to
* `replayMembers`: the members that events lead to

## Main results

* `RoomState.get?_replay`: of the events for a place the last one counts
* `RoomStore.members_applied`: a membership takes effect as its event is replayed
-/

namespace ChatFeed

/-- The place of a state event in the state of its room. -/
def Event.place? (event : Event) : Option StateKey :=
  match event.content with
  | .state key content _ => some ⟨content.eventType, key⟩
  | _ => none

/-- The content that a state event says it replaces. -/
def Event.previous? (event : Event) : Option StateContent :=
  match event.content with
  | .state _ _ previous => previous
  | _ => none

/-! ### State -/

namespace RoomState

/-- The state after an event. -/
def note (state : RoomState) (event : Event) : RoomState :=
  match event.place? with
  | some place => state.insert place event
  | none => state

/-- The state that events lead to, the oldest first. -/
def replay (events : List Event) : RoomState :=
  events.foldl note ∅

theorem replay_concat (events : List Event) (last : Event) :
    replay (events ++ [last]) = note (replay events) last :=
  List.foldl_append

/-- Of the events for a place the last one counts. -/
theorem get?_replay (events : List Event) (place : StateKey) :
    (replay events).get? place = (events.filter (·.place? = some place)).getLast? := by
  induction events using List.reverseRecOn with
  | nil => rfl
  | append_singleton front last ih =>
    rw [replay_concat, note, List.filter_append, List.getLast?_append, ← ih]
    cases found : last.place? with
    | none => simp [found]
    | some other =>
      simp only [Table.get?_insert]
      by_cases same : other = place <;> simp [found, same]

end RoomState

/-! ### Members -/

/-- The members of a room after an event: whoever joins is let in, whoever leaves or is banned is
let out, and an invitation or a knock changes nothing. -/
def membersAfter (members : List UserId) (event : Event) : List UserId :=
  match event.membership?, event.stateKey?.bind (Id.parse? .user) with
  | some .join, some user => Ascending.insert user members
  | some .leave, some user | some .ban, some user => Ascending.erase user members
  | _, _ => members

/-- The members that events lead to, the oldest first. -/
def replayMembers (events : List Event) : List UserId :=
  events.foldl membersAfter []

theorem replayMembers_concat (events : List Event) (last : Event) :
    replayMembers (events ++ [last]) = membersAfter (replayMembers events) last :=
  List.foldl_append

namespace RoomStore

variable {members : MemberIndex} {room : RoomId} {content : StateContent} {key : String}
  {target : Option (Membership × UserId)}

/-- A membership takes effect as its event is replayed. -/
theorem members_applied (named : RoomStore.target content key = .ok target) (stamp : Stamp)
    (sender : UserId) (state : RoomState) :
    (applied members room target).members room =
      membersAfter (members.members room) (stateEvent stamp room sender content key state) := by
  cases content with
  | member membership displayName =>
    cases parsed : Id.parse .user key with
    | error e => simp [RoomStore.target, parsed] at named
    | ok user =>
      obtain rfl : some (membership, user) = target := by
        simpa [RoomStore.target, parsed] using named
      have read : Id.parse? .user key = some user := by
        rw [Id.parse?, parsed]
        rfl
      cases membership <;>
        simp [applied, MemberIndex.apply, membersAfter, stateEvent, Event.membership?,
          Event.stateKey?, read, MemberIndex.members_join, MemberIndex.members_leave]
  | create creator =>
    obtain rfl := Except.ok.inj named
    rfl
  | name name =>
    obtain rfl := Except.ok.inj named
    rfl
  | topic topic =>
    obtain rfl := Except.ok.inj named
    rfl

end RoomStore

end ChatFeed
