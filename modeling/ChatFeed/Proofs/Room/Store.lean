import ChatFeed.Proofs.Room.Relation
import ChatFeed.Room.Store

/-!
# Setting room state

Setting a piece of state is refused and changes nothing, or it puts the new event in its
place in the state of the room and lets the membership in it take effect.

## Main definitions

* `RoomStore.settle`: what setting a piece of state leaves behind

## Main results

* `RoomStore.setState_cases`: there is no third way
* `RoomStore.members_applied_of_ne`, `RoomStore.rooms_applied_of_ne`, `RoomStore.peers_applied`: a
  membership takes effect for one user in one room
-/

namespace ChatFeed.RoomStore

/-- The membership index after a membership has been given, if one is. -/
def applied (members : MemberIndex) (room : RoomId) : Option (Membership × UserId) → MemberIndex
  | some (membership, user) => members.apply room user membership
  | none => members

/-- The store after `event` has been put in its place in the state of a room, and the membership in
it has taken effect. -/
def settle (store : RoomStore) (room : RoomId) (state : RoomState) (place : StateKey)
    (event : Event) (target : Option (Membership × UserId)) : RoomStore where
  rooms := store.rooms.insert room (state.insert place event)
  members := applied store.members room target

/-- A piece of state is set in a room that exists, if its target is named. -/
theorem setState_eq {store : RoomStore} {room : RoomId} {content : StateContent} {key : String}
    {state : RoomState} {change : Option (Membership × UserId)}
    (found : store.rooms.get? room = some state) (named : target content key = .ok change)
    (stamp : Stamp) (sender : UserId) : store.setState stamp room sender content key =
      (.ok (stateEvent stamp room sender content key state),
        store.settle room state ⟨content.eventType, key⟩
          (stateEvent stamp room sender content key state) change) := by
  rw [setState, named, found]
  cases change <;> rfl

/-- A piece of state is refused without a change, or set. -/
theorem setState_cases (store : RoomStore) (stamp : Stamp) (room : RoomId) (sender : UserId)
    (content : StateContent) (key : String) :
    (∃ e, store.setState stamp room sender content key = (.error e, store)) ∨
      ∃ state change, store.rooms.get? room = some state ∧ target content key = .ok change ∧
        store.setState stamp room sender content key =
          (.ok (stateEvent stamp room sender content key state),
            store.settle room state ⟨content.eventType, key⟩
              (stateEvent stamp room sender content key state) change) := by
  cases named : target content key with
  | error e =>
    refine .inl ⟨e, ?_⟩
    rw [setState, named]
  | ok change =>
    cases found : store.rooms.get? room with
    | none =>
      refine .inl ⟨.notFound room, ?_⟩
      rw [setState, named, found]
    | some state =>
      exact .inr ⟨state, change, rfl, rfl, setState_eq found named stamp sender⟩

variable {store : RoomStore} {room : RoomId}

@[simp] theorem hasRoom_settle_self (state : RoomState) (place : StateKey) (event : Event)
    (target : Option (Membership × UserId)) :
    (store.settle room state place event target).hasRoom room = true := by
  simp [hasRoom, settle, Table.contains]

/-- A room is there exactly if it was before the state of one has been replaced. -/
theorem hasRoom_settle {found : RoomState} (there : store.rooms.get? room = some found)
    (state : RoomState) (place : StateKey) (event : Event)
    (target : Option (Membership × UserId)) (other : RoomId) :
    (store.settle room state place event target).hasRoom other = store.hasRoom other := by
  rw [hasRoom, hasRoom, settle, Table.contains, Table.contains, Table.get?_insert]
  split
  next same => rw [← same, there, Option.isSome_some, Option.isSome_some]
  next => rfl

/-- A room is still there when the state of one has been replaced. -/
theorem hasRoom_insert (found : store.hasRoom room = true) (changed : RoomId) (state : RoomState) :
    (store.rooms.insert changed state).contains room = true := by
  rw [Table.contains, Table.get?_insert]
  split
  next => rfl
  next => exact found

/-- Both sides of the index still say the same. -/
theorem isCoherent_applied {members : MemberIndex} (coherent : members.IsCoherent)
    (target : Option (Membership × UserId)) : (applied members room target).IsCoherent := by
  cases target with
  | none => exact coherent
  | some change => exact coherent.apply room change.2 change.1

section Applied

variable {members : MemberIndex} {target : Option (Membership × UserId)} {user : UserId}

/-- A membership takes effect in no other room. -/
theorem members_applied_of_ne {other : RoomId} (distinct : room ≠ other)
    (target : Option (Membership × UserId)) :
    (applied members room target).members other = members.members other := by
  cases target with
  | none => rfl
  | some change =>
    obtain ⟨membership, user⟩ := change
    cases membership <;>
      simp [applied, MemberIndex.apply, MemberIndex.members_join, MemberIndex.members_leave,
        distinct]

/-- Nor does it take effect for any other user. -/
theorem rooms_applied_of_ne (room : RoomId) (others : ∀ change ∈ target, change.2 ≠ user) :
    (applied members room target).rooms user = members.rooms user := by
  cases target with
  | none => rfl
  | some change =>
    obtain ⟨membership, subject⟩ := change
    have distinct : subject ≠ user := others _ rfl
    cases membership <;>
      simp [applied, MemberIndex.apply, MemberIndex.rooms_join, MemberIndex.rooms_leave, distinct]

/-- Whoever is not in a room has the same peers when a membership of somebody else has taken effect
there. -/
theorem peers_applied (coherent : members.IsCoherent) (outside : user ∉ members.members room)
    (others : ∀ change ∈ target, change.2 ≠ user) :
    (applied members room target).peers user = members.peers user := by
  have same_members : (members.rooms user).flatMap (applied members room target).members =
      (members.rooms user).flatMap members.members := by
    refine List.flatMap_congr fun other joined => members_applied_of_ne ?_ target
    -- A room of the user is another one.
    rintro rfl
    exact outside ((coherent room user).mpr joined)
  rw [MemberIndex.peers, MemberIndex.peers, rooms_applied_of_ne room others, same_members]

end Applied

end ChatFeed.RoomStore
