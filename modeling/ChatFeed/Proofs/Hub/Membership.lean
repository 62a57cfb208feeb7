import ChatFeed.Proofs.Hub.Operation
import Mathlib.Data.List.Induction

/-!
# Who leaves a room

Nothing takes a user out of a room but a piece of state that gives them the membership of one who
has left or been banned. Whoever was in a room at one time is therefore still in it, or has been
taken out of it since.

## Main definitions

* `IsDeparture`: a piece of state says of a user that they have left or been banned
* `Hub.Removes`: an operation takes a user out of a room

## Main results

* `Hub.Removes.exists_departure`: only a departure of that user does
* `Hub.isMember_run_or`: whoever was in a room is still in it, or has been taken out of it
-/

namespace ChatFeed

/-- Whether a piece of state says of a user that they have left or been banned. -/
def IsDeparture (content : StateContent) (key : String) (user : UserId) : Prop :=
  match content with
  | .member .leave _ | .member .ban _ => key = user.text
  | _ => False

namespace RoomStore

variable {content : StateContent} {key : String}

/-- A membership is given to the user whom the key names. -/
theorem target_eq_ok_some_iff {membership : Membership} {user : UserId} :
    target content key = .ok (some (membership, user)) ↔
      ∃ displayName, content = .member membership displayName ∧ Id.parse .user key = .ok user := by
  cases content with
  | member given displayName => cases parsed : Id.parse .user key <;> simp [target, parsed]
  | create creator => simp [target]
  | name name => simp [target]
  | topic topic => simp [target]

/-- A piece of state leaves a user in a room, unless it is a departure of theirs from it. -/
theorem isMember_applied {members : MemberIndex} {changed room : RoomId} {user : UserId}
    {target : Option (Membership × UserId)} (named : RoomStore.target content key = .ok target)
    (stays : changed = room → ¬IsDeparture content key user)
    (joined : members.isMember room user = true) :
    (applied members changed target).isMember room user = true := by
  rw [MemberIndex.isMember_iff] at joined ⊢
  cases target with
  | none => exact joined
  | some change =>
    obtain ⟨membership, subject⟩ := change
    obtain ⟨displayName, rfl, parsed⟩ := target_eq_ok_some_iff.mp named
    have text : subject.text = key := Id.text_of_parse parsed
    -- Whoever leaves or is banned is somebody else, or it is another room.
    have left (departs : membership = .leave ∨ membership = .ban) :
        user ∈ (members.leave changed subject).members room := by
      rw [MemberIndex.members_leave]
      split
      next same =>
        subst same
        refine Ascending.mem_erase.mpr ⟨joined, ?_⟩
        rintro rfl
        rcases departs with rfl | rfl <;> exact stays rfl text.symm
      next => exact joined
    cases membership with
    | join =>
      change user ∈ (members.join changed subject).members room
      rw [MemberIndex.members_join]
      split
      next same =>
        subst same
        exact Ascending.mem_insert.mpr (.inr joined)
      next => exact joined
    | leave => exact left (.inl rfl)
    | ban => exact left (.inr rfl)
    | invite => exact joined
    | knock => exact joined

end RoomStore

namespace Hub

variable {hub : Hub} {operation : Operation} {user : UserId} {room : RoomId}

/-- Whether an operation takes a user out of a room. -/
def Removes (hub : Hub) (operation : Operation) (user : UserId) (room : RoomId) : Prop :=
  hub.rooms.members.isMember room user = true ∧
    (hub.perform operation).rooms.members.isMember room user = false

/-! ### Single operations -/

/-- A piece of state leaves a user in a room, unless it is a departure of theirs from it. -/
theorem isMember_setState {stamp : Stamp} {sender : UserId} {changed : RoomId}
    {content : StateContent} {key : String} (stays : changed = room → ¬IsDeparture content key user)
    (joined : hub.rooms.members.isMember room user = true) :
    (hub.setState stamp sender changed content key).2.rooms.members.isMember room user = true := by
  obtain ⟨e, refused⟩ | ⟨state, target, -, named, set⟩ :=
    hub.setState_cases stamp sender changed content key
  · rw [refused]
    exact joined
  · rw [set]
    exact RoomStore.isMember_applied named stays joined

/-- Whoever makes a room and joins it takes nobody out of one. -/
theorem isMember_createRoom (first second : Stamp) (made : RoomId) (creator : UserId)
    (joined : hub.rooms.members.isMember room user = true) :
    (hub.createRoom first second made creator).2.rooms.members.isMember room user = true := by
  cases new : hub.rooms.hasRoom made with
  | true =>
    rw [createRoom_of_hasRoom new]
    exact joined
  | false =>
    rw [createRoom_eq new]
    have created : ((hub.afterCreation made).setState first creator made (.create creator)
        "").2.rooms.members.isMember room user = true := isMember_setState (fun _ => id) joined
    exact isMember_setState (fun _ => id) created

/-- Only a departure of a user from a room takes them out of it. -/
theorem Removes.exists_departure (removes : hub.Removes operation user room) :
    ∃ stamp sender content key, operation = .setState stamp sender room content key ∧
      IsDeparture content key user := by
  obtain ⟨joined, gone⟩ := removes
  -- Any other operation would have left them in the room.
  have absurd_of_joined {P : Prop}
      (still : (hub.perform operation).rooms.members.isMember room user = true) : P := by
    rw [gone] at still
    contradiction
  by_cases touches : operation.TouchesRooms
  case neg =>
    apply absurd_of_joined
    rw [rooms_perform hub touches]
    exact joined
  cases operation with
  | setState stamp sender changed content key =>
    by_cases departs : changed = room ∧ IsDeparture content key user
    · obtain ⟨rfl, departs⟩ := departs
      exact ⟨stamp, sender, content, key, rfl, departs⟩
    · exact absurd_of_joined
        (isMember_setState (fun same departure => departs ⟨same, departure⟩) joined)
  | createRoom first second made creator =>
    exact absurd_of_joined (isMember_createRoom first second made creator joined)
  | _ => exact touches.elim

/-! ### Sequences of operations -/

/-- Whoever was in a room is still in it after some operations, or one of them has taken them
out. -/
theorem isMember_run_or (operations : List Operation)
    (joined : hub.rooms.members.isMember room user = true) :
    (hub.run operations).rooms.members.isMember room user = true ∨
      ∃ earlier operation, earlier ++ [operation] <+: operations ∧
        (hub.run earlier).Removes operation user room := by
  induction operations using List.reverseRecOn with
  | nil => exact .inl joined
  | append_singleton front last ih =>
    rw [run_concat, exists_step_concat_iff]
    rcases ih with still_joined | removed
    · cases left : ((hub.run front).perform last).rooms.members.isMember room user with
      | true => exact .inl rfl
      | false => exact .inr (.inr ⟨still_joined, left⟩)
    · exact .inr (.inl removed)

end Hub

end ChatFeed
