import ChatFeed.Proofs.Collection.Latest
import ChatFeed.Proofs.Room.Relation
import Mathlib.Tactic.TFAE

/-!
# Who has joined which room

The index of memberships is written from both sides by every change, and read from either. After any
number of changes the two sides still are one relation: a user is in a room if the last thing that
was said of them there is that they have joined. An invitation or a knock says nothing.

## Main definitions

* `MemberIndex.Operation`, `MemberIndex.run`: what can be done to an index
* `MemberIndex.lastMembership?`: what was last said of a user in a room
* `MemberIndex.IsTidy`: the lists of one side are ascending, and there is none that is empty

## Main results

* `MemberIndex.mem_members_run_iff`: those are in a room of whom it was last said that they joined
* `MemberIndex.IsTidy.link`, `MemberIndex.IsTidy.unlink`: writing keeps a side tidy
* `MemberIndex.one_relation_from_both_sides`: what is read of an index, from either side
-/

namespace ChatFeed

/-- Whether a membership lets a user in or out. -/
def Membership.isSettled : Membership → Bool
  | .join | .leave | .ban => true
  | .invite | .knock => false

namespace MemberIndex

/-- What can be done to an index. -/
inductive Operation where
  | join (room : RoomId) (user : UserId)
  | leave (room : RoomId) (user : UserId)
  | apply (room : RoomId) (user : UserId) (membership : Membership)

namespace Operation

/-- The room in which an operation changes a membership. -/
def room : Operation → RoomId
  | join room _ | leave room _ | apply room _ _ => room

/-- The user whose membership it changes. -/
def user : Operation → UserId
  | join _ user | leave _ user | apply _ user _ => user

/-- The membership that it gives. -/
def membership : Operation → Membership
  | join _ _ => .join
  | leave _ _ => .leave
  | apply _ _ membership => membership

end Operation

/-- The index after an operation. -/
def perform (index : MemberIndex) : Operation → MemberIndex
  | .join room user => index.join room user
  | .leave room user => index.leave room user
  | .apply room user membership => index.apply room user membership

/-- The index after operations on one that is empty. -/
def run (operations : List Operation) : MemberIndex :=
  operations.foldl perform {}

/-- The last membership that lets a user in or out of a room. -/
def lastMembership? (operations : List Operation) (room : RoomId) (user : UserId) :
    Option Membership :=
  (latest? (fun operation => (operation.room, operation.user))
    (operations.filter (·.membership.isSettled)) (room, user)).map (·.membership)

variable {index : MemberIndex} {operation : Operation} {operations : List Operation}
  {room : RoomId} {user : UserId}

theorem run_concat (operations : List Operation) (last : Operation) :
    run (operations ++ [last]) = (run operations).perform last :=
  List.foldl_append

/-- To join or to leave is to be given the membership of that name. -/
theorem perform_eq_apply (index : MemberIndex) (operation : Operation) :
    index.perform operation =
      index.apply operation.room operation.user operation.membership := by
  cases operation <;> rfl

/-! ### Members -/

/-- A membership decides about its user in its room, if it lets them in or out, and about nobody
else. -/
theorem mem_members_perform_iff : user ∈ (index.perform operation).members room ↔
    if (operation.room = room ∧ operation.user = user) ∧ operation.membership.isSettled then
      operation.membership = .join
    else user ∈ index.members room := by
  rw [perform_eq_apply]
  have joined : user ∈ (index.join operation.room operation.user).members room ↔
      operation.room = room ∧ operation.user = user ∨ user ∈ index.members room := mem_link
  have left : user ∈ (index.leave operation.room operation.user).members room ↔
      user ∈ index.members room ∧ ¬(operation.room = room ∧ operation.user = user) := mem_unlink
  cases operation.membership with
  | join =>
    rw [apply, joined]
    by_cases mine : operation.room = room ∧ operation.user = user <;>
      simp [mine, Membership.isSettled]
  | leave =>
    rw [apply, left]
    by_cases mine : operation.room = room ∧ operation.user = user <;>
      simp [mine, Membership.isSettled]
  | ban =>
    rw [apply, left]
    by_cases mine : operation.room = room ∧ operation.user = user <;>
      simp [mine, Membership.isSettled]
  | invite => simp [apply, Membership.isSettled]
  | knock => simp [apply, Membership.isSettled]

theorem lastMembership?_concat (operations : List Operation) (last : Operation) (room : RoomId)
    (user : UserId) : lastMembership? (operations ++ [last]) room user =
      if (last.room = room ∧ last.user = user) ∧ last.membership.isSettled then
        some last.membership
      else lastMembership? operations room user := by
  rw [lastMembership?, lastMembership?, List.filter_append]
  by_cases settled : last.membership.isSettled = true
  · have counted : [last].filter (·.membership.isSettled) = [last] := by
      simp [settled]
    rw [counted, latest?_concat]
    by_cases mine : last.room = room ∧ last.user = user <;> simp [mine, settled]
  · simp [settled]

/-- Those are in a room of whom it was last said there that they have joined. -/
theorem mem_members_run_iff : user ∈ (run operations).members room ↔
    lastMembership? operations room user = some .join := by
  induction operations using List.reverseRecOn with
  | nil => exact iff_of_false List.not_mem_nil (Option.some_ne_none _).symm
  | append_singleton front last ih =>
    rw [run_concat, mem_members_perform_iff, lastMembership?_concat]
    split
    next => exact Option.some_inj.symm
    next => exact ih

/-! ### The lists that are kept -/

section Tidy

variable {α β : Type} [DecidableEq α] [LT β] {table : Table α (List β)}

/-- Whether the lists of a table are ascending, and none of them is empty. -/
structure IsTidy (table : Table α (List β)) : Prop where
  ascending (a : α) : (table.getD a []).Pairwise (· < ·)
  nonempty (a : α) : table.get? a ≠ some []

theorem isTidy_empty : IsTidy (∅ : Table α (List β)) where
  ascending _ := .nil
  nonempty _ := (Option.some_ne_none _).symm

variable [LT α] [DecidableLT α] [DecidableEq β]

/-- The list that is written holds at least what has been added. -/
theorem IsTidy.link [DecidableLT β] [Std.Trichotomous (LT.lt : β → β → Prop)]
    [Trans (LT.lt : β → β → Prop) (LT.lt : β → β → Prop) (LT.lt : β → β → Prop)]
    (tidy : IsTidy table) (a : α) (b : β) : IsTidy (link a b table) where
  ascending := pairwise_link tidy.ascending a b
  nonempty other := by
    rw [MemberIndex.link, Table.get?_insert]
    split
    next =>
      have added : b ∈ Ascending.insert b (table.getD a []) := Ascending.mem_insert.mpr (.inl rfl)
      exact fun empty => List.ne_nil_of_mem added (Option.some.inj empty)
    next => exact tidy.nonempty other

/-- A list that has become empty is not written. -/
theorem IsTidy.unlink (tidy : IsTidy table) (a : α) (b : β) : IsTidy (unlink a b table) where
  ascending := pairwise_unlink tidy.ascending a b
  nonempty other := by
    unfold MemberIndex.unlink
    split
    next =>
      rw [Table.get?_erase]
      split
      next => exact (Option.some_ne_none _).symm
      next => exact tidy.nonempty other
    next left some_left =>
      rw [Table.get?_insert]
      split
      next => exact fun empty => some_left (Option.some.inj empty)
      next => exact tidy.nonempty other

end Tidy

/-- Whether the sides of an index say the same, and both are tidy. -/
structure IsSound (index : MemberIndex) : Prop where
  coherent : index.IsCoherent
  roomMembers : IsTidy index.roomMembers
  userRooms : IsTidy index.userRooms

theorem isSound_empty : IsSound {} :=
  ⟨isCoherent_empty, isTidy_empty, isTidy_empty⟩

theorem IsSound.perform (sound : index.IsSound) (operation : Operation) :
    (index.perform operation).IsSound := by
  have joined (room : RoomId) (user : UserId) : (index.join room user).IsSound :=
    ⟨sound.coherent.join room user, sound.roomMembers.link room user,
      sound.userRooms.link user room⟩
  have left (room : RoomId) (user : UserId) : (index.leave room user).IsSound :=
    ⟨sound.coherent.leave room user, sound.roomMembers.unlink room user,
      sound.userRooms.unlink user room⟩
  rw [perform_eq_apply]
  cases operation.membership with
  | join => exact joined operation.room operation.user
  | leave => exact left operation.room operation.user
  | ban => exact left operation.room operation.user
  | invite => exact sound
  | knock => exact sound

theorem isSound_run (operations : List Operation) : (run operations).IsSound := by
  induction operations using List.reverseRecOn with
  | nil => exact isSound_empty
  | append_singleton front last ih =>
    rw [run_concat]
    exact ih.perform last

/-- After any operations, those are members of a room who have it among their rooms, and of whom it
was last said there that they have joined. All lists are ascending, and an empty one is not kept.
The peers of a user are the user and the members of the user's rooms, and whoever has a peer is a
peer of theirs. -/
theorem one_relation_from_both_sides (operations : List Operation) :
    (∀ room user, [
      user ∈ (run operations).members room,
      room ∈ (run operations).rooms user,
      (run operations).isMember room user = true,
      lastMembership? operations room user = some .join].TFAE) ∧
    (∀ room, ((run operations).members room).Pairwise (· < ·)) ∧
    (∀ user, ((run operations).rooms user).Pairwise (· < ·)) ∧
    (∀ room, (run operations).roomMembers.get? room ≠ some []) ∧
    (∀ user, (run operations).userRooms.get? user ≠ some []) ∧
    ∀ user peer,
      (peer ∈ (run operations).peers user ↔ peer = user ∨
        ∃ room ∈ (run operations).rooms user, peer ∈ (run operations).members room) ∧
      (peer ∈ (run operations).peers user ↔ user ∈ (run operations).peers peer) := by
  have sound : (run operations).IsSound := isSound_run operations
  refine ⟨fun room user => ?_, sound.roomMembers.ascending, sound.userRooms.ascending,
    sound.roomMembers.nonempty, sound.userRooms.nonempty,
    fun user peer => ⟨mem_peers_iff, sound.coherent.mem_peers_comm⟩⟩
  tfae_have 1 ↔ 2 := sound.coherent room user
  tfae_have 3 ↔ 1 := isMember_iff
  tfae_have 1 ↔ 4 := mem_members_run_iff
  tfae_finish

end MemberIndex

end ChatFeed
