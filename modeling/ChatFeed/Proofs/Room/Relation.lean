import ChatFeed.Proofs.Collection.Ascending
import ChatFeed.Proofs.Id
import ChatFeed.Room.Members

/-!
# Membership as a relation

The rooms of a user and the members of a room are two sides of one relation, since
every change is made on both. So whoever shares a room with another shares it both ways.

## Main definitions

* `MemberIndex.IsCoherent`: both sides say the same
* `MemberIndex.IsAscending`: no member of a room is listed twice

## Main results

* `MemberIndex.IsCoherent.apply`, `MemberIndex.IsAscending.apply`: a membership keeps it so
* `MemberIndex.IsCoherent.mem_peers_comm`: being a peer is symmetric
-/

namespace ChatFeed.MemberIndex

section Links

variable {α β : Type} [DecidableEq α] [LT α] [DecidableLT α] [DecidableEq β]
  {a a' : α} {b b' : β} {table : Table α (List β)}

/-- Adding a link changes what is read at one key. -/
theorem getD_link [LT β] [DecidableLT β] : (link a b table).getD a' [] =
    if a = a' then Ascending.insert b (table.getD a []) else table.getD a' [] := by
  rw [link, Table.getD, Table.get?_insert]
  split <;> rfl

/-- So does removing one. A list that becomes empty is erased, and reads as empty all the same. -/
theorem getD_unlink : (unlink a b table).getD a' [] =
    if a = a' then Ascending.erase b (table.getD a []) else table.getD a' [] := by
  unfold unlink
  split
  next nothing =>
    rw [Table.getD, Table.get?_erase, nothing]
    split <;> rfl
  next =>
    rw [Table.getD, Table.get?_insert]
    split <;> rfl

theorem mem_link [LT β] [DecidableLT β] :
    b' ∈ (link a b table).getD a' [] ↔ a = a' ∧ b = b' ∨ b' ∈ table.getD a' [] := by
  rw [getD_link]
  split
  next same =>
    subst same
    simp [eq_comm]
  next distinct => simp [distinct]

theorem mem_unlink :
    b' ∈ (unlink a b table).getD a' [] ↔ b' ∈ table.getD a' [] ∧ ¬(a = a' ∧ b = b') := by
  rw [getD_unlink]
  split
  next same =>
    subst same
    simp [eq_comm]
  next distinct => simp [distinct]

/-- Lists that are in order stay so when a link is added. -/
theorem pairwise_link [LT β] [DecidableLT β] [Std.Trichotomous (LT.lt : β → β → Prop)]
    [Trans (LT.lt : β → β → Prop) (LT.lt : β → β → Prop) (LT.lt : β → β → Prop)]
    (ascending : ∀ a, (table.getD a []).Pairwise (· < ·)) (a : α) (b : β) (other : α) :
    ((link a b table).getD other []).Pairwise (· < ·) := by
  rw [getD_link]
  split
  next => exact Ascending.pairwise_insert (ascending a) b
  next => exact ascending other

theorem pairwise_unlink [LT β] (ascending : ∀ a, (table.getD a []).Pairwise (· < ·)) (a : α)
    (b : β) (other : α) : ((unlink a b table).getD other []).Pairwise (· < ·) := by
  rw [getD_unlink]
  split
  next => exact Ascending.pairwise_erase (ascending a) b
  next => exact ascending other

end Links

/-- Whether the members of rooms and the rooms of users say the same. -/
def IsCoherent (index : MemberIndex) : Prop :=
  ∀ room user, user ∈ index.members room ↔ room ∈ index.rooms user

variable {index : MemberIndex}

theorem isMember_iff {room : RoomId} {user : UserId} :
    index.isMember room user = true ↔ user ∈ index.members room := by
  rw [isMember, List.contains_iff_mem]

theorem isCoherent_empty : IsCoherent {} :=
  fun _ _ => iff_of_false List.not_mem_nil List.not_mem_nil

theorem members_join (room room' : RoomId) (user : UserId) :
    (index.join room user).members room' =
      if room = room' then Ascending.insert user (index.members room) else index.members room' :=
  getD_link

theorem members_leave (room room' : RoomId) (user : UserId) :
    (index.leave room user).members room' =
      if room = room' then Ascending.erase user (index.members room) else index.members room' :=
  getD_unlink

theorem rooms_join (room : RoomId) (user user' : UserId) :
    (index.join room user).rooms user' =
      if user = user' then Ascending.insert room (index.rooms user) else index.rooms user' :=
  getD_link

theorem rooms_leave (room : RoomId) (user user' : UserId) :
    (index.leave room user).rooms user' =
      if user = user' then Ascending.erase room (index.rooms user) else index.rooms user' :=
  getD_unlink

theorem IsCoherent.join (coherent : index.IsCoherent) (room : RoomId) (user : UserId) :
    (index.join room user).IsCoherent := by
  intro room' user'
  change user' ∈ (link room user index.roomMembers).getD room' [] ↔
    room' ∈ (link user room index.userRooms).getD user' []
  rw [mem_link, mem_link, and_comm]
  exact or_congr_right (coherent room' user')

theorem IsCoherent.leave (coherent : index.IsCoherent) (room : RoomId) (user : UserId) :
    (index.leave room user).IsCoherent := by
  intro room' user'
  change user' ∈ (unlink room user index.roomMembers).getD room' [] ↔
    room' ∈ (unlink user room index.userRooms).getD user' []
  rw [mem_unlink, mem_unlink, @and_comm (room = room')]
  exact and_congr_left' (coherent room' user')

theorem IsCoherent.apply (coherent : index.IsCoherent) (room : RoomId) (user : UserId)
    (membership : Membership) : (index.apply room user membership).IsCoherent := by
  cases membership with
  | join => exact coherent.join room user
  | leave => exact coherent.leave room user
  | ban => exact coherent.leave room user
  | invite => exact coherent
  | knock => exact coherent

/-! ### Lists of members -/

/-- Whether the members of every room are listed in ascending order. -/
def IsAscending (index : MemberIndex) : Prop :=
  ∀ room, (index.members room).Pairwise (· < ·)

theorem isAscending_empty : IsAscending {} :=
  fun _ => .nil

theorem IsAscending.join (ascending : index.IsAscending) (room : RoomId) (user : UserId) :
    (index.join room user).IsAscending :=
  pairwise_link ascending room user

theorem IsAscending.leave (ascending : index.IsAscending) (room : RoomId) (user : UserId) :
    (index.leave room user).IsAscending :=
  pairwise_unlink ascending room user

theorem IsAscending.apply (ascending : index.IsAscending) (room : RoomId) (user : UserId)
    (membership : Membership) : (index.apply room user membership).IsAscending := by
  cases membership with
  | join => exact ascending.join room user
  | leave => exact ascending.leave room user
  | ban => exact ascending.leave room user
  | invite => exact ascending
  | knock => exact ascending

/-! ### Peers -/

theorem mem_peers_iff {user peer : UserId} : peer ∈ index.peers user ↔
    peer = user ∨ ∃ room ∈ index.rooms user, peer ∈ index.members room := by
  rw [peers, Ascending.mem_insert, Ascending.mem_ofList, List.mem_flatMap]

/-- Whoever has a user as a peer is a peer of that user. -/
theorem IsCoherent.mem_peers_comm (coherent : index.IsCoherent) {user peer : UserId} :
    peer ∈ index.peers user ↔ user ∈ index.peers peer := by
  have shared (one other : UserId) (mem : other ∈ index.peers one) : one ∈ index.peers other := by
    rw [mem_peers_iff] at mem ⊢
    rcases mem with same | ⟨room, joined, member⟩
    · exact .inl same.symm
    · exact .inr ⟨room, (coherent room other).mp member, (coherent room one).mpr joined⟩
  exact ⟨shared user peer, shared peer user⟩

theorem nodup_peers (index : MemberIndex) (user : UserId) : (index.peers user).Nodup :=
  Ascending.nodup_of_pairwise (Ascending.pairwise_insert (Ascending.pairwise_ofList _) user)

end ChatFeed.MemberIndex
