import ChatFeed.Proofs.Hub.Answer
import ChatFeed.Proofs.Hub.Membership
import ChatFeed.Proofs.Hub.Typing

/-!
# Who is typing

Members say of themselves whether they are typing, and nothing else changes who is. So whoever
leaves a room or is banned from it while typing goes on being listed, and as others may not write to
the room they cannot even take it back. Apart from these, only members are typing.

## Main definitions

* `Hub.Sets`: a member says whether they are typing
* `Hub.TypesSince`: a member has said that they are typing and has not taken it back

## Main results

* `Hub.mem_typingUsers_run_iff`: who is typing after a run
* `Hub.typist_joined_unless_removed`: whoever is typing is a member unless they have been taken out
  of the room since
* `Hub.exists_typist_outside`: such a user goes on being listed, and others are told so
-/

namespace ChatFeed.Hub

variable {hub start : Hub} {now : Instant} {user typist : UserId} {room changed : RoomId}
  {isTyping : Bool} {operation : Operation} {operations : List Operation}

/-- Whether an operation is that a user who may do so sets whether they are typing in a room. -/
structure Sets (hub : Hub) (operation : Operation) (user : UserId) (room : RoomId)
    (isTyping : Bool) : Prop where
  eq : ∃ now, operation = .setTyping now user room isTyping
  allowed : hub.writeError? user room = none

/-! ### Single operations -/

/-- Only the user who is named sets whether they are typing, and only if they may. -/
theorem sets_setTyping_iff {said : Bool} :
    hub.Sets (.setTyping now typist changed isTyping) user room said ↔
      (typist = user ∧ changed = room) ∧ isTyping = said ∧
        hub.writeError? typist changed = none := by
  constructor
  · rintro ⟨⟨_, same⟩, allowed⟩
    obtain ⟨-, rfl, rfl, rfl⟩ := Operation.setTyping.inj same
    exact ⟨⟨rfl, rfl⟩, rfl, allowed⟩
  · rintro ⟨⟨rfl, rfl⟩, rfl, allowed⟩
    exact ⟨⟨now, rfl⟩, allowed⟩

theorem typingUsers_afterTyping (hub : Hub) (now : Instant) (typist : UserId) (room : RoomId)
    (isTyping : Bool) :
    (hub.afterTyping now typist room isTyping).typingUsers room =
      hub.typingAfter typist room isTyping := by
  have set : (hub.typing.insert room (hub.typingAfter typist room isTyping)).get? room =
      some (hub.typingAfter typist room isTyping) := Table.get?_insert_self _ _ _
  change (hub.typing.insert room (hub.typingAfter typist room isTyping)).getD room [] = _
  rw [Table.getD, set, Option.getD_some]

/-- Setting whether one is typing changes that for nobody else, and in no other room. -/
theorem mem_typingUsers_afterTyping_iff :
    user ∈ (hub.afterTyping now typist changed isTyping).typingUsers room ↔
      if typist = user ∧ changed = room then isTyping = true else user ∈ hub.typingUsers room := by
  by_cases same_room : changed = room
  · subst same_room
    rw [typingUsers_afterTyping, typingAfter]
    by_cases same_user : typist = user
    · subst same_user
      cases isTyping <;> simp
    · cases isTyping <;> simp [same_user, Ne.symm same_user]
  · rw [typingUsers_afterTyping_of_ne same_room, if_neg (fun same => same_room same.2)]

/-- Whoever is typing has just said so, or was typing before and has not just taken it back. -/
theorem mem_typingUsers_perform_iff :
    user ∈ (hub.perform operation).typingUsers room ↔
      hub.Sets operation user room true ∨
        user ∈ hub.typingUsers room ∧ ¬hub.Sets operation user room false := by
  obtain ⟨now, typist, changed, isTyping, rfl⟩ | ⟨other, unchanged⟩ :=
    hub.setTyping_or_sameTyping operation
  · rw [sets_setTyping_iff, sets_setTyping_iff, perform]
    cases allowed : hub.writeError? typist changed with
    | some e =>
      have refused : (hub.setTyping now typist changed isTyping).2 = hub := by
        rw [setTyping, allowed]
      simp [refused]
    | none =>
      rw [setTyping_eq allowed, mem_typingUsers_afterTyping_iff]
      by_cases mine : typist = user ∧ changed = room
      · cases isTyping <;> simp [mine]
      · simp [mine]
  · have unset (said : Bool) : ¬hub.Sets operation user room said := by
      rintro ⟨⟨now, same⟩, -⟩
      exact other now user room said same
    rw [typingUsers, unchanged.typing]
    simp [unset, typingUsers]

/-! ### Sequences of operations -/

/-- Whether a user who was let do so has said at `now` that they are typing in a room, between the
operations `earlier` and the operations `later`, and has not been let take it back among the
latter. -/
structure TypesSince (start : Hub) (earlier : List Operation) (now : Instant)
    (later : List Operation) (user : UserId) (room : RoomId) : Prop where
  allowed : (start.run earlier).writeError? user room = none
  kept : ∀ before operation, before ++ [operation] <+: later →
    ¬(start.run (earlier ++ .setTyping now user room true :: before)).Sets operation user room false

theorem TypesSince.concat {earlier later : List Operation}
    (types : start.TypesSince earlier now later user room)
    (kept : ¬(start.run (earlier ++ .setTyping now user room true :: later)).Sets operation user
      room false) : start.TypesSince earlier now (later ++ [operation]) user room where
  allowed := types.allowed
  kept := forall_step_concat_iff.mpr ⟨types.kept, kept⟩

/-- Those are typing who have said so and have not taken it back. -/
theorem mem_typingUsers_run_iff (config : Config) (sink : Option Sink)
    (operations : List Operation) :
    user ∈ ((ofConfig config sink).run operations).typingUsers room ↔
      ∃ earlier now later, operations = earlier ++ .setTyping now user room true :: later ∧
        (ofConfig config sink).TypesSince earlier now later user room := by
  induction operations using List.reverseRecOn with
  | nil =>
    refine iff_of_false List.not_mem_nil ?_
    rintro ⟨earlier, now, later, nothing, -⟩
    simp at nothing
  | append_singleton front last ih =>
    rw [run_concat, mem_typingUsers_perform_iff, ih]
    constructor
    · rintro (⟨⟨now, rfl⟩, allowed⟩ | ⟨⟨earlier, now, later, rfl, types⟩, kept⟩)
      · refine ⟨front, now, [], rfl, allowed, ?_⟩
        intro before operation begins
        simpa using List.prefix_nil.mp begins
      · refine ⟨earlier, now, later ++ [last], ?_, types.concat kept⟩
        rw [List.append_assoc, List.cons_append]
    · rintro ⟨earlier, now, later, same, types⟩
      induction later using List.reverseRecOn with
      | nil =>
        obtain ⟨rfl, rfl⟩ := List.append_singleton_inj.mp same
        exact .inl ⟨⟨now, rfl⟩, types.allowed⟩
      | append_singleton later newest _ =>
        rw [← List.cons_append, ← List.append_assoc] at same
        obtain ⟨rfl, rfl⟩ := List.append_singleton_inj.mp same
        obtain ⟨kept, kept_last⟩ := forall_step_concat_iff.mp types.kept
        exact .inr ⟨⟨earlier, now, later, rfl, types.allowed, kept⟩, kept_last⟩

/-- Whoever has said that they are typing is a member of the room, or has been taken out of it since
by being said to have left or been banned. -/
theorem TypesSince.joined_or_removed {earlier later : List Operation}
    (types : start.TypesSince earlier now later user room) :
    (start.run (earlier ++ .setTyping now user room true :: later)).rooms.members.isMember room
        user = true ∨
      ∃ before stamp sender content key,
        before ++ [.setState stamp sender room content key] <+: later ∧
        (start.run (earlier ++ .setTyping now user room true :: before)).Removes
          (.setState stamp sender room content key) user room ∧
        IsDeparture content key user := by
  have run_from (rest : List Operation) :
      start.run (earlier ++ .setTyping now user room true :: rest) =
        ((start.run earlier).perform (.setTyping now user room true)).run rest :=
    start.run_append earlier _
  have joined : ((start.run earlier).perform (.setTyping now user room true)).rooms.members.isMember
      room user = true := by
    rw [perform, setTyping_eq types.allowed]
    exact (writeError?_eq_none_iff.mp types.allowed).2
  rw [run_from]
  refine (isMember_run_or later joined).imp_right ?_
  rintro ⟨before, operation, begins, removes⟩
  obtain ⟨stamp, sender, content, key, rfl, departs⟩ := removes.exists_departure
  refine ⟨before, stamp, sender, content, key, begins, ?_, departs⟩
  rw [run_from]
  exact removes

/-! ### Who is typing -/

/-- Those are typing in a room who were let say so and have not been let take it back. Each of them
is a member of the room, or has since been taken out of it by being said to have left or been
banned. What the answer to a sync says of a room is who is typing there when the answer is
collected. -/
theorem typist_joined_unless_removed (config : Config) (sink : Option Sink)
    (operations : List Operation) :
    let start := ofConfig config sink
    let hub := start.run operations
    (∀ room user, user ∈ hub.typingUsers room ↔
      ∃ earlier now later, operations = earlier ++ .setTyping now user room true :: later ∧
        start.TypesSince earlier now later user room) ∧
    (∀ room user earlier now later,
      operations = earlier ++ .setTyping now user room true :: later →
      start.TypesSince earlier now later user room →
      hub.rooms.members.isMember room user = true ∨
        ∃ before stamp sender content key,
          before ++ [.setState stamp sender room content key] <+: later ∧
          (start.run (earlier ++ .setTyping now user room true :: before)).Removes
            (.setState stamp sender room content key) user room ∧
          IsDeparture content key user) ∧
    ∀ reader token timeout collected response,
      hub.Answers reader token timeout collected response →
      (∃ more, collected.hub = start.run (operations ++ more)) ∧
        ∀ entry ∈ response.typing, ∃ room, entry.room = some room ∧
          entry.content = .typing (collected.hub.typingUsers room) := by
  intro start hub
  refine ⟨fun room user => mem_typingUsers_run_iff config sink operations, ?_, ?_⟩
  · rintro room user earlier now later same types
    have outcome := types.joined_or_removed
    rwa [← same] at outcome
  · intro reader token timeout collected response answers
    obtain ⟨⟨more, reached⟩, since, -, gives⟩ := answers.exists_collect
    have from_start : collected.hub = start.run (operations ++ more) := by
      rw [reached, run_append]
    have holds : collected.hub.HoldsTyping := by
      rw [from_start]
      exact holdsTyping_run config sink _
    obtain ⟨-, typing, -⟩ := parts_of_collect gives
    refine ⟨⟨more, from_start⟩, fun entry mem => ?_⟩
    rw [typing] at mem
    obtain ⟨room, in_room, content, -⟩ := exists_of_mem_missedTyping holds mem
    exact ⟨room, in_room, content⟩

section Unnoticed

open Reader

/-- A guest starts typing, and then leaves. -/
def unnoticed : List Operation :=
  [.createRoom (drawn 0) (drawn 1) lobby host,
    .setState (drawn 2) host lobby (.member .join none) guest.text,
    .setTyping epoch guest lobby true,
    .setState (drawn 3) guest lobby (.member .leave none) guest.text]

/-- The guest who has left is listed as typing, the host is told so, and the guest may not take it
back. -/
theorem exists_typist_outside :
    let hub := (ofConfig smallPages none).run unnoticed
    guest ∈ hub.typingUsers lobby ∧ hub.rooms.members.isMember lobby guest = false ∧
      (∃ response, (hub.sync stopped host none (some 0)).1 = .ok (.done response) ∧
        ∃ entry ∈ response.typing, entry.room = some lobby ∧ entry.content = .typing [guest]) ∧
      (hub.setTyping epoch guest lobby false).1 = .error (.forbidden guest lobby) := by
  have given :
      (((ofConfig smallPages none).run unnoticed).collect stopped host {}).toOption.isSome := by
    decide +kernel
  obtain ⟨response, collected⟩ := exists_of_isSome_toOption given
  obtain ⟨-, typing, -⟩ := parts_of_collect collected
  refine ⟨by decide +kernel, by decide +kernel,
    ⟨response, sync_without_wait rfl collected, ?_⟩, by decide +kernel⟩
  rw [typing]
  decide +kernel

end Unnoticed

end ChatFeed.Hub
