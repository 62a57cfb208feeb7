import ChatFeed.Proofs.Hub.Audience
import Mathlib.Data.List.Induction

/-!
# What a hub refuses

A write touches several stores one after another, and some of them could fail after others have
been changed. None does: whatever could be wrong is found before anything is written. A membership
has to be given to a user, the room has to have been made, and whoever sends a message or is typing
has to be in it. A room that has been found has members who can be told, so past these checks there
is nothing that fails, and what fails has changed nothing.

## Main definitions

* `NamesNobody`: a piece of state is a membership for what is no user
* `Hub.Refuses`: the errors with which writes are refused

## Main results

* `Hub.write_cases`: a write is refused and changes nothing, or succeeds
* `Hub.hasRoom_run_iff`: the rooms there are have been made
* `Hub.refuses_exactly`: a hub refuses what it should, and nothing is left behind
-/

namespace ChatFeed

/-- Whether a piece of state is a membership, but its key is no user id. -/
def NamesNobody (content : StateContent) (key : String) : Prop :=
  match content with
  | .member _ _ => ∀ user, Id.parse .user key ≠ .ok user
  | _ => False

/-- A target is not found exactly if nobody is named. -/
theorem RoomStore.target_eq_error_iff {content : StateContent} {key : String} {e : RoomError} :
    target content key = .error e ↔ NamesNobody content key ∧ e = .invalidStateKey key := by
  cases content with
  | member membership displayName =>
    rw [target, NamesNobody]
    cases Id.parse .user key <;> simp [eq_comm]
  | create creator => simp [target, NamesNobody]
  | name name => simp [target, NamesNobody]
  | topic topic => simp [target, NamesNobody]

namespace Hub

/-- The user who has to be in a room to write to it. -/
def Write.writer? : Write → Option (UserId × RoomId)
  | message _ sender room _ _ => some (sender, room)
  | typing _ user room _ => some (user, room)
  | state _ _ _ _ _ | availability _ _ _ _ | profile _ _ _ => none

/-- The errors with which writes are refused. -/
inductive Refuses (hub : Hub) : Write → HubError → Prop where
  /-- A membership is for nobody, whether the room is there or not. -/
  | nobody (stamp : Stamp) (sender : UserId) (room : RoomId) (content : StateContent) (key : String)
    (unnamed : NamesNobody content key) :
    hub.Refuses (.state stamp sender room content key) (.room (.invalidStateKey key))
  /-- State is set in a room that is not there. -/
  | noState (stamp : Stamp) (sender : UserId) (room : RoomId) (content : StateContent)
    (key : String) (named : ¬NamesNobody content key) (missing : hub.rooms.hasRoom room = false) :
    hub.Refuses (.state stamp sender room content key) (.notFound room)
  /-- A user writes to a room that is not there. -/
  | noRoom {write : Write} (user : UserId) (room : RoomId)
    (writer : write.writer? = some (user, room)) (missing : hub.rooms.hasRoom room = false) :
    hub.Refuses write (.notFound room)
  /-- A user writes to a room in which they are not. -/
  | outsider {write : Write} (user : UserId) (room : RoomId)
    (writer : write.writer? = some (user, room)) (found : hub.rooms.hasRoom room = true)
    (outside : hub.rooms.members.isMember room user = false) :
    hub.Refuses write (.forbidden user room)

variable {hub : Hub} {write : Write} {user : UserId} {room : RoomId} {e : HubError}
  {first second : Stamp}

/-! ### Single writes -/

theorem writeError?_eq_some_iff : hub.writeError? user room = some e ↔
    hub.rooms.hasRoom room = false ∧ e = .notFound room ∨
      hub.rooms.hasRoom room = true ∧ hub.rooms.members.isMember room user = false ∧
        e = .forbidden user room := by
  unfold writeError?
  cases hub.rooms.hasRoom room <;> cases hub.rooms.members.isMember room user <;> simp [eq_comm]

/-- Whoever may not write to a room is refused, for the reason for which they may not. -/
theorem refuses_iff_of_writer (writer : write.writer? = some (user, room)) :
    hub.Refuses write e ↔ hub.writeError? user room = some e := by
  rw [writeError?_eq_some_iff]
  constructor
  · intro refuses
    -- State is written by nobody in this sense, and any other refusal is about the same writer.
    cases refuses with
    | nobody => cases writer
    | noState => cases writer
    | noRoom other found same missing =>
      obtain ⟨rfl, rfl⟩ := Prod.mk.inj (Option.some.inj (same.symm.trans writer))
      exact .inl ⟨missing, rfl⟩
    | outsider other found same there outside =>
      obtain ⟨rfl, rfl⟩ := Prod.mk.inj (Option.some.inj (same.symm.trans writer))
      exact .inr ⟨there, outside, rfl⟩
  · rintro (⟨missing, rfl⟩ | ⟨found, outside, rfl⟩)
    · exact .noRoom user room writer missing
    · exact .outsider user room writer found outside

/-- State is refused for its target, and for the room if the target is named. -/
theorem refuses_state_iff {stamp : Stamp} {sender : UserId} {content : StateContent}
    {key : String} :
    hub.Refuses (.state stamp sender room content key) e ↔
      NamesNobody content key ∧ e = .room (.invalidStateKey key) ∨
        ¬NamesNobody content key ∧ hub.rooms.hasRoom room = false ∧ e = .notFound room := by
  constructor
  · intro refuses
    cases refuses with
    | nobody _ _ _ _ _ unnamed => exact .inl ⟨unnamed, rfl⟩
    | noState _ _ _ _ _ named missing => exact .inr ⟨named, missing, rfl⟩
    | noRoom _ _ writer => cases writer
    | outsider _ _ writer => cases writer
  · rintro (⟨unnamed, rfl⟩ | ⟨named, missing, rfl⟩)
    · exact .nobody stamp sender room content key unnamed
    · exact .noState stamp sender room content key named missing

theorem setState_of_namesNobody {content : StateContent} {key : String}
    (unnamed : NamesNobody content key) (stamp : Stamp) (sender : UserId) (room : RoomId) :
    hub.setState stamp sender room content key = (.error (.room (.invalidStateKey key)), hub) := by
  rw [setState, RoomStore.setState, RoomStore.target_eq_error_iff.mpr ⟨unnamed, rfl⟩]
  rfl

theorem exists_target {content : StateContent} {key : String}
    (named : ¬NamesNobody content key) : ∃ target, RoomStore.target content key = .ok target := by
  cases found : RoomStore.target content key with
  | ok target => exact ⟨target, rfl⟩
  | error e => exact absurd (RoomStore.target_eq_error_iff.mp found).1 named

theorem setState_of_missing {content : StateContent} {key : String}
    (named : ¬NamesNobody content key) (missing : hub.rooms.hasRoom room = false)
    (stamp : Stamp) (sender : UserId) :
    hub.setState stamp sender room content key = (.error (.notFound room), hub) := by
  obtain ⟨target, targeted⟩ := exists_target named
  have nothing : hub.rooms.rooms.get? room = none :=
    Option.isNone_iff_eq_none.mp (Option.isSome_eq_false_iff.mp missing)
  rw [setState, RoomStore.setState, targeted, nothing]
  rfl

theorem exists_setState_eq_ok {content : StateContent} {key : String}
    (named : ¬NamesNobody content key) (found : hub.rooms.hasRoom room = true) (stamp : Stamp)
    (sender : UserId) : ∃ index, (hub.setState stamp sender room content key).1 = .ok index := by
  obtain ⟨state, there⟩ := Option.isSome_iff_exists.mp found
  obtain ⟨target, targeted⟩ := exists_target named
  exact ⟨_, congrArg Prod.fst (setState_eq there targeted stamp sender)⟩

/-- There is one reason to refuse a write, if any. -/
theorem Refuses.unique {e' : HubError} (refuses : hub.Refuses write e)
    (refuses' : hub.Refuses write e') : e = e' := by
  have of_writer {user : UserId} {room : RoomId} (writer : write.writer? = some (user, room)) :
      e = e' := by
    rw [refuses_iff_of_writer writer] at refuses refuses'
    exact Option.some.inj (refuses.symm.trans refuses')
  cases refuses with
  | nobody stamp sender room content key unnamed =>
    rcases refuses_state_iff.mp refuses' with ⟨-, same⟩ | ⟨named, -⟩
    · exact same.symm
    · exact absurd unnamed named
  | noState stamp sender room content key named missing =>
    rcases refuses_state_iff.mp refuses' with ⟨unnamed, -⟩ | ⟨-, -, same⟩
    · exact absurd unnamed named
    · exact same.symm
  | noRoom user room writer missing => exact of_writer writer
  | outsider user room writer found outside => exact of_writer writer

theorem not_refuses_of_allowed (writer : write.writer? = some (user, room))
    (allowed : hub.writeError? user room = none) (e : HubError) : ¬hub.Refuses write e := by
  rw [refuses_iff_of_writer writer, allowed]
  exact (Option.some_ne_none e).symm

/-- A write is refused and changes nothing, or there is no reason to refuse it and it succeeds. -/
theorem write_cases (hub : Hub) (write : Write) :
    (∃ e, hub.Refuses write e ∧ hub.write write = (.error e, hub)) ∨
      (∀ e, ¬hub.Refuses write e) ∧ ∃ index, (hub.write write).1 = .ok index := by
  cases write with
  | state stamp sender room content key =>
    by_cases unnamed : NamesNobody content key
    · exact .inl ⟨_, .nobody stamp sender room content key unnamed,
        setState_of_namesNobody unnamed stamp sender room⟩
    · cases found : hub.rooms.hasRoom room with
      | false =>
        exact .inl ⟨_, .noState stamp sender room content key unnamed found,
          setState_of_missing unnamed found stamp sender⟩
      | true =>
        refine .inr ⟨fun e refuses => ?_, exists_setState_eq_ok unnamed found stamp sender⟩
        rcases refuses_state_iff.mp refuses with ⟨nobody, -⟩ | ⟨-, missing, -⟩
        · exact unnamed nobody
        · exact Bool.eq_false_iff.mp missing found
  | message stamp sender room messageType body =>
    cases allowed : hub.writeError? sender room with
    | some e =>
      refine .inl ⟨e, (refuses_iff_of_writer rfl).mpr allowed, ?_⟩
      rw [Hub.write, sendMessage, allowed]
    | none =>
      exact .inr ⟨not_refuses_of_allowed rfl allowed, _,
        congrArg Prod.fst (sendMessage_eq allowed stamp messageType body)⟩
  | typing now user room isTyping =>
    cases allowed : hub.writeError? user room with
    | some e =>
      refine .inl ⟨e, (refuses_iff_of_writer rfl).mpr allowed, ?_⟩
      rw [Hub.write, setTyping, allowed]
    | none =>
      exact .inr ⟨not_refuses_of_allowed rfl allowed, _,
        congrArg Prod.fst (setTyping_eq allowed now isTyping)⟩
  | availability now user status statusMessage =>
    refine .inr ⟨fun e refuses => ?_, _, congrArg Prod.fst (setAvailability_eq hub now user _ _)⟩
    cases refuses with
    | noRoom _ _ writer => cases writer
    | outsider _ _ writer => cases writer
  | profile now user shown =>
    refine .inr ⟨fun e refuses => ?_, _, congrArg Prod.fst (setProfile_eq hub now user shown)⟩
    cases refuses with
    | noRoom _ _ writer => cases writer
    | outsider _ _ writer => cases writer

/-- A write fails with the error with which it is refused. -/
theorem write_eq_error_iff : (hub.write write).1 = .error e ↔ hub.Refuses write e := by
  obtain ⟨found, refuses, refused⟩ | ⟨allowed, index, written⟩ := hub.write_cases write
  · rw [refused, Except.error.injEq]
    constructor
    · rintro rfl
      exact refuses
    · exact refuses.unique
  · rw [written]
    exact iff_of_false nofun (allowed e)

/-! ### Making rooms -/

theorem hasRoom_setState (stamp : Stamp) (sender : UserId) (room : RoomId)
    (content : StateContent) (key : String) (other : RoomId) :
    (hub.setState stamp sender room content key).2.rooms.hasRoom other =
      hub.rooms.hasRoom other := by
  obtain ⟨e, refused⟩ | ⟨state, target, found, -, set⟩ :=
    hub.setState_cases stamp sender room content key
  · rw [refused]
  · rw [set]
    exact RoomStore.hasRoom_settle found _ _ _ _ other

/-- Making a room makes that room. -/
theorem hasRoom_createRoom (first second : Stamp) (made : RoomId) (creator : UserId)
    (other : RoomId) : (hub.createRoom first second made creator).2.rooms.hasRoom other = true ↔
      hub.rooms.hasRoom other = true ∨ made = other := by
  cases new : hub.rooms.hasRoom made with
  | true =>
    rw [createRoom_of_hasRoom new]
    refine (or_iff_left_of_imp ?_).symm
    rintro rfl
    exact new
  | false =>
    rw [createRoom_eq new, hasRoom_setState, hasRoom_setState, afterCreation, RoomStore.hasRoom,
      Table.contains, Table.get?_insert]
    split
    next same => exact iff_of_true rfl (.inr same)
    next distinct => exact (or_iff_left distinct).symm

theorem createRoom_eq_false_iff {creator : UserId} :
    (hub.createRoom first second room creator).1 = .ok false ↔ hub.rooms.hasRoom room = true := by
  cases found : hub.rooms.hasRoom room with
  | true =>
    rw [createRoom_of_hasRoom found]
    exact iff_of_true rfl rfl
  | false =>
    rw [createRoom_of_new found]
    refine iff_of_false ?_ Bool.false_ne_true
    intro refused
    obtain ⟨index, -, same⟩ := map_eq_ok_iff.mp refused
    contradiction

/-- A room is made if it is not there and its creator has a name that can be read. -/
theorem createRoom_eq_true_iff {creator : UserId} :
    (hub.createRoom first second room creator).1 = .ok true ↔
      hub.rooms.hasRoom room = false ∧ Id.parse .user creator.text = .ok creator := by
  cases found : hub.rooms.hasRoom room with
  | true =>
    rw [createRoom_of_hasRoom found]
    refine iff_of_false ?_ ?_
    · intro made
      cases made
    · rintro ⟨missing, -⟩
      cases missing
  | false =>
    have made : ((hub.afterCreation room).setState first creator room (.create creator)
        "").2.rooms.hasRoom room = true := by
      rw [hasRoom_setState, afterCreation, RoomStore.hasRoom, Table.contains,
        Table.get?_insert_self, Option.isSome_some]
    rw [createRoom_of_new found]
    by_cases nobody : NamesNobody (.member .join none) creator.text
    · rw [setState_of_namesNobody nobody]
      refine iff_of_false ?_ ?_
      · intro made
        cases made
      · rintro ⟨-, proper⟩
        exact nobody creator proper
    · obtain ⟨index, joined⟩ := exists_setState_eq_ok nobody made second creator
      obtain ⟨user, parsed⟩ := not_forall_not.mp nobody
      obtain rfl : user = creator := Id.text_injective (Id.text_of_parse parsed)
      rw [joined]
      exact iff_of_true rfl ⟨rfl, parsed⟩

/-! ### Runs -/

/-- A room is there after an operation if it was there before, or has been made. -/
theorem hasRoom_perform_iff (operation : Operation) :
    (hub.perform operation).rooms.hasRoom room = true ↔
      hub.rooms.hasRoom room = true ∨
        ∃ first second creator, operation = .createRoom first second room creator := by
  by_cases touches : operation.TouchesRooms
  case neg =>
    rw [rooms_perform hub touches]
    refine (or_iff_left ?_).symm
    rintro ⟨first, second, creator, rfl⟩
    exact touches trivial
  cases operation with
  | createRoom first second made creator =>
    rw [perform, hasRoom_createRoom]
    simp
  | setState stamp sender changed content key =>
    rw [perform, hasRoom_setState]
    simp
  | _ => exact touches.elim

/-- The rooms there are after a run have been made in it. -/
theorem hasRoom_run_iff (config : Config) (sink : Option Sink) (operations : List Operation) :
    ((ofConfig config sink).run operations).rooms.hasRoom room = true ↔
      ∃ first second creator, .createRoom first second room creator ∈ operations := by
  induction operations using List.reverseRecOn with
  | nil => exact iff_of_false Bool.false_ne_true fun ⟨_, _, _, mem⟩ => List.not_mem_nil mem
  | append_singleton front last ih =>
    rw [run_concat, hasRoom_perform_iff, ih]
    simp [exists_or, eq_comm]

/-- A write fails exactly with the error with which it is refused, and succeeds if there is none.
No error is one of the directory or of a log. What fails leaves the hub as it was, and so does
making a room that is there; a new room is made if its creator has a name that can be read. In a hub
that has come about, the rooms that are there are those that have been made. -/
theorem refuses_exactly (hub : Hub) :
    (∀ write e, (hub.write write).1 = .error e ↔ hub.Refuses write e) ∧
    (∀ write, (∃ index, (hub.write write).1 = .ok index) ↔ ∀ e, ¬hub.Refuses write e) ∧
    (∀ write e, (hub.write write).1 = .error e → (hub.write write).2 = hub) ∧
    (∀ write cause, (hub.write write).1 ≠ .error (.membership cause)) ∧
    (∀ write cause, (hub.write write).1 ≠ .error (.log cause)) ∧
    (∀ first second room creator, (hub.createRoom first second room creator).1 = .ok false ↔
      hub.rooms.hasRoom room = true) ∧
    (∀ first second room creator, (hub.createRoom first second room creator).1 = .ok false →
      (hub.createRoom first second room creator).2 = hub) ∧
    (∀ first second room creator, (hub.createRoom first second room creator).1 = .ok true ↔
      hub.rooms.hasRoom room = false ∧ Id.parse .user creator.text = .ok creator) ∧
    ∀ config sink operations room,
      ((ofConfig config sink).run operations).rooms.hasRoom room = true ↔
        ∃ first second creator, .createRoom first second room creator ∈ operations := by
  refine ⟨fun write e => write_eq_error_iff, ?_, ?_, ?_, ?_,
    fun first second room creator => createRoom_eq_false_iff, ?_,
    fun first second room creator => createRoom_eq_true_iff,
    fun config sink operations room => hasRoom_run_iff config sink operations⟩
  · intro write
    obtain ⟨e, refuses, refused⟩ | ⟨allowed, written⟩ := hub.write_cases write
    · rw [refused]
      exact iff_of_false nofun fun allowed => allowed e refuses
    · exact iff_of_true written allowed
  · intro write e failed
    obtain ⟨e', -, refused⟩ | ⟨allowed, -⟩ := hub.write_cases write
    · rw [refused]
    · exact absurd (write_eq_error_iff.mp failed) (allowed e)
  · intro write cause failed
    cases write_eq_error_iff.mp failed
  · intro write cause failed
    cases write_eq_error_iff.mp failed
  · intro first second room creator there
    rw [createRoom_of_hasRoom (createRoom_eq_false_iff.mp there)]

section Outsider

open Reader

/-- In a room that the host has made, a message of the guest, who has not joined it, is refused, and
so is a membership for nobody. The room is not made again. -/
theorem refuses_exactly_outsider :
    let hub := (ofConfig smallPages none).run [.createRoom (drawn 0) (drawn 1) lobby host]
    (hub.sendMessage (drawn 2) guest lobby "m.text" "hello").1 = .error (.forbidden guest lobby) ∧
      (hub.sendMessage (drawn 2) guest lobby "m.text" "hello").2 = hub ∧
      (hub.setState (drawn 2) host lobby (.member .invite none) "guest").1 =
        .error (.room (.invalidStateKey "guest")) ∧
      (hub.createRoom (drawn 2) (drawn 3) lobby guest).2 = hub := by
  intro hub
  obtain ⟨fails, -, unchanged, -, -, there, kept, -, made⟩ := refuses_exactly hub
  have found : hub.rooms.hasRoom lobby = true :=
    (made smallPages none _ lobby).mpr ⟨drawn 0, drawn 1, host, List.mem_cons_self⟩
  have outside : hub.rooms.members.isMember lobby guest = false := by decide +kernel
  have nobody : NamesNobody (.member .invite none) "guest" := by
    have unread : (Id.parse? .user "guest") = none := by decide +kernel
    intro user parsed
    rw [Id.parse?, parsed] at unread
    contradiction
  have forbidden : (hub.write (.message (drawn 2) guest lobby "m.text" "hello")).1 =
      .error (.forbidden guest lobby) :=
    (fails _ _).mpr (.outsider guest lobby rfl found outside)
  exact ⟨forbidden, unchanged _ _ forbidden,
    (fails (.state _ host lobby _ _) _).mpr (.nobody _ host lobby _ _ nobody),
    kept _ _ lobby guest ((there _ _ lobby guest).mpr found)⟩

end Outsider

end Hub

end ChatFeed
