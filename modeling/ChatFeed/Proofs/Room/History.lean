import ChatFeed.Proofs.Collection.Sorted
import ChatFeed.Proofs.Collection.Standing
import ChatFeed.Proofs.Room.Joining
import ChatFeed.Proofs.Room.Store

/-!
# Room stores as what has been set

A room store keeps the state of rooms, where an event replaces the one in its place, and who is
joined to them, where an event takes effect and leaves no trace. Both come to little if they are
told along with the settings that have been accepted so far, and the events that answered them. The
state has the event of the last setting of each place, that event names the content of the setting
before, and those are in a room of whom the last setting that let them in or out let them in. An
invitation or a knock replaces the state of a user and leaves them in the room or out of it, so the
two agree where the state says that a user joined, left or was banned.

## Main definitions

* `RoomStore.Operation`, `RoomStore.run`: what happens to a store
* `RoomStore.accepted`: the settings that were accepted, with the events that answered them
* `RoomStore.Records`: a store has the last setting of each place

## Main results

* `RoomStore.Records.perform`: whatever happens adds what is accepted
* `RoomStore.Records.allState_eq`: the state of a room by places
* `RoomStore.Records.lastMembership?_eq`: where the state of a user is settled, so is their
  membership
* `RoomStore.refines_settings`: so state and members are read
-/

namespace ChatFeed

/-! ### Order of places -/

namespace StateKey

instance : Std.Irrefl (LT.lt : StateKey → StateKey → Prop) where
  irrefl a := by
    rintro (before | ⟨-, before⟩)
    · exact String.lt_irrefl _ before
    · exact String.lt_irrefl _ before

instance : Trans (LT.lt : StateKey → StateKey → Prop) (LT.lt : StateKey → StateKey → Prop)
    (LT.lt : StateKey → StateKey → Prop) where
  trans {a b c} := by
    rintro (before | ⟨same, before⟩) (after | ⟨same', after⟩)
    · exact .inl (String.lt_trans before after)
    · exact .inl (same' ▸ before)
    · exact .inl (same ▸ after)
    · exact .inr ⟨same.trans same', String.lt_trans before after⟩

instance : Std.Trichotomous (LT.lt : StateKey → StateKey → Prop) where
  trichotomous a b not_before not_after := by
    obtain ⟨type, key⟩ := a
    obtain ⟨type', key'⟩ := b
    obtain ⟨types, keys⟩ := not_or.mp not_before
    obtain ⟨types', keys'⟩ := not_or.mp not_after
    obtain rfl : type = type' := String.lt_antisymm types types'
    obtain rfl : key = key' :=
      String.lt_antisymm (fun before => keys ⟨rfl, before⟩) fun after => keys' ⟨rfl, after⟩
    rfl

end StateKey

namespace RoomStore

/-! ### What is set -/

/-- What is asked of a store: to set a piece of state in a room. -/
structure Setting where
  stamp : Stamp
  room : RoomId
  sender : UserId
  content : StateContent
  key : String

namespace Setting

/-- Where the piece of state stands. -/
def slot (setting : Setting) : RoomId × StateKey :=
  (setting.room, ⟨setting.content.eventType, setting.key⟩)

/-- The event that sets the piece of state in place of `previous`. -/
def event (setting : Setting) (previous : Option StateContent) : Event where
  id := setting.stamp.eventId setting.sender
  room := some setting.room
  sender := setting.sender
  time := setting.stamp.time
  content := .state setting.key setting.content previous

/-- The membership that the piece of state gives, if it is one and the key names a user. -/
def membership? (setting : Setting) : Option MemberIndex.Operation :=
  match setting.content with
  | .member membership _ =>
    (Id.parse? .user setting.key).map fun user => .apply setting.room user membership
  | _ => none

end Setting

/-- What happens to a store. -/
inductive Operation where
  | create (room : RoomId)
  | set (setting : Setting)

/-- What a store answers to a setting, and what it leaves. -/
def set (store : RoomStore) (setting : Setting) : Except RoomError Event × RoomStore :=
  store.setState setting.stamp setting.room setting.sender setting.content setting.key

/-- The store after an operation, whether it succeeds or not. -/
def perform (store : RoomStore) : Operation → RoomStore
  | .create room => (store.create room).2
  | .set setting => (store.set setting).2

/-- The store after a sequence of operations. -/
def run (store : RoomStore) (operations : List Operation) : RoomStore :=
  operations.foldl perform store

/-- A setting that has been accepted, with the event that answered it. -/
structure Accepted where
  setting : Setting
  event : Event

namespace Accepted

/-- Where the piece of state stands. -/
def slot (entry : Accepted) : RoomId × StateKey :=
  entry.setting.slot

/-- The membership that the piece of state gives. -/
def membership? (entry : Accepted) : Option MemberIndex.Operation :=
  entry.setting.membership?

end Accepted

/-- What an operation comes to, if it is a setting that is accepted. -/
def accepted? (store : RoomStore) : Operation → Option Accepted
  | .create _ => none
  | .set setting => (store.set setting).1.toOption.map fun event => ⟨setting, event⟩

/-- The settings that are accepted in a sequence of operations, in order. -/
def accepted (store : RoomStore) : List Operation → List Accepted
  | [] => []
  | operation :: rest =>
    (store.accepted? operation).toList ++ accepted (store.perform operation) rest

variable {store : RoomStore} {operation : Operation} {operations : List Operation}
  {setting : Setting} {entry : Accepted} {entries : List Accepted} {room : RoomId}
  {state : RoomState} {place : StateKey} {user : UserId}

theorem run_concat (store : RoomStore) (operations : List Operation) (last : Operation) :
    store.run (operations ++ [last]) = (store.run operations).perform last :=
  List.foldl_append

theorem accepted_concat (store : RoomStore) (operations : List Operation) (last : Operation) :
    store.accepted (operations ++ [last]) =
      store.accepted operations ++ ((store.run operations).accepted? last).toList := by
  induction operations generalizing store with
  | nil => simp [accepted, run]
  | cons operation rest ih =>
    rw [List.cons_append, accepted, accepted, ih, List.append_assoc]
    rfl

/-! ### Single operations -/

/-- A room that exists is left alone. -/
theorem create_of_hasRoom (found : store.hasRoom room = true) : store.create room = (true, store) :=
  if_pos found

theorem create_of_new (new : store.hasRoom room = false) :
    store.create room = (false, { store with rooms := store.rooms.insert room ∅ }) := by
  rw [create, new]
  rfl

/-- A setting is turned away without a change, or it is put in its place. -/
theorem set_cases (store : RoomStore) (setting : Setting) :
    (∃ e, store.set setting = (.error e, store)) ∨
      ∃ state target event, store.rooms.get? setting.room = some state ∧
        RoomStore.target setting.content setting.key = .ok target ∧
        event = setting.event ((state.get? setting.slot.2).bind contentOf?) ∧
        store.set setting =
          (.ok event, store.settle setting.room state setting.slot.2 event target) := by
  obtain refused | ⟨state, target, found, named, accepted⟩ := store.setState_cases setting.stamp
    setting.room setting.sender setting.content setting.key
  · exact .inl refused
  · exact .inr ⟨state, target, _, found, named, rfl, accepted⟩

/-- A setting that is turned away changes nothing. -/
theorem set_of_error {e : RoomError} (refused : (store.set setting).1 = .error e) :
    (store.set setting).2 = store := by
  obtain ⟨_, turned_away⟩ | ⟨_, _, _, _, _, _, accepted⟩ := store.set_cases setting
  · rw [turned_away]
  · rw [accepted] at refused
    contradiction

/-- A setting is accepted in a room that exists, if its target is named. -/
theorem exists_set_eq_ok_iff : (∃ event, (store.set setting).1 = .ok event) ↔
    store.hasRoom setting.room = true ∧
      ∃ target, RoomStore.target setting.content setting.key = .ok target := by
  rw [hasRoom, Table.contains, Option.isSome_iff_exists]
  constructor
  · rintro ⟨event, answered⟩
    obtain ⟨_, turned_away⟩ | ⟨state, target, _, found, named, _, _⟩ := store.set_cases setting
    · rw [turned_away] at answered
      contradiction
    · exact ⟨⟨state, found⟩, target, named⟩
  · rintro ⟨⟨state, found⟩, target, named⟩
    exact ⟨_, congrArg Prod.fst (setState_eq found named setting.stamp setting.sender)⟩

/-- Only rooms that are made come to be. -/
theorem hasRoom_perform_iff : (store.perform operation).hasRoom room = true ↔
    store.hasRoom room = true ∨ operation = .create room := by
  cases operation with
  | create made =>
    rw [Operation.create.injEq, perform]
    cases found : store.hasRoom made with
    | true =>
      rw [create_of_hasRoom found]
      refine (or_iff_left_of_imp ?_).symm
      rintro rfl
      exact found
    | false =>
      rw [create_of_new found, hasRoom, Table.contains, Table.get?_insert]
      by_cases same : made = room <;> simp [same, hasRoom, Table.contains]
  | set setting =>
    rw [or_iff_left (by simp), perform]
    obtain ⟨_, turned_away⟩ | ⟨state, target, event, found, -, -, accepted⟩ :=
      store.set_cases setting
    · rw [turned_away]
    · rw [accepted, hasRoom_settle found]

theorem hasRoom_run_iff : (run {} operations).hasRoom room = true ↔
    .create room ∈ operations := by
  induction operations using List.reverseRecOn with
  | nil => exact iff_of_false Bool.false_ne_true List.not_mem_nil
  | append_singleton front last ih =>
    rw [run_concat, hasRoom_perform_iff, ih, List.mem_append, List.mem_singleton, eq_comm]

/-- A membership takes effect in the index. -/
theorem applied_eq {members : MemberIndex} {target : Option (Membership × UserId)}
    (named : RoomStore.target setting.content setting.key = .ok target) :
    applied members setting.room target = setting.membership?.toList.foldl MemberIndex.perform
      members := by
  obtain ⟨stamp, room, sender, content, key⟩ := setting
  cases content with
  | member membership displayName =>
    rw [Setting.membership?, Id.parse?]
    cases parsed : Id.parse .user key with
    | error e => simp [RoomStore.target, parsed] at named
    | ok user =>
      obtain rfl : some (membership, user) = target := by
        simpa [RoomStore.target, parsed] using named
      rfl
  | create creator =>
    obtain rfl := Except.ok.inj named
    rfl
  | name name =>
    obtain rfl := Except.ok.inj named
    rfl
  | topic topic =>
    obtain rfl := Except.ok.inj named
    rfl

/-! ### Recording -/

/-- Whether a store has come about by the settings that were accepted: the state of its rooms has
the last one for each place, each carries the content of the one before, and their memberships lead
to the members. A room that has not been made has none. -/
structure Records (store : RoomStore) (entries : List Accepted) : Prop where
  state : ∀ room state, store.rooms.get? room = some state → ∀ place,
    state.get? place = (latest? Accepted.slot entries (room, place)).map (·.event)
  sorted : ∀ room state, store.rooms.get? room = some state → state.IsSorted
  made : ∀ entry ∈ entries, store.hasRoom entry.setting.room = true
  named : ∀ entry ∈ entries, ∃ target,
    RoomStore.target entry.setting.content entry.setting.key = .ok target
  carried : ∀ earlier entry, earlier ++ [entry] <+: entries →
    entry.event = entry.setting.event
      ((latest? Accepted.slot earlier entry.slot).map (·.setting.content))
  members : store.members = MemberIndex.run (entries.filterMap Accepted.membership?)

theorem records_empty : Records {} [] where
  state _ _ found := nomatch found
  sorted _ _ found := nomatch found
  made _ mem := absurd mem List.not_mem_nil
  named _ mem := absurd mem List.not_mem_nil
  carried earlier entry begins := by
    have nothing : earlier ++ [entry] = [] := List.prefix_nil.mp begins
    simp at nothing
  members := rfl

/-- The event of an accepted setting has its content. -/
theorem Records.contentOf?_eq (records : Records store entries) (mem : entry ∈ entries) :
    contentOf? entry.event = some entry.setting.content := by
  obtain ⟨earlier, later, rfl⟩ := List.append_of_mem mem
  rw [records.carried earlier entry ⟨later, by simp⟩]
  rfl

/-- The content that is found in the state is that of the last setting of the place. -/
theorem Records.previous_eq (records : Records store entries)
    (found : store.rooms.get? room = some state) (place : StateKey) :
    (state.get? place).bind contentOf? =
      (latest? Accepted.slot entries (room, place)).map (·.setting.content) := by
  rw [records.state room state found place]
  cases last : latest? Accepted.slot entries (room, place) with
  | none => rfl
  | some entry => exact records.contentOf?_eq (mem_of_latest? last).1

/-- A room that is made has no state, and none has been set there. -/
theorem Records.create (records : Records store entries) (made : RoomId) :
    Records (store.create made).2 entries := by
  cases found : store.hasRoom made with
  | true =>
    rw [create_of_hasRoom found]
    exact records
  | false =>
    rw [create_of_new found]
    have unset (place : StateKey) : latest? Accepted.slot entries (made, place) = none := by
      rw [latest?, List.getLast?_eq_none_iff, List.filter_eq_nil_iff]
      intro entry mem same
      have there := records.made entry mem
      have same_room : entry.setting.room = made := congrArg Prod.fst (of_decide_eq_true same)
      rw [same_room, found] at there
      contradiction
    refine { records with state := ?_, sorted := ?_, made := ?_ }
    · intro room state at_room place
      rw [Table.get?_insert] at at_room
      split at at_room
      next same =>
        obtain rfl := Option.some.inj at_room
        rw [← same, unset]
        rfl
      next => exact records.state room state at_room place
    · intro room state at_room
      rw [Table.get?_insert] at at_room
      split at at_room
      next =>
        obtain rfl := Option.some.inj at_room
        exact Table.isSorted_empty
      next => exact records.sorted room state at_room
    · exact fun entry mem => hasRoom_insert (records.made entry mem) made ∅

/-- A setting that is accepted comes last. -/
theorem Records.settle (records : Records store entries) {target : Option (Membership × UserId)}
    (found : store.rooms.get? setting.room = some state)
    (named : RoomStore.target setting.content setting.key = .ok target) {event : Event}
    (answer : event = setting.event ((state.get? setting.slot.2).bind contentOf?)) :
    Records (store.settle setting.room state setting.slot.2 event target)
      (entries ++ [⟨setting, event⟩]) where
  state room changed at_room place := by
    rw [latest?_concat]
    rw [RoomStore.settle, Table.get?_insert] at at_room
    split at at_room
    -- In the room itself the place of the setting has changed, and any other room is as it was.
    next same =>
      subst same
      obtain rfl := Option.some.inj at_room
      rw [Table.get?_insert, records.state setting.room state found place]
      by_cases here : setting.slot.2 = place
      · have same_slot : Accepted.slot ⟨setting, event⟩ = (setting.room, place) :=
          Prod.ext rfl here
        rw [if_pos here, if_pos same_slot]
        rfl
      · rw [if_neg here, if_neg fun same_slot => here (congrArg Prod.snd same_slot)]
    next distinct =>
      rw [if_neg fun same_slot => distinct (congrArg Prod.fst same_slot)]
      exact records.state room changed at_room place
  sorted room changed at_room := by
    rw [RoomStore.settle, Table.get?_insert] at at_room
    split at at_room
    next =>
      obtain rfl := Option.some.inj at_room
      exact (records.sorted setting.room state found).insert _ _
    next => exact records.sorted room changed at_room
  made entry mem := by
    rw [hasRoom_settle found]
    rcases List.mem_append.mp mem with old | new
    · exact records.made entry old
    · rw [List.mem_singleton.mp new, hasRoom, Table.contains, found]
      rfl
  named entry mem := by
    rcases List.mem_append.mp mem with old | new
    · exact records.named entry old
    · rw [List.mem_singleton.mp new]
      exact ⟨target, named⟩
  carried earlier entry begins := by
    rcases List.prefix_concat_iff.mp begins with last | before
    · obtain ⟨rfl, rfl⟩ := List.append_singleton_inj.mp last
      rw [answer, records.previous_eq found]
      rfl
    · exact records.carried earlier entry before
  members := by
    rw [RoomStore.settle, applied_eq named, records.members, MemberIndex.run, MemberIndex.run,
      ← List.foldl_append, List.filterMap_append]
    rfl

/-- Whatever happens to a store adds what is accepted. -/
theorem Records.perform (records : Records store entries) (operation : Operation) :
    Records (store.perform operation) (entries ++ (store.accepted? operation).toList) := by
  cases operation with
  | create made =>
    rw [accepted?, Option.toList_none, List.append_nil]
    exact records.create made
  | set setting =>
    rw [RoomStore.perform, accepted?]
    obtain ⟨e, turned_away⟩ | ⟨state, target, event, found, named, answer, accepted⟩ :=
      store.set_cases setting
    · rw [turned_away]
      change Records store (entries ++ [])
      rwa [List.append_nil]
    · rw [accepted]
      exact records.settle found named answer

/-- A store to which nothing else has happened has what was accepted. -/
theorem records_run (operations : List Operation) :
    Records (run {} operations) (accepted {} operations) := by
  induction operations using List.reverseRecOn with
  | nil => exact records_empty
  | append_singleton front last ih =>
    rw [run_concat, accepted_concat]
    exact ih.perform last

/-! ### Reading -/

/-- A place has been set if there is state for it. -/
theorem exists_mem_slot_iff : (∃ entry ∈ entries, entry.slot = (room, place)) ↔
    ∃ entry, latest? Accepted.slot entries (room, place) = some entry := by
  constructor
  · rintro ⟨entry, mem, same⟩
    have mem_slots : entry.slot ∈ entries.map Accepted.slot := List.mem_map_of_mem mem
    obtain ⟨last, found, -⟩ := exists_latest? mem_slots
    exact ⟨last, same ▸ found⟩
  · rintro ⟨entry, last⟩
    exact ⟨entry, mem_of_latest? last⟩

/-- The state of a room has one event for each place that has been set there, by places. -/
theorem Records.allState_eq (records : Records store entries)
    (found : store.rooms.get? room = some state) : ∃ places : List StateKey,
      places.Pairwise (· < ·) ∧
      (∀ place, place ∈ places ↔ ∃ entry ∈ entries, entry.slot = (room, place)) ∧
      store.allState room = .ok (places.filterMap fun place =>
        (latest? Accepted.slot entries (room, place)).map (·.event)) := by
  have sorted := records.sorted room state found
  refine ⟨state.keys, sorted, fun place => ?_, ?_⟩
  · rw [exists_mem_slot_iff, Table.keys, List.mem_map]
    constructor
    · rintro ⟨⟨_, event⟩, mem, rfl⟩
      have read := sorted.mem_entries_iff.mp mem
      rw [records.state room state found] at read
      obtain ⟨entry, last, -⟩ := Option.map_eq_some_iff.mp read
      exact ⟨entry, last⟩
    · rintro ⟨entry, last⟩
      have read := records.state room state found place
      rw [last] at read
      exact ⟨(place, entry.event), sorted.mem_entries_iff.mpr read, rfl⟩
  · have values : (state.keys.filterMap fun place =>
        (latest? Accepted.slot entries (room, place)).map (·.event)) = state.values := by
      have each : ∀ item ∈ state.entries,
          (latest? Accepted.slot entries (room, item.1)).map (·.event) = some item.2 := by
        intro item mem
        rw [← records.state room state found]
        exact sorted.mem_entries_iff.mp mem
      rw [Table.keys, List.filterMap_map, Table.values, ← List.filterMap_eq_map]
      exact List.filterMap_congr each
    rw [allState, found, values]

/-- What the state of a user in a room is under. -/
def memberPlace (user : UserId) : StateKey :=
  ⟨"m.room.member", user.text⟩

/-- A membership of a user is set under their place, and what is set there is one. -/
theorem slot_eq_of_membership? {given : MemberIndex.Operation}
    (gives : setting.membership? = some given) :
    setting.slot = (given.room, memberPlace given.user) := by
  obtain ⟨stamp, room, sender, content, key⟩ := setting
  cases content with
  | member membership displayName =>
    obtain ⟨user, parsed, rfl⟩ := Option.map_eq_some_iff.mp gives
    have text : user.text = key := Id.text_of_parse? parsed
    rw [Setting.slot, memberPlace]
    exact congrArg (fun key => (room, StateKey.mk "m.room.member" key)) text.symm
  | create creator => cases gives
  | name name => cases gives
  | topic topic => cases gives

/-- What a setting says last about a user in a room counts, if it settles their membership. -/
theorem lastMembership?_of_latest? {membership : Membership}
    (last : latest? Accepted.slot entries (room, memberPlace user) = some entry)
    (gives : entry.membership? = some (.apply room user membership))
    (settled : membership.isSettled = true) :
    MemberIndex.lastMembership? (entries.filterMap Accepted.membership?) room user =
      some membership := by
  induction entries using List.reverseRecOn with
  | nil => contradiction
  | append_singleton front newest ih =>
    rw [latest?_concat] at last
    rw [List.filterMap_append]
    split at last
    next =>
      obtain rfl := Option.some.inj last
      have given : [newest].filterMap Accepted.membership? = [.apply room user membership] :=
        List.filterMap_cons_some gives
      rw [given, MemberIndex.lastMembership?_concat, if_pos ⟨⟨rfl, rfl⟩, settled⟩]
      rfl
    next elsewhere =>
      cases found : newest.membership? with
      | none => simpa [found] using ih last
      | some other =>
        -- It is about another user, or about another room.
        have apart : ¬(other.room = room ∧ other.user = user) := by
          rintro ⟨rfl, rfl⟩
          exact elsewhere (slot_eq_of_membership? found)
        have given : [newest].filterMap Accepted.membership? = [other] :=
          List.filterMap_cons_some found
        rw [given, MemberIndex.lastMembership?_concat, if_neg fun both => apart both.1]
        exact ih last

/-- The membership that the event of an accepted setting gives is given to a user. -/
theorem exists_membership? {membership : Membership} {previous : Option StateContent}
    {target : Option (Membership × UserId)}
    (named : RoomStore.target setting.content setting.key = .ok target)
    (given : (setting.event previous).membership? = some membership) :
    ∃ user, setting.membership? = some (.apply setting.room user membership) := by
  obtain ⟨stamp, room, sender, content, key⟩ := setting
  cases content with
  | member membership displayName =>
    obtain rfl := Option.some.inj given
    cases parsed : Id.parse .user key with
    | error e => simp [RoomStore.target, parsed] at named
    | ok user =>
      refine ⟨user, ?_⟩
      rw [Setting.membership?, Id.parse?, parsed]
      rfl
  | create creator => cases given
  | name name => cases given
  | topic topic => cases given

/-- Where the state of a user is that they joined, left or were banned, that is the last that was
settled about them in the room. -/
theorem Records.lastMembership?_eq (records : Records store entries) {membership : Membership}
    (last : latest? Accepted.slot entries (room, memberPlace user) = some entry)
    (given : entry.event.membership? = some membership) (settled : membership.isSettled = true) :
    MemberIndex.lastMembership? (entries.filterMap Accepted.membership?) room user =
      some membership := by
  obtain ⟨mem, at_place⟩ := mem_of_latest? last
  obtain ⟨target, named⟩ := records.named entry mem
  obtain ⟨earlier, later, rfl⟩ := List.append_of_mem mem
  rw [records.carried earlier entry ⟨later, by simp⟩] at given
  obtain ⟨subject, gives⟩ := exists_membership? named given
  -- The user whom the key names is the one whose place it is.
  have same_slot := (slot_eq_of_membership? gives).symm.trans at_place
  obtain ⟨same_room, same_place⟩ := Prod.mk.inj same_slot
  obtain rfl : subject = user := Id.text_injective (StateKey.mk.inj same_place).2
  refine lastMembership?_of_latest? last ?_ settled
  rw [← same_room]
  exact gives

/-- A room store that has come about by any operations is what its accepted settings lead to. Those
are accepted that are for a room that has been made and give a membership to a user, if to anybody;
what is turned away changes nothing, and neither does making a room again. The event of a setting
carries the content of the setting of its place before, and none if it is the first. The state of a
place is the event of its last setting; all of the state of a room is one such event for each place
that has been set there, by places. Those are in a room of whom the last setting that lets them in
or out lets them in, as the state of a user tells where it says one or the other. A room that has
not been made has neither state nor users, and is not found. -/
theorem refines_settings (operations : List Operation) :
    let store := run {} operations
    let entries := accepted {} operations
    (∀ setting, (∃ event, (store.set setting).1 = .ok event) ↔
      .create setting.room ∈ operations ∧
        ∃ target, RoomStore.target setting.content setting.key = .ok target) ∧
    (∀ setting e, (store.set setting).1 = .error e → (store.set setting).2 = store) ∧
    (∀ room, .create room ∈ operations → store.create room = (true, store)) ∧
    (∀ earlier entry, earlier ++ [entry] <+: entries →
      entry.event = entry.setting.event
        ((latest? Accepted.slot earlier entry.slot).map (·.setting.content))) ∧
    (∀ room, .create room ∈ operations →
      (∀ eventType key, store.state? room eventType key =
        .ok ((latest? Accepted.slot entries (room, ⟨eventType, key⟩)).map (·.event))) ∧
      (∃ places : List StateKey, places.Pairwise (· < ·) ∧
        (∀ place, place ∈ places ↔ ∃ entry ∈ entries, entry.slot = (room, place)) ∧
        store.allState room = .ok (places.filterMap fun place =>
          (latest? Accepted.slot entries (room, place)).map (·.event))) ∧
      ∃ users, store.directory.users room = .ok users ∧ ∀ user,
        (user ∈ users ↔ MemberIndex.lastMembership? (entries.filterMap Accepted.membership?) room
          user = some .join) ∧
        ∀ event membership, store.state? room "m.room.member" user.text = .ok (some event) →
          event.membership? = some membership →
          (membership = .join → user ∈ users) ∧
          (membership = .leave ∨ membership = .ban → user ∉ users)) ∧
    ∀ room, .create room ∉ operations →
      (∀ eventType key, store.state? room eventType key = .error (.notFound room)) ∧
      store.allState room = .error (.notFound room) ∧
      store.directory.users room = .error (.roomNotFound room) := by
  intro store entries
  have records : Records store entries := records_run operations
  have found_iff {room : RoomId} : store.hasRoom room = true ↔ .create room ∈ operations :=
    hasRoom_run_iff
  refine ⟨fun setting => ?_, fun setting e => set_of_error, fun room made => ?_, records.carried,
    fun room made => ?_, fun room unmade => ?_⟩
  · rw [exists_set_eq_ok_iff, found_iff]
  · exact create_of_hasRoom (found_iff.mpr made)
  · have there : store.hasRoom room = true := found_iff.mpr made
    obtain ⟨state, found⟩ := Option.isSome_iff_exists.mp there
    have read (eventType key : String) : store.state? room eventType key =
        .ok ((latest? Accepted.slot entries (room, ⟨eventType, key⟩)).map (·.event)) := by
      rw [state?, found]
      exact congrArg Except.ok (records.state room state found ⟨eventType, key⟩)
    refine ⟨read, records.allState_eq found, store.members.members room, if_pos there,
      fun user => ?_⟩
    have member_iff : user ∈ store.members.members room ↔ MemberIndex.lastMembership?
        (entries.filterMap Accepted.membership?) room user = some .join := by
      rw [records.members]
      exact MemberIndex.mem_members_run_iff
    refine ⟨member_iff, fun event membership stated given => ?_⟩
    rw [read] at stated
    obtain ⟨entry, last, rfl⟩ := Option.map_eq_some_iff.mp (Except.ok.inj stated)
    constructor
    · rintro rfl
      exact member_iff.mpr (records.lastMembership?_eq last given rfl)
    · intro departed
      have settled : membership.isSettled = true := by
        rcases departed with rfl | rfl <;> rfl
      rw [member_iff, records.lastMembership?_eq last given settled]
      rcases departed with rfl | rfl <;> exact nofun
  · have missing : store.hasRoom room = false := Bool.eq_false_iff.mpr (mt found_iff.mp unmade)
    have nothing : store.rooms.get? room = none :=
      Option.isNone_iff_eq_none.mp (Option.isSome_eq_false_iff.mp missing)
    refine ⟨fun eventType key => ?_, ?_, ?_⟩
    · rw [state?, nothing]
    · rw [allState, nothing]
    · exact if_neg (Bool.eq_false_iff.mp missing)

section Reinvited

/-- A room. -/
def lounge : RoomId := Id.ofParts .room "lounge" "example.org"

/-- A user of that room. -/
def lounger (name : String) : UserId := Id.ofParts .user name "example.org"

/-- The host gives a membership to whoever the key names. -/
def given (number : BitVec 128) (membership : Membership) (key : String) : Operation :=
  .set ⟨⟨number, default⟩, lounge, lounger "host", .member membership none, key⟩

/-- A guest joins, one who is no user is let in, the room is made again, and the guest is invited
although they are there. -/
def reinvited : List Operation :=
  [.create lounge, given 0 .join (lounger "guest").text, given 1 .join "nobody", .create lounge,
    given 2 .invite (lounger "guest").text]

/-- The state of the guest is their invitation, which names that they had joined, and they are in
the room all the same. -/
theorem refines_settings_reinvited :
    let store := run {} reinvited
    store.state? lounge "m.room.member" (lounger "guest").text =
      .ok (some
        { id := (⟨2, default⟩ : Stamp).eventId (lounger "host")
          room := some lounge
          sender := lounger "host"
          time := default
          content := .state (lounger "guest").text (.member .invite none)
            (some (.member .join none)) }) ∧
    (∃ users, store.directory.users lounge = .ok users ∧ lounger "guest" ∈ users) ∧
    store.create lounge = (true, store) := by
  intro store
  obtain ⟨-, -, again, -, reads, -⟩ := refines_settings reinvited
  have made : Operation.create lounge ∈ reinvited := List.mem_cons_self
  obtain ⟨state, -, users, listed, mem_iff⟩ := reads lounge made
  refine ⟨?_, ⟨users, listed, ?_⟩, again lounge made⟩
  · rw [state]
    decide +kernel
  · rw [(mem_iff (lounger "guest")).1]
    decide +kernel

end Reinvited

end RoomStore

end ChatFeed
