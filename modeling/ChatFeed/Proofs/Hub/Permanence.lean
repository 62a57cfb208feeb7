import ChatFeed.Proofs.Event.Stamp
import ChatFeed.Proofs.Hub.Collect

/-!
# What is in the timeline stays

The identities of events are given to a hub with its operations. As long as none is given twice, an
event that is entered takes no other event out. The timeline then only ever grows at its end, and
what stands at an index remains there.

## Main definitions

* `Hub.Operation.made`: the identities that are given with an operation
* `Hub.MakeDistinct`: operations are given no identity twice
* `Hub.Addition`, `Hub.Additions`: changes by which no event takes another one out
* `Hub.HasOnly`: the identities in the timeline are among some
* `Hub.Makes`: what leads from one hub to another enters events with some identities only

## Main results

* `Hub.makes_perform`, `Hub.makes_run`: operations enter events with the identities they are given
* `Hub.Additions.eventAt?_eq`: no addition touches the event at an index
-/

namespace ChatFeed.Hub

/-! ### Identities that are given -/

/-- The stamps that are given with an operation, and whose events they are for. -/
def Operation.stamps : Operation → List (Stamp × UserId)
  | .createRoom first second _ creator => [(first, creator), (second, creator)]
  | .setState stamp sender _ _ _ | .sendMessage stamp sender _ _ _ => [(stamp, sender)]
  | _ => []

/-- The identities that are given with an operation. The events that have them are made unless the
operation is refused. -/
def Operation.made (operation : Operation) : List EventId :=
  operation.stamps.map fun stamped => stamped.1.eventId stamped.2

/-- Whether no identity is given twice with some operations. -/
def MakeDistinct (operations : List Operation) : Prop :=
  (operations.flatMap Operation.made).Nodup

instance (operations : List Operation) : Decidable (MakeDistinct operations) :=
  inferInstanceAs (Decidable (List.Nodup _))

/-- It is enough that no number is drawn twice. -/
theorem makeDistinct_of_numbers {operations : List Operation}
    (distinct : ((operations.flatMap Operation.stamps).map (·.1.number)).Nodup) :
    MakeDistinct operations := by
  have made : operations.flatMap Operation.made =
      (operations.flatMap Operation.stamps).map fun stamped => stamped.1.eventId stamped.2 :=
    List.map_flatMap.symm
  rw [MakeDistinct, made]
  -- An identity has one number, whoever the sender is, so different numbers make different ones.
  exact List.pairwise_map.mpr ((List.pairwise_map.mp distinct).imp fun apart same =>
    apart (Stamp.number_eq_of_eventId_eq same))

/-! ### Additions -/

/-- A change by which no event comes to have the identity of another one. -/
structure Addition (hub later : Hub) : Prop where
  change : hub.Change later
  fresh : ∀ event, later.eventAt? hub.messageCounter.current = some event →
    hub.messages.indices.get? event.id = none

/-- A chain of additions. -/
abbrev Additions : Hub → Hub → Prop :=
  Relation.ReflTransGen Addition

variable {hub middle later : Hub} {ids made : List EventId} {id : EventId} {room : RoomId}
  {event : Event} {stamp : Stamp} {sender : UserId}

/-- An addition leaves the postings alone, or adds one at the end of the timeline. -/
theorem Addition.postings_eq (addition : hub.Addition later) :
    later.messages.postings = hub.messages.postings ∨
      ∃ posting, later.messages.postings =
        hub.messages.postings.insert hub.messageCounter.current posting := by
  obtain ⟨change, fresh⟩ := addition
  -- Where an event is entered, none is taken out, as its identity is new.
  cases change with
  | mux mux => exact .inl rfl
  | creation room new => exact .inl rfl
  | state stamp sender room content key state target found named =>
    exact .inr ⟨_, Timeline.postings_record_of_fresh _ (fresh _ (eventAt?_enter _ room _))⟩
  | message stamp sender room messageType body allowed =>
    exact .inr ⟨_, Timeline.postings_record_of_fresh _ (fresh _ (eventAt?_enter _ room _))⟩
  | typing now user room isTyping allowed => exact .inl rfl
  | presence time user change => exact .inl rfl

theorem Addition.eventAt?_eq (addition : hub.Addition later) {index : Nat}
    (below : index < hub.messageCounter.current) : later.eventAt? index = hub.eventAt? index := by
  rw [eventAt?, eventAt?]
  obtain same | ⟨posting, added⟩ := addition.postings_eq
  · rw [same]
  · rw [added, Table.get?_insert_of_ne _ (Nat.ne_of_gt below)]

theorem Additions.changes (additions : hub.Additions later) : hub.Changes later :=
  additions.lift id fun _ _ addition => addition.change

/-- What stands at an index of the timeline stays there. -/
theorem Additions.eventAt?_eq (additions : hub.Additions later) {index : Nat}
    (below : index < hub.messageCounter.current) : later.eventAt? index = hub.eventAt? index := by
  induction additions with
  | refl => rfl
  | tail before addition ih =>
    have grows := (Additions.changes before).grows
    exact (addition.eventAt?_eq (Nat.lt_of_lt_of_le below grows.messages)).trans ih

/-! ### Where additions come from -/

/-- Whether a sound hub has no identities in its timeline but some of `ids`. -/
structure HasOnly (hub : Hub) (ids : List EventId) : Prop where
  sound : hub.IsSound
  mem : ∀ index event, hub.eventAt? index = some event → event.id ∈ ids

theorem hasOnly_ofConfig (config : Config) (sink : Option Sink) :
    (ofConfig config sink).HasOnly [] where
  sound := isSound_ofConfig config sink
  mem _ _ found := nomatch found

/-- An identity that is not among them is not in the timeline. -/
theorem HasOnly.fresh (only : hub.HasOnly ids) (new : id ∉ ids) :
    hub.messages.indices.get? id = none := by
  rw [Option.eq_none_iff_forall_ne_some]
  intro index indexed
  -- What is looked up by its identity stands in the timeline.
  obtain ⟨posting, found, rfl⟩ := (only.sound.timeline.indexed id index).mp indexed
  have at_index : hub.eventAt? index = some posting.event := by
    rw [eventAt?, found]
    rfl
  exact new (only.mem index posting.event at_index)

/-- Whether what leads from one hub to another enters no events but some with the identities `made`,
and only makes additions if none of these identities has been there and none of them comes twice. -/
structure Makes (hub : Hub) (made : List EventId) (later : Hub) : Prop where
  hasOnly : ∀ ids, hub.HasOnly ids → later.HasOnly (ids ++ made)
  additions : ∀ ids, hub.HasOnly ids → (ids ++ made).Nodup → hub.Additions later

theorem Makes.refl (hub : Hub) (made : List EventId) : hub.Makes made hub where
  hasOnly _ only :=
    ⟨only.sound, fun index event found => List.mem_append_left _ (only.mem index event found)⟩
  additions _ _ _ := .refl

theorem Makes.trans {made' : List EventId} (first : hub.Makes made middle)
    (second : middle.Makes made' later) : hub.Makes (made ++ made') later where
  hasOnly ids only := by
    rw [← List.append_assoc]
    exact second.hasOnly _ (first.hasOnly ids only)
  additions ids only distinct := by
    rw [← List.append_assoc] at distinct
    -- For what comes second, the identities that were made first are among those that are there.
    have distinct_first : (ids ++ made).Nodup := distinct.sublist (List.sublist_append_left _ _)
    exact (first.additions ids only distinct_first).trans
      (second.additions _ (first.hasOnly ids only) distinct)

/-- A change of anything but the timeline enters no event. -/
theorem Change.makes_of_same (change : hub.Change later) (same : later.messages = hub.messages)
    (made : List EventId) : hub.Makes made later := by
  have same_events (index : Nat) : later.eventAt? index = hub.eventAt? index := by
    rw [eventAt?, eventAt?, same]
  constructor
  · intro ids only
    refine ⟨change.grows.sound only.sound, fun index event found => ?_⟩
    rw [same_events] at found
    exact List.mem_append_left _ (only.mem index event found)
  · intro ids only _
    refine .single ⟨change, fun event found => ?_⟩
    -- Nothing has been entered where the timeline ends.
    rw [same_events] at found
    exact absurd (only.sound.lt_of_eventAt? found) (Nat.lt_irrefl _)

/-- A change by which an event is entered makes this event. -/
theorem Change.makes_of_enter (change : hub.Change (middle.enter room event))
    (same : middle.messages = hub.messages)
    (counted : middle.messageCounter = hub.messageCounter) :
    hub.Makes [event.id] (middle.enter room event) := by
  constructor
  · intro ids only
    refine ⟨change.grows.sound only.sound, fun index found at_index => ?_⟩
    obtain ⟨posting, held, rfl⟩ := Option.map_eq_some_iff.mp at_index
    -- It is the event that has been entered, or one that was there before.
    rcases Timeline.eq_or_get?_of_get?_record held with ⟨-, rfl⟩ | old
    · exact List.mem_append_right _ (List.mem_singleton_self _)
    · rw [same] at old
      have before : hub.eventAt? index = some posting.event := by
        rw [eventAt?, old]
        rfl
      exact List.mem_append_left _ (only.mem index _ before)
  · intro ids only distinct
    refine .single ⟨change, fun found at_end => ?_⟩
    -- The event stands where the timeline ended.
    rw [← counted, eventAt?_enter] at at_end
    obtain rfl := Option.some.inj at_end
    have apart : List.Disjoint ids [event.id] := List.disjoint_of_nodup_append distinct
    exact only.fresh (apart.symm (List.mem_singleton_self _))

theorem makes_setState (hub : Hub) (stamp : Stamp) (sender : UserId) (room : RoomId)
    (content : StateContent) (key : String) :
    hub.Makes [stamp.eventId sender] (hub.setState stamp sender room content key).2 := by
  obtain ⟨e, refused⟩ | ⟨state, target, found, named, set⟩ :=
    hub.setState_cases stamp sender room content key
  · rw [refused]
    exact .refl hub _
  · rw [set]
    have change : hub.Change (hub.afterState stamp sender room content key state target) :=
      .state stamp sender room content key state target found named
    exact change.makes_of_enter rfl rfl

theorem makes_createRoom (hub : Hub) (first second : Stamp) (room : RoomId) (creator : UserId) :
    hub.Makes [first.eventId creator, second.eventId creator]
      (hub.createRoom first second room creator).2 := by
  cases new : hub.rooms.hasRoom room with
  | true =>
    rw [createRoom_of_hasRoom new]
    exact .refl hub _
  | false =>
    -- Making the room empty enters nothing, and then two pieces of state are set.
    rw [createRoom_eq new]
    have creation : hub.Makes [] (hub.afterCreation room) :=
      Change.makes_of_same (.creation room new) rfl []
    exact (creation.trans (makes_setState _ _ _ _ _ _)).trans (makes_setState _ _ _ _ _ _)

/-- An operation enters no events but some with the identities that are given with it. -/
theorem makes_perform (hub : Hub) (operation : Operation) :
    hub.Makes operation.made (hub.perform operation) := by
  by_cases reading : operation.IsReading
  · obtain ⟨mux, changed⟩ := hub.perform_reading reading
    rw [changed]
    exact Change.makes_of_same (.mux mux) rfl _
  cases operation with
  | createRoom first second room creator => exact hub.makes_createRoom first second room creator
  | setState stamp sender room content key => exact hub.makes_setState stamp sender room content key
  | sendMessage stamp sender room messageType body =>
    rw [perform]
    obtain ⟨e, refused⟩ | ⟨allowed, sent⟩ :=
      hub.sendMessage_cases stamp sender room messageType body
    · rw [refused]
      exact .refl hub _
    · rw [sent]
      have change : hub.Change (hub.afterMessage stamp sender room messageType body) :=
        .message stamp sender room messageType body allowed
      exact change.makes_of_enter rfl rfl
  | setTyping now user room isTyping =>
    rw [perform]
    obtain ⟨e, refused⟩ | ⟨allowed, signalled⟩ := hub.setTyping_cases now user room isTyping
    · rw [refused]
      exact .refl hub _
    · rw [signalled]
      exact Change.makes_of_same (.typing now user room isTyping allowed) rfl _
  | setAvailability now user availability statusMessage =>
    rw [perform, setAvailability_eq]
    exact Change.makes_of_same (.presence now.timestamp user _) rfl _
  | setProfile now user profile =>
    rw [perform, setProfile_eq]
    exact Change.makes_of_same (.presence now.timestamp user _) rfl _
  | _ => exact (reading trivial).elim

/-- So does a run. -/
theorem makes_run (hub : Hub) (operations : List Operation) :
    hub.Makes (operations.flatMap Operation.made) (hub.run operations) := by
  induction operations generalizing hub with
  | nil => exact .refl hub _
  | cons operation rest ih =>
    rw [List.flatMap_cons]
    exact (hub.makes_perform operation).trans (ih _)

theorem hasOnly_run (config : Config) (sink : Option Sink) (operations : List Operation) :
    ((ofConfig config sink).run operations).HasOnly (operations.flatMap Operation.made) :=
  (makes_run _ operations).hasOnly [] (hasOnly_ofConfig config sink)

end ChatFeed.Hub
