import ChatFeed.Event.Json
import ChatFeed.Proofs.Id
import ChatFeed.Proofs.Json.Record
import ChatFeed.Proofs.Json.RoundTrip

/-!
# Events read back

An event is read back from its JSON text if its identifiers are read back from theirs. Those of an
event that has been read are, so one that has been read is the same however often it is written and
read again.

## Main definitions

* `Event.IsProper`: all identifiers in an event are read back from their texts
* `Event.ReadsBack`: an event is read back from its text

## Main results

* `Event.ofJson?_toJson`, `Event.ofText?_toText`: such an event reads back
* `Event.isProper_of_ofJson?`: what has been read is such an event
-/

namespace ChatFeed

/-! ### Proper events -/

/-- Whether the creator that a piece of state may name is read back. -/
def StateContent.IsProper : StateContent → Prop
  | .create creator => creator.IsProper
  | .member _ _ | .name _ | .topic _ => True

/-- Whether all identifiers in what an event says are read back. -/
def Content.IsProper : Content → Prop
  | .message _ _ | .presence _ => True
  | .state _ content previous => content.IsProper ∧ ∀ replaced ∈ previous, replaced.IsProper
  | .typing users => ∀ user ∈ users, user.IsProper

/-- Whether all identifiers in an event are read back from their texts. -/
structure Event.IsProper (event : Event) : Prop where
  id : event.id.IsProper
  room : ∀ room ∈ event.room, room.IsProper
  sender : event.sender.IsProper
  content : event.content.IsProper

/-! ### What is written reads back -/

namespace Json

theorem id?_ofId {kind : IdKind} {id : Id kind} (proper : id.IsProper) :
    (ofId id).id? kind = some id :=
  proper

theorem ids?_map_ofId {kind : IdKind} {ids : List (Id kind)} (proper : ∀ id ∈ ids, id.IsProper) :
    ids? kind (ids.map ofId) = some ids := by
  induction ids with
  | nil => rfl
  | cons id rest ih =>
    have first : (ofId id).id? kind = some id := proper id List.mem_cons_self
    have later := ih fun other mem => proper other (List.mem_cons_of_mem _ mem)
    rw [List.map_cons, ids?, first, later]

@[simp] theorem optionalText?_none : optionalText? none = some none := rfl

@[simp] theorem optionalText?_some_ofString (s : String) :
    optionalText? (some (ofString s)) = some (some s) := rfl

end Json

theorem Membership.ofJson?_toJson (held : Bool) (membership : Membership) :
    ofJson? held membership.toJson = some membership := by
  simp [ofJson?, toJson]

theorem Availability.ofJson?_toJson (held : Bool) (availability : Availability) :
    ofJson? held availability.toJson = some availability := by
  simp [ofJson?, toJson]

theorem Presence.ofJson?_toJson (held : Bool) (presence : Presence) :
    ofJson? held presence.toJson = some presence := by
  obtain ⟨availability, statusMessage, displayName, avatarUrl⟩ := presence
  rw [ofJson?, toJson, members, Json.fields?_record]
  cases statusMessage <;> cases displayName <;> cases avatarUrl <;>
    simp [Json.valuesAt?, Json.member?, Json.optionalMember, Availability.ofJson?_toJson]

/-- A body reads back if its type is known. -/
theorem StateContent.ofBody?_body {content : StateContent} (proper : content.IsProper) :
    ofBody? true content.eventType content.body = some content := by
  cases content with
  | create creator =>
    simp [ofBody?, eventType, body, Json.valuesAt?, Json.member?, Json.requiredId?,
      Json.id?_ofId proper]
  | member membership displayName =>
    cases displayName <;>
      simp [ofBody?, eventType, body, Json.valuesAt?, Json.member?, Json.optionalMember,
        Membership.ofJson?_toJson]
  | name text =>
    simp [ofBody?, eventType, body, Json.valuesAt?, Json.member?, Json.requiredText?]
  | topic text =>
    simp [ofBody?, eventType, body, Json.valuesAt?, Json.member?, Json.requiredText?]

theorem StateContent.ofJson?_toJson {content : StateContent} (proper : content.IsProper) :
    ofJson? true content.toJson = some content := by
  have read := ofBody?_body proper
  rw [ofJson?, toJson, Json.fields?_record]
  simp [Json.valuesAt?, Json.member?, typeName?, Json.record, read]

/-- A member that is written for an option has its name and can be held. -/
theorem Json.of_mem_optionalMember {name : String} {text : Option String} {member : String × Json}
    (mem : member ∈ optionalMember name text) (room : Nat) :
    member.1 = name ∧ member.2.fits room = true := by
  cases text with
  | none => contradiction
  | some text =>
    rw [List.mem_singleton.mp mem]
    exact ⟨rfl, rfl⟩

theorem Presence.of_mem_members {presence : Presence} {member : String × Json}
    (mem : member ∈ presence.members) (room : Nat) :
    (member.1 = "presence" ∨ member.1 = "status_msg" ∨ member.1 = "displayname" ∨
      member.1 = "avatar_url") ∧ member.2.fits room = true := by
  simp only [members, List.mem_cons, List.mem_append] at mem
  rcases mem with rfl | ((status | name) | url)
  · exact ⟨.inl rfl, rfl⟩
  · exact (Json.of_mem_optionalMember status room).imp_left fun named => .inr (.inl named)
  · exact (Json.of_mem_optionalMember name room).imp_left fun named => .inr (.inr (.inl named))
  · exact (Json.of_mem_optionalMember url room).imp_left fun named => .inr (.inr (.inr named))

theorem StateContent.fits_body (content : StateContent) (room : Nat) :
    content.body.fits (room + 1) = true := by
  cases content with
  | member membership displayName =>
    refine Json.fits_record fun member mem => ?_
    rcases List.mem_cons.mp mem with rfl | optional
    · rfl
    · exact (Json.of_mem_optionalMember optional room).2
  | _ => exact Json.fits_record (by simp)

theorem StateContent.fits_toJson (content : StateContent) (room : Nat) :
    content.toJson.fits (room + 2) = true :=
  Json.fits_record (by simp [content.fits_body room])

namespace Content

/-- The kind of what an event says. -/
def kind : Content → String
  | .message _ _ => "message"
  | .state _ _ _ => "state"
  | .typing _ => "typing"
  | .presence _ => "presence"

/-- The members of what an event says, other than its kind. -/
def kindlessMembers : Content → List (String × Json)
  | .message messageType body => [("msgtype", .ofString messageType), ("body", .ofString body)]
  | .state key content previous =>
    ("state_key", .ofString key) :: ("content", content.toJson) ::
      match previous with
      | none => []
      | some previous => [("prev_content", previous.toJson)]
  | .typing users => [("user_ids", .array (users.map .ofId))]
  | .presence shown => shown.members

theorem toJson_eq (content : Content) :
    content.toJson = .record (("kind", .ofString content.kind) :: content.kindlessMembers) := by
  cases content <;> rfl

/-- The fields of a kind of content, other than the kind itself. -/
def fieldNames : Content → List String
  | .message _ _ => ["msgtype", "body"]
  | .state _ _ _ => ["state_key", "content", "prev_content"]
  | .typing _ => ["user_ids"]
  | .presence _ => ["presence", "status_msg", "displayname", "avatar_url"]

theorem kind_notMem_fieldNames (content : Content) : "kind" ∉ content.fieldNames := by
  cases content <;> simp [fieldNames]

theorem name_mem_fieldNames {content : Content} {member : String × Json}
    (mem : member ∈ content.kindlessMembers) : member.1 ∈ content.fieldNames := by
  cases content with
  | message messageType body =>
    simp only [kindlessMembers, List.mem_cons, List.not_mem_nil, or_false] at mem
    rcases mem with rfl | rfl <;> simp [fieldNames]
  | state key content previous =>
    cases previous <;>
      simp only [kindlessMembers, List.mem_cons, List.not_mem_nil, or_false] at mem
    · rcases mem with rfl | rfl <;> simp [fieldNames]
    · rcases mem with rfl | rfl | rfl <;> simp [fieldNames]
  | typing users =>
    rw [List.mem_singleton.mp mem]
    simp [fieldNames]
  | presence shown =>
    simpa [fieldNames] using (Presence.of_mem_members mem 0).1

/-- Whatever an event says can be held. -/
theorem fits_toJson (content : Content) : content.toJson.fits (Json.maxDepth - 1) = true := by
  have inside : ∀ member ∈ content.kindlessMembers, member.2.fits 125 = true := by
    cases content with
    | message messageType body => simp [kindlessMembers]
    | state key content previous =>
      have fits := content.fits_toJson 123
      cases previous with
      | none => simpa [kindlessMembers] using fits
      | some previous => simpa [kindlessMembers] using ⟨fits, previous.fits_toJson 123⟩
    | typing users =>
      have users_fit : Json.itemsFit 124 (users.map .ofId) = true :=
        Json.itemsFit_iff.mpr (by simp)
      simpa [kindlessMembers, Json.fits] using users_fit
    | presence shown => exact fun member mem => (Presence.of_mem_members mem 125).2
  rw [toJson_eq]
  refine Json.fits_record fun member mem => ?_
  rcases List.mem_cons.mp mem with rfl | other
  · rfl
  · exact inside member other

theorem previous?_toJson {previous : StateContent} (proper : previous.IsProper) :
    previous? (some previous.toJson) = some (some previous) :=
  congrArg (Option.map some) (StateContent.ofJson?_toJson proper)

theorem ofBody?_kindlessMembers {content : Content} (proper : content.IsProper) :
    ofBody? content.kind (.record content.kindlessMembers) = some content := by
  cases content with
  | message messageType body =>
    simp [ofBody?, kind, kindlessMembers, Json.valuesAt?, Json.member?, Json.requiredText?]
  | state key content previous =>
    have read := StateContent.ofJson?_toJson proper.1
    cases previous with
    | none =>
      simp [ofBody?, kind, kindlessMembers, Json.valuesAt?, Json.member?, Json.requiredText?, read,
        previous?]
    | some previous =>
      simp [ofBody?, kind, kindlessMembers, Json.valuesAt?, Json.member?, Json.requiredText?, read,
        previous?_toJson (proper.2 previous rfl)]
  | typing users =>
    simp [ofBody?, kind, kindlessMembers, Json.valuesAt?, Json.member?,
      Json.ids?_map_ofId proper]
  | presence shown =>
    have read := shown.ofJson?_toJson true
    rw [Presence.toJson] at read
    simp [ofBody?, kind, kindlessMembers, read]

theorem ofJson?_toJson {content : Content} (proper : content.IsProper) :
    ofJson? (Json.maxDepth - 1) content.toJson = some content := by
  rw [ofJson?, if_pos content.fits_toJson, toJson_eq,
    Json.untag?_record fun member mem =>
      ne_of_mem_of_not_mem (name_mem_fieldNames mem) content.kind_notMem_fieldNames]
  simp [ofBody?_kindlessMembers proper]

end Content

namespace Event

theorem room?_ofId {room : RoomId} (proper : room.IsProper) :
    room? (some (.ofId room)) = some (some room) :=
  congrArg (Option.map some) (Json.id?_ofId proper)

theorem ofJson?_toJson {event : Event} (proper : event.IsProper) :
    ofJson? event.toJson = some event := by
  obtain ⟨id, room, sender, time, content⟩ := event
  have read_id := Json.id?_ofId proper.id
  have read_sender := Json.id?_ofId proper.sender
  have read_content := Content.ofJson?_toJson proper.content
  rw [ofJson?, toJson, Json.fields?_record]
  cases room with
  | none =>
    simp [Json.valuesAt?, Json.member?, Json.requiredId?, read_id, read_sender, read_content, room?,
      time?]
  | some room =>
    simp [Json.valuesAt?, Json.member?, Json.requiredId?, read_id, read_sender, read_content,
      room?_ofId (proper.room room rfl), time?]

/-- An event with proper identifiers reads back from its text. -/
theorem ofText?_toText {event : Event} (proper : event.IsProper) :
    ofText? event.toText = some event := by
  rw [ofText?, toText, Json.ofText?_toText]
  exact ofJson?_toJson proper

/-- Whether an event is read back from its text, and what is read back has that text again. -/
def ReadsBack (event : Event) : Prop :=
  ∃ again, ofText? event.toText = some again ∧ again = event ∧ again.toText = event.toText

theorem IsProper.readsBack {event : Event} (proper : event.IsProper) : event.ReadsBack :=
  ⟨event, ofText?_toText proper, rfl, rfl⟩

end Event

/-! ### What has been read is proper -/

namespace Json

variable {kind : IdKind}

theorem isProper_of_id? {value : Json} {id : Id kind} (read : value.id? kind = some id) :
    id.IsProper := by
  rw [id?] at read
  split at read
  next text named => exact Id.isProper_of_parse? read
  next => contradiction

theorem isProper_of_requiredId? {value : Option Json} {id : Id kind}
    (read : requiredId? kind value = some id) : id.IsProper := by
  cases value with
  | none => contradiction
  | some value => exact isProper_of_id? read

theorem isProper_of_ids? {items : List Json} {ids : List (Id kind)}
    (read : ids? kind items = some ids) : ∀ id ∈ ids, id.IsProper := by
  induction items generalizing ids with
  | nil =>
    obtain rfl := Option.some.inj read
    exact fun _ mem => absurd mem List.not_mem_nil
  | cons item rest ih =>
    rw [ids?] at read
    split at read
    next first later named named_later =>
      obtain rfl := Option.some.inj read
      rw [List.forall_mem_cons]
      exact ⟨isProper_of_id? named, ih named_later⟩
    next => contradiction

end Json

namespace StateContent

variable {held : Bool} {eventType : String} {body value : Json} {content : StateContent}

/-- The type under which a body has been read is that of what has been read. -/
theorem eventType_of_ofBody? (read : ofBody? held eventType body = some content) :
    eventType = content.eventType := by
  unfold ofBody? at read
  split at read
  next =>
    split at read
    next =>
      obtain ⟨creator, -, rfl⟩ := Option.map_eq_some_iff.mp read
      rfl
    next => contradiction
  next =>
    split at read
    next =>
      split at read
      next =>
        obtain rfl := Option.some.inj read
        rfl
      next => contradiction
    next => contradiction
  next =>
    split at read
    next =>
      obtain ⟨text, -, rfl⟩ := Option.map_eq_some_iff.mp read
      rfl
    next => contradiction
  next =>
    split at read
    next =>
      obtain ⟨text, -, rfl⟩ := Option.map_eq_some_iff.mp read
      rfl
    next => contradiction
  next => contradiction

theorem isProper_of_ofBody? (read : ofBody? held eventType body = some content) :
    content.IsProper := by
  obtain rfl := eventType_of_ofBody? read
  cases content with
  | create creator =>
    simp only [ofBody?, StateContent.eventType] at read
    split at read
    next => exact Json.isProper_of_requiredId? (by simpa using read)
    next => contradiction
  | _ => trivial

/-- What has been read has a type and a body that belongs to it. -/
theorem exists_of_ofJson? (read : ofJson? true value = some content) : ∃ tag body,
    value.fields? ["type", "content"] = some [some tag, some body] ∧
      typeName? true value tag = some content.eventType ∧
      ofBody? true content.eventType body = some content := by
  unfold ofJson? at read
  split at read
  next tag body fields =>
    rw [Bool.not_true, Bool.false_and, Bool.false_and, if_neg Bool.false_ne_true] at read
    split at read
    next eventType named =>
      obtain rfl := eventType_of_ofBody? read
      exact ⟨tag, body, fields, named, read⟩
    next => contradiction
  next => contradiction

theorem isProper_of_ofJson? (read : ofJson? true value = some content) : content.IsProper := by
  obtain ⟨tag, body, -, -, read_body⟩ := exists_of_ofJson? read
  exact isProper_of_ofBody? read_body

end StateContent

namespace Content

variable {kind : String} {body value : Json} {content : Content} {room : Nat}

/-- The kind under which a body has been read is that of what has been read. -/
theorem kind_of_ofBody? (read : ofBody? kind body = some content) : kind = content.kind := by
  unfold ofBody? at read
  split at read
  next =>
    split at read
    next =>
      split at read
      next =>
        obtain rfl := Option.some.inj read
        rfl
      next => contradiction
    next => contradiction
  next =>
    split at read
    next =>
      split at read
      next =>
        obtain rfl := Option.some.inj read
        rfl
      next => contradiction
    next => contradiction
  next =>
    split at read
    next =>
      obtain ⟨users, -, rfl⟩ := Option.map_eq_some_iff.mp read
      rfl
    next => contradiction
  next =>
    obtain ⟨shown, -, rfl⟩ := Option.map_eq_some_iff.mp read
    rfl
  next => contradiction

theorem isProper_of_previous? {value : Option Json} {previous : Option StateContent}
    (read : previous? value = some previous) : ∀ replaced ∈ previous, replaced.IsProper := by
  unfold previous? at read
  split at read
  next =>
    obtain rfl := Option.some.inj read
    exact nofun
  next =>
    obtain rfl := Option.some.inj read
    exact nofun
  next =>
    obtain ⟨replaced, read_content, rfl⟩ := Option.map_eq_some_iff.mp read
    rintro _ ⟨⟩
    exact StateContent.isProper_of_ofJson? read_content

/-- What a piece of state in a room is read from. -/
theorem exists_of_ofBody?_state {key : String} {state : StateContent}
    {previous : Option StateContent}
    (read : ofBody? "state" body = some (.state key state previous)) : ∃ key_value value replaced,
      body.fields? ["state_key", "content", "prev_content"] =
        some [key_value, some value, replaced] ∧
      Json.requiredText? key_value = some key ∧ StateContent.ofJson? true value = some state ∧
      previous? replaced = some previous := by
  simp only [ofBody?] at read
  split at read
  next key_value value replaced fields =>
    split at read
    next read_key read_state read_previous =>
      obtain ⟨rfl, rfl, rfl⟩ := Content.state.inj (Option.some.inj read)
      exact ⟨key_value, value, replaced, fields, read_key, read_state, read_previous⟩
    next => contradiction
  next => contradiction

theorem isProper_of_ofBody? (read : ofBody? kind body = some content) : content.IsProper := by
  obtain rfl := kind_of_ofBody? read
  cases content with
  | message messageType body => trivial
  | presence shown => trivial
  | state key state previous =>
    obtain ⟨_, _, _, -, -, read_state, read_previous⟩ := exists_of_ofBody?_state read
    exact ⟨StateContent.isProper_of_ofJson? read_state, isProper_of_previous? read_previous⟩
  | typing users =>
    simp only [ofBody?, Content.kind] at read
    split at read
    next => exact Json.isProper_of_ids? (by simpa using read)
    next => contradiction

/-- What has been read can be held, and has a kind and a body that belongs to it. -/
theorem exists_of_ofJson? (read : ofJson? room value = some content) : ∃ tag body,
    value.fits room = true ∧ value.untag? "kind" = some (tag, body) ∧
      tag.text? = some content.kind ∧ ofBody? content.kind body = some content := by
  unfold ofJson? at read
  split at read
  next fits =>
    split at read
    next tag body untagged =>
      split at read
      next kind named =>
        obtain rfl := kind_of_ofBody? read
        exact ⟨tag, body, fits, untagged, named, read⟩
      next => contradiction
    next => contradiction
  next => contradiction

theorem isProper_of_ofJson? (read : ofJson? room value = some content) : content.IsProper := by
  obtain ⟨tag, body, -, -, -, read_body⟩ := exists_of_ofJson? read
  exact isProper_of_ofBody? read_body

end Content

namespace Event

variable {event : Event} {value : Json}

theorem isProper_of_room? {value : Option Json} {room : Option RoomId}
    (read : room? value = some room) : ∀ named ∈ room, named.IsProper := by
  unfold room? at read
  split at read
  next =>
    obtain rfl := Option.some.inj read
    exact nofun
  next =>
    obtain rfl := Option.some.inj read
    exact nofun
  next =>
    obtain ⟨named, read_id, rfl⟩ := Option.map_eq_some_iff.mp read
    rintro _ ⟨⟩
    exact Json.isProper_of_id? read_id

/-- What an event is read from. -/
theorem exists_of_ofJson? (read : ofJson? value = some event) : ∃ id room sender time content,
    value.fields? ["event_id", "room_id", "sender", "origin_server_ts", "content"] =
      some [id, room, sender, time, some content] ∧
    Json.requiredId? .event id = some event.id ∧ room? room = some event.room ∧
    Json.requiredId? .user sender = some event.sender ∧ time? time = some event.time ∧
    Content.ofJson? (Json.maxDepth - 1) content = some event.content := by
  unfold ofJson? at read
  split at read
  next id room sender time content fields =>
    split at read
    next read_id read_room read_sender read_time read_content =>
      obtain rfl := Option.some.inj read
      exact ⟨id, room, sender, time, content, fields, read_id, read_room, read_sender, read_time,
        read_content⟩
    next => contradiction
  next => contradiction

/-- The identifiers in an event that has been read are read back. -/
theorem isProper_of_ofJson? (read : ofJson? value = some event) : event.IsProper := by
  obtain ⟨_, _, _, _, _, -, id, room, sender, -, content⟩ := exists_of_ofJson? read
  exact ⟨Json.isProper_of_requiredId? id, isProper_of_room? room,
    Json.isProper_of_requiredId? sender, Content.isProper_of_ofJson? content⟩

theorem isProper_of_ofText? {text : String} (read : ofText? text = some event) :
    event.IsProper := by
  unfold ofText? at read
  split at read
  next => exact isProper_of_ofJson? read
  next => contradiction

end Event

end ChatFeed
