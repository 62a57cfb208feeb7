import ChatFeed.Proofs.Event.RoundTrip
import ChatFeed.Proofs.Json.Edit
import Mathlib.Logic.Relation

/-!
# Edits that leave an event as it is

Four kinds of record are nested in the JSON value of an event: the event, its content, up to two
pieces of state and their bodies. None of their readers minds in which order the members of an
object stand, and none minds a member that it does not know. What is added to the event itself is
skipped, and what is added inside its content must be fit to be held.

## Main definitions

* `Event.Edit`, `Content.Edit`, `StateContent.Edit`: an edit of the value that writes an event

## Main results

* `Event.ofJson?_edit`: such an edit leaves the event as it is
* `Event.ofText?_edits`: so does any number of them, on the texts of the values
-/

namespace ChatFeed

/-! ### Pieces of state -/

namespace StateContent

/-- The fields of the body of a piece of state. -/
def fieldNames : StateContent → List String
  | .create _ => ["creator"]
  | .member _ _ => ["membership", "displayname"]
  | .name _ => ["name"]
  | .topic _ => ["topic"]

/-- An edit of the body of a piece of state. What its fields hold has no members of its own. -/
def BodyEdit (content : StateContent) : Json → Json → Prop :=
  Json.Edit content.fieldNames (fun _ _ _ => False) fun value =>
    value.fits (Json.maxDepth - 4) = true

/-- An edit of the record of a piece of state, or of its body. -/
def Edit (content : StateContent) : Json → Json → Prop :=
  Json.Edit ["type", "content"]
    (fun name before after => name = "content" ∧ content.BodyEdit before after) fun value =>
      value.fits (Json.maxDepth - 3) = true

variable {content : StateContent} {held : Bool} {value value' body body' tag : Json}

theorem exists_memberValues?_of_ofBody?
    (read : ofBody? held content.eventType body = some content) :
    ∃ values, body.memberValues? content.fieldNames = some values := by
  refine Option.ne_none_iff_exists'.mp fun missing => ?_
  cases content <;> simp_all [ofBody?, eventType, fieldNames]

/-- Only the fields of a body count. -/
theorem ofBody?_congr
    (same : body'.memberValues? content.fieldNames = body.memberValues? content.fieldNames) :
    ofBody? held content.eventType body' = ofBody? held content.eventType body := by
  cases content <;>
    · simp only [fieldNames] at same
      simp only [ofBody?, eventType, same]

theorem ofBody?_edit (edit : content.BodyEdit body body')
    (read : ofBody? held content.eventType body = some content) :
    ofBody? held content.eventType body' = some content := by
  obtain ⟨values, fields⟩ := exists_memberValues?_of_ofBody? read
  obtain ⟨values', fields', edited⟩ := edit.memberValues? fields
  obtain rfl := edited.eq_of_untouched fun _ _ _ => not_false
  rw [ofBody?_congr (fields'.trans fields.symm), read]

/-- The tag of a record is understood as before. -/
theorem typeName?_edit (edit : content.Edit value value') :
    typeName? held value' tag = typeName? held value tag := by
  -- Only whether the record is an array counts, and no edit makes one of an object.
  cases edit with
  | item =>
    cases tag with
    | integer position => cases position <;> rfl
    | _ => rfl
  | _ => rfl

theorem ofJson?_edit (edit : content.Edit value value')
    (read : ofJson? true value = some content) : ofJson? true value' = some content := by
  obtain ⟨tag, body, fields, named, read_body⟩ := exists_of_ofJson? read
  -- The type is untouched, and the body is as it was or edited.
  obtain ⟨values', fields', edited⟩ := edit.fields? fields
  obtain ⟨_, rfl, others⟩ := edited.of_untouched fun _ _ edit => absurd edit.1 (by decide)
  obtain ⟨_, rfl, edited_body⟩ := others.of_singleton
  obtain ⟨body', rfl, body_edit⟩ := edited_body.of_some
  have read_body' : ofBody? true content.eventType body' = some content := by
    obtain rfl | ⟨-, body_edit⟩ := body_edit
    · exact read_body
    · exact ofBody?_edit body_edit read_body
  rw [← typeName?_edit edit] at named
  simp [ofJson?, fields', named, read_body']

theorem fits_edit (edit : content.Edit value value')
    (before : value.fits (Json.maxDepth - 2) = true) : value'.fits (Json.maxDepth - 2) = true := by
  refine edit.fits (fun name before after inner fits => ?_) before
  exact inner.2.fits (fun _ _ _ impossible => impossible.elim) fits

end StateContent

/-! ### Contents -/

namespace Content

/-- The piece of state under a name in the content of an event. -/
def pieceAt? : Content → String → Option StateContent
  | .state _ piece _, "content" => some piece
  | .state _ _ previous, "prev_content" => previous
  | _, _ => none

/-- An edit of the piece of state under a name in the content of an event. -/
def PieceEdit (content : Content) (name : String) (before after : Json) : Prop :=
  ∃ piece ∈ content.pieceAt? name, piece.Edit before after

/-- An edit of the content of an event, or of a piece of state in it. -/
def Edit (content : Content) : Json → Json → Prop :=
  Json.Edit ("kind" :: content.fieldNames) content.PieceEdit fun value =>
    value.fits (Json.maxDepth - 2) = true

variable {content : Content} {value value' body body' : Json}

theorem not_pieceEdit_kind (content : Content) (before after : Json) :
    ¬content.PieceEdit "kind" before after := by
  cases content <;> simp [PieceEdit, pieceAt?]

theorem exists_fields?_of_ofBody? (read : ofBody? content.kind body = some content) :
    ∃ values, body.fields? content.fieldNames = some values := by
  refine Option.ne_none_iff_exists'.mp fun missing => ?_
  cases content <;> simp_all [ofBody?, kind, fieldNames, Presence.ofJson?]

/-- Only the fields of a body count. -/
theorem ofBody?_congr (same : body'.fields? content.fieldNames = body.fields? content.fieldNames) :
    ofBody? content.kind body' = ofBody? content.kind body := by
  cases content <;>
    · simp only [fieldNames] at same
      simp only [ofBody?, kind, Presence.ofJson?, same]

theorem previous?_eq_some_some_iff {previous : StateContent} :
    previous? (some value) = some (some previous) ↔
      StateContent.ofJson? true value = some previous := by
  cases value with
  | null => exact iff_of_false nofun nofun
  | _ => simp [previous?]

/-- An optional piece of state is read as before, whether it has been edited or not. -/
theorem previous?_edit {previous : Option StateContent} {replaced replaced' : Option Json}
    (edited : Json.FieldEdited (fun before after => ∃ piece ∈ previous, piece.Edit before after)
      replaced replaced')
    (read : previous? replaced = some previous) : previous? replaced' = some previous := by
  obtain rfl | ⟨before, after, rfl, rfl, piece, rfl, edit⟩ := edited
  · exact read
  · rw [previous?_eq_some_some_iff] at read ⊢
    exact StateContent.ofJson?_edit edit read

theorem ofBody?_edit {values values' : List (Option Json)}
    (fields : body.fields? content.fieldNames = some values)
    (fields' : body'.fields? content.fieldNames = some values')
    (edited : Json.FieldsEdited content.PieceEdit content.fieldNames values values')
    (read : ofBody? content.kind body = some content) :
    ofBody? content.kind body' = some content := by
  cases content with
  | state key state previous =>
    obtain ⟨key_value, value, replaced, known, read_key, read_state, read_previous⟩ :=
      exists_of_ofBody?_state read
    obtain rfl := Option.some.inj (known.symm.trans fields)
    obtain ⟨_, rfl, others⟩ := edited.of_untouched (by simp [PieceEdit, pieceAt?])
    obtain ⟨_, _, rfl, edited_state, last⟩ := others.of_cons
    obtain ⟨replaced', rfl, edited_previous⟩ := last.of_singleton
    obtain ⟨value', rfl, state_edit⟩ := edited_state.of_some
    have read_state' : StateContent.ofJson? true value' = some state := by
      obtain rfl | ⟨_, ⟨⟩, edit⟩ := state_edit
      · exact read_state
      · exact StateContent.ofJson?_edit edit read_state
    have read_previous' : previous? replaced' = some previous :=
      previous?_edit edited_previous read_previous
    have fields'' : body'.fields? ["state_key", "content", "prev_content"] =
        some [key_value, some value', replaced'] := fields'
    simp [ofBody?, kind, fields'', read_key, read_state', read_previous']
  | _ =>
    obtain rfl := edited.eq_of_untouched (by simp [PieceEdit, pieceAt?])
    rw [ofBody?_congr (fields'.trans fields.symm), read]

theorem fits_edit (edit : content.Edit value value')
    (before : value.fits (Json.maxDepth - 1) = true) : value'.fits (Json.maxDepth - 1) = true := by
  refine edit.fits (fun name before after inner fits => ?_) before
  obtain ⟨piece, -, edit⟩ := inner
  exact StateContent.fits_edit edit fits

theorem ofJson?_edit (edit : content.Edit value value')
    (read : ofJson? (Json.maxDepth - 1) value = some content) :
    ofJson? (Json.maxDepth - 1) value' = some content := by
  obtain ⟨tag, body, fits, untagged, named, read_body⟩ := exists_of_ofJson? read
  -- The kind counts as the first field, which no edit touches, and is then taken out again.
  obtain ⟨values, fields⟩ := exists_fields?_of_ofBody? read_body
  have apart := content.kind_notMem_fieldNames
  obtain ⟨_, all_fields', edited⟩ :=
    edit.fields? ((Json.fields?_cons_iff apart).mpr ⟨body, untagged, fields⟩)
  obtain ⟨values', rfl, others⟩ := edited.of_untouched content.not_pieceEdit_kind
  obtain ⟨body', untagged', fields'⟩ := (Json.fields?_cons_iff apart).mp all_fields'
  have read_body' := ofBody?_edit fields fields' others read_body
  simp [ofJson?, fits_edit edit fits, untagged', named, read_body']

end Content

/-! ### Events -/

namespace Event

/-- An edit of the record of an event, or of its content. -/
def Edit (event : Event) : Json → Json → Prop :=
  Json.Edit ["event_id", "room_id", "sender", "origin_server_ts", "content"]
    (fun name before after => name = "content" ∧ event.content.Edit before after) fun _ => True

variable {event : Event} {value value' : Json}

/-- An edit leaves the event as it is. -/
theorem ofJson?_edit (edit : event.Edit value value') (read : ofJson? value = some event) :
    ofJson? value' = some event := by
  obtain ⟨id, room, sender, time, content, fields, read_id, read_room, read_sender, read_time,
    read_content⟩ := exists_of_ofJson? read
  -- Of the fields only the content holds objects, so the others are untouched.
  obtain ⟨_, fields', edited⟩ := edit.fields? fields
  obtain ⟨_, rfl, after_id⟩ := edited.of_untouched fun _ _ edit => absurd edit.1 (by decide)
  obtain ⟨_, rfl, after_room⟩ := after_id.of_untouched fun _ _ edit => absurd edit.1 (by decide)
  obtain ⟨_, rfl, after_sender⟩ :=
    after_room.of_untouched fun _ _ edit => absurd edit.1 (by decide)
  obtain ⟨_, rfl, after_time⟩ :=
    after_sender.of_untouched fun _ _ edit => absurd edit.1 (by decide)
  obtain ⟨_, rfl, edited_content⟩ := after_time.of_singleton
  obtain ⟨content', rfl, content_edit⟩ := edited_content.of_some
  have read_content' : Content.ofJson? (Json.maxDepth - 1) content' = some event.content := by
    obtain rfl | ⟨-, content_edit⟩ := content_edit
    · exact read_content
    · exact Content.ofJson?_edit content_edit read_content
  simp [ofJson?, fields', read_id, read_room, read_sender, read_time, read_content']

/-- So do any number of edits. -/
theorem ofJson?_edits (edits : Relation.ReflTransGen event.Edit value value')
    (read : ofJson? value = some event) : ofJson? value' = some event := by
  induction edits with
  | refl => exact read
  | tail _ edit ih => exact ofJson?_edit edit ih

/-- Edited texts are read as the event as well. -/
theorem ofText?_edits {text text' : String} (read : ofText? text = some event)
    (values : Json.ofText? text = some value) (values' : Json.ofText? text' = some value')
    (edits : Relation.ReflTransGen event.Edit value value') : ofText? text' = some event := by
  rw [ofText?, values] at read
  rw [ofText?, values']
  exact ofJson?_edits edits read

/-! ### What must be fit to be held -/

/-- An event in which somebody greets everybody. -/
def greeting : Event where
  id := Id.ofParts .event "1" "example.org"
  room := none
  sender := Id.ofParts .user "host" "example.org"
  time := default
  content := .message "m.text" "hello"

/-- The members of the greeting that stand before its content. -/
def greetingFront : List (Quoted × Json) :=
  [(some "event_id", .ofId greeting.id), (some "sender", .ofId greeting.sender),
    (some "origin_server_ts", .integer 0)]

/-- The members of the content of the greeting. -/
def greetingMembers : List (Quoted × Json) :=
  [(some "kind", .ofString "message"), (some "msgtype", .ofString "m.text"),
    (some "body", .ofString "hello")]

/-- Not every member that is unknown can be added to the content of an event. With the member
`"x":1e999` in its content the greeting is not read, since no number of double precision is as
large. -/
theorem not_forall_ofText?_added : ¬∀ (event : Event) (front back members : List (Quoted × Json))
    (name : String) (added : Json) (text text' : String),
    name ∉ "kind" :: event.content.fieldNames →
    Json.ofText? text = some (.object (front ++ (some "content", .object members) :: back)) →
    Json.ofText? text' = some (.object
      (front ++ (some "content", .object ((some name, added) :: members)) :: back)) →
    ofText? text = some event → ofText? text' = some event := by
  intro ignored
  have unread := ignored greeting greetingFront [] greetingMembers "x" (.real false 1 999)
    _ _ (by decide) (Json.ofText?_toText _) (Json.ofText?_toText _) (by decide +kernel)
  exact absurd unread (by decide +kernel)

end Event

end ChatFeed
