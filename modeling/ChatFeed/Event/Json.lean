import ChatFeed.Event.Basic
import ChatFeed.Json.Printer
import ChatFeed.Json.Reader

/-!
# Events in JSON

An event is written as an object. The kind of its content is a member of the
content's own object, and the type of a piece of state stands beside the
state's object. Absent options are left out.

A reader takes the members of an object in any order, skips members it does not
know and takes `null` for an absent option; a known member must not stand twice.
A record other than the object beside a state type may also be given as an array
of its members in their usual order, of which the last may be absent if they are
optional, and a name without data as an object with that one name. The type of
a piece of state is such a name in an object but not in an array. What stands
inside the content of an event is held before it is understood, so it must fit
even where it is skipped; a state type that is held in an array may also be its
position among the types.

## Main definitions

* `Event.toJson`, `Event.ofJson?`: an event and its JSON value
* `Event.toText`, `Event.ofText?`: an event and its JSON text
-/

namespace ChatFeed

namespace Json

/-! ### Records -/

/-- The value of the member `name`, if it stands once or not at all. -/
def member? (name : String) (members : List (Quoted × Json)) : Option (Option Json) :=
  match members.filter fun member => member.1 = some name with
  | [] => some none
  | [member] => some (some member.2)
  | _ => none

/-- The values of the named members of an object, in the order of `names`; nothing if one of them
stands twice. -/
def valuesAt? (names : List String) (members : List (Quoted × Json)) :
    Option (List (Option Json)) :=
  match names with
  | [] => some []
  | name :: rest =>
    match member? name members, valuesAt? rest members with
    | some value, some values => some (value :: values)
    | _, _ => none

/-- The values of the named members of an object whose member names all have characters. -/
def memberValues? (names : List String) : Json → Option (List (Option Json))
  | .object members =>
    if members.all fun member => member.1.isSome then valuesAt? names members else none
  | _ => none

/-- The values of the named fields of a record: by name from an object, by position from an
array that holds no more than these fields. -/
def fields? (names : List String) : Json → Option (List (Option Json))
  | .array items =>
    if items.length ≤ names.length then
      some (items.map some ++ List.replicate (names.length - items.length) none)
    else none
  | value => value.memberValues? names

/-- The field `name` of a record and the record without it: a member of an object, or the first
item of an array. -/
def untag? (name : String) : Json → Option (Json × Json)
  | .object members =>
    match member? name members with
    | some (some tag) => some (tag, .object (members.filter fun member => member.1 ≠ some name))
    | _ => none
  | .array (tag :: rest) => some (tag, .array rest)
  | _ => none

/-- How deep the arrays and objects of a text may be nested where they are held. -/
def maxDepth : Nat := 127

/-! ### Leaves -/

/-- The characters of a string. -/
def text? : Json → Option String
  | .string text => text
  | _ => none

/-- The characters of a required field. -/
def requiredText? : Option Json → Option String
  | some value => value.text?
  | none => none

/-- The characters of an optional field. -/
def optionalText? : Option Json → Option (Option String)
  | none => some none
  | some .null => some none
  | some value => value.text?.map some

/-- The identifier that a string spells. -/
def id? (kind : IdKind) (value : Json) : Option (Id kind) :=
  match value.text? with
  | some text => Id.parse? kind text
  | none => none

/-- The identifier in a required field. -/
def requiredId? (kind : IdKind) : Option Json → Option (Id kind)
  | some value => value.id? kind
  | none => none

/-- The identifiers that the items of an array spell. -/
def ids? (kind : IdKind) : List Json → Option (List (Id kind))
  | [] => some []
  | item :: rest =>
    match item.id? kind, ids? kind rest with
    | some id, some ids => some (id :: ids)
    | _, _ => none

/-- The string with the text of an identifier. -/
def ofId {kind : IdKind} (id : Id kind) : Json :=
  .ofString id.text

/-- A name without data: a string, or an object with `null` under that name. A value that has
been `held` also has an empty object there. -/
def name? (held : Bool) : Json → Option String
  | .string text => text
  | .object [(name, .null)] => name
  | .object [(name, .object [])] => if held then name else none
  | _ => none

/-- A member that is written only if its value is there. -/
def optionalMember (name : String) : Option String → List (String × Json)
  | none => []
  | some text => [(name, .ofString text)]

end Json

/-! ### Names -/

/-- The membership that a value names. -/
def Membership.ofJson? (held : Bool) (value : Json) : Option Membership :=
  match value.name? held with
  | some name => ofName? name
  | none => none

/-- The string with the name of a membership. -/
def Membership.toJson (membership : Membership) : Json :=
  .ofString membership.name

/-- The availability that a value names. -/
def Availability.ofJson? (held : Bool) (value : Json) : Option Availability :=
  match value.name? held with
  | some name => ofName? name
  | none => none

/-- The string with the name of an availability. -/
def Availability.toJson (availability : Availability) : Json :=
  .ofString availability.name

/-! ### Presence -/

namespace Presence

/-- The members of a presence record. -/
def members (presence : Presence) : List (String × Json) :=
  ("presence", presence.availability.toJson) ::
    (Json.optionalMember "status_msg" presence.statusMessage ++
      Json.optionalMember "displayname" presence.displayName ++
      Json.optionalMember "avatar_url" presence.avatarUrl)

/-- The object that writes a presence record. -/
def toJson (presence : Presence) : Json :=
  .record presence.members

/-- The presence record that a value writes. -/
def ofJson? (held : Bool) (value : Json) : Option Presence :=
  match value.fields? ["presence", "status_msg", "displayname", "avatar_url"] with
  | some [some availability, statusMessage, displayName, avatarUrl] =>
    match Availability.ofJson? held availability, Json.optionalText? statusMessage,
      Json.optionalText? displayName, Json.optionalText? avatarUrl with
    | some availability, some statusMessage, some displayName, some avatarUrl =>
      some ⟨availability, statusMessage, displayName, avatarUrl⟩
    | _, _, _, _ => none
  | _ => none

end Presence

/-! ### State -/

namespace StateContent

/-- The object beside the type of a piece of state. -/
def body : StateContent → Json
  | .create creator => .record [("creator", .ofId creator)]
  | .member membership displayName =>
    .record (("membership", membership.toJson) :: Json.optionalMember "displayname" displayName)
  | .name text => .record [("name", .ofString text)]
  | .topic text => .record [("topic", .ofString text)]

/-- The object that writes a piece of state. -/
def toJson (content : StateContent) : Json :=
  .record [("type", .ofString content.eventType), ("content", content.body)]

/-- The piece of state of a given type that a value writes. -/
def ofBody? (held : Bool) (eventType : String) (body : Json) : Option StateContent :=
  match eventType with
  | "m.room.create" =>
    match body.memberValues? ["creator"] with
    | some [creator] => (Json.requiredId? .user creator).map .create
    | _ => none
  | "m.room.member" =>
    match body.memberValues? ["membership", "displayname"] with
    | some [some membership, displayName] =>
      match Membership.ofJson? held membership, Json.optionalText? displayName with
      | some membership, some displayName => some (.member membership displayName)
      | _, _ => none
    | _ => none
  | "m.room.name" =>
    match body.memberValues? ["name"] with
    | some [text] => (Json.requiredText? text).map .name
    | _ => none
  | "m.room.topic" =>
    match body.memberValues? ["topic"] with
    | some [text] => (Json.requiredText? text).map .topic
    | _ => none
  | _ => none

/-- The types of state, in their order. -/
def eventTypes : List String :=
  ["m.room.create", "m.room.member", "m.room.name", "m.room.topic"]

/-- The type that a `tag` names in a record of a piece of state: a name in an object, and in an
array a string, or a position among the types if the record has been `held`. -/
def typeName? (held : Bool) (record tag : Json) : Option String :=
  match record, tag with
  | .array _, .string text => text
  | .array _, .integer (.ofNat position) => if held then eventTypes[position]? else none
  | .array _, _ => none
  | _, tag => tag.name? held

/-- Whether a record has its content before its type, so that the content is held before it is
understood. -/
def contentFirst : Json → Bool
  | .object members =>
    (members.filter fun member =>
      member.1 = some "type" ∨ member.1 = some "content").head?.any fun member =>
        member.1 = some "content"
  | _ => false

/-- The piece of state that a value writes. A value that has not been `held` is the whole of its
text. -/
def ofJson? (held : Bool) (value : Json) : Option StateContent :=
  match value.fields? ["type", "content"] with
  | some [some eventType, some body] =>
    if !held && contentFirst value && !body.fits (Json.maxDepth - 1) then none
    else
      match typeName? held value eventType with
      | some eventType => ofBody? (held || contentFirst value) eventType body
      | none => none
  | _ => none

end StateContent

/-! ### Contents -/

namespace Content

/-- The object that writes what an event says. -/
def toJson : Content → Json
  | .message messageType body =>
    .record [("kind", .ofString "message"), ("msgtype", .ofString messageType),
      ("body", .ofString body)]
  | .state key content previous =>
    .record ([("kind", .ofString "state"), ("state_key", .ofString key),
      ("content", content.toJson)] ++
        match previous with
        | none => []
        | some previous => [("prev_content", previous.toJson)])
  | .typing users =>
    .record [("kind", .ofString "typing"), ("user_ids", .array (users.map .ofId))]
  | .presence shown => .record (("kind", .ofString "presence") :: shown.members)

/-- What an optional piece of state writes. -/
def previous? : Option Json → Option (Option StateContent)
  | none => some none
  | some .null => some none
  | some value => (StateContent.ofJson? true value).map some

/-- What an event of a given kind says, by the other members of its content. -/
def ofBody? (kind : String) (body : Json) : Option Content :=
  match kind with
  | "message" =>
    match body.fields? ["msgtype", "body"] with
    | some [messageType, body] =>
      match Json.requiredText? messageType, Json.requiredText? body with
      | some messageType, some body => some (.message messageType body)
      | _, _ => none
    | _ => none
  | "state" =>
    match body.fields? ["state_key", "content", "prev_content"] with
    | some [key, some content, previous] =>
      match Json.requiredText? key, StateContent.ofJson? true content, previous? previous with
      | some key, some content, some previous => some (.state key content previous)
      | _, _, _ => none
    | _ => none
  | "typing" =>
    match body.fields? ["user_ids"] with
    | some [some (.array users)] => (Json.ids? .user users).map .typing
    | _ => none
  | "presence" => (Presence.ofJson? true body).map .presence
  | _ => none

/-- What an event says, by a value whose arrays and objects may be nested `room` deep. -/
def ofJson? (room : Nat) (value : Json) : Option Content :=
  if value.fits room then
    match value.untag? "kind" with
    | some (kind, body) =>
      match kind.text? with
      | some kind => ofBody? kind body
      | none => none
    | none => none
  else none

end Content

/-! ### Events -/

namespace Event

/-- The object that writes an event. -/
def toJson (event : Event) : Json :=
  .record (("event_id", .ofId event.id) ::
    ((match event.room with
      | none => []
      | some room => [("room_id", .ofId room)]) ++
    [("sender", .ofId event.sender), ("origin_server_ts", .integer event.time.millis),
      ("content", event.content.toJson)]))

/-- The room in an optional field. -/
def room? : Option Json → Option (Option RoomId)
  | none => some none
  | some .null => some none
  | some value => (value.id? .room).map some

/-- The time in a required field. -/
def time? : Option Json → Option Timestamp
  | some (.integer millis) => Timestamp.ofMillis? millis
  | _ => none

/-- The event that a value writes. -/
def ofJson? (value : Json) : Option Event :=
  match value.fields? ["event_id", "room_id", "sender", "origin_server_ts", "content"] with
  | some [id, room, sender, time, some content] =>
    match Json.requiredId? .event id, room? room, Json.requiredId? .user sender, time? time,
      Content.ofJson? (Json.maxDepth - 1) content with
    | some id, some room, some sender, some time, some content =>
      some ⟨id, room, sender, time, content⟩
    | _, _, _, _, _ => none
  | _ => none

/-- The JSON text of an event. -/
def toText (event : Event) : String :=
  event.toJson.toText

/-- The event with a given JSON text. -/
def ofText? (s : String) : Option Event :=
  match Json.ofText? s with
  | some value => ofJson? value
  | none => none

end Event

/-! ### Envelopes -/

namespace Envelope

/-- The object that writes an envelope. -/
def toJson (envelope : Envelope) : Json :=
  .record [("context_id", .ofString envelope.context), ("event_id", .ofId envelope.id),
    ("sender", .ofId envelope.sender), ("event_type", .ofString envelope.eventType)]

/-- The envelope that a value writes. -/
def ofJson? (value : Json) : Option Envelope :=
  match value.fields? ["context_id", "event_id", "sender", "event_type"] with
  | some [context, id, sender, eventType] =>
    match Json.requiredText? context, Json.requiredId? .event id, Json.requiredId? .user sender,
      Json.requiredText? eventType with
    | some context, some id, some sender, some eventType => some ⟨context, id, sender, eventType⟩
    | _, _, _, _ => none
  | _ => none

end Envelope

end ChatFeed
