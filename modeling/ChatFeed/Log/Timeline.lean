import ChatFeed.Collection.Table
import ChatFeed.Log.Feed

/-!
# Timelines

A timeline holds what happened in all rooms of a shard, each event at its own
index. Indices given to other logs leave holes. An event that is sent again
leaves its old index for a later one.

An event can be seen by the users in its room, and by one user outside it whom
the event concerns. Who that is, is settled when the event is sent.

## Main definitions

* `Timeline.send`: entering an event and telling its recipients
* `Timeline.event?`: the event with a given identity, for a user
* `Timeline.range`: the events between two indices, in either direction
-/

namespace ChatFeed

/-- An event in a timeline. -/
structure Posting where
  event : Event
  room : RoomId
  /-- The user outside the room who can see the event. -/
  extraRecipient : Option UserId
deriving DecidableEq

/-- The events of all rooms. -/
structure Timeline where
  /-- The events by their indices. -/
  postings : Table Nat Posting := ∅
  /-- The index of the event with an identity. -/
  indices : Table EventId Nat := ∅
deriving DecidableEq

namespace Timeline

/-! ### Writing -/

/-- Enters an event at `index`, and takes the event with its identity out if there is one. -/
def record (timeline : Timeline) (index : Nat) (posting : Posting) : Timeline :=
  let kept :=
    match timeline.indices.get? posting.event.id with
    | some old => timeline.postings.erase old
    | none => timeline.postings
  { postings := kept.insert index posting
    indices := timeline.indices.insert posting.event.id index }

/-- The users to be told of an event: those in its room, and the one outside it unless listed
already. -/
def recipients (users : List UserId) (extraRecipient : Option UserId) : List UserId :=
  match extraRecipient with
  | some user => if users.contains user then users else users ++ [user]
  | none => users

/-- Notes that a membership change names no user to be told of it. -/
def noteTarget (event : Event) (dispatcher : Dispatcher) : Dispatcher :=
  match event.target with
  | some (.error e) => dispatcher.warn (.targetNotUser e)
  | _ => dispatcher

/-- Enters an event at the next index and tells its recipients. -/
def send (directory : Directory) (event : Event) (feed : Feed Timeline) :
    Except LogError Nat × Feed Timeline :=
  match event.room with
  | none => (.error (.noRoom event.id), feed)
  | some room =>
    let index := feed.counter.current
    let recorded : Feed Timeline :=
      { log := feed.log.record index ⟨event, room, event.extraRecipient⟩
        counter := feed.counter.advance
        dispatcher := noteTarget event feed.dispatcher }
    match directory.users room with
    | .error e => (.error (.membership e), recorded)
    | .ok users =>
      let delivery : Delivery := ⟨recipients users event.extraRecipient, ⟨index, event⟩⟩
      (.ok index,
        { recorded with dispatcher := recorded.dispatcher.dispatch .eventRefused delivery })

/-! ### Reading -/

/-- The posting with a given event identity. -/
def posting? (timeline : Timeline) (id : EventId) : Option Posting :=
  match timeline.indices.get? id with
  | some index => timeline.postings.get? index
  | none => none

/-- The event with a given identity, if `user` can see it. The directory is not asked about a user
whom the event concerns by itself. -/
def event? (timeline : Timeline) (directory : Directory) (user : UserId) (id : EventId) :
    Except LogError (Option Event) :=
  match timeline.posting? id with
  | none => .ok none
  | some posting =>
    if posting.extraRecipient = some user then .ok (some posting.event)
    else
      match directory.rooms user with
      | .error e => .error (.membership e)
      | .ok rooms => .ok (if rooms.contains posting.room then some posting.event else none)

/-- Whether a posting is in one of `rooms` or concerns the viewer by itself. -/
def isVisible (viewer : Option UserId) (rooms : List RoomId) (posting : Posting) : Bool :=
  rooms.contains posting.room || (viewer.isSome && posting.extraRecipient = viewer)

/-- The visible events with an index from `low` up to below `high`, ascending. -/
def window (timeline : Timeline) (viewer : Option UserId) (rooms : List RoomId)
    (low high : Nat) : List (Indexed Event) :=
  (timeline.postings.entries.filter fun (index, posting) =>
    low ≤ index ∧ index < high ∧ isVisible viewer rooms posting).map fun (index, posting) =>
      ⟨index, posting.event⟩

/-- At most `limit` visible events from `start` towards `stop`: ascending from `start` itself, or
descending from below `start` down to `stop` itself. The upper bound is cut to the counter. -/
def range (timeline : Timeline) (counter : Counter) (viewer : Option UserId)
    (rooms : List RoomId) (start stop limit : Nat) : List (Indexed Event) :=
  if stop < start then
    (timeline.window viewer rooms stop (min start counter.current)).reverse.take limit
  else (timeline.window viewer rooms start (min stop counter.current)).take limit

end Timeline

end ChatFeed
