import ChatFeed.Hub.Basic

/-!
# Pages of a timeline

A reader pages through the timeline of a room in either direction. Members of
the room see everything in it; others see only the events that concern them by
themselves, such as their own invitation.

## Main definitions

* `Hub.page`: one page, and where the next one starts
-/

namespace ChatFeed

/-- The direction of paging. -/
inductive Direction where
  | forward
  | backward
deriving DecidableEq, Repr

/-- The direction that a letter names. -/
def Direction.parse : String → Except HubError Direction
  | "f" => .ok .forward
  | "b" => .ok .backward
  | text => .error (.badDirection text)

/-- One page of a room's timeline. -/
structure Page where
  events : List (Indexed Event)
  /-- The bound from which the page was read. -/
  start : Nat
  /-- The bound from which the next page in the same direction is read. -/
  stop : Nat
deriving DecidableEq

namespace Hub

/-- The bounds of a page: by default from one end of the timeline to the other. -/
def pageBounds (hub : Hub) (direction : Direction) (start stop : Option Nat) :
    Except HubError (Nat × Nat) :=
  let latest := hub.messageCounter.current
  match direction with
  | .forward =>
    let start := start.getD 0
    let stop := stop.getD latest
    if stop < start then .error (.forwardBounds start stop) else .ok (start, stop)
  | .backward =>
    let start := start.getD latest
    let stop := stop.getD 0
    if start < stop then .error (.backwardBounds start stop) else .ok (start, stop)

/-- Where the next page starts: beyond the last event of a full page, and otherwise at the end of
the window. -/
def pageEnd (hub : Hub) (direction : Direction) (start stop limit : Nat)
    (visited : List (Indexed Event)) : Nat :=
  match direction, visited.getLast? with
  | .forward, some last =>
    if visited.length = limit then last.index + 1
    else max (min stop hub.messageCounter.current) start
  | .forward, none => max (min stop hub.messageCounter.current) start
  | .backward, some last => if visited.length = limit then last.index else stop
  | .backward, none => stop

/-- A page of a room's timeline. The page is filled with the events that the reader may see by
their standing in the room, and then those of the room are kept. -/
def page (hub : Hub) (user : UserId) (room : RoomId) (start stop : Option Nat)
    (direction : Direction) (limit : Option Nat) : Except HubError Page :=
  if !hub.rooms.hasRoom room then .error (.notFound room)
  else
    match hub.pageBounds direction start stop with
    | .error e => .error e
    | .ok (start, stop) =>
      let limit := hub.limits.limit limit
      let visited :=
        if hub.rooms.members.isMember room user then
          hub.messages.range hub.messageCounter none [room] start stop limit
        else hub.messages.range hub.messageCounter (some user) [] start stop limit
      .ok
        { events := visited.filter fun event => event.item.room = some room
          start := start
          stop := hub.pageEnd direction start stop limit visited }

end Hub

end ChatFeed
