import ChatFeed.Collection.Table
import ChatFeed.Log.Feed
import ChatFeed.Log.Selection

/-!
# Presence logs

A presence log holds one record per user: the last availability and status
message they set, and the last profile. Every update gives the record a new
index and is told to everyone who shares a room with the user.

## Main definitions

* `PresenceLog.setAvailability`, `PresenceLog.setProfile`: the two kinds of update
* `PresenceLog.presence`: the record of a user
* `PresenceLog.range`: the records of some users between two indices
-/

namespace ChatFeed

/-- How a user is shown. -/
structure Profile where
  displayName : Option String := none
  avatarUrl : Option String := none
deriving DecidableEq, Repr

/-- The record of a user, and when it was last updated. -/
structure PresenceRecord where
  presence : Presence
  time : Timestamp
deriving DecidableEq

/-- The records of all users who have set anything. -/
structure PresenceLog where
  records : Table UserId (Indexed PresenceRecord) := ∅
deriving DecidableEq

namespace PresenceLog

/-- All updates of a user share one event identity. -/
def eventId (user : UserId) : EventId :=
  Id.ofParts .event ("presence." ++ user.localpart) user.domain

/-- The event that tells of a user's record. -/
def event (user : UserId) (record : PresenceRecord) : Event where
  id := eventId user
  room := none
  sender := user
  time := record.time
  content := .presence record.presence

/-! ### Reading -/

/-- What a user shows; without a record, that they cannot be reached. -/
def presence (log : PresenceLog) (user : UserId) : Presence :=
  match log.records.get? user with
  | some record => record.item.presence
  | none => {}

/-- How a user is shown. -/
def profile (log : PresenceLog) (user : UserId) : Profile :=
  ⟨(log.presence user).displayName, (log.presence user).avatarUrl⟩

/-- The records of `users` with an index from `start` up to below `stop`, by ascending index. -/
def range (log : PresenceLog) (users : List UserId) (start stop : Nat) : List (Indexed Event) :=
  sortByIndex (users.filterMap fun user =>
    match log.records.get? user with
    | some record =>
      if start ≤ record.index ∧ record.index < stop then
        some ⟨record.index, event user record.item⟩
      else none
    | none => none)

/-! ### Writing -/

/-- Changes a user's record at the next index and tells their peers. -/
def update (directory : Directory) (time : Timestamp) (user : UserId)
    (change : Presence → Presence) (feed : Feed PresenceLog) :
    Except LogError (Indexed Event) × Feed PresenceLog :=
  let index := feed.counter.current
  let record : PresenceRecord := ⟨change (feed.log.presence user), time⟩
  let recorded : Feed PresenceLog :=
    { feed with
      log := ⟨feed.log.records.insert user ⟨index, record⟩⟩
      counter := feed.counter.advance }
  match directory.peers user with
  | .error e => (.error (.membership e), recorded)
  | .ok peers =>
    let item : Indexed Event := ⟨index, event user record⟩
    (.ok item,
      { recorded with dispatcher := recorded.dispatcher.dispatch .presenceRefused ⟨peers, item⟩ })

/-- Sets whether a user can be reached, and their status message. -/
def setAvailability (directory : Directory) (time : Timestamp) (user : UserId)
    (availability : Availability) (statusMessage : Option String) :
    Feed PresenceLog → Except LogError (Indexed Event) × Feed PresenceLog :=
  update directory time user fun presence => { presence with availability, statusMessage }

/-- Sets how a user is shown. -/
def setProfile (directory : Directory) (time : Timestamp) (user : UserId) (profile : Profile) :
    Feed PresenceLog → Except LogError (Indexed Event) × Feed PresenceLog :=
  update directory time user fun presence =>
    { presence with displayName := profile.displayName, avatarUrl := profile.avatarUrl }

end PresenceLog

end ChatFeed
