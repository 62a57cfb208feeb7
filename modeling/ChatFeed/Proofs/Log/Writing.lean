import ChatFeed.Log.PresenceLog
import ChatFeed.Log.Timeline
import ChatFeed.Proofs.Delivery.Dispatcher

/-!
# What comes of a write

A write to a timeline or a presence log ends in one of a few ways. An event that happens in no room
is turned away. Anything else is recorded at the next index, and then either goes out to those whom
the directory names, or to nobody because the directory does not answer. Where it goes out to a sink
as well, the sink has no say in any of this.

## Main definitions

* `Timeline.recorded`, `PresenceLog.recorded`: a feed after something has been recorded
* `Feed.silent`: a feed without a sink

## Main results

* `Timeline.send_cases`, `PresenceLog.update_cases`: how a write ends
* `Timeline.send_silent`, `PresenceLog.update_silent`: without a sink it ends the same way
-/

namespace ChatFeed

/-- The feed without a sink. -/
def Feed.silent {Log : Type} (feed : Feed Log) : Feed Log :=
  { feed with dispatcher := feed.dispatcher.silent }

/-- Without their sinks feeds are told apart by the log, the counter and the listeners. -/
theorem Feed.silent_eq_iff {Log : Type} {feed other : Feed Log} : feed.silent = other.silent ↔
    feed.log = other.log ∧ feed.counter = other.counter ∧
      feed.dispatcher.mux = other.dispatcher.mux := by
  simp [silent, Dispatcher.silent]

namespace Timeline

variable (directory : Directory) (event : Event) (feed : Feed Timeline)

/-- The feed after an event of `room` has been recorded, and before it goes out. -/
def recorded (room : RoomId) : Feed Timeline where
  log := feed.log.record feed.counter.current ⟨event, room, event.extraRecipient⟩
  counter := feed.counter.advance
  dispatcher := noteTarget event feed.dispatcher

/-- An event of no room is turned away; any other is recorded, and goes out if the directory names
the users in its room. -/
theorem send_cases :
    (event.room = none ∧ send directory event feed = (.error (.noRoom event.id), feed)) ∨
    (∃ room cause, event.room = some room ∧ directory.users room = .error cause ∧
      send directory event feed = (.error (.membership cause), recorded event feed room)) ∨
    ∃ room users, event.room = some room ∧ directory.users room = .ok users ∧
      send directory event feed = (.ok feed.counter.current,
        { recorded event feed room with
          dispatcher := (noteTarget event feed.dispatcher).dispatch .eventRefused
            ⟨recipients users event.extraRecipient, ⟨feed.counter.current, event⟩⟩ }) := by
  cases in_room : event.room with
  | none =>
    refine .inl ⟨rfl, ?_⟩
    rw [send, in_room]
  | some room =>
    cases named : directory.users room with
    | error cause =>
      refine .inr (.inl ⟨room, cause, rfl, named, ?_⟩)
      rw [send, in_room]
      simp only [named]
      rfl
    | ok users =>
      refine .inr (.inr ⟨room, users, rfl, named, ?_⟩)
      rw [send, in_room]
      simp only [named]
      rfl

/-- A warning about the target of an event touches neither the sink nor the calls nor listeners. -/
theorem noteTarget_eq (dispatcher : Dispatcher) :
    (noteTarget event dispatcher).sink = dispatcher.sink ∧
      (noteTarget event dispatcher).calls = dispatcher.calls ∧
      (noteTarget event dispatcher).mux = dispatcher.mux := by
  unfold noteTarget
  split <;> exact ⟨rfl, rfl, rfl⟩

/-- Without a sink an event is sent just the same. -/
theorem send_silent :
    (send directory event feed.silent).1 = (send directory event feed).1 ∧
      (send directory event feed.silent).2.silent = (send directory event feed).2.silent := by
  unfold send
  cases event.room with
  | none => exact ⟨rfl, rfl⟩
  | some room =>
    simp only
    cases directory.users room with
    | error cause =>
      refine ⟨rfl, Feed.silent_eq_iff.mpr ⟨rfl, rfl, ?_⟩⟩
      simp only [(noteTarget_eq _ _).2.2]
      rfl
    | ok users =>
      refine ⟨rfl, Feed.silent_eq_iff.mpr ⟨rfl, rfl, ?_⟩⟩
      rw [Dispatcher.mux_dispatch, Dispatcher.mux_dispatch, (noteTarget_eq _ _).2.2,
        (noteTarget_eq _ _).2.2]
      rfl

end Timeline

namespace PresenceLog

variable (directory : Directory) (time : Timestamp) (user : UserId)
  (change : Presence → Presence) (feed : Feed PresenceLog)

/-- The record of a user after a change. -/
def changed : PresenceRecord :=
  ⟨change (feed.log.presence user), time⟩

/-- The feed after a change of a user's record, and before it goes out. -/
def recorded : Feed PresenceLog :=
  { feed with
    log := ⟨feed.log.records.insert user
      ⟨feed.counter.current, changed time user change feed⟩⟩
    counter := feed.counter.advance }

/-- A change is recorded, and goes out if the directory names the user's peers. -/
theorem update_cases :
    (∃ cause, directory.peers user = .error cause ∧
      update directory time user change feed =
        (.error (.membership cause), recorded time user change feed)) ∨
    ∃ peers item, directory.peers user = .ok peers ∧
      item = ⟨feed.counter.current, event user (changed time user change feed)⟩ ∧
      update directory time user change feed = (.ok item,
        { recorded time user change feed with
          dispatcher := feed.dispatcher.dispatch .presenceRefused ⟨peers, item⟩ }) := by
  cases named : directory.peers user with
  | error cause =>
    refine .inl ⟨cause, rfl, ?_⟩
    rw [update]
    simp only [named]
    rfl
  | ok peers =>
    refine .inr ⟨peers, _, rfl, rfl, ?_⟩
    rw [update]
    simp only [named]
    rfl

/-- Without a sink a record is changed just the same. -/
theorem update_silent :
    (update directory time user change feed.silent).1 =
        (update directory time user change feed).1 ∧
      (update directory time user change feed.silent).2.silent =
        (update directory time user change feed).2.silent := by
  unfold update
  simp only
  cases directory.peers user with
  | error cause => exact ⟨rfl, rfl⟩
  | ok peers =>
    refine ⟨rfl, Feed.silent_eq_iff.mpr ⟨rfl, rfl, ?_⟩⟩
    rw [Dispatcher.mux_dispatch, Dispatcher.mux_dispatch]
    rfl

end PresenceLog

end ChatFeed
