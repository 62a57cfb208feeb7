import ChatFeed.Proofs.Hub.Collect
import ChatFeed.Proofs.Multiplexer.Slots

/-!
# Which collection a sync gives

A sync collects when it starts, and a second time if it has waited and an event has
been handed to it. What it gives is the second collection in that case, and otherwise
the first, however the waiting ended.

## Main definitions

* `Moment`: a hub with a clock
* `Moment.collectedAt`: the moment at which a resumed sync has collected what it gives

## Main results

* `Hub.outcome_sync`, `Hub.sync_without_wait`: a sync gives its first collection, or waits with it
* `Moment.collect_of_resume`, `Moment.outcome_resume`: a resumed sync gives what was collected at
  that moment, or goes on waiting
* `Hub.exists_collect_of_sync`: a sync that is started collects
* `Hub.collect_of_sync_done`, `Hub.collect_of_sync_waiting`: what it gives, or waits with, is that
-/

namespace ChatFeed

/-- A hub, with the clock that is read when something is collected from it. -/
structure Moment where
  hub : Hub
  clock : RoomId → Instant

namespace Moment

/-- What `user` has missed at a moment since the given positions. -/
def collect (moment : Moment) (user : UserId) (since : Cursors) : Except HubError SyncResponse :=
  moment.hub.collect moment.clock user since

/-- The moment whose collection a sync gives that is resumed now and was started at `start`. -/
def collectedAt (now start : Moment) (sync : PendingSync) : Moment :=
  match (now.hub.dispatcher.mux.poll sync.ticket (some sync.timeout)).1 with
  | some (.delivered _) => now
  | _ => start

theorem collectedAt_self (now : Moment) (sync : PendingSync) : now.collectedAt now sync = now := by
  unfold collectedAt
  split <;> rfl

end Moment

/-- What a resumed sync gives is decided by how its listener is. -/
theorem Hub.resume_eq (hub : Hub) (clock : RoomId → Instant) (sync : PendingSync) :
    (hub.resume clock sync).1 =
      match (hub.dispatcher.mux.poll sync.ticket (some sync.timeout)).1 with
      | some .pending => .ok (.waiting sync)
      | some (.delivered _) => (hub.collect clock sync.user sync.since).map .done
      | _ => .ok (.done sync.first) := by
  unfold resume
  split <;> simp_all

namespace Moment

variable {now start : Moment} {response : SyncResponse} {sync : PendingSync}

/-- It is its first collection or a new one. -/
theorem collect_of_resume (first : start.collect sync.user sync.since = .ok sync.first)
    (done : (now.hub.resume now.clock sync).1 = .ok (.done response)) :
    (now.collectedAt start sync).collect sync.user sync.since = .ok response := by
  rw [Hub.resume_eq] at done
  unfold collectedAt
  split at done
  next => cases done
  next found =>
    rw [found]
    obtain ⟨given, again, same⟩ := map_eq_ok_iff.mp done
    obtain rfl := SyncProgress.done.inj same
    exact again
  next not_pending not_delivered =>
    obtain rfl := SyncProgress.done.inj (Except.ok.inj done)
    split
    next item found => exact absurd found (not_delivered item)
    next => exact first

/-- A resumed sync goes on waiting, or gives the collection it is owed. -/
theorem outcome_resume (now start : Moment)
    (first : start.collect sync.user sync.since = .ok sync.first)
    (again : now.collect sync.user sync.since = .ok response) :
    (now.hub.resume now.clock sync).1 = .ok (.waiting sync) ∨
      ∃ given, (now.hub.resume now.clock sync).1 = .ok (.done given) ∧
        (now.collectedAt start sync).collect sync.user sync.since = .ok given := by
  have outcome : (now.hub.resume now.clock sync).1 = .ok (.waiting sync) ∨
      ∃ given, (now.hub.resume now.clock sync).1 = .ok (.done given) := by
    rw [Hub.resume_eq]
    split
    next => exact .inl rfl
    next =>
      refine .inr ⟨response, ?_⟩
      have collected : now.hub.collect now.clock sync.user sync.since = .ok response := again
      rw [collected]
      rfl
    next => exact .inr ⟨sync.first, rfl⟩
  refine outcome.imp_right ?_
  rintro ⟨given, done⟩
  exact ⟨given, done, collect_of_resume first done⟩

end Moment

namespace Hub

variable {hub : Hub} {clock : RoomId → Instant} {user : UserId} {since : Cursors}
  {token : Option String} {timeout : Option Nat} {response : SyncResponse}

/-- What is collected does not depend on who listens. -/
theorem collect_setMux (hub : Hub) (mux : Multiplexer) (clock : RoomId → Instant) (user : UserId)
    (since : Cursors) : (hub.setMux mux).collect clock user since = hub.collect clock user since :=
  rfl

/-- A sync gives what it collects when it starts, or waits with it. -/
theorem outcome_sync (read : hub.since token = .ok since)
    (collected : hub.collect clock user since = .ok response) (timeout : Option Nat) :
    (hub.sync clock user token timeout).1 = .ok (.done response) ∨
      ∃ sync, (hub.sync clock user token timeout).1 = .ok (.waiting sync) ∧ sync.user = user ∧
        sync.since = since ∧ sync.first = response := by
  have listening := (hub.collect_setMux
    (hub.dispatcher.mux.listen user shutdownSignal).2 clock user since).trans collected
  unfold sync
  rw [read]
  simp only [listening]
  split
  next => exact .inl rfl
  next =>
    -- The first poll comes right away, so a second collection would equal the first.
    let now : Moment := ⟨hub.setMux (hub.dispatcher.mux.listen user shutdownSignal).2, clock⟩
    let waiting : PendingSync := ⟨(hub.dispatcher.mux.listen user shutdownSignal).1, user, since,
      hub.limits.timeout timeout, response⟩
    have first : now.collect waiting.user waiting.since = .ok waiting.first := listening
    obtain resumed | ⟨given, resumed, at_start⟩ := Moment.outcome_resume now now first first
    · exact .inr ⟨_, resumed, rfl, rfl, rfl⟩
    · rw [Moment.collectedAt_self, first] at at_start
      obtain rfl := Except.ok.inj at_start
      exact .inl resumed

/-- A sync that has no time to wait gives what it collects. -/
theorem sync_without_wait (read : hub.since token = .ok since)
    (collected : hub.collect clock user since = .ok response) :
    (hub.sync clock user token (some 0)).1 = .ok (.done response) := by
  have no_time : hub.limits.timeout (some 0) = 0 := Nat.zero_min _
  rw [sync, read]
  simp [no_time, collect_setMux, collected]

/-- A sync that is started can read its token and collects something. -/
theorem exists_collect_of_sync {progress : SyncProgress}
    (synced : (hub.sync clock user token timeout).1 = .ok progress) :
    ∃ since response, hub.since token = .ok since ∧
      hub.collect clock user since = .ok response := by
  unfold sync at synced
  split at synced
  next => contradiction
  next since read =>
    simp only at synced
    split at synced
    next => contradiction
    next response listening =>
      rw [collect_setMux] at listening
      exact ⟨since, response, read, listening⟩

/-- A sync that is done at once gives what it collects. -/
theorem collect_of_sync_done
    (done : (hub.sync clock user token timeout).1 = .ok (.done response)) :
    ∃ since, hub.since token = .ok since ∧ hub.collect clock user since = .ok response := by
  obtain ⟨since, first, read, collected⟩ := exists_collect_of_sync done
  obtain at_once | ⟨sync, waits, -⟩ := outcome_sync read collected timeout
  · rw [done] at at_once
    obtain rfl := SyncProgress.done.inj (Except.ok.inj at_once)
    exact ⟨since, read, collected⟩
  · rw [done] at waits
    cases waits

/-- A sync that waits does so with what it collects. -/
theorem collect_of_sync_waiting {sync : PendingSync}
    (waits : (hub.sync clock user token timeout).1 = .ok (.waiting sync)) :
    sync.user = user ∧ hub.since token = .ok sync.since ∧
      hub.collect clock sync.user sync.since = .ok sync.first := by
  obtain ⟨since, first, read, collected⟩ := exists_collect_of_sync waits
  obtain at_once | ⟨same_sync, also_waits, rfl, rfl, rfl⟩ := outcome_sync read collected timeout
  · rw [waits] at at_once
    cases at_once
  · rw [waits] at also_waits
    obtain rfl := SyncProgress.waiting.inj (Except.ok.inj also_waits)
    exact ⟨rfl, read, collected⟩

end Hub

end ChatFeed
