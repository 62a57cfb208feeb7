import ChatFeed.Proofs.Hub.Waiting

/-!
# Answers to a sync

A sync is answered at once or after other operations. Either way the answer is what was collected
from one hub, the one in which the sync was started or a later one, and from the positions in the
token that was passed. A moment is that hub with the clock as it was then.

## Main definitions

* `Hub.Answers`: a response to a sync, with the moment at which it was collected

## Main results

* `Hub.Answers.exists_collect`: what an answer is
-/

namespace ChatFeed.Hub

variable {start : Hub} {collected : Moment} {user : UserId} {token : Option String}
  {timeout : Option Nat} {response : SyncResponse}

/-- A sync is answered with `response`, which has been collected at a moment: at once, or when it is
resumed after other operations. -/
inductive Answers (start : Hub) (user : UserId) (token : Option String) (timeout : Option Nat) :
    Moment → SyncResponse → Prop where
  | atOnce {clock : RoomId → Instant} {response : SyncResponse}
    (done : (start.sync clock user token timeout).1 = .ok (.done response)) :
    Answers start user token timeout ⟨start, clock⟩ response
  | resumed {clock later : RoomId → Instant} {sync : PendingSync} {operations : List Operation}
    {response : SyncResponse}
    (waits : (start.sync clock user token timeout).1 = .ok (.waiting sync))
    (done : (((start.sync clock user token timeout).2.run operations).resume later sync).1 =
      .ok (.done response)) :
    Answers start user token timeout
      (Moment.collectedAt ⟨(start.sync clock user token timeout).2.run operations, later⟩
        ⟨start, clock⟩ sync) response

/-- An answer is what is collected, from the positions in the token, when the sync is started or
later. -/
theorem Answers.exists_collect (answers : start.Answers user token timeout collected response) :
    (∃ operations, collected.hub = start.run operations) ∧
      ∃ since, start.since token = .ok since ∧ collected.collect user since = .ok response := by
  cases answers with
  | atOnce done => exact ⟨⟨[], rfl⟩, collect_of_sync_done done⟩
  | @resumed clock later sync operations response waits done =>
    obtain ⟨rfl, read, first⟩ := collect_of_sync_waiting waits
    refine ⟨?_, sync.since, read, Moment.collect_of_resume first done⟩
    unfold Moment.collectedAt
    split
    · exact ⟨.sync clock sync.user token timeout :: operations, rfl⟩
    · exact ⟨[], rfl⟩

end ChatFeed.Hub
