import ChatFeed.Proofs.Board.Operation
import ChatFeed.Proofs.Log.Signals
import ChatFeed.Proofs.Log.Timeline

/-!
# How logs number what is entered

Whatever kind of log an entry is for, its write takes indices from the counter of the log: one for
an entry, one for each member of a batch, and one even if the write fails in the end because the
directory does not answer, for by then the entry has been recorded. Only an event of no room is
turned away and takes none. Nothing new is kept at any other index.

## Main definitions

* `AnyLog.Stores`: something is kept at an index
* `AnyLog.Numbers`, `AnyLog.Enters`: how a write numbers what it enters

## Main results

* `AnyLog.enters_of_enter?`: what every write to every kind of log does
-/

namespace ChatFeed

/-- How much an entry has to be numbered: each member of a batch, or else the one thing it is. -/
def Entry.size : Entry → Nat
  | .fanOutBatch batch => batch.length
  | _ => 1

/-- The indices that a receipt gives. -/
def Receipt.given : Receipt → List Nat
  | .index taken => [taken]
  | .indices taken => taken
  | .item entered => [entered.index]

/-! ### What is kept where -/

/-- Whether somebody holds something at an index. -/
def Segments.Stores (segments : Segments) (index : Nat) : Prop :=
  ∃ recipient, ∃ entry ∈ segments.held recipient, entry.index = index

namespace AnyLog

/-- Whether anything is kept at an index. -/
def Stores (log : AnyLog) (index : Nat) : Prop :=
  match log with
  | fanOut log => log.segments.Stores index
  | fanIn log => ∃ recipient, ∃ entry ∈ log.segments.getD recipient [], entry.index = index
  | signals log => log.segments.Stores index
  | timeline log =>
    (∃ posting, log.postings.get? index = some posting) ∨ ∃ id, log.indices.get? id = some index
  | presence log => ∃ user record, log.records.get? user = some record ∧ record.index = index

/-- The index at which a timeline or a presence log keeps what an entry is about. -/
def placeOf? (log : AnyLog) (entry : Entry) : Option Nat :=
  match log, entry with
  | timeline log, .event event => log.indices.get? event.id
  | presence log, .availability _ user _ _ => (log.records.get? user).map (·.index)
  | presence log, .profile _ user _ => (log.records.get? user).map (·.index)
  | _, _ => none

/-- The logs in which nothing has been entered. -/
def unused : List AnyLog :=
  [fanOut {}, fanIn {}, signals {}, timeline {}, presence {}]

theorem not_stores_of_mem_unused {log : AnyLog} (mem : log ∈ unused) (index : Nat) :
    ¬log.Stores index := by
  simp only [unused, List.mem_cons, List.not_mem_nil, or_false] at mem
  rcases mem with rfl | rfl | rfl | rfl | rfl
  · rintro ⟨recipient, entry, held, -⟩
    exact List.not_mem_nil held
  · rintro ⟨recipient, entry, held, -⟩
    exact List.not_mem_nil held
  · rintro ⟨recipient, entry, held, -⟩
    exact List.not_mem_nil held
  · rintro (⟨posting, found⟩ | ⟨id, found⟩) <;> contradiction
  · rintro ⟨user, record, found, -⟩
    contradiction

/-! ### Entering -/

/-- How a write numbers what it enters, and how many indices that takes. -/
inductive Numbers (entry : Entry) (before after : Feed AnyLog) :
    Except LogError Receipt → Nat → Prop where
  /-- The next indices are taken and given back. -/
  | given (receipt : Receipt)
    (indices : receipt.given = List.range' before.counter.current entry.size) :
    Numbers entry before after (.ok receipt) entry.size
  /-- The directory does not answer, and the entry stands at the next index all the same. -/
  | kept (cause : MembershipError)
    (placed : after.log.placeOf? entry = some before.counter.current) :
    Numbers entry before after (.error (.membership cause)) 1
  /-- The entry is turned away. -/
  | refused (id : EventId) (unchanged : after = before) :
    Numbers entry before after (.error (.noRoom id)) 0

/-- What a write does that takes `count` indices: it advances the counter by so many, and keeps
nothing new anywhere else. -/
structure Enters (entry : Entry) (before after : Feed AnyLog) (result : Except LogError Receipt)
    (count : Nat) : Prop where
  numbers : Numbers entry before after result count
  counter : after.counter.current = before.counter.current + count
  stores : ∀ index, after.log.Stores index → before.log.Stores index ∨
    before.counter.current ≤ index ∧ index < before.counter.current + count

variable {index next : Nat}

theorem stores_segments_record {segments : Segments} {envelope : Envelope} {recipients : List Key}
    (stores : (segments.record envelope next recipients).Stores index) :
    segments.Stores index ∨ next ≤ index ∧ index < next + 1 := by
  obtain ⟨recipient, entry, mem, rfl⟩ := stores
  rcases Segments.eq_or_mem_of_mem_held_record mem with ⟨-, rfl⟩ | old
  · exact .inr ⟨Nat.le_refl _, Nat.lt_succ_self _⟩
  · exact .inl ⟨recipient, entry, old, rfl⟩

theorem stores_timeline_record {log : Timeline} {posting : Posting}
    (stores : (timeline (log.record next posting)).Stores index) :
    (timeline log).Stores index ∨ next ≤ index ∧ index < next + 1 := by
  rcases stores with ⟨found, at_index⟩ | ⟨id, at_index⟩
  · rcases Timeline.eq_or_get?_of_get?_record at_index with ⟨rfl, -⟩ | old
    · exact .inr ⟨Nat.le_refl _, Nat.lt_succ_self _⟩
    · exact .inl (.inl ⟨found, old⟩)
  · rw [Timeline.get?_indices_record] at at_index
    split at at_index
    next =>
      obtain rfl := Option.some.inj at_index
      exact .inr ⟨Nat.le_refl _, Nat.lt_succ_self _⟩
    next => exact .inl (.inr ⟨id, at_index⟩)

theorem stores_presence_insert {log : PresenceLog} {user : UserId} {record : PresenceRecord}
    (stores : (presence ⟨log.records.insert user ⟨next, record⟩⟩).Stores index) :
    (presence log).Stores index ∨ next ≤ index ∧ index < next + 1 := by
  obtain ⟨other, found, at_user, rfl⟩ := stores
  rw [Table.get?_insert] at at_user
  split at at_user
  next =>
    obtain rfl := Option.some.inj at_user
    exact .inr ⟨Nat.le_refl _, Nat.lt_succ_self _⟩
  next => exact .inl ⟨other, found, at_user, rfl⟩

theorem stores_fanIn_insert {log : FanInLog} {recipient : Key} {envelope : Envelope}
    (stores : (fanIn ⟨log.segments.insert recipient
      (log.segments.getD recipient [] ++ [⟨next, envelope⟩])⟩).Stores index) :
    (fanIn log).Stores index ∨ next ≤ index ∧ index < next + 1 := by
  obtain ⟨other, entry, mem, rfl⟩ := stores
  rw [Table.getD, Table.get?_insert] at mem
  split at mem
  next =>
    rcases List.mem_append.mp mem with old | new
    · exact .inl ⟨recipient, entry, old, rfl⟩
    · rw [List.mem_singleton.mp new]
      exact .inr ⟨Nat.le_refl _, Nat.lt_succ_self _⟩
  next => exact .inl ⟨other, entry, mem, rfl⟩

/-- A batch takes the next indices, one for each member. -/
theorem recordMany_numbers (segments : Segments) (counter : Counter)
    (batch : List (Envelope × List Key)) :
    let recorded := FanOutLog.recordMany segments counter batch
    recorded.1 = List.range' counter.current batch.length ∧
      recorded.2.2.current = counter.current + batch.length ∧
      ∀ index, recorded.2.1.Stores index → segments.Stores index ∨
        counter.current ≤ index ∧ index < counter.current + batch.length := by
  induction batch generalizing segments counter with
  | nil => exact ⟨rfl, rfl, fun index stores => .inl stores⟩
  | cons sending rest ih =>
    obtain ⟨envelope, recipients⟩ := sending
    obtain ⟨indices, counted, stores⟩ :=
      ih (segments.record envelope counter.current recipients) counter.advance
    have advanced : counter.advance.current = counter.current + 1 := rfl
    rw [advanced] at counted stores
    refine ⟨?_, ?_, fun index stored => ?_⟩
    · exact congrArg (counter.current :: ·) indices
    · refine counted.trans ?_
      rw [List.length_cons]
      exact Nat.add_right_comm _ _ _
    · rw [List.length_cons]
      rcases stores index stored with first | later
      · rcases stores_segments_record first with old | new
        · exact .inl old
        · exact .inr (by omega)
      · exact .inr (by omega)

/-- Both kinds of presence update are numbered alike. -/
theorem enters_update (directory : Directory) (time : Timestamp) (user : UserId)
    (change : Presence → Presence) (feed : Feed PresenceLog) {entry : Entry}
    (single : entry.size = 1)
    (place : ∀ log, (presence log).placeOf? entry = (log.records.get? user).map (·.index)) :
    let update := PresenceLog.update directory time user change feed
    ∃ count, Enters entry (feed.wrap presence) (update.2.wrap presence) (update.1.map .item)
      count := by
  intro update
  obtain ⟨cause, -, kept⟩ | ⟨peers, item, -, rfl, told⟩ :=
    PresenceLog.update_cases directory time user change feed
  · refine ⟨1, ?_⟩
    rw [show update = _ from kept]
    refine ⟨.kept cause ((place _).trans ?_), rfl, fun index => stores_presence_insert⟩
    rw [PresenceLog.recorded, Table.get?_insert_self]
    rfl
  · refine ⟨entry.size, ?_⟩
    rw [show update = _ from told]
    refine ⟨.given (.item _) ?_, ?_, fun index stores => ?_⟩
    · rw [single]
      rfl
    · rw [single]
      rfl
    · rw [single]
      exact stores_presence_insert stores

/-- What every write to every kind of log does. -/
theorem enters_of_enter? {directory : Directory} {entry : Entry} {before after : Feed AnyLog}
    {result : Except LogError Receipt}
    (entered : enter? directory entry before = some (result, after)) :
    ∃ count, Enters entry before after result count := by
  obtain ⟨log, counter, dispatcher⟩ := before
  unfold enter? at entered
  simp only at entered
  -- The cases are the kinds of logs with the entries that they keep.
  split at entered
  next log envelope recipients =>
    obtain ⟨rfl, rfl⟩ := Prod.mk.inj (Option.some.inj entered)
    exact ⟨1, .given _ rfl, rfl, fun index => stores_segments_record⟩
  next log batch =>
    obtain ⟨rfl, rfl⟩ := Prod.mk.inj (Option.some.inj entered)
    obtain ⟨indices, counted, stores⟩ := recordMany_numbers log.segments counter batch
    exact ⟨batch.length, .given _ indices, counted, stores⟩
  next log envelope recipient =>
    obtain ⟨rfl, rfl⟩ := Prod.mk.inj (Option.some.inj entered)
    exact ⟨1, .given _ rfl, rfl, fun index => stores_fanIn_insert⟩
  next log envelope recipients =>
    obtain ⟨rfl, rfl⟩ := Prod.mk.inj (Option.some.inj entered)
    exact ⟨1, .given _ rfl, rfl, fun index => stores_segments_record⟩
  next log event =>
    obtain ⟨rfl, rfl⟩ := Prod.mk.inj (Option.some.inj entered)
    obtain ⟨-, refused⟩ | ⟨room, cause, -, -, kept⟩ | ⟨room, users, -, -, sent⟩ :=
      Timeline.send_cases directory event ⟨log, counter, dispatcher⟩
    · rw [refused]
      exact ⟨0, .refused event.id rfl, rfl, fun index stores => .inl stores⟩
    · rw [kept]
      exact ⟨1, .kept cause (Table.get?_insert_self _ _ _), rfl,
        fun index => stores_timeline_record⟩
    · rw [sent]
      exact ⟨1, .given (.index _) rfl, rfl, fun index => stores_timeline_record⟩
  next log time user availability statusMessage =>
    obtain ⟨rfl, rfl⟩ := Prod.mk.inj (Option.some.inj entered)
    exact enters_update directory time user _ ⟨log, counter, dispatcher⟩ rfl fun _ => rfl
  next log time user profile =>
    obtain ⟨rfl, rfl⟩ := Prod.mk.inj (Option.some.inj entered)
    exact enters_update directory time user _ ⟨log, counter, dispatcher⟩ rfl fun _ => rfl
  next => contradiction

end AnyLog

end ChatFeed
