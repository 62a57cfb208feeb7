import ChatFeed.Log.FanIn
import ChatFeed.Proofs.Log.Sorting
import Mathlib.Data.List.Perm.Basic

/-!
# Fan-in logs as what has been sent

Nothing in a fan-in log is ever written over, so a recipient holds just what has been sent to them,
by ascending index, and the search for a window from the newest entry back may stop at the first one
below it. What a reader of several recipients is given is then told by what has been sent: all of it
that is between the bounds and for one of the recipients, in the order in which it was sent, and as
often as its recipient is listed.

## Main definitions

* `FanInLog.Operation`, `FanInLog.run`: what happens to a log and its counter
* `FanInLog.history`, `FanInLog.sentTo`: what has been sent, and what of it to a recipient
* `FanInLog.merged`: what has been sent to some recipients between two bounds
* `FanInLog.Records`: every recipient holds what has been sent to them

## Main results

* `takeWhile_eq_filter`: a search in order may stop where the first item falls out
* `FanInLog.records_run`: every recipient holds what has been sent to them
* `FanInLog.merged_perm`: what has been sent, recipient by recipient and in order
* `FanInLog.merge_exact`: what a reader of several recipients is given
-/

namespace ChatFeed

/-- A search may stop at the first item that does not satisfy `p`, if none satisfies it after an
item that does not. -/
theorem takeWhile_eq_filter {α : Type} {p : α → Bool} {items : List α}
    (downward : items.Pairwise fun a b => p b = true → p a = true) :
    items.takeWhile p = items.filter p := by
  induction items with
  | nil => rfl
  | cons first rest ih =>
    obtain ⟨before, later⟩ := List.pairwise_cons.mp downward
    by_cases satisfied : p first = true
    · rw [List.takeWhile_cons_of_pos satisfied, List.filter_cons_of_pos satisfied, ih later]
    · have none_later : rest.filter p = [] :=
        List.filter_eq_nil_iff.mpr fun b mem holds => satisfied (before b mem holds)
      rw [List.takeWhile_cons_of_neg satisfied, List.filter_cons_of_neg satisfied, none_later]

namespace FanInLog

/-! ### What is sent -/

/-- Something that is sent, and the one it is for. -/
abbrev Sending := Envelope × Key

/-- What happens to a fan-in log: something is sent, or another log takes an index from the
counter. -/
inductive Operation where
  | send (envelope : Envelope) (recipient : Key)
  | pass

/-- A fan-in log with the counter that numbers its entries. -/
structure Numbered where
  log : FanInLog := {}
  counter : Counter

/-- A log and its counter after an operation. -/
def perform (numbered : Numbered) : Operation → Numbered
  | .send envelope recipient =>
    let (_, log, counter) := numbered.log.send numbered.counter envelope recipient
    ⟨log, counter⟩
  | .pass => { numbered with counter := numbered.counter.advance }

/-- A log and its counter after a sequence of operations. -/
def run (numbered : Numbered) (operations : List Operation) : Numbered :=
  operations.foldl perform numbered

/-- What an operation sends at index `next`. -/
def Operation.sent? (next : Nat) : Operation → Option (Indexed Sending)
  | send envelope recipient => some ⟨next, envelope, recipient⟩
  | pass => none

/-- What a sequence of operations sends from index `next` on, in order. -/
def history (next : Nat) : List Operation → List (Indexed Sending)
  | [] => []
  | operation :: rest => (operation.sent? next).toList ++ history (next + 1) rest

/-- The entry that is made of what is sent. -/
def entryOf (sending : Indexed Sending) : Indexed Envelope :=
  ⟨sending.index, sending.item.1⟩

/-- What has been sent to a recipient. -/
def sentTo (recipient : Key) (sent : List (Indexed Sending)) : List (Indexed Envelope) :=
  (sent.filter fun sending => sending.item.2 = recipient).map entryOf

/-- What has been sent between two bounds. -/
def between (sent : List (Indexed Sending)) (low high : Nat) : List (Indexed Sending) :=
  sent.filter fun sending => low ≤ sending.index ∧ sending.index < high

/-- What has been sent to some recipients between two bounds, in the order in which it was sent, and
as often as its recipient is listed. -/
def merged (sent : List (Indexed Sending)) (recipients : List Key) (low high : Nat) :
    List (Indexed Envelope) :=
  (between sent low high).flatMap fun sending =>
    List.replicate (recipients.count sending.item.2) (entryOf sending)

/-- What a recipient holds. -/
def held (log : FanInLog) (recipient : Key) : List (Indexed Envelope) :=
  log.segments.getD recipient []

variable {log : FanInLog} {numbered : Numbered} {sent : List (Indexed Sending)}
  {recipients : List Key} {recipient : Key} {low high : Nat}

theorem held_of_get?_eq_none (unknown : log.segments.get? recipient = none) :
    log.held recipient = [] := by
  rw [held, Table.getD, unknown, Option.getD_none]

theorem held_of_get?_eq_some {segment : List (Indexed Envelope)}
    (known : log.segments.get? recipient = some segment) : log.held recipient = segment := by
  rw [held, Table.getD, known, Option.getD_some]

/-! ### Recording -/

/-- Whether a log has come about by what has been sent: every recipient holds what was sent to them,
and all had ascending indices below the next. -/
structure Records (numbered : Numbered) (sent : List (Indexed Sending)) : Prop where
  held : ∀ recipient, numbered.log.held recipient = sentTo recipient sent
  ascending : sent.Pairwise (·.index < ·.index)
  below : ∀ sending ∈ sent, sending.index < numbered.counter.current

theorem records_empty (counter : Counter) : Records { counter } [] where
  held _ := rfl
  ascending := List.Pairwise.nil
  below _ mem := absurd mem List.not_mem_nil

theorem sentTo_append (recipient : Key) (earlier later : List (Indexed Sending)) :
    sentTo recipient (earlier ++ later) = sentTo recipient earlier ++ sentTo recipient later := by
  rw [sentTo, List.filter_append, List.map_append, sentTo, sentTo]

/-- What is sent goes to the end of what its recipient holds. -/
theorem held_send (log : FanInLog) (counter : Counter) (envelope : Envelope)
    (recipient other : Key) :
    (log.send counter envelope recipient).2.1.held other =
      log.held other ++ sentTo other [⟨counter.current, envelope, recipient⟩] := by
  rw [held, send, Table.getD, Table.get?_insert]
  by_cases same : recipient = other
  · subst same
    simp [sentTo, entryOf, held]
  · simp [sentTo, same, held, Table.getD]

theorem Records.perform (records : Records numbered sent) (operation : Operation) :
    Records (perform numbered operation)
      (sent ++ (operation.sent? numbered.counter.current).toList) := by
  cases operation with
  | pass =>
    rw [Operation.sent?, Option.toList_none, List.append_nil]
    exact { records with below := fun sending mem => Nat.lt_succ_of_lt (records.below sending mem) }
  | send envelope recipient =>
    rw [Operation.sent?, Option.toList_some]
    constructor
    case held =>
      intro other
      refine (held_send numbered.log numbered.counter envelope recipient other).trans ?_
      rw [records.held, sentTo_append]
    case ascending =>
      refine List.pairwise_append.mpr ⟨records.ascending, List.pairwise_singleton _ _, ?_⟩
      intro sending mem last single
      rw [List.mem_singleton.mp single]
      exact records.below sending mem
    case below =>
      intro sending mem
      rcases List.mem_append.mp mem with old | new
      · exact Nat.lt_succ_of_lt (records.below sending old)
      · rw [List.mem_singleton.mp new]
        exact Nat.lt_succ_self _

/-- Every operation takes one index. -/
theorem current_perform (numbered : Numbered) (operation : Operation) :
    (perform numbered operation).counter.current = numbered.counter.current + 1 := by
  cases operation <;> rfl

theorem Records.run (records : Records numbered sent) (operations : List Operation) :
    Records (run numbered operations)
      (sent ++ history numbered.counter.current operations) := by
  induction operations generalizing numbered sent with
  | nil =>
    rw [history, List.append_nil]
    exact records
  | cons operation rest ih =>
    have later := ih (records.perform operation)
    rw [List.append_assoc, current_perform] at later
    exact later

/-- In a log that has been empty every recipient holds what has been sent to them since. -/
theorem records_run (start : Counter) (operations : List Operation) :
    Records (FanInLog.run { counter := start } operations) (history start.current operations) :=
  (records_empty start).run operations

theorem Records.ascending_held (records : Records numbered sent) (recipient : Key) :
    (numbered.log.held recipient).Pairwise (·.index < ·.index) := by
  rw [records.held, sentTo, List.pairwise_map]
  exact records.ascending.filter _

/-! ### Reading one recipient's entries -/

/-- The search from the newest entry back finds all that is between the bounds. -/
theorem newestFirst_eq {segment : List (Indexed Envelope)}
    (ascending : segment.Pairwise (·.index < ·.index)) (low high : Nat) :
    newestFirst segment low high =
      (segment.filter fun entry => low ≤ entry.index ∧ entry.index < high).reverse := by
  have downward : segment.reverse.Pairwise fun later earlier =>
      decide (low ≤ earlier.index) = true → decide (low ≤ later.index) = true := by
    refine List.pairwise_reverse.mpr (ascending.imp fun before above => decide_eq_true ?_)
    exact Nat.le_of_lt (Nat.lt_of_le_of_lt (of_decide_eq_true above) before)
  rw [newestFirst, takeWhile_eq_filter downward, List.filter_filter, List.filter_reverse]
  congr 1
  refine List.filter_congr fun entry _ => ?_
  rw [← Bool.decide_and]
  exact decide_eq_decide.mpr And.comm

/-- Nothing is found for a recipient to whom nothing has been sent. -/
theorem flatMap_newestFirst (log : FanInLog) (recipients : List Key) (low high : Nat) :
    ((recipients.filterMap log.segments.get?).flatMap fun segment =>
        newestFirst segment low high) =
      recipients.flatMap fun recipient => newestFirst (log.held recipient) low high := by
  induction recipients with
  | nil => rfl
  | cons first rest ih =>
    rw [List.flatMap_cons, ← ih]
    cases known : log.segments.get? first with
    | none =>
      rw [List.filterMap_cons_none known, held_of_get?_eq_none known]
      rfl
    | some segment =>
      rw [List.filterMap_cons_some known, held_of_get?_eq_some known, List.flatMap_cons]

/-! ### Reading several recipients' entries -/

/-- What a recipient holds between two bounds has been sent to them between the bounds. -/
theorem filter_sentTo (recipient : Key) (sent : List (Indexed Sending)) (low high : Nat) :
    (sentTo recipient sent).filter (fun entry => low ≤ entry.index ∧ entry.index < high) =
      sentTo recipient (between sent low high) := by
  rw [sentTo, List.filter_map, List.filter_filter, sentTo, between, List.filter_filter]
  congr 1
  exact List.filter_congr fun sending _ => Bool.and_comm _ _

/-- What has been sent to a recipient is picked out of what has been sent one by one. -/
theorem sentTo_eq_flatMap (recipient : Key) (sent : List (Indexed Sending)) :
    sentTo recipient sent =
      sent.flatMap fun sending => if sending.item.2 = recipient then [entryOf sending] else [] := by
  induction sent with
  | nil => rfl
  | cons first rest ih =>
    rw [List.flatMap_cons, ← ih, sentTo, sentTo]
    by_cases mine : first.item.2 = recipient <;> simp [mine]

/-- Recipient by recipient the same is found as in order. -/
theorem merged_perm (sent : List (Indexed Sending)) (recipients : List Key) (low high : Nat) :
    (recipients.flatMap fun recipient => ((sentTo recipient sent).filter
      fun entry => low ≤ entry.index ∧ entry.index < high).reverse).Perm
        (merged sent recipients low high) := by
  induction recipients with
  | nil => simp [merged]
  | cons first rest ih =>
    -- The first recipient adds one of each that is for them to what the others add.
    have split : merged sent (first :: rest) low high =
        (between sent low high).flatMap fun sending =>
          (if sending.item.2 = first then [entryOf sending] else []) ++
            List.replicate (rest.count sending.item.2) (entryOf sending) := by
      refine List.flatMap_congr fun sending _ => ?_
      by_cases mine : sending.item.2 = first
      · rw [mine, List.count_cons_self, List.replicate_succ, if_pos rfl, List.singleton_append]
      · rw [List.count_cons_of_ne (Ne.symm mine), if_neg mine, List.nil_append]
    rw [List.flatMap_cons, split]
    refine ((List.reverse_perm _).append ih).trans ?_
    rw [filter_sentTo, sentTo_eq_flatMap]
    exact List.flatMap_append_perm _ _ _

/-- What has been merged is for one of the recipients and between the bounds. -/
theorem mem_merged_iff {entry : Indexed Envelope} : entry ∈ merged sent recipients low high ↔
    ∃ sending ∈ sent, low ≤ sending.index ∧ sending.index < high ∧
      sending.item.2 ∈ recipients ∧ entryOf sending = entry := by
  simp only [merged, between, List.mem_flatMap, List.mem_filter, decide_eq_true_eq,
    List.mem_replicate, Ne, List.count_eq_zero, not_not, and_assoc]
  exact exists_congr fun sending => by rw [@eq_comm _ entry]

section Merged

variable (ascending : sent.Pairwise (·.index < ·.index))

include ascending

/-- What has been merged is in the order in which it was sent. -/
theorem ordered_merged : (merged sent recipients low high).Pairwise (·.index ≤ ·.index) := by
  refine List.pairwise_flatMap.mpr ⟨fun sending _ => ?_, ?_⟩
  · exact List.pairwise_replicate.mpr (.inr (Nat.le_refl _))
  · refine (ascending.filter _).imp fun before a mem_a b mem_b => ?_
    rw [(List.mem_replicate.mp mem_a).2, (List.mem_replicate.mp mem_b).2]
    exact Nat.le_of_lt before

/-- Where no recipient is listed twice, nothing comes twice. -/
theorem ascending_merged (nodup : recipients.Nodup) :
    (merged sent recipients low high).Pairwise (·.index < ·.index) := by
  refine List.pairwise_flatMap.mpr ⟨fun sending _ => ?_, ?_⟩
  · exact List.pairwise_replicate.mpr (.inl (List.nodup_iff_count_le_one.mp nodup _))
  · refine (ascending.filter _).imp fun before a mem_a b mem_b => ?_
    rw [(List.mem_replicate.mp mem_a).2, (List.mem_replicate.mp mem_b).2]
    exact before

/-- Whatever has the index of an entry is the entry. -/
theorem eq_of_mem_merged {a b : Indexed Envelope} (mem_a : a ∈ merged sent recipients low high)
    (mem_b : b ∈ merged sent recipients low high) (same : a.index = b.index) : a = b := by
  obtain ⟨first, mem_first, -, -, -, rfl⟩ := mem_merged_iff.mp mem_a
  obtain ⟨second, mem_second, -, -, -, rfl⟩ := mem_merged_iff.mp mem_b
  rw [eq_of_index_eq ascending mem_first mem_second same]

/-- What has been sent between the bounds is merged as often as its recipient is listed. -/
theorem count_merged {sending : Indexed Sending} (mem : sending ∈ sent)
    (above : low ≤ sending.index) (below : sending.index < high) :
    (merged sent recipients low high).count (entryOf sending) =
      recipients.count sending.item.2 := by
  have inside : sending ∈ between sent low high :=
    List.mem_filter.mpr ⟨mem, decide_eq_true ⟨above, below⟩⟩
  obtain ⟨front, back, cut⟩ := List.append_of_mem inside
  have apart : (front ++ sending :: back).Pairwise (·.index < ·.index) :=
    cut ▸ ascending.filter _
  obtain ⟨-, after, before⟩ := List.pairwise_append.mp apart
  -- No other entry has the index.
  have elsewhere (others : List (Indexed Sending))
      (distinct : ∀ other ∈ others, other.index ≠ sending.index) :
      (others.flatMap fun other => List.replicate (recipients.count other.item.2)
        (entryOf other)).count (entryOf sending) = 0 := by
    rw [List.count_eq_zero, List.mem_flatMap]
    rintro ⟨other, mem_other, copied⟩
    exact distinct other mem_other
      (congrArg Indexed.index (List.mem_replicate.mp copied).2).symm
  rw [merged, cut, List.flatMap_append, List.flatMap_cons, List.count_append, List.count_append,
    List.count_replicate_self,
    elsewhere front fun other mem =>
      Nat.ne_of_lt (before other mem sending List.mem_cons_self),
    elsewhere back fun other mem => Nat.ne_of_gt ((List.pairwise_cons.mp after).1 other mem),
    Nat.zero_add, Nat.add_zero]

end Merged

/-- A merge gives what has been sent to the recipients between the bounds. -/
theorem Records.forwards_eq (records : Records numbered sent) (ordered : low ≤ high)
    (recipients : List Key) :
    numbered.log.forwards numbered.counter recipients low high =
      let stop := min high numbered.counter.current
      if stop ≤ low then .ok (.empty stop stop)
      else .ok ⟨(merged sent recipients low stop).map (·.item), low, stop⟩ := by
  rw [forwards, if_neg (Nat.not_lt.mpr ordered)]
  simp only
  congr 4
  rw [flatMap_newestFirst]
  refine sortByIndex_eq_of_ordered ?_ (ordered_merged records.ascending)
    fun a mem_a b mem_b => eq_of_mem_merged records.ascending mem_a mem_b
  refine (List.Perm.of_eq (List.flatMap_congr fun recipient _ => ?_)).trans (merged_perm _ _ _ _)
  rw [newestFirst_eq (records.ascending_held recipient), records.held]

/-- In a log that has been written from the start, from whatever index and while other logs took
indices from its counter, the search from a recipient's newest entry back leaves out nothing that is
between its bounds, and a reader of several recipients is given what has been sent to them between
the bounds, up to the counter: in order of the indices, each as often as its recipient is listed,
and nothing else. If the bounds leave no room below the counter, the reader is given nothing and
both cursors are where the window would have ended. -/
theorem merge_exact (start : Counter) (operations : List Operation) :
    let done := run { counter := start } operations
    let sent := history start.current operations
    (∀ recipient low high, newestFirst (done.log.held recipient) low high =
      ((sentTo recipient sent).filter
        fun entry => low ≤ entry.index ∧ entry.index < high).reverse) ∧
    ∀ recipients low high, low ≤ high →
      let stop := min high done.counter.current
      let entries := merged sent recipients low stop
      (stop ≤ low → done.log.forwards done.counter recipients low high =
        .ok (.empty stop stop)) ∧
      (low < stop → done.log.forwards done.counter recipients low high =
        .ok ⟨entries.map (·.item), low, stop⟩) ∧
      entries.Pairwise (·.index ≤ ·.index) ∧
      (∀ entry, entry ∈ entries ↔ ∃ sending ∈ sent, low ≤ sending.index ∧ sending.index < stop ∧
        sending.item.2 ∈ recipients ∧ ⟨sending.index, sending.item.1⟩ = entry) ∧
      (∀ sending ∈ sent, low ≤ sending.index → sending.index < stop →
        entries.count ⟨sending.index, sending.item.1⟩ = recipients.count sending.item.2) ∧
      (recipients.Nodup → entries.Pairwise (·.index < ·.index)) := by
  intro done sent
  have records : Records done sent := records_run start operations
  refine ⟨fun recipient low high => ?_, fun recipients low high ordered => ?_⟩
  · rw [newestFirst_eq (records.ascending_held recipient), records.held]
  · intro stop entries
    have answer := records.forwards_eq ordered recipients
    refine ⟨fun beyond => ?_, fun enclose => ?_, ordered_merged records.ascending,
      fun entry => mem_merged_iff, fun sending mem => count_merged records.ascending mem,
      ascending_merged records.ascending⟩
    · rw [answer]
      exact if_pos beyond
    · rw [answer]
      exact if_neg (Nat.not_le.mpr enclose)

section Listed

/-- A note in the lobby. -/
def note (name : String) : Envelope where
  context := "!lobby:example.org"
  id := Id.ofParts .event name "example.org"
  sender := Id.ofParts .user "host" "example.org"
  eventType := "note"

/-- Three notes are sent to two recipients, and another log takes an index. -/
def interleaved : List Operation :=
  [.send (note "first") "ann", .send (note "second") "bob", .pass, .send (note "third") "ann"]

/-- The notes of a recipient who is listed twice come twice, between those of the other. -/
theorem merge_exact_listed :
    let done := run { counter := ⟨5⟩ } interleaved
    done.log.forwards done.counter ["bob", "ann", "eve", "bob"] 5 100 =
      .ok ⟨[note "first", note "second", note "second", note "third"], 5, 9⟩ ∧
    done.log.forwards done.counter ["ann"] 6 8 = .ok ⟨[], 6, 8⟩ ∧
    done.log.forwards done.counter ["ann"] 20 100 = .ok ⟨[], 9, 9⟩ ∧
    (merged (history 5 interleaved) ["bob", "ann", "eve", "bob"] 5 9).count
      ⟨6, note "second"⟩ = 2 ∧
    (merged (history 5 interleaved) ["bob", "ann"] 5 9).Pairwise (·.index < ·.index) := by
  intro done
  obtain ⟨-, reads⟩ := merge_exact ⟨5⟩ interleaved
  obtain ⟨-, listed, -, -, count, -⟩ := reads ["bob", "ann", "eve", "bob"] 5 100 (by decide)
  obtain ⟨-, between, -⟩ := reads ["ann"] 6 8 (by decide)
  obtain ⟨beyond, -⟩ := reads ["ann"] 20 100 (by decide)
  obtain ⟨-, -, -, -, -, ascending⟩ := reads ["bob", "ann"] 5 100 (by decide)
  refine ⟨(listed (by decide +kernel)).trans (by decide +kernel),
    (between (by decide +kernel)).trans (by decide +kernel),
    (beyond (by decide +kernel)).trans (by decide +kernel), ?_, ascending (by decide)⟩
  exact count ⟨6, note "second", "bob"⟩ (by decide +kernel) (by decide) (by decide +kernel)

end Listed

end FanInLog

end ChatFeed
