import ChatFeed.Log.FanOut
import ChatFeed.Proofs.Log.Segment
import ChatFeed.Proofs.Log.Sorting

/-!
# Fan-out logs as what has been sent

A fan-out log keeps no history: an entry that is sent again is written over, at a new index but in
its old place, so the order in which a recipient's entries stand and the order of their indices
drift apart. Told along with what has been sent, numbered as it was, a recipient simply holds the
last with each identity of what was sent to them. One read gives it as it stands, the other one by
index and in pages, and a batch is nothing but its members sent one by one.

## Main definitions

* `FanOutLog.Operation`, `FanOutLog.run`: what happens to a log and its counter
* `FanOutLog.history`, `FanOutLog.sentTo`: what has been sent, and what of it to a recipient
* `FanOutLog.Records`: every recipient holds the last with each identity

## Main results

* `FanOutLog.forwards_eq`, `FanOutLog.range_of_length_le`, `FanOutLog.range_of_lt_length`: the reads
  as parts of what is held
* `FanOutLog.perform_sendMany`: a batch is its members sent one by one
* `FanOutLog.records_run`: every recipient holds the last of what has been sent to them
* `FanOutLog.reads_refine_history`: so it is read, as it stands and by index
-/

namespace ChatFeed

namespace FanOutLog

/-! ### Reading what is held -/

section Reading

variable {log : FanOutLog} {counter : Counter} {recipient : Key} {low high limit : Nat}

/-- What a recipient holds from `low` up to below `high`, as it stands. -/
def window (log : FanOutLog) (recipient : Key) (low high : Nat) : List (Indexed Envelope) :=
  (log.segments.held recipient).filter fun entry => low ≤ entry.index ∧ entry.index < high

/-- The bounds that a read reports when it leaves nothing out: those asked for, cut to the
counter unless they enclose nothing. -/
def covered (counter : Counter) (low high : Nat) : Nat × Nat :=
  if low = high then (low, low)
  else (min low (min high counter.current), min high counter.current)

theorem window_eq_nil (empty : high ≤ low) : log.window recipient low high = [] := by
  rw [window, List.filter_eq_nil_iff]
  intro entry mem inside
  obtain ⟨above, below⟩ := of_decide_eq_true inside
  omega

theorem window_of_get?_eq_none (unknown : log.segments.get? recipient = none) :
    log.window recipient low high = [] := by
  rw [window, Segments.held, Table.getD, unknown]
  rfl

theorem window_of_get?_eq_some {segment : Segment}
    (known : log.segments.get? recipient = some segment) :
    log.window recipient low high = segment.inRange low high := by
  rw [window, Segments.held, Table.getD, known]
  rfl

/-- Bounds that enclose something are reported as they are, up to the counter. -/
theorem covered_of_lt (enclose : low < min high counter.current) :
    covered counter low high = (low, min high counter.current) := by
  have distinct : low ≠ high := by omega
  rw [covered, if_neg distinct, Nat.min_eq_left (Nat.le_of_lt enclose)]

/-- A read in the order of the segment gives what is held between the bounds. -/
theorem forwards_eq (ordered : low ≤ high) : log.forwards counter recipient low high =
    .ok ⟨(log.window recipient low (min high counter.current)).map (·.item),
      (covered counter low high).1, (covered counter low high).2⟩ := by
  rw [forwards, if_neg (Nat.not_lt.mpr ordered)]
  -- Wherever the read returns early there is nothing to give, and only the bounds differ.
  by_cases same : low = high
  · rw [if_pos same, window_eq_nil (by omega), covered, if_pos same]
    rfl
  · rw [if_neg same]
    simp only
    by_cases beyond : min high counter.current ≤ low
    · rw [if_pos beyond, window_eq_nil beyond, covered, if_neg same, Nat.min_eq_right beyond]
      rfl
    · rw [if_neg beyond, covered_of_lt (Nat.lt_of_not_le beyond)]
      cases known : log.segments.get? recipient with
      | none =>
        rw [window_of_get?_eq_none known]
        rfl
      | some segment => rw [window_of_get?_eq_some known]

/-- A page that has room for what is held between the bounds gives all of it, by index. -/
theorem range_of_length_le (ordered : low ≤ high) (positive : 0 < limit)
    (room : (log.window recipient low (min high counter.current)).length ≤ limit) :
    log.range counter recipient low high limit =
      .ok ⟨(sortByIndex (log.window recipient low (min high counter.current))).map (·.item),
        (covered counter low high).1, (covered counter low high).2⟩ := by
  rw [range, if_neg (Nat.not_lt.mpr ordered)]
  by_cases same : low = high
  · rw [if_pos (.inl same), window_eq_nil (by omega), sortByIndex_nil, covered, if_pos same]
    rfl
  · rw [if_neg (by omega)]
    simp only
    by_cases beyond : min high counter.current ≤ low
    · rw [if_pos beyond, window_eq_nil beyond, sortByIndex_nil, covered, if_neg same,
        Nat.min_eq_right beyond]
      rfl
    · rw [if_neg beyond, covered_of_lt (Nat.lt_of_not_le beyond)]
      cases known : log.segments.get? recipient with
      | none =>
        rw [window_of_get?_eq_none known, sortByIndex_nil]
        rfl
      | some segment =>
        rw [window_of_get?_eq_some known] at room ⊢
        have sorted_room : (sortByIndex (segment.inRange low (min high counter.current))).length ≤
            limit := by
          rwa [(sortByIndex_perm _).length_eq]
        simp only [List.take_of_length_le sorted_room, if_neg (Nat.not_lt.mpr sorted_room)]
        split <;> rfl

/-- A page that has no room for all gives the first ones by index, and ends after the last. -/
theorem range_of_lt_length {last : Indexed Envelope} (ordered : low ≤ high)
    (cut : limit < (log.window recipient low (min high counter.current)).length)
    (is_last : ((sortByIndex (log.window recipient low (min high counter.current))).take
      limit).getLast? = some last) :
    log.range counter recipient low high limit =
      .ok ⟨((sortByIndex (log.window recipient low (min high counter.current))).take limit).map
        (·.item), low, last.index + 1⟩ := by
  have enclose : low < min high counter.current := by
    apply Nat.lt_of_not_le
    intro beyond
    rw [window_eq_nil beyond] at cut
    exact Nat.not_lt_zero _ cut
  have positive : limit ≠ 0 := by
    rintro rfl
    contradiction
  rw [range, if_neg (Nat.not_lt.mpr ordered), if_neg (by omega)]
  simp only
  rw [if_neg (Nat.not_le.mpr enclose)]
  cases known : log.segments.get? recipient with
  | none =>
    rw [window_of_get?_eq_none known] at cut
    exact absurd cut (Nat.not_lt_zero _)
  | some segment =>
    rw [window_of_get?_eq_some known] at cut is_last ⊢
    rw [← (sortByIndex_perm _).length_eq] at cut
    simp only [is_last, if_pos cut]

end Reading

/-! ### What is sent -/

/-- Something that is sent, and who it is for. -/
abbrev Sending := Envelope × List Key

/-- What happens to a fan-out log: something is sent, on its own or in a batch, or another log
takes an index from the counter. -/
inductive Operation where
  | send (envelope : Envelope) (recipients : List Key)
  | sendMany (batch : List Sending)
  | pass

/-- A fan-out log with the counter that numbers its entries. -/
structure Numbered where
  log : FanOutLog := {}
  counter : Counter

/-- The indices that an operation gives back, and what it leaves. -/
def perform (numbered : Numbered) : Operation → List Nat × Numbered
  | .send envelope recipients =>
    let (index, log, counter) := numbered.log.send numbered.counter envelope recipients
    ([index], ⟨log, counter⟩)
  | .sendMany batch =>
    let (indices, log, counter) := numbered.log.sendMany numbered.counter batch
    (indices, ⟨log, counter⟩)
  | .pass => ([], { numbered with counter := numbered.counter.advance })

/-- The indices that a sequence of operations gives back, and what it leaves. -/
def run (numbered : Numbered) : List Operation → List Nat × Numbered
  | [] => ([], numbered)
  | operation :: rest =>
    let (indices, numbered) := perform numbered operation
    let (later, numbered) := run numbered rest
    (indices ++ later, numbered)

namespace Operation

/-- What an operation sends from index `next` on. -/
def sent (next : Nat) : Operation → List (Indexed Sending)
  | send envelope recipients => [⟨next, envelope, recipients⟩]
  | sendMany batch => (batch.zipIdx next).map fun (sending, index) => ⟨index, sending⟩
  | pass => []

/-- The index that is next after an operation. -/
def after (next : Nat) : Operation → Nat
  | send _ _ => next + 1
  | sendMany batch => next + batch.length
  | pass => next + 1

end Operation

/-- What a sequence of operations sends from index `next` on, in order. -/
def history (next : Nat) : List Operation → List (Indexed Sending)
  | [] => []
  | operation :: rest => operation.sent next ++ history (operation.after next) rest

/-- What has been sent to a recipient. -/
def sentTo (recipient : Key) (sent : List (Indexed Sending)) : List (Indexed Envelope) :=
  sent.filterMap fun sending =>
    if recipient ∈ sending.item.2 then some ⟨sending.index, sending.item.1⟩ else none

/-- What a recipient was sent last with each identity, where its index is from `low` up to below
`high`, in the order in which the identities first reached the recipient. -/
def standsBetween (sent : List (Indexed Sending)) (recipient : Key) (low high : Nat) :
    List (Indexed Envelope) :=
  (standing Segment.entryId (sentTo recipient sent)).filter fun entry =>
    low ≤ entry.index ∧ entry.index < high

/-- The same in the order in which it was sent. -/
def latestBetween (sent : List (Indexed Sending)) (recipient : Key) (low high : Nat) :
    List (Indexed Envelope) :=
  (latest Segment.entryId (sentTo recipient sent)).filter fun entry =>
    low ≤ entry.index ∧ entry.index < high

variable {numbered : Numbered} {sent : List (Indexed Sending)} {recipient : Key}

/-! ### Batches -/

theorem run_cons (numbered : Numbered) (operation : Operation) (rest : List Operation) :
    run numbered (operation :: rest) =
      ((perform numbered operation).1 ++ (run (perform numbered operation).2 rest).1,
        (run (perform numbered operation).2 rest).2) := rfl

theorem run_singleton (numbered : Numbered) (operation : Operation) :
    run numbered [operation] = perform numbered operation := by
  rw [run_cons, run, List.append_nil]

/-- A batch is its first member, sent on its own, and a batch of the others. -/
theorem perform_sendMany_cons (numbered : Numbered) (envelope : Envelope) (recipients : List Key)
    (rest : List Sending) :
    perform numbered (.sendMany ((envelope, recipients) :: rest)) =
      run numbered [.send envelope recipients, .sendMany rest] := by
  simp [perform, run, sendMany, recordMany, send]

/-- A batch is its members sent one by one. -/
theorem perform_sendMany (numbered : Numbered) (batch : List Sending) :
    perform numbered (.sendMany batch) =
      run numbered (batch.map fun sending => .send sending.1 sending.2) := by
  induction batch generalizing numbered with
  | nil => rfl
  | cons sending rest ih =>
    obtain ⟨envelope, recipients⟩ := sending
    rw [perform_sendMany_cons, run_cons, run_singleton, ih]
    rfl

/-! ### Numbering -/

/-- Indices are given out as they are counted, to what is sent. -/
theorem perform_numbers (numbered : Numbered) (operation : Operation) :
    (perform numbered operation).1 =
        (operation.sent numbered.counter.current).map (·.index) ∧
      (perform numbered operation).2.counter.current =
        operation.after numbered.counter.current := by
  cases operation with
  | send envelope recipients => exact ⟨rfl, rfl⟩
  | pass => exact ⟨rfl, rfl⟩
  | sendMany batch =>
    induction batch generalizing numbered with
    | nil => exact ⟨rfl, rfl⟩
    | cons sending rest ih =>
      obtain ⟨envelope, recipients⟩ := sending
      obtain ⟨later, counted⟩ := ih (perform numbered (.send envelope recipients)).2
      rw [perform_sendMany_cons, run_cons, run_singleton, later, counted]
      -- The rest is numbered from right after the first member, as it is in the batch.
      refine ⟨rfl, ?_⟩
      change numbered.counter.current + 1 + rest.length =
        numbered.counter.current + (rest.length + 1)
      omega

/-- What follows is numbered as the counter goes on. -/
theorem run_numbers (numbered : Numbered) (operations : List Operation) :
    (run numbered operations).1 =
      (history numbered.counter.current operations).map (·.index) := by
  induction operations generalizing numbered with
  | nil => rfl
  | cons operation rest ih =>
    obtain ⟨indices, counted⟩ := perform_numbers numbered operation
    rw [run, history, List.map_append, ← indices, ← counted, ← ih]

/-! ### Recording -/

/-- Whether a log has come about by what has been sent: every recipient holds the last with each
identity of what was sent to them, and all had ascending indices below the next. -/
structure Records (numbered : Numbered) (sent : List (Indexed Sending)) : Prop where
  filed : numbered.log.segments.IsFiled
  held : ∀ recipient, numbered.log.segments.held recipient =
    standing Segment.entryId (sentTo recipient sent)
  ascending : sent.Pairwise (·.index < ·.index)
  below : ∀ sending ∈ sent, sending.index < numbered.counter.current

theorem records_empty (counter : Counter) : Records { counter } [] where
  filed := Segments.isFiled_empty
  held _ := rfl
  ascending := List.Pairwise.nil
  below _ mem := absurd mem List.not_mem_nil

theorem sentTo_concat (sent : List (Indexed Sending)) (last : Indexed Sending) :
    sentTo recipient (sent ++ [last]) =
      sentTo recipient sent ++
        if recipient ∈ last.item.2 then [⟨last.index, last.item.1⟩] else [] := by
  rw [sentTo, List.filterMap_append, sentTo]
  congr 1
  by_cases mem : recipient ∈ last.item.2 <;> simp [mem]

/-- What is sent is written over what each recipient holds with its identity. -/
theorem Records.send (records : Records numbered sent) (envelope : Envelope)
    (recipients : List Key) :
    Records (perform numbered (.send envelope recipients)).2
      (sent ++ [⟨numbered.counter.current, envelope, recipients⟩]) where
  filed := records.filed.record envelope _ recipients
  held recipient := by
    have written := records.filed.held_record envelope numbered.counter.current recipients recipient
    refine written.trans ?_
    rw [records.held, sentTo_concat]
    split
    next => exact (standing_concat _ _).symm
    next => rw [List.append_nil]
  ascending := by
    refine List.pairwise_append.mpr ⟨records.ascending, List.pairwise_singleton _ _, ?_⟩
    intro sending mem last single
    rw [List.mem_singleton.mp single]
    exact records.below sending mem
  below sending mem := by
    rcases List.mem_append.mp mem with old | new
    · exact Nat.lt_succ_of_lt (records.below sending old)
    · rw [List.mem_singleton.mp new]
      exact Nat.lt_succ_self _

theorem Records.perform (records : Records numbered sent) (operation : Operation) :
    Records (perform numbered operation).2
      (sent ++ operation.sent numbered.counter.current) := by
  cases operation with
  | send envelope recipients => exact records.send envelope recipients
  | pass =>
    rw [Operation.sent, List.append_nil]
    exact { records with below := fun sending mem => Nat.lt_succ_of_lt (records.below sending mem) }
  | sendMany batch =>
    -- The members are recorded one after the other.
    induction batch generalizing numbered sent with
    | nil =>
      rw [Operation.sent, List.zipIdx_nil, List.map_nil, List.append_nil]
      exact records
    | cons sending rest ih =>
      obtain ⟨envelope, recipients⟩ := sending
      have later := ih (records.send envelope recipients)
      rw [List.append_assoc] at later
      rw [perform_sendMany_cons]
      exact later

theorem Records.run (records : Records numbered sent) (operations : List Operation) :
    Records (run numbered operations).2
      (sent ++ history numbered.counter.current operations) := by
  induction operations generalizing numbered sent with
  | nil =>
    rw [history, List.append_nil]
    exact records
  | cons operation rest ih =>
    have later := ih (records.perform operation)
    rw [List.append_assoc, (perform_numbers numbered operation).2] at later
    exact later

/-- In a log that has been empty every recipient holds the last of what has been sent since. -/
theorem records_run (start : Counter) (operations : List Operation) :
    Records (run { counter := start } operations).2 (history start.current operations) :=
  (records_empty start).run operations

/-! ### Reading what has been sent -/

section Between

variable {low high : Nat}

theorem Records.ascending_sentTo (records : Records numbered sent) (recipient : Key) :
    (sentTo recipient sent).Pairwise (·.index < ·.index) := by
  refine records.ascending.filterMap _ fun first second before => ?_
  intro entry entered later entered_later
  obtain ⟨-, same⟩ := Option.ite_none_right_eq_some.mp entered
  obtain ⟨-, same_later⟩ := Option.ite_none_right_eq_some.mp entered_later
  obtain rfl := Option.some.inj same
  obtain rfl := Option.some.inj same_later
  exact before

theorem mem_of_mem_sentTo {entry : Indexed Envelope} (mem : entry ∈ sentTo recipient sent) :
    ∃ sending ∈ sent, sending.index = entry.index := by
  obtain ⟨sending, is_sent, received⟩ := List.mem_filterMap.mp mem
  obtain ⟨-, same⟩ := Option.ite_none_right_eq_some.mp received
  obtain rfl := Option.some.inj same
  exact ⟨sending, is_sent, rfl⟩

/-- What a recipient holds has been given an index. -/
theorem Records.lt_of_mem_held (records : Records numbered sent) {entry : Indexed Envelope}
    (mem : entry ∈ numbered.log.segments.held recipient) :
    entry.index < numbered.counter.current := by
  rw [records.held, mem_standing_iff] at mem
  obtain ⟨sending, is_sent, same⟩ := mem_of_mem_sentTo (mem_of_latest? mem).1
  rw [← same]
  exact records.below sending is_sent

/-- So a window is not changed by cutting it to the counter. -/
theorem Records.window_min (records : Records numbered sent) :
    numbered.log.window recipient low (min high numbered.counter.current) =
      numbered.log.window recipient low high := by
  refine List.filter_congr fun entry mem => ?_
  have below := records.lt_of_mem_held mem
  have cut : entry.index < min high numbered.counter.current ↔ entry.index < high := by omega
  simp only [cut]

theorem Records.window_eq (records : Records numbered sent) :
    numbered.log.window recipient low high = standsBetween sent recipient low high := by
  rw [window, records.held, standsBetween]

theorem Records.standsBetween_perm (records : Records numbered sent) :
    (standsBetween sent recipient low high).Perm (latestBetween sent recipient low high) := by
  have nodup : (sentTo recipient sent).Nodup :=
    (records.ascending_sentTo recipient).imp fun before same => by
      rw [same] at before
      exact Nat.lt_irrefl _ before
  exact (standing_perm_latest nodup).filter _

theorem Records.ascending_latestBetween (records : Records numbered sent) :
    (latestBetween sent recipient low high).Pairwise (·.index < ·.index) :=
  ((records.ascending_sentTo recipient).filter _).filter _

/-- Sorting what stands gives the order in which it was sent. -/
theorem Records.sortByIndex_window (records : Records numbered sent) :
    sortByIndex (numbered.log.window recipient low high) =
      latestBetween sent recipient low high := by
  rw [records.window_eq]
  exact sortByIndex_eq records.standsBetween_perm records.ascending_latestBetween

end Between

/-- A log that has been written from the start, from whatever index and while other logs took
indices from its counter, is read as what has been sent: one read gives what each recipient was sent
last with each identity, if its index is between the bounds, in the order in which the identities
first reached the recipient; the other read gives the same sorted by index, up to a limit, and if
that leaves something out it ends right after the last entry it gives. The indices that are given
back are those of what has been sent, and a batch is its members sent one by one. -/
theorem reads_refine_history (start : Counter) (operations : List Operation) :
    let done := run { counter := start } operations
    let sent := history start.current operations
    let log := done.2.log
    let counter := done.2.counter
    done.1 = sent.map (·.index) ∧
    (∀ recipient low high, low ≤ high →
      let entries := standsBetween sent recipient low (min high counter.current)
      let sorted := latestBetween sent recipient low (min high counter.current)
      let bounds := covered counter low high
      log.forwards counter recipient low high = .ok ⟨entries.map (·.item), bounds.1, bounds.2⟩ ∧
      entries.Perm sorted ∧ sorted.Pairwise (·.index < ·.index) ∧
      ∀ limit, 0 < limit →
        (entries.length ≤ limit → log.range counter recipient low high limit =
          .ok ⟨sorted.map (·.item), bounds.1, bounds.2⟩) ∧
        (limit < entries.length → ∃ last, (sorted.take limit).getLast? = some last ∧
          log.range counter recipient low high limit =
            .ok ⟨(sorted.take limit).map (·.item), low, last.index + 1⟩)) ∧
    ∀ batch : List Sending, run done.2 [.sendMany batch] =
      run done.2 (batch.map fun sending => .send sending.1 sending.2) := by
  intro done sent log counter
  have records : Records done.2 sent := records_run start operations
  refine ⟨run_numbers _ operations, fun recipient low high ordered => ?_, fun batch => ?_⟩
  · intro entries sorted bounds
    have held : log.window recipient low (min high counter.current) = entries := records.window_eq
    have sorted_held : sortByIndex (log.window recipient low (min high counter.current)) = sorted :=
      records.sortByIndex_window
    have perm : entries.Perm sorted := records.standsBetween_perm
    refine ⟨?_, perm, records.ascending_latestBetween, fun limit positive => ⟨?_, ?_⟩⟩
    · rw [forwards_eq ordered, held]
    · intro room
      rw [← held] at room
      rw [range_of_length_le ordered positive room, sorted_held]
    · intro cut
      -- The limit is not zero, so something is given, and the page ends after the last of it.
      have some_taken : sorted.take limit ≠ [] := by
        rw [Ne, List.take_eq_nil_iff, ← List.length_eq_zero_iff, ← perm.length_eq]
        omega
      obtain ⟨last, is_last⟩ : ∃ last, (sorted.take limit).getLast? = some last :=
        ⟨_, List.getLast?_eq_some_getLast some_taken⟩
      rw [← held] at cut
      rw [← sorted_held] at is_last ⊢
      exact ⟨_, is_last, range_of_lt_length ordered cut is_last⟩
  · rw [run_singleton, perform_sendMany]

section Rewritten

/-- A note in the lobby. -/
def note (name eventType : String) : Envelope where
  context := "!lobby:example.org"
  id := Id.ofParts .event name "example.org"
  sender := Id.ofParts .user "host" "example.org"
  eventType := eventType

/-- A first note goes to two recipients, another log takes an index, and a batch brings a second
note to one of them and the first one again, for one recipient twice. -/
def rewritten : List Operation :=
  [.send (note "first" "draft") ["ann", "bob"], .pass,
    .sendMany [(note "second" "final", ["ann"]), (note "first" "final", ["bob", "ann", "ann"])]]

/-- The first note stands in its old place, and comes last by index. -/
theorem reads_refine_history_rewritten :
    let log := (run { counter := ⟨5⟩ } rewritten).2.log
    (run { counter := ⟨5⟩ } rewritten).1 = [5, 7, 8] ∧
    log.forwards ⟨9⟩ "ann" 0 100 = .ok ⟨[note "first" "final", note "second" "final"], 0, 9⟩ ∧
    log.range ⟨9⟩ "ann" 0 100 2 = .ok ⟨[note "second" "final", note "first" "final"], 0, 9⟩ ∧
    log.range ⟨9⟩ "ann" 0 100 1 = .ok ⟨[note "second" "final"], 0, 8⟩ := by
  intro log
  obtain ⟨indices, reads, -⟩ := reads_refine_history ⟨5⟩ rewritten
  obtain ⟨forwards, -, -, range⟩ := reads "ann" 0 100 (by decide)
  obtain ⟨last, is_last, cut⟩ := (range 1 (by decide)).2 (by decide +kernel)
  refine ⟨?_, ?_, ?_, ?_⟩
  · rw [indices]
    decide +kernel
  · refine forwards.trans ?_
    decide +kernel
  · refine ((range 2 (by decide)).1 (by decide +kernel)).trans ?_
    decide +kernel
  · refine cut.trans ?_
    have second : last = ⟨7, note "second" "final"⟩ := by
      refine Option.some.inj (is_last.symm.trans ?_)
      decide +kernel
    rw [second]
    decide +kernel

end Rewritten

end FanOutLog

end ChatFeed
