import ChatFeed.Proofs.Log.SignalAgreement

/-!
# Segments as what has been put into them

A segment is a list of entries and a table that leads from identities to places, written side by
side. Neither is ever compared with the other: a place that is looked up is written to as it is. The
two stay in step, whatever is put in, because an identity is entered in the table just when its
entry is added to the list, and neither is ever taken out. So a segment can be told from what has
been put into it, and its entries are told apart by their indices as long as each index was given to
one identity. Fan-out logs and signal logs number what they enter in this way, also for a recipient
who is listed several times and is given the same entry again.

## Main definitions

* `Segment.put`, `Segment.ofUpserts`: putting in an entry, or several
* `Segment.IsIssued`: what is put in is numbered as logs number it
* `FanOutLog.issuedTo`: what is put into the segment of a recipient

## Main results

* `Segment.IsFiled.get?_positions_put`: an identity is given the next place, once
* `Segment.entries_ofUpserts`: a segment holds the last with each identity
* `FanOutLog.getD_segments_run`: a log puts into a segment what it issues to the recipient
* `Segment.represents_upserts`: what a segment holds, and where
-/

namespace ChatFeed

namespace Segment

/-- The segment after an entry has been put in. -/
def put (segment : Segment) (entry : Indexed Envelope) : Segment :=
  segment.upsert entry.item entry.index

/-- The segment after some entries have been put in, one after the other. -/
def ofUpserts (upserts : List (Indexed Envelope)) : Segment :=
  upserts.foldl put ∅

/-- Whether entries are numbered as logs number what they enter: indices do not descend, and two
entries have the same index only if they have the same identity. -/
structure IsIssued (upserts : List (Indexed Envelope)) : Prop where
  ordered : upserts.Pairwise (·.index ≤ ·.index)
  tells : ∀ a ∈ upserts, ∀ b ∈ upserts, a.index = b.index → entryId a = entryId b

variable {segment : Segment} {upserts : List (Indexed Envelope)} {entry : Indexed Envelope}
  {id : EventId} {position : Nat}

/-! ### Putting in an entry -/

theorem IsFiled.entries_put (filed : segment.IsFiled) (entry : Indexed Envelope) :
    (segment.put entry).entries = putIn entryId entry segment.entries :=
  filed.entries_upsert entry.item entry.index

theorem IsFiled.put (filed : segment.IsFiled) (entry : Indexed Envelope) :
    (segment.put entry).IsFiled :=
  filed.upsert entry.item entry.index

/-- An identity keeps the place it has; one that has none is given the next. -/
theorem IsFiled.get?_positions_put (filed : segment.IsFiled) (entry : Indexed Envelope)
    (id : EventId) : (segment.put entry).positions.get? id =
      (segment.positions.get? id).or
        (if entryId entry = id then some segment.entries.length else none) := by
  rw [filed.put entry id, filed.entries_put, findIdx?_putIn, ← filed id]

theorem IsFiled.get?_positions_foldl_put (filed : segment.IsFiled)
    (known : segment.positions.get? id = some position) (later : List (Indexed Envelope)) :
    (later.foldl Segment.put segment).positions.get? id = some position := by
  induction later generalizing segment with
  | nil => exact known
  | cons next rest ih =>
    have kept : (segment.put next).positions.get? id = some position := by
      rw [filed.get?_positions_put, known, Option.some_or]
    exact ih (filed.put next) kept

/-! ### Putting in several -/

theorem ofUpserts_append (earlier later : List (Indexed Envelope)) :
    ofUpserts (earlier ++ later) = later.foldl put (ofUpserts earlier) :=
  List.foldl_append

theorem ofUpserts_concat (earlier : List (Indexed Envelope)) (last : Indexed Envelope) :
    ofUpserts (earlier ++ [last]) = (ofUpserts earlier).put last :=
  ofUpserts_append earlier [last]

theorem isFiled_ofUpserts (upserts : List (Indexed Envelope)) : (ofUpserts upserts).IsFiled := by
  induction upserts using List.reverseRecOn with
  | nil => exact isFiled_empty
  | append_singleton front last ih =>
    rw [ofUpserts_concat]
    exact ih.put last

/-- A segment holds the last entry with each identity, in the order in which the identities first
came up. -/
theorem entries_ofUpserts (upserts : List (Indexed Envelope)) :
    (ofUpserts upserts).entries = standing entryId upserts := by
  induction upserts using List.reverseRecOn with
  | nil => rfl
  | append_singleton front last ih =>
    rw [ofUpserts_concat, (isFiled_ofUpserts front).entries_put, ih, standing_concat]

theorem nodup_ids_ofUpserts (upserts : List (Indexed Envelope)) :
    ((ofUpserts upserts).entries.map entryId).Nodup := by
  rw [entries_ofUpserts, map_key_standing]
  exact nodup_eraseDups _

/-- An entry that a segment holds is the last with its identity. -/
theorem latest?_of_mem_entries (mem : entry ∈ (ofUpserts upserts).entries) :
    latest? entryId upserts (entryId entry) = some entry := by
  rw [entries_ofUpserts] at mem
  exact mem_standing_iff.mp mem

/-- Identities and places lead to each other. -/
theorem get?_positions_ofUpserts_iff : (ofUpserts upserts).positions.get? id = some position ↔
    ∃ entry, (ofUpserts upserts).entries[position]? = some entry ∧ entryId entry = id := by
  rw [isFiled_ofUpserts upserts id, findIdx?_eq_some_iff_of_nodup (nodup_ids_ofUpserts upserts)]

/-- An identity has a place once something with it has been put in. -/
theorem get?_positions_eq_none_iff :
    (ofUpserts upserts).positions.get? id = none ↔ id ∉ upserts.map entryId := by
  rw [isFiled_ofUpserts upserts id, entries_ofUpserts, List.findIdx?_eq_none_iff,
    ← List.mem_eraseDups, ← map_key_standing]
  simp

/-- The place an identity is given first is the one it has ever after. -/
theorem get?_positions_of_first {earlier later : List (Indexed Envelope)} {first : Indexed Envelope}
    (new : entryId first ∉ earlier.map entryId) :
    (ofUpserts (earlier ++ first :: later)).positions.get? (entryId first) =
      some (ofUpserts earlier).entries.length := by
  have filed : (ofUpserts earlier).IsFiled := isFiled_ofUpserts earlier
  have given : ((ofUpserts earlier).put first).positions.get? (entryId first) =
      some (ofUpserts earlier).entries.length := by
    rw [filed.get?_positions_put, get?_positions_eq_none_iff.mpr new, Option.none_or, if_pos rfl]
  rw [ofUpserts_append, List.foldl_cons]
  exact (filed.put first).get?_positions_foldl_put given later

/-- The place of an identity leads to the last entry with it. -/
theorem bind_get?_positions_ofUpserts :
    ((ofUpserts upserts).positions.get? id).bind ((ofUpserts upserts).entries[·]?) =
      latest? entryId upserts id := by
  cases known : (ofUpserts upserts).positions.get? id with
  | some position =>
    obtain ⟨entry, at_position, rfl⟩ := get?_positions_ofUpserts_iff.mp known
    rw [Option.bind_some, at_position, latest?_of_mem_entries (List.mem_of_getElem? at_position)]
  | none =>
    cases last : latest? entryId upserts id with
    | none => rfl
    | some entry =>
      obtain ⟨mem, rfl⟩ := mem_of_latest? last
      exact absurd (List.mem_map_of_mem mem) (get?_positions_eq_none_iff.mp known)

/-- Entries that were issued are told apart by their indices. -/
theorem IsIssued.nodup_indices (issued : IsIssued upserts) :
    ((ofUpserts upserts).entries.map (·.index)).Nodup := by
  refine List.Nodup.map_on (fun a mem_a b mem_b same => ?_) (nodup_ids_ofUpserts upserts).of_map
  have last_a := latest?_of_mem_entries mem_a
  have last_b := latest?_of_mem_entries mem_b
  have named := issued.tells a (mem_of_latest? last_a).1 b (mem_of_latest? last_b).1 same
  rw [named] at last_a
  exact Option.some.inj (last_a.symm.trans last_b)

theorem mem_inRange_iff {low high : Nat} : entry ∈ segment.inRange low high ↔
    entry ∈ segment.entries ∧ low ≤ entry.index ∧ entry.index < high := by
  rw [inRange, List.mem_filter, decide_eq_true_eq]

end Segment

/-! ### Issuing entries -/

/-- An entry is put into the segment of a recipient as often as the recipient is listed. -/
theorem Segments.getD_record (segments : Segments) (envelope : Envelope) (index : Nat)
    (recipients : List Key) (recipient : Key) :
    (segments.record envelope index recipients).getD recipient ∅ =
      (List.replicate (recipients.count recipient) ⟨index, envelope⟩).foldl Segment.put
        (segments.getD recipient ∅) := by
  induction recipients generalizing segments with
  | nil => rfl
  | cons first rest ih =>
    refine (ih (recordFor envelope index segments first)).trans ?_
    rw [getD_recordFor]
    by_cases now : first = recipient
    · subst now
      rw [if_pos rfl, List.count_cons_self, List.replicate_succ, List.foldl_cons]
      rfl
    · rw [if_neg now, List.count_cons_of_ne now]

namespace FanOutLog

/-- What is put into the segment of a recipient, once for each time they are listed. -/
def issuedTo (recipient : Key) (sent : List (Indexed Sending)) : List (Indexed Envelope) :=
  sent.flatMap fun sending =>
    List.replicate (sending.item.2.count recipient) ⟨sending.index, sending.item.1⟩

variable {numbered : Numbered} {sent : List (Indexed Sending)} {recipient : Key}

theorem issuedTo_append (earlier later : List (Indexed Sending)) :
    issuedTo recipient (earlier ++ later) =
      issuedTo recipient earlier ++ issuedTo recipient later :=
  List.flatMap_append

theorem exists_of_mem_issuedTo {entry : Indexed Envelope} (mem : entry ∈ issuedTo recipient sent) :
    ∃ sending ∈ sent, entry = ⟨sending.index, sending.item.1⟩ := by
  obtain ⟨sending, is_sent, listed⟩ := List.mem_flatMap.mp mem
  exact ⟨sending, is_sent, List.eq_of_mem_replicate listed⟩

/-- What is sent is issued at ascending indices, each for one sending. -/
theorem Records.isIssued (records : Records numbered sent) (recipient : Key) :
    Segment.IsIssued (issuedTo recipient sent) where
  ordered := by
    refine List.pairwise_flatMap.mpr ⟨fun sending _ => ?_, records.ascending.imp ?_⟩
    · exact List.pairwise_replicate.mpr (.inr (Nat.le_refl _))
    · intro first second before a mem_a b mem_b
      rw [List.eq_of_mem_replicate mem_a, List.eq_of_mem_replicate mem_b]
      exact Nat.le_of_lt before
  tells a mem_a b mem_b same := by
    obtain ⟨first, first_sent, rfl⟩ := exists_of_mem_issuedTo mem_a
    obtain ⟨second, second_sent, rfl⟩ := exists_of_mem_issuedTo mem_b
    obtain rfl := eq_of_index_eq records.ascending first_sent second_sent same
    rfl

theorem getD_segments_send (numbered : Numbered) (envelope : Envelope) (recipients : List Key)
    (recipient : Key) :
    (perform numbered (.send envelope recipients)).2.log.segments.getD recipient ∅ =
      (issuedTo recipient [⟨numbered.counter.current, envelope, recipients⟩]).foldl Segment.put
        (numbered.log.segments.getD recipient ∅) := by
  rw [issuedTo, List.flatMap_singleton]
  exact Segments.getD_record _ _ _ recipients recipient

theorem getD_segments_perform (numbered : Numbered) (operation : Operation) (recipient : Key) :
    (perform numbered operation).2.log.segments.getD recipient ∅ =
      (issuedTo recipient (operation.sent numbered.counter.current)).foldl Segment.put
        (numbered.log.segments.getD recipient ∅) := by
  cases operation with
  | send envelope recipients => exact getD_segments_send numbered envelope recipients recipient
  | pass => rfl
  | sendMany batch =>
    -- The members are put in one after the other.
    induction batch generalizing numbered with
    | nil => rfl
    | cons sending rest ih =>
      obtain ⟨envelope, recipients⟩ := sending
      have later := ih (perform numbered (.send envelope recipients)).2
      rw [getD_segments_send, ← List.foldl_append, ← issuedTo_append] at later
      rw [perform_sendMany_cons]
      exact later

/-- What a log issues to a recipient goes into the segment of the recipient, in order. -/
theorem getD_segments_run (numbered : Numbered) (operations : List Operation) (recipient : Key) :
    (run numbered operations).2.log.segments.getD recipient ∅ =
      (issuedTo recipient (history numbered.counter.current operations)).foldl Segment.put
        (numbered.log.segments.getD recipient ∅) := by
  induction operations generalizing numbered with
  | nil => rfl
  | cons operation rest ih =>
    rw [run_cons, ih, getD_segments_perform, (perform_numbers numbered operation).2,
      ← List.foldl_append, ← issuedTo_append]
    rfl

end FanOutLog

/-- A signal log comes to keep what a fan-out log does that is sent what is pushed. -/
theorem SignalLog.segments_run_asSend (start : Counter) (operations : List Operation) :
    (FanOutLog.run { counter := start } (operations.map Operation.asSend)).2.log.segments =
      (run { counter := start } operations).2.log.segments :=
  congrArg (·.2.log.segments) (run_asSend { counter := start } operations)

namespace Segment

/-! ### What segments represent -/

/-- Whatever has been put into a segment: an identity leads to a place exactly if the entry there
has it, and so never out of the segment; no two entries have the same identity, nor, if what was put
in was issued, the same index. An identity stands for ever where it came to stand when it was first
put in, the entry there is the last that was put in with it, and without one it has no place. A
range gives each entry with an index between the bounds once, in the order of places. And the
segment of a recipient, in a fan-out log or a signal log that was empty, comes about by putting in
what the log has issued to the recipient. -/
theorem represents_upserts :
    (∀ upserts : List (Indexed Envelope),
      let segment := ofUpserts upserts
      (∀ id position, segment.positions.get? id = some position ↔
        ∃ entry, segment.entries[position]? = some entry ∧ entryId entry = id) ∧
      (∀ id position, segment.positions.get? id = some position →
        position < segment.entries.length) ∧
      (segment.entries.map entryId).Nodup ∧
      (IsIssued upserts → (segment.entries.map (·.index)).Nodup) ∧
      (∀ earlier first later, upserts = earlier ++ first :: later →
        entryId first ∉ earlier.map entryId →
          let place := (ofUpserts earlier).entries.length
          (ofUpserts (earlier ++ [first])).positions.get? (entryId first) = some place ∧
          segment.positions.get? (entryId first) = some place) ∧
      (∀ id, (segment.positions.get? id).bind (segment.entries[·]?) =
        latest? entryId upserts id) ∧
      ∀ low high, (segment.inRange low high).Sublist segment.entries ∧
        (segment.inRange low high).Nodup ∧
        ∀ entry, entry ∈ segment.inRange low high ↔
          entry ∈ segment.entries ∧ low ≤ entry.index ∧ entry.index < high) ∧
    (∀ start operations recipient,
      let issued := FanOutLog.issuedTo recipient (FanOutLog.history start.current operations)
      IsIssued issued ∧ ofUpserts issued =
        (FanOutLog.run { counter := start } operations).2.log.segments.getD recipient ∅) ∧
    ∀ start operations recipient,
      let issued := FanOutLog.issuedTo recipient
        (FanOutLog.history start.current (operations.map SignalLog.Operation.asSend))
      IsIssued issued ∧ ofUpserts issued =
        (SignalLog.run { counter := start } operations).2.log.segments.getD recipient ∅ := by
  have fan_out (start : Counter) (operations : List FanOutLog.Operation) (recipient : Key) :
      let issued := FanOutLog.issuedTo recipient (FanOutLog.history start.current operations)
      IsIssued issued ∧ ofUpserts issued =
        (FanOutLog.run { counter := start } operations).2.log.segments.getD recipient ∅ :=
    ⟨(FanOutLog.records_run start operations).isIssued recipient,
      (FanOutLog.getD_segments_run { counter := start } operations recipient).symm⟩
  refine ⟨fun upserts => ?_, fan_out, fun start operations recipient => ?_⟩
  · intro segment
    have distinct : (segment.entries.map entryId).Nodup := nodup_ids_ofUpserts upserts
    refine ⟨fun id position => get?_positions_ofUpserts_iff, fun id position known => ?_, distinct,
      IsIssued.nodup_indices, ?_, fun id => bind_get?_positions_ofUpserts, fun low high => ?_⟩
    · obtain ⟨entry, at_position, -⟩ := get?_positions_ofUpserts_iff.mp known
      exact (List.getElem?_eq_some_iff.mp at_position).1
    · rintro earlier first later rfl new
      exact ⟨get?_positions_of_first new, get?_positions_of_first new⟩
    · exact ⟨List.filter_sublist, distinct.of_map.filter _, fun entry => mem_inRange_iff⟩
  · obtain ⟨issued, same⟩ := fan_out start (operations.map SignalLog.Operation.asSend) recipient
    rw [SignalLog.segments_run_asSend] at same
    exact ⟨issued, same⟩

section Rewritten

open FanOutLog (note rewritten)

/-- What goes to a recipient who is listed twice for the last sending, where the first entry comes
again: it stands in its old place and is the only one from its new index on. -/
theorem represents_upserts_rewritten :
    let upserts := FanOutLog.issuedTo "ann" (FanOutLog.history 5 rewritten)
    let segment := ofUpserts upserts
    upserts.map (·.index) = [5, 7, 8, 8] ∧ IsIssued upserts ∧
    segment = (FanOutLog.run { counter := ⟨5⟩ } rewritten).2.log.segments.getD "ann" ∅ ∧
    (segment.entries.map (·.index)).Nodup ∧
    segment.positions.get? (note "first" "draft").id = some 0 ∧
    segment.entries[0]? = some ⟨8, note "first" "final"⟩ ∧
    ⟨8, note "first" "final"⟩ ∈ segment.inRange 8 9 := by
  intro upserts segment
  obtain ⟨represents, fan_out, -⟩ := represents_upserts
  obtain ⟨issued, same⟩ := fan_out ⟨5⟩ rewritten "ann"
  obtain ⟨-, -, -, apart, placed, last, ranged⟩ := represents upserts
  have started : upserts = [] ++ ⟨5, note "first" "draft"⟩ :: upserts.tail := by decide +kernel
  have place : segment.positions.get? (note "first" "draft").id = some 0 :=
    (placed [] _ _ started List.not_mem_nil).2
  have stands : segment.entries[0]? = some ⟨8, note "first" "final"⟩ := by
    have found := last (note "first" "draft").id
    rw [place, Option.bind_some] at found
    refine found.trans ?_
    decide +kernel
  refine ⟨by decide +kernel, issued, same, apart issued, place, stands, ?_⟩
  exact ((ranged 8 9).2.2 _).mpr ⟨List.mem_of_getElem? stands, by decide, by decide⟩

end Rewritten

end Segment

end ChatFeed
