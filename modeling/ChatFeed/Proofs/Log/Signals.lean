import ChatFeed.Log.Signals
import Mathlib.Data.List.Induction

/-!
# Signals as they come about

Entering a signal for some recipients touches nobody else's segment, and each of them holds
it from then on, at an index above all others. So a reader who asks from that index on is
given the signal exactly if they were among its recipients.

## Main definitions

* `Segments.held`: what a recipient holds
* `Segments.IsSound`: segments are as entering leaves them

## Main results

* `Segments.IsSound.record`: entering keeps segments sound
* `Segments.IsSound.mem_held_record`: whoever it is entered for holds what is entered
* `Segments.eq_or_mem_of_mem_held_record`: nothing else comes in
* `Segments.IsSound.mem_held_record_or`: nothing goes but what is replaced
* `Segments.held_record_of_notMem`: nobody else's segment changes
* `SignalLog.range_eq_entries`: what a reader is given
-/

namespace ChatFeed

namespace Segment

/-- A segment as entering leaves it, where all indices given out are below `bound`. -/
structure IsSound (segment : Segment) (bound : Nat) : Prop where
  below : ∀ entry ∈ segment.entries, entry.index < bound
  /-- An identity leads to the place of its entry. -/
  placed : ∀ id position, segment.positions.get? id = some position →
    ∃ entry, segment.entries[position]? = some entry ∧ entry.item.id = id

variable {segment : Segment} {bound : Nat}

theorem isSound_empty (bound : Nat) : IsSound ∅ bound where
  below _ mem := absurd mem List.not_mem_nil
  placed _ _ found := nomatch found

theorem IsSound.mono (sound : segment.IsSound bound) {higher : Nat} (le : bound ≤ higher) :
    segment.IsSound higher where
  below entry mem := Nat.lt_of_lt_of_le (sound.below entry mem) le
  placed := sound.placed

variable {envelope : Envelope} {index : Nat}

theorem eq_or_mem_of_mem_upsert {entry : Indexed Envelope}
    (mem : entry ∈ (segment.upsert envelope index).entries) :
    entry = ⟨index, envelope⟩ ∨ entry ∈ segment.entries := by
  unfold upsert at mem
  split at mem
  next => exact (List.mem_or_eq_of_mem_set mem).symm
  next =>
    rcases List.mem_append.mp mem with old | new
    · exact .inr old
    · exact .inl (List.mem_singleton.mp new)

/-- The place where an entry is overwritten exists. -/
theorem IsSound.mem_upsert (sound : segment.IsSound bound) :
    ⟨index, envelope⟩ ∈ (segment.upsert envelope index).entries := by
  unfold upsert
  split
  next position found =>
    obtain ⟨old, at_position, -⟩ := sound.placed _ position found
    exact List.mem_set (List.getElem?_eq_some_iff.mp at_position).1 _
  next => exact List.mem_append_right _ (List.mem_singleton_self _)

/-- An entry goes only if the new one has its identity. -/
theorem IsSound.id_eq_or_mem_upsert (sound : segment.IsSound bound) {entry : Indexed Envelope}
    (mem : entry ∈ segment.entries) :
    entry.item.id = envelope.id ∨ entry ∈ (segment.upsert envelope index).entries := by
  unfold upsert
  split
  next position found =>
    obtain ⟨old, at_position, named⟩ := sound.placed _ position found
    obtain ⟨i, at_i⟩ := List.mem_iff_getElem?.mp mem
    by_cases overwritten : position = i
    · subst overwritten
      obtain rfl := Option.some.inj (at_position.symm.trans at_i)
      exact .inl named
    · refine .inr (List.mem_iff_getElem?.mpr ⟨i, ?_⟩)
      rw [List.getElem?_set_ne overwritten, at_i]
  next => exact .inr (List.mem_append_left _ mem)

theorem IsSound.upsert (sound : segment.IsSound bound) (below : index < bound) :
    (segment.upsert envelope index).IsSound bound where
  below entry mem := by
    rcases eq_or_mem_of_mem_upsert mem with rfl | old
    · exact below
    · exact sound.below entry old
  placed id position found := by
    unfold Segment.upsert at found ⊢
    split at found
    next replaced at_replaced =>
      obtain ⟨entry, at_position, named⟩ := sound.placed id position found
      by_cases overwritten : replaced = position
      · subst overwritten
        obtain ⟨old, at_old, old_named⟩ := sound.placed _ replaced at_replaced
        obtain rfl := Option.some.inj (at_old.symm.trans at_position)
        have inside := (List.getElem?_eq_some_iff.mp at_position).1
        exact ⟨_, List.getElem?_set_self inside, old_named.symm.trans named⟩
      · refine ⟨entry, ?_, named⟩
        rw [List.getElem?_set_ne overwritten, at_position]
    next =>
      rw [Table.get?_insert] at found
      split at found
      next same =>
        obtain rfl := Option.some.inj found
        exact ⟨_, List.getElem?_concat_length, same⟩
      next =>
        obtain ⟨entry, at_position, named⟩ := sound.placed id position found
        have inside := (List.getElem?_eq_some_iff.mp at_position).1
        refine ⟨entry, ?_, named⟩
        rw [List.getElem?_append_left inside, at_position]

end Segment

namespace Segments

/-- What a recipient holds. -/
def held (segments : Segments) (recipient : Key) : List (Indexed Envelope) :=
  (segments.getD recipient ∅).entries

/-- Whether all segments are as entering leaves them. -/
def IsSound (segments : Segments) (bound : Nat) : Prop :=
  ∀ recipient, (segments.getD recipient ∅).IsSound bound

variable {segments : Segments} {bound index : Nat} {envelope : Envelope}

theorem isSound_empty (bound : Nat) : IsSound ∅ bound :=
  fun _ => Segment.isSound_empty bound

theorem IsSound.mono (sound : segments.IsSound bound) {higher : Nat} (le : bound ≤ higher) :
    segments.IsSound higher :=
  fun recipient => (sound recipient).mono le

/-- Entering something for one recipient touches no other segment. -/
theorem getD_recordFor (recipient recipient' : Key) :
    (recordFor envelope index segments recipient).getD recipient' ∅ =
      if recipient = recipient' then (segments.getD recipient ∅).upsert envelope index
      else segments.getD recipient' ∅ := by
  rw [recordFor, Table.getD, Table.get?_insert]
  split <;> rfl

theorem IsSound.recordFor (sound : segments.IsSound bound) (below : index < bound)
    (recipient : Key) : (recordFor envelope index segments recipient).IsSound bound := by
  intro recipient'
  rw [getD_recordFor]
  split
  next => exact (sound recipient).upsert below
  next => exact sound recipient'

theorem IsSound.record (sound : segments.IsSound bound) (below : index < bound)
    (recipients : List Key) : (segments.record envelope index recipients).IsSound bound := by
  induction recipients generalizing segments with
  | nil => exact sound
  | cons recipient rest ih => exact ih (sound.recordFor below recipient)

theorem record_concat (recipients : List Key) (last : Key) :
    segments.record envelope index (recipients ++ [last]) =
      recordFor envelope index (segments.record envelope index recipients) last :=
  List.foldl_append

/-- What a recipient holds was entered for them now, or they held it before. -/
theorem eq_or_mem_of_mem_held_record {recipients : List Key} {recipient : Key}
    {entry : Indexed Envelope}
    (mem : entry ∈ (segments.record envelope index recipients).held recipient) :
    recipient ∈ recipients ∧ entry = ⟨index, envelope⟩ ∨ entry ∈ segments.held recipient := by
  induction recipients generalizing segments with
  | nil => exact .inr mem
  | cons first rest ih =>
    rcases ih mem with ⟨later, same⟩ | before
    · exact .inl ⟨List.mem_cons_of_mem _ later, same⟩
    · rw [held, getD_recordFor] at before
      split at before
      next same =>
        subst same
        rcases Segment.eq_or_mem_of_mem_upsert before with new | old
        · exact .inl ⟨List.mem_cons_self, new⟩
        · exact .inr old
      next => exact .inr before

/-- Whoever something is entered for holds it. -/
theorem IsSound.mem_held_record (sound : segments.IsSound bound) (below : index < bound)
    {recipients : List Key} {recipient : Key} (mem : recipient ∈ recipients) :
    ⟨index, envelope⟩ ∈ (segments.record envelope index recipients).held recipient := by
  -- It is found among the last recipients, where it stays when it is entered for the others.
  induction recipients using List.reverseRecOn with
  | nil => contradiction
  | append_singleton front last ih =>
    rw [record_concat, held, getD_recordFor]
    split
    next => exact (sound.record below front last).mem_upsert
    next distinct =>
      rcases List.mem_append.mp mem with earlier | same
      · exact ih earlier
      · exact absurd (List.mem_singleton.mp same).symm distinct

/-- Whoever nothing is entered for holds what they held. -/
theorem held_record_of_notMem {recipients : List Key} {recipient : Key}
    (absent : recipient ∉ recipients) :
    (segments.record envelope index recipients).held recipient = segments.held recipient := by
  induction recipients generalizing segments with
  | nil => rfl
  | cons first rest ih =>
    rw [List.mem_cons, not_or] at absent
    obtain ⟨distinct, absent_later⟩ := absent
    have untouched : (recordFor envelope index segments first).held recipient =
        segments.held recipient := by
      rw [held, getD_recordFor, if_neg (Ne.symm distinct), held]
    exact (ih absent_later).trans untouched

/-- What a recipient holds goes only if they are given what has its identity. -/
theorem IsSound.mem_held_record_or (sound : segments.IsSound bound) (below : index < bound)
    {recipients : List Key} {recipient : Key} {entry : Indexed Envelope}
    (held : entry ∈ segments.held recipient) :
    entry ∈ (segments.record envelope index recipients).held recipient ∨
      recipient ∈ recipients ∧ entry.item.id = envelope.id := by
  induction recipients generalizing segments with
  | nil => exact .inl held
  | cons first rest ih =>
    have sound_now : (Segments.recordFor envelope index segments first).IsSound bound :=
      sound.recordFor below first
    have now : entry ∈ (Segments.recordFor envelope index segments first).held recipient ∨
        recipient = first ∧ entry.item.id = envelope.id := by
      rw [Segments.held, getD_recordFor]
      split
      next same =>
        subst same
        rcases (sound first).id_eq_or_mem_upsert held with replaced | kept
        · exact .inr ⟨rfl, replaced⟩
        · exact .inl kept
      next => exact .inl held
    rcases now with kept | ⟨rfl, replaced⟩
    · refine (ih sound_now kept).imp_right ?_
      rintro ⟨mem, replaced⟩
      exact ⟨List.mem_cons_of_mem _ mem, replaced⟩
    · exact .inr ⟨List.mem_cons_self, replaced⟩

end Segments

/-- A reader is given what they hold between the bounds, as it stands, and the highest index of it.
-/
theorem SignalLog.range_eq_entries (log : SignalLog) (recipient : Key) (start stop : Nat) :
    log.range recipient start stop =
      let entries := (log.segments.held recipient).filter
        fun entry => start ≤ entry.index ∧ entry.index < stop
      (entries.map (·.item), entries.foldl (fun highest entry => max highest entry.index) 0) := by
  unfold range Segments.held Table.getD
  split
  next empty =>
    have nothing (entries : List (Indexed Envelope)) :
        entries.filter (fun entry => start ≤ entry.index ∧ entry.index < stop) = [] := by
      rw [List.filter_eq_nil_iff]
      intro entry mem inside
      obtain ⟨above, below⟩ := of_decide_eq_true inside
      omega
    rw [nothing]
    rfl
  next =>
    cases log.segments.get? recipient with
    | none => rfl
    | some segment => rfl

/-- What a reader is given is what they hold between the bounds, as it stands. -/
theorem SignalLog.range_eq (log : SignalLog) (recipient : Key) (start stop : Nat) :
    (log.range recipient start stop).1 =
      ((log.segments.held recipient).filter
        fun entry => start ≤ entry.index ∧ entry.index < stop).map (·.item) := by
  rw [range_eq_entries]

theorem SignalLog.mem_range_iff {log : SignalLog} {recipient : Key} {start stop : Nat}
    {envelope : Envelope} : envelope ∈ (log.range recipient start stop).1 ↔
      ∃ index, start ≤ index ∧ index < stop ∧ ⟨index, envelope⟩ ∈ log.segments.held recipient := by
  rw [range_eq, List.mem_map]
  simp only [List.mem_filter, decide_eq_true_eq]
  constructor
  · rintro ⟨⟨index, _⟩, ⟨mem, above, below⟩, rfl⟩
    exact ⟨index, above, below, mem⟩
  · rintro ⟨index, above, below, mem⟩
    exact ⟨⟨index, envelope⟩, ⟨mem, above, below⟩, rfl⟩

end ChatFeed
