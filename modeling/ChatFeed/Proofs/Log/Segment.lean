import ChatFeed.Proofs.Collection.Standing
import ChatFeed.Proofs.Log.Signals

/-!
# Segments as lists

A segment looks identities up to know where to write. As long as that leads where a search through
its entries would, a segment is just a list in which each entry is written over the one with its
identity, once for every recipient it is meant for, however often that recipient is listed.

## Main definitions

* `Segment.IsFiled`, `Segments.IsFiled`: identities lead where a search would

## Main results

* `Segment.IsFiled.entries_upsert`: an entry is written over the one with its identity
* `Segment.IsFiled.upsert`: and identities lead where they should
* `Segments.IsFiled.held_record`: so it goes for every recipient
-/

namespace ChatFeed

namespace Segment

/-- The identity that tells entries apart. -/
def entryId (entry : Indexed Envelope) : EventId :=
  entry.item.id

/-- Whether every identity leads to the first entry that has it. -/
def IsFiled (segment : Segment) : Prop :=
  ∀ id, segment.positions.get? id = segment.entries.findIdx? fun entry => entryId entry = id

variable {segment : Segment}

theorem isFiled_empty : IsFiled ∅ :=
  fun _ => rfl

/-- An entry is written over the one with its identity. -/
theorem IsFiled.entries_upsert (filed : segment.IsFiled) (envelope : Envelope) (index : Nat) :
    (segment.upsert envelope index).entries =
      putIn entryId ⟨index, envelope⟩ segment.entries := by
  have searched : segment.entries.findIdx?
      (fun entry => entryId entry = entryId ⟨index, envelope⟩) =
        segment.positions.get? envelope.id := (filed envelope.id).symm
  rw [Segment.upsert, putIn_eq, searched]
  cases segment.positions.get? envelope.id <;> rfl

theorem IsFiled.upsert (filed : segment.IsFiled) (envelope : Envelope) (index : Nat) :
    (segment.upsert envelope index).IsFiled := by
  intro id
  have named : entryId ⟨index, envelope⟩ = envelope.id := rfl
  rw [filed.entries_upsert, findIdx?_putIn, ← filed id, Segment.upsert, named]
  cases known : segment.positions.get? envelope.id with
  -- The entry goes where its identity leads already.
  | some position =>
    by_cases same : envelope.id = id
    · rw [← same, known]
      rfl
    · rw [if_neg same, Option.or_none]
  -- The entry goes to the end, where its identity leads from now on.
  | none =>
    simp only
    rw [Table.get?_insert]
    by_cases same : envelope.id = id
    · rw [← same, known, if_pos rfl, Option.none_or]
    · rw [if_neg same, if_neg same, Option.or_none]

end Segment

namespace Segments

/-- Whether identities lead where they should in every segment. -/
def IsFiled (segments : Segments) : Prop :=
  ∀ recipient, (segments.getD recipient ∅).IsFiled

variable {segments : Segments}

theorem isFiled_empty : IsFiled ∅ :=
  fun _ => Segment.isFiled_empty

theorem IsFiled.recordFor (filed : segments.IsFiled) (envelope : Envelope) (index : Nat)
    (recipient : Key) : (recordFor envelope index segments recipient).IsFiled := by
  intro other
  rw [getD_recordFor]
  split
  next => exact (filed recipient).upsert envelope index
  next => exact filed other

theorem IsFiled.record (filed : segments.IsFiled) (envelope : Envelope) (index : Nat)
    (recipients : List Key) : (segments.record envelope index recipients).IsFiled := by
  induction recipients generalizing segments with
  | nil => exact filed
  | cons first rest ih => exact ih (filed.recordFor envelope index first)

/-- An entry is written into the segment of every recipient, over the one with its identity. -/
theorem IsFiled.held_record (filed : segments.IsFiled) (envelope : Envelope) (index : Nat)
    (recipients : List Key) (recipient : Key) :
    (segments.record envelope index recipients).held recipient =
      if recipient ∈ recipients then
        putIn Segment.entryId ⟨index, envelope⟩ (segments.held recipient)
      else segments.held recipient := by
  induction recipients generalizing segments with
  | nil => simp [Segments.record]
  | cons first rest ih =>
    have written : (Segments.recordFor envelope index segments first).held recipient =
        if first = recipient then
          putIn Segment.entryId ⟨index, envelope⟩ (segments.held recipient)
        else segments.held recipient := by
      rw [held, getD_recordFor]
      split
      next same =>
        subst same
        exact (filed first).entries_upsert envelope index
      next => rfl
    rw [Segments.record, List.foldl_cons]
    refine (ih (filed.recordFor envelope index first)).trans ?_
    rw [written]
    by_cases now : first = recipient
    -- A recipient who is listed again is written to again, which changes nothing.
    · rw [if_pos now, putIn_putIn, ite_self, if_pos (now ▸ List.mem_cons_self)]
    · have later : recipient ∈ first :: rest ↔ recipient ∈ rest := by
        rw [List.mem_cons, or_iff_right (Ne.symm now)]
      simp only [now, later, if_false]

end Segments

end ChatFeed
