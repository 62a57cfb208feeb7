import ChatFeed.Log.PresenceLog
import ChatFeed.Proofs.Log.Sorting

/-!
# Reading presence

## Main results

* `PresenceLog.mem_range_iff`: a reader is given the records of the users asked for, if they were
  last updated between the bounds
-/

namespace ChatFeed

/-- A reader is given the records of the users asked for, if they were last updated between the
bounds. -/
theorem PresenceLog.mem_range_iff {log : PresenceLog} {users : List UserId} {start stop index : Nat}
    {item : Event} : ⟨index, item⟩ ∈ log.range users start stop ↔
      start ≤ index ∧ index < stop ∧ ∃ user ∈ users, ∃ record,
        log.records.get? user = some ⟨index, record⟩ ∧ event user record = item := by
  rw [range, mem_sortByIndex_iff, List.mem_filterMap]
  constructor
  · rintro ⟨user, mem, given⟩
    cases found : log.records.get? user with
    | none =>
      rw [found] at given
      contradiction
    | some record =>
      rw [found] at given
      simp only [Option.ite_none_right_eq_some, Option.some.injEq, Indexed.mk.injEq] at given
      obtain ⟨⟨above, below⟩, rfl, same⟩ := given
      exact ⟨above, below, user, mem, record.item, found, same⟩
  · rintro ⟨above, below, user, mem, record, found, same⟩
    refine ⟨user, mem, ?_⟩
    simp [found, above, below, same]

end ChatFeed
