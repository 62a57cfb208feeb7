import ChatFeed.Collection.Table

/-!
# Sorted tables

Tables are written only by inserting and erasing, so their entries always stand in
ascending key order. In such a table every key has one entry, and the entries are
exactly what is read at the keys.

## Main definitions

* `Table.IsSorted`: the keys are ascending

## Main results

* `Table.IsSorted.insert`, `Table.IsSorted.erase`: writing keeps the order
* `Table.IsSorted.mem_entries_iff`: the entries are what is read
-/

namespace ChatFeed.Table

variable {κ α : Type} [LT κ]

/-- Whether the keys of a table stand in ascending order. -/
def IsSorted (t : Table κ α) : Prop :=
  t.keys.Pairwise (· < ·)

@[simp] theorem isSorted_empty : (∅ : Table κ α).IsSorted :=
  List.Pairwise.nil

variable [DecidableEq κ]

theorem IsSorted.erase {t : Table κ α} (sorted : t.IsSorted) (k : κ) : (t.erase k).IsSorted :=
  List.Pairwise.sublist (List.filter_sublist.map _) sorted

section Place

variable [DecidableLT κ] {k key : κ} {v : α} {entries : List (κ × α)}

theorem mem_keys_place :
    key ∈ (place k v entries).map (·.1) ↔ key = k ∨ key ∈ entries.map (·.1) := by
  induction entries with
  | nil => simp [place]
  | cons entry rest ih =>
    rw [place]
    split
    next same => simp [same]
    next =>
      split
      next => simp
      next => rw [List.map_cons, List.mem_cons, ih, List.map_cons, List.mem_cons, or_left_comm]

theorem eq_or_mem_of_mem_place {entry : κ × α} (mem : entry ∈ place k v entries) :
    entry = (k, v) ∨ entry ∈ entries := by
  induction entries with
  | nil => exact .inl (List.mem_singleton.mp mem)
  | cons first rest ih =>
    rw [place] at mem
    split at mem
    next => exact (List.mem_cons.mp mem).imp_right (List.mem_cons_of_mem _)
    next =>
      split at mem
      next => exact List.mem_cons.mp mem
      next =>
        rcases List.mem_cons.mp mem with rfl | later
        · exact .inr List.mem_cons_self
        · exact (ih later).imp_right (List.mem_cons_of_mem _)

theorem pairwise_keys_place [Std.Trichotomous (LT.lt : κ → κ → Prop)]
    [Trans (LT.lt : κ → κ → Prop) (LT.lt : κ → κ → Prop) (LT.lt : κ → κ → Prop)]
    (sorted : (entries.map (·.1)).Pairwise (· < ·)) :
    ((place k v entries).map (·.1)).Pairwise (· < ·) := by
  -- The cases are those of `place`: the key is there, goes in front, or goes further back.
  induction entries with
  | nil => simp [place]
  | cons entry rest ih =>
    obtain ⟨first, later⟩ := List.pairwise_cons.mp sorted
    rw [place]
    split
    next same =>
      rw [List.map_cons, List.pairwise_cons, ← same]
      exact ⟨first, later⟩
    next distinct =>
      split
      next before =>
        rw [List.map_cons, List.pairwise_cons]
        refine ⟨fun key mem => ?_, sorted⟩
        rcases List.mem_cons.mp mem with rfl | mem
        · exact before
        · exact Trans.trans before (first key mem)
      next not_before =>
        rw [List.map_cons, List.pairwise_cons]
        refine ⟨fun key mem => ?_, ih later⟩
        rcases mem_keys_place.mp mem with rfl | mem
        · refine Decidable.byContradiction fun not_after => distinct ?_
          exact Std.Trichotomous.trichotomous _ _ not_after not_before
        · exact first key mem

/-- A key beyond all others goes to the end. -/
theorem place_of_forall_lt [Std.Irrefl (LT.lt : κ → κ → Prop)]
    [Trans (LT.lt : κ → κ → Prop) (LT.lt : κ → κ → Prop) (LT.lt : κ → κ → Prop)]
    (beyond : ∀ entry ∈ entries, entry.1 < k) : place k v entries = entries ++ [(k, v)] := by
  induction entries with
  | nil => rfl
  | cons entry rest ih =>
    have before : entry.1 < k := beyond entry List.mem_cons_self
    have distinct : entry.1 ≠ k := by
      intro same
      rw [same] at before
      exact Std.Irrefl.irrefl k before
    have not_after : ¬k < entry.1 := fun after => Std.Irrefl.irrefl k (Trans.trans after before)
    rw [place, if_neg distinct, if_neg not_after,
      ih fun other mem => beyond other (List.mem_cons_of_mem _ mem), List.cons_append]

end Place

theorem IsSorted.insert [DecidableLT κ] [Std.Trichotomous (LT.lt : κ → κ → Prop)]
    [Trans (LT.lt : κ → κ → Prop) (LT.lt : κ → κ → Prop) (LT.lt : κ → κ → Prop)]
    {t : Table κ α} (sorted : t.IsSorted) (k : κ) (v : α) : (t.insert k v).IsSorted :=
  pairwise_keys_place sorted

/-! ### Entries -/

omit [LT κ] in
theorem mem_of_lookup {k : κ} {v : α} {entries : List (κ × α)}
    (found : lookup k entries = some v) : (k, v) ∈ entries := by
  induction entries with
  | nil => contradiction
  | cons entry rest ih =>
    rw [lookup] at found
    split at found
    next same =>
      obtain rfl := Option.some.inj found
      rw [← same]
      exact List.mem_cons_self
    next => exact List.mem_cons_of_mem _ (ih found)

theorem lookup_of_mem [Std.Irrefl (LT.lt : κ → κ → Prop)] {k : κ} {v : α}
    {entries : List (κ × α)} (sorted : (entries.map (·.1)).Pairwise (· < ·))
    (mem : (k, v) ∈ entries) : lookup k entries = some v := by
  induction entries with
  | nil => contradiction
  | cons entry rest ih =>
    obtain ⟨first, later⟩ := List.pairwise_cons.mp sorted
    rw [lookup]
    rcases List.mem_cons.mp mem with rfl | mem
    · rw [if_pos rfl]
    · have before : entry.1 < k := first k (List.mem_map_of_mem mem)
      rw [if_neg, ih later mem]
      intro same
      rw [same] at before
      exact Std.Irrefl.irrefl k before

omit [LT κ] in
/-- What is read at a key is one of the values. -/
theorem mem_values_of_get? {t : Table κ α} {k : κ} {v : α} (found : t.get? k = some v) :
    v ∈ t.values :=
  List.mem_map_of_mem (mem_of_lookup found)

/-- A table holds no other values after a write than before, but for the one that is written. -/
theorem eq_or_mem_of_mem_values_insert [DecidableLT κ] {t : Table κ α} {k : κ} {v value : α}
    (mem : value ∈ (t.insert k v).values) : value = v ∨ value ∈ t.values := by
  obtain ⟨entry, placed, rfl⟩ := List.mem_map.mp mem
  rcases eq_or_mem_of_mem_place placed with rfl | old
  · exact .inl rfl
  · exact .inr (List.mem_map_of_mem old)

/-- The entries of a sorted table are what is read at its keys. -/
theorem IsSorted.mem_entries_iff [Std.Irrefl (LT.lt : κ → κ → Prop)] {t : Table κ α}
    (sorted : t.IsSorted) {k : κ} {v : α} : (k, v) ∈ t.entries ↔ t.get? k = some v :=
  ⟨lookup_of_mem sorted, mem_of_lookup⟩

end ChatFeed.Table
