import ChatFeed.Log.Selection
import Mathlib.Data.List.Nodup

/-!
# Items sorted by index

Sorting by index brings the items of several readers or recipients into one order. Items whose
indices are told apart by nothing else come out in one way only, so a list that is in order is
what sorting any arrangement of it leads to.

## Main results

* `ordered_sortByIndex`, `ascending_sortByIndex`: sorted items are in order, strictly if their
  indices differ
* `sortByIndex_eq_of_ordered`, `sortByIndex_eq`: what sorting leads to
-/

namespace ChatFeed

variable {α : Type} {items sorted : List (Indexed α)}

@[simp] theorem sortByIndex_nil : sortByIndex ([] : List (Indexed α)) = [] :=
  List.mergeSort_nil

theorem sortByIndex_perm (items : List (Indexed α)) : (sortByIndex items).Perm items :=
  List.mergeSort_perm items _

theorem mem_sortByIndex_iff {item : Indexed α} : item ∈ sortByIndex items ↔ item ∈ items :=
  List.mem_mergeSort

theorem ordered_sortByIndex (items : List (Indexed α)) :
    (sortByIndex items).Pairwise (·.index ≤ ·.index) := by
  have by_order := @List.pairwise_mergeSort _ (fun a b : Indexed α => a.index ≤ b.index)
    (fun a b c => by simpa using Nat.le_trans) (fun a b => by simpa using Nat.le_total _ _) items
  exact by_order.imp of_decide_eq_true

/-- Items with different indices are sorted strictly. -/
theorem ascending_sortByIndex (apart : items.Pairwise (·.index ≠ ·.index)) :
    (sortByIndex items).Pairwise (·.index < ·.index) := by
  have still_apart : (sortByIndex items).Pairwise (·.index ≠ ·.index) :=
    (sortByIndex_perm items).symm.pairwise apart Ne.symm
  exact (ordered_sortByIndex items).imp₂ (fun a b => Nat.lt_of_le_of_ne) still_apart

/-- Items in order are what sorting them in any other order leads to, if those with the same index
are the same. -/
theorem sortByIndex_eq_of_ordered (perm : items.Perm sorted)
    (ordered : sorted.Pairwise (·.index ≤ ·.index))
    (same : ∀ a ∈ sorted, ∀ b ∈ sorted, a.index = b.index → a = b) :
    sortByIndex items = sorted := by
  have perm_sorted : (sortByIndex items).Perm sorted := (sortByIndex_perm items).trans perm
  refine List.Perm.eq_of_pairwise (fun a b mem_a mem_b before after => ?_)
    (ordered_sortByIndex items) ordered perm_sorted
  exact same a (perm_sorted.mem_iff.mp mem_a) b mem_b (Nat.le_antisymm before after)

/-- In a strictly sorted list the index tells which item it is. -/
theorem eq_of_index_eq (ascending : sorted.Pairwise (·.index < ·.index)) {a b : Indexed α}
    (mem_a : a ∈ sorted) (mem_b : b ∈ sorted) (same : a.index = b.index) : a = b := by
  have apart : (sorted.map (·.index)).Nodup :=
    List.pairwise_map.mpr (ascending.imp Nat.ne_of_lt)
  exact List.inj_on_of_nodup_map apart mem_a mem_b same

/-- Strictly sorted items are what sorting them in any order leads to. -/
theorem sortByIndex_eq (perm : items.Perm sorted)
    (ascending : sorted.Pairwise (·.index < ·.index)) : sortByIndex items = sorted :=
  sortByIndex_eq_of_ordered perm (ascending.imp Nat.le_of_lt)
    fun _ mem_a _ mem_b => eq_of_index_eq ascending mem_a mem_b

end ChatFeed
