import Mathlib.Data.List.Induction

/-!
# The last item with each key

Where later items replace earlier ones with the same key, what counts of a list is the last item
with each key. Adding an item at the end puts it in the place of the one with its key.

## Main definitions

* `latest?`: the last item with a key
* `latest`: all items that are the last ones with their keys

## Main results

* `latest?_concat`, `latest_concat`: what becomes of them when an item is added
* `filter_latest`: there is one for each key that occurs
-/

namespace ChatFeed

variable {α κ : Type} [DecidableEq κ]

/-- The last item with key `k`. -/
def latest? (key : α → κ) (items : List α) (k : κ) : Option α :=
  (items.filter fun item => key item = k).getLast?

/-- What is added later counts first. -/
theorem latest?_append (key : α → κ) (earlier later : List α) (k : κ) :
    latest? key (earlier ++ later) k = (latest? key later k).or (latest? key earlier k) := by
  rw [latest?, List.filter_append, List.getLast?_append, latest?, latest?]

theorem latest?_concat (key : α → κ) (items : List α) (last : α) (k : κ) :
    latest? key (items ++ [last]) k = if key last = k then some last else latest? key items k := by
  rw [latest?, latest?, List.filter_append, List.getLast?_append]
  by_cases same : key last = k <;> simp [same]

variable [DecidableEq α]

/-- The items that are the last ones with their keys, in order. -/
def latest (key : α → κ) (items : List α) : List α :=
  items.filter fun item => latest? key items (key item) = some item

variable {key : α → κ} {items : List α}

/-- An item that is added takes out the one with its key. -/
theorem latest_concat {last : α} (fresh : last ∉ items) : latest key (items ++ [last]) =
    (latest key items).filter (fun item => key item ≠ key last) ++ [last] := by
  rw [latest, List.filter_append, latest, List.filter_filter]
  congr 1
  · refine List.filter_congr fun item mem => ?_
    rw [latest?_concat]
    by_cases same : key last = key item
    · have distinct : last ≠ item := (ne_of_mem_of_not_mem mem fresh).symm
      simp [same, distinct]
    · simp [same, Ne.symm same]
  · simp [latest?_concat]

/-- Of the items with a key, the last one is left. -/
theorem filter_latest (nodup : items.Nodup) (k : κ) :
    (latest key items).filter (fun item => key item = k) = (latest? key items k).toList := by
  induction items using List.reverseRecOn with
  | nil => rfl
  | append_singleton front last ih =>
    obtain ⟨front_nodup, -, apart⟩ := List.nodup_append.mp nodup
    have fresh : last ∉ front := fun mem => apart last mem last (List.mem_singleton_self last) rfl
    rw [latest_concat fresh, List.filter_append, List.filter_filter, latest?_concat]
    by_cases same : key last = k
    -- What is left of the others has another key.
    · subst same
      simp
    · have other : [last].filter (fun item => key item = k) = [] := by
        simp [same]
      rw [if_neg same, ← ih front_nodup, other, List.append_nil]
      refine List.filter_congr fun item _ => ?_
      by_cases mine : key item = k
      · simp [mine, Ne.symm same]
      · simp [mine]

end ChatFeed
