import ChatFeed.Proofs.Collection.Latest
import Mathlib.Data.List.Nodup

/-!
# The last item with each key, in order of arrival

Where an item is written over the one with its key, what is left are the last items with each key,
but they stand where their keys first came up. Told in order of the items themselves, what is left
is `latest`; the two differ by their order alone.

## Main definitions

* `standing`: the last item with each key, in the order in which the keys first came up
* `putIn`: writing an item over the one with its key

## Main results

* `standing_concat`: adding an item writes it over the one with its key
* `map_key_standing`: there is one for each key that came up
* `standing_perm_latest`: nothing but the order sets them apart from the latest
* `putIn_eq`: the place is found by searching for the key
* `findIdx?_eq_some_iff_of_nodup`: where keys differ, the search leads to the item with the key
-/

namespace ChatFeed

/-- Nothing is left twice where repetitions are taken out. -/
theorem nodup_eraseDups {α : Type} [DecidableEq α] (items : List α) : items.eraseDups.Nodup := by
  induction items using List.reverseRecOn with
  | nil => exact List.nodup_nil
  | append_singleton front last ih =>
    rw [List.eraseDups_append]
    by_cases repeated : last ∈ front
    · simpa [List.removeAll, repeated] using ih
    · have kept : [last].removeAll front = [last] := by simp [List.removeAll, repeated]
      have alone : [last].eraseDups = [last] := rfl
      rw [kept, alone, List.nodup_append]
      refine ⟨ih, List.nodup_singleton last, fun item mem other single => ?_⟩
      rw [List.mem_singleton.mp single]
      exact ne_of_mem_of_not_mem (List.mem_eraseDups.mp mem) repeated

variable {α κ : Type} [DecidableEq κ]

/-- The last item with each key, in the order in which the keys first came up. -/
def standing (key : α → κ) (items : List α) : List α :=
  (items.map key).eraseDups.filterMap (latest? key items)

/-- Writes an item over the first one with its key, or adds it at the end. -/
def putIn (key : α → κ) (item : α) : List α → List α
  | [] => [item]
  | first :: rest => if key first = key item then item :: rest else first :: putIn key item rest

variable {key : α → κ} {item : α} {items : List α}

/-! ### Writing over an item -/

theorem putIn_of_forall_ne (apart : ∀ other ∈ items, key other ≠ key item) :
    putIn key item items = items ++ [item] := by
  induction items with
  | nil => rfl
  | cons first rest ih =>
    have apart_later := ih fun other mem => apart other (List.mem_cons_of_mem _ mem)
    rw [putIn, if_neg (apart first List.mem_cons_self), apart_later, List.cons_append]

/-- Where items are told apart as what stands for them, so it goes for the latter. -/
theorem map_putIn {β κ' : Type} [DecidableEq κ'] {key' : β → κ'} (f : α → β)
    (same : ∀ other, key' (f other) = key' (f item) ↔ key other = key item) :
    (putIn key item items).map f = putIn key' (f item) (items.map f) := by
  induction items with
  | nil => rfl
  | cons first rest ih =>
    rw [putIn, List.map_cons, putIn]
    by_cases replaced : key first = key item
    · rw [if_pos replaced, if_pos ((same first).mpr replaced), List.map_cons]
    · rw [if_neg replaced, if_neg (mt (same first).mp replaced), List.map_cons, ih]

/-- Writing the same item again changes nothing. -/
theorem putIn_putIn : putIn key item (putIn key item items) = putIn key item items := by
  induction items with
  | nil => simp [putIn]
  | cons first rest ih =>
    by_cases same : key first = key item <;> simp [putIn, same, ih]

/-- The place is found by searching for the key. -/
theorem putIn_eq : putIn key item items =
    match items.findIdx? fun other => key other = key item with
    | some position => items.set position item
    | none => items ++ [item] := by
  induction items with
  | nil => rfl
  | cons first rest ih =>
    rw [putIn, List.findIdx?_cons]
    by_cases same : key first = key item
    · simp [same]
    · rw [if_neg same, ih]
      cases rest.findIdx? fun other => key other = key item <;> simp [same]

/-- An item is found where the one with its key stood, and nothing else moves. -/
theorem findIdx?_putIn (k : κ) : (putIn key item items).findIdx? (fun other => key other = k) =
    (items.findIdx? fun other => key other = k).or
      (if key item = k then some items.length else none) := by
  induction items with
  | nil => by_cases same : key item = k <;> simp [putIn, List.findIdx?_cons, same]
  | cons first rest ih =>
    rw [putIn]
    by_cases replaced : key first = key item
    · rw [if_pos replaced, List.findIdx?_cons, List.findIdx?_cons, replaced]
      by_cases same : key item = k <;> simp [same]
    · rw [if_neg replaced, List.findIdx?_cons, List.findIdx?_cons, ih]
      by_cases found : key first = k
      · simp [found]
      · cases rest.findIdx? fun other => key other = k with
        | some position => simp [found]
        | none => by_cases same : key item = k <;> simp [found, same]

/-- Where keys differ, an item is found exactly where it stands. -/
theorem findIdx?_eq_some_iff_of_nodup (nodup : (items.map key).Nodup) {k : κ} {position : Nat} :
    items.findIdx? (fun other => key other = k) = some position ↔
      ∃ item, items[position]? = some item ∧ key item = k := by
  rw [List.findIdx?_eq_some_iff_getElem]
  constructor
  · rintro ⟨inside, same, -⟩
    exact ⟨_, List.getElem?_eq_getElem inside, of_decide_eq_true same⟩
  · rintro ⟨item, at_position, same⟩
    obtain ⟨inside, rfl⟩ := List.getElem?_eq_some_iff.mp at_position
    refine ⟨inside, decide_eq_true same, fun before lt found => ?_⟩
    -- The search would end before only at another item with the key.
    have apart := List.pairwise_iff_getElem.mp (List.pairwise_map.mp nodup)
    exact apart before position (Nat.lt_trans lt inside) inside lt
      ((of_decide_eq_true found).trans same.symm)

/-! ### What is left -/

/-- The last item with a key is one of the items, and has the key. -/
theorem mem_of_latest? {k : κ} (last : latest? key items k = some item) :
    item ∈ items ∧ key item = k := by
  have mem := List.mem_filter.mp (List.mem_of_getLast? last)
  exact ⟨mem.1, of_decide_eq_true mem.2⟩

/-- There is a last item with each key that came up. -/
theorem exists_latest? {k : κ} (mem : k ∈ items.map key) :
    ∃ item, latest? key items k = some item ∧ key item = k := by
  obtain ⟨item, is_item, rfl⟩ := List.mem_map.mp mem
  have with_key : item ∈ items.filter fun other => key other = key item :=
    List.mem_filter.mpr ⟨is_item, decide_eq_true rfl⟩
  have found := List.getLast?_eq_some_getLast (List.ne_nil_of_mem with_key)
  exact ⟨_, found, (mem_of_latest? found).2⟩

section FilterMap

variable {keys : List κ} {find : κ → Option α} {last : α}

/-- What is found at a key that is not looked up does not show. -/
theorem filterMap_of_notMem (absent : key last ∉ keys) :
    keys.filterMap (fun k => if key last = k then some last else find k) = keys.filterMap find := by
  refine List.filterMap_congr fun k mem => ?_
  rw [if_neg]
  rintro rfl
  exact absent mem

/-- Finding another item at one key puts it in the place of the one found there before. -/
theorem filterMap_of_mem (nodup : keys.Nodup) (mem : key last ∈ keys)
    (found : ∀ k ∈ keys, ∃ item, find k = some item ∧ key item = k) :
    keys.filterMap (fun k => if key last = k then some last else find k) =
      putIn key last (keys.filterMap find) := by
  induction keys with
  | nil => contradiction
  | cons k rest ih =>
    obtain ⟨fresh, nodup_rest⟩ := List.nodup_cons.mp nodup
    obtain ⟨item, found_item, named⟩ := found k List.mem_cons_self
    rw [List.filterMap_cons_some found_item, putIn, named, List.filterMap_cons]
    by_cases here : key last = k
    · have later : key last ∉ rest := here ▸ fresh
      rw [if_pos here, if_pos here.symm, filterMap_of_notMem later]
    · have later : key last ∈ rest := (List.mem_cons.mp mem).resolve_left here
      rw [if_neg here, if_neg (Ne.symm here), found_item,
        ih nodup_rest later fun k mem => found k (List.mem_cons_of_mem _ mem)]

end FilterMap

/-- There is one item for each key that came up. -/
theorem map_key_standing : (standing key items).map key = (items.map key).eraseDups := by
  have each : ∀ k ∈ (items.map key).eraseDups, (latest? key items k).map key = some k := by
    intro k mem
    obtain ⟨item, last, named⟩ := exists_latest? (List.mem_eraseDups.mp mem)
    rw [last, Option.map_some, named]
  rw [standing, List.map_filterMap, List.filterMap_congr each, List.filterMap_some]

theorem mem_standing_iff :
    item ∈ standing key items ↔ latest? key items (key item) = some item := by
  rw [standing, List.mem_filterMap]
  constructor
  · rintro ⟨k, -, last⟩
    rwa [(mem_of_latest? last).2]
  · intro last
    refine ⟨key item, List.mem_eraseDups.mpr ?_, last⟩
    exact List.mem_map_of_mem (mem_of_latest? last).1

theorem nodup_standing : (standing key items).Nodup := by
  apply List.Nodup.of_map key
  rw [map_key_standing]
  exact nodup_eraseDups _

/-- An item that is added is written over the one with its key. -/
theorem standing_concat (items : List α) (last : α) :
    standing key (items ++ [last]) = putIn key last (standing key items) := by
  have found : ∀ k ∈ (items.map key).eraseDups,
      ∃ item, latest? key items k = some item ∧ key item = k :=
    fun k mem => exists_latest? (List.mem_eraseDups.mp mem)
  rw [standing, List.map_append, List.map_singleton, List.eraseDups_append,
    List.filterMap_append, funext (latest?_concat key items last)]
  by_cases mem : key last ∈ items.map key
  · have none_new : [key last].removeAll (items.map key) = [] := by
      rw [List.removeAll, List.filter_eq_nil_iff]
      simpa using mem
    rw [none_new, filterMap_of_mem (nodup_eraseDups _) (List.mem_eraseDups.mpr mem) found]
    exact List.append_nil _
  · have one_new : [key last].removeAll (items.map key) = [key last] := by
      rw [List.removeAll, List.filter_eq_self]
      simpa using mem
    have apart : ∀ other ∈ standing key items, key other ≠ key last := by
      intro other standing same
      apply mem
      rw [← same]
      exact List.mem_map_of_mem (mem_of_latest? (mem_standing_iff.mp standing)).1
    rw [one_new, filterMap_of_notMem (mt List.mem_eraseDups.mp mem), putIn_of_forall_ne apart]
    simp [standing, List.eraseDups_cons]

/-- What stands are the latest items, in an order of their own. -/
theorem standing_perm_latest [DecidableEq α] (nodup : items.Nodup) :
    (standing key items).Perm (latest key items) := by
  have nodup_latest : (latest key items).Nodup := nodup.filter _
  rw [List.perm_ext_iff_of_nodup nodup_standing nodup_latest]
  intro item
  rw [mem_standing_iff, latest, List.mem_filter, decide_eq_true_eq]
  exact ⟨fun last => ⟨(mem_of_latest? last).1, last⟩, And.right⟩

end ChatFeed
