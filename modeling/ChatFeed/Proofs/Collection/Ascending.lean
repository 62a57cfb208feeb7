import ChatFeed.Collection.Ascending

/-!
# Ascending lists stay ascending

Adding a member puts it in its place and removing one leaves the others where they are, so
lists that are written in no other way are ascending, and hold no member twice.

## Main results

* `Ascending.pairwise_insert`, `Ascending.pairwise_erase`: writing keeps the order
* `Ascending.nodup_of_pairwise`: nothing stands twice in an ascending list
-/

namespace ChatFeed.Ascending

variable {α : Type} [LT α] {l : List α}

theorem nodup_of_pairwise [Std.Irrefl (LT.lt : α → α → Prop)] (ascending : l.Pairwise (· < ·)) :
    l.Nodup := by
  refine ascending.imp fun {a b} before same => ?_
  rw [same] at before
  exact Std.Irrefl.irrefl b before

variable [DecidableEq α]

theorem pairwise_erase (ascending : l.Pairwise (· < ·)) (a : α) :
    (erase a l).Pairwise (· < ·) :=
  ascending.filter _

variable [DecidableLT α] [Std.Trichotomous (LT.lt : α → α → Prop)]
  [Trans (LT.lt : α → α → Prop) (LT.lt : α → α → Prop) (LT.lt : α → α → Prop)]

theorem pairwise_insert (ascending : l.Pairwise (· < ·)) (a : α) :
    (insert a l).Pairwise (· < ·) := by
  -- The cases are those of `insert`: the member is there, goes in front, or goes further back.
  induction l with
  | nil => exact List.pairwise_singleton _ a
  | cons b rest ih =>
    obtain ⟨first, later⟩ := List.pairwise_cons.mp ascending
    rw [insert]
    split
    next => exact ascending
    next distinct =>
      split
      next before =>
        rw [List.pairwise_cons]
        refine ⟨fun c mem => ?_, ascending⟩
        rcases List.mem_cons.mp mem with rfl | mem
        · exact before
        · exact Trans.trans before (first c mem)
      next not_before =>
        rw [List.pairwise_cons]
        refine ⟨fun c mem => ?_, ih later⟩
        rcases mem_insert.mp mem with rfl | mem
        · refine Decidable.byContradiction fun not_after => distinct ?_
          exact Std.Trichotomous.trichotomous _ _ not_before not_after
        · exact first c mem

theorem pairwise_ofList (l : List α) : (ofList l).Pairwise (· < ·) := by
  induction l with
  | nil => exact .nil
  | cons a rest ih => exact pairwise_insert ih a

end ChatFeed.Ascending
