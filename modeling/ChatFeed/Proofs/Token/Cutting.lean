import ChatFeed.Token.Parser
import Mathlib.Data.List.Basic

/-!
# Cutting text at separators

A token is read by cutting its text: at every separator, at the last one, and
pairwise. Each way of cutting undoes one way of joining, and each text can be
joined in that way from exactly one list of parts. So what follows about tokens
never looks at how the text is scanned.

## Main results

* `StreamToken.pieces_eq_iff`: cutting at every separator
* `StreamToken.splitLast?_eq_some_iff`: cutting at the last separator
* `StreamToken.pairs?_eq_some_iff`: taking two by two
-/

namespace ChatFeed.StreamToken

variable {sep : Char} {cs first before after : List Char} {others : List (List Char)}

/-- A first part and others, with the separator before each of the others. -/
def joined (sep : Char) (first : List Char) (others : List (List Char)) : List Char :=
  first ++ others.flatMap fun part => sep :: part

theorem pieces_sep_cons (sep : Char) (cs : List Char) :
    pieces sep (sep :: cs) = ([], (pieces sep cs).1 :: (pieces sep cs).2) := by
  simp [pieces]

theorem pieces_cons_of_ne {c : Char} (distinct : c ≠ sep) (cs : List Char) :
    pieces sep (c :: cs) = (c :: (pieces sep cs).1, (pieces sep cs).2) := by
  simp [pieces, distinct]

theorem joined_pieces (sep : Char) (cs : List Char) :
    joined sep (pieces sep cs).1 (pieces sep cs).2 = cs := by
  induction cs with
  | nil => rfl
  | cons c rest ih =>
    by_cases same : c = sep
    · subst same
      rw [pieces_sep_cons]
      exact congrArg (c :: ·) ih
    · rw [pieces_cons_of_ne same]
      exact congrArg (c :: ·) ih

theorem sep_notMem_pieces (sep : Char) (cs : List Char) :
    sep ∉ (pieces sep cs).1 ∧ ∀ part ∈ (pieces sep cs).2, sep ∉ part := by
  induction cs with
  | nil => simp [pieces]
  | cons c rest ih =>
    obtain ⟨first_free, others_free⟩ := ih
    by_cases same : c = sep
    · subst same
      rw [pieces_sep_cons]
      exact ⟨List.not_mem_nil, List.forall_mem_cons.mpr ⟨first_free, others_free⟩⟩
    · rw [pieces_cons_of_ne same]
      exact ⟨List.not_mem_cons_of_ne_of_not_mem (Ne.symm same) first_free, others_free⟩

theorem pieces_append (free : sep ∉ first) (cs : List Char) :
    pieces sep (first ++ cs) = (first ++ (pieces sep cs).1, (pieces sep cs).2) := by
  induction first with
  | nil => rfl
  | cons c rest ih =>
    obtain ⟨distinct, rest_free⟩ := not_or.mp (free ∘ List.mem_cons.mpr)
    rw [List.cons_append, pieces_cons_of_ne (Ne.symm distinct), ih rest_free, List.cons_append]

theorem pieces_joined (first_free : sep ∉ first) (others_free : ∀ part ∈ others, sep ∉ part) :
    pieces sep (joined sep first others) = (first, others) := by
  -- The first separator ends `first`, and what follows it is joined of the other parts.
  induction others generalizing first with
  | nil => simpa [joined, pieces] using pieces_append first_free []
  | cons part rest ih =>
    obtain ⟨part_free, rest_free⟩ := List.forall_mem_cons.mp others_free
    have cut := ih part_free rest_free
    rw [joined] at cut ⊢
    rw [pieces_append first_free, List.flatMap_cons, List.cons_append, pieces_sep_cons, cut,
      List.append_nil]

/-- The pieces of a text are the parts without a separator of which it is joined. -/
theorem pieces_eq_iff :
    pieces sep cs = (first, others) ↔
      joined sep first others = cs ∧ sep ∉ first ∧ ∀ part ∈ others, sep ∉ part := by
  constructor
  · intro cut
    have back := joined_pieces sep cs
    have free := sep_notMem_pieces sep cs
    rw [cut] at back free
    exact ⟨back, free⟩
  · rintro ⟨rfl, first_free, others_free⟩
    exact pieces_joined first_free others_free

theorem splitLast?_eq_none_iff : splitLast? sep cs = none ↔ sep ∉ cs := by
  induction cs with
  | nil => simp [splitLast?]
  | cons c rest ih =>
    rw [splitLast?, List.mem_cons, not_or, ← ih]
    cases splitLast? sep rest with
    | none => simp [eq_comm]
    | some cut => simp

theorem splitLast?_append_cons (free : sep ∉ after) (before : List Char) :
    splitLast? sep (before ++ sep :: after) = some (before, after) := by
  induction before with
  | nil => rw [List.nil_append, splitLast?, splitLast?_eq_none_iff.mpr free, if_pos rfl]
  | cons c rest ih => rw [List.cons_append, splitLast?, ih]

theorem exists_splitLast? (mem : sep ∈ cs) :
    ∃ before after, before ++ sep :: after = cs ∧ sep ∉ after := by
  induction cs with
  | nil => exact absurd mem List.not_mem_nil
  | cons c rest ih =>
    -- A separator further back takes precedence over one right here.
    by_cases later : sep ∈ rest
    · obtain ⟨before, after, rejoined, free⟩ := ih later
      exact ⟨c :: before, after, congrArg (c :: ·) rejoined, free⟩
    · obtain same | mem := List.mem_cons.mp mem
      · exact ⟨[], rest, congrArg (· :: rest) same, later⟩
      · exact absurd mem later

/-- A text is cut at its last separator into what stands before it and what stands after it. -/
theorem splitLast?_eq_some_iff :
    splitLast? sep cs = some (before, after) ↔ before ++ sep :: after = cs ∧ sep ∉ after := by
  constructor
  · intro cut
    have mem : sep ∈ cs := by
      by_contra free
      rw [splitLast?_eq_none_iff.mpr free] at cut
      exact absurd cut (by simp)
    obtain ⟨front, back, rfl, free⟩ := exists_splitLast? mem
    rw [splitLast?_append_cons free] at cut
    obtain ⟨rfl, rfl⟩ := Prod.mk.inj (Option.some.inj cut)
    exact ⟨rfl, free⟩
  · rintro ⟨rfl, free⟩
    exact splitLast?_append_cons free before

/-- Parts can be taken two by two if they are the members of pairs, one pair after the other. -/
theorem pairs?_eq_some_iff {parts : List (List Char)} {pairs : List (List Char × List Char)} :
    pairs? parts = some pairs ↔ (pairs.flatMap fun pair => [pair.1, pair.2]) = parts := by
  fun_induction pairs? parts generalizing pairs with
  | case1 => cases pairs <;> simp
  | case2 part => cases pairs <;> simp
  | case3 a b rest ih =>
    cases pairs with
    | nil => simp
    | cons pair pairs =>
      obtain ⟨front, back⟩ := pair
      simp [← ih, and_assoc, eq_comm (a := front), eq_comm (a := back), and_left_comm]

end ChatFeed.StreamToken
