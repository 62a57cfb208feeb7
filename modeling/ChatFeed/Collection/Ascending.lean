/-!
# Ascending lists

Sets of identifiers are held as lists in strictly ascending order. Such a list
has no repetition, and two of them with the same members are equal.

## Main definitions

* `Ascending.insert`, `Ascending.erase`: adding and removing a member
* `Ascending.ofList`: the members of any list, each once

## Main results

* `Ascending.mem_insert`, `Ascending.mem_erase`, `Ascending.mem_ofList`
-/

namespace ChatFeed.Ascending

variable {α : Type} [DecidableEq α]

section Insert

variable [LT α] [DecidableLT α]

/-- Adds `a` at its place; a member is not added again. -/
def insert (a : α) : List α → List α
  | [] => [a]
  | b :: rest =>
    if a = b then b :: rest
    else if a < b then a :: b :: rest
    else b :: insert a rest

/-- The members of `l` in ascending order, each once. -/
def ofList (l : List α) : List α :=
  l.foldr insert []

@[simp] theorem mem_insert {a b : α} {l : List α} : b ∈ insert a l ↔ b = a ∨ b ∈ l := by
  induction l with
  | nil => simp [insert]
  | cons c rest ih =>
    by_cases same : a = c
    · subst same
      simp [insert]
    · by_cases before : a < c <;> simp [insert, same, before, ih, or_left_comm]

@[simp] theorem mem_ofList {b : α} {l : List α} : b ∈ ofList l ↔ b ∈ l := by
  induction l with
  | nil => simp [ofList]
  | cons c rest ih =>
    rw [ofList] at ih ⊢
    simp [ih]

end Insert

/-- Removes `a`. -/
def erase (a : α) (l : List α) : List α :=
  l.filter fun b => b ≠ a

@[simp] theorem mem_erase {a b : α} {l : List α} : b ∈ erase a l ↔ b ∈ l ∧ b ≠ a := by
  simp [erase]

end ChatFeed.Ascending
