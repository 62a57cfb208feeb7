import ChatFeed.Id
import Mathlib.Data.String.Basic

/-!
# Identifiers and their texts

An identifier is determined by its text, so identifiers may be told apart and ordered by
their texts, and a log keyed by texts mixes nothing up. Not every identifier can be read
back from its text: one with an empty part is no well-formed text.

## Main definitions

* `Id.IsProper`: an identifier is read back from its text

## Main results

* `Id.text_injective`: an identifier is determined by its text
* `Id.text_of_parse`: what is read from a text has that text
* `Id.parse_text`, `Id.parse?_text`: what is read from the text of an identifier
* `Id.isProper_iff`, `Id.isProper_ofParts`: which identifiers are read back
-/

namespace ChatFeed.Id

variable {kind : IdKind}

/-! ### Splitting what was joined -/

theorem ne_colon_of_mem {front : List Char} (no_colon : ':' ∉ front) {c : Char} (mem : c ∈ front) :
    decide (c ≠ ':') = true :=
  decide_eq_true fun colon => no_colon (colon ▸ mem)

theorem beforeColon_append {front : List Char} (no_colon : ':' ∉ front) (back : List Char) :
    beforeColon (front ++ ':' :: back) = front := by
  rw [beforeColon, List.takeWhile_append_of_pos fun c => ne_colon_of_mem no_colon]
  simp

theorem afterColon?_append {front : List Char} (no_colon : ':' ∉ front) (back : List Char) :
    afterColon? (front ++ ':' :: back) = some back := by
  rw [afterColon?, List.dropWhile_append_of_pos fun c => ne_colon_of_mem no_colon]
  simp

/-- An identifier is determined by its parts, joined. -/
theorem eq_of_joined {a b : Id kind} (same_chars : a.localpart.toList ++ ':' :: a.domain.toList =
    b.localpart.toList ++ ':' :: b.domain.toList) : a = b := by
  have localpart := congrArg beforeColon same_chars
  have domain := congrArg afterColon? same_chars
  rw [beforeColon_append a.colon_notMem, beforeColon_append b.colon_notMem] at localpart
  rw [afterColon?_append a.colon_notMem, afterColon?_append b.colon_notMem,
    Option.some.injEq] at domain
  obtain ⟨a_local, a_domain, _⟩ := a
  obtain ⟨b_local, b_domain, _⟩ := b
  obtain rfl := String.toList_inj.mp localpart
  obtain rfl := String.toList_inj.mp domain
  rfl

/-- An identifier is determined by its text. -/
theorem text_injective {a b : Id kind} (same : a.text = b.text) : a = b := by
  have chars := congrArg String.toList same
  rw [toList_text, toList_text] at chars
  exact eq_of_joined (List.tail_eq_of_cons_eq chars)

/-- What is read from a text has that text. -/
theorem text_of_parse {s : String} {id : Id kind} (parsed : parse kind s = .ok id) :
    id.text = s := by
  unfold parse at parsed
  split at parsed
  next => contradiction
  next c rest chars =>
    split at parsed
    next => contradiction
    next sigil =>
      split at parsed
      next => contradiction
      next domain found =>
        split at parsed
        next => contradiction
        next =>
          obtain rfl := Except.ok.inj parsed
          apply String.toList_inj.mp
          rw [toList_text, chars, Decidable.not_not.mp sigil]
          simp [beforeColon_append_afterColon found]

theorem text_of_parse? {s : String} {id : Id kind} (parsed : parse? kind s = some id) :
    id.text = s := by
  rw [parse?] at parsed
  cases found : parse kind s with
  | error e =>
    rw [found] at parsed
    contradiction
  | ok read =>
    rw [found] at parsed
    obtain rfl := Option.some.inj parsed
    exact text_of_parse found

/-! ### Reading back -/

/-- Whether an identifier is read back from its text. -/
def IsProper (id : Id kind) : Prop :=
  parse? kind id.text = some id

instance (id : Id kind) : Decidable id.IsProper :=
  inferInstanceAs (Decidable (_ = _))

/-- What has been read is read back. -/
theorem isProper_of_parse? {s : String} {id : Id kind} (parsed : parse? kind s = some id) :
    id.IsProper := by
  rw [IsProper, text_of_parse? parsed, parsed]

/-- Nothing but the identifier is read from its text. -/
theorem parse?_text (id : Id kind) :
    parse? kind id.text = if id.IsProper then some id else none := by
  split
  next proper => exact proper
  next improper =>
    rw [Option.eq_none_iff_forall_ne_some]
    intro other parsed
    obtain rfl := text_injective (text_of_parse? parsed)
    exact improper parsed

/-- The text of an identifier is read back, unless one of its parts is empty. -/
theorem parse_text (id : Id kind) :
    parse kind id.text =
      if id.localpart = "" ∨ id.domain = "" then .error (.missingDomain id.text) else .ok id := by
  have localpart_found := beforeColon_append id.colon_notMem id.domain.toList
  have domain_found := afterColon?_append id.colon_notMem id.domain.toList
  have same : (⟨String.ofList id.localpart.toList, String.ofList id.domain.toList,
      by simpa using id.colon_notMem⟩ : Id kind) = id := by simp
  rw [parse, toList_text]
  simp only [ne_eq, not_true, if_false, domain_found, localpart_found, same, Bool.or_eq_true,
    List.isEmpty_iff, String.toList_eq_nil_iff]

/-- An identifier is read back just if neither of its parts is empty. -/
theorem isProper_iff {id : Id kind} : id.IsProper ↔ id.localpart ≠ "" ∧ id.domain ≠ "" := by
  rw [IsProper, parse?, parse_text, ← not_or]
  split
  next empty => exact iff_of_false nofun (not_not.mpr empty)
  next full => exact iff_of_true rfl full

/-- What is joined is read back if something stands before the first colon and the domain is not
empty. -/
theorem isProper_ofParts {localpart domain : String} (named : beforeColon localpart.toList ≠ [])
    (within : domain ≠ "") : (ofParts kind localpart domain).IsProper := by
  rw [isProper_iff, ofParts]
  refine ⟨fun empty => named (by simpa using empty), ?_⟩
  simp only
  split
  next => exact within
  next rest found => simp

/-! ### Order -/

instance : Std.Irrefl (LT.lt : Id kind → Id kind → Prop) where
  irrefl a := String.lt_irrefl a.text

instance : Trans (LT.lt : Id kind → Id kind → Prop) (LT.lt : Id kind → Id kind → Prop)
    (LT.lt : Id kind → Id kind → Prop) where
  trans := String.lt_trans

instance : Std.Trichotomous (LT.lt : Id kind → Id kind → Prop) where
  trichotomous _ _ not_before not_after := text_injective (String.lt_antisymm not_before not_after)

end ChatFeed.Id
