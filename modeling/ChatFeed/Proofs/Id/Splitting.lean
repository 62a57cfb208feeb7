import ChatFeed.Proofs.Id
import Mathlib.Data.List.TakeWhile
import Mathlib.Data.Prod.Lex

/-!
# Splitting identifiers

An identifier comes about in two ways, joined of parts or read from a text, and either way it is
split at the first colon of its text. The colon that joins the parts is the first one only if the
local part given had none, and the parts given may be empty, hold characters of any width and
colons anywhere. Nothing of this shows once the text is known: identifiers with one text have the
same parts, so they can be kept, compared and sorted by their texts.

## Main results

* `Id.extract_localpart`, `Id.extract_domain`: the parts are what stands on either side of it
* `Id.isProper_ofParts_iff`: which joined parts are read back
* `Id.parts_agree_with_text`: building, reading and splitting agree
-/

namespace ChatFeed.Id

variable {kind : IdKind}

/-! ### The text, part by part -/

theorem sigil_ne_colon (kind : IdKind) : kind.sigil ≠ ':' := by
  cases kind <;> decide

/-- Sigils are characters of one byte. -/
theorem utf8ByteSize_sigil (kind : IdKind) : (String.singleton kind.sigil).utf8ByteSize = 1 := by
  cases kind <;> decide

theorem text_eq_append (id : Id kind) :
    id.text = String.singleton kind.sigil ++ id.localpart ++ ":" ++ id.domain := by
  apply String.toList_inj.mp
  simp [toList_text]

/-- The text of joined parts is the parts as they were given, joined. -/
theorem text_ofParts_eq_append (localpart domain : String) :
    (ofParts kind localpart domain).text =
      String.singleton kind.sigil ++ localpart ++ ":" ++ domain := by
  rw [text_ofParts]
  apply String.toList_inj.mp
  simp

/-- The first colon of the text comes right after the local part, and right before the domain. -/
theorem split_text (id : Id kind) :
    id.text.toList.takeWhile (· ≠ ':') = kind.sigil :: id.localpart.toList ∧
      id.text.toList.dropWhile (· ≠ ':') = ':' :: id.domain.toList := by
  have no_colon : ':' ∉ kind.sigil :: id.localpart.toList :=
    List.not_mem_cons_of_ne_of_not_mem (Ne.symm (sigil_ne_colon kind)) id.colon_notMem
  rw [toList_text, ← List.cons_append]
  constructor
  · exact beforeColon_append no_colon _
  · rw [List.dropWhile_append_of_pos fun c => ne_colon_of_mem no_colon]
    simp

theorem separator_eq (id : Id kind) :
    id.separator = (String.singleton kind.sigil ++ id.localpart).utf8ByteSize := by
  rw [separator, beforeColon, (split_text id).1]
  apply congrArg String.utf8ByteSize
  apply String.toList_inj.mp
  simp

/-! ### Either side of the separator -/

/-- The local part is what stands between the sigil and the separator. -/
theorem extract_localpart (id : Id kind) :
    id.text.toByteArray.extract 1 id.separator = id.localpart.toByteArray := by
  have sigil := (String.size_toByteArray).trans (utf8ByteSize_sigil kind)
  have bytes : id.text.toByteArray = (String.singleton kind.sigil).toByteArray ++
      (id.localpart.toByteArray ++ (":" ++ id.domain).toByteArray) := by
    rw [text_eq_append, String.append_assoc, String.append_assoc, String.toByteArray_append,
      String.toByteArray_append]
  have until_separator : id.separator = 1 + id.localpart.toByteArray.size := by
    rw [separator_eq, String.utf8ByteSize_append, utf8ByteSize_sigil, String.size_toByteArray]
  calc
    _ = (id.localpart.toByteArray ++ (":" ++ id.domain).toByteArray).extract 0
          id.localpart.toByteArray.size := by
      rw [bytes, until_separator, ← sigil]
      exact ByteArray.extract_append_size_add (i := 0)
    _ = id.localpart.toByteArray := ByteArray.extract_append_eq_left rfl

/-- The domain is what stands after the separator. -/
theorem extract_domain (id : Id kind) :
    id.text.toByteArray.extract (id.separator + 1) id.text.utf8ByteSize =
      id.domain.toByteArray := by
  have colon : (":" : String).utf8ByteSize = 1 := by decide
  rw [separator_eq, ← colon, ← String.utf8ByteSize_append, text_eq_append,
    String.toByteArray_append]
  apply ByteArray.extract_append_eq_right
  · rw [String.size_toByteArray]
  · rw [String.utf8ByteSize_append, String.size_toByteArray, String.size_toByteArray]

/-- An identifier is joined of its own parts. -/
theorem ofParts_parts (id : Id kind) : ofParts kind id.localpart id.domain = id := by
  apply text_injective
  rw [text_ofParts_eq_append, ← text_eq_append]

-- They need not be the parts that it was joined of.
example : ofParts .user "ann:home" "example.org" = ofParts .user "ann" "home:example.org" := by
  decide

/-! ### Reading back -/

theorem beforeColon_eq_nil_iff {cs : List Char} :
    beforeColon cs = [] ↔ cs = [] ∨ cs.head? = some ':' := by
  cases cs with
  | nil => simp [beforeColon]
  | cons c rest => by_cases colon : c = ':' <;> simp [beforeColon, colon]

theorem afterColon?_eq_none_iff {cs : List Char} : afterColon? cs = none ↔ ':' ∉ cs := by
  constructor
  · intro missing
    rw [← beforeColon_of_afterColon_eq_none missing]
    simpa using colon_notMem_beforeColon cs
  · intro no_colon
    have nothing : cs.dropWhile (· ≠ ':') = [] :=
      List.dropWhile_eq_nil_iff.mpr fun c mem => ne_colon_of_mem no_colon mem
    rw [afterColon?, nothing]

/-- Joined parts have a local part if something comes before the first colon, and a domain if one
was given or the local part that was given holds a colon. -/
theorem isProper_ofParts_iff {localpart domain : String} :
    (ofParts kind localpart domain).IsProper ↔
      localpart ≠ "" ∧ localpart.toList.head? ≠ some ':' ∧
        (domain ≠ "" ∨ ':' ∈ localpart.toList) := by
  have named : (ofParts kind localpart domain).localpart ≠ "" ↔
      localpart ≠ "" ∧ localpart.toList.head? ≠ some ':' := by
    rw [← not_or, Ne, ← String.toList_eq_nil_iff, ← String.toList_eq_nil_iff,
      ← beforeColon_eq_nil_iff, ofParts, String.toList_ofList]
  have within : (ofParts kind localpart domain).domain ≠ "" ↔
      domain ≠ "" ∨ ':' ∈ localpart.toList := by
    rw [ofParts]
    -- A colon in the local part becomes the separator, and the one that joins the parts remains.
    cases found : afterColon? localpart.toList with
    | none => simp [afterColon?_eq_none_iff.mp found]
    | some rest =>
      have colon : ':' ∈ localpart.toList := by
        by_contra no_colon
        rw [afterColon?_eq_none_iff.mpr no_colon] at found
        contradiction
      simp [colon]
  rw [isProper_iff, named, within, and_assoc]

/-! ### Order -/

/-- Texts are compared, and the separator never decides. -/
theorem lex_lt_iff (a b : Id kind) :
    toLex (a.text, a.separator) < toLex (b.text, b.separator) ↔ a < b := by
  rw [Prod.Lex.lt_iff]
  refine or_iff_left ?_
  rintro ⟨same, before⟩
  obtain rfl := text_injective same
  exact Nat.lt_irrefl _ before

/-! ### Text and parts -/

/-- Joining any two parts gives an identifier with the text that they make up, and from this text it
is read back if something comes before its first colon and something after; otherwise the text is
refused. What is read from a text has that text. However it came about, an identifier is split at
the first colon of its text, by characters or by bytes: the local part, which holds no colon, is
what comes before it and after the sigil, and the domain is what comes after it. So it is joined of
its own parts, it is the same as another exactly if they have the same text, and it is ordered by
its text, whether or not the place of the separator is compared after that. -/
theorem parts_agree_with_text (kind : IdKind) :
    (∀ localpart domain : String,
      let id := ofParts kind localpart domain
      id.text = String.singleton kind.sigil ++ localpart ++ ":" ++ domain ∧
      parse kind id.text =
        if localpart ≠ "" ∧ localpart.toList.head? ≠ some ':' ∧
            (domain ≠ "" ∨ ':' ∈ localpart.toList) then .ok id
        else .error (.missingDomain id.text)) ∧
    (∀ (s : String) (id : Id kind), parse kind s = .ok id → id.text = s) ∧
    (∀ id : Id kind,
      id.text = String.singleton kind.sigil ++ id.localpart ++ ":" ++ id.domain ∧
      id.localpart.toList = id.text.toList.tail.takeWhile (· ≠ ':') ∧
      id.domain.toList = (id.text.toList.dropWhile (· ≠ ':')).tail ∧
      ':' ∉ id.localpart.toList ∧
      id.text.toByteArray.extract 1 id.separator = id.localpart.toByteArray ∧
      id.text.toByteArray.extract (id.separator + 1) id.text.utf8ByteSize =
        id.domain.toByteArray ∧
      ofParts kind id.localpart id.domain = id) ∧
    ∀ a b : Id kind, (a = b ↔ a.text = b.text) ∧ (a < b ↔ a.text < b.text) ∧
      (toLex (a.text, a.separator) < toLex (b.text, b.separator) ↔ a < b) := by
  refine ⟨fun localpart domain => ⟨text_ofParts_eq_append localpart domain, ?_⟩,
    fun s id => text_of_parse, fun id => ⟨text_eq_append id, ?_, ?_, id.colon_notMem,
      extract_localpart id, extract_domain id, ofParts_parts id⟩,
    fun a b => ⟨⟨congrArg text, text_injective⟩, Iff.rfl, lex_lt_iff a b⟩⟩
  · have proper := @isProper_ofParts_iff kind localpart domain
    rw [isProper_iff, ← not_or] at proper
    rw [parse_text]
    split
    next empty => rw [if_neg (proper.not.mp (not_not.mpr empty))]
    next full => rw [if_pos (proper.mp full)]
  · rw [toList_text, List.tail_cons]
    exact (beforeColon_append id.colon_notMem _).symm
  · rw [(split_text id).2, List.tail_cons]

end ChatFeed.Id
