import ChatFeed.Proofs.Token.RoundTrip

/-!
# Canonical texts of tokens

A token that has been read can be written again, for whatever the parser lets in fits the fields of
the printer. It need not be written as it was read: a field may have come with leading zeros, and a
user group may have come empty, with nothing but its separator. The printer leaves both out and
keeps everything else, so each token that can be read has one canonical text, which is part of every
text that it can be read from.

## Main definitions

* `Base64.IsPadded`: a numeral starts with a zero that could be left out
* `StreamToken.Layout.fields`: the fields of a layout

## Main results

* `Base64.numeral_numeralValue_isSuffix`: the minimal numeral is what a numeral ends in
* `StreamToken.Layout.IsWellFormed.isEncodable`: what has been read can be written
* `StreamToken.Layout.text_ofToken_sublist`: what is written is part of what was read
* `StreamToken.canonical_text`: the canonical text, and which texts are canonical
-/

namespace ChatFeed

namespace Base64

variable {field : List Char}

/-- Whether a numeral starts with a zero and goes on after it. -/
def IsPadded (field : List Char) : Prop :=
  field.head? = some 'A' ∧ 1 < field.length

instance (field : List Char) : Decidable (IsPadded field) :=
  inferInstanceAs (Decidable (_ ∧ _))

/-! ### Leading zeros -/

theorem charOf_idxOf {c : Char} (mem : c ∈ alphabet) : charOf (alphabet.idxOf c) = c :=
  charOf_of_digitOf?_eq_some (digitOf?_eq_some_iff.mpr ⟨mem, rfl⟩)

/-- A leading zero does not count. -/
theorem numeralValue_zero_cons (rest : List Char) :
    numeralValue ('A' :: rest) = numeralValue rest := by
  have zero : alphabet.idxOf 'A' = 0 := by decide
  rw [numeralValue, List.reverse_cons, List.map_append, List.map_singleton, zero,
    Nat.ofDigits_append_zero, numeralValue]

/-- A minimal numeral has no leading zero, unless zero is all there is. -/
theorem not_isPadded_numeral (n : Nat) : ¬IsPadded (numeral n) := by
  rintro ⟨zero_first, long⟩
  have positive : n ≠ 0 := by
    rintro rfl
    rw [numeral, digitsOf_zero] at long
    exact absurd long (by decide)
  -- The leading digit of a positive number is the last that `Nat.digits` lists.
  rw [numeral, digitsOf_eq_reverse_digits positive, List.head?_map, List.head?_reverse,
    List.getLast?_eq_some_getLast (Nat.digits_ne_nil_iff_ne_zero.mpr positive), Option.map_some,
    Option.some.injEq] at zero_first
  have small : (Nat.digits 64 n).getLast (Nat.digits_ne_nil_iff_ne_zero.mpr positive) < 64 :=
    Nat.digits_lt_base (by omega) (List.getLast_mem _)
  have place := idxOf_charOf small
  rw [zero_first, show alphabet.idxOf 'A' = 0 by decide] at place
  exact Nat.getLast_digit_ne_zero 64 positive place.symm

/-- A numeral without a leading zero is the minimal one. -/
theorem numeral_numeralValue_of_not_isPadded (nonempty : field ≠ [])
    (digits : ∀ c ∈ field, c ∈ alphabet) (unpadded : ¬IsPadded field) :
    numeral (numeralValue field) = field := by
  obtain ⟨first, rest, rfl⟩ := List.exists_cons_of_ne_nil nonempty
  by_cases zero : first = 'A'
  · subst zero
    -- A zero that is not padding stands alone.
    have alone : rest = [] := by
      cases rest with
      | nil => rfl
      | cons second rest => exact absurd ⟨rfl, by simp⟩ unpadded
    rw [alone, show numeralValue ['A'] = 0 by decide, numeral, digitsOf_zero]
    decide
  · have places : Nat.digits 64 (numeralValue (first :: rest)) =
        (first :: rest).reverse.map fun c => alphabet.idxOf c := by
      apply Nat.digits_ofDigits 64 (by omega)
      · intro digit mem
        obtain ⟨c, c_mem, rfl⟩ := List.mem_map.mp mem
        exact List.idxOf_lt_length_of_mem (digits c (List.mem_reverse.mp c_mem))
      · intro _ leading_zero
        have first_zero : alphabet.idxOf first = 0 := by simpa using leading_zero
        have written := charOf_idxOf (digits first List.mem_cons_self)
        rw [first_zero] at written
        exact zero written.symm
    have positive : numeralValue (first :: rest) ≠ 0 := by
      intro none
      rw [none] at places
      exact absurd places (by simp)
    rw [numeral, digitsOf_eq_reverse_digits positive, places, ← List.map_reverse,
      List.reverse_reverse, List.map_map, List.map_congr_left, List.map_id]
    intro c mem
    exact charOf_idxOf (digits c mem)

/-- The minimal numeral is what a numeral ends in: it starts after the leading zeros. -/
theorem numeral_numeralValue_isSuffix (nonempty : field ≠ [])
    (digits : ∀ c ∈ field, c ∈ alphabet) : numeral (numeralValue field) <:+ field := by
  induction field with
  | nil => exact absurd rfl nonempty
  | cons first rest ih =>
    by_cases padded : IsPadded (first :: rest)
    · obtain ⟨zero, long⟩ := padded
      obtain rfl : first = 'A' := Option.some.inj zero
      have more : rest ≠ [] := by
        rintro rfl
        simp at long
      rw [numeralValue_zero_cons]
      exact (ih more fun c mem => digits c (List.mem_cons_of_mem _ mem)).trans
        (List.suffix_cons _ _)
    · rw [numeral_numeralValue_of_not_isPadded nonempty digits padded]

/-- A numeral is minimal if it has no leading zero, and only then. -/
theorem numeral_numeralValue_eq_iff (nonempty : field ≠ [])
    (digits : ∀ c ∈ field, c ∈ alphabet) :
    numeral (numeralValue field) = field ↔ ¬IsPadded field := by
  constructor
  · intro minimal
    rw [← minimal]
    exact not_isPadded_numeral _
  · exact numeral_numeralValue_of_not_isPadded nonempty digits

end Base64

namespace StreamToken

open scoped List

/-! ### Tuples -/

/-- The fields of a tuple, one by one. -/
def Fields.all (fields : Fields) : List (List Char) :=
  [fields.shard, fields.event, fields.signal]

section Tuples

variable {fields : Fields}

theorem IsField.isSuffix {room : Nat} {field : List Char} (isField : IsField room field) :
    Base64.numeral (Base64.numeralValue field) <:+ field :=
  Base64.numeral_numeralValue_isSuffix isField.1 isField.2.2

theorem IsField.eq_iff {room : Nat} {field : List Char} (isField : IsField room field) :
    Base64.numeral (Base64.numeralValue field) = field ↔ ¬Base64.IsPadded field :=
  Base64.numeral_numeralValue_eq_iff isField.1 isField.2.2

/-- A tuple is written as it was read, but for leading zeros. -/
theorem Fields.text_ofTuple_sublist (wellFormed : fields.IsWellFormed) :
    (Fields.ofTuple fields.tuple).text <+ fields.text := by
  have shard := wellFormed.shard.isSuffix.sublist
  have event := wellFormed.event.isSuffix.sublist
  have signal := wellFormed.signal.isSuffix.sublist
  rw [Fields.text, Fields.text]
  exact (shard.append (event.cons_cons _)).append (signal.cons_cons _)

theorem Fields.ofTuple_tuple_eq_iff (wellFormed : fields.IsWellFormed) :
    Fields.ofTuple fields.tuple = fields ↔ ∀ field ∈ fields.all, ¬Base64.IsPadded field := by
  obtain ⟨shard, event, signal⟩ := fields
  obtain ⟨shard_field, event_field, signal_field⟩ := wellFormed
  simp [Fields.ofTuple, Fields.tuple, Fields.all, shard_field.eq_iff, event_field.eq_iff,
    signal_field.eq_iff]

end Tuples

/-! ### Groups -/

section Groups

variable {group : List Fields}

/-- What has been read of a group fits the fields it would be written in. -/
theorem IsGroup.fitsGroup (isGroup : IsGroup group) : FitsGroup (group.map Fields.tuple) where
  shard := List.forall_mem_map.mpr fun fields mem =>
    (isGroup.fields fields mem).shard.numeralValue_lt
  event := List.forall_mem_map.mpr fun fields mem =>
    (isGroup.fields fields mem).event.numeralValue_lt
  signal := List.forall_mem_map.mpr fun fields mem =>
    (isGroup.fields fields mem).signal.numeralValue_lt
  separable := by
    rw [← List.map_tail, List.forall_mem_map]
    intro fields mem digit
    -- A separator in the minimal numeral would be one in the field.
    have inside := Base64.underscore_mem_numeral_iff.mpr digit
    have wellFormed := isGroup.fields fields (List.mem_of_mem_tail mem)
    exact isGroup.separable fields mem (wellFormed.shard.isSuffix.mem inside)

/-- A group is written as it was read, but for leading zeros. -/
theorem IsGroup.text_sublist (isGroup : IsGroup group) :
    groupText ((group.map Fields.tuple).map Fields.ofTuple) <+ groupText group := by
  cases group with
  | nil => exact List.Sublist.refl _
  | cons first rest =>
    rw [List.map_cons, List.map_cons, groupText_cons_eq_flatMap, groupText_cons_eq_flatMap,
      List.flatMap_map, List.flatMap_map]
    apply (Fields.text_ofTuple_sublist (isGroup.fields first List.mem_cons_self)).append
    have later (fields : Fields) (mem : fields ∈ rest) :=
      Fields.text_ofTuple_sublist (isGroup.fields fields (List.mem_cons_of_mem _ mem))
    -- Each of the following tuples has its separator before it, on both sides.
    clear isGroup
    induction rest with
    | nil => exact List.Sublist.refl _
    | cons next rest ih =>
      rw [List.flatMap_cons, List.flatMap_cons]
      apply ((later next List.mem_cons_self).cons_cons _).append
      exact ih fun fields mem => later fields (List.mem_cons_of_mem _ mem)

theorem IsGroup.ofTuple_tuple_eq_iff (isGroup : IsGroup group) :
    (group.map Fields.tuple).map Fields.ofTuple = group ↔
      ∀ field ∈ group.flatMap Fields.all, ¬Base64.IsPadded field := by
  nth_rewrite 2 [← List.map_id group]
  rw [List.map_map, List.map_inj_left, List.forall_mem_flatMap]
  refine forall₂_congr fun fields mem => ?_
  exact Fields.ofTuple_tuple_eq_iff (isGroup.fields fields mem)

end Groups

/-! ### Layouts -/

namespace Layout

variable {layout : Layout}

/-- The fields of both groups. -/
def fields (layout : Layout) : List (List Char) :=
  layout.rooms.flatMap Fields.all ++ (layout.users.getD []).flatMap Fields.all

/-- What has been read can be written. -/
theorem IsWellFormed.isEncodable (wellFormed : layout.IsWellFormed) :
    layout.token.IsEncodable where
  rooms := wellFormed.rooms.fitsGroup
  users := by
    rw [token]
    cases given : layout.users with
    | none => exact isGroup_nil.fitsGroup
    | some group => exact (wellFormed.users group given).fitsGroup

/-- What is written is part of what was read. -/
theorem text_ofToken_sublist (wellFormed : layout.IsWellFormed) :
    (ofToken layout.token).text.toList <+ layout.text.toList := by
  obtain ⟨rooms, users⟩ := layout
  have rooms_part := wellFormed.rooms.text_sublist
  rw [toList_text, toList_text, joined, joined]
  apply rooms_part.append
  cases users with
  | none => exact List.Sublist.refl _
  | some group =>
    cases group with
    -- An empty user group goes, and the separator before it.
    | nil => exact List.nil_sublist _
    | cons first rest =>
      have users_part := (wellFormed.users _ rfl).text_sublist
      simpa [ofToken, token] using users_part

/-- A layout is that of its token if it has no leading zeros and no empty user group. -/
theorem ofToken_token_eq_iff (wellFormed : layout.IsWellFormed) :
    ofToken layout.token = layout ↔
      (∀ field ∈ layout.fields, ¬Base64.IsPadded field) ∧ layout.users ≠ some [] := by
  obtain ⟨rooms, users⟩ := layout
  have rooms_same := wellFormed.rooms.ofTuple_tuple_eq_iff
  rw [fields, List.forall_mem_append, ← rooms_same]
  cases users with
  | none => simp [ofToken, token]
  | some group =>
    have users_same := (wellFormed.users group rfl).ofTuple_tuple_eq_iff
    cases group with
    | nil => simp [ofToken, token]
    | cons first rest =>
      rw [Option.getD_some, ← users_same]
      simp [ofToken, token]

end Layout

/-! ### The canonical text -/

/-- Leaving out characters makes no text longer in bytes. -/
theorem byteLength_le_of_sublist {cs cs' : List Char} (part : cs <+ cs') :
    byteLength cs ≤ byteLength cs' := by
  induction part with
  | slnil => exact Nat.le_refl _
  | cons c _ ih =>
    rw [byteLength_cons]
    omega
  | cons_cons c _ ih =>
    rw [byteLength_cons, byteLength_cons]
    omega

/-- A token that has been read has a text, from which it is read again. The text is no longer than
the one it was read from, neither in characters nor in bytes, and what is read from it has just this
text. Both texts are the same exactly if, in the one layout of the text that was read, no field
starts with a zero and goes on after it, and there is no user group without a tuple in it. -/
theorem canonical_text {s : String} {token : StreamToken} (read : parse s = .ok token) :
    ∃ canonical, token.encode = .ok canonical ∧ parse canonical = .ok token ∧
      canonical.length ≤ s.length ∧ canonical.utf8ByteSize ≤ s.utf8ByteSize ∧
      (parse canonical).bind encode = .ok canonical ∧
      ∃ layout : Layout, layout.IsWellFormed ∧ layout.text = s ∧ layout.token = token ∧
        (canonical = s ↔ (∀ field ∈ layout.fields, ¬Base64.IsPadded field) ∧
          layout.users ≠ some []) := by
  obtain ⟨layout, wellFormed, rfl, rfl⟩ := parse_eq_ok_iff.mp read
  have encodable := isWellFormed_ofToken_iff.mpr wellFormed.isEncodable
  have part := Layout.text_ofToken_sublist wellFormed
  have written := encode_eq_ok_iff.mpr ⟨encodable, rfl⟩
  have read_again := parse_of_encode_eq_ok written
  refine ⟨_, written, read_again, ?_, ?_, ?_, layout, wellFormed, rfl, rfl, ?_⟩
  · rw [← String.length_toList, ← String.length_toList]
    exact part.length_le
  · simpa [byteLength] using byteLength_le_of_sublist part
  · rw [read_again]
    exact written
  · rw [← Layout.ofToken_token_eq_iff wellFormed]
    -- Texts of layouts are equal if the layouts are.
    exact ⟨Layout.text_injective encodable wellFormed, congrArg Layout.text⟩

/-- Leading zeros and an empty user group are left out. A zero that stands alone is kept. -/
theorem canonical_text_padded :
    let token : StreamToken := ⟨[⟨⟨1⟩, 0, 63⟩, ⟨⟨2⟩, 2, 63⟩], []⟩
    parse "AB.A.A__C.AAC._*" = .ok token ∧ token.encode = .ok "B.A.__C.C._" ∧
      parse "B.A.__C.C._" = .ok token ∧ "B.A.__C.C._".length ≤ "AB.A.A__C.AAC._*".length := by
  intro token
  have read : parse "AB.A.A__C.AAC._*" = .ok token := by decide
  have written : token.encode = .ok "B.A.__C.C._" := by decide +kernel
  obtain ⟨canonical, is_written, read_again, no_longer, -⟩ := canonical_text read
  obtain rfl := Except.ok.inj (written.symm.trans is_written)
  exact ⟨read, written, read_again, no_longer⟩

end StreamToken

end ChatFeed
