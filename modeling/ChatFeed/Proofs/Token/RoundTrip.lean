import ChatFeed.Proofs.Token.Errors
import ChatFeed.Proofs.Token.Layout

/-!
# Writing tokens and reading them back

A token is written by a layout in which every field is the minimal numeral of its
number. So it has a text exactly if this layout is well formed, which depends on
the size of the numbers and on the digits of the shard ids; and the text is read
back as the token, since it is the text of a layout that stands for it.

## Main definitions

* `IsEncodable`: whether the numbers of a token fit their fields
* `Layout.ofToken`: the layout by which a token is written

## Main results

* `encode_eq_ok_iff`: the text of a token is that of its layout
* `encode_parse_round_trip`: which tokens have a text, and that it is read back
-/

namespace ChatFeed.StreamToken

/-- Whether the numbers of a group fit their fields, and no shard id but the first has the digit
whose character separates tuples. -/
structure FitsGroup (group : List ShardTuple) : Prop where
  shard : ∀ tuple ∈ group, tuple.shard.value < 64 ^ 2
  event : ∀ tuple ∈ group, tuple.event < 64 ^ 8
  signal : ∀ tuple ∈ group, tuple.signal < 64 ^ 8
  separable : ∀ tuple ∈ group.tail, 63 ∉ Nat.digits 64 tuple.shard.value

/-- Whether the numbers of a token fit their fields. -/
structure IsEncodable (token : StreamToken) : Prop where
  rooms : FitsGroup token.rooms
  users : FitsGroup token.users

theorem fitsGroup_singleton_iff {tuple : ShardTuple} : FitsGroup [tuple] ↔
    tuple.shard.value < 64 ^ 2 ∧ tuple.event < 64 ^ 8 ∧ tuple.signal < 64 ^ 8 := by
  constructor
  · rintro ⟨shard, event, signal, -⟩
    exact ⟨shard tuple List.mem_cons_self, event tuple List.mem_cons_self,
      signal tuple List.mem_cons_self⟩
  · rintro ⟨shard, event, signal⟩
    refine ⟨?_, ?_, ?_, fun _ mem => absurd mem List.not_mem_nil⟩
    · exact List.forall_mem_singleton.mpr shard
    · exact List.forall_mem_singleton.mpr event
    · exact List.forall_mem_singleton.mpr signal

/-- The minimal numerals of the numbers of a tuple. -/
def Fields.ofTuple (tuple : ShardTuple) : Fields where
  shard := Base64.numeral tuple.shard.value
  event := Base64.numeral tuple.event
  signal := Base64.numeral tuple.signal

/-- The layout with minimal numerals, and without a user group if there is nothing in it. -/
def Layout.ofToken (token : StreamToken) : Layout where
  rooms := token.rooms.map Fields.ofTuple
  users := if token.users.isEmpty then none else some (token.users.map Fields.ofTuple)

/-! ### The layout of a token -/

@[simp] theorem Fields.tuple_ofTuple (tuple : ShardTuple) :
    (Fields.ofTuple tuple).tuple = tuple := by
  simp [Fields.tuple, Fields.ofTuple, Base64.numeralValue_numeral]

@[simp] theorem Layout.token_ofToken (token : StreamToken) :
    (Layout.ofToken token).token = token := by
  obtain ⟨rooms, users⟩ := token
  have back : Fields.tuple ∘ Fields.ofTuple = id := funext Fields.tuple_ofTuple
  cases users <;> simp [Layout.token, Layout.ofToken, back]

theorem isField_numeral_iff {room n : Nat} (positive : 0 < room) :
    IsField room (Base64.numeral n) ↔ n < 64 ^ room := by
  rw [IsField, ← Base64.length_numeral_le_iff positive]
  constructor
  · rintro ⟨-, short, -⟩
    exact short
  · intro short
    exact ⟨Base64.numeral_ne_nil n, short, fun c mem => Base64.mem_alphabet_of_mem_numeral mem⟩

theorem Fields.isWellFormed_ofTuple_iff {tuple : ShardTuple} :
    (Fields.ofTuple tuple).IsWellFormed ↔
      tuple.shard.value < 64 ^ 2 ∧ tuple.event < 64 ^ 8 ∧ tuple.signal < 64 ^ 8 := by
  have index_field {n : Nat} : IsField maxIndexLength (Base64.numeral n) ↔ n < 64 ^ 8 :=
    isField_numeral_iff (by decide)
  have shard_field {n : Nat} : IsField maxShardLength (Base64.numeral n) ↔ n < 64 ^ 2 :=
    isField_numeral_iff (by decide)
  constructor
  · rintro ⟨shard, event, signal⟩
    exact ⟨shard_field.mp shard, index_field.mp event, index_field.mp signal⟩
  · rintro ⟨shard, event, signal⟩
    exact ⟨shard_field.mpr shard, index_field.mpr event, index_field.mpr signal⟩

theorem isGroup_map_ofTuple_iff {group : List ShardTuple} :
    IsGroup (group.map Fields.ofTuple) ↔ FitsGroup group := by
  constructor
  · rintro ⟨fields, separable⟩
    have fits (tuple) (mem : tuple ∈ group) :=
      Fields.isWellFormed_ofTuple_iff.mp (fields _ (List.mem_map_of_mem mem))
    refine ⟨fun t mem => (fits t mem).1, fun t mem => (fits t mem).2.1,
      fun t mem => (fits t mem).2.2, fun t mem digit => ?_⟩
    rw [← List.map_tail] at separable
    exact separable _ (List.mem_map_of_mem mem) (Base64.underscore_mem_numeral_iff.mpr digit)
  · intro fits
    constructor
    · intro fields mem
      obtain ⟨tuple, tuple_mem, rfl⟩ := List.mem_map.mp mem
      exact Fields.isWellFormed_ofTuple_iff.mpr
        ⟨fits.shard tuple tuple_mem, fits.event tuple tuple_mem, fits.signal tuple tuple_mem⟩
    · intro fields mem
      rw [← List.map_tail] at mem
      obtain ⟨tuple, tuple_mem, rfl⟩ := List.mem_map.mp mem
      exact fun digit =>
        fits.separable tuple tuple_mem (Base64.underscore_mem_numeral_iff.mp digit)

theorem isWellFormed_ofToken_iff {token : StreamToken} :
    (Layout.ofToken token).IsWellFormed ↔ token.IsEncodable := by
  constructor
  · rintro ⟨rooms, users⟩
    refine ⟨isGroup_map_ofTuple_iff.mp rooms, isGroup_map_ofTuple_iff.mp ?_⟩
    cases empty : token.users with
    | nil => exact isGroup_nil
    | cons tuple rest => exact users _ (by simp [Layout.ofToken, empty])
  · rintro ⟨rooms, users⟩
    refine ⟨isGroup_map_ofTuple_iff.mpr rooms, fun group mem => ?_⟩
    cases empty : token.users with
    | nil => simp [Layout.ofToken, empty] at mem
    | cons tuple rest =>
      obtain rfl : token.users.map Fields.ofTuple = group := by
        simpa [Layout.ofToken, empty] using mem
      exact isGroup_map_ofTuple_iff.mpr users

/-! ### Writing -/

theorem encodeShard_eq_ok_iff {leading : Bool} {shard : ShardId} {text : List Char} :
    encodeShard leading shard = .ok text ↔
      IsField maxShardLength (Base64.numeral shard.value) ∧
        (leading = false → tupleSeparator ∉ Base64.numeral shard.value) ∧
        Base64.numeral shard.value = text := by
  have field : IsField maxShardLength (Base64.numeral shard.value) ↔
      shard.value < 64 ^ maxShardLength := isField_numeral_iff (by decide)
  rw [← Base64.length_numeral_le_iff (by decide)] at field
  rw [encodeShard, field]
  split
  next refused =>
    refine iff_of_false (by simp) ?_
    rintro ⟨short, free, -⟩
    -- It is refused for its length or for a separator in it, and either is excluded.
    rcases refused with long | mixed
    · omega
    · cases leading <;> simp_all
  next allowed =>
    rw [not_or, Nat.not_lt] at allowed
    cases leading <;> simp_all

theorem encodeIndex_eq_ok_iff {index : Nat} {text : List Char} :
    encodeIndex index = .ok text ↔
      IsField maxIndexLength (Base64.numeral index) ∧ Base64.numeral index = text := by
  have field : IsField maxIndexLength (Base64.numeral index) ↔ index < 64 ^ maxIndexLength :=
    isField_numeral_iff (by decide)
  rw [← Base64.length_numeral_le_iff (by decide)] at field
  rw [encodeIndex, field]
  split <;> simp_all

/-- A tuple is written by its fields, if they are well formed and, after another tuple, the shard
field can be told from the separator. -/
theorem encodeTuple_eq_ok_iff {leading : Bool} {tuple : ShardTuple} {text : List Char} :
    encodeTuple leading tuple = .ok text ↔
      (Fields.ofTuple tuple).IsWellFormed ∧
        (leading = false → tupleSeparator ∉ (Fields.ofTuple tuple).shard) ∧
        (Fields.ofTuple tuple).text = text := by
  unfold encodeTuple
  constructor
  · intro written
    split at written
    next => simp at written
    next shard shard_written =>
    split at written
    next => simp at written
    next event event_written =>
    split at written
    next => simp at written
    next signal signal_written =>
    obtain ⟨shard_field, free, rfl⟩ := encodeShard_eq_ok_iff.mp shard_written
    obtain ⟨event_field, rfl⟩ := encodeIndex_eq_ok_iff.mp event_written
    obtain ⟨signal_field, rfl⟩ := encodeIndex_eq_ok_iff.mp signal_written
    exact ⟨⟨shard_field, event_field, signal_field⟩, free, Except.ok.inj written⟩
  · rintro ⟨⟨shard_field, event_field, signal_field⟩, free, rfl⟩
    rw [encodeShard_eq_ok_iff.mpr ⟨shard_field, free, rfl⟩,
      encodeIndex_eq_ok_iff.mpr ⟨event_field, rfl⟩, encodeIndex_eq_ok_iff.mpr ⟨signal_field, rfl⟩]
    rfl

theorem encodeFollowing_eq_ok_iff {tuples : List ShardTuple} {text : List Char} :
    encodeFollowing tuples = .ok text ↔
      (∀ tuple ∈ tuples, (Fields.ofTuple tuple).IsWellFormed ∧
        tupleSeparator ∉ (Fields.ofTuple tuple).shard) ∧
      (tuples.flatMap fun tuple => tupleSeparator :: (Fields.ofTuple tuple).text) = text := by
  -- None of these tuples is the first, so every shard field has to be free of the separator.
  induction tuples generalizing text with
  | nil => simp [encodeFollowing]
  | cons tuple rest ih =>
    rw [encodeFollowing, List.forall_mem_cons, List.flatMap_cons]
    constructor
    · intro written
      split at written
      next => simp at written
      next first first_written =>
      obtain ⟨others, others_written, rfl⟩ := map_eq_ok_iff.mp written
      obtain ⟨wellFormed, free, rfl⟩ := encodeTuple_eq_ok_iff.mp first_written
      obtain ⟨later, rfl⟩ := ih.mp others_written
      exact ⟨⟨⟨wellFormed, free rfl⟩, later⟩, rfl⟩
    · rintro ⟨⟨⟨wellFormed, free⟩, later⟩, rfl⟩
      rw [encodeTuple_eq_ok_iff.mpr ⟨wellFormed, fun _ => free, rfl⟩, ih.mpr ⟨later, rfl⟩]
      rfl

theorem groupText_cons_eq_flatMap (first : Fields) (rest : List Fields) :
    groupText (first :: rest) =
      first.text ++ rest.flatMap fun fields => tupleSeparator :: fields.text := by
  induction rest generalizing first with
  | nil => simp [groupText]
  | cons next rest ih =>
    have tail := ih next
    rw [groupText, List.map_cons] at tail ⊢
    rw [List.map_cons, List.intercalate_cons_cons, tail]
    simp

theorem encodeGroup_eq_ok_iff {tuples : List ShardTuple} {text : List Char} :
    encodeGroup tuples = .ok text ↔
      IsGroup (tuples.map Fields.ofTuple) ∧ groupText (tuples.map Fields.ofTuple) = text := by
  cases tuples with
  | nil => simp [encodeGroup, groupText]
  | cons tuple rest =>
    rw [List.map_cons, groupText_cons_eq_flatMap, List.flatMap_map, encodeGroup]
    constructor
    · intro written
      split at written
      next => simp at written
      next first first_written =>
      obtain ⟨others, others_written, rfl⟩ := map_eq_ok_iff.mp written
      obtain ⟨wellFormed, -, rfl⟩ := encodeTuple_eq_ok_iff.mp first_written
      obtain ⟨later, rfl⟩ := encodeFollowing_eq_ok_iff.mp others_written
      refine ⟨⟨List.forall_mem_cons.mpr ⟨wellFormed, ?_⟩, ?_⟩, rfl⟩
      · exact List.forall_mem_map.mpr fun t mem => (later t mem).1
      · exact List.forall_mem_map.mpr fun t mem => (later t mem).2
    · rintro ⟨⟨wellFormed, separable⟩, rfl⟩
      obtain ⟨first_wellFormed, later_wellFormed⟩ := List.forall_mem_cons.mp wellFormed
      have following := encodeFollowing_eq_ok_iff.mpr ⟨fun t mem =>
        ⟨later_wellFormed _ (List.mem_map_of_mem mem), separable _ (List.mem_map_of_mem mem)⟩, rfl⟩
      rw [encodeTuple_eq_ok_iff.mpr ⟨first_wellFormed, by simp, rfl⟩, following]
      rfl

/-- A token is written by its layout, if that is well formed. -/
theorem encode_eq_ok_iff {token : StreamToken} {s : String} :
    token.encode = .ok s ↔
      (Layout.ofToken token).IsWellFormed ∧ (Layout.ofToken token).text = s := by
  unfold encode
  constructor
  · intro written
    split at written
    next => simp at written
    next rooms rooms_written =>
    obtain ⟨rooms_isGroup, rfl⟩ := encodeGroup_eq_ok_iff.mp rooms_written
    -- An empty user group is left out, with the separator before it.
    split at written
    next empty =>
      refine ⟨⟨rooms_isGroup, by simp [Layout.ofToken, empty]⟩, ?_⟩
      rw [← Except.ok.inj written]
      simp [Layout.text, Layout.ofToken, empty]
    next nonempty =>
      obtain ⟨users, users_written, rfl⟩ := map_eq_ok_iff.mp written
      obtain ⟨users_isGroup, rfl⟩ := encodeGroup_eq_ok_iff.mp users_written
      refine ⟨⟨rooms_isGroup, by simpa [Layout.ofToken, nonempty] using users_isGroup⟩, ?_⟩
      simp [Layout.text, Layout.ofToken, nonempty]
  · rintro ⟨⟨rooms_isGroup, users_isGroup⟩, rfl⟩
    rw [encodeGroup_eq_ok_iff.mpr ⟨rooms_isGroup, rfl⟩]
    by_cases empty : token.users.isEmpty
    · simp [Layout.text, Layout.ofToken, empty]
    · have written := encodeGroup_eq_ok_iff.mpr
        ⟨users_isGroup (token.users.map Fields.ofTuple) (by simp [Layout.ofToken, empty]), rfl⟩
      simp [Layout.text, Layout.ofToken, empty, written, Except.map]

/-- The text of a token is read back as the token. -/
theorem parse_of_encode_eq_ok {token : StreamToken} {s : String} (written : token.encode = .ok s) :
    parse s = .ok token := by
  obtain ⟨wellFormed, text⟩ := encode_eq_ok_iff.mp written
  exact parse_eq_ok_iff.mpr ⟨_, wellFormed, text, Layout.token_ofToken token⟩

theorem exists_encode_iff {token : StreamToken} :
    (∃ s, token.encode = .ok s) ↔ token.IsEncodable := by
  simp only [encode_eq_ok_iff, isWellFormed_ofToken_iff]
  exact ⟨fun ⟨_, encodable, _⟩ => encodable, fun encodable => ⟨_, encodable, rfl⟩⟩

/-- A token has a text exactly if its numbers fit, and the text is read back as the token. Writing
and reading fail with errors of their own. -/
theorem encode_parse_round_trip (token : StreamToken) :
    ((∃ s, token.encode = .ok s) ↔ token.IsEncodable) ∧
    (∀ s, token.encode = .ok s → parse s = .ok token) ∧
    (∀ e, token.encode = .error e → e.isParseError = false) ∧
    (∀ s e, parse s = .error e → e.isParseError = true) :=
  ⟨exists_encode_iff, fun _ => parse_of_encode_eq_ok, fun _ => not_isParseError_of_encode,
    fun _ _ => isParseError_of_parse⟩

end ChatFeed.StreamToken
