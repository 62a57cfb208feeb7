import ChatFeed.Proofs.Outcome
import ChatFeed.Proofs.Token.Alphabet
import ChatFeed.Proofs.Token.Cutting

/-!
# The grammar of groups

A group of a token is empty or consists of tuples of three fields, with a dot
between the fields of a tuple and `_` between two tuples. A field is a numeral of
limited length. As `_` is also a digit, no shard field but the first of a group
may hold it.

What stands between two dots of a group is then an event field, or a signal field
with the shard field of the next tuple. These chunks are what the parser sees.

## Main definitions

* `Fields`: the three fields of a tuple, as they are written
* `IsGroup`, `groupText`: which fields make up a group, and its text
* `chunks`: what stands between the dots of a group

## Main results

* `parseTuple_eq_ok_iff`: which fields are read as which tuple
* `parseGroup_eq_ok_iff`: a text is read as a group if it is the text of one
* `groupText_injective`: different groups have different texts
-/

namespace ChatFeed.StreamToken

/-- A numeral of at most `room` characters. -/
def IsField (room : Nat) (field : List Char) : Prop :=
  field ≠ [] ∧ field.length ≤ room ∧ ∀ c ∈ field, c ∈ Base64.alphabet

/-- The fields of a tuple, as they are written. -/
structure Fields where
  shard : List Char
  event : List Char
  signal : List Char
deriving DecidableEq

namespace Fields

/-- Whether each field is a numeral of the length allowed there. -/
structure IsWellFormed (fields : Fields) : Prop where
  shard : IsField maxShardLength fields.shard
  event : IsField maxIndexLength fields.event
  signal : IsField maxIndexLength fields.signal

/-- The text of a tuple. -/
def text (fields : Fields) : List Char :=
  fields.shard ++ fieldSeparator :: fields.event ++ fieldSeparator :: fields.signal

/-- The tuple that the fields stand for. -/
def tuple (fields : Fields) : ShardTuple where
  shard := ⟨Base64.numeralValue fields.shard⟩
  event := Base64.numeralValue fields.event
  signal := Base64.numeralValue fields.signal

end Fields

/-- The text of a group. -/
def groupText (group : List Fields) : List Char :=
  [tupleSeparator].intercalate (group.map Fields.text)

/-- Whether fields make up a group: each is a numeral, and no shard field but the first holds the
character that separates tuples. -/
structure IsGroup (group : List Fields) : Prop where
  fields : ∀ fields ∈ group, fields.IsWellFormed
  separable : ∀ fields ∈ group.tail, tupleSeparator ∉ fields.shard

/-! ### Fields -/

theorem byteLength_cons (c : Char) (cs : List Char) :
    byteLength (c :: cs) = c.utf8Size + byteLength cs := by
  rw [byteLength, ← List.singleton_append, String.ofList_append, String.utf8ByteSize_append,
    ← String.singleton_eq_ofList, String.utf8ByteSize_singleton, byteLength]

/-- A text over the alphabet has as many bytes as characters. -/
theorem byteLength_eq_length {field : List Char} (digits : ∀ c ∈ field, c ∈ Base64.alphabet) :
    byteLength field = field.length := by
  induction field with
  | nil => rfl
  | cons c rest ih =>
    obtain ⟨digit, rest_digits⟩ := List.forall_mem_cons.mp digits
    rw [byteLength_cons, Base64.utf8Size_of_mem_alphabet digit, ih rest_digits, List.length_cons,
      Nat.add_comm]

theorem valueOf_eq_ofDigits (digits : List Nat) :
    Base64.valueOf digits = Nat.ofDigits 64 digits.reverse := by
  induction digits using List.reverseRecOn with
  | nil => rfl
  | append_singleton front digit ih =>
    rw [Base64.valueOf_append_singleton, ih, List.reverse_append, List.reverse_singleton,
      List.singleton_append, Nat.ofDigits_cons]
    omega

theorem parseDigits_eq_ok_iff {position : Nat} {field : List Char} {digits : List Nat} :
    parseDigits position field = .ok digits ↔
      (∀ c ∈ field, c ∈ Base64.alphabet) ∧
        field.map (fun c => Base64.alphabet.idxOf c) = digits := by
  induction field generalizing position digits with
  | nil => simp [parseDigits]
  | cons c rest ih =>
    rw [parseDigits, List.forall_mem_cons, List.map_cons]
    cases read : Base64.digitOf? c with
    | none =>
      have foreign := Base64.digitOf?_eq_none_iff.mp read
      exact iff_of_false (by simp) fun covered => foreign covered.1.1
    | some digit =>
      obtain ⟨mem, place⟩ := Base64.digitOf?_eq_some_iff.mp read
      simp only [map_eq_ok_iff, ih, mem, place, true_and]
      constructor
      · rintro ⟨others, ⟨rest_mem, rfl⟩, rfl⟩
        exact ⟨rest_mem, rfl⟩
      · rintro ⟨rest_mem, rfl⟩
        exact ⟨_, ⟨rest_mem, rfl⟩, rfl⟩

theorem parseValue_eq_ok_iff {field : List Char} {value : Nat} :
    parseValue field = .ok value ↔
      (∀ c ∈ field, c ∈ Base64.alphabet) ∧ Base64.numeralValue field = value := by
  rw [parseValue, map_eq_ok_iff]
  simp only [parseDigits_eq_ok_iff, valueOf_eq_ofDigits, Base64.numeralValue, List.map_reverse]
  constructor
  · rintro ⟨digits, ⟨mem, rfl⟩, rfl⟩
    exact ⟨mem, rfl⟩
  · rintro ⟨mem, rfl⟩
    exact ⟨_, ⟨mem, rfl⟩, rfl⟩

/-- Only a text over the alphabet can be read, and then its length in bytes is what it seems. -/
theorem length_check_iff {room : Nat} {field : List Char} {value : Nat} :
    (¬(byteLength field = 0 ∨ room < byteLength field) ∧ parseValue field = .ok value) ↔
      IsField room field ∧ Base64.numeralValue field = value := by
  rw [parseValue_eq_ok_iff, IsField]
  constructor
  · rintro ⟨fits, digits, read⟩
    rw [byteLength_eq_length digits, not_or, List.length_eq_zero_iff, Nat.not_lt] at fits
    exact ⟨⟨fits.1, fits.2, digits⟩, read⟩
  · rintro ⟨⟨nonempty, short, digits⟩, read⟩
    rw [byteLength_eq_length digits, not_or, List.length_eq_zero_iff, Nat.not_lt]
    exact ⟨⟨nonempty, short⟩, digits, read⟩

theorem parseShardId_eq_ok_iff {field : List Char} {shard : ShardId} :
    parseShardId field = .ok shard ↔
      IsField maxShardLength field ∧ ⟨Base64.numeralValue field⟩ = shard := by
  obtain ⟨value⟩ := shard
  rw [ShardId.mk.injEq, ← length_check_iff, parseShardId]
  split
  next unfit => exact iff_of_false (by simp) fun covered => covered.1 unfit
  next fits => simp [fits]

theorem parseIndex_eq_ok_iff {field : List Char} {index : Nat} :
    parseIndex field = .ok index ↔
      IsField maxIndexLength field ∧ Base64.numeralValue field = index := by
  rw [← length_check_iff, parseIndex]
  split
  next unfit => exact iff_of_false (by simp) fun covered => covered.1 unfit
  next fits => simp [fits]

/-- A tuple is read from three fields, in whatever order they are looked at. -/
theorem parseTuple_eq_ok_iff {fields : Fields} {tuple : ShardTuple} :
    parseTuple fields.shard fields.event fields.signal = .ok tuple ↔
      fields.IsWellFormed ∧ fields.tuple = tuple := by
  unfold parseTuple
  constructor
  · intro read
    split at read
    next => simp at read
    next shard shard_read =>
    split at read
    next => simp at read
    next event event_read =>
    split at read
    next => simp at read
    next signal signal_read =>
    obtain ⟨shard_field, shard_value⟩ := parseShardId_eq_ok_iff.mp shard_read
    obtain ⟨event_field, event_value⟩ := parseIndex_eq_ok_iff.mp event_read
    obtain ⟨signal_field, signal_value⟩ := parseIndex_eq_ok_iff.mp signal_read
    refine ⟨⟨shard_field, event_field, signal_field⟩, ?_⟩
    rw [Fields.tuple, shard_value, event_value, signal_value]
    exact Except.ok.inj read
  · rintro ⟨wellFormed, rfl⟩
    rw [parseShardId_eq_ok_iff.mpr ⟨wellFormed.shard, rfl⟩,
      parseIndex_eq_ok_iff.mpr ⟨wellFormed.event, rfl⟩,
      parseIndex_eq_ok_iff.mpr ⟨wellFormed.signal, rfl⟩]
    rfl

theorem IsField.notMem {room : Nat} {field : List Char} {c : Char} (isField : IsField room field)
    (foreign : c ∉ Base64.alphabet) : c ∉ field :=
  fun mem => foreign (isField.2.2 c mem)

/-! ### Groups -/

@[simp] theorem isGroup_nil : IsGroup [] := ⟨by simp, by simp⟩

theorem isGroup_singleton_iff {fields : Fields} : IsGroup [fields] ↔ fields.IsWellFormed :=
  ⟨fun group => group.fields fields (by simp), fun wellFormed => ⟨by simpa, by simp⟩⟩

theorem isGroup_cons_cons_iff {fields next : Fields} {rest : List Fields} :
    IsGroup (fields :: next :: rest) ↔
      fields.IsWellFormed ∧ tupleSeparator ∉ next.shard ∧ IsGroup (next :: rest) := by
  constructor
  · rintro ⟨wellFormed, separable⟩
    rw [List.forall_mem_cons] at wellFormed
    rw [List.tail_cons, List.forall_mem_cons] at separable
    exact ⟨wellFormed.1, separable.1, wellFormed.2, separable.2⟩
  · rintro ⟨first, free, wellFormed, separable⟩
    exact ⟨List.forall_mem_cons.mpr ⟨first, wellFormed⟩, List.forall_mem_cons.mpr ⟨free, separable⟩⟩

/-- What stands between the dots of a group after the first shard field, two by two: an event field,
and a signal field with the shard field of the next tuple. -/
def chunks : List Fields → List (List Char × List Char)
  | [] => []
  | [fields] => [(fields.event, fields.signal)]
  | fields :: next :: rest =>
    (fields.event, fields.signal ++ tupleSeparator :: next.shard) :: chunks (next :: rest)

/-- The chunks of a group, one after the other. -/
def chunkParts (group : List Fields) : List (List Char) :=
  (chunks group).flatMap fun chunk => [chunk.1, chunk.2]

theorem chunks_cons_ne_nil (fields : Fields) (rest : List Fields) :
    chunks (fields :: rest) ≠ [] := by
  cases rest <;> simp [chunks]

/-- The text of a group, cut at its dots. -/
theorem groupText_cons (fields : Fields) (rest : List Fields) :
    groupText (fields :: rest) =
      joined fieldSeparator fields.shard (chunkParts (fields :: rest)) := by
  induction rest generalizing fields with
  | nil => simp [groupText, chunkParts, chunks, joined, Fields.text]
  | cons next rest ih =>
    have tail := ih next
    rw [groupText, List.map_cons] at tail ⊢
    rw [List.map_cons, List.intercalate_cons_cons, tail]
    simp [joined, chunkParts, chunks, Fields.text]

theorem fieldSeparator_notMem_chunkParts {group : List Fields} (isGroup : IsGroup group) :
    ∀ part ∈ chunkParts group, fieldSeparator ∉ part := by
  have foreign : fieldSeparator ∉ Base64.alphabet := by decide
  have distinct : fieldSeparator ≠ tupleSeparator := by decide
  -- A chunk has the separator of tuples in it, and characters of fields besides.
  fun_induction chunks group with
  | case1 => simp [chunkParts, chunks]
  | case2 fields =>
    have wellFormed := isGroup_singleton_iff.mp isGroup
    simp [chunkParts, chunks, wellFormed.event.notMem foreign, wellFormed.signal.notMem foreign]
  | case3 fields next rest ih =>
    obtain ⟨wellFormed, -, tail⟩ := isGroup_cons_cons_iff.mp isGroup
    have next_free := (tail.fields next (by simp)).shard.notMem foreign
    have later := ih tail
    rw [chunkParts] at later ⊢
    rw [chunks, List.flatMap_cons, List.forall_mem_append]
    refine ⟨?_, later⟩
    simp [wellFormed.event.notMem foreign, wellFormed.signal.notMem foreign, next_free, distinct]

/-- Cutting the text of a group at its dots gives the first shard field and the chunks. -/
theorem pieces_groupText {fields : Fields} {rest : List Fields}
    (isGroup : IsGroup (fields :: rest)) :
    pieces fieldSeparator (groupText (fields :: rest)) =
      (fields.shard, chunkParts (fields :: rest)) := by
  have first_free := (isGroup.fields fields (by simp)).shard.notMem
    (show fieldSeparator ∉ Base64.alphabet by decide)
  rw [groupText_cons]
  exact pieces_joined first_free (fieldSeparator_notMem_chunkParts isGroup)

theorem groupText_cons_ne_nil {fields : Fields} {rest : List Fields}
    (isGroup : IsGroup (fields :: rest)) : groupText (fields :: rest) ≠ [] := by
  have nonempty := (isGroup.fields fields (by simp)).shard.1
  rw [groupText_cons, joined]
  exact List.append_ne_nil_of_left_ne_nil nonempty _

/-- A single tuple is read from a single chunk. -/
theorem parseTuples_singleton_eq_ok_iff {group : List Char} {fields : Fields}
    {tuples : List ShardTuple} :
    parseTuples group fields.shard [(fields.event, fields.signal)] = .ok tuples ↔
      fields.IsWellFormed ∧ [fields.tuple] = tuples := by
  rw [parseTuples, map_eq_ok_iff]
  simp only [parseTuple_eq_ok_iff]
  constructor
  · rintro ⟨tuple, ⟨wellFormed, rfl⟩, rfl⟩
    exact ⟨wellFormed, rfl⟩
  · rintro ⟨wellFormed, rfl⟩
    exact ⟨_, ⟨wellFormed, rfl⟩, rfl⟩

/-- Of several chunks, the first is cut at its last separator into the end of the first tuple and
the shard field of the next. -/
theorem parseTuples_cons_cons_eq_ok_iff {group shard event tail : List Char}
    {next : List Char × List Char} {pairs : List (List Char × List Char)}
    {tuples : List ShardTuple} :
    parseTuples group shard ((event, tail) :: next :: pairs) = .ok tuples ↔
      ∃ signal nextShard others, signal ++ tupleSeparator :: nextShard = tail ∧
        tupleSeparator ∉ nextShard ∧ (Fields.mk shard event signal).IsWellFormed ∧
        parseTuples group nextShard (next :: pairs) = .ok others ∧
        (Fields.mk shard event signal).tuple :: others = tuples := by
  rw [parseTuples.eq_3 _ _ _ _ _ (by simp)]
  constructor
  · intro read
    split at read
    next => simp at read
    next signal nextShard cut =>
    obtain ⟨joined, free⟩ := splitLast?_eq_some_iff.mp cut
    split at read
    next => simp at read
    next tuple tuple_read =>
    obtain ⟨others, others_read, rfl⟩ := map_eq_ok_iff.mp read
    obtain ⟨wellFormed, rfl⟩ :=
      (@parseTuple_eq_ok_iff ⟨shard, event, signal⟩ tuple).mp tuple_read
    exact ⟨signal, nextShard, others, joined, free, wellFormed, others_read, rfl⟩
  · rintro ⟨signal, nextShard, others, rfl, free, wellFormed, others_read, rfl⟩
    have tuple_read := parseTuple_eq_ok_iff.mpr ⟨wellFormed, rfl⟩
    rw [splitLast?_append_cons free signal]
    simp only at tuple_read ⊢
    rw [tuple_read, others_read]
    rfl

/-- Tuples are read from the chunks of a group as its fields. -/
theorem parseTuples_eq_ok_iff {group shard : List Char} {pairs : List (List Char × List Char)}
    {tuples : List ShardTuple} (some_pair : pairs ≠ []) :
    parseTuples group shard pairs = .ok tuples ↔
      ∃ fields rest, IsGroup (fields :: rest) ∧ fields.shard = shard ∧
        chunks (fields :: rest) = pairs ∧ (fields :: rest).map Fields.tuple = tuples := by
  -- By induction on the chunks; the shard field of a tuple comes from the chunk before it.
  induction pairs generalizing shard tuples with
  | nil => exact absurd rfl some_pair
  | cons pair pairs ih =>
    obtain ⟨event, tail⟩ := pair
    cases pairs with
    | nil =>
      constructor
      · intro read
        obtain ⟨wellFormed, rfl⟩ :=
          (@parseTuples_singleton_eq_ok_iff group ⟨shard, event, tail⟩ tuples).mp read
        exact ⟨_, [], isGroup_singleton_iff.mpr wellFormed, rfl, rfl, rfl⟩
      · rintro ⟨fields, rest, isGroup, rfl, cut, rfl⟩
        cases rest with
        | nil =>
          obtain ⟨rfl, rfl⟩ := Prod.mk.inj (List.singleton_inj.mp cut)
          exact parseTuples_singleton_eq_ok_iff.mpr ⟨isGroup_singleton_iff.mp isGroup, rfl⟩
        | cons next rest =>
          exact absurd (List.cons_eq_cons.mp cut).2 (chunks_cons_ne_nil next rest)
    | cons next pairs =>
      have later (shard tuples) := @ih shard tuples (by simp)
      rw [parseTuples_cons_cons_eq_ok_iff]
      simp only [later]
      constructor
      · rintro ⟨signal, _, _, rfl, free, wellFormed, ⟨following, rest, isGroup, rfl, cut, rfl⟩, rfl⟩
        refine ⟨⟨shard, event, signal⟩, following :: rest, ?_, rfl, ?_, rfl⟩
        · exact isGroup_cons_cons_iff.mpr ⟨wellFormed, free, isGroup⟩
        · rw [chunks, cut]
      · rintro ⟨fields, rest, isGroup, rfl, cut, rfl⟩
        cases rest with
        | nil => simp [chunks] at cut
        | cons following rest =>
          obtain ⟨wellFormed, free, tail_isGroup⟩ := isGroup_cons_cons_iff.mp isGroup
          obtain ⟨first, others⟩ := List.cons_eq_cons.mp cut
          obtain ⟨rfl, rfl⟩ := Prod.mk.inj first
          exact ⟨fields.signal, following.shard, _, rfl, free, wellFormed,
            ⟨following, rest, tail_isGroup, rfl, others, rfl⟩, rfl⟩

/-- A text is read as a group if it is the text of one. -/
theorem parseGroup_eq_ok_iff {text : List Char} {tuples : List ShardTuple} :
    parseGroup text = .ok tuples ↔
      ∃ group, IsGroup group ∧ groupText group = text ∧ group.map Fields.tuple = tuples := by
  constructor
  · intro read
    unfold parseGroup at read
    split at read
    next empty =>
      rw [List.isEmpty_iff.mp empty]
      exact ⟨[], isGroup_nil, rfl, Except.ok.inj read⟩
    next nonempty =>
    generalize cut : pieces fieldSeparator text = parts at read
    obtain ⟨shard, others⟩ := parts
    simp only at read
    split at read
    next => simp at read
    next => simp at read
    next pairs some_pair paired =>
    obtain ⟨fields, rest, isGroup, rfl, rfl, rfl⟩ := (parseTuples_eq_ok_iff some_pair).mp read
    -- The chunks joined by dots are the text that was cut, and they are the text of the group.
    have parts := pairs?_eq_some_iff.mp paired
    have whole := (pieces_eq_iff.mp cut).1
    rw [← parts] at whole
    exact ⟨fields :: rest, isGroup, (groupText_cons fields rest).trans whole, rfl⟩
  · rintro ⟨group, isGroup, rfl, rfl⟩
    cases group with
    | nil => rfl
    | cons fields rest =>
      have some_pair := chunks_cons_ne_nil fields rest
      have paired : pairs? (chunkParts (fields :: rest)) = some (chunks (fields :: rest)) :=
        pairs?_eq_some_iff.mpr rfl
      have read : parseTuples (groupText (fields :: rest)) fields.shard (chunks (fields :: rest)) =
          .ok ((fields :: rest).map Fields.tuple) :=
        (parseTuples_eq_ok_iff some_pair).mpr ⟨fields, rest, isGroup, rfl, rfl, rfl⟩
      rw [parseGroup, if_neg (by simpa using groupText_cons_ne_nil isGroup),
        pieces_groupText isGroup]
      simp only [paired]
      exact read

/-- The chunks of a group leave open only its first shard field. -/
theorem chunks_injective {group group' : List Fields} (isGroup : IsGroup group)
    (isGroup' : IsGroup group')
    (same_shard : group.head?.map (·.shard) = group'.head?.map (·.shard))
    (same : chunks group = chunks group') : group = group' := by
  -- Both groups have as many tuples as there are chunks, so they are gone through together.
  induction group generalizing group' with
  | nil =>
    cases group' with
    | nil => rfl
    | cons fields' rest' => simp at same_shard
  | cons fields rest ih =>
    cases group' with
    | nil => simp at same_shard
    | cons fields' rest' =>
      obtain ⟨shard, event, signal⟩ := fields
      obtain ⟨shard', event', signal'⟩ := fields'
      obtain rfl : shard = shard' := by simpa using same_shard
      cases rest with
      | nil =>
        cases rest' with
        | nil => simp_all [chunks]
        | cons next' rest' =>
          exact absurd (List.cons_eq_cons.mp same).2.symm (chunks_cons_ne_nil _ _)
      | cons next rest =>
        cases rest' with
        | nil => exact absurd (List.cons_eq_cons.mp same).2 (chunks_cons_ne_nil _ _)
        | cons next' rest' =>
          obtain ⟨-, free, tail⟩ := isGroup_cons_cons_iff.mp isGroup
          obtain ⟨-, free', tail'⟩ := isGroup_cons_cons_iff.mp isGroup'
          obtain ⟨first, others⟩ := List.cons_eq_cons.mp same
          obtain ⟨rfl, joined⟩ := Prod.mk.inj first
          -- Both shard fields are what follows the last separator of one chunk.
          have cut := splitLast?_append_cons free signal
          simp only at joined
          rw [joined, splitLast?_append_cons free' signal'] at cut
          obtain ⟨rfl, next_shard⟩ := Prod.mk.inj (Option.some.inj cut)
          rw [ih tail tail' (congrArg some next_shard.symm) others]

/-- Different groups have different texts. -/
theorem groupText_injective {group group' : List Fields} (isGroup : IsGroup group)
    (isGroup' : IsGroup group') (same : groupText group = groupText group') : group = group' := by
  cases group with
  | nil =>
    cases group' with
    | nil => rfl
    | cons fields' rest' => exact absurd same.symm (groupText_cons_ne_nil isGroup')
  | cons fields rest =>
    cases group' with
    | nil => exact absurd same (groupText_cons_ne_nil isGroup)
    | cons fields' rest' =>
      have cut := pieces_groupText isGroup
      rw [same, pieces_groupText isGroup'] at cut
      obtain ⟨same_shard, same_parts⟩ := Prod.mk.inj cut
      have paired := pairs?_eq_some_iff.mpr (show chunkParts (fields :: rest) = _ from rfl)
      rw [← same_parts, pairs?_eq_some_iff.mpr (show chunkParts (fields' :: rest') = _ from rfl)]
        at paired
      exact chunks_injective isGroup isGroup' (congrArg some same_shard.symm)
        (Option.some.inj paired).symm

end ChatFeed.StreamToken
