import ChatFeed.Proofs.Token.Grammar

/-!
# Layouts of tokens

A token is a room group, optionally followed by `*` and a user group. A layout is
a way to cut a text by this grammar.

The grammar as such is ambiguous, since a separator may be taken for a digit, but
the condition on shard fields leaves one layout at most: the chunks between the
dots of a group are fixed, and each of them is cut at its last `_`.

## Main definitions

* `Layout`: the fields of the room group and of the user group
* `Layout.IsWellFormed`, `Layout.text`, `Layout.token`: what a layout says

## Main results

* `parse_eq_ok_iff`: a text is read as the token that a layout of it stands for
* `Layout.text_injective`: different layouts have different texts
* `parse_iff_layout_and_unique`: the parser accepts the grammar, unambiguously
-/

namespace ChatFeed.StreamToken

/-- A way to cut a text into a room group and, after a separator, a user group if there is one. -/
structure Layout where
  rooms : List Fields
  users : Option (List Fields)
deriving DecidableEq

namespace Layout

/-- Whether both groups are groups. -/
structure IsWellFormed (layout : Layout) : Prop where
  rooms : IsGroup layout.rooms
  users : ∀ group ∈ layout.users, IsGroup group

/-- The text that is cut in this way. -/
def text (layout : Layout) : String :=
  String.ofList (groupText layout.rooms ++
    match layout.users with
    | none => []
    | some group => groupSeparator :: groupText group)

/-- The token that the fields stand for, tuple by tuple. -/
def token (layout : Layout) : StreamToken where
  rooms := layout.rooms.map Fields.tuple
  users := (layout.users.getD []).map Fields.tuple

/-- The text of a layout, cut at its group separators. -/
theorem toList_text (layout : Layout) :
    layout.text.toList =
      joined groupSeparator (groupText layout.rooms) (layout.users.toList.map groupText) := by
  cases users : layout.users <;> simp [text, joined, users]

end Layout

theorem groupSeparator_notMem_groupText {group : List Fields} (isGroup : IsGroup group) :
    groupSeparator ∉ groupText group := by
  have foreign : groupSeparator ∉ Base64.alphabet := by decide
  have fieldSeparator_ne : groupSeparator ≠ fieldSeparator := by decide
  have tupleSeparator_ne : groupSeparator ≠ tupleSeparator := by decide
  have tuple_free {fields : Fields} (wellFormed : fields.IsWellFormed) :
      groupSeparator ∉ fields.text := by
    simp [Fields.text, wellFormed.shard.notMem foreign, wellFormed.event.notMem foreign,
      wellFormed.signal.notMem foreign, fieldSeparator_ne]
  induction group with
  | nil => simp [groupText]
  | cons fields rest ih =>
    cases rest with
    | nil => simpa [groupText] using tuple_free (isGroup_singleton_iff.mp isGroup)
    | cons next rest =>
      obtain ⟨wellFormed, -, tail⟩ := isGroup_cons_cons_iff.mp isGroup
      have later := ih tail
      rw [groupText, List.map_cons] at later ⊢
      rw [List.map_cons, List.intercalate_cons_cons]
      simp [tuple_free wellFormed, tupleSeparator_ne, later]

theorem Layout.IsWellFormed.pieces_text {layout : Layout} (wellFormed : layout.IsWellFormed) :
    pieces groupSeparator layout.text.toList =
      (groupText layout.rooms, layout.users.toList.map groupText) := by
  rw [Layout.toList_text]
  refine pieces_joined (groupSeparator_notMem_groupText wellFormed.rooms) ?_
  intro part mem
  obtain ⟨group, group_mem, rfl⟩ := List.mem_map.mp mem
  exact groupSeparator_notMem_groupText (wellFormed.users group (by simpa using group_mem))

/-- A text is read as the token that a layout of it stands for, and only so. -/
theorem parse_eq_ok_iff {s : String} {token : StreamToken} :
    parse s = .ok token ↔
      ∃ layout : Layout, layout.IsWellFormed ∧ layout.text = s ∧ layout.token = token := by
  constructor
  · intro read
    -- At most one separator is read: the parser looks at the first piece and one more.
    unfold parse at read
    generalize cut : pieces groupSeparator s.toList = parts at read
    obtain ⟨rooms, others⟩ := parts
    have whole := (pieces_eq_iff.mp cut).1
    simp only at read
    split at read
    next => simp at read
    next roomTuples rooms_read =>
    obtain ⟨roomGroup, isGroup, rfl, rfl⟩ := parseGroup_eq_ok_iff.mp rooms_read
    split at read
    next =>
      refine ⟨⟨roomGroup, none⟩, ⟨isGroup, by simp⟩, String.toList_inj.mp ?_, Except.ok.inj read⟩
      rw [Layout.toList_text]
      exact whole
    next users more =>
    split at read
    next => simp at read
    next userTuples users_read =>
    obtain ⟨userGroup, users_isGroup, rfl, rfl⟩ := parseGroup_eq_ok_iff.mp users_read
    split at read
    next last =>
      obtain rfl := List.isEmpty_iff.mp last
      refine ⟨⟨roomGroup, some userGroup⟩, ⟨isGroup, by simpa using users_isGroup⟩,
        String.toList_inj.mp ?_, Except.ok.inj read⟩
      rw [Layout.toList_text]
      exact whole
    next => simp at read
  · rintro ⟨⟨rooms, users⟩, wellFormed, rfl, rfl⟩
    have rooms_read := parseGroup_eq_ok_iff.mpr ⟨rooms, wellFormed.rooms, rfl, rfl⟩
    rw [parse, wellFormed.pieces_text]
    simp only [rooms_read]
    cases users with
    | none => rfl
    | some group =>
      have users_read :=
        parseGroup_eq_ok_iff.mpr ⟨group, wellFormed.users group rfl, rfl, rfl⟩
      simp only [Option.toList_some, List.map_cons, users_read]
      rfl

-- Of two separators in a row, the first is a digit of the tuple that ends there.
example : parse "B.C.__D.E.F*" = .ok ⟨[⟨⟨1⟩, 2, 63⟩, ⟨⟨3⟩, 4, 5⟩], []⟩ := by decide

theorem IsField.numeralValue_lt {room : Nat} {field : List Char} (isField : IsField room field) :
    Base64.numeralValue field < 64 ^ room :=
  (Base64.numeralValue_lt isField.2.2).trans_le (Nat.pow_le_pow_right (by omega) isField.2.1)

/-- The positions in a token that has been read fit their fields. -/
theorem positions_lt_of_parse {s : String} {token : StreamToken} (read : parse s = .ok token)
    {tuple : ShardTuple} (mem : tuple ∈ token.rooms ∨ tuple ∈ token.users) :
    tuple.event < 64 ^ 8 ∧ tuple.signal < 64 ^ 8 := by
  obtain ⟨layout, ⟨rooms, users⟩, -, rfl⟩ := parse_eq_ok_iff.mp read
  have fits {group : List Fields} (isGroup : IsGroup group)
      (mem : tuple ∈ group.map Fields.tuple) : tuple.event < 64 ^ 8 ∧ tuple.signal < 64 ^ 8 := by
    obtain ⟨fields, fields_mem, rfl⟩ := List.mem_map.mp mem
    have wellFormed := isGroup.fields fields fields_mem
    exact ⟨wellFormed.event.numeralValue_lt, wellFormed.signal.numeralValue_lt⟩
  rcases mem with room_mem | user_mem
  · exact fits rooms room_mem
  · cases given : layout.users with
    | none =>
      rw [Layout.token, given] at user_mem
      exact absurd user_mem List.not_mem_nil
    | some group =>
      rw [Layout.token, given] at user_mem
      exact fits (users group given) user_mem

/-- Different layouts have different texts. -/
theorem Layout.text_injective {layout layout' : Layout} (wellFormed : layout.IsWellFormed)
    (wellFormed' : layout'.IsWellFormed) (same : layout.text = layout'.text) :
    layout = layout' := by
  -- Both layouts cut the text at its group separators, and so into the same groups.
  have cut := wellFormed.pieces_text
  rw [same, wellFormed'.pieces_text] at cut
  obtain ⟨rooms, users⟩ := layout
  obtain ⟨rooms', users'⟩ := layout'
  obtain ⟨same_rooms, same_users⟩ := Prod.mk.inj cut
  obtain rfl := groupText_injective wellFormed'.rooms wellFormed.rooms same_rooms
  cases users with
  | none => cases users' <;> simp_all
  | some group =>
    cases users' with
    | none => simp at same_users
    | some group' =>
      obtain rfl := groupText_injective (wellFormed'.users group' rfl) (wellFormed.users group rfl)
        (List.singleton_inj.mp same_users)
      rfl

/-- The parser accepts the texts that have a layout, and reads from each the token of its layout;
and no text has two layouts. -/
theorem parse_iff_layout_and_unique (s : String) (token : StreamToken) :
    (parse s = .ok token ↔
      ∃ layout : Layout, layout.IsWellFormed ∧ layout.text = s ∧ layout.token = token) ∧
    (parse s = .ok token → ∃! layout : Layout, layout.IsWellFormed ∧ layout.text = s) := by
  refine ⟨parse_eq_ok_iff, fun read => ?_⟩
  obtain ⟨layout, wellFormed, rfl, -⟩ := parse_eq_ok_iff.mp read
  refine ⟨layout, ⟨wellFormed, rfl⟩, ?_⟩
  rintro layout' ⟨wellFormed', same⟩
  exact Layout.text_injective wellFormed' wellFormed same

end ChatFeed.StreamToken
