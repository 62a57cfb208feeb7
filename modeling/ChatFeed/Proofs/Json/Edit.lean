import ChatFeed.Proofs.Json.Record

/-!
# Records that say the same

A record says the same after its members have been put in another order, or after members have been
added that are none of its fields. Where a reader holds a record before it understands it, it must
be able to hold what is added.

## Main definitions

* `Json.Edit`: an edit of a record, or of what one of its fields holds
* `Json.FieldsEdited`: the values of the fields before and after an edit

## Main results

* `Json.Edit.fields?`: an edit leaves the fields as they are, unless it is one of what they hold
* `Json.Edit.fits`: a record that can be held can be held after an edit
-/

namespace ChatFeed.Json

/-- An edit of a record with the fields `names`. What a field holds is edited by `inner`, and a
member that is none of them can have any value that is `held`. -/
inductive Edit (names : List String) (inner : String → Json → Json → Prop) (held : Json → Prop) :
    Json → Json → Prop where
  /-- The members are put in another order. -/
  | reorder {members members' : List (Quoted × Json)} (perm : members.Perm members') :
    Edit names inner held (.object members) (.object members')
  /-- A member is added that is none of the fields. -/
  | add {members : List (Quoted × Json)} {name : String} {value : Json} (unknown : name ∉ names)
    (can_hold : held value) :
    Edit names inner held (.object members) (.object ((some name, value) :: members))
  /-- A member that is none of the fields has another value, as when an object in it is edited. -/
  | replace {front back : List (Quoted × Json)} {name : String} {value value' : Json}
    (unknown : name ∉ names) (can_hold : held value') :
    Edit names inner held (.object (front ++ (some name, value) :: back))
      (.object (front ++ (some name, value') :: back))
  /-- What a field holds is edited. -/
  | field {front back : List (Quoted × Json)} {name : String} {value value' : Json}
    (edit : inner name value value') :
    Edit names inner held (.object (front ++ (some name, value) :: back))
      (.object (front ++ (some name, value') :: back))
  /-- What a field holds is edited, where the record is given as an array. -/
  | item {front back : List Json} {name : String} {value value' : Json}
    (at_place : names[front.length]? = some name) (edit : inner name value value') :
    Edit names inner held (.array (front ++ value :: back)) (.array (front ++ value' :: back))

/-- The value of a field before and after an edit. -/
def FieldEdited (inner : Json → Json → Prop) (value value' : Option Json) : Prop :=
  value' = value ∨ ∃ before after, value = some before ∧ value' = some after ∧ inner before after

/-- The values of the fields `names` before and after an edit. -/
inductive FieldsEdited (inner : String → Json → Json → Prop) :
    List String → List (Option Json) → List (Option Json) → Prop where
  | nil : FieldsEdited inner [] [] []
  | cons {name : String} {names : List String} {value value' : Option Json}
    {values values' : List (Option Json)} (first : FieldEdited (inner name) value value')
    (rest : FieldsEdited inner names values values') :
    FieldsEdited inner (name :: names) (value :: values) (value' :: values')

variable {names : List String} {inner : String → Json → Json → Prop} {held : Json → Prop}
  {name : String} {value value' : Json} {values values' : List (Option Json)}

/-- A field that is there still is, with what it holds as it was or edited. -/
theorem FieldEdited.of_some {inner : Json → Json → Prop} {after : Option Json}
    (edited : FieldEdited inner (some value) after) :
    ∃ value', after = some value' ∧ (value' = value ∨ inner value value') := by
  obtain rfl | ⟨_, value', same, rfl, edit⟩ := edited
  · exact ⟨value, rfl, .inl rfl⟩
  · obtain rfl := Option.some.inj same
    exact ⟨value', rfl, .inr edit⟩

namespace FieldsEdited

theorem refl {values : List (Option Json)} (lengths : values.length = names.length) :
    FieldsEdited inner names values values := by
  induction names generalizing values with
  | nil =>
    rw [List.eq_nil_of_length_eq_zero lengths]
    exact .nil
  | cons name rest ih =>
    cases values with
    | nil => contradiction
    | cons value values => exact .cons (.inl rfl) (ih (Nat.succ_inj.mp lengths))

/-- The fields are edited one after the other. -/
theorem of_cons {first : Option Json}
    (edited : FieldsEdited inner (name :: names) (first :: values) values') :
    ∃ first' rest, values' = first' :: rest ∧ FieldEdited (inner name) first first' ∧
      FieldsEdited inner names values rest := by
  cases edited with
  | cons head rest => exact ⟨_, _, rfl, head, rest⟩

/-- A field that cannot be edited is as it was. -/
theorem of_untouched {first : Option Json} (untouched : ∀ before after, ¬inner name before after)
    (edited : FieldsEdited inner (name :: names) (first :: values) values') :
    ∃ rest, values' = first :: rest ∧ FieldsEdited inner names values rest := by
  obtain ⟨_, rest, rfl, rfl | ⟨before, after, -, -, edit⟩, others⟩ := edited.of_cons
  · exact ⟨rest, rfl, others⟩
  · exact (untouched before after edit).elim

theorem of_singleton {first : Option Json}
    (edited : FieldsEdited inner [name] [first] values') :
    ∃ first', values' = [first'] ∧ FieldEdited (inner name) first first' := by
  obtain ⟨first', _, rfl, head, none_left⟩ := edited.of_cons
  cases none_left
  exact ⟨first', rfl, head⟩

/-- If no field can be edited, all are as they were. -/
theorem eq_of_untouched (untouched : ∀ name before after, ¬inner name before after)
    (edited : FieldsEdited inner names values values') : values' = values := by
  induction edited with
  | nil => rfl
  | cons head rest ih =>
    obtain rfl | ⟨before, after, -, -, edit⟩ := head
    · rw [ih]
    · exact (untouched _ before after edit).elim

end FieldsEdited

namespace Edit

/-! ### Objects -/

section Objects

variable {members members' : List (Quoted × Json)}

/-- All members still have names. -/
theorem all_isSome (edit : Edit names inner held (.object members) (.object members'))
    (all_named : ∀ member ∈ members, member.1.isSome = true) :
    ∀ member ∈ members', member.1.isSome = true := by
  cases edit with
  | reorder perm => exact fun member mem => all_named member (perm.mem_iff.mpr mem)
  | add unknown can_hold => simpa using all_named
  | replace unknown can_hold =>
    rw [List.forall_mem_append, List.forall_mem_cons] at all_named ⊢
    exact all_named
  | field edit =>
    rw [List.forall_mem_append, List.forall_mem_cons] at all_named ⊢
    exact all_named

/-- A field that is read still is, as it was or edited. -/
theorem member? (edit : Edit names inner held (.object members) (.object members'))
    (mem : name ∈ names) {found : Option Json} (read : Json.member? name members = some found) :
    ∃ found', Json.member? name members' = some found' ∧ FieldEdited (inner name) found found' := by
  cases edit with
  | reorder perm => exact ⟨found, member?_perm perm read, .inl rfl⟩
  | @add _ other added unknown can_hold =>
    refine ⟨found, ?_, .inl rfl⟩
    have apart : other ≠ name := fun same => unknown (same ▸ mem)
    rwa [← List.nil_append ((_, _) :: _), member?_other apart]
  | @replace front back other before after unknown can_hold =>
    refine ⟨found, ?_, .inl rfl⟩
    have apart : other ≠ name := fun same => unknown (same ▸ mem)
    rwa [member?_other apart] at read ⊢
  | @field front back other before after edit =>
    -- The field that is read is the one that is edited, or another one.
    by_cases same : other = name
    · subst same
      obtain ⟨rfl, read_after⟩ := member?_field read
      exact ⟨some after, read_after, .inr ⟨before, after, rfl, rfl, edit⟩⟩
    · refine ⟨found, ?_, .inl rfl⟩
      rwa [member?_other same] at read ⊢

/-- So are some of the fields, one after the other. -/
theorem valuesAt? (edit : Edit names inner held (.object members) (.object members'))
    {some_names : List String} (subset : some_names ⊆ names)
    (read : Json.valuesAt? some_names members = some values) :
    ∃ values', Json.valuesAt? some_names members' = some values' ∧
      FieldsEdited inner some_names values values' := by
  induction some_names generalizing values with
  | nil =>
    obtain rfl := Option.some.inj read
    exact ⟨[], rfl, .nil⟩
  | cons name rest ih =>
    obtain ⟨mem, rest_subset⟩ := List.cons_subset.mp subset
    rw [Json.valuesAt?] at read
    split at read
    next found others read_found read_others =>
      obtain rfl := Option.some.inj read
      obtain ⟨found', read_found', first⟩ := edit.member? mem read_found
      obtain ⟨others', read_others', later⟩ := ih rest_subset read_others
      refine ⟨found' :: others', ?_, .cons first later⟩
      rw [Json.valuesAt?, read_found', read_others']
    next => contradiction

end Objects

/-! ### Arrays -/

/-- An item in the place of a field is edited as the field is. -/
theorem fieldsEdited_item {front back : List Json} (at_place : names[front.length]? = some name)
    (edit : inner name value value')
    (lengths : (front ++ value :: back).length ≤ names.length) :
    FieldsEdited inner names
      ((front ++ value :: back).map some ++
        List.replicate (names.length - (front ++ value :: back).length) none)
      ((front ++ value' :: back).map some ++
        List.replicate (names.length - (front ++ value' :: back).length) none) := by
  -- The items in front are dropped along with the names of their fields.
  induction front generalizing names with
  | nil =>
    cases names with
    | nil => contradiction
    | cons first rest =>
      obtain rfl := Option.some.inj at_place
      simp only [List.nil_append, List.map_cons, List.cons_append, List.length_cons,
        Nat.add_sub_add_right, Nat.add_le_add_iff_right] at lengths ⊢
      exact .cons (.inr ⟨value, value', rfl, rfl, edit⟩) (.refl (by simp; omega))
  | cons item front ih =>
    cases names with
    | nil => contradiction
    | cons first rest =>
      simp only [List.map_cons, List.cons_append, List.length_cons, Nat.add_sub_add_right,
        Nat.add_le_add_iff_right, List.getElem?_cons_succ] at at_place lengths ⊢
      exact .cons (.inl rfl) (ih at_place lengths)

/-! ### Records -/

/-- An object stays an object. -/
theorem exists_object {members : List (Quoted × Json)}
    (edit : Edit names inner held (.object members) value') :
    ∃ members', value' = .object members' := by
  cases edit <;> exact ⟨_, rfl⟩

/-- The fields of an object are read after an edit as before, but for an edit of what they hold. -/
theorem memberValues? (edit : Edit names inner held value value')
    (read : value.memberValues? names = some values) :
    ∃ values', value'.memberValues? names = some values' ∧
      FieldsEdited inner names values values' := by
  cases value with
  | object members =>
    obtain ⟨members', rfl⟩ := edit.exists_object
    obtain ⟨all_named, read_members⟩ := memberValues?_object_iff.mp read
    obtain ⟨values', read_after, edited⟩ := edit.valuesAt? (List.Subset.refl names) read_members
    exact ⟨values', memberValues?_object_iff.mpr ⟨edit.all_isSome all_named, read_after⟩, edited⟩
  | _ => contradiction

/-- So are those of a record. -/
theorem fields? (edit : Edit names inner held value value')
    (read : value.fields? names = some values) :
    ∃ values', value'.fields? names = some values' ∧ FieldsEdited inner names values values' := by
  cases value with
  | object members =>
    obtain ⟨members', rfl⟩ := edit.exists_object
    exact edit.memberValues? read
  | array items =>
    cases edit with
    | item at_place inner_edit =>
      obtain ⟨lengths, rfl⟩ := fields?_array_iff.mp read
      refine ⟨_, fields?_array_iff.mpr ⟨?_, rfl⟩, fieldsEdited_item at_place inner_edit lengths⟩
      simpa using lengths
  | _ => contradiction

/-- A record that can be held can be held after an edit. -/
theorem fits {room : Nat}
    (inside : ∀ name before after, inner name before after →
      before.fits room = true → after.fits room = true)
    (edit : Edit names inner (fun value => value.fits room = true) value value')
    (before : value.fits (room + 1) = true) : value'.fits (room + 1) = true := by
  cases edit with
  | item at_place inner_edit =>
    rw [fits_array_iff, List.forall_mem_append, List.forall_mem_cons] at before ⊢
    exact ⟨before.1, inside _ _ _ inner_edit before.2.1, before.2.2⟩
  | reorder perm =>
    rw [fits_object_iff] at before ⊢
    exact fun member mem => before member (perm.mem_iff.mpr mem)
  | add unknown can_hold =>
    rw [fits_object_iff] at before ⊢
    exact List.forall_mem_cons.mpr ⟨⟨rfl, can_hold⟩, before⟩
  | replace unknown can_hold =>
    rw [fits_object_iff, List.forall_mem_append, List.forall_mem_cons] at before ⊢
    exact ⟨before.1, ⟨rfl, can_hold⟩, before.2.2⟩
  | field inner_edit =>
    rw [fits_object_iff, List.forall_mem_append, List.forall_mem_cons] at before ⊢
    exact ⟨before.1, ⟨rfl, inside _ _ _ inner_edit before.2.1.2⟩, before.2.2⟩

end Edit

end ChatFeed.Json
