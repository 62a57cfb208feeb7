import ChatFeed.Event.Json

/-!
# Records

A record is an object or an array that holds the values of some fields. Which values it holds does
not depend on the order of its members nor on members that are none of the fields, and the first
field can be taken out before the others are read.

## Main definitions

* `Json.named`: the members of an object with a given name

## Main results

* `Json.fits_record`: a record can be held if what its members hold can
* `Json.fields?_record`, `Json.untag?_record`: the fields of a record that is written
* `Json.member?_perm`, `Json.member?_other`, `Json.member?_field`: what is read under a name after
  members have been put elsewhere, added or given another value
* `Json.fields?_cons_iff`: the first field may be taken out before the others are read
-/

namespace ChatFeed.Json

variable {room : Nat} {name : String} {names : List String} {tag value value' : Json}
  {values : List (Option Json)}

/-! ### What can be held -/

theorem itemsFit_iff {items : List Json} :
    itemsFit room items = true ↔ ∀ item ∈ items, item.fits room = true := by
  induction items with
  | nil => simp [itemsFit]
  | cons item rest ih => simp [itemsFit, ih]

theorem membersFit_iff {members : List (Quoted × Json)} :
    membersFit room members = true ↔
      ∀ member ∈ members, member.1.isSome = true ∧ member.2.fits room = true := by
  induction members with
  | nil => simp [membersFit]
  | cons member rest ih => simp [membersFit, ih, and_assoc]

theorem fits_array_iff {items : List Json} :
    (array items).fits (room + 1) = true ↔ ∀ item ∈ items, item.fits room = true := by
  simp [fits, itemsFit_iff]

theorem fits_object_iff {members : List (Quoted × Json)} :
    (object members).fits (room + 1) = true ↔
      ∀ member ∈ members, member.1.isSome = true ∧ member.2.fits room = true := by
  simp [fits, membersFit_iff]

@[simp] theorem fits_ofString (room : Nat) (s : String) : (ofString s).fits room = true := rfl

@[simp] theorem fits_ofId (room : Nat) {kind : IdKind} (id : Id kind) :
    (ofId id).fits room = true := rfl

/-- A record can be held if there is room for what its members hold, and for itself. -/
theorem fits_record {members : List (String × Json)}
    (inside : ∀ member ∈ members, member.2.fits room = true) :
    (record members).fits (room + 1) = true := by
  rw [record, fits_object_iff]
  intro member mem
  obtain ⟨written, written_mem, rfl⟩ := List.mem_map.mp mem
  exact ⟨rfl, inside written written_mem⟩

/-! ### Records that are written -/

section Written

variable {members : List (String × Json)}

@[simp] theorem text?_ofString (s : String) : (ofString s).text? = some s := rfl

@[simp] theorem name?_ofString (held : Bool) (s : String) : (ofString s).name? held = some s := rfl

/-- The members that are written all have names. -/
@[simp] theorem memberValues?_record (names : List String) (members : List (String × Json)) :
    (record members).memberValues? names =
      valuesAt? names (members.map fun member => (some member.1, member.2)) := by
  simp [record, memberValues?]

@[simp] theorem fields?_record (names : List String) (members : List (String × Json)) :
    (record members).fields? names =
      valuesAt? names (members.map fun member => (some member.1, member.2)) :=
  memberValues?_record names members

/-- The first member is taken out of a record if no other one has its name. -/
theorem untag?_record (apart : ∀ member ∈ members, member.1 ≠ name) :
    (record ((name, tag) :: members)).untag? name = some (tag, record members) := by
  have others : (members.map fun member => ((some member.1 : Quoted), member.2)).filter
      (fun member => member.1 ≠ some name) =
        members.map fun member => (some member.1, member.2) := by
    rw [List.filter_map, List.filter_eq_self.mpr]
    intro member mem
    simp [apart member mem]
  have no_other : (members.map fun member => ((some member.1 : Quoted), member.2)).filter
      (fun member => member.1 = some name) = [] := by
    rw [List.filter_map, List.map_eq_nil_iff, List.filter_eq_nil_iff]
    intro member mem
    simp [apart member mem]
  simp only [record, List.map_cons, untag?, member?, List.filter_cons, decide_true, if_true,
    no_other, ne_eq, not_true, decide_false, Bool.false_eq_true, if_false, others]

end Written

/-! ### Members -/

section Members

variable {members members' front back : List (Quoted × Json)} {found : Option Json}

/-- The members with a given name. -/
def named (name : String) (members : List (Quoted × Json)) : List (Quoted × Json) :=
  members.filter fun member => member.1 = some name

theorem named_append (name : String) (front back : List (Quoted × Json)) :
    named name (front ++ back) = named name front ++ named name back :=
  List.filter_append ..

@[simp] theorem named_cons_self :
    named name ((some name, value) :: members) = (some name, value) :: named name members :=
  List.filter_cons_of_pos (decide_eq_true rfl)

theorem named_cons_of_ne {member : Quoted × Json} (apart : member.1 ≠ some name) :
    named name (member :: members) = named name members :=
  List.filter_cons_of_neg (by simp [apart])

/-- Only the members with the name count. -/
theorem member?_congr (same : named name members = named name members') :
    member? name members = member? name members' := by
  rw [named, named] at same
  rw [member?, same, member?]

theorem member?_eq_some_none_iff : member? name members = some none ↔ named name members = [] := by
  rw [member?, named]
  split
  next absent => simp only [absent]
  next member alone => simp [alone]
  next absent _ => exact iff_of_false nofun absent

/-- A member that is there is the only one with its name. -/
theorem member?_eq_some_some_iff :
    member? name members = some (some value) ↔ named name members = [(some name, value)] := by
  rw [member?, named]
  split
  next absent => simp [absent]
  next member alone =>
    have mem : member ∈ members.filter fun member => member.1 = some name := by simp [alone]
    obtain ⟨_, _⟩ := member
    obtain rfl := of_decide_eq_true (List.mem_filter.mp mem).2
    simp [alone]
  next more => exact iff_of_false nofun (more _)

/-- The order of the members makes no difference. -/
theorem member?_perm (perm : members.Perm members') (read : member? name members = some found) :
    member? name members' = some found := by
  have same_named : (named name members).Perm (named name members') := perm.filter _
  cases found with
  | none =>
    rw [member?_eq_some_none_iff] at read ⊢
    exact List.perm_nil.mp (read ▸ same_named.symm)
  | some value =>
    rw [member?_eq_some_some_iff] at read ⊢
    exact List.perm_singleton.mp (read ▸ same_named.symm)

/-- A member with another name makes no difference. -/
theorem member?_other {other : String} (apart : other ≠ name) :
    member? name (front ++ (some other, value) :: back) = member? name (front ++ back) := by
  refine member?_congr ?_
  rw [named_append, named_append, named_cons_of_ne (by simpa using apart)]

/-- A member that is there once has the value it is given. -/
theorem member?_field (read : member? name (front ++ (some name, value) :: back) = some found) :
    found = some value ∧
      member? name (front ++ (some name, value') :: back) = some (some value') := by
  cases found with
  | none => simp [member?_eq_some_none_iff, named_append] at read
  | some held =>
    rw [member?_eq_some_some_iff, named_append, named_cons_self] at read
    rw [member?_eq_some_some_iff, named_append, named_cons_self]
    obtain ⟨no_front, alone⟩ | ⟨-, absurd⟩ := List.append_eq_singleton_iff.mp read
    · obtain ⟨same, no_back⟩ := List.cons.inj alone
      obtain ⟨-, rfl⟩ := Prod.mk.inj same
      rw [no_front, no_back]
      exact ⟨rfl, rfl⟩
    · contradiction

/-- A member that is taken out is not missed by the others. -/
theorem valuesAt?_filter (apart : name ∉ names) :
    valuesAt? names (members.filter fun member => member.1 ≠ some name) =
      valuesAt? names members := by
  induction names with
  | nil => rfl
  | cons first rest ih =>
    rw [List.mem_cons, not_or] at apart
    have same_named : named first (members.filter fun member => member.1 ≠ some name) =
        named first members := by
      rw [named, List.filter_filter]
      refine List.filter_congr fun member _ => ?_
      by_cases here : member.1 = some first
      · simp [here, Ne.symm apart.1]
      · simp [here]
    rw [valuesAt?, valuesAt?, member?_congr same_named, ih apart.2]

end Members

/-! ### Fields one after the other -/

theorem fields?_array_iff {items : List Json} : (array items).fields? names = some values ↔
    items.length ≤ names.length ∧
      items.map some ++ List.replicate (names.length - items.length) none = values := by
  simp [fields?]

theorem memberValues?_object_iff {members : List (Quoted × Json)} :
    (object members).memberValues? names = some values ↔
      (∀ member ∈ members, member.1.isSome = true) ∧ valuesAt? names members = some values := by
  simp [memberValues?]

theorem fields?_object_iff {members : List (Quoted × Json)} :
    (object members).fields? names = some values ↔
      (∀ member ∈ members, member.1.isSome = true) ∧ valuesAt? names members = some values :=
  memberValues?_object_iff

/-- All members have names if those do that are left after one with a name is taken out. -/
theorem all_isSome_filter_iff {members : List (Quoted × Json)} :
    (∀ member ∈ members.filter fun member => member.1 ≠ some name, member.1.isSome = true) ↔
      ∀ member ∈ members, member.1.isSome = true := by
  simp only [List.mem_filter, decide_eq_true_eq]
  refine ⟨fun others member mem => ?_, fun all member kept => all member kept.1⟩
  by_cases here : member.1 = some name
  · rw [here]
    rfl
  · exact others member ⟨mem, here⟩

theorem untag?_object_iff {members : List (Quoted × Json)} {body : Json} :
    (object members).untag? name = some (tag, body) ↔ member? name members = some (some tag) ∧
      object (members.filter fun member => member.1 ≠ some name) = body := by
  rw [untag?]
  split
  next there => simp [there]
  next absent => exact iff_of_false nofun fun read => absent tag read.1

/-- The first field of a record may be taken out before the others are read. -/
theorem fields?_cons_iff (apart : name ∉ names) :
    value.fields? (name :: names) = some (some tag :: values) ↔
      ∃ body, value.untag? name = some (tag, body) ∧ body.fields? names = some values := by
  cases value with
  | array items =>
    cases items with
    | nil => simp [fields?, untag?, List.replicate_succ]
    | cons item rest =>
      have taken : (array (item :: rest)).untag? name = some (item, array rest) := rfl
      simp [taken, fields?_array_iff, and_assoc, and_left_comm]
  | object members =>
    have read_first : valuesAt? (name :: names) members = some (some tag :: values) ↔
        member? name members = some (some tag) ∧ valuesAt? names members = some values := by
      rw [valuesAt?]
      split <;> simp_all
    simp only [fields?_object_iff, untag?_object_iff, read_first]
    -- Taking out a member that has a name leaves the other values as they are.
    constructor
    · rintro ⟨all_named, first, others⟩
      refine ⟨_, ⟨first, rfl⟩, fields?_object_iff.mpr ⟨all_isSome_filter_iff.mpr all_named, ?_⟩⟩
      rw [valuesAt?_filter apart, others]
    · rintro ⟨_, ⟨first, rfl⟩, read⟩
      obtain ⟨all_named, others⟩ := fields?_object_iff.mp read
      rw [valuesAt?_filter apart] at others
      exact ⟨all_isSome_filter_iff.mp all_named, first, others⟩
  | _ => simp [fields?, untag?, memberValues?]

end ChatFeed.Json
