import ChatFeed.Proofs.Json.Leaves

/-!
# JSON text reads back

The text that is written of a value is read as that value. A reader is given fuel for each character
of the text and one more, and every array or object that they enter is paid for by its bracket.

## Main results

* `Json.value?_print`, `Json.items?_print`, `Json.members?_print`: a value reads back, whatever
  follows it
* `Json.ofText?_toText`: a text reads back
-/

namespace ChatFeed.Json

/-! ### Starts and ends -/

theorem ends_nil : Ends [] :=
  nofun

theorem ends_cons {c : Char} (closing : c = ',' ∨ c = ']' ∨ c = '\x7d') (rest : List Char) :
    Ends (c :: rest) := by
  rintro _ ⟨⟩
  obtain rfl | rfl | rfl := closing <;> decide

theorem skipBlanks_cons {c : Char} (no_blank : isBlank c = false) (rest : List Char) :
    skipBlanks (c :: rest) = c :: rest := by
  rw [skipBlanks, List.dropWhile_cons, no_blank]
  rfl

variable {fuel : Nat} {rest : List Char}

theorem value?_quote (fuel : Nat) (rest : List Char) : value? (fuel + 1) ('"' :: rest) =
    (quoted? rest).map fun read => (.string read.1, read.2) := by
  rw [value?, skipBlanks_cons rfl]
  rfl

/-- Whether a number may start with a character. -/
def StartsNumber (c : Char) : Prop :=
  c.isDigit = true ∨ c = '-'

theorem StartsNumber.ne {c other : Char} (starts : StartsNumber c)
    (no_start : ¬(other.isDigit = true ∨ other = '-')) : c ≠ other :=
  fun same => no_start (same ▸ starts)

theorem StartsNumber.no_blank {c : Char} (starts : StartsNumber c) : isBlank c = false := by
  simp only [isBlank, Bool.or_eq_false_iff, decide_eq_false_iff_not]
  exact ⟨⟨⟨starts.ne (by decide), starts.ne (by decide)⟩, starts.ne (by decide)⟩,
    starts.ne (by decide)⟩

/-- What starts as a number is read as one. -/
theorem value?_numeral {c : Char} (starts : StartsNumber c) (fuel : Nat) (rest : List Char) :
    value? (fuel + 1) (c :: rest) = number? (c :: rest) := by
  rw [value?, skipBlanks_cons starts.no_blank]
  split
  case h_7 => rfl
  all_goals
    next same => exact absurd (List.head_eq_of_cons_eq same) (starts.ne (by decide))

theorem printInteger_starts (n : Int) :
    ∃ c tail, printInteger n = c :: tail ∧ StartsNumber c := by
  rw [printInteger]
  split
  next => exact ⟨'-', _, rfl, .inr rfl⟩
  next =>
    obtain ⟨c, tail, leading, digit⟩ := exists_toDigits_eq_cons n.natAbs
    exact ⟨c, tail, leading, .inl digit⟩

theorem print_real_starts (negative : Bool) (n : Nat) (exponent : Int) :
    ∃ c tail, print (.real negative n exponent) = c :: tail ∧ StartsNumber c := by
  rw [print]
  cases negative with
  | true => exact ⟨'-', _, rfl, .inr rfl⟩
  | false =>
    obtain ⟨c, tail, leading, digit⟩ := exists_toDigits_eq_cons n
    rw [leading]
    exact ⟨c, _, rfl, .inl digit⟩

/-- What is written of a value starts neither with a blank nor with the end of an array. -/
theorem print_starts (value : Json) : ∃ c tail, print value = c :: tail ∧
    isBlank c = false ∧ c ≠ ']' := by
  cases value with
  | null => exact ⟨'n', _, rfl, by decide⟩
  | bool value => cases value with
    | true => exact ⟨'t', _, rfl, by decide⟩
    | false => exact ⟨'f', _, rfl, by decide⟩
  | integer n =>
    obtain ⟨c, tail, leading, starts⟩ := printInteger_starts n
    exact ⟨c, tail, leading, starts.no_blank, starts.ne (by decide)⟩
  | real negative n exponent =>
    obtain ⟨c, tail, leading, starts⟩ := print_real_starts negative n exponent
    exact ⟨c, tail, leading, starts.no_blank, starts.ne (by decide)⟩
  | string text =>
    obtain ⟨inside, leading, -⟩ := quoted?_print text []
    exact ⟨'"', inside, leading, by decide⟩
  | array items => cases items with
    | nil => exact ⟨'[', _, rfl, by decide⟩
    | cons item more => exact ⟨'[', _, rfl, by decide⟩
  | object members => cases members with
    | nil => exact ⟨'\x7b', _, rfl, by decide⟩
    | cons member more => exact ⟨'\x7b', _, rfl, by decide⟩

/-! ### Arrays and objects -/

section Steps

variable {fuel : Nat} {cs rest : List Char} {item : Json} {name : Quoted}

theorem value?_array {c : Char} (no_blank : isBlank c = false) (no_end : c ≠ ']') :
    value? (fuel + 1) ('[' :: c :: rest) =
      (items? fuel (c :: rest)).map fun read => (.array read.1, read.2) := by
  rw [value?, skipBlanks_cons rfl]
  simp only [skipBlanks_cons no_blank]
  split
  next same => exact absurd (List.head_eq_of_cons_eq same) no_end
  next => rfl

theorem value?_object : value? (fuel + 1) ('\x7b' :: '"' :: rest) =
    (members? fuel ('"' :: rest)).map fun read => (.object read.1, read.2) := by
  rw [value?, skipBlanks_cons rfl]
  simp only [skipBlanks_cons (rfl : isBlank '"' = false)]
  rfl

theorem items?_comma (read : value? fuel cs = some (item, ',' :: rest)) :
    items? (fuel + 1) cs = (items? fuel rest).map fun more => (item :: more.1, more.2) := by
  rw [items?, read]
  simp only [skipBlanks_cons (rfl : isBlank ',' = false)]

theorem items?_end (read : value? fuel cs = some (item, ']' :: rest)) :
    items? (fuel + 1) cs = some ([item], rest) := by
  rw [items?, read]
  simp only [skipBlanks_cons (rfl : isBlank ']' = false)]

theorem members?_comma {more : List Char} (named : quoted? cs = some (name, ':' :: more))
    (read : value? fuel more = some (item, ',' :: rest)) : members? (fuel + 1) ('"' :: cs) =
      (members? fuel rest).map fun more => ((name, item) :: more.1, more.2) := by
  rw [members?, skipBlanks_cons rfl]
  simp only [named, skipBlanks_cons (rfl : isBlank ':' = false), read,
    skipBlanks_cons (rfl : isBlank ',' = false)]

theorem members?_end {more : List Char} (named : quoted? cs = some (name, ':' :: more))
    (read : value? fuel more = some (item, '\x7d' :: rest)) :
    members? (fuel + 1) ('"' :: cs) = some ([(name, item)], rest) := by
  rw [members?, skipBlanks_cons rfl]
  simp only [named, skipBlanks_cons (rfl : isBlank ':' = false), read,
    skipBlanks_cons (rfl : isBlank '\x7d' = false)]

end Steps

/-! ### Values -/

theorem length_print_pos (value : Json) : 0 < (print value).length := by
  obtain ⟨c, tail, leading, -⟩ := print_starts value
  rw [leading]
  exact Nat.succ_pos _

theorem length_printItems_pos (items : List Json) : 0 < (printItems items).length := by
  cases items <;> exact Nat.succ_pos _

theorem length_printMembers_pos (members : List (Quoted × Json)) :
    0 < (printMembers members).length := by
  cases members <;> exact Nat.succ_pos _

mutual

/-- What is written of a value reads back, whatever follows that no number goes on with. -/
theorem value?_print (value : Json) (fuel : Nat) (rest : List Char)
    (enough : (print value).length < fuel) (ends : Ends rest) :
    value? fuel (print value ++ rest) = some (value, rest) := by
  obtain ⟨fuel, rfl⟩ := Nat.exists_eq_add_one_of_ne_zero (Nat.ne_zero_of_lt enough)
  cases value with
  | null => rfl
  | bool value => cases value <;> rfl
  | integer n =>
    obtain ⟨c, tail, leading, starts⟩ := printInteger_starts n
    have read := number?_printInteger n ends
    rw [print]
    rw [leading, List.cons_append] at read ⊢
    rw [value?_numeral starts, read]
  | real negative n exponent =>
    obtain ⟨c, tail, leading, starts⟩ := print_real_starts negative n exponent
    have read := number?_print_real negative n exponent ends
    rw [leading, List.cons_append] at read ⊢
    rw [value?_numeral starts, read]
  | string text =>
    obtain ⟨inside, leading, read⟩ := quoted?_print text rest
    rw [print, leading, List.cons_append, value?_quote, read]
    rfl
  | array items =>
    cases items with
    | nil => rfl
    | cons item more =>
      have read := items?_print (item :: more) fuel rest nofun (Nat.le_of_lt_succ enough)
      obtain ⟨c, tail, leading, no_blank, no_end⟩ := print_starts item
      rw [print]
      simp only [printItems, List.tail_cons, leading, List.cons_append, List.append_assoc]
        at read ⊢
      rw [value?_array no_blank no_end, read]
      rfl
  | object members =>
    cases members with
    | nil => rfl
    | cons member more =>
      obtain ⟨name, value⟩ := member
      have read := members?_print ((name, value) :: more) fuel rest nofun
        (Nat.le_of_lt_succ enough)
      obtain ⟨inside, leading, -⟩ := quoted?_print name []
      rw [print]
      simp only [printMembers, List.tail_cons, leading, List.cons_append, List.append_assoc]
        at read ⊢
      rw [value?_object, read]
      rfl

/-- What is written of the items of an array reads back, from the first one on. -/
theorem items?_print (items : List Json) (fuel : Nat) (rest : List Char) (some_item : items ≠ [])
    (enough : (printItems items).length ≤ fuel) :
    items? fuel ((printItems items).tail ++ rest) = some (items, rest) := by
  cases items with
  | nil => contradiction
  | cons item more =>
    rw [printItems, List.length_cons, List.length_append] at enough
    have some_char := length_print_pos item
    have room := length_printItems_pos more
    obtain ⟨fuel, rfl⟩ : ∃ less, fuel = less + 1 := ⟨fuel - 1, by omega⟩
    rw [printItems, List.tail_cons, List.append_assoc]
    cases more with
    | nil =>
      exact items?_end (value?_print item fuel _ (by omega) (ends_cons (.inr (.inl rfl)) rest))
    | cons next later =>
      have read := items?_print (next :: later) fuel rest nofun (by omega)
      simp only [printItems, List.tail_cons, List.cons_append, List.append_assoc] at read ⊢
      rw [items?_comma (value?_print item fuel _ (by omega) (ends_cons (.inl rfl) _)), read]
      rfl

/-- What is written of the members of an object reads back, from the first one on. -/
theorem members?_print (members : List (Quoted × Json)) (fuel : Nat) (rest : List Char)
    (some_member : members ≠ []) (enough : (printMembers members).length ≤ fuel) :
    members? fuel ((printMembers members).tail ++ rest) = some (members, rest) := by
  match members with
  | [] => contradiction
  | (name, value) :: more =>
    rw [printMembers, List.length_cons, List.length_append, List.length_cons,
      List.length_append] at enough
    have some_char := length_print_pos value
    have room := length_printMembers_pos more
    obtain ⟨fuel, rfl⟩ : ∃ less, fuel = less + 1 := ⟨fuel - 1, by omega⟩
    cases more with
    | nil =>
      obtain ⟨inside, leading, named⟩ := quoted?_print name (':' :: (print value ++ '\x7d' :: rest))
      simp only [printMembers, List.tail_cons, leading, List.cons_append, List.append_assoc,
        List.nil_append]
      exact members?_end named
        (value?_print value fuel _ (by omega) (ends_cons (.inr (.inr rfl)) rest))
    | cons next later =>
      obtain ⟨next_name, next_value⟩ := next
      have read := members?_print ((next_name, next_value) :: later) fuel rest nofun (by omega)
      obtain ⟨inside, leading, named⟩ := quoted?_print name
        (':' :: (print value ++ (printMembers ((next_name, next_value) :: later) ++ rest)))
      simp only [printMembers, List.tail_cons, leading, List.cons_append, List.append_assoc]
        at read named ⊢
      rw [members?_comma named
        (value?_print value fuel _ (by omega) (ends_cons (.inl rfl) _)), read]
      rfl

end

/-- The text of a value reads back. -/
theorem ofText?_toText (value : Json) : ofText? value.toText = some value := by
  have read := value?_print value ((print value).length + 1) [] (Nat.lt_succ_self _) ends_nil
  rw [List.append_nil] at read
  rw [ofText?, toText, String.toList_ofList]
  simp only [read]
  rfl

end ChatFeed.Json
