import ChatFeed.Json.Printer
import ChatFeed.Json.Reader
import ChatFeed.Proofs.Event.Stamp

/-!
# Strings and numbers read back

What is written of a string or a number is read as the same string or number, whatever follows it.
A string ends with its quote. A number has no end of its own: it must not be followed by what it
could go on with.

## Main definitions

* `Json.Ends`: a text that no number goes on with

## Main results

* `Json.quoted?_print`: a quoted text reads back
* `Json.number?_printInteger`, `Json.number?_print_real`: a number reads back
-/

namespace ChatFeed.Json

/-! ### Strings -/

/-- What a character is read as: one that has only a number is a unit. -/
def piece (c : Char) : Piece :=
  match escape c with
  | '\\' :: 'u' :: _ => .unit c.toNat
  | _ => .char c

theorem ofDigits?_hexChar : ∀ n < 0x20,
    Numeral.ofDigits? 16 ['0', '0', hexChar (n / 16), hexChar (n % 16)] = some n := by
  decide

/-- A character that needs no escape is read as it stands. -/
theorem pieces?_of_plain {c : Char} (no_quote : c ≠ '"') (no_backslash : c ≠ '\\')
    (printable : ¬c.toNat < 0x20) (rest : List Char) : pieces? (c :: rest) =
      (pieces? rest).map fun read => (.char c :: read.1, read.2) := by
  rw [pieces?.eq_def]
  split
  next nothing => contradiction
  next quote => exact absurd (List.head_eq_of_cons_eq quote) no_quote
  next unit => exact absurd (List.head_eq_of_cons_eq unit) no_backslash
  next escape => exact absurd (List.head_eq_of_cons_eq escape) no_backslash
  next same =>
    obtain ⟨rfl, rfl⟩ := List.cons.inj same
    rw [if_neg (not_or.mpr ⟨printable, no_backslash⟩)]
    cases pieces? rest <;> rfl

/-- A backslash and a letter are read as the character that they stand for. -/
theorem pieces?_of_escaped {letter c : Char} (stands : escaped? letter = some c)
    (rest : List Char) : pieces? ('\\' :: letter :: rest) =
      (pieces? rest).map fun read => (.char c :: read.1, read.2) := by
  rw [pieces?.eq_def]
  split
  next nothing => contradiction
  next quote => exact absurd (List.head_eq_of_cons_eq quote) (by decide)
  next unit =>
    obtain rfl := List.head_eq_of_cons_eq (List.tail_eq_of_cons_eq unit)
    contradiction
  next escape =>
    obtain ⟨rfl, rfl⟩ := List.cons.inj (List.tail_eq_of_cons_eq escape)
    rw [stands]
    cases pieces? rest <;> rfl
  next no_escape same =>
    obtain ⟨backslash, back⟩ := List.cons.inj same
    exact (no_escape letter rest backslash.symm back.symm).elim

/-- An escaped character is read as one piece. -/
theorem pieces?_escape (c : Char) (rest : List Char) : pieces? (escape c ++ rest) =
    (pieces? rest).map fun read => (piece c :: read.1, read.2) := by
  -- All escapes are a backslash and a letter, but for those of control characters.
  unfold piece escape
  split
  case h_8 no_quote no_backslash _ _ _ _ _ =>
    split
    next control =>
      have unit := ofDigits?_hexChar c.toNat control
      simp only [List.cons_append, List.nil_append, pieces?, unit]
      cases pieces? rest <;> rfl
    next printable =>
      rw [List.singleton_append, pieces?_of_plain no_quote no_backslash printable]
      simp
  all_goals exact pieces?_of_escaped rfl rest

/-- The text of a string is read as the pieces of its characters. -/
theorem pieces?_flatMap_escape (cs rest : List Char) :
    pieces? (cs.flatMap escape ++ '"' :: rest) = some (cs.map piece, rest) := by
  induction cs with
  | nil => simp [pieces?]
  | cons c tail ih =>
    rw [List.flatMap_cons, List.append_assoc, pieces?_escape, ih]
    rfl

/-- A unit that is no half of a surrogate pair stands for a character of its own. -/
theorem characters?_unit {n : Nat} (low : n < 0xD800) (rest : List Piece) :
    characters? (.unit n :: rest) = (characters? rest).map (Char.ofNat n :: ·) := by
  cases rest with
  | nil => simp [characters?, low]
  | cons next rest => cases next <;> simp [characters?, low]

/-- Only a control character is read as a unit. -/
theorem piece_cases (c : Char) : piece c = .char c ∨ piece c = .unit c.toNat ∧ c.toNat < 0x20 := by
  by_cases control : c.toNat < 0x20
  · unfold piece
    split
    next => exact .inr ⟨rfl, control⟩
    next => exact .inl rfl
  · left
    unfold piece escape
    split
    next unit =>
      split at unit
      case h_8 =>
        rw [if_neg control] at unit
        simp at unit
      all_goals simp at unit
    next => rfl

theorem characters?_piece (c : Char) (rest : List Piece) :
    characters? (piece c :: rest) = (characters? rest).map (c :: ·) := by
  obtain plain | ⟨unit, control⟩ := piece_cases c
  · rw [plain, characters?]
  · rw [unit, characters?_unit (by omega), Char.ofNat_toNat]

theorem characters?_map_piece (cs : List Char) : characters? (cs.map piece) = some cs := by
  induction cs with
  | nil => rfl
  | cons c tail ih =>
    rw [List.map_cons, characters?_piece, ih]
    rfl

/-- A quoted text reads back, also one without characters. -/
theorem quoted?_print (text : Quoted) (rest : List Char) : ∃ inside,
    printQuoted text = '"' :: inside ∧ quoted? (inside ++ rest) = some (text, rest) := by
  cases text with
  | none => exact ⟨_, rfl, rfl⟩
  | some s =>
    refine ⟨_, rfl, ?_⟩
    rw [List.append_assoc, quoted?, List.singleton_append, pieces?_flatMap_escape]
    simp [characters?_map_piece]

/-! ### Digits -/

/-- Whether no number goes on with a text. -/
def Ends (rest : List Char) : Prop :=
  ∀ c ∈ rest.head?, c.isDigit = false ∧ c ≠ '.' ∧ c ≠ 'e' ∧ c ≠ 'E'

theorem digits_append {cs rest : List Char} (all_digits : ∀ c ∈ cs, c.isDigit = true)
    (no_digit : ∀ c ∈ rest.head?, c.isDigit = false) : digits (cs ++ rest) = (cs, rest) := by
  have none_left : rest.takeWhile Char.isDigit = [] ∧ rest.dropWhile Char.isDigit = rest := by
    cases rest with
    | nil => exact ⟨rfl, rfl⟩
    | cons c tail => simp [no_digit c rfl]
  rw [digits, List.takeWhile_append_of_pos all_digits, List.dropWhile_append_of_pos all_digits,
    none_left.1, none_left.2, List.append_nil]

/-- The digits of a number start with a zero only if there is no other. -/
theorem toDigits_eq (n : Nat) : Nat.toDigits 10 n = ['0'] ∨
    ∃ c tail, Nat.toDigits 10 n = c :: tail ∧ c ≠ '0' := by
  induction n using Nat.strongRecOn with
  | ind n ih =>
    rw [Nat.toDigits_eq_if (by decide)]
    split
    next small =>
      have zero_or_not : ∀ n < 10, [n.digitChar] = ['0'] ∨ n.digitChar ≠ '0' := by decide
      exact (zero_or_not n small).imp_right fun nonzero => ⟨_, [], rfl, nonzero⟩
    next large =>
      right
      obtain zero | ⟨c, tail, leading, nonzero⟩ := ih (n / 10) (by omega)
      · have read := Numeral.ofDigits?_toDigits (by decide : 1 < 10) (by decide) (n / 10)
        rw [zero] at read
        have no_quotient : 0 = n / 10 := Option.some.inj read
        omega
      · exact ⟨c, tail ++ [(n % 10).digitChar], by rw [leading, List.cons_append], nonzero⟩

theorem isDigit_of_mem_toDigits {n : Nat} {c : Char} (mem : c ∈ Nat.toDigits 10 n) :
    c.isDigit = true :=
  Nat.isDigit_of_mem_toDigits (by decide) (by decide) mem

theorem digits_toDigits_append (n : Nat) {rest : List Char}
    (no_digit : ∀ c ∈ rest.head?, c.isDigit = false) :
    digits (Nat.toDigits 10 n ++ rest) = (Nat.toDigits 10 n, rest) :=
  digits_append (fun _ => isDigit_of_mem_toDigits) no_digit

/-! ### Numbers -/

section Numbers

variable {rest : List Char}

theorem whole?_toDigits (n : Nat) (no_digit : ∀ c ∈ rest.head?, c.isDigit = false) :
    whole? (Nat.toDigits 10 n ++ rest) = some (Nat.toDigits 10 n, rest) := by
  obtain zero | ⟨c, tail, leading, nonzero⟩ := toDigits_eq n
  · rw [zero]
    rfl
  · have read := digits_toDigits_append n no_digit
    rw [leading] at read ⊢
    rw [List.cons_append] at read ⊢
    rw [whole?]
    · rw [read]
      rfl
    · rintro _ same
      exact nonzero (List.head_eq_of_cons_eq same)

theorem fraction?_of_head_ne (no_point : ∀ c ∈ rest.head?, c ≠ '.') :
    fraction? rest = some ([], rest) := by
  rw [fraction?]
  rintro tail rfl
  exact no_point '.' rfl rfl

theorem exponent?_of_head_ne (no_exponent : ∀ c ∈ rest.head?, c ≠ 'e' ∧ c ≠ 'E') :
    exponent? rest = some (none, rest) := by
  rw [exponent?]
  all_goals
    rintro tail rfl
    simp at no_exponent

/-- The digits of a number start with a digit. -/
theorem exists_toDigits_eq_cons (n : Nat) :
    ∃ c tail, Nat.toDigits 10 n = c :: tail ∧ c.isDigit = true := by
  obtain ⟨c, tail, leading⟩ := List.exists_cons_of_ne_nil (@Nat.toDigits_ne_nil n 10)
  exact ⟨c, tail, leading, isDigit_of_mem_toDigits (leading ▸ List.mem_cons_self)⟩

/-- The exponent of a number reads back. -/
theorem exponent?_printInteger (exponent : Int) (ends : Ends rest) :
    exponent? ('e' :: (printInteger exponent ++ rest)) = some (some exponent, rest) := by
  have read := digits_toDigits_append exponent.natAbs fun c head => (ends c head).1
  have value := Numeral.ofDigits?_toDigits (by decide : 1 < 10) (by decide) exponent.natAbs
  rw [printInteger]
  split
  next negative =>
    have size : -(exponent.natAbs : Int) = exponent := by omega
    rw [List.cons_append, exponent?]
    simp only [read, value, if_true, size]
  next positive =>
    have size : (exponent.natAbs : Int) = exponent := by omega
    obtain ⟨c, tail, leading, digit⟩ := exists_toDigits_eq_cons exponent.natAbs
    rw [leading, List.cons_append] at read
    rw [leading, List.cons_append, exponent?]
    case x | x_1 =>
      rintro _ same
      obtain rfl := List.head_eq_of_cons_eq same
      contradiction
    simp only [read, ← leading, value, size]
    simp

theorem magnitude?_toDigits (negative : Bool) (n : Nat) (ends : Ends rest) :
    magnitude? negative (Nat.toDigits 10 n ++ rest) =
      some (if negative && n = 0 then .real true 0 0 else .integer (if negative then -n else n),
        rest) := by
  have value := Numeral.ofDigits?_toDigits (by decide : 1 < 10) (by decide) n
  rw [magnitude?, whole?_toDigits n fun c head => (ends c head).1]
  simp only [fraction?_of_head_ne fun c head => (ends c head).2.1,
    exponent?_of_head_ne fun c head => (ends c head).2.2, List.append_nil, value]
  cases negative <;> by_cases zero : n = 0 <;> simp [zero]

/-- Digits are not taken for a sign. -/
theorem number?_toDigits (n : Nat) (more : List Char) :
    number? (Nat.toDigits 10 n ++ more) = magnitude? false (Nat.toDigits 10 n ++ more) := by
  obtain ⟨c, tail, leading, digit⟩ := exists_toDigits_eq_cons n
  rw [leading, List.cons_append, number?]
  rintro _ same
  obtain rfl := List.head_eq_of_cons_eq same
  contradiction

/-- An integer reads back. -/
theorem number?_printInteger (n : Int) (ends : Ends rest) :
    number? (printInteger n ++ rest) = some (.integer n, rest) := by
  rw [printInteger]
  split
  next negative =>
    have nonzero : n.natAbs ≠ 0 := by omega
    have size : -(n.natAbs : Int) = n := by omega
    rw [List.cons_append, number?, magnitude?_toDigits true n.natAbs ends,
      if_neg (by simp [nonzero]), if_pos rfl, size]
  next positive =>
    have size : (n.natAbs : Int) = n := by omega
    rw [number?_toDigits, magnitude?_toDigits false n.natAbs ends, Bool.false_and,
      if_neg Bool.false_ne_true, if_neg Bool.false_ne_true, size]

theorem magnitude?_print_real (negative : Bool) (n : Nat) (exponent : Int) (ends : Ends rest) :
    magnitude? negative (Nat.toDigits 10 n ++ 'e' :: (printInteger exponent ++ rest)) =
      some (.real negative n exponent, rest) := by
  have value := Numeral.ofDigits?_toDigits (by decide : 1 < 10) (by decide) n
  have no_digit : ∀ c ∈ ('e' :: (printInteger exponent ++ rest)).head?, c.isDigit = false := by
    rintro c ⟨⟩
    rfl
  have no_point : ∀ c ∈ ('e' :: (printInteger exponent ++ rest)).head?, c ≠ '.' := by
    rintro c ⟨⟩
    decide
  rw [magnitude?, whole?_toDigits n no_digit]
  simp only [fraction?_of_head_ne no_point, exponent?_printInteger exponent ends, List.append_nil,
    value]
  simp

/-- A number with an exponent reads back. -/
theorem number?_print_real (negative : Bool) (n : Nat) (exponent : Int) (ends : Ends rest) :
    number? (print (.real negative n exponent) ++ rest) =
      some (.real negative n exponent, rest) := by
  have read := magnitude?_print_real negative n exponent ends
  rw [print, List.append_assoc, List.append_assoc, List.cons_append]
  cases negative with
  | true => exact read
  | false =>
    rw [if_neg Bool.false_ne_true, List.nil_append, number?_toDigits]
    exact read

end Numbers

end ChatFeed.Json
