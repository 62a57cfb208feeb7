import ChatFeed.Token.Base64
import Mathlib.Data.Nat.Digits.Lemmas

/-!
# The alphabet of numerals

Numerals are written over an alphabet of 64 characters. A character stands for
its place in the alphabet, and a numeral for the number with those digits. The
minimal numeral of a number has the digits of the number, so its length and the
characters in it can be read off the number.

## Main definitions

* `Base64.alphabet`: the characters, in the order of their digits
* `Base64.numeralValue`: the number that a numeral stands for

## Main results

* `Base64.digitOf?_eq_some_iff`: a character is read as its place in the alphabet
* `Base64.numeralValue_numeral`: the minimal numeral of a number stands for it
* `Base64.length_numeral_le_iff`: how long the minimal numeral is
* `Base64.underscore_mem_numeral_iff`: whether it holds the character of the last digit
-/

namespace ChatFeed.Base64

/-- The characters of numerals, in the order of the digits they stand for. -/
def alphabet : List Char :=
  "ABCDEFGHIJKLMNOPQRSTUVWXYZabcdefghijklmnopqrstuvwxyz0123456789-_".toList

/-- The number that a numeral stands for, its most significant digit first. -/
def numeralValue (field : List Char) : Nat :=
  Nat.ofDigits 64 (field.reverse.map fun c => alphabet.idxOf c)

/-! ### Characters -/

theorem alphabet_eq_map_charOf : alphabet = (List.range 64).map charOf := by decide

theorem charOf_mem_alphabet {digit : Nat} (small : digit < 64) : charOf digit ∈ alphabet := by
  rw [alphabet_eq_map_charOf]
  exact List.mem_map_of_mem (List.mem_range.mpr small)

theorem idxOf_charOf {digit : Nat} (small : digit < 64) :
    alphabet.idxOf (charOf digit) = digit := by
  have all : ∀ d ∈ List.range 64, alphabet.idxOf (charOf d) = d := by decide
  exact all digit (List.mem_range.mpr small)

/-- The characters of the alphabet come before the 123rd. -/
theorem toNat_lt_of_digitOf?_eq_some {c : Char} {digit : Nat} (read : digitOf? c = some digit) :
    c.toNat < 123 := by
  have toNat_le {a b : Char} (ordered : a ≤ b) : a.toNat ≤ b.toNat := ordered
  unfold digitOf? at read
  split at read
  next range => exact (toNat_le range.2).trans_lt (by decide)
  split at read
  next range => exact (toNat_le range.2).trans_lt (by decide)
  split at read
  next range => exact (toNat_le range.2).trans_lt (by decide)
  split at read
  next minus => exact minus ▸ (by decide)
  split at read
  next underscore => exact underscore ▸ (by decide)
  next => simp at read

/-- The digit that is read from a character is written as that character. -/
theorem charOf_of_digitOf?_eq_some {c : Char} {digit : Nat} (read : digitOf? c = some digit) :
    charOf digit = c := by
  -- The characters up to the last digit are few enough to go through.
  have all : ∀ n ∈ List.range 123, ∀ d ∈ digitOf? (Char.ofNat n), charOf d = Char.ofNat n := by
    decide +kernel
  have small := List.mem_range.mpr (toNat_lt_of_digitOf?_eq_some read)
  have written := all c.toNat small digit
  rw [Char.ofNat_toNat] at written
  exact written read

/-- A character is read as its place in the alphabet, and only if it has one. -/
theorem digitOf?_eq_some_iff {c : Char} {digit : Nat} :
    digitOf? c = some digit ↔ c ∈ alphabet ∧ alphabet.idxOf c = digit := by
  constructor
  · intro read
    have small := digitOf?_lt read
    rw [← charOf_of_digitOf?_eq_some read]
    exact ⟨charOf_mem_alphabet small, idxOf_charOf small⟩
  · rintro ⟨mem, rfl⟩
    rw [alphabet_eq_map_charOf] at mem
    obtain ⟨digit, digit_mem, rfl⟩ := List.mem_map.mp mem
    have small := List.mem_range.mp digit_mem
    rw [idxOf_charOf small]
    exact digitOf?_charOf small

theorem digitOf?_eq_none_iff {c : Char} : digitOf? c = none ↔ c ∉ alphabet := by
  rw [Option.eq_none_iff_forall_ne_some]
  constructor
  · intro unread mem
    exact unread _ (digitOf?_eq_some_iff.mpr ⟨mem, rfl⟩)
  · intro notMem digit read
    exact notMem (digitOf?_eq_some_iff.mp read).1

/-- Every character of the alphabet is encoded in one byte. -/
theorem utf8Size_of_mem_alphabet {c : Char} (mem : c ∈ alphabet) : c.utf8Size = 1 := by
  have all : ∀ digit ∈ List.range 64, (charOf digit).utf8Size = 1 := by decide
  rw [alphabet_eq_map_charOf] at mem
  obtain ⟨digit, digit_mem, rfl⟩ := List.mem_map.mp mem
  exact all digit digit_mem

/-! ### Minimal numerals -/

theorem digitsOf_eq_reverse_digits {n : Nat} (positive : n ≠ 0) :
    digitsOf n = (Nat.digits 64 n).reverse := by
  fun_induction digitsOf n with
  | case1 n small => rw [Nat.digits_of_lt 64 n positive small, List.reverse_singleton]
  | case2 n large ih =>
    rw [ih (by omega), Nat.digits_def' (by omega) (Nat.pos_of_ne_zero positive), List.reverse_cons]

theorem digitsOf_zero : digitsOf 0 = [0] := by
  rw [digitsOf, if_pos (by omega)]

theorem numeral_ne_nil (n : Nat) : numeral n ≠ [] := by
  unfold numeral digitsOf
  split <;> simp

theorem mem_alphabet_of_mem_numeral {n : Nat} {c : Char} (mem : c ∈ numeral n) :
    c ∈ alphabet := by
  obtain ⟨digit, digit_mem, rfl⟩ := List.mem_map.mp mem
  exact charOf_mem_alphabet (digitsOf_lt digit_mem)

/-- The minimal numeral of a number stands for it. -/
theorem numeralValue_numeral (n : Nat) : numeralValue (numeral n) = n := by
  have places : (numeral n).reverse.map (fun c => alphabet.idxOf c) = (digitsOf n).reverse := by
    rw [numeral, List.map_reverse, List.map_map, List.map_congr_left, List.map_id]
    intro digit mem
    exact idxOf_charOf (digitsOf_lt mem)
  rw [numeralValue, places]
  -- Zero is written with one digit, where `Nat.digits` has none.
  by_cases zero : n = 0
  · subst zero
    rw [digitsOf_zero, List.reverse_singleton, Nat.ofDigits_singleton]
  · rw [digitsOf_eq_reverse_digits zero, List.reverse_reverse, Nat.ofDigits_digits]

theorem numeralValue_lt {field : List Char} (digits : ∀ c ∈ field, c ∈ alphabet) :
    numeralValue field < 64 ^ field.length := by
  have bounded : ∀ digit ∈ field.reverse.map (fun c => alphabet.idxOf c), digit < 64 := by
    intro digit mem
    obtain ⟨c, c_mem, rfl⟩ := List.mem_map.mp mem
    exact List.idxOf_lt_length_of_mem (digits c (List.mem_reverse.mp c_mem))
  have small := Nat.ofDigits_lt_base_pow_length (by omega) bounded
  rwa [List.length_map, List.length_reverse] at small

/-- A number fits a field of `k` characters if it is below the `k`-th power of the base. -/
theorem length_numeral_le_iff {n k : Nat} (room : 0 < k) :
    (numeral n).length ≤ k ↔ n < 64 ^ k := by
  rw [numeral, List.length_map]
  by_cases zero : n = 0
  · subst zero
    rw [digitsOf_zero, List.length_singleton]
    exact iff_of_true room (by positivity)
  · rw [digitsOf_eq_reverse_digits zero, List.length_reverse,
      Nat.digits_length_le_iff (by omega)]

/-- The character `_` stands in a minimal numeral if 63 is among the digits of the number. -/
theorem underscore_mem_numeral_iff {n : Nat} : '_' ∈ numeral n ↔ 63 ∈ Nat.digits 64 n := by
  have same_digit : '_' ∈ numeral n ↔ 63 ∈ digitsOf n := by
    constructor
    · intro mem
      obtain ⟨digit, digit_mem, written⟩ := List.mem_map.mp mem
      have place := idxOf_charOf (digitsOf_lt digit_mem)
      rw [written, show alphabet.idxOf '_' = 63 by decide] at place
      exact place ▸ digit_mem
    · exact fun mem => List.mem_map.mpr ⟨63, mem, rfl⟩
  rw [same_digit]
  by_cases zero : n = 0
  · simp [zero, digitsOf_zero]
  · rw [digitsOf_eq_reverse_digits zero, List.mem_reverse]

end ChatFeed.Base64
