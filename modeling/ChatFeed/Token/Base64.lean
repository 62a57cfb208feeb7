/-!
# Base-64 numerals

Stream tokens write numbers in base 64, most significant digit first. The
digits 0 to 63 are written `A` to `Z`, `a` to `z`, `0` to `9`, `-` and `_`. A
numeral may start with zeros; the minimal numeral of a number does not, and
zero is written `A`.

## Main definitions

* `Base64.digitOf?`, `Base64.charOf`: one digit and its character
* `Base64.valueOf`: the number that digits stand for
* `Base64.numeral`: the minimal numeral of a number

## Main results

* `Base64.digitOf?_charOf`: every digit is read back
-/

namespace ChatFeed.Base64

/-- The digit that a character stands for. -/
def digitOf? (c : Char) : Option Nat :=
  if 'A' ≤ c ∧ c ≤ 'Z' then some (c.toNat - 'A'.toNat)
  else if 'a' ≤ c ∧ c ≤ 'z' then some (c.toNat - 'a'.toNat + 26)
  else if '0' ≤ c ∧ c ≤ '9' then some (c.toNat - '0'.toNat + 52)
  else if c = '-' then some 62
  else if c = '_' then some 63
  else none

/-- The character of a digit below 64. -/
def charOf (digit : Nat) : Char :=
  if digit < 26 then Char.ofNat ('A'.toNat + digit)
  else if digit < 52 then Char.ofNat ('a'.toNat + (digit - 26))
  else if digit < 62 then Char.ofNat ('0'.toNat + (digit - 52))
  else if digit = 62 then '-'
  else '_'

theorem digitOf?_charOf {digit : Nat} (small : digit < 64) :
    digitOf? (charOf digit) = some digit := by
  have all : ∀ d ∈ List.range 64, digitOf? (charOf d) = some d := by decide
  exact all digit (List.mem_range.mpr small)

/-- Every character of the alphabet is one of the 64 digits' own. -/
theorem digitOf?_lt {c : Char} {digit : Nat} (read : digitOf? c = some digit) : digit < 64 := by
  have toNat_le {a b : Char} (h : a ≤ b) : a.toNat ≤ b.toNat := h
  unfold digitOf? at read
  split at read
  next h =>
    have := toNat_le h.2
    simp_all
    omega
  split at read
  next h =>
    have := toNat_le h.2
    simp_all
    omega
  split at read
  next h =>
    have := toNat_le h.2
    simp_all
    omega
  split at read
  next => simp_all; omega
  split at read
  next => simp_all; omega
  next => simp at read

/-- The number that digits stand for, the most significant first. -/
def valueOf (digits : List Nat) : Nat :=
  digits.foldl (fun value digit => value * 64 + digit) 0

/-- The digits of `n` without leading zeros. -/
def digitsOf (n : Nat) : List Nat :=
  if n < 64 then [n] else digitsOf (n / 64) ++ [n % 64]
termination_by n
decreasing_by omega

/-- The minimal numeral of `n`. -/
def numeral (n : Nat) : List Char :=
  (digitsOf n).map charOf

theorem valueOf_append_singleton (digits : List Nat) (digit : Nat) :
    valueOf (digits ++ [digit]) = valueOf digits * 64 + digit := by
  simp [valueOf]

theorem digitsOf_lt {n digit : Nat} (mem : digit ∈ digitsOf n) : digit < 64 := by
  fun_induction digitsOf n with
  | case1 n small => simp_all
  | case2 n large ih =>
    rcases List.mem_append.mp mem with h | h
    · exact ih h
    · have : digit = n % 64 := by simpa using h
      omega

end ChatFeed.Base64
