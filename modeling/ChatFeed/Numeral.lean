/-!
# Numerals

Numbers are written in digits of a base up to sixteen, the most significant
first.

## Main definitions

* `Numeral.ofDigits?`: the number that digits stand for
* `Numeral.unsigned?`: the number in a text of its own
* `Numeral.isFinite`: whether double precision holds a decimal number
* `Numeral.leading`: the leading digits of a decimal number
* `Numeral.nearestDouble`: a natural number rounded to double precision

## Main results

* `Numeral.ofDigits?_concat`: the value of one more digit
-/

namespace ChatFeed.Numeral

/-- The value of a digit in either case. -/
def digit? (c : Char) : Option Nat :=
  if '0' ≤ c ∧ c ≤ '9' then some (c.toNat - '0'.toNat)
  else if 'a' ≤ c ∧ c ≤ 'f' then some (c.toNat - 'a'.toNat + 10)
  else if 'A' ≤ c ∧ c ≤ 'F' then some (c.toNat - 'A'.toNat + 10)
  else none

/-- The number with the digits of `value` and then the digit `c`. -/
def append? (base value : Nat) (c : Char) : Option Nat :=
  match digit? c with
  | some digit => if digit < base then some (value * base + digit) else none
  | none => none

/-- The number that digits of the base stand for. There has to be one digit at least, and nothing
else. -/
def ofDigits? (base : Nat) (cs : List Char) : Option Nat :=
  if cs.isEmpty then none else cs.foldlM (append? base) 0

theorem ofDigits?_singleton (base : Nat) (c : Char) :
    ofDigits? base [c] = append? base 0 c := by
  simp [ofDigits?]

theorem ofDigits?_concat (base : Nat) {cs : List Char} (c : Char) (some_digit : cs ≠ []) :
    ofDigits? base (cs ++ [c]) = (ofDigits? base cs).bind (append? base · c) := by
  simp [ofDigits?, some_digit]

/-- The number in a text that holds decimal digits, after a `+` or not, and nothing else. -/
def unsigned? (s : String) : Option Nat :=
  match s.toList with
  | '+' :: digits => ofDigits? 10 digits
  | digits => ofDigits? 10 digits

/-- The midpoint of the largest number of double precision and the next power of two. -/
def overflow : Nat :=
  1 <<< 1024 - 1 <<< 970

/-- Whether `digits · 10 ^ exponent` rounds to a finite number of double precision. The least
number that does not has 309 digits, so that only numbers of that length are compared with it. -/
def isFinite (digits : Nat) (exponent : Int) : Bool :=
  let length := (Nat.toDigits 10 digits).length + exponent
  if digits = 0 ∨ length < 309 then true
  else if 309 < length then false
  else if exponent < 0 then digits < overflow * Nat.pow 10 exponent.natAbs
  else digits * Nat.pow 10 exponent.natAbs < overflow

/-- The leading digits of `digits · 10 ^ exponent`, as many as make a number up to `limit`, and the
exponent of the power of ten that they count. -/
def leading (limit digits : Nat) (exponent : Int) : Nat × Int :=
  if digits ≤ limit then (digits, exponent) else leading limit (digits / 10) (exponent + 1)
termination_by digits
decreasing_by omega

/-- The number nearest to `n` whose binary digits after the first 53 are zeros; of two that are
equally near, the one whose 53rd digit is even. It has no upper bound. -/
def nearestDouble (n : Nat) : Nat :=
  let unit := 1 <<< (n.log2 - 52)
  let rest := n % unit
  if 2 * rest < unit ∨ (2 * rest = unit ∧ n / unit % 2 = 0) then n - rest else n - rest + unit

end ChatFeed.Numeral
