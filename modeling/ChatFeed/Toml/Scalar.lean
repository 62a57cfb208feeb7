import ChatFeed.Toml.Basic
import ChatFeed.Toml.Text

/-!
# Numbers, truth values and dates of TOML

These are written without quotation marks, as one run of letters, digits and
the characters `+ - . : _`. Only a date and a time of day may be two such runs,
with a space between them.

## Main definitions

* `Toml.ofRun?`: the value that a run stands for
* `Toml.scalar?`: a value without quotation marks
-/

namespace ChatFeed.Toml

/-! ### Numbers -/

/-- The sign of a number, and the text after it. -/
def signed : List Char → Bool × List Char
  | '-' :: rest => (true, rest)
  | '+' :: rest => (false, rest)
  | cs => (false, cs)

/-- The digits of a number without the underscores, each of which has to stand between two
digits. -/
def ungrouped? : List Char → Option (List Char)
  | [] => some []
  | '_' :: _ => none
  | [c] => some [c]
  | [_, '_'] => none
  | c :: '_' :: rest => (ungrouped? rest).map (c :: ·)
  | c :: rest => (ungrouped? rest).map (c :: ·)

/-- The number that digits of the base stand for, underscores between them aside. -/
def grouped? (base : Nat) (cs : List Char) : Option Nat :=
  (ungrouped? cs).bind (Numeral.ofDigits? base)

/-- The number that decimal digits stand for, which start with `0` only if there is no other. -/
def whole? (cs : List Char) : Option Nat :=
  match cs with
  | '0' :: _ :: _ => none
  | _ => grouped? 10 cs

/-- The integer that a run stands for, with 64 bits and a sign. A base other than ten is marked in
front of the digits and excludes a sign. -/
def integer? (cs : List Char) : Option Int :=
  let value : Option Int := match cs with
    | '0' :: 'x' :: digits => (grouped? 16 digits).map Int.ofNat
    | '0' :: 'o' :: digits => (grouped? 8 digits).map Int.ofNat
    | '0' :: 'b' :: digits => (grouped? 2 digits).map Int.ofNat
    | _ =>
      let (negative, digits) := signed cs
      (whole? digits).map fun n => if negative then -n else n
  value.filter fun n => Int64.minValue.toInt ≤ n && n ≤ Int64.maxValue.toInt

/-- The exponent at the end of a number, or nothing in its place. -/
def exponent? : List Char → Option Int
  | [] => some 0
  | _ :: rest =>
    let (negative, digits) := signed rest
    (grouped? 10 digits).map fun n => if negative then -n else n

/-- The digits after the point of a number, or nothing in its place. -/
def fraction? : List Char → Option (List Char)
  | [] => some []
  | _ :: digits => if digits.isEmpty then none else ungrouped? digits

/-- Whether a run is a number with a fraction or an exponent, an infinity or no number. It may be
too large for double precision only below zero. -/
def isFloat (cs : List Char) : Bool :=
  let (negative, size) := signed cs
  let mantissa := size.takeWhile fun c => c ≠ 'e' && c ≠ 'E'
  let exponent := size.drop mantissa.length
  let whole := mantissa.takeWhile (· ≠ '.')
  let fraction := mantissa.drop whole.length
  if size = ['i', 'n', 'f'] || size = ['n', 'a', 'n'] then true
  else if exponent.isEmpty && fraction.isEmpty then false
  else
    match whole? whole, ungrouped? whole, fraction? fraction, exponent? exponent with
    | some _, some whole, some fraction, some exponent =>
      match Numeral.ofDigits? 10 (whole ++ fraction) with
      | none => false
      | some digits => negative || Numeral.isFinite digits (exponent - fraction.length)
    | _, _, _, _ => false

/-! ### Dates and times of day -/

/-- Whether the digits are a number of at least `low` and at most `high`. -/
def isWithin (low high : Nat) (digits : List Char) : Bool :=
  match Numeral.ofDigits? 10 digits with
  | none => false
  | some n => low ≤ n && n ≤ high

/-- The number of days in a month of a year. -/
def daysIn (year month : Nat) : Nat :=
  if month = 2 then
    if year % 4 = 0 ∧ (year % 100 ≠ 0 ∨ year % 400 = 0) then 29 else 28
  else if month = 4 ∨ month = 6 ∨ month = 9 ∨ month = 11 then 30
  else 31

/-- Whether a run is a day of the calendar. -/
def isDate : List Char → Bool
  | [y₁, y₂, y₃, y₄, '-', m₁, m₂, '-', d₁, d₂] =>
    match Numeral.ofDigits? 10 [y₁, y₂, y₃, y₄], Numeral.ofDigits? 10 [m₁, m₂] with
    | some year, some month =>
      1 ≤ month && month ≤ 12 && isWithin 1 (daysIn year month) [d₁, d₂]
    | _, _ => false
  | _ => false

/-- Whether a run is a time of day. A minute may have a leap second. -/
def isTime : List Char → Bool
  | h₁ :: h₂ :: ':' :: m₁ :: m₂ :: ':' :: s₁ :: s₂ :: rest =>
    isWithin 0 23 [h₁, h₂] && isWithin 0 59 [m₁, m₂] && isWithin 0 60 [s₁, s₂] &&
      match rest with
      | [] => true
      | '.' :: digits => !digits.isEmpty && digits.all Char.isDigit
      | _ => false
  | _ => false

/-- Whether a run is the difference of a local time from universal time. -/
def isOffset : List Char → Bool
  | ['Z'] | ['z'] => true
  | [sign, h₁, h₂, ':', m₁, m₂] =>
    (sign = '+' || sign = '-') && isWithin 0 23 [h₁, h₂] && isWithin 0 59 [m₁, m₂]
  | _ => false

/-- Whether a run is a time of day, with an offset or without. -/
def isClock (cs : List Char) : Bool :=
  let time := cs.takeWhile fun c => c ≠ 'Z' && c ≠ 'z' && c ≠ '+' && c ≠ '-'
  let offset := cs.drop time.length
  isTime time && (offset.isEmpty || isOffset offset)

/-- Whether a run is a day, a time of day without an offset, or both with a `T` between them. -/
def isMoment (cs : List Char) : Bool :=
  isDate cs || isTime cs ||
    match cs.drop 10 with
    | 'T' :: clock | 't' :: clock => isDate (cs.take 10) && isClock clock
    | _ => false

/-! ### Runs -/

/-- The value that a run stands for. -/
def ofRun? (cs : List Char) : Option Item :=
  if cs = ['t', 'r', 'u', 'e'] then some (.boolean true)
  else if cs = ['f', 'a', 'l', 's', 'e'] then some (.boolean false)
  else
    match integer? cs with
    | some n => some (.integer n)
    | none =>
      if isFloat cs then some (.float (String.ofList cs))
      else if isMoment cs then some (.dateTime (String.ofList cs))
      else none

/-- Whether a run may hold the character. -/
def isRun (c : Char) : Bool :=
  c.isAlphanum || c = '+' || c = '-' || c = '.' || c = ':' || c = '_'

/-- The first run of the text, and the text after it. -/
def run (cs : List Char) : List Char × List Char :=
  (cs.takeWhile isRun, cs.dropWhile isRun)

/-- The value of one run, or of two runs for a date and a time of day, and the text after it. -/
def scalar? (cs : List Char) : Option (Item × List Char) :=
  let (first, rest) := run cs
  match rest with
  | ' ' :: more =>
    let (second, rest') := run more
    if second.isEmpty then (ofRun? first).map (·, rest)
    else if isDate first && isClock second then
      some (.dateTime (String.ofList (first ++ ' ' :: second)), rest')
    else none
  | _ => (ofRun? first).map (·, rest)

end ChatFeed.Toml
