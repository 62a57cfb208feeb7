import ChatFeed.Numeral

/-!
# JSON values

A JSON value keeps what its text says: integers exactly, the members of an
object in order and with repetitions. The text may hold strings whose escapes
name only one half of a surrogate pair. Such a string has no characters, and is
allowed only where it is skipped.

## Main definitions

* `Json`: a value
* `Json.fits`: whether a value can be held before it is known what it is for
-/

namespace ChatFeed

/-- The characters of a quoted text; none if its escapes do not name characters. -/
abbrev Quoted := Option String

/-- A JSON value. -/
inductive Json where
  | null
  | bool (value : Bool)
  | integer (value : Int)
  /-- A number written with a fraction or an exponent, or as `-0`: the digits times a power of
  ten. -/
  | real (negative : Bool) (digits : Nat) (exponent : Int)
  | string (text : Quoted)
  | array (items : List Json)
  | object (members : List (Quoted × Json))

namespace Json

instance : Inhabited Json := ⟨null⟩

/-- The string with the characters of `s`. -/
def ofString (s : String) : Json :=
  .string (some s)

/-- The integer `n`. -/
def ofNat (n : Nat) : Json :=
  .integer n

/-- The object with the given members. -/
def record (members : List (String × Json)) : Json :=
  .object (members.map fun member => (some member.1, member.2))

/-- Whether the number `digits · 10 ^ exponent` stays finite in double precision, where it is made
in three steps that round: the leading digits that 64 bits hold, the power of ten and their
product. -/
def numberFits (digits : Nat) (exponent : Int) : Bool :=
  let (digits, exponent) := Numeral.leading (UInt64.size - 1) digits exponent
  if digits = 0 ∨ exponent < 0 then true
  else if 308 < exponent then false
  else
    let power := Numeral.nearestDouble (Nat.pow 10 exponent.natAbs)
    Numeral.nearestDouble (Numeral.nearestDouble digits * power) < 1 <<< 1024

mutual

/-- Whether a value can be held as it stands: its arrays and objects are nested at most `room`
deep, its numbers stay finite and its strings have characters. -/
def fits (room : Nat) : Json → Bool
  | .null => true
  | .bool _ => true
  | .integer value => numberFits value.natAbs 0
  | .real _ digits exponent => numberFits digits exponent
  | .string text => text.isSome
  | .array items => 0 < room && itemsFit (room - 1) items
  | .object members => 0 < room && membersFit (room - 1) members

/-- Whether all items of an array can be held. -/
def itemsFit (room : Nat) : List Json → Bool
  | [] => true
  | item :: rest => fits room item && itemsFit room rest

/-- Whether all members of an object can be held. -/
def membersFit (room : Nat) : List (Quoted × Json) → Bool
  | [] => true
  | (name, value) :: rest => name.isSome && fits room value && membersFit room rest

end

end Json

end ChatFeed
