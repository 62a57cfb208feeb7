import ChatFeed.Json.Basic

/-!
# Writing JSON text

Values are written without blanks. Of the characters of a string, the quote,
the backslash and the control characters are escaped.

## Main definitions

* `Json.toText`: the text of a value
-/

namespace ChatFeed.Json

/-- The character of a hexadecimal digit, in lower case. -/
def hexChar (digit : Nat) : Char :=
  if digit < 10 then Char.ofNat ('0'.toNat + digit) else Char.ofNat ('a'.toNat + (digit - 10))

/-- A character as it stands in a quoted text. -/
def escape (c : Char) : List Char :=
  match c with
  | '"' => ['\\', '"']
  | '\\' => ['\\', '\\']
  | '\x08' => ['\\', 'b']
  | '\x0c' => ['\\', 'f']
  | '\n' => ['\\', 'n']
  | '\r' => ['\\', 'r']
  | '\t' => ['\\', 't']
  | c =>
    if c.toNat < 0x20 then ['\\', 'u', '0', '0', hexChar (c.toNat / 16), hexChar (c.toNat % 16)]
    else [c]

/-- A quoted text. One without characters is written as one half of a surrogate pair. -/
def printQuoted : Quoted → List Char
  | some s => '"' :: (s.toList.flatMap escape ++ ['"'])
  | none => ['"', '\\', 'u', 'd', '8', '0', '0', '"']

/-- An integer in decimal. -/
def printInteger (n : Int) : List Char :=
  if n < 0 then '-' :: Nat.toDigits 10 n.natAbs else Nat.toDigits 10 n.natAbs

mutual

/-- The characters of a value. -/
def print : Json → List Char
  | .null => "null".toList
  | .bool true => "true".toList
  | .bool false => "false".toList
  | .integer value => printInteger value
  | .real negative digits exponent =>
    (if negative then ['-'] else []) ++ Nat.toDigits 10 digits ++ 'e' :: printInteger exponent
  | .string text => printQuoted text
  | .array [] => ['[', ']']
  | .array (item :: rest) => '[' :: (print item ++ printItems rest)
  | .object [] => ['\x7b', '\x7d']
  | .object ((name, value) :: rest) =>
    '\x7b' :: (printQuoted name ++ ':' :: (print value ++ printMembers rest))

/-- The items of an array after another item, and its end. -/
def printItems : List Json → List Char
  | [] => [']']
  | item :: rest => ',' :: (print item ++ printItems rest)

/-- The members of an object after another member, and its end. -/
def printMembers : List (Quoted × Json) → List Char
  | [] => ['\x7d']
  | (name, value) :: rest =>
    ',' :: (printQuoted name ++ ':' :: (print value ++ printMembers rest))

end

/-- The text of a value. -/
def toText (value : Json) : String :=
  String.ofList (print value)

end ChatFeed.Json
