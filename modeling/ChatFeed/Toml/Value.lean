import ChatFeed.Toml.Scalar
import ChatFeed.Toml.Table

/-!
# Keys and values of TOML

An array may be broken into lines between its items and may end in a comma. A
table between braces has no line ends between its pairs and no comma after the
last one.

## Main definitions

* `Toml.key?`: a key
* `Toml.value?`: a value
-/

namespace ChatFeed.Toml

/-! ### Keys -/

/-- Whether a key without quotation marks may hold the character. -/
def isKeyChar (c : Char) : Bool :=
  c.isAlphanum || c = '-' || c = '_'

/-- One part of a key, and the text after it. -/
def keyPart? : List Char → Option (String × List Char)
  | '"' :: rest => lineString? '"' rest
  | '\'' :: rest => lineString? '\'' rest
  | cs =>
    let name := cs.takeWhile isKeyChar
    if name.isEmpty then none else some (String.ofList name, cs.drop name.length)

/-- The key at the start of the text, with at most `room` parts, and the text after it. Blanks may
stand around every part. -/
def key? (room : Nat) (cs : List Char) : Option (Key × List Char) :=
  match room with
  | 0 => none
  | room + 1 =>
    match keyPart? (skipBlanks cs) with
    | none => none
    | some (part, rest) =>
      match skipBlanks rest with
      | '.' :: rest =>
        (key? room rest).map fun (key, rest) => ({ key with around := part :: key.around }, rest)
      | rest => some (⟨[], part⟩, rest)

/-- The most parts of a key, and the deepest nesting of a value. -/
def maxDepth : Nat := 79

/-! ### Values -/

mutual

/-- The value at the start of the text, which holds less than `fuel` characters, and the text
after it. Arrays and tables may be nested `room` deep. -/
def value? (fuel room : Nat) (cs : List Char) : Option (Item × List Char) :=
  match fuel with
  | 0 => none
  | fuel + 1 =>
    match cs with
    | '"' :: rest => (string? '"' rest).map fun (text, rest) => (.string text, rest)
    | '\'' :: rest => (string? '\'' rest).map fun (text, rest) => (.string text, rest)
    | '[' :: rest =>
      if room = 0 then none
      else (items? fuel (room - 1) rest).map fun (items, rest) => (.array items, rest)
    | '\x7b' :: rest =>
      if room = 0 then none
      else
        match skipBlanks rest with
        | '\x7d' :: rest => some (.table .inline [], rest)
        | rest =>
          (pairs? fuel (room - 1) [] rest).map fun (entries, rest) =>
            (.table .inline entries, rest)
    | _ => scalar? cs

/-- The items up to the end of an array, and the text after it. -/
def items? (fuel room : Nat) (cs : List Char) : Option (List Item × List Char) :=
  match fuel with
  | 0 => none
  | fuel + 1 =>
    match skipFiller false cs with
    | ']' :: rest => some ([], rest)
    | rest =>
      match value? fuel room rest with
      | none => none
      | some (item, rest) =>
        match skipFiller false rest with
        | ',' :: rest => (items? fuel room rest).map fun (items, rest) => (item :: items, rest)
        | ']' :: rest => some ([item], rest)
        | _ => none

/-- The entries of a table between braces, of which `entries` stand before the text, and the text
after it. -/
def pairs? (fuel room : Nat) (entries : Entries) (cs : List Char) :
    Option (Entries × List Char) :=
  match fuel with
  | 0 => none
  | fuel + 1 =>
    match key? maxDepth cs with
    | some (key, '=' :: rest) =>
      match value? fuel room (skipBlanks rest) with
      | none => none
      | some (value, rest) =>
        match entries.addPair? key.name value key.around with
        | none => none
        | some entries =>
          match skipBlanks rest with
          | ',' :: rest => pairs? fuel room entries rest
          | '\x7d' :: rest => some (entries, rest)
          | _ => none
    | _ => none

end

end ChatFeed.Toml
