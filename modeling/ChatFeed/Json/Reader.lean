import ChatFeed.Json.Basic

/-!
# Reading JSON text

A text is one value between blanks. Blanks are spaces, tabs, line feeds and
carriage returns. Numbers have no leading zeros, a fraction and an exponent
have at least one digit, and strings hold no control characters.

## Main definitions

* `Json.ofText?`: the value with a given text
-/

namespace ChatFeed.Json

/-- Whether blanks may consist of the character. -/
def isBlank (c : Char) : Bool :=
  c = ' ' || c = '\n' || c = '\t' || c = '\r'

/-- The text from its first character that is no blank. -/
def skipBlanks (cs : List Char) : List Char :=
  cs.dropWhile isBlank

/-! ### Strings -/

/-- The character that a backslash and `c` stand for. -/
def escaped? (c : Char) : Option Char :=
  match c with
  | '"' => some '"'
  | '\\' => some '\\'
  | '/' => some '/'
  | 'b' => some '\x08'
  | 'f' => some '\x0c'
  | 'n' => some '\n'
  | 'r' => some '\r'
  | 't' => some '\t'
  | _ => none

/-- What stands in a quoted text: characters, and sixteen-bit units given by number. -/
inductive Piece where
  | char (c : Char)
  | unit (n : Nat)
deriving DecidableEq

/-- The pieces up to the closing quote, and the text after it. -/
def pieces? : List Char → Option (List Piece × List Char)
  | [] => none
  | '"' :: rest => some ([], rest)
  | '\\' :: 'u' :: a :: b :: c :: d :: rest =>
    match Numeral.ofDigits? 16 [a, b, c, d], pieces? rest with
    | some n, some (pieces, rest) => some (.unit n :: pieces, rest)
    | _, _ => none
  | '\\' :: c :: rest =>
    match escaped? c, pieces? rest with
    | some c, some (pieces, rest) => some (.char c :: pieces, rest)
    | _, _ => none
  | c :: rest =>
    if c.toNat < 0x20 ∨ c = '\\' then none
    else
      match pieces? rest with
      | some (pieces, rest) => some (.char c :: pieces, rest)
      | none => none

/-- The characters that pieces stand for. A unit from 0xD800 to 0xDBFF stands for a character only
together with a unit from 0xDC00 to 0xDFFF right after it, and the latter only so. -/
def characters? : List Piece → Option (List Char)
  | [] => some []
  | .char c :: rest => (characters? rest).map (c :: ·)
  | .unit high :: .unit low :: rest =>
    if high < 0xD800 ∨ 0xDFFF < high then
      (characters? (.unit low :: rest)).map (Char.ofNat high :: ·)
    else if high < 0xDC00 ∧ 0xDC00 ≤ low ∧ low ≤ 0xDFFF then
      (characters? rest).map
        (Char.ofNat (0x10000 + (high - 0xD800) * 0x400 + (low - 0xDC00)) :: ·)
    else none
  | .unit n :: rest =>
    if n < 0xD800 ∨ 0xDFFF < n then (characters? rest).map (Char.ofNat n :: ·) else none

/-- The quoted text after an opening quote, and the text after its closing quote. -/
def quoted? (cs : List Char) : Option (Quoted × List Char) :=
  (pieces? cs).map fun (pieces, rest) => ((characters? pieces).map String.ofList, rest)

/-! ### Numbers -/

/-- The digits at the start of the text, and the text after them. -/
def digits (cs : List Char) : List Char × List Char :=
  (cs.takeWhile Char.isDigit, cs.dropWhile Char.isDigit)

/-- The digits of a whole part: `0` alone, or digits that do not start with `0`. -/
def whole? (cs : List Char) : Option (List Char × List Char) :=
  match cs with
  | '0' :: rest => some (['0'], rest)
  | _ => if (digits cs).1.isEmpty then none else some (digits cs)

/-- The digits of a fraction, if there is one. -/
def fraction? (cs : List Char) : Option (List Char × List Char) :=
  match cs with
  | '.' :: rest => if (digits rest).1.isEmpty then none else some (digits rest)
  | _ => some ([], cs)

/-- The exponent, if there is one. -/
def exponent? (cs : List Char) : Option (Option Int × List Char) :=
  let unsigned (negative : Bool) (rest : List Char) : Option (Option Int × List Char) :=
    match Numeral.ofDigits? 10 (digits rest).1 with
    | none => none
    | some size => some (some (if negative then -size else size), (digits rest).2)
  match cs with
  | 'e' :: '-' :: rest | 'E' :: '-' :: rest => unsigned true rest
  | 'e' :: '+' :: rest | 'E' :: '+' :: rest => unsigned false rest
  | 'e' :: rest | 'E' :: rest => unsigned false rest
  | _ => some (none, cs)

/-- The number without its sign, and the text after it. -/
def magnitude? (negative : Bool) (cs : List Char) : Option (Json × List Char) :=
  match whole? cs with
  | none => none
  | some (whole, rest) =>
    match fraction? rest with
    | none => none
    | some (fraction, rest) =>
      match exponent? rest with
      | none => none
      | some (exponent, rest) =>
        match Numeral.ofDigits? 10 (whole ++ fraction) with
        | none => none
        | some size =>
          if fraction.isEmpty && exponent.isNone && !(negative && size = 0) then
            some (.integer (if negative then -size else size), rest)
          else some (.real negative size (exponent.getD 0 - fraction.length), rest)

/-- The number at the start of the text, and the text after it. -/
def number? (cs : List Char) : Option (Json × List Char) :=
  match cs with
  | '-' :: rest => magnitude? true rest
  | _ => magnitude? false cs

/-! ### Values -/

mutual

/-- The value at the start of the text, which holds less than `fuel` characters, and the text
after it. -/
def value? (fuel : Nat) (cs : List Char) : Option (Json × List Char) :=
  match fuel with
  | 0 => none
  | fuel + 1 =>
    match skipBlanks cs with
    | 'n' :: 'u' :: 'l' :: 'l' :: rest => some (.null, rest)
    | 't' :: 'r' :: 'u' :: 'e' :: rest => some (.bool true, rest)
    | 'f' :: 'a' :: 'l' :: 's' :: 'e' :: rest => some (.bool false, rest)
    | '"' :: rest => (quoted? rest).map fun (text, rest) => (.string text, rest)
    | '[' :: rest =>
      match skipBlanks rest with
      | ']' :: rest => some (.array [], rest)
      | rest => (items? fuel rest).map fun (items, rest) => (.array items, rest)
    | '\x7b' :: rest =>
      match skipBlanks rest with
      | '\x7d' :: rest => some (.object [], rest)
      | rest => (members? fuel rest).map fun (members, rest) => (.object members, rest)
    | rest => number? rest

/-- The items up to the end of an array that is not empty, and the text after it. -/
def items? (fuel : Nat) (cs : List Char) : Option (List Json × List Char) :=
  match fuel with
  | 0 => none
  | fuel + 1 =>
    match value? fuel cs with
    | none => none
    | some (item, rest) =>
      match skipBlanks rest with
      | ',' :: rest => (items? fuel rest).map fun (items, rest) => (item :: items, rest)
      | ']' :: rest => some ([item], rest)
      | _ => none

/-- The members up to the end of an object that is not empty, and the text after it. -/
def members? (fuel : Nat) (cs : List Char) : Option (List (Quoted × Json) × List Char) :=
  match fuel with
  | 0 => none
  | fuel + 1 =>
    match skipBlanks cs with
    | '"' :: rest =>
      match quoted? rest with
      | none => none
      | some (name, rest) =>
        match skipBlanks rest with
        | ':' :: rest =>
          match value? fuel rest with
          | none => none
          | some (value, rest) =>
            match skipBlanks rest with
            | ',' :: rest =>
              (members? fuel rest).map fun (members, rest) => ((name, value) :: members, rest)
            | '\x7d' :: rest => some ([(name, value)], rest)
            | _ => none
        | _ => none
    | _ => none

end

/-- The value with text `s`. -/
def ofText? (s : String) : Option Json :=
  let cs := s.toList
  match value? (cs.length + 1) cs with
  | none => none
  | some (value, rest) => if (skipBlanks rest).isEmpty then some value else none

end ChatFeed.Json
