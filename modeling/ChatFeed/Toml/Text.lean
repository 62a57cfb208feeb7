import ChatFeed.Numeral

/-!
# Blanks, comments and strings of TOML

A string stands between quotation marks, where a backslash starts an escape, or
between apostrophes, where every character stands for itself. Between three
marks at each end a string may have several lines.

## Main definitions

* `Toml.skipFiller`, `Toml.endLine?`: what stands between the parts of a document
* `Toml.string?`: a string
-/

namespace ChatFeed.Toml

/-! ### Blanks and comments -/

/-- Whether a line may be indented by the character. -/
def isBlank (c : Char) : Bool :=
  c = ' ' || c = '\t'

/-- Whether the character may stand in a comment or between apostrophes: a tab, or no control
character of ASCII. -/
def isPlain (c : Char) : Bool :=
  c = '\t' || (0x20 ≤ c.toNat && c.toNat ≠ 0x7F)

/-- The text from its first character that is no blank. -/
def skipBlanks (cs : List Char) : List Char :=
  cs.dropWhile isBlank

/-- The text after the line end at its start. -/
def lineEnd? : List Char → Option (List Char)
  | '\n' :: rest => some rest
  | '\r' :: '\n' :: rest => some rest
  | _ => none

/-- The text after blanks and line ends. -/
def skipLineEnds : List Char → List Char
  | [] => []
  | '\n' :: rest => skipLineEnds rest
  | '\r' :: '\n' :: rest => skipLineEnds rest
  | c :: rest => if isBlank c then skipLineEnds rest else c :: rest

theorem length_lineEnd? {cs rest : List Char} (h : lineEnd? cs = some rest) :
    rest.length < cs.length := by
  unfold lineEnd? at h
  split at h
  · cases h
    exact Nat.lt_succ_self _
  · cases h
    exact Nat.lt_succ_of_lt (Nat.lt_succ_self _)
  · cases h

theorem length_skipLineEnds (cs : List Char) : (skipLineEnds cs).length ≤ cs.length := by
  fun_induction skipLineEnds cs with
  | case1 => exact Nat.le_refl _
  | case2 rest ih => exact Nat.le_succ_of_le ih
  | case3 rest ih => exact Nat.le_succ_of_le (Nat.le_succ_of_le ih)
  | case4 c rest _ _ _ ih => exact Nat.le_succ_of_le ih
  | case5 => exact Nat.le_refl _

/-- The text after blanks, comments and line ends, of which the first line may start inside a
comment. -/
def skipFiller (inComment : Bool) : List Char → List Char
  | [] => []
  | '\n' :: rest => skipFiller false rest
  | '\r' :: '\n' :: rest => skipFiller false rest
  | c :: rest =>
    if inComment then if isPlain c then skipFiller true rest else c :: rest
    else if isBlank c then skipFiller false rest
    else if c = '#' then skipFiller true rest
    else c :: rest

/-- The text after the rest of a line, which holds no more than a comment. -/
def endLine? (cs : List Char) : Option (List Char) :=
  let rest := match skipBlanks cs with
    | '#' :: rest => rest.dropWhile isPlain
    | rest => rest
  if rest.isEmpty then some [] else lineEnd? rest

/-! ### Escapes -/

/-- The character whose number has `width` hexadecimal digits at the start of the text, and the
text after them. -/
def codePoint? (width : Nat) (cs : List Char) : Option (Char × List Char) :=
  let digits := cs.take width
  if digits.length < width then none
  else
    match Numeral.ofDigits? 16 digits with
    | none => none
    | some n => if n.isValidChar then some (Char.ofNat n, cs.drop width) else none

/-- The character that stands after a backslash, and the text after its escape. -/
def escape? : List Char → Option (Char × List Char)
  | 'b' :: rest => some ('\x08', rest)
  | 't' :: rest => some ('\t', rest)
  | 'n' :: rest => some ('\n', rest)
  | 'f' :: rest => some ('\x0c', rest)
  | 'r' :: rest => some ('\r', rest)
  | '"' :: rest => some ('"', rest)
  | '\\' :: rest => some ('\\', rest)
  | 'u' :: rest => codePoint? 4 rest
  | 'U' :: rest => codePoint? 8 rest
  | _ => none

theorem length_codePoint? {width : Nat} {cs rest : List Char} {c : Char}
    (h : codePoint? width cs = some (c, rest)) : rest.length ≤ cs.length := by
  simp only [codePoint?] at h
  split at h
  · cases h
  · split at h
    · cases h
    · split at h
      · cases h
        simp
      · cases h

theorem length_escape? {cs rest : List Char} {c : Char} (h : escape? cs = some (c, rest)) :
    rest.length < cs.length := by
  unfold escape? at h
  split at h
  any_goals
    cases h
    simp
  · exact Nat.lt_succ_of_le (length_codePoint? h)
  · exact Nat.lt_succ_of_le (length_codePoint? h)
  · cases h

/-! ### Strings -/

/-- Which mark a string stands between, and whether there are three of them at each end. -/
structure Quotation where
  mark : Char
  multiline : Bool

namespace Quotation

/-- The text that ends a string: what of it still belongs to the string, and what follows. Three
marks end a string of several lines, and up to two more in front of them belong to it. -/
def close? (q : Quotation) (cs : List Char) : Option (List Char × List Char) :=
  if q.multiline then
    let marks := (cs.takeWhile (· = q.mark)).take 5
    if marks.length < 3 then none else some (marks.drop 3, cs.drop marks.length)
  else
    match cs with
    | [] => none
    | c :: rest => if c = q.mark then some ([], rest) else none

/-- What the first part of a string stands for, and the text after that part. A line end stands
for a line feed. After a backslash at the end of a line, line ends and blanks stand for
nothing. -/
def part? (q : Quotation) : List Char → Option (List Char × List Char)
  | [] => none
  | c :: rest =>
    if q.multiline && (c = '\n' || c = '\r') then
      (lineEnd? (c :: rest)).map (['\n'], ·)
    else if q.mark = '"' && c = '\\' then
      if q.multiline && (lineEnd? (skipBlanks rest)).isSome then
        some ([], skipLineEnds rest)
      else (escape? rest).map fun (c, rest) => ([c], rest)
    else if isPlain c then some ([c], rest)
    else none

theorem length_part? {q : Quotation} {cs part rest : List Char}
    (h : q.part? cs = some (part, rest)) : rest.length < cs.length := by
  unfold part? at h
  split at h
  · cases h
  · split at h
    · obtain ⟨_, ends, same⟩ := Option.map_eq_some_iff.1 h
      cases same
      exact length_lineEnd? ends
    · split at h
      · split at h
        · cases h
          exact Nat.lt_succ_of_le (length_skipLineEnds _)
        · obtain ⟨_, escaped, same⟩ := Option.map_eq_some_iff.1 h
          cases same
          exact Nat.lt_succ_of_lt (length_escape? escaped)
      · split at h
        · cases h
          exact Nat.lt_succ_self _
        · cases h

/-- The characters of a string up to its end, and the text after it. -/
def characters? (q : Quotation) (cs : List Char) : Option (List Char × List Char) :=
  match q.close? cs with
  | some closed => some closed
  | none =>
    match _ : q.part? cs with
    | none => none
    | some (part, rest) =>
      (q.characters? rest).map fun (characters, rest) => (part ++ characters, rest)
termination_by cs.length
decreasing_by exact length_part? ‹_›

/-- The string whose opening marks stand before the text, and the text after it. -/
def string? (q : Quotation) (cs : List Char) : Option (String × List Char) :=
  (q.characters? cs).map fun (characters, rest) => (String.ofList characters, rest)

end Quotation

/-- The string of one line that starts with `mark`, which stands before the text. -/
def lineString? (mark : Char) (cs : List Char) : Option (String × List Char) :=
  Quotation.string? ⟨mark, false⟩ cs

/-- The string that starts with `mark`, which stands before the text. A line end right after three
opening marks does not belong to the string. -/
def string? (mark : Char) (cs : List Char) : Option (String × List Char) :=
  if cs.take 2 = [mark, mark] then
    let rest := cs.drop 2
    Quotation.string? ⟨mark, true⟩ ((lineEnd? rest).getD rest)
  else lineString? mark cs

end ChatFeed.Toml
