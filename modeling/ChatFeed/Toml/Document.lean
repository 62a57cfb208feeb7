import ChatFeed.Toml.Value

/-!
# TOML documents

A document is a sequence of statements. Each ends with its line and may be
followed by a comment. Keys belong to the table of the header above them.

## Main definitions

* `Toml.Statement`: a key with its value, or a header
* `Toml.statements?`: the statements of a text
* `Toml.document?`: the table with a given text
-/

namespace ChatFeed.Toml

/-- A line of a document, or several lines for a value that takes them. -/
inductive Statement where
  | pair (key : Key) (value : Item)
  /-- The header of a table. -/
  | table (key : Key)
  /-- The header of the next table of an array. -/
  | element (key : Key)

/-- The statement at the start of the text, which holds less than `fuel` characters, and the text
after it. -/
def statement? (fuel : Nat) (cs : List Char) : Option (Statement × List Char) :=
  match cs with
  | '[' :: '[' :: rest =>
    match key? maxDepth rest with
    | some (key, ']' :: ']' :: rest) => some (.element key, rest)
    | _ => none
  | '[' :: rest =>
    match key? maxDepth rest with
    | some (key, ']' :: rest) => some (.table key, rest)
    | _ => none
  | _ =>
    match key? maxDepth cs with
    | some (key, '=' :: rest) =>
      (value? fuel maxDepth (skipBlanks rest)).map fun (value, rest) => (.pair key value, rest)
    | _ => none

/-- The statements of a text that holds less than `fuel` characters. -/
def statements? (fuel : Nat) (cs : List Char) : Option (List Statement) :=
  match fuel with
  | 0 => none
  | fuel + 1 =>
    match skipFiller false cs with
    | [] => some []
    | rest =>
      match statement? fuel rest with
      | none => none
      | some (statement, rest) =>
        match endLine? rest with
        | none => none
        | some rest => (statements? fuel rest).map (statement :: ·)

/-- A document as far as it is read. -/
structure Draft where
  entries : Entries := []
  /-- The path of the last header. -/
  path : List String := []

namespace Draft

/-- Adds the next statement. -/
def add? (draft : Draft) : Statement → Option Draft
  | .pair key value =>
    (draft.entries.changeAt? (Entries.addPair? key.name value key.around) draft.path).map
      fun entries => { draft with entries }
  | .table key =>
    (draft.entries.changeAt? (Entries.openTable? key.name) key.around).map (⟨·, key.path⟩)
  | .element key =>
    (draft.entries.changeAt? (Entries.openElement? key.name) key.around).map (⟨·, key.path⟩)

end Draft

/-- The entries of the document with text `s`, which may start with a byte order mark. -/
def document? (s : String) : Option Entries :=
  let cs := match s.toList with
    | '\uFEFF' :: rest => rest
    | cs => cs
  match statements? (cs.length + 1) cs with
  | none => none
  | some statements => (statements.foldlM Draft.add? {}).map Draft.entries

end ChatFeed.Toml
