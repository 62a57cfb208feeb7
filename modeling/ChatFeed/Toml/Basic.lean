/-!
# TOML values

A document is a table. How a table came into being decides what a later line of
the document may add to it, so that a table remembers its origin.

## Main definitions

* `Toml.Item`: a value, a table or an array of tables
* `Toml.Item.fields?`: the fields of an item that stands for a record
-/

namespace ChatFeed.Toml

/-- How a table came into being. -/
inductive Origin where
  /-- From the header of a table inside it. -/
  | implied
  /-- From a dotted key in front of a value. -/
  | dotted
  /-- From a header of its own. -/
  | header
  /-- Between braces, where it is complete. -/
  | inline
deriving DecidableEq, Repr

/-- What a key of a document stands for. -/
inductive Item where
  | string (text : String)
  | integer (value : Int)
  /-- A number with a fraction or an exponent, an infinity or no number, as it is written. -/
  | float (text : String)
  | boolean (value : Bool)
  /-- A date, a time or both, as it is written. -/
  | dateTime (text : String)
  | array (items : List Item)
  | table (origin : Origin) (entries : List (String × Item))
  /-- An array of tables, each with a header of its own: the last one, and those before it from
  the latest to the earliest. -/
  | tables (last : List (String × Item)) (earlier : List (List (String × Item)))

instance : Inhabited Item := ⟨.boolean false⟩

/-- The entries of a table in order. No key occurs twice. -/
abbrev Entries := List (String × Item)

/-- Puts `item` in the place of what `key` stands for. -/
def Entries.replace (key : String) (item : Item) (entries : Entries) : Entries :=
  entries.map fun entry => if entry.1 = key then (key, item) else entry

/-- The fields of an item that stands for a record with the given fields: the entries of a table
by their keys, or the items of an array in order. Entries with other keys do not matter, and
neither do items in excess. A date stands for a record without fields. -/
def Item.fields? (names : List String) : Item → Option (String → Option Item)
  | .table _ entries => some fun name => entries.lookup name
  | .array items => some fun name => (names.zip items).lookup name
  | .tables last earlier =>
    let items := (earlier.reverse ++ [last]).map (Item.table .header)
    some fun name => (names.zip items).lookup name
  | .dateTime _ => some fun _ => none
  | _ => none

end ChatFeed.Toml
