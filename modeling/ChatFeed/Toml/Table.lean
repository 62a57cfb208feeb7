import ChatFeed.Toml.Basic

/-!
# What may be added to a table

A table is given once: by its header, by dotted keys in the part of the document
below one header, or between braces. Only a table implied by the header of
another one may still get a header of its own. Every key gets one value.

## Main definitions

* `Toml.Key`: a key, with the keys of the tables around it
* `Toml.Entries.addPair?`: adds a key and its value
* `Toml.Entries.openTable?`, `Toml.Entries.openElement?`: add a table for a header
* `Toml.Entries.changeAt?`: changes a table inside the tables that headers name
-/

namespace ChatFeed.Toml

/-- A key, with the keys of the tables around it from the outermost to the innermost. -/
structure Key where
  around : List String
  name : String
deriving DecidableEq, Repr

/-- All parts of the key. -/
def Key.path (key : Key) : List String :=
  key.around ++ [key.name]

namespace Entries

/-- The entries of the tables that dotted keys create around a value. -/
def nested (name : String) (value : Item) : List String → Entries
  | [] => [(name, value)]
  | table :: around => [(table, .table .dotted (nested name value around))]

/-- Adds a key that has no value yet. The tables around it are new or come from dotted keys. A
table that comes from a header may only be around such a table. -/
def addPair? (name : String) (value : Item) : List String → Entries → Option Entries
  | [], entries =>
    if (entries.lookup name).isSome then none else some (entries ++ [(name, value)])
  | table :: around, entries =>
    match entries.lookup table with
    | none => some (entries ++ [(table, .table .dotted (nested name value around))])
    | some (.table .dotted inner) =>
      (addPair? name value around inner).map fun inner =>
        entries.replace table (.table .dotted inner)
    | some (.table .implied inner) =>
      if around.isEmpty then none
      else
        (addPair? name value around inner).map fun inner =>
          entries.replace table (.table .implied inner)
    | some (.tables last earlier) =>
      if around.isEmpty then none
      else
        (addPair? name value around last).map fun last =>
          entries.replace table (.tables last earlier)
    | some _ => none

/-- Gives a table its header. -/
def openTable? (name : String) (entries : Entries) : Option Entries :=
  match entries.lookup name with
  | none => some (entries ++ [(name, .table .header [])])
  | some (.table .implied inner) => some (entries.replace name (.table .header inner))
  | some _ => none

/-- Gives the next table of an array its header. -/
def openElement? (name : String) (entries : Entries) : Option Entries :=
  match entries.lookup name with
  | none => some (entries ++ [(name, .tables [] [])])
  | some (.tables last earlier) => some (entries.replace name (.tables [] (last :: earlier)))
  | some _ => none

/-- Changes the table at the end of the path. Tables on the path that are missing are implied, and
an array of tables stands for its last one. -/
def changeAt? (change : Entries → Option Entries) : List String → Entries → Option Entries
  | [], entries => change entries
  | table :: path, entries =>
    match entries.lookup table with
    | none =>
      (changeAt? change path []).map fun inner => entries ++ [(table, .table .implied inner)]
    | some (.table origin inner) =>
      if origin = .inline then none
      else
        (changeAt? change path inner).map fun inner =>
          entries.replace table (.table origin inner)
    | some (.tables last earlier) =>
      (changeAt? change path last).map fun last => entries.replace table (.tables last earlier)
    | some _ => none

end Entries

end ChatFeed.Toml
