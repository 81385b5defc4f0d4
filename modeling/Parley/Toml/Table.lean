/-
Module: Parley.Toml.Table
Layer: Toml
Purpose: Tables that grow as configuration text is read.  A table may be named by a header of its
  own, passed through on the way to another, or made by the path of a key; which of these it was
  decides how it may still be extended.  Every step goes down a path, acts at its end and rebuilds
  the tables on the way back.
Main exports: Toml.Node, Toml.Entries, Toml.Entries.assign, Toml.Entries.openTable,
  Toml.Entries.addTable, Toml.Entries.toDocument
-/
import Parley.Json.Document

namespace Parley.Toml

open Json (Document)

/-- How a table came about. -/
inductive Origin where
  /-- By its own header. -/
  | header
  /-- By the header of a table below it. -/
  | passed
  /-- By the path of a key below it. -/
  | dotted
deriving DecidableEq, Repr, Inhabited

/-- What stands under a key. -/
inductive Node where
  | value (document : Document)
  | table (origin : Origin) (entries : List (String × Node))
  /-- A list of tables, each with a header of its own; the latest first. -/
  | tables (elements : List (List (String × Node)))

/-- What a table holds, in the order written; no key occurs twice. -/
abbrev Entries : Type := List (String × Node)

namespace Entries

/-- Replace what stands under a key. -/
def replace (entries : Entries) (key : String) (node : Node) : Entries :=
  entries.map fun entry => if entry.1 = key then (key, node) else entry

/-- Go down a path and act on the table at its end; the action is told whether that table was made
by the path of a key.  Tables that are missing are made.  The path of a key, unlike that of a
header, does not lead into a table that has its own header; no path leads into a value. -/
def descend (byKey : Bool) (act : Bool → Entries → Option Entries) :
    (path : List String) → (isDotted : Bool) → Entries → Option Entries
  | [], isDotted, entries => act isDotted entries
  | key :: path, _, entries =>
      match entries.lookup key with
      | none =>
          (descend byKey act path byKey []).map fun inner =>
            entries ++ [(key, .table (if byKey then .dotted else .passed) inner)]
      | some (.value _) => none
      | some (.tables []) => none
      | some (.tables (latest :: others)) =>
          (descend byKey act path false latest).map fun inner =>
            replace entries key (.tables (inner :: others))
      | some (.table origin inner) =>
          if byKey && origin = .header then none
          else
            (descend byKey act path (origin = .dotted) inner).map fun inner =>
              replace entries key (.table origin inner)

/-- Put a value under a key with a path before it, starting at a table with its own header.  The
table at the end must have been made by such a path itself, unless there is no path. -/
def assign (entries : Entries) (path : List String) (key : String) (value : Document) :
    Option Entries :=
  descend true (fun isDotted inner =>
    if isDotted = path.isEmpty || (inner.lookup key).isSome then none
    else some (inner ++ [(key, .value value)])) path false entries

/-- Assign in the table under a header. -/
def assignUnder (entries : Entries) (header path : List String) (key : String) (value : Document) :
    Option Entries :=
  descend false (fun _ inner => inner.assign path key value) header false entries

/-- A header opens a table, which must be new or have been passed through only. -/
def openTable (entries : Entries) (path : List String) (key : String) : Option Entries :=
  descend false (fun _ inner =>
    match inner.lookup key with
    | none => some (inner ++ [(key, .table .header [])])
    | some (.table .passed below) => some (replace inner key (.table .header below))
    | some _ => none) path false entries

/-- A header adds a table to a list of tables. -/
def addTable (entries : Entries) (path : List String) (key : String) : Option Entries :=
  descend false (fun _ inner =>
    match inner.lookup key with
    | none => some (inner ++ [(key, .tables [[]])])
    | some (.tables elements) => some (replace inner key (.tables ([] :: elements)))
    | some _ => none) path false entries

mutual

/-- A node as a document. -/
def ofNode : Node → Document
  | .value document => document
  | .table _ entries => .record (members entries)
  | .tables elements => .list (records elements).reverse

/-- The entries of a table as the members of a record. -/
def members : List (String × Node) → List (Option String × Document)
  | [] => []
  | (key, node) :: entries => (some key, ofNode node) :: members entries

/-- Tables as records. -/
def records : List (List (String × Node)) → List Document
  | [] => []
  | entries :: elements => .record (members entries) :: records elements

end

/-- A table as a document. -/
def toDocument (entries : Entries) : Document := .record (members entries)

end Entries

end Parley.Toml
