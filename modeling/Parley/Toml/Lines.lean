/-
Module: Parley.Toml.Lines
Layer: Toml
Purpose: Configuration text in tables: lines with headers, which say where the lines below them
  belong, and lines with keys and values.  The text as a whole is a record.
Main exports: Toml.parse?, Toml.dialect
-/
import Parley.Json.Record
import Parley.Toml.Value

namespace Parley.Toml

open Json (Document)

/-- What has been read: the whole table, and the path of the table to which lines belong. -/
structure Reader where
  root : Entries
  header : List String

/-- A header with its closing brackets. -/
def header? (closing : List Char) : Scan (List String × String) := fun text => do
  let (parts, rest) ← key? text
  let key ← parts.getLast?
  if rest.take closing.length = closing then
    pure ((parts.dropLast, key), rest.drop closing.length)
  else none

/-- Read one line that is not blank. -/
def line? (reader : Reader) : List Char → Option (Reader × List Char)
  | '[' :: '[' :: text => do
      let ((path, key), rest) ← header? [']', ']'] text
      let root ← reader.root.addTable path key
      pure (⟨root, path ++ [key]⟩, ← endLine? rest)
  | '[' :: text => do
      let ((path, key), rest) ← header? [']'] text
      let root ← reader.root.openTable path key
      pure (⟨root, path ++ [key]⟩, ← endLine? rest)
  | text => do
      let ((path, key, value), rest) ← pair? value? text
      let root ← reader.root.assignUnder reader.header path key value
      pure (⟨root, reader.header⟩, ← endLine? rest)

/-- Read lines.  The fuel bounds their number; the length of the text is enough. -/
def lines? (reader : Reader) : (fuel : Nat) → List Char → Option Entries
  | 0, text => if text.isEmpty then some reader.root else none
  | fuel + 1, text =>
      if text.isEmpty then some reader.root
      else
        match endLine? text with
        | some rest => lines? reader fuel rest
        | none => do
            let (reader, rest) ← line? reader (skipBlanks text)
            lines? reader fuel rest

/-- A text without the mark of its encoding. -/
def withoutMark : List Char → List Char
  | '\uFEFF' :: rest => rest
  | text => text

/-- The document that a configuration text spells. -/
def parse? (text : String) : Option Document :=
  let chars := withoutMark text.toList
  (lines? ⟨[], []⟩ chars.length chars).map Entries.toDocument

/-- The bare value is an empty list or table, and a list may go on after the last member of a
record. -/
def dialect : Json.Dialect where
  isBare := fun document =>
    match document with
    | .list [] => true
    | .record [] => true
    | _ => false
  hasSpareItems := true

end Parley.Toml
