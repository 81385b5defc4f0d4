/-
Module: Parley.Toml.Value
Layer: Toml
Purpose: The values of configuration text.  A list may run over several lines, with comments between
  its items; a table in braces stands on one line and is complete when it is closed.
Main exports: Toml.scalar?, Toml.value?
-/
import Parley.Toml.Moment
import Parley.Toml.Table

namespace Parley.Toml

open Json (Document)

/-- The key under which a date or time is given. -/
def momentKey : String := "$__toml_private_datetime"

/-- A date or time as a document. -/
def ofMoment (text : String) : Document := .record [(some momentKey, .text (some text))]

/-- A value that holds no other values. -/
def scalar? : Scan Document := fun text =>
  match text with
  | 't' :: 'r' :: 'u' :: 'e' :: rest => some (.bool true, rest)
  | 'f' :: 'a' :: 'l' :: 's' :: 'e' :: rest => some (.bool false, rest)
  | '"' :: _ => (quoted? text).map fun (content, rest) => (.text (some content), rest)
  | '\'' :: _ => (quoted? text).map fun (content, rest) => (.text (some content), rest)
  | _ =>
      match moment? text with
      | some (moment, rest) => some (ofMoment moment, rest)
      | none => (float? text).orElse fun _ => integer? text

/-- The rest of a list, given the items so far in reverse.  The fuel bounds the number of items; the
length of the text is enough. -/
def listRest (item : Scan Document) (done : List Document) : (fuel : Nat) → Scan Document
  | 0, _ => none
  | fuel + 1, text =>
      match skipSpace false text with
      | ']' :: rest => some (.list done.reverse, rest)
      | text => do
          let (value, rest) ← item text
          match skipSpace false rest with
          | ',' :: more => listRest item (value :: done) fuel more
          | ']' :: rest => pure (.list (value :: done).reverse, rest)
          | _ => none

/-- A key, an equals sign and a value: the path, the last part of the key and the value. -/
def pair? (item : Scan Document) : Scan (List String × String × Document) := fun text => do
  let (parts, rest) ← key? text
  let key ← parts.getLast?
  match rest with
  | '=' :: rest => do
      let (value, rest) ← item (skipBlanks rest)
      pure ((parts.dropLast, key, value), rest)
  | _ => none

/-- The rest of a table in braces after its first brace or a comma. -/
def pairsRest (item : Scan Document) (entries : Entries) : (fuel : Nat) → Scan Document
  | 0, _ => none
  | fuel + 1, text => do
      let ((path, key, value), rest) ← pair? item text
      let entries ← entries.assign path key value
      match skipBlanks rest with
      | ',' :: more => pairsRest item entries fuel more
      | '}' :: rest => pure (entries.toDocument, rest)
      | _ => none

/-- A value in which `depth` lists and tables may be nested. -/
def valueOf? : (depth : Nat) → Scan Document
  | 0 => scalar?
  | depth + 1 => fun text =>
      match text with
      | '[' :: rest => listRest (valueOf? depth) [] text.length rest
      | '{' :: rest =>
          match skipBlanks rest with
          | '}' :: rest => some (.record [], rest)
          | rest => pairsRest (valueOf? depth) [] text.length rest
      | text => scalar? text

/-- A value. -/
def value? : Scan Document := valueOf? greatestDepth

end Parley.Toml
