/-
Module: Parley.Json.Document
Layer: Json
Purpose: JSON text as it is written: members in order, repeated keys kept, words without a value
  kept as such.  A document is read from its words by a machine with a stack of open lists and
  records, one step a word, and its depth is not limited.  Free-form values and typed records are
  then read off a document, each under its own rules.
Main exports: Json.Document, Json.Document.ofTokens?, Json.Document.parse?, Json.Document.value?,
  Json.Document.ofValue, Json.parse?
-/
import Parley.Json.Token

namespace Parley.Json

/-- JSON text with everything that its readers may tell apart. -/
inductive Document where
  | null
  | bool (value : Bool)
  /-- A number; `none` when it is too large to have a value. -/
  | number (value? : Option Numeral)
  /-- A number that is written but is not finite, which only other notations have. -/
  | notFinite
  /-- Text; `none` when it holds half of a surrogate pair. -/
  | text (value? : Option String)
  | list (items : List Document)
  | record (members : List (Option String × Document))

namespace Document

instance : Inhabited Document := ⟨.null⟩

/-! ### Reading words -/

/-- A list or record that is still open, what it holds so far in reverse. -/
inductive Frame where
  | list (items : List Document)
  | record (members : List (Option String × Document)) (key : Option String)

/-- What may come next. -/
inductive Phase where
  /-- A value. -/
  | value
  /-- The first item of a list, or its end. -/
  | item
  /-- A key; the members read so far. -/
  | key (members : List (Option String × Document))
  /-- The first key of a record, or its end. -/
  | firstKey
  /-- The colon after a key. -/
  | colon (members : List (Option String × Document)) (name : Option String)
  /-- A comma, or the end of the innermost open list or record. -/
  | more
  /-- Nothing: the document is complete. -/
  | complete (document : Document)

/-- A state of the reader: the open frames, innermost first, and what may come next. -/
structure Reader where
  frames : List Frame
  phase : Phase

/-- A finished value goes into the innermost frame, or is the whole document. -/
def close (frames : List Frame) (document : Document) : Reader :=
  match frames with
  | [] => ⟨[], .complete document⟩
  | .list items :: outer => ⟨.list (document :: items) :: outer, .more⟩
  | .record members key :: outer => ⟨.record ((key, document) :: members) none :: outer, .more⟩

/-- A word where a value is due. -/
def startValue (frames : List Frame) : Token → Option Reader
  | .null => some (close frames .null)
  | .bool value => some (close frames (.bool value))
  | .number value? => some (close frames (.number value?))
  | .text value? => some (close frames (.text value?))
  | .bracketOpen => some ⟨.list [] :: frames, .item⟩
  | .braceOpen => some ⟨frames, .firstKey⟩
  | _ => none

/-- One word. -/
def step (reader : Reader) (token : Token) : Option Reader :=
  match reader.phase, reader.frames, token with
  | .value, frames, token => startValue frames token
  | .item, .list items :: outer, .bracketClose => some (close outer (.list items.reverse))
  | .item, frames, token => startValue frames token
  | .firstKey, frames, .braceClose => some (close frames (.record []))
  | .firstKey, frames, .text name => some ⟨frames, .colon [] name⟩
  | .key members, frames, .text name => some ⟨frames, .colon members name⟩
  | .colon members name, frames, .colon => some ⟨.record members name :: frames, .value⟩
  | .more, .list items :: outer, .comma => some ⟨.list items :: outer, .value⟩
  | .more, .list items :: outer, .bracketClose => some (close outer (.list items.reverse))
  | .more, .record members _ :: outer, .comma => some ⟨outer, .key members⟩
  | .more, .record members _ :: outer, .braceClose => some (close outer (.record members.reverse))
  | _, _, _ => none

/-- Read words one after another. -/
def steps (reader : Reader) : List Token → Option Reader
  | [] => some reader
  | token :: tokens =>
      match step reader token with
      | some next => steps next tokens
      | none => none

/-- The document a list of words spells, if it spells one. -/
def ofTokens? (tokens : List Token) : Option Document :=
  match steps ⟨[], .value⟩ tokens with
  | some ⟨_, .complete document⟩ => some document
  | _ => none

/-- The document of a text. -/
def parse? (text : String) : Option Document :=
  (Token.ofChars? text.toList).bind ofTokens?

/-! ### Free-form values -/

/-- How many lists and records may be open at once where a value is read. -/
def greatestDepth : Nat := 127

mutual

/-- The value of a document.  It has none if a word without a value occurs anywhere in it or if more
than `depth` lists and records are nested.  Of two members with one key the later wins. -/
def value? (depth : Nat) : Document → Option Json
  | .null => some .null
  | .bool value => some (.bool value)
  | .number found => found.map Numeral.toJson
  | .notFinite => some .null
  | .text found => found.map .str
  | .list items =>
      match depth with
      | 0 => none
      | depth + 1 => (values? depth items).map .arr
  | .record members =>
      match depth with
      | 0 => none
      | depth + 1 => (fields? depth members).map fun fields => .obj (Dictionary.ofList fields)

/-- The values of the items of a list. -/
def values? (depth : Nat) : List Document → Option (List Json)
  | [] => some []
  | item :: items => do
      let value ← value? depth item
      let others ← values? depth items
      pure (value :: others)

/-- The names and values of the members of a record, in the order written. -/
def fields? (depth : Nat) : List (Option String × Document) → Option (List (String × Json))
  | [] => some []
  | (name?, member) :: members => do
      let name ← name?
      let value ← value? depth member
      let others ← fields? depth members
      pure ((name, value) :: others)

end

mutual

/-- The document that spells a value. -/
def ofValue : Json → Document
  | .null => .null
  | .bool value => .bool value
  | .int value => .number (some (.int value))
  | .float value => .number (some (.float value))
  | .str content => .text (some content)
  | .arr items => .list (ofValues items)
  | .obj fields => .record (ofFields fields)

/-- The documents that spell the items of a list. -/
def ofValues : List Json → List Document
  | [] => []
  | item :: items => ofValue item :: ofValues items

/-- The members that spell the fields of a record. -/
def ofFields : List (String × Json) → List (Option String × Document)
  | [] => []
  | (name, value) :: fields => (some name, ofValue value) :: ofFields fields

end

end Document

/-- The value of a JSON text. -/
def parse? (text : String) : Option Json :=
  (Document.parse? text).bind (Document.value? Document.greatestDepth)

end Parley.Json
