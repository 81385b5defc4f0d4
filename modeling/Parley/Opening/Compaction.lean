/-
Module: Parley.Opening.Compaction
Layer: Opening
Purpose: Bounding the size of results that enter a transcript without the model having asked for
  them.  Deep structures become a marker, long lists and records are cut with a count of what was
  left out, and long texts are cut with a mark.
Main exports: Limits, Text.firstChars, Text.cut, Json.bounded
-/
import Parley.Json.Value

namespace Parley

/-- The bounds of a compaction. -/
structure Limits where
  depth : Nat
  arrayItems : Nat
  objectKeys : Nat
  stringChars : Nat
  payloadBytes : Nat
  previewChars : Nat
deriving DecidableEq, Repr

/-- The bounds where none are configured. -/
def Limits.standard : Limits :=
  { depth := 4, arrayItems := 20, objectKeys := 30, stringChars := 280
    payloadBytes := 12000, previewChars := 2000 }

instance : Inhabited Limits := ⟨Limits.standard⟩

/-- The first characters of a text. -/
def Text.firstChars (text : String) (count : Nat) : String :=
  String.ofList (text.toList.take count)

/-- What follows a text that was cut. -/
def Text.cutMark : String := "…[truncated]"

/-- A text of more than `count` characters is cut there and marked. -/
def Text.cut (text : String) (count : Nat) : String :=
  if text.toList.length ≤ count then text else Text.firstChars text count ++ Text.cutMark

namespace Json

/-- What stands for a list or record that is too deep: its kind and the number of its children. -/
def depthMarker (kind : String) (size : Nat) : Json :=
  .obj [("size", .int size), ("truncated", .bool true), ("type", .str kind)]

/-- What follows the items of a list that was cut. -/
def remainingItems (count : Nat) : Json :=
  .obj [("remaining_items", .int count)]

/-- The key under which a record that was cut counts what was left out. -/
def omittedKey : String := "_truncated_keys"

mutual

/-- The compaction of a value that stands at a depth. -/
def bounded (limits : Limits) (depth : Nat) : Json → Json
  | .str text => .str (Text.cut text limits.stringChars)
  | .arr items =>
      if limits.depth ≤ depth then depthMarker "array" items.length
      else
        let kept := boundedItems limits (depth + 1) limits.arrayItems items
        if limits.arrayItems < items.length then
          .arr (kept ++ [remainingItems (items.length - limits.arrayItems)])
        else .arr kept
  | .obj fields =>
      if limits.depth ≤ depth then depthMarker "object" fields.length
      else
        let kept := boundedFields limits (depth + 1) limits.objectKeys fields
        if limits.objectKeys < fields.length then
          .obj (Dictionary.insert omittedKey (.int (fields.length - limits.objectKeys : Nat)) kept)
        else .obj kept
  | other => other

/-- The compactions of the first items of a list. -/
def boundedItems (limits : Limits) (depth : Nat) : Nat → List Json → List Json
  | _, [] => []
  | 0, _ :: _ => []
  | count + 1, item :: items => bounded limits depth item :: boundedItems limits depth count items

/-- The compactions of the first fields of a record, in key order. -/
def boundedFields (limits : Limits) (depth : Nat) :
    Nat → List (String × Json) → List (String × Json)
  | _, [] => []
  | 0, _ :: _ => []
  | count + 1, (key, value) :: fields =>
      (key, bounded limits depth value) :: boundedFields limits depth count fields

end

/-- The compaction of a value. -/
def compacted (limits : Limits) (value : Json) : Json :=
  bounded limits 0 value

end Json

end Parley
