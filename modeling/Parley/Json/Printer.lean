/-
Module: Parley.Json.Printer
Layer: Json
Purpose: The written form of JSON values: compact, fields in key order, floats as their shortest
  decimals, text raw but for quotes, backslashes and control characters.  Records with declared
  fields are written in declaration order instead.
Main exports: Json.chars, Json.render, Json.quoted, Json.recordChars, Json.prettyTexts
-/
import Parley.Json.Value
import Parley.Number.Shortest

namespace Parley.Json

/-- Floats are plain from `0.00001` up to sixteen digits before the point, and else have a signed
exponent. -/
def floatStyle : DecimalStyle := ⟨-5, 15, ['+']⟩

/-- The written form of a float.  A zero keeps its sign. -/
def floatChars (value : Binary64) : List Char :=
  let magnitude := if value.isZero then ['0', '.', '0'] else value.shortest.chars floatStyle
  if value.negative then '-' :: magnitude else magnitude

/-- The written form of a natural number. -/
def natChars (n : Nat) : List Char := Nat.toDigits 10 n

/-- The written form of an integer. -/
def intChars : Int → List Char
  | .ofNat n => natChars n
  | .negSucc n => '-' :: natChars (n + 1)

/-- The lower-case hexadecimal digit of a number below sixteen. -/
def hexDigit (n : Nat) : Char :=
  if n < 10 then Char.ofNat (48 + n) else Char.ofNat (87 + n)

/-- One character inside quotes: the quote, the backslash and the control characters are escaped,
the latter by a letter where there is one. -/
def escaped (c : Char) : List Char :=
  if c = '"' then ['\\', '"']
  else if c = '\\' then ['\\', '\\']
  else if c = '\n' then ['\\', 'n']
  else if c = '\r' then ['\\', 'r']
  else if c = '\t' then ['\\', 't']
  else if c = '\x08' then ['\\', 'b']
  else if c = '\x0c' then ['\\', 'f']
  else if c.toNat < 32 then ['\\', 'u', '0', '0', hexDigit (c.toNat / 16), hexDigit (c.toNat % 16)]
  else [c]

/-- Text in quotes. -/
def quoted (text : String) : List Char :=
  '"' :: (text.toList.flatMap escaped ++ ['"'])

/-- Written forms with commas between them. -/
def separated : List (List Char) → List Char
  | [] => []
  | [only] => only
  | first :: others => first ++ ',' :: separated others

mutual

/-- The compact written form of a value. -/
def chars : Json → List Char
  | .null => ['n', 'u', 'l', 'l']
  | .bool true => ['t', 'r', 'u', 'e']
  | .bool false => ['f', 'a', 'l', 's', 'e']
  | .int value => intChars value
  | .float value => floatChars value
  | .str value => quoted value
  | .arr items => '[' :: (separated (itemChars items) ++ [']'])
  | .obj fields => '{' :: (separated (fieldChars fields) ++ ['}'])

/-- The written forms of the items of an array. -/
def itemChars : List Json → List (List Char)
  | [] => []
  | item :: items => chars item :: itemChars items

/-- The written forms of the fields of an object. -/
def fieldChars : List (String × Json) → List (List Char)
  | [] => []
  | (name, value) :: fields => (quoted name ++ ':' :: chars value) :: fieldChars fields

end

/-- The compact written form as text. -/
def render (value : Json) : String :=
  String.ofList (chars value)

/-- An object whose fields are already written, in the order given. -/
def recordChars (fields : List (String × List Char)) : List Char :=
  '{' :: (separated (fields.map fun field => quoted field.1 ++ ':' :: field.2) ++ ['}'])

/-- An array whose items are already written. -/
def listChars (items : List (List Char)) : List Char :=
  '[' :: (separated items ++ [']'])

/-- A list of texts one per line, indented by two spaces; the empty list on one line. -/
def prettyTexts : List String → List Char
  | [] => ['[', ']']
  | texts =>
      let lines := texts.map fun text => '\n' :: ' ' :: ' ' :: quoted text
      '[' :: (separated lines ++ ['\n', ']'])

end Parley.Json
