/-
Module: Parley.Toml.Word
Layer: Toml
Purpose: The words of configuration text that are text themselves: keys, and quoted text in its four
  forms.  Each scanner takes what it can from the start of a text and returns it with what is left.
  A line end is a line feed, with a carriage return before it or not; inside quoted text both are
  read as a line feed.
Main exports: Toml.Scan, Toml.skipBlanks, Toml.skipSpace, Toml.afterLineEnd?, Toml.endLine?,
  Toml.quoted?, Toml.key?
-/
import Parley.Json.Token

namespace Parley.Toml

/-- Takes something from the start of a text and returns it with the rest. -/
abbrev Scan (α : Type) : Type := List Char → Option (α × List Char)

/-! ### Blanks, line ends and comments -/

/-- A blank inside a line. -/
def isBlank (c : Char) : Bool := c = ' ' || c = '\t'

/-- A character that may stand in a comment or, as itself, in quoted text. -/
def isPlain (c : Char) : Bool := c = '\t' || (32 ≤ c.toNat && c.toNat ≠ 127)

/-- A text without the blanks at its start. -/
def skipBlanks (text : List Char) : List Char := text.dropWhile isBlank

/-- What follows the line end at the start of a text. -/
def afterLineEnd? : List Char → Option (List Char)
  | '\n' :: rest => some rest
  | '\r' :: '\n' :: rest => some rest
  | _ => none

/-- Whether a text starts with a line end. -/
def startsLineEnd (text : List Char) : Bool := (afterLineEnd? text).isSome

/-- What follows a line of which nothing but blanks and a comment is left. -/
def endLine? (text : List Char) : Option (List Char) :=
  let rest := match skipBlanks text with
    | '#' :: comment => comment.dropWhile isPlain
    | rest => rest
  match rest with
  | [] => some []
  | rest => afterLineEnd? rest

/-- A text without the blanks, comments and line ends at its start; `inComment` says that a comment
is open there.  What cannot be skipped stays. -/
def skipSpace (inComment : Bool) : List Char → List Char
  | [] => []
  | c :: rest =>
      if startsLineEnd (c :: rest) then skipSpace false rest
      else if inComment then
        if isPlain c then skipSpace true rest else c :: rest
      else if isBlank c || c = '\n' then skipSpace false rest
      else if c = '#' then skipSpace true rest
      else c :: rest

/-! ### Quoted text -/

/-- The character with a number, if there is one. -/
def charOfCode? (code : Nat) : Option Char :=
  if code.isValidChar then some (Char.ofNat code) else none

/-- The character whose number is written in hexadecimal digits. -/
def charOfHex? (digits : List Char) : Option Char := do
  let values ← digits.mapM Json.hexValue?
  charOfCode? (values.foldl (fun code value => code * 16 + value) 0)

/-- The character of a one-letter escape. -/
def escapeValue? (c : Char) : Option Char :=
  if c = '"' then some '"'
  else if c = '\\' then some '\\'
  else if c = 'b' then some '\x08'
  else if c = 'f' then some '\x0c'
  else if c = 'n' then some '\n'
  else if c = 'r' then some '\r'
  else if c = 't' then some '\t'
  else none

/-- The rest of a text in double quotes; `done` holds what was read, last character first. -/
def basicRest (done : List Char) : Scan String
  | [] => none
  | '"' :: rest => some (String.ofList done.reverse, rest)
  | '\\' :: 'u' :: a :: b :: c :: d :: rest =>
      match charOfHex? [a, b, c, d] with
      | some meant => basicRest (meant :: done) rest
      | none => none
  | '\\' :: 'U' :: a :: b :: c :: d :: e :: f :: g :: h :: rest =>
      match charOfHex? [a, b, c, d, e, f, g, h] with
      | some meant => basicRest (meant :: done) rest
      | none => none
  | '\\' :: c :: rest =>
      match escapeValue? c with
      | some meant => basicRest (meant :: done) rest
      | none => none
  | c :: rest => if isPlain c && c ≠ '\\' then basicRest (c :: done) rest else none

/-- The rest of a text in single quotes, where nothing is escaped. -/
def literalRest (done : List Char) : Scan String
  | [] => none
  | '\'' :: rest => some (String.ofList done.reverse, rest)
  | c :: rest => if isPlain c then literalRest (c :: done) rest else none

/-- The end of a text over several lines, after the three quotes that close it.  Up to two more
quotes belong to the text. -/
def closeLong (quote : Char) (done : List Char) (rest : List Char) : String × List Char :=
  let extra := (rest.take 2).takeWhile (· = quote)
  (String.ofList (done.reverse ++ extra), rest.drop extra.length)

/-- The rest of a text in three double quotes.  A backslash at the end of a line takes that line end
with it and everything blank that follows; `folding` says that this is going on. -/
def longBasicRest (folding : Bool) (done : List Char) : Scan String
  | [] => none
  | c :: rest =>
      if folding && (isBlank c || startsLineEnd (c :: rest)) then longBasicRest true done rest
      else
        match c, rest with
        | '"', '"' :: '"' :: after => some (closeLong '"' done after)
        | '\\', 'u' :: a :: b :: c :: d :: after =>
            match charOfHex? [a, b, c, d] with
            | some meant => longBasicRest false (meant :: done) after
            | none => none
        | '\\', 'U' :: a :: b :: c :: d :: e :: f :: g :: h :: after =>
            match charOfHex? [a, b, c, d, e, f, g, h] with
            | some meant => longBasicRest false (meant :: done) after
            | none => none
        | '\\', c :: after =>
            match escapeValue? c with
            | some meant => longBasicRest false (meant :: done) after
            | none =>
                if startsLineEnd (skipBlanks (c :: after)) then longBasicRest true done (c :: after)
                else none
        | '\r', '\n' :: after => longBasicRest false ('\n' :: done) after
        | c, rest =>
            if c = '\n' || (isPlain c && c ≠ '\\') then longBasicRest false (c :: done) rest
            else none

/-- The rest of a text in three single quotes. -/
def longLiteralRest (done : List Char) : Scan String
  | [] => none
  | '\'' :: '\'' :: '\'' :: after => some (closeLong '\'' done after)
  | '\r' :: '\n' :: after => longLiteralRest ('\n' :: done) after
  | c :: rest => if c = '\n' || isPlain c then longLiteralRest (c :: done) rest else none

/-- A text without the line end at its start. -/
def dropLineEnd (text : List Char) : List Char := (afterLineEnd? text).getD text

/-- Quoted text in any of its four forms. -/
def quoted? : Scan String
  | '"' :: '"' :: '"' :: rest => longBasicRest false [] (dropLineEnd rest)
  | '"' :: rest => basicRest [] rest
  | '\'' :: '\'' :: '\'' :: rest => longLiteralRest [] (dropLineEnd rest)
  | '\'' :: rest => literalRest [] rest
  | _ => none

/-! ### Keys -/

/-- A character of a key without quotes. -/
def isBareKeyChar (c : Char) : Bool :=
  ('a' ≤ c && c ≤ 'z') || ('A' ≤ c && c ≤ 'Z') || ('0' ≤ c && c ≤ '9') || c = '-' || c = '_'

/-- One part of a key, with quotes or without. -/
def keyPart? : Scan String
  | '"' :: rest => basicRest [] rest
  | '\'' :: rest => literalRest [] rest
  | text =>
      let part := text.takeWhile isBareKeyChar
      if part.isEmpty then none else some (String.ofList part, text.dropWhile isBareKeyChar)

/-- Keys may have this many parts, and lists and tables may be nested this deep. -/
def greatestDepth : Nat := 79

/-- A key of `left` parts at most, with full stops between the parts and blanks around them. -/
def keyOf? : (left : Nat) → Scan (List String)
  | 0, _ => none
  | left + 1, text => do
      let (part, rest) ← keyPart? (skipBlanks text)
      match skipBlanks rest with
      | '.' :: more => do
          let (parts, after) ← keyOf? left more
          pure (part :: parts, after)
      | after => pure ([part], after)

/-- A key: the path of a value among nested tables. -/
def key? : Scan (List String) := keyOf? greatestDepth

end Parley.Toml
