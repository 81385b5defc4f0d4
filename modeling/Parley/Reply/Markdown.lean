/-
Module: Parley.Reply.Markdown
Layer: Reply
Purpose: When an answer counts as Markdown: some line starts with a mark (heading, bullet, number,
  quotation or fence), or some place holds emphasis, a link or a code span.
Main exports: Markdown.lineMark, Markdown.emphasis, Markdown.link, Markdown.codeSpan,
  Markdown.hasMark
-/
import Parley.Text.Blank
import Parley.Text.Search
import Parley.Text.WordClass

namespace Parley.Markdown

/-- The mark of code, alone around a span and three times as a fence. -/
def backquote : Char := '\x60'

/-- A text starts with white space. -/
def spaceHere (text : List Char) : Bool := text.head?.any Text.isSpace

/-- One to six number signs and white space. -/
def heading (text : List Char) : Bool :=
  let signs := (text.takeWhile (· == '#')).length
  1 ≤ signs && signs ≤ 6 && spaceHere (text.drop signs)

/-- A hyphen, star or plus and white space. -/
def bullet : List Char → Bool
  | c :: rest => (c == '-' || c == '*' || c == '+') && spaceHere rest
  | [] => false

/-- Decimal digits of any script, a full stop and white space. -/
def enumeration (text : List Char) : Bool :=
  let digits := (text.takeWhile Text.isDecimalDigit).length
  match text.drop digits with
  | '.' :: rest => 1 ≤ digits && spaceHere rest
  | _ => false

/-- A closing bracket and white space. -/
def quotation : List Char → Bool
  | '>' :: rest => spaceHere rest
  | _ => false

/-- Three backquotes. -/
def fence (text : List Char) : Bool :=
  (Text.after? [backquote, backquote, backquote] text).isSome

/-- A mark after up to three white-space characters. -/
def lineMark (text : List Char) : Bool :=
  let indent := (text.takeWhile Text.isSpace).length
  let marked := text.drop indent
  indent ≤ 3 &&
    (heading marked || bullet marked || enumeration marked || quotation marked || fence marked)

/-- What follows a text without the character `stop` and the `stop` after it; the text may not be
empty. -/
def afterSpan? (stop : Char) (text : List Char) : Option (List Char) :=
  match text.takeWhile (· != stop), text.dropWhile (· != stop) with
  | _ :: _, _ :: rest => some rest
  | _, _ => none

/-- Two stars, a text without stars, two stars. -/
def emphasis : List Char → Bool
  | '*' :: '*' :: text =>
      match afterSpan? '*' text with
      | some rest => rest.head? == some '*'
      | none => false
  | _ => false

/-- A text in square brackets and a text in parentheses. -/
def link : List Char → Bool
  | '[' :: text =>
      match afterSpan? ']' text with
      | some ('(' :: target) => (afterSpan? ')' target).isSome
      | _ => false
  | _ => false

/-- A text between single backquotes. -/
def codeSpan : List Char → Bool
  | c :: text => c == backquote && (afterSpan? backquote text).isSome
  | [] => false

/-- Whether there is a mark. -/
def hasMark (text : List Char) : Bool :=
  Text.atSomeLine lineMark text ||
    Text.somewhere (fun rest => emphasis rest || link rest || codeSpan rest) text

end Parley.Markdown
