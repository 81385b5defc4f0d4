/-
Module: Parley.Reply.Html
Layer: Reply
Purpose: When an answer counts as HTML: an opening tag is followed, possibly lines later, by a
  closing tag.  The first opening tag ends no later than any other, so it is the only one to try.
Main exports: Html.openingEnd?, Html.closesHere, Html.hasElement
-/
import Parley.Text.Blank
import Parley.Text.Search
import Parley.Text.WordClass

namespace Parley.Html

/-- An ASCII letter. -/
def isLetter (c : Char) : Bool :=
  ('a' ≤ c && c ≤ 'z') || ('A' ≤ c && c ≤ 'Z')

/-- An ASCII letter or digit. -/
def isNameChar (c : Char) : Bool :=
  isLetter c || ('0' ≤ c && c ≤ '9')

/-- What follows a tag name, which starts with a letter; the name goes as far as it can. -/
def afterName? : List Char → Option (List Char)
  | c :: rest => if isLetter c then some (rest.dropWhile isNameChar) else none
  | [] => none

/-- What follows the opening tag that a text starts with: a name up to a word boundary, then
anything up to the first closing bracket. -/
def openingEnd? : List Char → Option (List Char)
  | '<' :: text =>
      match afterName? text with
      | none => none
      | some rest =>
          if rest.head?.any Text.isWordChar then none
          else
            match rest.dropWhile fun c => c != '>' with
            | [] => none
            | _ :: after => some after
  | _ => none

/-- Whether a text starts with a closing tag. -/
def closesHere : List Char → Bool
  | '<' :: '/' :: text =>
      match afterName? text with
      | none => false
      | some rest => (rest.dropWhile Text.isSpace).head? == some '>'
  | _ => false

/-- What follows the first opening tag in a text. -/
def firstOpening? : List Char → Option (List Char)
  | [] => none
  | c :: rest =>
      match openingEnd? (c :: rest) with
      | some after => some after
      | none => firstOpening? rest

/-- Whether some opening tag is followed by some closing tag. -/
def hasElement (text : List Char) : Bool :=
  match firstOpening? text with
  | none => false
  | some after => Text.somewhere closesHere after

end Parley.Html
