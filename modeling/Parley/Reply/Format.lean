/-
Module: Parley.Reply.Format
Layer: Reply
Purpose: The formats that a final answer may be required to have, whether an answer has one, and the
  line with which the model is asked once more.
Main exports: ReplyFormat, ReplyFormat.name, ReplyFormat.accepts, ReplyFormat.retryLine
-/
import Parley.Json.Document
import Parley.Reply.Html
import Parley.Reply.Markdown

namespace Parley

/-- Formats of a final answer.  Every answer is plain text. -/
inductive ReplyFormat where
  | text
  | json
  | markdown
  | html
deriving DecidableEq, Repr, Inhabited

namespace ReplyFormat

/-- The name of a format. -/
def name : ReplyFormat → String
  | .text => "text"
  | .json => "json"
  | .markdown => "markdown"
  | .html => "html"

/-- The formats by name. -/
def names : List (String × ReplyFormat) :=
  [("text", .text), ("json", .json), ("markdown", .markdown), ("html", .html)]

/-- Three backquotes, at the start and at the end of a fenced text. -/
def fence : List Char := [Markdown.backquote, Markdown.backquote, Markdown.backquote]

/-- A text without the fence around it, if it has one, and without the rest of the line on which the
fence opens. -/
def unfenced (content : List Char) : List Char :=
  let trimmed := Text.trimChars content
  match Text.after? fence trimmed with
  | none => trimmed
  | some rest =>
      match Text.after? fence rest.reverse with
      | none => trimmed
      | some reversed =>
          let body := reversed.reverse
          match body.dropWhile fun c => c != '\n' with
          | [] => Text.trimChars body
          | _ :: inner => Text.trimChars inner

/-- Whether an answer has a format. -/
def accepts (format : ReplyFormat) (content : String) : Bool :=
  match format with
  | .text => true
  | .json => (Json.parse? (String.ofList (unfenced content.toList))).isSome
  | .markdown => Markdown.hasMark content.toList
  | .html => Html.hasElement content.toList

/-- A format in the words of the line below. -/
def description : ReplyFormat → String
  | .text => "plain text"
  | .json => "a single valid JSON document and nothing else"
  | .markdown => "Markdown"
  | .html => "HTML markup"

/-- The line that asks for the same answer in the format. -/
def retryLine (format : ReplyFormat) : String :=
  "Your previous answer was not in the required format. Reply again with the same " ++
    "content formatted as " ++ format.description ++ "."

end ReplyFormat

end Parley
