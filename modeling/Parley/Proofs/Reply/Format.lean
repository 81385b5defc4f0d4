/-
Module: Parley.Proofs.Reply.Format
Layer: Proofs
Purpose: Which answers have the two markup formats, as a description of texts and as the regular
  pattern that the format stands for.
Main exports: ReplyFormat.accepts_markup_iff
-/
import Parley.Proofs.Reply.Html
import Parley.Proofs.Reply.Markdown
import Parley.Reply.Format

namespace Parley.ReplyFormat

/-- An answer is HTML if an opening tag is followed by a closing tag, and Markdown if it has a mark at
the start of a line or anywhere.  These are the texts in which the two patterns are found. -/
theorem accepts_markup_iff (content : String) :
    ((html.accepts content = true ↔ Html.HasElement content.toList) ∧
      (html.accepts content = true ↔ Html.elementPattern.Found content.toList)) ∧
    (markdown.accepts content = true ↔ Markdown.HasMark content.toList) ∧
      (markdown.accepts content = true ↔ Markdown.markPattern.Found content.toList) := by
  have element : html.accepts content = true ↔ Html.HasElement content.toList :=
    Html.hasElement_iff
  have mark : markdown.accepts content = true ↔ Markdown.HasMark content.toList :=
    Markdown.hasMark_iff
  exact ⟨⟨element, element.trans Html.found_elementPattern_iff.symm⟩,
    mark, mark.trans Markdown.found_markPattern_iff.symm⟩

/-- The name of an opening tag must end at a word boundary, so an accent leaves no name. -/
example : (html.accepts "<p é>\n</q >", html.accepts "<pé></p>") = (true, false) := by
  decide +kernel

/-- White space before a mark may be a line feed, and a star or a digit of any script makes a list. -/
example : (markdown.accepts "Seats:\n\n\n* 12A", markdown.accepts "٣. one", markdown.accepts "3.one") =
    (true, true, false) := by
  decide +kernel

end Parley.ReplyFormat
