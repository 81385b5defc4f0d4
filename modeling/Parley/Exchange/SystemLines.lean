/-
Module: Parley.Exchange.SystemLines
Layer: Exchange
Purpose: The system lines that precede the transcript in every request to the model.
Main exports: systemLines, dateLine, toolsLine
-/
import Parley.Calendar.CivilDate
import Parley.Text.Blank

namespace Parley

/-- The line with the date. -/
def dateLine (today : CivilDate) : String :=
  "Current date (UTC): " ++ today.text

/-- The line that names the tools, or says that there are none. -/
def toolsLine (names : List String) : String :=
  if names.isEmpty then "No tools are available in this conversation."
  else "Available tools: " ++ ", ".intercalate names

/-- The configured instructions and the messages of the session, blank ones left out, the date and
the tools. -/
def systemLines (instructions notes names : List String) (today : CivilDate) : List String :=
  (instructions ++ notes).filter (fun line => !Text.isBlank line) ++
    [dateLine today, toolsLine names]

end Parley
