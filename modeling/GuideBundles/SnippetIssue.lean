/-
# `SnippetIssue` — how a snippet file may fail to start

A snippet file starts with a title comment, an empty line and a description comment.  Lines are
looked at without the blanks at their ends.
-/
import GuideBundles.Text.Blank

namespace GuideBundles

/-- What is wrong with the start of a snippet file. -/
inductive SnippetIssue where
  | tooFewLines
  | missingTitle
  | missingBlankAfterTitle
  /-- The third line is an empty comment and the description stands on the fifth. -/
  | descriptionOnLineFive
  | emptyDescription
  | missingDescription
deriving DecidableEq

namespace SnippetIssue

/-- Whether a line starts with a number sign and a space. -/
def isComment (line : Text) : Bool := (Text.ofString "# ").isPrefixOf line

/-- Whether lines after an empty comment are an empty line and a comment that says something. -/
def hasLateDescription : List Text → Bool
  | [] :: line :: _ => isComment line && decide (2 < Text.size line)
  | _ => false

/-- The first issue of trimmed lines. -/
def ofLines : List Text → Option SnippetIssue
  | title :: gap :: description :: rest =>
    if !isComment title then some missingTitle
    else if gap ≠ [] then some missingBlankAfterTitle
    else if description = ['#'] then
      if hasLateDescription rest then some descriptionOnLineFive else some emptyDescription
    else if !isComment description then some missingDescription
    else none
  | _ => some tooFewLines

/-- The first issue of a snippet file. -/
def ofText (t : Text) : Option SnippetIssue := ofLines ((Text.lines t).map Text.trim)

/-- The wording of an issue. -/
def message : SnippetIssue → Text
  | tooFewLines => Text.ofString "too few lines, missing proper comment structure"
  | missingTitle => Text.ofString "first line is not a title comment"
  | missingBlankAfterTitle => Text.ofString "no blank line after title"
  | descriptionOnLineFive =>
    Text.ofString "incorrect format (description on line 5 instead of line 3)"
  | emptyDescription => Text.ofString "missing description (line 3 just has '#')"
  | missingDescription => Text.ofString "missing description after blank line"

end SnippetIssue
end GuideBundles
