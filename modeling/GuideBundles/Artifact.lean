/-
# `Artifact` — the three files of a bundle

The snippet file holds title and description as comments and then all snippets, each under its
note.  The shell file holds the commands, each line with a dollar sign in front, or else how to
install and run.  The links file holds one target on each line.
-/
import GuideBundles.Bundle

namespace GuideBundles

/-- A file by its name and its text. -/
structure Artifact where
  name : Text
  content : Text
deriving DecidableEq

/-- The names of the three files of a bundle. -/
structure ArtifactNames where
  snippet : Text
  shell : Text
  links : Text
deriving DecidableEq

namespace ArtifactNames

/-- The names of the files for an example name. -/
def ofName (name : Text) (emit : EmitSettings) : ArtifactNames where
  snippet := name ++ '.' :: emit.snippetExtension
  shell := name ++ '.' :: emit.commandExtension
  links := name ++ Text.ofString "_links.txt"

/-- The three names, in the order in which the files are written. -/
def toList (n : ArtifactNames) : List Text := [n.snippet, n.shell, n.links]

/-- Whether a file name is taken by one of the three files. -/
def contains (n : ArtifactNames) (name : Text) : Bool := n.toList.contains name

end ArtifactNames

namespace Artifact

/-- A text with a number sign and a space at the start of each line. -/
def comment (t : Text) : Text :=
  Text.ofString "# " ++ Text.replaceChar '\n' (Text.ofString "\n# ") t

/-- The note to a code block as a comment line, if there is one. -/
def note (b : CodeBlock) : Text := if b.note = [] then [] else comment b.note ++ ['\n']

/-- The text of the snippet file. -/
def snippetText (b : Bundle) : Text :=
  Text.ofString "# " ++ b.title ++ Text.ofString "\n\n" ++ comment b.description
    ++ Text.ofString "\n\n"
    ++ b.snippets.flatMap fun s => note s ++ Text.trim s.code ++ Text.ofString "\n\n"

/-- A command with a dollar sign in front, which it may have already. -/
def prompted (line : Text) : Text :=
  if line.head? = some '$' then line else Text.ofString "$ " ++ line

/-- How a command block stands in the shell file. -/
def commandText (s : CodeBlock) : Text :=
  note s ++ (Text.lines (Text.trim s.code)).flatMap (fun line => prompted line ++ ['\n']) ++ ['\n']

/-- What the run command has in place of the name of the snippet file. -/
def placeholder : Text := Text.ofString "\x7bsnippet\x7d"

/-- How to install and run, for a document without commands. -/
def defaultCommands (snippetFile : Text) (emit : EmitSettings) : Text :=
  Text.ofString "# First, install dependencies\n$ " ++ emit.installCommand
    ++ Text.ofString "\n\n# Run the snippet\n$ "
    ++ Text.replace placeholder snippetFile emit.runCommand ++ ['\n']

/-- The text of the shell file. -/
def shellText (b : Bundle) (snippetFile : Text) (emit : EmitSettings) : Text :=
  Text.ofString "# Run the example\n"
    ++ if b.commands = [] then defaultCommands snippetFile emit else b.commands.flatMap commandText

/-- The text of the links file. -/
def linksText (b : Bundle) (emit : EmitSettings) : Text :=
  if b.links = [] then emit.defaultLink else Text.join ['\n'] b.links

/-- The files of a bundle: snippet, shell, links. -/
def ofBundle (b : Bundle) (emit : EmitSettings) : List Artifact :=
  let names := ArtifactNames.ofName b.id.exampleName emit
  [⟨names.snippet, snippetText b⟩, ⟨names.shell, shellText b names.snippet emit⟩,
    ⟨names.links, linksText b emit⟩]

end Artifact
end GuideBundles
