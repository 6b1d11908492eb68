/-
# `CommandLine` — arguments, commands and what they print

Arguments are read from left to right on a level of commands each: the program, then a command,
then possibly an action.  Help and version count as soon as they are met, and so does the first
mistake.  The options for settings file and logging are known on every level; the value of the
deepest level counts.
-/
import GuideBundles.Check
import GuideBundles.Conversion
import GuideBundles.Settings.Load

namespace GuideBundles

/-- What a user asks for. -/
inductive Command where
  /-- Convert a directory of documents; output directory and section map may be told. -/
  | convert (documents : Path) (output sections : Option Path)
  /-- Check the bundles of a directory. -/
  | check (output : Option Path)
  | initSettings
  | showSettings
deriving DecidableEq

/-- A command with the settings file to use. -/
structure Invocation where
  settingsFile : Option Path
  command : Command
deriving DecidableEq

namespace CommandLine

/-! ## Levels and options -/

/-- A level of commands. -/
inductive Level where
  | program
  | convert
  | check
  | config
  | initSettings
  | showSettings
deriving DecidableEq

namespace Level

/-- The words that lead from a level to a deeper one. -/
def subcommands : Level → List (Text × Level)
  | program => [(Text.ofString "convert", convert), (Text.ofString "check", check),
      (Text.ofString "config", config)]
  | config => [(Text.ofString "init", initSettings), (Text.ofString "show", showSettings)]
  | _ => []

/-- Number of words that a level takes at most. -/
def capacity : Level → Nat
  | convert => 2
  | check => 1
  | _ => 0

end Level

/-- The options that take a value. -/
inductive Opt where
  | settings
  | logFormat
  | sections
deriving DecidableEq

/-- The option with a name on a level. -/
def Opt.named? (level : Level) (name : Text) : Option Opt :=
  if name = Text.ofString "config" then some settings
  else if name = Text.ofString "log-format" then some logFormat
  else if name = Text.ofString "sections" ∧ level = .convert then some sections
  else none

/-- Whether an option can have a value. -/
def Opt.accepts (o : Opt) (value : Text) : Bool :=
  match o with
  | logFormat => value == Text.ofString "text" || value == Text.ofString "json"
  | _ => value != []

/-- Why reading the arguments ends before a command is known. -/
inductive Stop where
  | help
  | version
  /-- The arguments make no sense. -/
  | misuse
deriving DecidableEq

/-- What was given on a level. -/
structure Given where
  options : List (Opt × Text) := []
  words : List Text := []

namespace Given

/-- Another option, which must be new and have a value that it accepts. -/
def addOption (g : Given) (o : Opt) (value : Text) : Except Stop Given :=
  if (g.options.lookup o).isNone && o.accepts value then
    .ok { g with options := (o, value) :: g.options }
  else .error .misuse

/-- Another word, which must have a place and not be empty. -/
def addWord (level : Level) (g : Given) (word : Text) : Except Stop Given :=
  if g.words.length < level.capacity ∧ word ≠ [] then .ok { g with words := g.words ++ [word] }
  else .error .misuse

end Given

/-! ## Arguments -/

/-- What an argument looks like. -/
inductive Argument where
  /-- Two hyphens: only words follow. -/
  | escape
  /-- A name after two hyphens, possibly with a value behind an equals sign. -/
  | long (name : Text) (value : Option Text)
  /-- Letters after one hyphen. -/
  | short (letters : Text)
  | word (w : Text)

/-- What an argument is. -/
def Argument.ofText : Text → Argument
  | ['-', '-'] => escape
  | '-' :: '-' :: t =>
    match t.dropWhile (· != '=') with
    | [] => long t none
    | _ :: value => long (t.takeWhile (· != '=')) (some value)
  | ['-'] => word ['-']
  | '-' :: t => short t
  | t => word t

/-- Whether an argument cannot be the value of an option before it. -/
def Argument.isWord : Argument → Bool
  | word _ => true
  | _ => false

/-- Checks the letters after one hyphen, which ask for more or less output, help or version. -/
def readLetters (level : Level) : Text → Except Stop Unit
  | [] => .ok ()
  | 'v' :: t => readLetters level t
  | 'h' :: _ => .error .help
  | 'V' :: _ => if level = .program then .error .version else .error .misuse
  | _ => .error .misuse

/-- Checks an option without a value. -/
def readFlag (level : Level) (name : Text) : Except Stop Unit :=
  if name = Text.ofString "verbose" then .ok ()
  else if name = Text.ofString "help" then .error .help
  else if name = Text.ofString "version" ∧ level = .program then .error .version
  else .error .misuse

/-- Whether words name a level below another, as the help command wants it. -/
def namesLevel : Level → List Text → Bool
  | _, [] => true
  | level, w :: rest =>
    match level.subcommands.lookup w with
    | some deeper => namesLevel deeper rest
    | none => rest.isEmpty && !level.subcommands.isEmpty && w == Text.ofString "help"

/-- What a level was given, and the deeper level with the arguments left for it. -/
structure Scan where
  given : Given
  deeper : Option (Level × List Text) := none

/-- How the next argument is to be taken. -/
inductive Mode where
  | plain
  /-- As the value of an option. -/
  | value (o : Opt)
  /-- As a word, whatever it looks like. -/
  | escaped

/-- Reads the arguments of a level, up to the word that leads to a deeper one. -/
def scan (level : Level) (g : Given) : Mode → List Text → Except Stop Scan
  | .value _, [] => .error .misuse
  | _, [] => .ok { given := g }
  | .value o, arg :: rest =>
    if (Argument.ofText arg).isWord then do scan level (← g.addOption o arg) .plain rest
    else .error .misuse
  | .escaped, arg :: rest => do scan level (← g.addWord level arg) .escaped rest
  | .plain, arg :: rest =>
    match Argument.ofText arg with
    | .escape => scan level g .escaped rest
    | .short letters => do
      readLetters level letters
      scan level g .plain rest
    | .long name value =>
      match Opt.named? level name, value with
      | some o, some v => do scan level (← g.addOption o v) .plain rest
      | some o, none => scan level g (.value o) rest
      | none, some _ => .error .misuse
      | none, none => do
        readFlag level name
        scan level g .plain rest
    | .word w =>
      match level.subcommands.lookup w with
      | some deeper => .ok { given := g, deeper := some (deeper, rest) }
      | none =>
        if w = Text.ofString "help" ∧ level.subcommands ≠ [] then
          .error (if namesLevel level rest then .help else .misuse)
        else do scan level (← g.addWord level w) .plain rest

/-- The deepest level that arguments lead to with what was given there, and the settings file that
counts.  Levels are entered at most as often as the number says.  A settings file from the
environment stands in on every level that names none, and there it must not be empty. -/
def descend (env : Option Text) : Nat → Level → Option Text → List Text →
    Except Stop (Level × Given × Option Text)
  | 0, _, _, _ => .error .misuse
  | n + 1, level, outer, args => do
    let s ← scan level {} .plain args
    let file := match s.given.options.lookup .settings with
      | some v => some v
      | none => outer
    let last ← match s.deeper with
      | none => .ok (level, s.given, file)
      | some (deeper, rest) => descend env n deeper file rest
    if (s.given.options.lookup .settings).isNone ∧ env = some [] then .error .misuse
    else .ok last

/-- The command that a level with its words is. -/
def command? : Level → Given → Option Command
  | .convert, g =>
    match g.words with
    | [documents] => some (.convert ⟨documents⟩ none (sections g))
    | [documents, output] => some (.convert ⟨documents⟩ (some ⟨output⟩) (sections g))
    | _ => none
  | .check, g => some (.check (g.words.head?.map Path.mk))
  | .initSettings, _ => some .initSettings
  | .showSettings, _ => some .showSettings
  | _, _ => none
where
  sections (g : Given) : Option Path := (g.options.lookup .sections).map Path.mk

/-- Reads the arguments; `env` is the settings file that the environment names. -/
def read (env : Option Text) (args : List Text) : Except Stop Invocation := do
  let (level, given, file) ← descend env 3 .program none args
  match command? level given with
  | some c => .ok ⟨(file <|> env).map Path.mk, c⟩
  | none => .error .misuse

/-! ## Carrying commands out -/

/-- What a command comes to. -/
inductive Answer where
  | converted (report : Report) (output : Path)
  /-- The findings of a check, by their paths below the directory that was checked. -/
  | checked (findings : List (Text × SnippetIssue))
  | initialised (file : Path)
  | shown (settings : Settings)

/-- The settings of an invocation. -/
def settings (home : Path) : Option Path → Script Settings
  | some p => Settings.load p
  | none => Settings.loadHome home

/-- A finding by its path below a directory. -/
def shownFinding (dir : Path) (f : Finding) : Text × SnippetIssue :=
  ((dir.below? f.path).getD f.path.spelling, f.issue)

/-- Carries a command out. -/
def carryOut (home : Path) (s : Settings) : Command → Script Answer
  | .convert documents output sections => do
    let s := { s with
      outputDir := output.getD s.outputDir
      sectionsFile := sections.getD s.sectionsFile }
    pure (.converted (← Conversion.convertDirectory s documents) s.outputDir)
  | .check output => do
    let dir := output.getD s.outputDir
    let findings ← Check.checkAll s.emit.snippetExtension dir
    pure (.checked (findings.map (shownFinding dir)))
  | .initSettings => do pure (.initialised (← Settings.initialise home))
  | .showSettings => pure (.shown s)

/-- Carries an invocation out. -/
def run (home : Path) (i : Invocation) : Script Answer := do
  carryOut home (← settings home i.settingsFile) i.command

/-! ## What is printed -/

/-- Numbered lines, from a number on. -/
def numbered (n : Nat) : List Text → Text
  | [] => []
  | line :: rest => Text.ofNat n ++ Text.ofString ". " ++ line ++ '\n' :: numbered (n + 1) rest

namespace Answer

/-- What is printed on success; `elapsed` is how long a conversion took. -/
def text (elapsed : Text) : Answer → Text
  | converted r output =>
    Text.ofString "\n  Conversion complete!\n  Seen:      " ++ Text.ofNat r.seen
      ++ Text.ofString "\n  Converted: " ++ Text.ofNat r.converted
      ++ Text.ofString "\n  Skipped:   " ++ Text.ofNat r.skipped
      ++ Text.ofString "\n  Output:    " ++ output.spelling
      ++ Text.ofString "\n  Time:      " ++ elapsed ++ Text.ofString "\n\n"
  | checked [] => Text.ofString "All files have the correct comment structure.\n"
  | checked findings => Text.ofString "FILES NEEDING FIXES:\n"
      ++ numbered 1 (findings.map fun (p, issue) => p ++ Text.ofString " - " ++ issue.message)
  | initialised file => Text.ofString "Config initialized at: " ++ file.spelling ++ ['\n']
  | shown s => s.toText ++ ['\n']

/-- Whether a command that came to an end counts as successful; findings are no success. -/
def isSuccess : Answer → Bool
  | checked findings => findings.isEmpty
  | _ => true

end Answer

/-- What the program says of itself. -/
def versionText : Text := Text.ofString "mdexamples 0.1.0\n"

/-- How the program is used. -/
def helpText : Text := Text.ofString "Usage: mdexamples [OPTIONS] <COMMAND>

Commands:
  convert <MARKDOWN_DIR> [OUTPUT_DIR]  Write a bundle for every document of a directory
  check [OUTPUT_DIR]                   Check the comments at the start of snippet files
  config init                          Write the default settings
  config show                          Show the settings in use

Options:
      --config <FILE>        Use these settings [env: MDEXAMPLES_CONFIG]
      --sections <FILE>      Use this section map (convert)
      --log-format <FORMAT>  text or json
  -v, --verbose              Say more
  -h, --help                 Say this
  -V, --version              Say the version
"

/-- What the program leaves behind: an exit code, and what it wrote to its standard output. -/
structure Exit where
  code : Nat
  output : Text
deriving DecidableEq

/-- The exit after arguments that are no command. -/
def Stop.exit : Stop → Exit
  | help => ⟨0, helpText⟩
  | version => ⟨0, versionText⟩
  | misuse => ⟨2, []⟩

/-- The exit after a command. -/
def exitOf (elapsed : Text) : Except Failure Answer → Exit
  | .ok a => ⟨if a.isSuccess then 0 else 1, a.text elapsed⟩
  | .error _ => ⟨1, []⟩

end CommandLine
end GuideBundles
