/-
# `Settings.Load` — the settings file on disk

The usual settings file lies in a hidden directory at home, and it may be missing.  A file that is
asked for by its path has to be there.
-/
import GuideBundles.Script
import GuideBundles.Settings.File

namespace GuideBundles.Settings

/-- The directory of the usual settings file. -/
def homeDirectory (home : Path) : Path := home.join (Text.ofString ".mdexamples")

/-- The usual settings file. -/
def homeFile (home : Path) : Path := (homeDirectory home).join (Text.ofString "mdexamples.toml")

/-- The settings at a path. -/
def load (p : Path) : Script Settings := do
  match ofText? (← Script.readText p) with
  | some s => pure s
  | none => .fail (.unreadableSettings p)

/-- The usual settings, or the defaults. -/
def loadHome (home : Path) : Script Settings := do
  if ← Script.request (.present (homeFile home)) then load (homeFile home) else pure {}

/-- Writes the defaults into the usual settings file. -/
def initialise (home : Path) : Script Path := do
  Script.createDirs (homeDirectory home)
  Script.writeText (homeFile home) (toText {})
  pure (homeFile home)

end GuideBundles.Settings
