/-
# `Failure` — what can go wrong, and how it is said

A `Fault` is what a file system refuses; a `Failure` is why a run of the program stopped.  Both are
causes: their wording is in one function each.
-/
import GuideBundles.Path
import GuideBundles.Text.Quoted

namespace GuideBundles

/-- A reason for which a file system refuses a request. -/
inductive Fault where
  | notFound
  | alreadyExists
  /-- The place is in use, as that of a path which ends with dots always is. -/
  | busy
  | notDirectory
  | isDirectory
  | invalidRequest
  | nameTooLong
  | notEmpty
  /-- The name holds a NUL character. -/
  | nulInName
  /-- The bytes of the file are no UTF-8 text. -/
  | notText
  /-- Any other refusal, in the words of the file system. -/
  | other (words : Text)
deriving DecidableEq

/-- The wording of a fault. -/
def Fault.message : Fault → Text
  | .notFound => Text.ofString "No such file or directory (os error 2)"
  | .alreadyExists => Text.ofString "File exists (os error 17)"
  | .busy => Text.ofString "Device or resource busy (os error 16)"
  | .notDirectory => Text.ofString "Not a directory (os error 20)"
  | .isDirectory => Text.ofString "Is a directory (os error 21)"
  | .invalidRequest => Text.ofString "Invalid argument (os error 22)"
  | .nameTooLong => Text.ofString "File name too long (os error 36)"
  | .notEmpty => Text.ofString "Directory not empty (os error 39)"
  | .nulInName => Text.ofString "file name contained an unexpected NUL byte"
  | .notText => Text.ofString "stream did not contain valid UTF-8"
  | .other words => words

/-- The two kinds of fenced code that a bundle is made of. -/
inductive Dialect where
  | snippet
  | command
deriving DecidableEq

/-- Why a run stopped. -/
inductive Failure where
  /-- No fence tag is configured for a dialect. -/
  | noTags (d : Dialect)
  /-- A fence tag is configured for both dialects. -/
  | sharedTag (tag : Text)
  /-- Snippet and shell file would have the same extension. -/
  | sameExtension
  /-- The settings file is not well formed or does not fit the settings. -/
  | unreadableSettings (path : Path)
  /-- The directory of documents does not exist. -/
  | inputNotFound (path : Path)
  /-- The section map is not well formed or does not fit its shape. -/
  | brokenSections
  | io (path : Path) (fault : Fault)
  /-- An identifier has nothing but blanks. -/
  | emptyId
  /-- A path has no file name to take an identifier from. -/
  | noIdIn (path : Path)
deriving DecidableEq

/-- The kinds of failure, by what the user has to look at. -/
inductive Failure.Kind where
  | config
  | inputNotFound
  | parse
  | io
  | validation
deriving DecidableEq

namespace Failure

def kind : Failure → Kind
  | noTags _ | sharedTag _ | sameExtension | unreadableSettings _ => .config
  | inputNotFound _ => .inputNotFound
  | brokenSections => .parse
  | io _ _ => .io
  | emptyId | noIdIn _ => .validation

/-- The settings key that holds the tags of a dialect. -/
def tagsKey : Dialect → Text
  | .snippet => Text.ofString "snippet_tags"
  | .command => Text.ofString "command_tags"

/-- What happened, without the kind in front. -/
def detail : Failure → Text
  | noTags d => Text.ofString "dialects." ++ tagsKey d ++ Text.ofString " must not be empty"
  | sharedTag tag =>
    Text.ofString "fence tag '" ++ tag ++ Text.ofString "' is configured for both dialects"
  | sameExtension =>
    Text.ofString "emit.snippet_extension and emit.command_extension must differ"
  | unreadableSettings path => Text.ofString "failed to parse " ++ path.spelling
  | inputNotFound path => Text.Quoted.encode path.spelling
  | brokenSections => Text.ofString "invalid sections file"
  | io path fault =>
    Text.Quoted.encode path.spelling ++ Text.ofString ": " ++ fault.message
  | emptyId => Text.ofString "empty example identifier"
  | noIdIn path => Text.ofString "cannot derive example id from " ++ path.spelling

/-- What a kind of failure is called in front of a message. -/
def Kind.heading : Kind → Text
  | .config => Text.ofString "config error: "
  | .inputNotFound => Text.ofString "input directory not found: "
  | .parse => Text.ofString "parse error: "
  | .io => Text.ofString "I/O error at "
  | .validation => Text.ofString "validation error: "

/-- The wording of a failure. -/
def message (f : Failure) : Text := f.kind.heading ++ f.detail

end Failure
end GuideBundles
