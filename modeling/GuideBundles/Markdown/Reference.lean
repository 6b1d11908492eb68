/-
# `Markdown.Reference` — links and images of a document

Both are looked for in the whole text, code included, from left to right and without overlap.  A
link is `[label](target)` with an `http` or `https` target; its label may hold bracketed groups,
which do not nest.  An image is `![alt](target "title")`, its target possibly in angle brackets and
its title optional.
-/
import GuideBundles.Text.Blank
import GuideBundles.Url.Basic

namespace GuideBundles

/-- A link to a page, or an image with its alternative text. -/
inductive Reference where
  | link (target : Text)
  | image (target alt : Text)
deriving DecidableEq

namespace Reference

def target : Reference → Text
  | link t => t
  | image t _ => t

/-- The same reference with another target. -/
def withTarget (t : Text) : Reference → Reference
  | link _ => link t
  | image _ alt => image t alt

/-- The alternative text of an image, when it is not empty. -/
def alt? : Reference → Option Text
  | link _ => none
  | image _ alt => if alt = [] then none else some alt

def isLink : Reference → Bool
  | link _ => true
  | image .. => false

end Reference

namespace Link

/-- What follows the bracket that ends a label, read from inside the label.  In a group only its
closing bracket counts. -/
def afterLabel? (inGroup : Bool) : Text → Option Text
  | [] => none
  | c :: t =>
    if inGroup then afterLabel? (c != ']') t
    else if c = ']' then some t
    else afterLabel? (c == '[') t

/-- Whether a character can be part of a link target. -/
def isTargetChar (c : Char) : Bool := !Text.isBlank c && c != ')'

/-- Whether a target starts like a web address and has something after that start. -/
def startsAsWeb (target : Text) : Bool :=
  let more (start : String) := match target.drop start.toList.length with
    | [] => false
    | _ :: _ => start.toList.isPrefixOf target
  more "http://" || more "https://"

/-- A target in parentheses, with what follows it. -/
def target? : Text → Option (Text × Text)
  | '(' :: t =>
    let target := t.takeWhile isTargetChar
    match t.dropWhile isTargetChar with
    | ')' :: rest => if startsAsWeb target then some (target, rest) else none
    | _ => none
  | _ => none

/-- The target of the link that a text starts with, and what follows the link. -/
def read? : Text → Option (Text × Text)
  | '[' :: t => (afterLabel? false t).bind target?
  | _ => none

/-- Targets of the links of a text, leaving out those right after an exclamation mark.  First
`skip` characters are passed over; `last` is the character before the text. -/
def targetsFrom (skip : Nat) (last : Char) : Text → List Text
  | [] => []
  | c :: t =>
    match skip with
    | skip + 1 => targetsFrom skip c t
    | 0 =>
      match read? (c :: t) with
      | some (target, rest) =>
        if last = '!' then targetsFrom (t.length - rest.length) c t
        else target :: targetsFrom (t.length - rest.length) c t
      | none => targetsFrom 0 c t

/-- The links of a text whose targets are acceptable web addresses, in order. -/
def extract (t : Text) : List Reference :=
  ((targetsFrom 0 '\n' t).filter Url.isWeb).map Reference.link

end Link

namespace Image

/-- Whether a character can be part of an image target. -/
def isTargetChar (c : Char) : Bool := !Text.isBlank c && c != ')' && c != '>'

/-- What follows an optional title and the closing parenthesis. -/
def afterTitle? (t : Text) : Option Text :=
  match Text.trimStart t with
  | ')' :: rest => some rest
  | '"' :: title =>
    if (t.head?.any Text.isBlank) then
      match title.dropWhile (· != '"') with
      | _ :: after =>
        match Text.trimStart after with
        | ')' :: rest => some rest
        | _ => none
      | [] => none
    else none
  | _ => none

/-- A target that may have an opening angle bracket, which counts only if more follows. -/
def dropAngle : Text → Text
  | '<' :: c :: t => c :: t
  | t => t

/-- The image that a text starts with, and what follows it. -/
def read? : Text → Option (Reference × Text)
  | '!' :: '[' :: t =>
    let alt := t.takeWhile (· != ']')
    match t.dropWhile (· != ']') with
    | _ :: '(' :: u =>
      let inner := Text.trimStart u
      let target := dropAngle (inner.takeWhile isTargetChar)
      let after := match inner.dropWhile isTargetChar with
        | '>' :: v => v
        | v => v
      if target = [] then none
      else (afterTitle? after).map fun rest => (.image target alt, rest)
    | _ => none
  | _ => none

/-- Images of a text after its first `skip` characters. -/
def listFrom (skip : Nat) : Text → List Reference
  | [] => []
  | c :: t =>
    match skip with
    | skip + 1 => listFrom skip t
    | 0 =>
      match read? (c :: t) with
      | some (image, rest) => image :: listFrom (t.length - rest.length) t
      | none => listFrom 0 t

/-- The images of a text, in order, with their targets as written. -/
def extract (t : Text) : List Reference := listFrom 0 t

end Image
end GuideBundles
