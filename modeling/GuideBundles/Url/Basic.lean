/-
# `Url.Basic` — which texts are web addresses

A web address has the scheme `http` or `https`, a host, and possibly credentials before the host
and a port after it; path, query and fragment are always acceptable.  Slashes after the scheme may
be missing or too many, and backslashes count as slashes.
-/
import GuideBundles.Url.Host

namespace GuideBundles.Url

/-- Whether a character is cut off at the ends of an address. -/
def isOuterBlank (c : Char) : Bool := c.toNat ≤ 0x20

/-- Whether a character is passed over anywhere in an address. -/
def isSkipped (c : Char) : Bool := c == '\t' || c == '\n' || c == '\r'

/-- An address without what its reading passes over. -/
def stripped (t : Text) : Text :=
  (Text.dropEndWhile isOuterBlank (t.dropWhile isOuterBlank)).filter fun c => !isSkipped c

/-- Whether a character can be part of a scheme. -/
def isSchemeChar (c : Char) : Bool := c.isAlphanum || c == '+' || c == '-' || c == '.'

/-- The scheme of an address in lower case, and what follows its colon. -/
def scheme? (t : Text) : Option (Text × Text) :=
  let name := t.takeWhile isSchemeChar
  match name, t.dropWhile isSchemeChar with
  | c :: _, ':' :: rest => if c.isAlpha then some (name.map Char.toLower, rest) else none
  | _, _ => none

def isSlash (c : Char) : Bool := c == '/' || c == '\\'

/-- Whether a character ends the part of an address that names the host. -/
def endsAuthority (c : Char) : Bool := isSlash c || c == '?' || c == '#'

/-- What names host and port, with the credentials in front of the last at sign taken away. -/
def withoutCredentials (authority : Text) : Text :=
  (authority.reverse.takeWhile (· != '@')).reverse

/-- Number of characters of the host: it ends at the first colon outside brackets. -/
def hostLength (inBrackets : Bool) : Text → Nat
  | [] => 0
  | c :: t =>
    if c = ':' ∧ !inBrackets then 0
    else hostLength (if c = '[' then true else if c = ']' then false else inBrackets) t + 1

/-- Whether a text is a port: decimal digits of a number below 65536, possibly none. -/
def isPort (t : Text) : Bool :=
  t.all Char.isDigit && decide (Text.valueIn 10 t < 65536)

/-- Whether what follows a host is nothing or a port behind a colon. -/
def isPortPart : Text → Bool
  | ':' :: port => isPort port
  | _ => true

/-- Whether a text is an absolute web address. -/
def isWeb (t : Text) : Bool :=
  match scheme? (stripped t) with
  | none => false
  | some (scheme, rest) =>
    if scheme = Text.ofString "http" ∨ scheme = Text.ofString "https" then
      let authority := (rest.dropWhile isSlash).takeWhile fun c => !endsAuthority c
      let hostAndPort := withoutCredentials authority
      let length := hostLength false hostAndPort
      Host.isHost (hostAndPort.take length) && isPortPart (hostAndPort.drop length)
    else false

end GuideBundles.Url
