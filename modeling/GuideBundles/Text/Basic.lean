/-
# `Text.Basic` — texts as lists of characters

Everything the library reads and writes is a `Text`, the list of its characters: documents are cut,
trimmed and matched by recursion on that list.  Positions in a document are counted in bytes of its
UTF-8 form, so `Text.size` is the one length that answers show.
-/

namespace GuideBundles

/-- A text is the list of its characters. -/
abbrev Text := List Char

namespace Text

/-- Number of bytes of the UTF-8 form of a text. -/
def size : Text → Nat
  | [] => 0
  | c :: t => c.utf8Size + size t

@[simp] theorem size_nil : size [] = 0 := rfl

@[simp] theorem size_cons (c : Char) (t : Text) : size (c :: t) = c.utf8Size + size t := rfl

@[simp] theorem size_append (s t : Text) : size (s ++ t) = size s + size t := by
  induction s with
  | nil => simp
  | cons c s ih => simp [ih, Nat.add_assoc]

/-- The text of a string literal or of a decoded file. -/
abbrev ofString (s : String) : Text := s.toList

/-! ## Order -/

/-- The order of texts by code point, which is the order of their UTF-8 bytes. -/
def before : Text → Text → Bool
  | [], _ => true
  | _ :: _, [] => false
  | c :: s, d :: t => if c = d then before s t else c.toNat ≤ d.toNat

/-! ## Cutting at the ends -/

/-- A text without the characters of the class `p` at its end. -/
def dropEndWhile (p : Char → Bool) (t : Text) : Text := (t.reverse.dropWhile p).reverse

/-- Whether `c` belongs to a line break. -/
def isBreak (c : Char) : Bool := c == '\n' || c == '\r'

/-- A line without the line breaks at its end. -/
def dropBreaks (line : Text) : Text := dropEndWhile isBreak line

/-- The line breaks at the end of a line, which `dropBreaks` takes away. -/
def breaks (line : Text) : Text := (line.reverse.takeWhile isBreak).reverse

theorem dropBreaks_append_breaks (line : Text) : dropBreaks line ++ breaks line = line := by
  simp only [dropBreaks, dropEndWhile, breaks]
  rw [← List.reverse_append, List.takeWhile_append_dropWhile, List.reverse_reverse]

/-! ## Lines -/

/-- The parts of a text between the characters that `sep` accepts; there is always at least one. -/
def splitOn (sep : Char → Bool) : Text → List Text
  | [] => [[]]
  | c :: t =>
    if sep c then [] :: splitOn sep t
    else match splitOn sep t with
      | [] => [[c]]
      | part :: parts => (c :: part) :: parts

/-- The lines of a text, each with its newline; only the last one may lack it, and none is empty. -/
def fullLines : Text → List Text
  | [] => []
  | c :: t =>
    if c = '\n' then [c] :: fullLines t
    else match fullLines t with
      | [] => [[c]]
      | line :: lines => (c :: line) :: lines

/-- A line without its newline and without one carriage return right before that newline. -/
def dropNewline (line : Text) : Text :=
  match line.reverse with
  | '\n' :: '\r' :: r => r.reverse
  | '\n' :: r => r.reverse
  | _ => line

/-- The lines of a text without their ends. -/
def lines (t : Text) : List Text := (fullLines t).map dropNewline

@[simp] theorem flatten_fullLines (t : Text) : (fullLines t).flatten = t := by
  induction t with
  | nil => rfl
  | cons c t ih =>
    simp only [fullLines]
    split
    · simp [ih]
    · split <;> simp_all

/-! ## Joining and replacing -/

/-- The texts of a list with `sep` between them. -/
def join (sep : Text) (parts : List Text) : Text := List.intercalate sep parts

/-- `t` with every character `c` replaced by the text `new`. -/
def replaceChar (c : Char) (new t : Text) : Text := t.flatMap fun d => if d = c then new else [d]

/-- Replacement that first drops as many characters as its number says. -/
def replaceFrom (old new : Text) : Nat → Text → Text
  | _, [] => []
  | skip + 1, _ :: t => replaceFrom old new skip t
  | 0, c :: t =>
    if old.isPrefixOf (c :: t) then new ++ replaceFrom old new (old.length - 1) t
    else c :: replaceFrom old new 0 t

/-- `t` with every occurrence of the non-empty text `old` replaced by `new`, from the left and
without looking into what was put in. -/
def replace (old new t : Text) : Text := replaceFrom old new 0 t

/-- Decimal digits of a number. -/
def ofNat (n : Nat) : Text := Nat.toDigits 10 n

end Text
end GuideBundles
