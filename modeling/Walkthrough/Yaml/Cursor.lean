import Walkthrough.Text.CodePoints

/-!
A place in a YAML text and the character classes that decide what begins there. Beyond the end
stands the character zero, which no text may hold.
-/

namespace Walkthrough.Yaml

/-- What is left of a text, and how far it was read. -/
structure Cursor where
  rest : List Char
  index : Nat := 0
  line : Nat := 0
  column : Nat := 0
  /-- The count of the characters that are left. -/
  left : Nat := rest.length

/-- The character beyond the end. -/
def endMark : Char := '\x00'

/-- Breaks that are read as a line feed. -/
def isPlainBreak (c : Char) : Bool := c == '\r' || c == '\n' || c.toNat == 0x85

/-- Breaks that stay what they are. -/
def isSpecialBreak (c : Char) : Bool := c.toNat == 0x2028 || c.toNat == 0x2029

def isBreak (c : Char) : Bool := isPlainBreak c || isSpecialBreak c

/-- Where a line's content ends. -/
def endsLine (c : Char) : Bool := c == endMark || isBreak c

/-- Where a word ends that tabs belong to. -/
def endsWord (c : Char) : Bool := c == ' ' || endsLine c

/-- Where a word ends. -/
def isGap (c : Char) : Bool := c == '\t' || endsWord c

/-- Code points that a text may hold. -/
def isAllowed (n : Nat) : Bool :=
  n == 9 || n == 10 || n == 13 || (0x20 ≤ n && n ≤ 0x7E) || n == 0x85 ||
  (0xA0 ≤ n && n ≤ 0xD7FF) || (0xE000 ≤ n && n ≤ 0xFFFD) || 0x10000 ≤ n

/-- Characters of names. -/
def isWordChar (c : Char) : Bool := c.isAlphanum || c == '-' || c == '_'

namespace Cursor

def peek (c : Cursor) : Char := c.rest.headD endMark

def peekAt (c : Cursor) (n : Nat) : Char := c.rest.getD n endMark

/-- One character further. A carriage return with its line feed is one break, and a byte order mark
takes no column. -/
def next (c : Cursor) : Cursor :=
  match c.rest with
  | [] => c
  | ch :: rest =>
    if ch == '\n' || ch.toNat == 0x85 || isSpecialBreak ch || (ch == '\r' && rest.head? != some '\n')
    then ⟨rest, c.index + 1, c.line + 1, 0, c.left - 1⟩
    else ⟨rest, c.index + 1, c.line, if ch.toNat == 0xFEFF then c.column else c.column + 1, c.left - 1⟩

def advance (c : Cursor) : Nat → Cursor
  | 0 => c
  | n + 1 => c.next.advance n

/-- The characters from here on that satisfy `p`, and the place after them. -/
def span (c : Cursor) (p : Char → Bool) : List Char × Cursor :=
  let taken := c.rest.takeWhile p
  (taken, c.advance taken.length)

def skipSpaces (c : Cursor) : Cursor := (c.span (· == ' ')).2

/-- The place after a comment, if one begins here. -/
def skipComment (c : Cursor) : Cursor :=
  if c.peek == '#' then (c.span (fun ch => !endsLine ch)).2 else c

/-- The line break that stands here, as it is read, and the place after it. -/
def lineBreak? (c : Cursor) : Option (Char × Cursor) :=
  match c.rest with
  | '\r' :: '\n' :: _ => some ('\n', c.advance 2)
  | ch :: _ =>
    if isPlainBreak ch then some ('\n', c.next)
    else if isSpecialBreak ch then some (ch, c.next)
    else none
  | [] => none

/-- The place after a line break, if one stands here. -/
def skipBreak (c : Cursor) : Cursor :=
  match c.lineBreak? with
  | some (_, c) => c
  | none => c

/-- Whether three equal characters stand here with a gap after them. -/
def isMarker (c : Cursor) (ch : Char) : Bool :=
  match c.rest with
  | a :: b :: d :: rest => a == ch && b == ch && d == ch && isGap (rest.headD endMark)
  | _ => false

/-- Whether a line begins here that ends or begins a document. -/
def isSeparator (c : Cursor) : Bool := c.isMarker '-' || c.isMarker '.'

end Cursor

end Walkthrough.Yaml
