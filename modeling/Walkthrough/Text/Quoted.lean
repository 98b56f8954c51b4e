import Walkthrough.Text.CodePoints
import Walkthrough.Text.Digit
import Walkthrough.Text.Printable

/-!
Quoted display of texts, lists and maps in messages. A text stands in apostrophes, or in quotation
marks if it holds an apostrophe and no quotation mark; the delimiter, the backslash and everything
unprintable are escaped, so that a quoted text is one printable line.
-/

namespace Walkthrough.Text

/-- The mark that delimits a quoted text. -/
def delimiter (cs : List Char) : Char := if cs.contains '\'' && !cs.contains '"' then '"' else '\''

/-- One character between the delimiters. -/
def quoteChar (mark c : Char) : List Char :=
  if c == mark || c == '\\' then ['\\', c]
  else if c == '\n' then ['\\', 'n']
  else if c == '\r' then ['\\', 'r']
  else if c == '\t' then ['\\', 't']
  else if isPrintable c then [c]
  else if c.toNat < 0x100 then '\\' :: 'x' :: hexPadded 2 c.toNat
  else if c.toNat < 0x10000 then '\\' :: 'u' :: hexPadded 4 c.toNat
  else '\\' :: 'U' :: hexPadded 8 c.toNat

/-- One code point between the delimiters. A surrogate is unprintable. -/
def quotePoint (mark : Char) (n : Nat) : List Char :=
  if isSurrogate n then '\\' :: 'u' :: hexPadded 4 n else quoteChar mark (Char.ofNat n)

/-- A text in its delimiters. -/
def quoted (s : String) : String :=
  let mark := delimiter s.toList
  String.ofList (mark :: ((points s.toList).flatMap (quotePoint mark) ++ [mark]))

/-- A character in its delimiters. -/
def quotedChar (c : Char) : String :=
  let mark := delimiter [c]
  String.ofList (mark :: (quoteChar mark c ++ [mark]))

/-- A list of texts in brackets. -/
def quotedList (ss : List String) : String := "[" ++ ", ".intercalate (ss.map quoted) ++ "]"

/-- A map of texts in braces, in its order. -/
def quotedMap (es : List (String × String)) : String :=
  "\x7b" ++ ", ".intercalate (es.map fun (k, v) => quoted k ++ ": " ++ quoted v) ++ "\x7d"

end Walkthrough.Text
