import Walkthrough.Data.Display

/-!
JSON output on one line (`write`, without spaces `writeCompact`) and indented by two spaces
(`writeIndented`). Characters outside ASCII stand as themselves; quotation marks, backslashes and
control characters are escaped.
-/

namespace Walkthrough.Json

open Text

/-- One character of a JSON string. -/
def escapeChar (c : Char) : List Char :=
  if c == '"' then ['\\', '"']
  else if c == '\\' then ['\\', '\\']
  else if c == '\n' then ['\\', 'n']
  else if c == '\r' then ['\\', 'r']
  else if c == '\t' then ['\\', 't']
  else if c.toNat == 8 then ['\\', 'b']
  else if c.toNat == 12 then ['\\', 'f']
  else if c.toNat < 0x20 then '\\' :: 'u' :: hexPadded 4 c.toNat
  else [c]

def escape (cs : List Char) : List Char := '"' :: (cs.flatMap escapeChar ++ ['"'])

def writeText (s : String) : String := String.ofList (escape s.toList)

/-- A scalar; a value that JSON has no form for is written as its display. -/
def writeScalar : Data → String
  | .null => "null"
  | .bool b => if b then "true" else "false"
  | .int n => toString n
  | .float .nan => "NaN"
  | .float (.infinite s) => if s then "-Infinity" else "Infinity"
  | .float x => x.text
  | .text s => writeText s
  | d => writeText d.display

/-- A key, which is always text. -/
def writeKey : Data → String
  | .text s => writeText s
  | d => writeText (writeScalar d)

/-- What stands between the items of a list or map, and between a key and its value. -/
structure Separators where
  item : String := ", "
  key : String := ": "

mutual

/-- A value on one line. -/
def writeWith (sep : Separators) : Data → String
  | .list items => "[" ++ writeItems sep items ++ "]"
  | .map entries => "\x7b" ++ writeEntries sep entries ++ "\x7d"
  | d => writeScalar d

def writeItems (sep : Separators) : List Data → String
  | [] => ""
  | [x] => writeWith sep x
  | x :: rest => writeWith sep x ++ sep.item ++ writeItems sep rest

def writeEntries (sep : Separators) : List (Data × Data) → String
  | [] => ""
  | [(k, v)] => writeKey k ++ sep.key ++ writeWith sep v
  | (k, v) :: rest =>
    writeKey k ++ sep.key ++ writeWith sep v ++ sep.item ++ writeEntries sep rest

end

def write (d : Data) : String := writeWith {} d

def writeCompact (d : Data) : String := writeWith ⟨",", ":"⟩ d

mutual

/-- Whether every number in a value is one of JSON, which infinity and NaN are not. -/
def isFinite : Data → Bool
  | .list items => areFinite items
  | .map entries => entriesFinite entries
  | .float .nan | .float (.infinite _) => false
  | _ => true

def areFinite : List Data → Bool
  | [] => true
  | x :: rest => isFinite x && areFinite rest

def entriesFinite : List (Data × Data) → Bool
  | [] => true
  | (_, v) :: rest => isFinite v && entriesFinite rest

end

/-- A line break and the indentation of a nesting depth. -/
def newline (depth : Nat) : String := "\n" ++ String.ofList (List.replicate (2 * depth) ' ')

/-- A value that holds no others. -/
def isScalar : Data → Bool
  | .list _ | .map _ => false
  | _ => true

mutual

/-- The pieces in which a value is written over several lines, each entry on its own; empty lists and
maps stay on one line. -/
def indentedAt (depth : Nat) : Data → List String
  | .list [] => ["[]"]
  | .list items => indentedItems (depth + 1) "[" items ++ [newline depth, "]"]
  | .map [] => ["\x7b\x7d"]
  | .map entries => "\x7b" :: newline (depth + 1) :: indentedEntries (depth + 1) entries ++
      [newline depth, "\x7d"]
  | d => [writeScalar d]

/-- Items after an opening or a comma, with which a scalar makes one piece. -/
def indentedItems (depth : Nat) (lead : String) : List Data → List String
  | [] => []
  | x :: rest =>
    let lead := lead ++ newline depth
    (if isScalar x then [lead ++ String.join (indentedAt depth x)]
      else lead :: indentedAt depth x) ++ indentedItems depth "," rest

def indentedEntries (depth : Nat) : List (Data × Data) → List String
  | [] => []
  | [(k, v)] => writeKey k :: ": " :: indentedAt depth v
  | (k, v) :: rest =>
    writeKey k :: ": " :: indentedAt depth v ++ ("," ++ newline depth) :: indentedEntries depth rest

end

/-- The pieces in which a value is written over several lines. -/
def indentedParts (d : Data) : List String := indentedAt 0 d

/-- A value over several lines. -/
def writeIndented (d : Data) : String := String.join (indentedParts d)

end Walkthrough.Json
