import Walkthrough.Yaml.Token

/-!
Scalars: plain ones, quoted ones and blocks. Line breaks inside are folded to spaces unless blank
lines follow or the block keeps them.
-/

namespace Walkthrough.Yaml

open Text

/-- Brackets and braces, which end a plain scalar inside of them. -/
def isBracket (c : Char) : Bool := c == '[' || c == ']' || c == '\x7b' || c == '\x7d'

/-- Whether a colon ends a word if the character stands after it. -/
def endsKey (flow : Bool) (next : Char) : Bool :=
  isGap next || (flow && (next == ',' || isBracket next))

/-- The word of a plain scalar at the front of a text. -/
def plainWord (flow : Bool) : List Char → List Char
  | [] => []
  | c :: rest =>
    if isGap c || (c == ':' && endsKey flow (rest.headD endMark)) ||
        (flow && (c == ',' || c == '?' || isBracket c))
    then [] else c :: plainWord flow rest

/-- What a line break and the breaks after it are folded to. -/
def fold (first : Char) (others : List Char) : List Char :=
  if first != '\n' then first :: others else if others.isEmpty then [' '] else others

/-- Breaks and spaces up to the next word; nothing if a separator comes first. -/
def plainBreaks : Nat → List Char → Cursor → Option (List Char) × Cursor
  | 0, acc, c => (some acc.reverse, c)
  | fuel + 1, acc, c =>
    if c.peek == ' ' then plainBreaks fuel acc c.next
    else match c.lineBreak? with
      | none => (some acc.reverse, c)
      | some (br, c) => if c.isSeparator then (none, c) else plainBreaks fuel (br :: acc) c

/-- What stands between two words of a plain scalar, nothing if the scalar ends here, and whether a
line ended. -/
def plainGap (c : Cursor) : List Char × Bool × Cursor :=
  let (spaces, c) := c.span (· == ' ')
  match c.lineBreak? with
  | none => (spaces, false, c)
  | some (br, c) =>
    if c.isSeparator then ([], true, c)
    else match plainBreaks c.left [] c with
      | (none, c) => ([], true, c)
      | (some others, c) => (fold br others, true, c)

/-- The rest of a plain scalar: its text, whether a line ended after the last word, and the place
after it. The text so far is given last character first, and `broken` and `gap` tell what stood
after it. -/
def plainFrom (flow : Bool) (indent : Int) :
    Nat → List Char → List Char → Bool → Cursor → List Char × Bool × Cursor
  | 0, acc, _, broken, c => (acc.reverse, broken, c)
  | fuel + 1, acc, gap, broken, c =>
    let word := plainWord flow c.rest
    if c.peek == '#' || word.isEmpty then (acc.reverse, broken, c)
    else
      let acc := (gap ++ word).reverseAux acc
      let (gap, broken, c) := plainGap (c.advance word.length)
      if gap.isEmpty || c.peek == '#' || (!flow && c.column < indent) then (acc.reverse, broken, c)
      else plainFrom flow indent fuel acc gap broken c

def scanPlain (flow : Bool) (indent : Int) (c : Cursor) : List Char × Bool × Cursor :=
  plainFrom flow indent (c.left + 1) [] [] false c

/-- The character that a one-letter escape stands for. -/
def escaped (c : Char) : Option Nat :=
  match c with
  | '0' => some 0
  | 'a' => some 7
  | 'b' => some 8
  | 't' | '\t' => some 9
  | 'n' => some 10
  | 'v' => some 11
  | 'f' => some 12
  | 'r' => some 13
  | 'e' => some 27
  | ' ' => some 32
  | '"' => some 34
  | '\\' => some 92
  | '/' => some 47
  | 'N' => some 0x85
  | '_' => some 0xA0
  | 'L' => some 0x2028
  | 'P' => some 0x2029
  | _ => none

/-- The count of digits that a numeric escape has. -/
def escapeDigits (c : Char) : Option Nat :=
  match c with
  | 'x' => some 2
  | 'u' => some 4
  | 'U' => some 8
  | _ => none

/-- A code point, if there is one of this number. -/
def codePoint (n : Nat) : Except Fault Nat :=
  if n < 0x110000 then .ok n
  else if n < 0x80000000 then
    .error (.conversion ⟨.value, "chr() arg not in range(0x110000)"⟩)
  else .error (.conversion ⟨.overflow, "Python int too large to convert to C int"⟩)

/-- The number that `n` hexadecimal digits here write. -/
def hexNumber (c : Cursor) (n : Nat) : Except Char Nat :=
  match (List.range n).mapM (fun k =>
    match hexValue (c.peekAt k) with
    | some d => Except.ok d
    | none => Except.error (c.peekAt k)) with
  | .ok ds => .ok (ofDigits 16 ds)
  | .error ch => .error ch

/-- Blank lines inside quotes. -/
def quotedBreaks : Nat → List Char → Cursor → Except Fault (List Char × Cursor)
  | 0, acc, c => .ok (acc.reverse, c)
  | fuel + 1, acc, c =>
    if c.isSeparator then c.fail .separatorInQuotes
    else
      let c := (c.span (fun ch => ch == ' ' || ch == '\t')).2
      match c.lineBreak? with
      | some (br, c) => quotedBreaks fuel (br :: acc) c
      | none => .ok (acc.reverse, c)

/-- An escape, the cursor standing on the backslash. -/
def scanEscape (c : Cursor) : Except Fault (CodePoints × Cursor) :=
  let c := c.next
  let ch := c.peek
  match escaped ch with
  | some n => .ok ([n], c.next)
  | none =>
    match escapeDigits ch with
    | some n =>
      let c := c.next
      match hexNumber c n with
      | .error other => c.fail (.notEscape n other)
      | .ok code => do return ([← codePoint code], c.advance n)
    | none =>
      match c.lineBreak? with
      | some (_, c) => do
        let (breaks, c) ← quotedBreaks (c.left + 1) [] c
        return (CodePoints.ofChars breaks, c)
      | none => c.fail (.unknownEscape ch)

/-- Characters that need a closer look inside quotes. -/
def isQuotedMark (c : Char) : Bool := c == '\'' || c == '"' || c == '\\' || isGap c

/-- Text inside quotes up to white space or the closing quote; what was read is given last
first. -/
def quotedRun (double : Bool) : Nat → CodePoints → Cursor → Except Fault (CodePoints × Cursor)
  | 0, acc, c => .ok (acc, c)
  | fuel + 1, acc, c =>
    let (run, c) := c.span (fun ch => !isQuotedMark ch)
    let acc := (CodePoints.ofChars run).reverseAux acc
    let ch := c.peek
    if !double && ch == '\'' && c.peekAt 1 == '\'' then
      quotedRun double fuel (39 :: acc) (c.advance 2)
    else if (double && ch == '\'') || (!double && (ch == '"' || ch == '\\')) then
      quotedRun double fuel (ch.toNat :: acc) c.next
    else if double && ch == '\\' then
      match scanEscape c with
      | .error fault => .error fault
      | .ok (units, c) => quotedRun double fuel (units.reverseAux acc) c
    else .ok (acc, c)

/-- White space inside quotes. -/
def quotedGap (c : Cursor) : Except Fault (List Char × Cursor) :=
  let (spaces, c) := c.span (fun ch => ch == ' ' || ch == '\t')
  match c.lineBreak? with
  | some (br, c) => do
    let (others, c) ← quotedBreaks (c.left + 1) [] c
    return (fold br others, c)
  | none => if c.peek == endMark then c.fail .endInQuotes else .ok (spaces, c)

/-- Text inside quotes up to the closing one. -/
def quotedFrom (double : Bool) : Nat → CodePoints → Cursor → Except Fault (CodePoints × Cursor)
  | 0, acc, c => .ok (acc.reverse, c)
  | fuel + 1, acc, c =>
    match quotedRun double (c.left + 1) acc c with
    | .error fault => .error fault
    | .ok (acc, c) =>
      if c.peek == (if double then '"' else '\'') then .ok (acc.reverse, c.next)
      else match quotedGap c with
        | .error fault => .error fault
        | .ok (gap, c) => quotedFrom double fuel ((CodePoints.ofChars gap).reverseAux acc) c

/-- A quoted scalar, the cursor standing on the opening quote. -/
def scanQuoted (double : Bool) (c : Cursor) : Except Fault (CodePoints × Cursor) :=
  quotedFrom double (c.left + 1) [] c.next

/-- What becomes of the line breaks at the end of a block. -/
inductive Chomping
  | strip
  | clip
  | keep
  deriving DecidableEq, Repr

def chomping? (c : Char) : Option Chomping :=
  if c == '+' then some .keep else if c == '-' then some .strip else none

/-- The indentation that the header of a block gives. -/
def scanIncrement (c : Cursor) : Except Fault (Option Nat × Cursor) :=
  if isDigit c.peek then
    if c.peek == '0' then c.fail .zeroIndentation
    else .ok (some (c.peek.toNat - 48), c.next)
  else .ok (none, c)

/-- The indicators in the header of a block, in either order. -/
def scanIndicators (c : Cursor) : Except Fault ((Chomping × Option Nat) × Cursor) := do
  let (chomping, increment, c) ← (match chomping? c.peek with
    | some chomping => do
      let (increment, c) ← scanIncrement c.next
      return (chomping, increment, c)
    | none => do
      let (increment, c) ← scanIncrement c
      match increment, chomping? c.peek with
      | some _, some chomping => return (chomping, increment, c.next)
      | _, _ => return (Chomping.clip, increment, c) :
    Except Fault (Chomping × Option Nat × Cursor))
  if endsWord c.peek then return ((chomping, increment), c)
  else c.fail (.notScalarHeader c.peek)

/-- The end of a line on which nothing but a comment may follow. -/
def skipLineEnd (c : Cursor) : Except Fault Cursor :=
  let c := c.skipSpaces.skipComment
  if endsLine c.peek then .ok c.skipBreak else c.fail (.notLineEnd c.peek)

/-- Blank lines in front of a block whose indentation is still open: their breaks and the widest of
their indentations. -/
def blockIndentation : Nat → List Char → Nat → Cursor → List Char × Nat × Cursor
  | 0, acc, widest, c => (acc.reverse, widest, c)
  | fuel + 1, acc, widest, c =>
    if c.peek == ' ' then blockIndentation fuel acc (max widest c.next.column) c.next
    else match c.lineBreak? with
      | some (br, c) => blockIndentation fuel (br :: acc) widest c
      | none => (acc.reverse, widest, c)

/-- Spaces up to a column. -/
def skipIndent (indent : Nat) : Nat → Cursor → Cursor
  | 0, c => c
  | fuel + 1, c => if c.column < indent && c.peek == ' ' then skipIndent indent fuel c.next else c

/-- Blank lines of a block and the indentation after them. -/
def blockBreaks (indent : Nat) : Nat → List Char → Cursor → List Char × Cursor
  | 0, acc, c => (acc.reverse, c)
  | fuel + 1, acc, c =>
    let c := skipIndent indent indent c
    match c.lineBreak? with
    | some (br, c) => blockBreaks indent fuel (br :: acc) c
    | none => (acc.reverse, c)

/-- Whether a line of a block goes on with a word. -/
def beginsWord (c : Cursor) : Bool := c.peek != ' ' && c.peek != '\t'

/-- The lines of a block from here on, with the last break and the blank lines at the end. -/
def blockLines (folded : Bool) (indent : Nat) :
    Nat → List Char → List Char → Cursor → List Char × Option Char × List Char × Cursor
  | 0, acc, breaks, c => (acc, none, breaks, c)
  | fuel + 1, acc, breaks, c =>
    let acc := breaks.reverseAux acc
    let leading := beginsWord c
    let (line, c) := c.span (fun ch => !endsLine ch)
    let acc := line.reverseAux acc
    let (br, c) := match c.lineBreak? with
      | some (br, c) => (some br, c)
      | none => (none, c)
    let (breaks, c) := blockBreaks indent (c.left + 1) [] c
    if c.column == indent && c.peek != endMark then
      let acc :=
        if folded && br == some '\n' && leading && beginsWord c then
          if breaks.isEmpty then ' ' :: acc else acc
        else br.toList ++ acc
      blockLines folded indent fuel acc breaks c
    else (acc, br, breaks, c)

/-- A block, the cursor standing on its indicator and `parent` being the indentation around it. -/
def scanBlock (folded : Bool) (parent : Int) (c : Cursor) : Except Fault (List Char × Cursor) := do
  let ((chomping, increment), c) ← scanIndicators c.next
  let c ← skipLineEnd c
  let least := (max (parent + 1) 1).toNat
  let (indent, breaks, c) := match increment with
    | none =>
      let (breaks, widest, c) := blockIndentation c.left [] 0 c
      (max least widest, breaks, c)
    | some n =>
      let indent := least + n - 1
      let (breaks, c) := blockBreaks indent (c.left + 1) [] c
      (indent, breaks, c)
  let (acc, br, breaks, c) :=
    if c.column == indent && c.peek != endMark then
      blockLines folded indent (c.left + 1) [] breaks c
    else ([], none, breaks, c)
  let ending := match chomping with
    | .strip => []
    | .clip => br.toList
    | .keep => br.toList ++ breaks
  return (acc.reverse ++ ending, c)

end Walkthrough.Yaml
