import Walkthrough.Number.Read
import Walkthrough.Yaml.Token.Scalar

/-!
Names in a YAML text: anchors and aliases, tags with their handles and escapes, and directives.
-/

namespace Walkthrough.Yaml

open Text

/-- An anchor or alias, the cursor standing on its indicator. -/
def scanName (c : Cursor) : Except Fault (String × Cursor) :=
  let (name, c) := c.next.span isWordChar
  let ch := c.peek
  if name.isEmpty then c.fail (.notWord ch)
  else if isGap ch || ['?', ':', ',', ']', '\x7d', '%', '@', '\x60'].contains ch then
    .ok (String.ofList name, c)
  else c.fail (.notWord ch)

/-- The handle of a tag: an exclamation mark, or two with a word between them. -/
def scanHandle (c : Cursor) : Except Fault (String × Cursor) :=
  if c.peek != '!' then c.fail (.notHandle c.peek)
  else if c.peekAt 1 == ' ' then .ok ("!", c.next)
  else
    let (word, c) := c.next.span isWordChar
    if c.peek == '!' then .ok (String.ofList ('!' :: (word ++ ['!'])), c.next)
    else c.fail (.notHandle c.peek)

/-- Characters of a tag after its handle. -/
def isUriChar (c : Char) : Bool :=
  c.isAlphanum || ['-', ';', '/', '?', ':', '@', '&', '=', '+', '$', ',', '_', '.', '!', '~', '*',
    '\'', '(', ')', '[', ']'].contains c

/-- The bytes that escapes from here on write. -/
def uriBytes : Nat → List UInt8 → Cursor → Except Fault (List UInt8 × Cursor)
  | 0, acc, c => .ok (acc.reverse, c)
  | fuel + 1, acc, c =>
    if c.peek == '%' then
      let c := c.next
      match hexNumber c 2 with
      | .error other => c.fail (.notUriEscape other)
      | .ok n => uriBytes fuel (n.toUInt8 :: acc) (c.advance 2)
    else .ok (acc.reverse, c)

/-- Text of a tag from here on, what was read given last character first. -/
def uriFrom : Nat → List Char → Cursor → Except Fault (List Char × Cursor)
  | 0, acc, c => .ok (acc.reverse, c)
  | fuel + 1, acc, c =>
    let (run, c) := c.span isUriChar
    let acc := run.reverseAux acc
    if c.peek == '%' then
      match uriBytes (c.left + 1) [] c with
      | .error fault => .error fault
      | .ok (bytes, after) =>
        match Utf8.decode bytes with
        | .error fault => c.fail (.badUriBytes fault)
        | .ok cs => uriFrom fuel (cs.reverseAux acc) after
    else .ok (acc.reverse, c)

def scanUri (c : Cursor) : Except Fault (String × Cursor) :=
  match uriFrom (c.left + 1) [] c with
  | .error fault => .error fault
  | .ok (text, after) =>
    if text.isEmpty then c.fail (.notUri c.peek)
    else .ok (Text.ofChars text, after)

/-- Whether an exclamation mark ends the first word of a tag, so that it has a handle. -/
def hasHandle (c : Cursor) : Bool :=
  match (c.next.rest.dropWhile (fun ch => !(ch == '!' || endsWord ch))).head? with
  | some '!' => true
  | _ => false

/-- A tag, the cursor standing on its indicator. -/
def scanTag (c : Cursor) : Except Fault (TokenKind × Cursor) := do
  let (kind, c) ← (
    if c.peekAt 1 == '<' then do
      let (uri, c) ← scanUri (c.advance 2)
      if c.peek == '>' then return (TokenKind.tag none uri, c.next)
      else c.fail (.notTagEnd c.peek)
    else if isGap (c.peekAt 1) then return (TokenKind.tag none "!", c.next)
    else do
      let (handle, c) ← (if hasHandle c then scanHandle c else .ok ("!", c.next))
      let (uri, c) ← scanUri c
      return (TokenKind.tag (some handle) uri, c) : Except Fault (TokenKind × Cursor))
  if endsWord c.peek then return (kind, c) else c.fail (.notSpace c.peek)

/-- A number of a version. -/
def scanVersionNumber (c : Cursor) : Except Fault (Nat × Cursor) :=
  let (digits, after) := c.span isDigit
  if digits.isEmpty then c.fail (.notDigit c.peek)
  else if Number.digitLimit < digits.length then
    .error (.conversion ⟨.value, Number.IntFault.tooManyText digits.length⟩)
  else .ok (ofDecimal digits, after)

def scanVersion (c : Cursor) : Except Fault (Directive × Cursor) := do
  let (major, c) ← scanVersionNumber c.skipSpaces
  if c.peek != '.' then c.fail (.notVersionPoint c.peek)
  else do
    let (_, c) ← scanVersionNumber c.next
    if endsWord c.peek then return (.version major, c) else c.fail (.notVersionEnd c.peek)

def scanHandleDirective (c : Cursor) : Except Fault (Directive × Cursor) := do
  let (handle, c) ← scanHandle c.skipSpaces
  if c.peek != ' ' then c.fail (.notSpace c.peek)
  else do
    let (start, c) ← scanUri c.skipSpaces
    if endsWord c.peek then return (.handle handle start, c) else c.fail (.notSpace c.peek)

/-- A directive, the cursor standing on its indicator. -/
def scanDirective (c : Cursor) : Except Fault (Directive × Cursor) := do
  let (name, c) := c.next.span isWordChar
  if name.isEmpty || !endsWord c.peek then c.fail (.notWord c.peek)
  else do
    let (directive, c) ← (
      if name == ['Y', 'A', 'M', 'L'] then scanVersion c
      else if name == ['T', 'A', 'G'] then scanHandleDirective c
      else return (Directive.other, (c.span (fun ch => !endsLine ch)).2) :
        Except Fault (Directive × Cursor))
    return (directive, ← skipLineEnd c)

end Walkthrough.Yaml
