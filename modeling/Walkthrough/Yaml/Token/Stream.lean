import Walkthrough.Assoc
import Walkthrough.Yaml.Token.Tag

/-!
The tokens of a whole text. Indentation opens and closes block collections, and a token may turn out
to be a key only when a colon follows: until then it is a pending key, and it and what follows are
held back. `tokensOf` gives the tokens that were let go and, if reading ended early, the fault that
stands behind them.
-/

namespace Walkthrough.Yaml

/-- A token that may become a key: its number, whether it must, and where it begins. -/
structure PendingKey where
  token : Nat
  required : Bool
  index : Nat
  line : Nat
  column : Nat

structure Lexer where
  cursor : Cursor
  /-- The tokens so far, the last one first. -/
  tokens : List Token := []
  count : Nat := 0
  /-- The count of tokens that were let go. -/
  released : Nat := 0
  /-- The count of open brackets and braces; too many closing ones make it negative. -/
  flow : Int := 0
  indent : Int := -1
  indents : List Int := []
  keyAllowed : Bool := true
  /-- Pending keys by their depth in brackets and braces. -/
  pending : List (Int × PendingKey) := []
  done : Bool := false

namespace Lexer

/-- Inside of brackets or braces indentation does not count. -/
def inFlow (s : Lexer) : Bool := s.flow != 0

def push (s : Lexer) (kind : TokenKind) : Lexer :=
  { s with tokens := ⟨kind, s.cursor.line⟩ :: s.tokens, count := s.count + 1 }

/-- A token of `n` characters. -/
def take (s : Lexer) (kind : TokenKind) (n : Nat) : Lexer :=
  let s := s.push kind
  { s with cursor := s.cursor.advance n }

/-- A token in front of that with the number `index`. -/
def insert (s : Lexer) (index : Nat) (token : Token) : Lexer :=
  let (after, before) := s.tokens.splitAt (s.count - index)
  { s with tokens := after ++ token :: before, count := s.count + 1 }

/-- Past spaces, comments and line breaks. -/
def skipToToken (fuel : Nat) (s : Lexer) : Lexer :=
  match fuel with
  | 0 => s
  | fuel + 1 =>
    let c := s.cursor.skipSpaces.skipComment
    match c.lineBreak? with
    | some (_, c) =>
      skipToToken fuel { s with cursor := c, keyAllowed := s.keyAllowed || !s.inFlow }
    | none => { s with cursor := c }

/-- Pending keys that can no longer become keys are dropped: a key ends on its line and within 1024
characters. -/
def dropStale (s : Lexer) : Except Fault Lexer :=
  let stale := fun (k : PendingKey) =>
    k.line != s.cursor.line || s.cursor.index > k.index + 1024
  if s.pending.any (fun e => stale e.2 && e.2.required) then s.cursor.fail .noColon
  else .ok { s with pending := s.pending.filter (fun e => !stale e.2) }

/-- The pending key of the current depth is dropped. -/
def dropPending (s : Lexer) : Except Fault Lexer :=
  match Assoc.get? s.flow s.pending with
  | none => .ok s
  | some k =>
    if k.required then s.cursor.fail .noColon
    else .ok { s with pending := Assoc.erase s.flow s.pending }

/-- What begins here may become a key. -/
def markKey (s : Lexer) : Except Fault Lexer :=
  if s.keyAllowed then do
    let s ← s.dropPending
    let key := ⟨s.count, !s.inFlow && s.indent == s.cursor.column, s.cursor.index,
      s.cursor.line, s.cursor.column⟩
    return { s with pending := Assoc.put s.flow key s.pending }
  else .ok s

/-- Closes the block collections that are indented more than `column`. -/
def closeBlocks (s : Lexer) (column : Int) : Lexer :=
  if s.inFlow then s else go s s.indents
where
  go (s : Lexer) : List Int → Lexer
    | [] => s
    | outer :: rest =>
      if column < s.indent then go { s.push .blockEnd with indent := outer, indents := rest } rest
      else s

/-- Opens a block collection here if the column is further than the indentation. -/
def openBlock (s : Lexer) (kind : TokenKind) : Lexer :=
  if !s.inFlow && s.indent < s.cursor.column then
    { s.push kind with indent := s.cursor.column, indents := s.indent :: s.indents }
  else s

def fetchEnd (s : Lexer) : Except Fault Lexer := do
  let s ← (s.closeBlocks (-1)).dropPending
  return { s.push .streamEnd with keyAllowed := false, pending := [], done := true }

def fetchDirective (s : Lexer) : Except Fault Lexer := do
  let s ← (s.closeBlocks (-1)).dropPending
  let (directive, c) ← scanDirective s.cursor
  return { s.push (.directive directive) with cursor := c, keyAllowed := false }

def fetchMarker (s : Lexer) (kind : TokenKind) : Except Fault Lexer := do
  let s ← (s.closeBlocks (-1)).dropPending
  return { s.take kind 3 with keyAllowed := false }

def fetchFlowStart (s : Lexer) (kind : TokenKind) : Except Fault Lexer := do
  let s ← s.markKey
  return { s.take kind 1 with flow := s.flow + 1, keyAllowed := true }

def fetchFlowEnd (s : Lexer) (kind : TokenKind) : Except Fault Lexer := do
  let s ← s.dropPending
  return { s.take kind 1 with flow := s.flow - 1, keyAllowed := false }

def fetchFlowEntry (s : Lexer) : Except Fault Lexer := do
  let s ← s.dropPending
  return { s.take .flowEntry 1 with keyAllowed := true }

def fetchBlockEntry (s : Lexer) : Except Fault Lexer :=
  if !s.inFlow && !s.keyAllowed then s.cursor.fail .sequenceEntryHere
  else do
    let s ← (s.openBlock .sequenceStart).dropPending
    return { s.take .blockEntry 1 with keyAllowed := true }

def fetchKey (s : Lexer) : Except Fault Lexer :=
  if !s.inFlow && !s.keyAllowed then s.cursor.fail .mappingKeyHere
  else do
    let s ← (s.openBlock .mappingStart).dropPending
    return { s.take .key 1 with keyAllowed := !s.inFlow }

/-- A colon: the pending key becomes a key, or a value without a key begins. -/
def fetchValue (s : Lexer) : Except Fault Lexer :=
  match Assoc.get? s.flow s.pending with
  | some k =>
    let s := { s with pending := Assoc.erase s.flow s.pending }
    let s := s.insert k.token ⟨.key, k.line⟩
    let s :=
      if !s.inFlow && s.indent < (k.column : Int) then
        let outer := s.indent
        { s.insert k.token ⟨.mappingStart, k.line⟩ with
          indent := (k.column : Int), indents := outer :: s.indents }
      else s
    .ok { s.take .value 1 with keyAllowed := false }
  | none =>
    if !s.inFlow && !s.keyAllowed then s.cursor.fail .mappingValueHere
    else do
      let s ← (s.openBlock .mappingStart).dropPending
      return { s.take .value 1 with keyAllowed := !s.inFlow }

/-- A token that may become a key and was read by `scan`. -/
def fetchWith (s : Lexer) (scan : Cursor → Except Fault (TokenKind × Cursor)) :
    Except Fault Lexer := do
  let s ← s.markKey
  let (kind, c) ← scan s.cursor
  return { s.push kind with cursor := c, keyAllowed := false }

def fetchPlain (s : Lexer) : Except Fault Lexer := do
  let s ← s.markKey
  let (text, broken, c) := scanPlain s.inFlow (s.indent + 1) s.cursor
  return { s.push (.scalar (Text.CodePoints.ofChars text) true) with
    cursor := c, keyAllowed := broken }

def fetchBlock (s : Lexer) (folded : Bool) : Except Fault Lexer := do
  let s ← s.dropPending
  let (text, c) ← scanBlock folded s.indent s.cursor
  return { s.push (.scalar (Text.CodePoints.ofChars text) false) with
    cursor := c, keyAllowed := true }

/-- Whether a plain scalar begins here. -/
def beginsPlain (s : Lexer) : Bool :=
  let ch := s.cursor.peek
  !(isGap ch || isBracket ch || ['-', '?', ':', ',', '#', '&', '*', '!', '|', '>', '\'', '"', '%',
      '@', '\x60'].contains ch) ||
  (!isGap (s.cursor.peekAt 1) && (ch == '-' || (!s.inFlow && (ch == '?' || ch == ':'))))

/-- The tokens that the next character begins. -/
def fetchHere (s : Lexer) : Except Fault Lexer :=
  let c := s.cursor
  let ch := c.peek
  let gapNext := isGap (c.peekAt 1)
  if ch == endMark then s.fetchEnd
  else if ch == '%' && c.column == 0 then s.fetchDirective
  else if c.column == 0 && c.isMarker '-' then s.fetchMarker .documentStart
  else if c.column == 0 && c.isMarker '.' then s.fetchMarker .documentEnd
  else if ch == '[' then s.fetchFlowStart .flowSequenceStart
  else if ch == '\x7b' then s.fetchFlowStart .flowMappingStart
  else if ch == ']' then s.fetchFlowEnd .flowSequenceEnd
  else if ch == '\x7d' then s.fetchFlowEnd .flowMappingEnd
  else if ch == ',' then s.fetchFlowEntry
  else if ch == '-' && gapNext then s.fetchBlockEntry
  else if ch == '?' && (s.inFlow || gapNext) then s.fetchKey
  else if ch == ':' && (s.inFlow || gapNext) then s.fetchValue
  else if ch == '*' then s.fetchWith fun c => do
    let (name, c) ← scanName c
    return (.reference name, c)
  else if ch == '&' then s.fetchWith fun c => do
    let (name, c) ← scanName c
    return (.anchor name, c)
  else if ch == '!' then s.fetchWith scanTag
  else if ch == '|' && !s.inFlow then s.fetchBlock false
  else if ch == '>' && !s.inFlow then s.fetchBlock true
  else if ch == '\'' || ch == '"' then s.fetchWith fun c => do
    let (text, c) ← scanQuoted (ch == '"') c
    return (.scalar text false, c)
  else if s.beginsPlain then s.fetchPlain
  else c.fail (.cannotStart ch)

/-- The next tokens, after the white space in front of them, which has at most `fuel` lines. -/
def fetch (fuel : Nat) (s : Lexer) : Except Fault Lexer := do
  let s := s.skipToToken fuel
  let s ← s.dropStale
  let s ← (s.closeBlocks s.cursor.column).fetchHere
  if s.done then return s else s.dropStale

/-- Lets go the tokens in front of the first pending key. -/
def release (s : Lexer) : Lexer :=
  if s.done then { s with released := s.count }
  else
    let limit := s.pending.foldl (fun n e => if s.released ≤ e.2.token then min n e.2.token else n)
      s.count
    { s with released := max s.released limit }

/-- Reads to the end of the text or to a fault. Every step takes a character at least, so that what is
left of the fuel is more than what is left of the text. -/
def run (fuel : Nat) (s : Lexer) : Lexer × Option Fault :=
  match fuel with
  | 0 => (s, none)
  | fuel + 1 =>
    if s.done then (s, none)
    else match s.fetch (fuel + 1) with
      | .error fault => (s, some fault)
      | .ok s => run fuel s.release

end Lexer

/-- The tokens of a text that were let go before reading ended, and the fault that ended it. -/
def tokensOf (text : List Char) : List Token × Option Fault :=
  let start : Cursor := { rest := text }
  let start := if start.peek.toNat == 0xFEFF then start.next else start
  let (s, fault) := Lexer.run (text.length + 2) { cursor := start }
  ((s.tokens.drop (s.count - s.released)).reverse, fault)

end Walkthrough.Yaml
