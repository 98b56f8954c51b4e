import Walkthrough.Data.Basic
import Walkthrough.Text.Digit

/-!
JSON input. `read` accepts the JSON grammar with the numbers `NaN`, `Infinity` and `-Infinity` and
with escapes of lone surrogates; of two equal keys the later value stands at the earlier place. Values
may be nested as deep as there is room for. A fault keeps the input from the place where it was found,
which gives its line and column.
-/

namespace Walkthrough.Json

open Text

inductive Problem
  | byteOrderMark
  | value
  | name
  | colon
  | comma
  | extra
  | unterminated
  | control
  | escape
  | unicodeEscape
  deriving DecidableEq, Repr

def Problem.message : Problem → String
  | .byteOrderMark => "Unexpected UTF-8 BOM (decode using utf-8-sig)"
  | .value => "Expecting value"
  | .name => "Expecting property name enclosed in double quotes"
  | .colon => "Expecting ':' delimiter"
  | .comma => "Expecting ',' delimiter"
  | .extra => "Extra data"
  | .unterminated => "Unterminated string starting at"
  | .control => "Invalid control character at"
  | .escape => "Invalid \\escape"
  | .unicodeEscape => "Invalid \\uXXXX escape"

inductive Fault
  /-- The grammar is violated where `rest` begins. -/
  | malformed (problem : Problem) (rest : List Char)
  /-- An integer with more digits than are converted. -/
  | tooManyDigits (count : Nat)
  /-- A list or an object inside of too many others. -/
  | tooDeep (isObject : Bool)

/-- Digits of the longest integer that is converted. -/
def digitLimit : Nat := 4300

def isSpace (c : Char) : Bool := c == ' ' || c == '\t' || c == '\n' || c == '\r'

def skipSpace (cs : List Char) : List Char := cs.dropWhile isSpace

/-- The character that a one-letter escape stands for. -/
def simpleEscape (c : Char) : Option Char :=
  match c with
  | '"' => some '"'
  | '\\' => some '\\'
  | '/' => some '/'
  | 'b' => some '\x08'
  | 'f' => some '\x0c'
  | 'n' => some '\n'
  | 'r' => some '\r'
  | 't' => some '\t'
  | _ => none

/-- Four hexadecimal digits with something after them, and what follows. -/
def hexFour : List Char → Option (Nat × List Char)
  | a :: b :: c :: d :: e :: rest => do
    let ds ← [a, b, c, d].mapM hexValue
    some (ofDigits 16 ds, e :: rest)
  | _ => none

theorem hexFour_length {cs rest : List Char} {n : Nat} (h : hexFour cs = some (n, rest)) :
    rest.length < cs.length := by
  unfold hexFour at h
  split at h
  · simp only [Option.bind_eq_bind, Option.bind_eq_some_iff, Option.some.injEq, Prod.mk.injEq] at h
    obtain ⟨_, _, _, rfl⟩ := h
    simp
  · simp at h

/-- The escape that follows a backslash and a `u`: one code point, or two surrogates joined. -/
def unicodeEscape (cs : List Char) : Except Fault (Nat × List Char) :=
  match hexFour cs with
  | none => .error (.malformed .unicodeEscape ('u' :: cs))
  | some (n, rest) =>
    match isHighSurrogate n, rest with
    | true, '\\' :: 'u' :: more =>
      if more.length < 5 then .ok (n, rest)
      else match hexFour more with
        | none => .error (.malformed .unicodeEscape ('u' :: more))
        | some (low, rest') =>
          if isLowSurrogate low then .ok (joinSurrogates n low, rest') else .ok (n, rest)
    | _, _ => .ok (n, rest)

theorem unicodeEscape_length {cs rest : List Char} {n : Nat}
    (h : unicodeEscape cs = .ok (n, rest)) : rest.length < cs.length := by
  unfold unicodeEscape at h
  split at h
  · simp at h
  · next m r hm =>
    have hr := hexFour_length hm
    split at h
    · next more _ =>
      split at h
      · simp only [Except.ok.injEq, Prod.mk.injEq] at h; obtain ⟨_, rfl⟩ := h; exact hr
      · split at h
        · simp at h
        · next low r' hl =>
          have hl := hexFour_length hl
          split at h
          · simp only [Except.ok.injEq, Prod.mk.injEq] at h
            obtain ⟨_, rfl⟩ := h
            simp at hr
            omega
          · simp only [Except.ok.injEq, Prod.mk.injEq] at h; obtain ⟨_, rfl⟩ := h; exact hr
    · simp only [Except.ok.injEq, Prod.mk.injEq] at h; obtain ⟨_, rfl⟩ := h; exact hr

/-- The rest of a string after its opening quotation mark; `start` is the input from that mark on,
`read` what was read, last first. -/
def readText (start : List Char) (read : List Char) (cs : List Char) :
    Except Fault (String × List Char) :=
  match cs with
  | [] => .error (.malformed .unterminated start)
  | '"' :: rest => .ok (String.ofList read.reverse, rest)
  | ['\\'] => .error (.malformed .unterminated start)
  | '\\' :: 'u' :: rest =>
    match h : unicodeEscape rest with
    | .error f => .error f
    | .ok (n, rest') =>
      have := unicodeEscape_length h
      readText start ((holdPoint n).reverseAux read) rest'
  | '\\' :: c :: rest =>
    match simpleEscape c with
    | some d => readText start (d :: read) rest
    | none => .error (.malformed .escape ('\\' :: c :: rest))
  | c :: rest =>
    if c.toNat < 0x20 then .error (.malformed .control (c :: rest))
    else readText start (c :: read) rest
termination_by cs.length
decreasing_by all_goals simp_wf <;> omega

/-- The fraction of a number: a point with at least one digit. -/
def readFraction : List Char → List Char × List Char
  | '.' :: c :: rest =>
    if isDigit c then (c :: rest.takeWhile isDigit, rest.dropWhile isDigit) else ([], '.' :: c :: rest)
  | cs => ([], cs)

/-- The exponent of a number: a letter, an optional sign and at least one digit. -/
def readExponent (cs : List Char) : Option Int × List Char :=
  match cs with
  | c :: rest =>
    if c == 'e' || c == 'E' then
      let (negative, after) := match rest with
        | '-' :: r => (true, r)
        | '+' :: r => (false, r)
        | r => (false, r)
      match after.takeWhile isDigit with
      | [] => (none, cs)
      | ds =>
        let n : Int := ofDecimal ds
        (some (if negative then -n else n), after.dropWhile isDigit)
    else (none, cs)
  | [] => (none, cs)

/-- A number from its sign on; `start` is the input from there. -/
def readNumber (start : List Char) (negative : Bool) (cs : List Char) :
    Except Fault (Data × List Char) :=
  let whole := match cs with
    | '0' :: _ => ['0']
    | _ => cs.takeWhile isDigit
  match whole with
  | [] => .error (.malformed .value start)
  | _ =>
    let (fraction, afterFraction) := readFraction (cs.drop whole.length)
    let (exponent, rest) := readExponent afterFraction
    if fraction.isEmpty && exponent.isNone then
      if digitLimit < whole.length then .error (.tooManyDigits whole.length)
      else
        let n : Int := ofDecimal whole
        .ok (.int (if negative then -n else n), rest)
    else
      .ok (.float (Binary64.ofDecimal negative (ofDecimal (whole ++ fraction))
        (exponent.getD 0 - fraction.length)), rest)

/-- What follows a given word at the head of the input. -/
def afterWord (word : String) (cs : List Char) : Option (List Char) :=
  if word.toList.isPrefixOf cs then some (cs.drop word.toList.length) else none

/-- The words with a value of their own, and the rest after one of them. -/
def readWord (cs : List Char) : Option (Data × List Char) :=
  let words : List (String × Data) := [("null", .null), ("true", .bool true), ("false", .bool false),
    ("NaN", .float .nan), ("Infinity", .float (.infinite false)),
    ("-Infinity", .float (.infinite true))]
  words.findSome? fun (word, value) => (afterWord word cs).map (value, ·)

mutual

/-- A value at the head of the input, in which lists and objects are nested at most `depth` deep. -/
def readValue (depth : Nat) : Nat → List Char → Except Fault (Data × List Char)
  | 0, cs => .error (.malformed .value cs)
  | fuel + 1, cs =>
    match cs with
    | '"' :: rest => (readText cs [] rest).map fun (text, rest) => (.text text, rest)
    | '\x7b' :: rest =>
      match depth, skipSpace rest with
      | 0, _ => .error (.tooDeep true)
      | _, '\x7d' :: rest => .ok (Data.mapOf [], rest)
      | depth + 1, rest => readMembers depth fuel [] rest
    | '[' :: rest =>
      match depth, skipSpace rest with
      | 0, _ => .error (.tooDeep false)
      | _, ']' :: rest => .ok (.list [], rest)
      | depth + 1, rest => readItems depth fuel [] rest
    | _ =>
      match readWord cs with
      | some found => .ok found
      | none =>
        match cs with
        | '-' :: rest => readNumber cs true rest
        | _ => readNumber cs false cs

/-- The items of a list from one that must be there on; those read come last first. -/
def readItems (depth : Nat) :
    Nat → List Data → List Char → Except Fault (Data × List Char)
  | 0, _, cs => .error (.malformed .value cs)
  | fuel + 1, items, cs =>
    match readValue depth fuel cs with
    | .error f => .error f
    | .ok (item, rest) =>
      match skipSpace rest with
      | ']' :: rest => .ok (.list (item :: items).reverse, rest)
      | ',' :: rest => readItems depth fuel (item :: items) (skipSpace rest)
      | rest => .error (.malformed .comma rest)

/-- The members of an object from one that must be there on. -/
def readMembers (depth : Nat) :
    Nat → List (Data × Data) → List Char → Except Fault (Data × List Char)
  | 0, _, cs => .error (.malformed .name cs)
  | fuel + 1, members, cs =>
    match cs with
    | '"' :: rest =>
      match readText cs [] rest with
      | .error f => .error f
      | .ok (key, rest) =>
        match skipSpace rest with
        | ':' :: rest =>
          match readValue depth fuel (skipSpace rest) with
          | .error f => .error f
          | .ok (value, rest) =>
            let members := (.text key, value) :: members
            match skipSpace rest with
            | '\x7d' :: rest => .ok (Data.mapOf members.reverse, rest)
            | ',' :: rest => readMembers depth fuel members (skipSpace rest)
            | rest => .error (.malformed .comma rest)
        | rest => .error (.malformed .colon rest)
    | _ => .error (.malformed .name cs)

end

/-- The value that a whole text writes. The count of characters bounds the number of entries. -/
def read [StackRoom] (cs : List Char) : Except Fault Data :=
  if cs.head? == some (Char.ofNat 0xFEFF) then .error (.malformed .byteOrderMark cs)
  else match readValue StackRoom.json (2 * cs.length + 2) (skipSpace cs) with
    | .error f => .error f
    | .ok (d, rest) =>
      match skipSpace rest with
      | [] => .ok d
      | rest => .error (.malformed .extra rest)

/-- Where the end of a text stands: its line and, in that line, its column, both from one. A column
takes one code point. -/
def endPosition (cs : List Char) : Nat × Nat :=
  (cs.count '\n' + 1, (points (cs.reverse.takeWhile (· ≠ '\n')).reverse).length + 1)

/-- Line and column of the place in `cs` where `rest` begins. -/
def position (cs rest : List Char) : Nat × Nat := endPosition (cs.take (cs.length - rest.length))

end Walkthrough.Json
