import Walkthrough.Assoc
import Walkthrough.Text.Blank

/-!
Files of variables: one `name = value` a line. A value may stand in quotes, and then run over line
ends and use escapes; an unquoted one ends at a comment. A name without an equals sign has no value.
A line that is none of this is left out. Values may name variables as `$` with a name in braces.
-/

namespace Walkthrough.Variables

open Text

/-- A name with its value, if it has one. -/
abbrev Binding := List Char × Option (List Char)

/-- White space inside a line. -/
def isGap (c : Char) : Bool := isBlank c && c != '\n'

/-- The rest after a word that white space follows; otherwise the text itself. -/
def dropWord (word cs : List Char) : List Char :=
  if word.isPrefixOf cs then
    let rest := cs.drop word.length
    if rest.head?.any isGap then rest.dropWhile isGap else cs
  else cs

/-- The text up to the quote that ends it, and what follows. A quote after a backslash ends it only
if no other does. -/
def readQuoted (mark : Char) : List Char → Option (List Char × List Char)
  | [] => none
  | '\\' :: c :: rest =>
    if c = mark then
      match readQuoted mark rest with
      | some (text, after) => some ('\\' :: c :: text, after)
      | none => some (['\\'], rest)
    else (readQuoted mark (c :: rest)).map fun (text, after) => ('\\' :: text, after)
  | c :: rest =>
    if c = mark then some ([], rest)
    else (readQuoted mark rest).map fun (text, after) => (c :: text, after)

/-- What an escape between double quotes stands for. -/
def escaped (c : Char) : Option Char :=
  Assoc.get? c [('\\', '\\'), ('\'', '\''), ('"', '"'), ('a', '\x07'), ('b', '\x08'),
    ('f', '\x0c'), ('n', '\n'), ('r', '\r'), ('t', '\t'), ('v', '\x0b')]

/-- What an escape between single quotes stands for. -/
def escapedPlainly (c : Char) : Option Char := if c = '\\' || c = '\'' then some c else none

def unescape (meaning : Char → Option Char) : List Char → List Char
  | [] => []
  | '\\' :: c :: rest =>
    match meaning c with
    | some d => d :: unescape meaning rest
    | none => '\\' :: unescape meaning (c :: rest)
  | c :: rest => c :: unescape meaning rest

/-- A text up to a comment, which begins with a number sign after white space. -/
def dropComment : List Char → List Char
  | [] => []
  | [c] => [c]
  | c :: d :: rest => if isBlank c && d == '#' then [] else c :: dropComment (d :: rest)

/-- A name, or none where a comment begins, and what follows. -/
def readName (cs : List Char) : Option (Option (List Char) × List Char) :=
  match cs with
  | '#' :: _ => some (none, cs)
  | '\'' :: rest =>
    match splitAtFirst (· == '\'') rest with
    | ([], _) | (_, []) => none
    | (name, _ :: after) => some (some name, after)
  | _ =>
    match splitAtFirst (fun c => c == '=' || c == '#' || isBlank c) cs with
    | ([], _) => none
    | (name, after) => some (some name, after)

/-- A value, from the equals sign on, and what follows. -/
def readValue (cs : List Char) : Option (List Char × List Char) :=
  match cs.dropWhile isGap with
  | '\'' :: rest => (readQuoted '\'' rest).map fun (v, after) => (unescape escapedPlainly v, after)
  | '"' :: rest => (readQuoted '"' rest).map fun (v, after) => (unescape escaped v, after)
  | _ =>
    let (line, after) := splitAtFirst (· == '\n') cs
    some (trim (dropComment line), after)

/-- The rest after a line that may end in a comment, if nothing else stands there. -/
def endLine (cs : List Char) : Option (List Char) :=
  let cs := cs.dropWhile isGap
  let cs := if cs.head? == some '#' then cs.dropWhile (· != '\n') else cs
  match cs with
  | [] => some []
  | '\n' :: rest => some rest
  | _ => none

/-- The rest after the current line. -/
def skipLine (cs : List Char) : List Char := (cs.dropWhile (· != '\n')).drop 1

/-- One line: what it binds, if anything, and the rest. -/
def readLine (cs : List Char) : Option Binding × List Char :=
  let cs := dropWord "export".toList cs
  match readName cs with
  | none => (none, skipLine cs)
  | some (name, after) =>
    let after := after.dropWhile isGap
    match after with
    | '=' :: rest =>
      match readValue rest with
      | none => (none, skipLine rest)
      | some (value, rest) =>
        match endLine rest with
        | none => (none, skipLine rest)
        | some rest => (name.map (·, some value), rest)
    | _ =>
      match endLine after with
      | none => (none, skipLine after)
      | some rest => (name.map (·, none), rest)

/-- The bindings of at most so many lines. -/
def readLines : Nat → List Char → List Binding
  | 0, _ => []
  | fuel + 1, cs =>
    match trimStart cs with
    | [] => []
    | cs =>
      let (binding, rest) := readLine cs
      binding.toList ++ readLines fuel rest

/-- The bindings of a text in order. A byte order mark in front does not count. -/
def read (text : List Char) : List Binding :=
  let cs := unifyNewlines (if text.head? == some (Char.ofNat 0xFEFF) then text.tail else text)
  readLines (cs.length + 1) cs

/-- A variable at the front of a text, after its dollar sign: its name, the text that stands in for
it where it is not set, and what follows. -/
def readVariable (cs : List Char) : Option (List Char × List Char × List Char) :=
  match cs with
  | '\x7b' :: rest =>
    match splitAtFirst (fun c => c == ':' || c == '\x7d') rest with
    | (name, '\x7d' :: after) => some (name, [], after)
    | (name, ':' :: '-' :: rest) =>
      match splitAtFirst (· == '\x7d') rest with
      | (default, _ :: after) => some (name, default, after)
      | (_, []) => none
    | _ => none
  | _ => none

/-- A text with its variables, at most so many characters of it, replaced by their values. -/
def expand (value : List Char → Option (List Char)) : Nat → List Char → List Char
  | 0, cs => cs
  | _, [] => []
  | fuel + 1, c :: rest =>
    match if c = '$' then readVariable rest else none with
    | some (name, default, after) => (value name).getD default ++ expand value fuel after
    | none => c :: expand value fuel rest

/-- Gives each name its value, variables being replaced by the values so far, or else by those of the
environment. A variable without a value is nothing. -/
def resolveFrom (environment : List Binding) (sofar : List Binding) :
    List Binding → List Binding
  | [] => sofar
  | (name, value) :: rest =>
    let meaning := fun name =>
      match Assoc.get? name sofar with
      | some value => some (value.getD [])
      | none => (Assoc.get? name environment).join
    let value := value.map fun text => expand meaning text.length text
    resolveFrom environment (Assoc.put name value sofar) rest

/-- The variables that a text sets in an environment. -/
def ofText (environment : List Binding) (text : List Char) : List Binding :=
  resolveFrom environment [] (read text)

end Walkthrough.Variables
