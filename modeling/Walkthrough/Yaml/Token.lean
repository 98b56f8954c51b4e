import Walkthrough.Yaml.Cursor
import Walkthrough.Yaml.Fault

/-!
Tokens of a YAML text.
-/

namespace Walkthrough.Yaml

inductive Directive
  | version (major : Nat)
  /-- A handle and the text that tags with it begin with. -/
  | handle (handle start : String)
  | other
  deriving DecidableEq, Repr

inductive TokenKind
  | streamEnd
  | directive (d : Directive)
  | documentStart
  | documentEnd
  | sequenceStart
  | mappingStart
  | blockEnd
  | flowSequenceStart
  | flowSequenceEnd
  | flowMappingStart
  | flowMappingEnd
  | blockEntry
  | flowEntry
  | key
  | value
  | reference (name : String)
  | anchor (name : String)
  | tag (handle : Option String) (suffix : String)
  /-- The text of a scalar, and whether it was written without quotes and indicators. -/
  | scalar (text : Text.CodePoints) (plain : Bool)
  deriving DecidableEq, Repr

/-- The token as problems name it. -/
def TokenKind.name : TokenKind → String
  | streamEnd => "<stream end>"
  | directive _ => "<directive>"
  | documentStart => "<document start>"
  | documentEnd => "<document end>"
  | sequenceStart => "<block sequence start>"
  | mappingStart => "<block mapping start>"
  | blockEnd => "<block end>"
  | flowSequenceStart => "["
  | flowSequenceEnd => "]"
  | flowMappingStart => "\x7b"
  | flowMappingEnd => "\x7d"
  | blockEntry => "-"
  | flowEntry => ","
  | key => "?"
  | value => ":"
  | reference _ => "<alias>"
  | anchor _ => "<anchor>"
  | tag .. => "<tag>"
  | scalar .. => "<scalar>"

/-- A token and the line it begins on. -/
structure Token where
  kind : TokenKind
  line : Nat
  deriving DecidableEq, Repr

/-- A problem at a place. -/
def Cursor.fail {α : Type} (c : Cursor) (cause : Problem) : Except Fault α :=
  .error (.problem cause c.line)

end Walkthrough.Yaml
