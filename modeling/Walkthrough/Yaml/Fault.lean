import Walkthrough.Fault
import Walkthrough.Text.Utf8

/-!
What can be wrong with a YAML text: a character that no text may hold, a `Problem` on a line, or a
scalar whose conversion fails in a way that is no problem of the text.
-/

namespace Walkthrough.Yaml

/-- Kinds of nodes. -/
inductive Kind
  | scalar
  | sequence
  | mapping
  deriving DecidableEq, Repr

def Kind.name : Kind → String
  | .scalar => "scalar"
  | .sequence => "sequence"
  | .mapping => "mapping"

inductive Problem
  | cannotStart (c : Char)
  | noColon
  | sequenceEntryHere
  | mappingKeyHere
  | mappingValueHere
  | notWord (c : Char)
  | notVersionPoint (c : Char)
  | notVersionEnd (c : Char)
  | notDigit (c : Char)
  | notSpace (c : Char)
  | notLineEnd (c : Char)
  | notTagEnd (c : Char)
  | notHandle (c : Char)
  | notUri (c : Char)
  | notUriEscape (c : Char)
  | badUriBytes (fault : Text.Utf8.Fault)
  | zeroIndentation
  | notScalarHeader (c : Char)
  | notEscape (digits : Nat) (c : Char)
  | unknownEscape (c : Char)
  | endInQuotes
  | separatorInQuotes
  | noDocumentStart (found : String)
  | secondVersion
  | badVersion
  | secondHandle (handle : String)
  | unknownHandle (handle : String)
  | noContent (found : String)
  | noBlockEnd (found : String)
  | noSequenceEnd (found : String)
  | noMappingEnd (found : String)
  | unknownAlias (name : String)
  | secondAnchor
  | secondDocument
  | endlessNode
  | notScalar (found : Kind)
  | notSequence (found : Kind)
  | notMapping (found : Kind)
  | listKey
  | mergeItem (found : Kind)
  | mergeValue (found : Kind)
  | notAscii (text : String)
  | badBase64 (text : String)
  | orderedSource (found : Kind)
  | orderedItem (found : Kind)
  | orderedCount (count : Nat)
  | unknownTag (tag : String)

private def butFound (expected : String) (c : Char) : String :=
  expected ++ ", but found " ++ Text.quotedChar c

def Problem.message : Problem → String
  | cannotStart c => "found character " ++ Text.quotedChar c ++
      " that cannot start any token"
  | noColon => "could not find expected ':'"
  | sequenceEntryHere => "sequence entries are not allowed here"
  | mappingKeyHere => "mapping keys are not allowed here"
  | mappingValueHere => "mapping values are not allowed here"
  | notWord c => butFound "expected alphabetic or numeric character" c
  | notVersionPoint c => butFound "expected a digit or '.'" c
  | notVersionEnd c => butFound "expected a digit or ' '" c
  | notDigit c => butFound "expected a digit" c
  | notSpace c => butFound "expected ' '" c
  | notLineEnd c => butFound "expected a comment or a line break" c
  | notTagEnd c => butFound "expected '>'" c
  | notHandle c => butFound "expected '!'" c
  | notUri c => butFound "expected URI" c
  | notUriEscape c => butFound "expected URI escape sequence of 2 hexadecimal numbers" c
  | badUriBytes fault => fault.message
  | zeroIndentation => "expected indentation indicator in the range 1-9, but found 0"
  | notScalarHeader c => butFound "expected chomping or indentation indicators" c
  | notEscape n c =>
    butFound ("expected escape sequence of " ++ toString n ++ " hexadecimal numbers") c
  | unknownEscape c => "found unknown escape character " ++ Text.quotedChar c
  | endInQuotes => "found unexpected end of stream"
  | separatorInQuotes => "found unexpected document separator"
  | noDocumentStart found => "expected '<document start>', but found " ++ Text.quoted found
  | secondVersion => "found duplicate YAML directive"
  | badVersion => "found incompatible YAML document (version 1.* is required)"
  | secondHandle handle => "duplicate tag handle " ++ Text.quoted handle
  | unknownHandle handle => "found undefined tag handle " ++ Text.quoted handle
  | noContent found => "expected the node content, but found " ++ Text.quoted found
  | noBlockEnd found => "expected <block end>, but found " ++ Text.quoted found
  | noSequenceEnd found => "expected ',' or ']', but got " ++ Text.quoted found
  | noMappingEnd found => "expected ',' or '\x7d', but got " ++ Text.quoted found
  | unknownAlias name => "found undefined alias " ++ Text.quoted name
  | secondAnchor => "second occurrence"
  | secondDocument => "but found another document"
  | endlessNode => "found unconstructable recursive node"
  | notScalar found => "expected a scalar node, but found " ++ found.name
  | notSequence found => "expected a sequence node, but found " ++ found.name
  | notMapping found => "expected a mapping node, but found " ++ found.name
  | listKey => "found unhashable key"
  | mergeItem found => "expected a mapping for merging, but found " ++ found.name
  | mergeValue found =>
    "expected a mapping or list of mappings for merging, but found " ++ found.name
  | notAscii text => "failed to convert base64 data into ascii: " ++ text
  | badBase64 text => "failed to decode base64 data: " ++ text
  | orderedSource found => "expected a sequence, but found " ++ found.name
  | orderedItem found => "expected a mapping of length 1, but found " ++ found.name
  | orderedCount n => "expected a single mapping item, but found " ++ toString n ++ " items"
  | unknownTag tag => "could not determine a constructor for the tag " ++ Text.quoted tag

inductive Fault
  /-- A code point that no text may hold, with its position. -/
  | badCharacter (n position : Nat)
  /-- A problem on a line, counted from zero. -/
  | problem (cause : Problem) (line : Nat)
  /-- A conversion that failed. -/
  | conversion (failure : Foreign)

def badCharacterText (n position : Nat) : String :=
  "unacceptable character #x" ++ String.ofList (Text.hexPadded 4 n) ++
    ": special characters are not allowed\n  in \"<unicode string>\", position " ++
    toString position

end Walkthrough.Yaml
