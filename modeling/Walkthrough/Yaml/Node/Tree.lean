import Walkthrough.Data.Basic
import Walkthrough.Yaml.Node.Untagged
import Walkthrough.Yaml.Token

/-!
The nodes of the one document that a sequence of tokens holds. A fault that ended the reading of the
tokens arises when a token behind it is asked for. Collections must not stand too deep in others.
-/

namespace Walkthrough.Yaml

structure Builder where
  tokens : List Token
  /-- What stands behind the last token. -/
  ending : Option Fault
  table : Table := #[]
  anchors : List (String × Nat) := []
  handles : List (String × String) := []
  /-- The collections that are open. -/
  depth : Nat := 0

abbrev Build := StateT Builder (Except Fault)

namespace Build

def peek : Build Token := do
  let b ← get
  match b.tokens, b.ending with
  | token :: _, _ => return token
  | [], some fault => throw fault
  | [], none => return ⟨.streamEnd, 0⟩

def skip : Build Unit := modify fun b => { b with tokens := b.tokens.tail }

def fail {α : Type} (cause : Problem) (line : Nat) : Build α := throw (.problem cause line)

/-- A fault about the token that comes next. -/
def unexpected {α : Type} (cause : String → Problem) : Build α := do
  let token ← peek
  fail (cause token.kind.name) token.line

/-- The next token's kind, as seen from where it decides what follows. -/
def peekKind : Build TokenKind := return (← peek).kind

def add (node : Node) : Build Nat :=
  modifyGet fun b => (b.table.size, { b with table := b.table.push node })

def setContent (id : Nat) (content : Content) : Build Unit :=
  modify fun b => { b with table := b.table.modify id fun node => { node with content := content } }

def emptyScalar (line : Nat) : Build Nat :=
  add ⟨line, standardTag "null", .scalar []⟩

/-- The content of a collection, read while it is open. -/
def inside [StackRoom] {α : Type} (content : Build α) : Build α := do
  let b ← get
  if b.depth = StackRoom.yaml then throw (.conversion ⟨.depth, "maximum recursion depth exceeded"⟩)
  set { b with depth := b.depth + 1 }
  let result ← content
  modify fun b => { b with depth := b.depth - 1 }
  return result

/-- The anchor and tag in front of a node. -/
structure Properties where
  line : Nat
  anchor : Option String := none
  tag : Option String := none

/-- The full tag that a token writes. -/
def fullTag (handle : Option String) (suffix : String) (line : Nat) : Build String := do
  match handle with
  | none => return suffix
  | some h =>
    match Assoc.get? h (← get).handles with
    | some start => return start ++ suffix
    | none => fail (.unknownHandle h) line

/-- An anchor and a tag, in either order, each at most once. -/
def properties : Build Properties := do
  let first ← peek
  match first.kind with
  | .anchor name =>
    skip
    let second ← peek
    match second.kind with
    | .tag handle suffix =>
      skip
      return ⟨first.line, some name, some (← fullTag handle suffix second.line)⟩
    | _ => return ⟨first.line, some name, none⟩
  | .tag handle suffix =>
    skip
    let second ← peek
    match second.kind with
    | .anchor name =>
      skip
      return ⟨first.line, some name, some (← fullTag handle suffix first.line)⟩
    | _ => return ⟨first.line, none, some (← fullTag handle suffix first.line)⟩
  | _ => return ⟨first.line, none, none⟩

/-- The node that an alias stands for. -/
def resolve (name : String) (line : Nat) : Build Nat := do
  match Assoc.get? name (← get).anchors with
  | some id => return id
  | none => fail (.unknownAlias name) line

/-- Adds a node with its properties; an anchor names one node only. -/
def addNode (p : Properties) (defaultTag : String) (content : Content) : Build Nat := do
  match p.anchor with
  | some name => if Assoc.contains name (← get).anchors then fail .secondAnchor p.line
  | none => pure ()
  let id ← add ⟨p.line, match p.tag with
    | none | some "!" => defaultTag
    | some tag => tag, content⟩
  match p.anchor with
  | some name => modify fun b => { b with anchors := Assoc.put name id b.anchors }
  | none => pure ()
  return id

/-- The tag of a scalar that has none of its own: plain ones, and those with the tag `!`, by their
look. -/
def scalarTag (p : Properties) (text : Text.CodePoints) (plain : Bool) : String :=
  if plain || p.tag == some "!" then untaggedScalar text else standardTag "str"

def isEntryEnd : TokenKind → Bool
  | .blockEntry | .blockEnd => true
  | _ => false

def isIndentlessEnd : TokenKind → Bool
  | .blockEntry | .key | .value | .blockEnd => true
  | _ => false

def isPairEnd : TokenKind → Bool
  | .key | .value | .blockEnd => true
  | _ => false

def isFlowItemEnd (closing : TokenKind) (kind : TokenKind) : Bool :=
  kind == .flowEntry || kind == closing

variable [StackRoom]

mutual

/-- The next node. In a block, block collections may stand here, and where a list may stand without
more indentation its entries as well. -/
def node (block indentless : Bool) : Nat → Build Nat
  | 0 => unexpected .noContent
  | fuel + 1 => do
    let first ← peek
    match first.kind with
    | .reference name =>
      skip
      resolve name first.line
    | _ =>
      let p ← properties
      let token ← peek
      match token.kind, block, indentless with
      | .blockEntry, _, true =>
        let id ← addNode p (standardTag "seq") (.sequence [])
        inside (indentlessItems id [] fuel)
      | .scalar text plain, _, _ =>
        skip
        addNode p (scalarTag p text plain) (.scalar text)
      | .flowSequenceStart, _, _ =>
        let id ← addNode p (standardTag "seq") (.sequence [])
        skip
        inside (flowItems id [] true fuel)
      | .flowMappingStart, _, _ =>
        let id ← addNode p (standardTag "map") (.mapping [])
        skip
        inside (flowPairs id [] true fuel)
      | .sequenceStart, true, _ =>
        let id ← addNode p (standardTag "seq") (.sequence [])
        skip
        inside (blockItems id [] fuel)
      | .mappingStart, true, _ =>
        let id ← addNode p (standardTag "map") (.mapping [])
        skip
        inside (blockPairs id [] fuel)
      | kind, _, _ =>
        if p.anchor.isSome || p.tag.isSome then
          addNode p (standardTag "null") (.scalar [])
        else fail (.noContent kind.name) token.line
termination_by structural fuel => fuel

/-- The items of a block sequence, those read coming last first. -/
def blockItems (id : Nat) (items : List Nat) : Nat → Build Nat
  | 0 => unexpected .noBlockEnd
  | fuel + 1 => do
    let token ← peek
    match token.kind with
    | .blockEntry =>
      skip
      let item ← (if isEntryEnd (← peekKind) then emptyScalar token.line else node true false fuel)
      blockItems id (item :: items) fuel
    | .blockEnd =>
      skip
      setContent id (.sequence items.reverse)
      return id
    | _ => unexpected .noBlockEnd
termination_by structural fuel => fuel

/-- The items of a sequence that is not indented more than the mapping around it. -/
def indentlessItems (id : Nat) (items : List Nat) : Nat → Build Nat
  | 0 => unexpected .noBlockEnd
  | fuel + 1 => do
    let token ← peek
    match token.kind with
    | .blockEntry =>
      skip
      let item ← (if isIndentlessEnd (← peekKind) then emptyScalar token.line
        else node true false fuel)
      indentlessItems id (item :: items) fuel
    | _ =>
      setContent id (.sequence items.reverse)
      return id
termination_by structural fuel => fuel

/-- The entries of a block mapping. -/
def blockPairs (id : Nat) (entries : List (Nat × Nat)) : Nat → Build Nat
  | 0 => unexpected .noBlockEnd
  | fuel + 1 => do
    let token ← peek
    match token.kind with
    | .key =>
      skip
      let key ← (if isPairEnd (← peekKind) then emptyScalar token.line else node true true fuel)
      let value ← blockValue fuel
      blockPairs id ((key, value) :: entries) fuel
    | .blockEnd =>
      skip
      setContent id (.mapping entries.reverse)
      return id
    | _ => unexpected .noBlockEnd
termination_by structural fuel => fuel

/-- The value of a key in a block mapping. -/
def blockValue : Nat → Build Nat
  | 0 => unexpected .noBlockEnd
  | fuel + 1 => do
    let token ← peek
    match token.kind with
    | .value =>
      skip
      if isPairEnd (← peekKind) then emptyScalar token.line else node true true fuel
    | _ => emptyScalar token.line
termination_by structural fuel => fuel

/-- The items of a sequence in brackets. A pair among them is a mapping of its own. -/
def flowItems (id : Nat) (items : List Nat) (first : Bool) : Nat → Build Nat
  | 0 => unexpected .noSequenceEnd
  | fuel + 1 => do
    match ← peekKind with
    | .flowSequenceEnd => pure ()
    | .flowEntry => if first then pure () else skip
    | _ => if first then pure () else unexpected .noSequenceEnd
    let token ← peek
    match token.kind with
    | .flowSequenceEnd =>
      skip
      setContent id (.sequence items.reverse)
      return id
    | .key =>
      let pair ← add ⟨token.line, standardTag "map", .mapping []⟩
      skip
      let key ← (match ← peekKind with
        | .value | .flowEntry | .flowSequenceEnd => emptyScalar token.line
        | _ => node false false fuel)
      let value ← flowValue .flowSequenceEnd fuel
      setContent pair (.mapping [(key, value)])
      flowItems id (pair :: items) false fuel
    | _ =>
      let item ← node false false fuel
      flowItems id (item :: items) false fuel
termination_by structural fuel => fuel

/-- The entries of a mapping in braces. -/
def flowPairs (id : Nat) (entries : List (Nat × Nat)) (first : Bool) : Nat → Build Nat
  | 0 => unexpected .noMappingEnd
  | fuel + 1 => do
    match ← peekKind with
    | .flowMappingEnd => pure ()
    | .flowEntry => if first then pure () else skip
    | _ => if first then pure () else unexpected .noMappingEnd
    let token ← peek
    match token.kind with
    | .flowMappingEnd =>
      skip
      setContent id (.mapping entries.reverse)
      return id
    | .key =>
      skip
      let key ← (match ← peekKind with
        | .value | .flowEntry | .flowMappingEnd => emptyScalar token.line
        | _ => node false false fuel)
      let value ← flowValue .flowMappingEnd fuel
      flowPairs id ((key, value) :: entries) false fuel
    | _ =>
      let key ← node false false fuel
      let value ← emptyScalar (← peek).line
      flowPairs id ((key, value) :: entries) false fuel
termination_by structural fuel => fuel

/-- The value of a key in brackets or braces. -/
def flowValue (closing : TokenKind) : Nat → Build Nat
  | 0 => unexpected .noMappingEnd
  | fuel + 1 => do
    let token ← peek
    match token.kind with
    | .value =>
      skip
      if isFlowItemEnd closing (← peekKind) then emptyScalar token.line
      else node false false fuel
    | _ => emptyScalar token.line
termination_by structural fuel => fuel

end

/-- The handles that are known without a directive. -/
def standardHandles : List (String × String) := [("!", "!"), ("!!", standardTags)]

/-- The directives in front of a document, given those that were read. -/
def directives (version : Bool) (handles : List (String × String)) : Nat → Build Unit
  | 0 => pure ()
  | fuel + 1 => do
    let token ← peek
    match token.kind with
    | .directive (.version major) =>
      skip
      if version then fail .secondVersion token.line
      else if major != 1 then fail .badVersion token.line
      else directives true handles fuel
    | .directive (.handle h start) =>
      skip
      if Assoc.contains h handles then fail (.secondHandle h) token.line
      else directives version (Assoc.put h start handles) fuel
    | .directive .other =>
      skip
      directives version handles fuel
    | _ =>
      let unset := standardHandles.filter (fun e => !Assoc.contains e.1 handles)
      modify fun b => { b with handles := handles ++ unset }

def skipDocumentEnds : Nat → Build Unit
  | 0 => pure ()
  | fuel + 1 => do
    match ← peekKind with
    | .documentEnd =>
      skip
      skipDocumentEnds fuel
    | _ => pure ()

/-- The start of an explicit document, if one follows; the line it begins on. -/
def documentStart (fuel : Nat) : Build (Option Nat) := do
  skipDocumentEnds fuel
  let token ← peek
  match token.kind with
  | .streamEnd => return none
  | _ =>
    directives false [] fuel
    match ← peekKind with
    | .documentStart =>
      skip
      return some token.line
    | _ => unexpected .noDocumentStart

/-- The end of a document and of the text. -/
def documentEnd (fuel : Nat) : Build Unit := do
  match ← peekKind with
  | .documentEnd => skip
  | _ => pure ()
  match ← documentStart fuel with
  | some line => fail .secondDocument line
  | none => pure ()

/-- The root of an explicit document. -/
def content (fuel : Nat) : Build Nat := do
  let token ← peek
  match token.kind with
  | .directive _ | .documentStart | .documentEnd | .streamEnd => emptyScalar token.line
  | _ => node true false fuel

/-- The root of the document, unless the text holds none. -/
def document (fuel : Nat) : Build (Option Nat) := do
  match ← peekKind with
  | .directive _ | .documentStart | .streamEnd =>
    match ← documentStart fuel with
    | none => return none
    | some _ =>
      let root ← content fuel
      documentEnd fuel
      return some root
  | _ =>
    modify fun b => { b with handles := standardHandles }
    let root ← node true false fuel
    documentEnd fuel
    return some root

end Build

/-- The nodes of a document and the number of its root, unless there is none. -/
def nodesOf [StackRoom] (tokens : List Token) (ending : Option Fault) :
    Except Fault (Option Nat × Table) := do
  let (root, b) ← (Build.document (4 * tokens.length + 8)).run { tokens := tokens, ending := ending }
  return (root, b.table)

end Walkthrough.Yaml
