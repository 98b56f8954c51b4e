import Walkthrough.Yaml.Node.Tree
import Walkthrough.Yaml.Token.Stream
import Walkthrough.Yaml.Value

/-!
The value of a YAML text. The nodes of its document are visited level by level, which fixes the
fault that is reported first. Then the values are put together from the leaves. A node that holds
itself has no finite value: it is cut off below `depthLimit`, deeper than any part of a document that
is looked at.
-/

namespace Walkthrough.Yaml

/-- Collections that tags ask for. -/
inductive Shape
  | list
  | map
  | group
  /-- A list of pairs; each stands in a mapping of its own. -/
  | pairs
  deriving DecidableEq, Repr

def shape? (tag : String) : Option Shape :=
  if tag == standardTag "seq" then some .list
  else if tag == standardTag "map" then some .map
  else if tag == standardTag "set" then some .group
  else if tag == standardTag "omap" || tag == standardTag "pairs" then some .pairs
  else none

/-- How far a document was visited. -/
structure Visit where
  table : Table
  /-- The values of the scalars that were visited. -/
  scalars : Array (Option Data)
  visited : Array Bool
  /-- Collections whose items are still to be visited, the last one first. -/
  queue : List Nat := []

abbrev Visiting := StateT Visit (Except Fault)

namespace Visiting

def fail {α : Type} (cause : Problem) (line : Nat) : Visiting α := throw (.problem cause line)

def nodeAt (id : Nat) : Visiting Node := return (← get).table.getD id default

def setEntries (id : Nat) (entries : List (Nat × Nat)) : Visiting Unit :=
  modify fun v =>
    { v with table := v.table.modify id fun n => { n with content := .mapping entries } }

/-- The text of a scalar; a mapping has the one of the value under the key `=`. -/
def scalarText (id : Nat) : Nat → Visiting Text.CodePoints
  | 0 => do fail .endlessNode (← nodeAt id).line
  | fuel + 1 => do
    let n ← nodeAt id
    match n.content with
    | .scalar text => return text
    | .mapping entries =>
      let table := (← get).table
      match entries.find? (fun e => (table.getD e.1 default).tag == standardTag "value") with
      | some (_, value) => scalarText value fuel
      | none => fail (.notScalar n.kind) n.line
    | .sequence _ => fail (.notScalar n.kind) n.line

/-- The value of a scalar under its tag. -/
def scalarValue (id : Nat) : Visiting Data := do
  let n ← nodeAt id
  let text := scalarText id ((← get).table.size + 1)
  if n.tag == standardTag "null" then
    let _ ← text
    return .null
  else if n.tag == standardTag "bool" then truthValue (← text)
  else if n.tag == standardTag "int" then integerValue (← text)
  else if n.tag == standardTag "float" then decimalValue (← text)
  else if n.tag == standardTag "binary" then bytesValue n.line (← text)
  else if n.tag == standardTag "timestamp" then
    let units ← text
    match n.content with
    | .scalar _ => stampValue units
    | _ => throw (.conversion ⟨.type, "expected string or bytes-like object, got 'list'"⟩)
  else if n.tag == standardTag "str" then return .text (← text).text
  else fail (.unknownTag n.tag) n.line

mutual

/-- Replaces the merge keys of a mapping by the entries they bring, which come first. -/
def flatten (id : Nat) : Nat → Visiting Unit
  | 0 => pure ()
  | fuel + 1 => do
    let merged ← mergeFrom id 0 [] fuel
    match (← nodeAt id).content with
    | .mapping entries => if merged.isEmpty then pure () else setEntries id (merged ++ entries)
    | _ => pure ()
termination_by structural fuel => fuel

/-- Takes the merge keys from entry `i` on out of a mapping and collects what they bring. -/
def mergeFrom (id i : Nat) (merged : List (Nat × Nat)) : Nat → Visiting (List (Nat × Nat))
  | 0 => return merged
  | fuel + 1 => do
    match (← nodeAt id).content with
    | .mapping entries =>
      match entries[i]? with
      | none => return merged
      | some (key, value) =>
        let keyNode ← nodeAt key
        if keyNode.tag == standardTag "merge" then
          setEntries id (entries.eraseIdx i)
          let brought ← broughtBy id value fuel
          mergeFrom id i (merged ++ brought) fuel
        else
          if keyNode.tag == standardTag "value" then
            modify fun v => { v with table := v.table.modify key fun n =>
              { n with tag := standardTag "str" } }
          mergeFrom id (i + 1) merged fuel
    | _ => return merged
termination_by structural fuel => fuel

/-- The entries that the value of a merge key brings. -/
def broughtBy (id value : Nat) : Nat → Visiting (List (Nat × Nat))
  | 0 => return []
  | fuel + 1 => do
    let v ← nodeAt value
    match v.content with
    | .mapping _ =>
      flatten value fuel
      match (← nodeAt value).content with
      | .mapping entries => return entries
      | _ => return []
    | .sequence items => broughtByAll id items [] fuel
    | .scalar _ => fail (.mergeValue v.kind) v.line
termination_by structural fuel => fuel

/-- The entries of a list of mappings, those of later ones first. -/
def broughtByAll (id : Nat) (items : List Nat) (later : List (Nat × Nat)) :
    Nat → Visiting (List (Nat × Nat))
  | 0 => return later
  | fuel + 1 => do
    match items with
    | [] => return later
    | item :: rest =>
      let n ← nodeAt item
      match n.content with
      | .mapping _ =>
        flatten item fuel
        match (← nodeAt item).content with
        | .mapping entries => broughtByAll id rest (entries ++ later) fuel
        | _ => return later
      | _ => fail (.mergeItem n.kind) n.line
termination_by structural fuel => fuel

end

/-- A bound for the steps of flattening. -/
def flattenFuel (table : Table) : Nat :=
  2 * table.foldl (fun n node => n + match node.content with
    | .scalar _ => 1
    | .sequence items => 2 * items.length + 1
    | .mapping entries => 3 * entries.length + 1) 8

/-- Visits a node; the items of a collection are left for later. -/
def node (id : Nat) : Visiting Unit := do
  let v ← get
  if v.visited.getD id false then pure ()
  else
    let n ← nodeAt id
    match shape? n.tag with
    | some _ => modify fun v => { v with queue := id :: v.queue }
    | none =>
      let value ← scalarValue id
      modify fun v => { v with scalars := v.scalars.setIfInBounds id (some value) }
    modify fun v => { v with visited := v.visited.setIfInBounds id true }

/-- Visits the entries of a mapping; no key is a collection. -/
def entries : List (Nat × Nat) → Visiting Unit
  | [] => pure ()
  | (key, value) :: rest => do
    let keyNode ← nodeAt key
    if (shape? keyNode.tag).isSome then fail .listKey keyNode.line
    node key
    node value
    entries rest

/-- Visits the items of a list of pairs. -/
def pairs : List Nat → Visiting Unit
  | [] => pure ()
  | item :: rest => do
    let n ← nodeAt item
    match n.content with
    | .mapping [(key, value)] =>
      node key
      node value
    | .mapping entries => fail (.orderedCount entries.length) n.line
    | _ => fail (.orderedItem n.kind) n.line
    pairs rest

/-- Visits the items of a collection. -/
def items (shape : Shape) (id : Nat) : Visiting Unit := do
  let n ← nodeAt id
  match shape, n.content with
  | .list, .sequence ids => ids.forM node
  | .list, _ => fail (.notSequence n.kind) n.line
  | .map, .mapping _ | .group, .mapping _ =>
    flatten id (flattenFuel (← get).table)
    match (← nodeAt id).content with
    | .mapping es => entries es
    | _ => pure ()
  | .map, _ | .group, _ => fail (.notMapping n.kind) n.line
  | .pairs, .sequence ids => pairs ids
  | .pairs, _ => fail (.orderedSource n.kind) n.line

/-- Visits the collections in the queue, and those that are queued meanwhile after them. -/
def levels : Nat → Visiting Unit
  | 0 => pure ()
  | fuel + 1 => do
    let v ← get
    if v.queue.isEmpty then pure ()
    else
      set { v with queue := [] }
      let table := v.table
      for id in v.queue.reverse do
        match shape? (table.getD id default).tag with
        | some shape => items shape id
        | none => pure ()
      levels fuel

end Visiting

/-- The depth below which values are cut off. -/
def depthLimit : Nat := 12

/-- The value of a node, given the values of all nodes one level less deep. -/
def valueOf (v : Visit) (inner : Array Data) (id : Nat) (n : Node) : Data :=
  let inside := fun (id : Nat) => inner.getD id .null
  match v.scalars.getD id none with
  | some d => d
  | none =>
    match shape? n.tag, n.content with
    | some .list, .sequence ids => .list (ids.map inside)
    | some .map, .mapping entries => Data.mapOf (entries.map fun e => (inside e.1, inside e.2))
    | some .group, .mapping entries => Data.groupOf (entries.map fun e => inside e.1)
    | some .pairs, .sequence ids => .list (ids.map fun id =>
        match (v.table.getD id default).content with
        | .mapping [(key, value)] => .pair (inside key) (inside value)
        | _ => .null)
    | _, _ => .null

/-- The values of all nodes down to a depth. -/
def valuesTo (v : Visit) : Nat → Array Data
  | 0 => v.scalars.map (·.getD .null)
  | depth + 1 =>
    let inner := valuesTo v depth
    v.table.mapIdx (valueOf v inner)

/-- The value that a text writes; a text without a document is nothing. -/
def read [StackRoom] (text : Text.CodePoints) : Except Fault Data := do
  let ok := text.takeWhile isAllowed
  match text.drop ok.length with
  | n :: _ => .error (.badCharacter n ok.length)
  | [] =>
    let (tokens, ending) := tokensOf (text.map Char.ofNat)
    let (root, table) ← nodesOf tokens ending
    match root with
    | none => return .null
    | some root =>
      let start : Visit := {
        table := table
        scalars := Array.replicate table.size none
        visited := Array.replicate table.size false }
      let visiting : Visiting Unit := do
        Visiting.node root
        Visiting.levels (table.size + 1)
      let (_, v) ← visiting.run start
      return (valuesTo v (min depthLimit (table.size + 1))).getD root .null

end Walkthrough.Yaml
