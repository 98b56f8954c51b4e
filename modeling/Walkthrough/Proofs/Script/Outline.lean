import Walkthrough.Script.Machine
import Walkthrough.Proofs.Assoc
import Walkthrough.Proofs.Script.Lines
import Mathlib.Data.List.Forall2

/-! # The block grammar of scripts

An `Outline` is the tree of blocks of a script: the blocks of the prologue and the pages, down to the
single settings, items and properties. `Outline.Spells` says which lines spell an outline, and
`Outline.Says` which scenario it describes; neither mentions the machine that reads scripts. -/

namespace Walkthrough.Script

variable {α β : Type} {R : α → List β → Prop}

/-- Lines that spell the items of a list one after the other. -/
inductive Sequence (R : α → List β → Prop) : List α → List β → Prop
  | nil : Sequence R [] []
  | cons {a as ls rest} : R a ls → Sequence R as rest → Sequence R (a :: as) (ls ++ rest)

namespace Sequence

theorem append {as bs ls rest} (h : Sequence R as ls) (h' : Sequence R bs rest) :
    Sequence R (as ++ bs) (ls ++ rest) := by
  induction h with
  | nil => exact h'
  | cons ha _ ih => rw [List.append_assoc]; exact .cons ha ih

theorem single {a ls} (h : R a ls) : Sequence R [a] ls := by
  have := Sequence.cons h .nil
  rwa [List.append_nil] at this

theorem concat {as a ls rest} (h : Sequence R as ls) (ha : R a rest) :
    Sequence R (as ++ [a]) (ls ++ rest) := h.append (.single ha)

/-- Lines of its own spell each item. -/
theorem exists_of_mem {as ls} (h : Sequence R as ls) {a : α} (ha : a ∈ as) : ∃ l, R a l ∧ l ⊆ ls := by
  induction h with
  | nil => cases ha
  | cons head tail ih =>
    rcases List.mem_cons.mp ha with rfl | ha
    · exact ⟨_, head, List.subset_append_left _ _⟩
    · obtain ⟨l, hl, hs⟩ := ih ha
      exact ⟨l, hl, List.Subset.trans hs (List.subset_append_right _ _)⟩

end Sequence

/-! ## Trees -/

/-- A setting of a feature. -/
inductive Setting
  | enable (value : Bool)
  /-- The line `on:`, which only introduces the entries after it. -/
  | on
  | entry (key value : String)
  deriving DecidableEq, Repr

/-- A feature with its settings. -/
structure Group where
  name : String
  settings : List Setting := []
  deriving DecidableEq, Repr

/-- A block of the prologue. -/
inductive Block
  | host (value : String)
  | features (groups : List Group)
  deriving DecidableEq, Repr

/-- A part of an action: a property, or fields with their values. -/
inductive Part
  | property (p : Property) (value : String)
  | fields (items : List (String × String))
  deriving DecidableEq, Repr

/-- A page: the expected values if it has a block of them, and the parts of its action. -/
structure PageBlock where
  name : String
  expected : Option (List (String × String)) := none
  parts : List Part := []
  deriving DecidableEq, Repr

structure Outline where
  prologue : List Block := []
  pages : List PageBlock := []
  deriving DecidableEq, Repr

/-! ## Spelling -/

/-- The line of a setting opens no block and is no list item. -/
inductive Setting.Spells : Setting → List (List Char) → Prop
  | enable {b line value} (free : Free line) (pair : PairLine "enable" value line)
      (truth : TruthValue b value) : Spells (.enable b) [line]
  | on {line} (free : Free line) (pair : PairLine "on" "" line) : Spells .on [line]
  | entry {key value line} (free : Free line) (pair : PairLine key value line)
      (unreserved : key ∉ reservedKeys) (notOn : ¬(key = "on" ∧ value = "")) :
      Spells (.entry key value) [line]

inductive Group.Spells : Group → List (List Char) → Prop
  | mk {name head settings body} (header : HeaderLine name head)
      (rest : Sequence Setting.Spells settings body) : Spells ⟨name, settings⟩ (head :: body)

inductive Block.Spells : Block → List (List Char) → Prop
  | host {value line} (head : HostLine value line) (shown : value ≠ "") : Spells (.host value) [line]
  | features {groups body} (rest : Sequence Group.Spells groups body) :
      Spells (.features groups) (featuresLine :: body)

/-- One list item a line. -/
inductive ItemSpells : String × String → List (List Char) → Prop
  | mk {name value line} (item : ItemLine name value line) : ItemSpells (name, value) [line]

inductive Part.Spells : Part → List (List Char) → Prop
  | property {p value line} (head : PropertyLine p value line) : Spells (.property p value) [line]
  | fields {items body} (rest : Sequence ItemSpells items body) :
      Spells (.fields items) (fieldsLine :: body)

/-- The block of expected values, if there is one. -/
inductive ExpectedSpells : Option (List (String × String)) → List (List Char) → Prop
  | none : ExpectedSpells none []
  | some {items body} (rest : Sequence ItemSpells items body) :
      ExpectedSpells (some items) (expectedLine :: body)

inductive PageBlock.Spells : PageBlock → List (List Char) → Prop
  | mk {name head expected front parts body} (word : PageLine name head) (shown : name ≠ "")
      (values : ExpectedSpells expected front) (rest : Sequence Part.Spells parts body) :
      Spells ⟨name, expected, parts⟩ (head :: (front ++ actionLine :: body))

/-- The lines of the prologue, and after them those of the pages. -/
inductive Outline.Spells : Outline → List (List Char) → Prop
  | mk {prologue front pages back} (blocks : Sequence Block.Spells prologue front)
      (rest : Sequence PageBlock.Spells pages back) : Spells ⟨prologue, pages⟩ (front ++ back)

/-! ## Growth -/

/-- The feature with one more setting. -/
def Group.add (g : Group) (s : Setting) : Group := { g with settings := g.settings ++ [s] }

/-- The page with one more part. -/
def PageBlock.add (b : PageBlock) (part : Part) : PageBlock := { b with parts := b.parts ++ [part] }

theorem Group.Spells.add {g : Group} {s : Setting} {ls rest} (h : g.Spells ls) (hs : s.Spells rest) :
    (g.add s).Spells (ls ++ rest) := by
  cases h with
  | mk header settings => exact .mk header (settings.concat hs)

theorem PageBlock.Spells.add {b : PageBlock} {part : Part} {ls rest} (h : b.Spells ls)
    (hp : part.Spells rest) : (b.add part).Spells (ls ++ rest) := by
  cases h with
  | mk word shown values parts =>
    rw [List.cons_append, List.append_assoc, List.cons_append]
    exact .mk word shown values (parts.concat hp)

/-! ## Meaning -/

/-- A feature with one more setting: the last truth value counts, and a key that comes again keeps its
place and takes the new value. -/
def Setting.apply (d : FeatureDraft) : Setting → FeatureDraft
  | .enable b => { d with enabled := b }
  | .on => d
  | .entry key value => { d with context := Assoc.put key value d.context }

/-- What a feature comes to. -/
def Group.draft (g : Group) : FeatureDraft := g.settings.foldl Setting.apply { name := g.name }

def Group.feature (g : Group) : String × Feature :=
  (g.name, ⟨g.name, g.draft.enabled, g.draft.context⟩)

def Setting.entry? : Setting → Option (String × String)
  | .entry key value => some (key, value)
  | .enable _ | .on => none

/-- The entries that stand in a feature. -/
def Group.entries (g : Group) : List (String × String) := g.settings.filterMap Setting.entry?

def Block.host? : Block → Option String
  | .host value => some value
  | .features _ => none

def Block.groups : Block → List Group
  | .host _ => []
  | .features groups => groups

def Part.property? : Part → Option (Property × String)
  | .property p value => some (p, value)
  | .fields _ => none

def Part.items : Part → List (String × String)
  | .property .. => []
  | .fields items => items

def PageBlock.properties (b : PageBlock) : List (Property × String) :=
  b.parts.filterMap Part.property?

/-- The fields of all parts; a name that comes again keeps its place and takes the new value. -/
def PageBlock.fields (b : PageBlock) : List (String × String) :=
  Assoc.ofPairs (b.parts.flatMap Part.items)

/-- The values that a page expects. -/
def PageBlock.values (b : PageBlock) : List Expected :=
  (b.expected.getD []).map fun (target, value) => ⟨target, value⟩

/-- The action that the properties and fields of a page ask for. -/
inductive PageBlock.Acts (b : PageBlock) : Action → Prop
  | click {target} (type : (.type, "Click") ∈ b.properties)
      (prop : (.target, target) ∈ b.properties) (shown : ¬Text.AllBlank target.toList) :
      Acts b (.click (some target))
  | enter {field value} (type : (.type, "Enter") ∈ b.properties)
      (prop : (.targetField, field) ∈ b.properties) (shown : ¬Text.AllBlank field.toList)
      (text : (.value, value) ∈ b.properties) : Acts b (.enter (some field) (some value))
  | submit (type : (.type, "Submit") ∈ b.properties) :
      Acts b (.submit (b.fields.map fun (name, value) => (name, some value)))

/-- The page that a block describes: no property stands in it twice, and they make up an action. -/
structure PageBlock.Says (b : PageBlock) (p : Page) : Prop where
  name : p.name = b.name
  expected : p.expected = b.values
  once : (Assoc.keys b.properties).Nodup
  action : b.Acts p.action

/-- The features of the prologue in their order. -/
def Outline.groups (o : Outline) : List Group := o.prologue.flatMap Block.groups

/-- The scenario that an outline describes: there is one host, and no feature stands in it twice. -/
structure Outline.Says (o : Outline) (s : Scenario) : Prop where
  host : o.prologue.filterMap Block.host? = [s.host]
  once : (o.groups.map Group.name).Nodup
  features : s.features = o.groups.map Group.feature
  pages : List.Forall₂ PageBlock.Says o.pages s.pages

end Walkthrough.Script
