import Walkthrough.Script.Line

/-!
Reading scripts. A `Machine` takes the lines that count one after the other: its mode says which
lines are legal, the open drafts hold what the current feature and page have so far, and a draft is
closed by the next block or by the end of the text. `Script.parse` runs it over a text.
-/

namespace Walkthrough.Script

inductive Mode
  | top
  | features
  | page
  | expected
  | action
  | fields
  deriving DecidableEq, Repr

def Mode.inPage : Mode → Bool
  | .page | .expected | .action | .fields => true
  | .top | .features => false

structure FeatureDraft where
  name : String
  enabled : Bool := false
  context : List (String × String) := []
  deriving DecidableEq, Repr

/-- A page that is being read, with the lines of its heading and of its action. -/
structure PageDraft where
  name : String
  line : Nat
  expected : List Expected := []
  actionLine : Option Nat := none
  properties : List (Property × String) := []
  fields : List (String × String) := []
  deriving DecidableEq, Repr

structure Machine where
  mode : Mode := .top
  host : Option String := none
  features : List (String × Feature) := []
  pages : List Page := []
  feature : Option FeatureDraft := none
  page : Option PageDraft := none
  deriving DecidableEq, Repr

/-- Why reading ended early. -/
inductive Stop
  /-- The text is no script. -/
  | fault (cause : LineFault) (line : Option Nat)
  /-- A part that was read is refused by the scenario it would belong to. -/
  | refused (cause : Misuse)
  /-- A line of a page was read with no page open. -/
  | noDraft
  deriving DecidableEq, Repr

/-- The two sides of a pair on line `n`. -/
def pairAt (kind : PairKind) (n : Nat) (text : List Char) : Except Stop (List Char × List Char) :=
  match pair? text with
  | some sides => .ok sides
  | none => .error (.fault (.badPair kind text) (some n))

/-- The feature with one more setting. -/
def FeatureDraft.set (d : FeatureDraft) (n : Nat) (key value : List Char) :
    Except Stop FeatureDraft :=
  if key = ['e', 'n', 'a', 'b', 'l', 'e'] then
    match truth? value with
    | some b => .ok { d with enabled := b }
    | none => .error (.fault (.badEnable value) (some n))
  else if key = ['o', 'n'] ∧ value = [] then .ok d
  else if key = ['n', 'a', 'm', 'e'] ∨ key = ['e', 'n', 'a', 'b', 'l', 'e', 'd'] then
    .error (.fault (.reservedKey key) (some n))
  else .ok { d with context := Assoc.put (String.ofList key) (String.ofList value) d.context }

/-- What the entries of a page's action are. -/
def PageDraft.entries (d : PageDraft) : List (Data × Data) :=
  d.properties.map (fun (p, value) => (.text p.key, .text value)) ++
    if d.fields.isEmpty then [] else [(.text "fields", textEntries d.fields)]

def PageDraft.type (d : PageDraft) : Data := openText (Assoc.get? .type d.properties)

def PageDraft.close (d : PageDraft) : Except Stop Page :=
  match d.actionLine with
  | none => .error (.fault (.noAction d.name) (some d.line))
  | some n =>
    match Action.build d.type d.entries with
    | .error fault => .error (.fault (.action fault) (some n))
    | .ok action =>
      match Page.create (some d.name) (some action) d.expected with
      | .error misuse => .error (.refused misuse)
      | .ok page => .ok page

namespace Machine

/-- The machine with its open feature finished. -/
def closeFeature (m : Machine) : Except Stop Machine :=
  match m.feature with
  | none => .ok m
  | some d =>
    match Feature.create d.name d.enabled d.context with
    | .error misuse => .error (.refused misuse)
    | .ok feature => .ok { m with feature := none, features := Assoc.put d.name feature m.features }

/-- The machine with its open page finished. -/
def closePage (m : Machine) : Except Stop Machine :=
  match m.page with
  | none => .ok m
  | some d =>
    match d.close with
    | .error stop => .error stop
    | .ok page => .ok { m with page := none, pages := m.pages ++ [page] }

/-- Whether a page has begun, after which no block of the prologue may follow. -/
def pastPrologue (m : Machine) : Bool := m.mode.inPage || !m.pages.isEmpty

def openHost (m : Machine) (n : Nat) (value : List Char) : Except Stop Machine :=
  if m.pastPrologue then .error (.fault .hostAfterPage (some n))
  else if m.host.isSome then .error (.fault .secondHost (some n))
  else if value.isEmpty then .error (.fault .emptyHost (some n))
  else do
    let m ← m.closeFeature
    return { m with host := some (String.ofList value), mode := .top }

def openFeatures (m : Machine) (n : Nat) : Except Stop Machine :=
  if m.pastPrologue then .error (.fault .featuresAfterPage (some n))
  else do
    let m ← m.closeFeature
    return { m with mode := .features }

def openPage (m : Machine) (n : Nat) (name : List Char) : Except Stop Machine :=
  if m.host.isNone then .error (.fault .pageBeforeHost (some n))
  else if name.isEmpty then .error (.fault .emptyPageName (some n))
  else do
    let m ← (← m.closeFeature).closePage
    return { m with page := some { name := String.ofList name, line := n }, mode := .page }

/-- Opens a feature, given what stands after the dash of its heading. -/
def openFeature (m : Machine) (line : Line) (rest : List Char) : Except Stop Machine :=
  match featureName? rest with
  | none => .error (.fault (.badFeature line.text) (some line.number))
  | some name =>
    let name := String.ofList name
    if Assoc.contains name m.features || m.feature.any (·.name == name) then
      .error (.fault (.secondFeature name) (some line.number))
    else do
      let m ← m.closeFeature
      return { m with feature := some { name := name } }

/-- A line of the features block. -/
def inFeatures (m : Machine) (line : Line) : Except Stop Machine :=
  match itemRest? line.text with
  | some rest => m.openFeature line rest
  | none =>
    match m.feature with
    | none => .error (.fault (.straySetting line.text) (some line.number))
    | some d => do
      let (key, value) ← pairAt .featureSetting line.number line.text
      let d ← d.set line.number key value
      return { m with feature := some d }

/-- The machine with the page's one action begun. -/
def openAction (m : Machine) (n : Nat) (d : PageDraft) : Except Stop Machine :=
  if d.actionLine.isSome then .error (.fault (.secondAction d.name) (some n))
  else .ok { m with page := some { d with actionLine := some n }, mode := .action }

/-- The first lines of a page. -/
def inPage (m : Machine) (line : Line) (d : PageDraft) : Except Stop Machine :=
  if line.text = expectedLine then .ok { m with mode := .expected }
  else if line.text = actionLine then m.openAction line.number d
  else .error (.fault (.badPageLine line.text) (some line.number))

/-- A line among the expected values. -/
def inExpected (m : Machine) (line : Line) (d : PageDraft) : Except Stop Machine :=
  if line.text = actionLine then m.openAction line.number d
  else match itemRest? line.text with
    | none => .error (.fault (.badExpected line.text) (some line.number))
    | some rest => do
      let (target, value) ← pairAt .expectedElement line.number rest
      match Expected.create (some (String.ofList target)) (some (String.ofList (unquote value))) with
      | .error misuse => .error (.refused misuse)
      | .ok e => return { m with page := some { d with expected := d.expected ++ [e] } }

/-- A line among the properties of an action. -/
def inAction (m : Machine) (line : Line) (d : PageDraft) : Except Stop Machine :=
  if line.text = actionLine then m.openAction line.number d
  else match fieldsRest? line.text with
    | some rest =>
      if rest.isEmpty then .ok { m with mode := .fields }
      else .error (.fault .fieldsValue (some line.number))
    | none => do
      let (name, value) ← pairAt .actionProperty line.number line.text
      match Property.ofName? name with
      | none => .error (.fault (.unknownProperty name) (some line.number))
      | some property =>
        if Assoc.contains property d.properties then
          .error (.fault (.secondProperty name) (some line.number))
        else
          return { m with page := some { d with
            properties := Assoc.put property (String.ofList (unquote value)) d.properties } }

/-- A line among the fields of a submission; the fields end at the next property. -/
def inFields (m : Machine) (line : Line) (d : PageDraft) : Except Stop Machine :=
  match itemRest? line.text with
  | none => { m with mode := .action }.inAction line d
  | some rest => do
    let (name, value) ← pairAt .field line.number rest
    return { m with page := some { d with
      fields := Assoc.put (String.ofList name) (String.ofList (unquote value)) d.fields } }

/-- A handler for lines of a page, applied to the open page. -/
def withPage (m : Machine) (handle : PageDraft → Except Stop Machine) : Except Stop Machine :=
  match m.page with
  | none => .error .noDraft
  | some d => handle d

/-- The machine after one more line. -/
def step (m : Machine) (line : Line) : Except Stop Machine :=
  match opening? line.text with
  | some (.host value) => m.openHost line.number value
  | some .features => m.openFeatures line.number
  | some (.page name) => m.openPage line.number name
  | none =>
    match m.mode with
    | .top => .error (.fault (.strayLine line.text) (some line.number))
    | .features => m.inFeatures line
    | .page => m.withPage (m.inPage line)
    | .expected => m.withPage (m.inExpected line)
    | .action => m.withPage (m.inAction line)
    | .fields => m.withPage (m.inFields line)

/-- The machine after all the given lines, or why it stopped. -/
def run (m : Machine) : List Line → Except Stop Machine
  | [] => .ok m
  | line :: rest =>
    match m.step line with
    | .error stop => .error stop
    | .ok m => m.run rest

/-- The scenario at the end of the lines. -/
def finish (m : Machine) : Except Stop Scenario := do
  let m ← (← m.closeFeature).closePage
  match m.host with
  | none => .error (.fault .noHost none)
  | some host =>
    match Scenario.create (some host) m.features m.pages with
    | .error misuse => .error (.refused misuse)
    | .ok scenario => .ok scenario

end Machine

/-- The scenario that a script describes. -/
def parse (text : List Char) : Except Stop Scenario := do
  (← ({} : Machine).run (significantLines text)).finish

/-- A stop as a fault in the source of the given name. -/
def Stop.toFault (source : String) : Stop → Fault
  | fault cause line =>
    .format cause.message { line := line.map Int.ofNat, source := some source }
  | refused cause => .misuse cause
  | noDraft => .foreign ⟨.attribute, "no page is open"⟩

end Walkthrough.Script
