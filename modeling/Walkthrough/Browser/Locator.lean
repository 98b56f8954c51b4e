import Walkthrough.Fault
import Walkthrough.Text.Blank

/-!
Locators say what is looked for on a page. `Locator.xpath` renders one as an XPath 1.0 expression
from its `parts`: fixed code, which only the shape of the locator decides, and the texts that are
compared with the page.
-/

namespace Walkthrough

inductive Locator
  | byId (id : String)
  /-- A label whose text is `text`, or contains it if `exact` is false. -/
  | byLabel (text : String) (exact : Bool)
  /-- Elements with an attribute, of the given tags or, if there are none, of any. -/
  | byAttribute (name value : String) (tags : List String) (ignoreCase : Bool)
  /-- The first sibling of one of the tags after a label that contains the text. -/
  | afterLabel (text : String) (tags : List String)
  /-- Buttons and links with a text. -/
  | clickable (text : Option String)
  | submitControl
  | anyOf (locators : List Locator)
  /-- A locator that says nothing. -/
  | unspecific
  deriving Repr, Inhabited

/-- The tags of fields that text is typed into. -/
def inputTags : List String := ["input", "textarea"]

namespace Locator

/-- The locator as messages name it. -/
def kind : Locator → String
  | byId _ => "ById"
  | byLabel .. => "ByLabelText"
  | byAttribute .. => "ByAttribute"
  | afterLabel .. => "LabelFollowingSibling"
  | clickable _ => "ClickableByText"
  | submitControl => "GenericSubmitControl"
  | anyOf _ => "AnyOf"
  | unspecific => "Locator"

mutual

/-- Whether two locators look for the same. One that says nothing is like no other. -/
def same : Locator → Locator → Bool
  | byId a, byId b => a == b
  | byLabel a x, byLabel b y => a == b && x == y
  | byAttribute a v ts i, byAttribute b w us j => a == b && v == w && ts == us && i == j
  | afterLabel a ts, afterLabel b us => a == b && ts == us
  | clickable a, clickable b => a == b
  | submitControl, submitControl => true
  | anyOf ls, anyOf ms => sameAll ls ms
  | _, _ => false

def sameAll : List Locator → List Locator → Bool
  | [], [] => true
  | l :: ls, m :: ms => same l m && sameAll ls ms
  | _, _ => false

end

/-- The locators that are tried one after the other. -/
def alternatives : Locator → List Locator
  | anyOf ls => ls
  | l => [l]

end Locator

namespace XPath

/-- A part of an expression. -/
inductive Part
  | code (s : String)
  /-- A text that is compared with the page. -/
  | value (s : String)
  deriving DecidableEq, Repr

def quoteWith (mark : Char) (cs : List Char) : List Char := mark :: (cs ++ [mark])

/-- The pieces of a text between single quotes, each quoted, the single quotes in between. -/
def pieces : List (List Char) → List (List Char)
  | [] => []
  | [last] => if last.isEmpty then [] else [quoteWith '\'' last]
  | part :: rest =>
    (if part.isEmpty then [] else [quoteWith '\'' part]) ++ quoteWith '"' ['\''] :: pieces rest

/-- A text as a literal. There are no escapes, so a text with both kinds of quotes is put together
from pieces. -/
def literal (cs : List Char) : List Char :=
  if !cs.contains '\'' then quoteWith '\'' cs
  else if !cs.contains '"' then quoteWith '"' cs
  else
    ['c', 'o', 'n', 'c', 'a', 't', '('] ++
      [',', ' '].intercalate (pieces (Text.splitOnChar '\'' cs)) ++ [')']

def Part.render : Part → List Char
  | .code s => s.toList
  | .value s => literal s.toList

/-- An expression put together from its parts. -/
def render (parts : List Part) : List Char := parts.flatMap Part.render

/-- One expression for what any of the given ones selects. -/
def union (alternatives : List (List Part)) : List Part := [Part.code " | "].intercalate alternatives

/-- An expression in ASCII lower case. -/
def lowered (expression : String) : String :=
  "translate(" ++ expression ++ ", 'ABCDEFGHIJKLMNOPQRSTUVWXYZ', 'abcdefghijklmnopqrstuvwxyz')"

end XPath

namespace Locator

open XPath

/-- Labels with a text. -/
def labelParts (text : String) (exact : Bool) : List Part :=
  if exact then [.code "//label[normalize-space(.)=", .value text, .code "]"]
  else [.code "//label[contains(normalize-space(.), ", .value text, .code ")]"]

mutual

/-- The parts of the expression; a locator that says nothing has none, and neither has an open
text. -/
def parts : Locator → Except Foreign (List Part)
  | byId id => .ok [.code "//*[@id=", .value id, .code "]"]
  | byLabel text exact => .ok (labelParts text exact)
  | byAttribute name value tags ignoreCase =>
    let shown := if ignoreCase then lowered ("@" ++ name) else "@" ++ name
    let on := fun tag => [Part.code ("//" ++ tag ++ "[" ++ shown ++ "="), .value value, .code "]"]
    .ok (if tags.isEmpty then on "*" else union (tags.map on))
  | afterLabel text tags =>
    .ok (union (tags.map fun tag =>
      labelParts text false ++ [.code ("/following-sibling::" ++ tag ++ "[1]")]))
  | clickable none => .error ⟨.type, "argument of type 'NoneType' is not iterable"⟩
  | clickable (some text) =>
    .ok [.code "//button[normalize-space(.)=", .value text, .code "] | //a[normalize-space(.)=",
      .value text, .code "] | //input[@type='button' and @value=", .value text,
      .code "] | //input[@type='submit' and @value=", .value text, .code "]"]
  | submitControl =>
    .ok [.code ("//input[@type='submit'] | //button[@type='submit'] | //button[contains(" ++
      lowered "normalize-space(.)" ++ ", 'submit')] | //button[contains(" ++ lowered "@id" ++
      ", 'submit')] | //button[contains(" ++ lowered "@name" ++ ", 'submit')]")]
  | anyOf ls => (allParts ls).map union
  | unspecific => .error ⟨.notImplemented, ""⟩

def allParts : List Locator → Except Foreign (List (List Part))
  | [] => .ok []
  | l :: ls => do
    let ps ← parts l
    return ps :: (← allParts ls)

end

/-- The locator as an XPath expression. -/
def xpath (l : Locator) : Except Foreign String := l.parts.map fun ps => String.ofList (render ps)

end Locator

end Walkthrough
