import Walkthrough.Text.CodePoints
import Walkthrough.Yaml.Fault

/-!
Nodes of a YAML document. They stand in a table and name each other by number, so that two places
can hold one node and a node can hold itself.
-/

namespace Walkthrough.Yaml

inductive Content
  | scalar (text : Text.CodePoints)
  | sequence (items : List Nat)
  | mapping (entries : List (Nat × Nat))
  deriving DecidableEq, Repr, Inhabited

structure Node where
  line : Nat
  tag : String
  content : Content
  deriving DecidableEq, Repr, Inhabited

abbrev Table := Array Node

def Node.kind (n : Node) : Kind :=
  match n.content with
  | .scalar _ => .scalar
  | .sequence _ => .sequence
  | .mapping _ => .mapping

/-- What the short handle `!!` stands for. -/
def standardTags : String := "tag:yaml.org,2002:"

/-- A tag of the standard. -/
def standardTag (name : String) : String := standardTags ++ name

end Walkthrough.Yaml
