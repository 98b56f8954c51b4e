import Walkthrough.Disk.Basic
import Walkthrough.Disk.Glob

/-!
Selecting files of a directory by patterns of their names.
-/

namespace Walkthrough.Disk

/-- Whether a name is of one of the patterns. -/
def isSelected (patterns : List String) (name : List Char) : Bool :=
  patterns.any (fun p => Glob.isMatch (Text.points p.toList) (Text.points name))

/-- The order of code points as in a dictionary: the first that differ decide, and what goes on comes
after what it begins with. -/
def atMost : Text.CodePoints → Text.CodePoints → Bool
  | [], _ => true
  | _ :: _, [] => false
  | m :: ms, n :: ns => m < n || (m == n && atMost ms ns)

/-- Whether two texts stand in the order of their code points. -/
def inOrder (a b : String) : Bool := atMost (Text.points a.toList) (Text.points b.toList)

/-- The paths of the regular files in a directory whose names are of one of the patterns, sorted by
code points. -/
def scan (d : Disk) (directory : String) (patterns : List String) :
    Except Foreign (List String) :=
  match d.filesIn directory.toList with
  | .error refusal => .error (refusal.about directory)
  | .ok names =>
    let paths := (names.filter (isSelected patterns)).map fun name =>
      String.ofList (Path.join directory.toList name)
    .ok (paths.mergeSort inOrder)

end Walkthrough.Disk
