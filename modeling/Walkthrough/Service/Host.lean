import Walkthrough.Text.Blank
import Walkthrough.Text.Digit

/-!
Hosts that are named by numbers: four numbers below 256 between points (`isQuad`), or eight groups of
hexadecimal digits between colons, of which a run of zeros may be left out once (`isGrouped`).
-/

namespace Walkthrough.Host

open Text

/-- A number below 256 without zeros in front. -/
def isOctet (cs : List Char) : Bool :=
  !cs.isEmpty && cs.length ≤ 3 && cs.all isDigit && (cs.length == 1 || cs.head? != some '0') &&
    ofDecimal cs ≤ 255

/-- Four numbers between points. -/
def isQuad (cs : List Char) : Bool :=
  let parts := splitOnChar '.' cs
  parts.length == 4 && parts.all isOctet

/-- The lengths of the runs of digits between the other characters. -/
def digitRuns (cs : List Char) : List Nat :=
  (splitOnChar '.' (cs.map fun c => if isDigit c then c else '.')).map List.length

/-- Whether a name is made like four numbers: four runs of digits, with one character of any kind
between a run and the next. A run of `n` digits can hold `(n - 1) / 2` such characters itself. -/
def resemblesQuad (cs : List Char) : Bool :=
  let runs := digitRuns cs
  runs.all (0 < ·) && runs.length ≤ 4 &&
    3 ≤ runs.foldl (fun total n => total + (n - 1) / 2) (runs.length - 1)

def isGroup (cs : List Char) : Bool :=
  !cs.isEmpty && cs.length ≤ 4 && cs.all fun c => (hexValue c).isSome

/-- The groups between the colons; four numbers at the end stand for two groups. -/
def groups (cs : List Char) : List (List Char) :=
  let parts := splitOnChar ':' cs
  match parts.getLast? with
  | some last => if isQuad last then parts.dropLast ++ [['0'], ['0']] else parts
  | none => parts

/-- The groups on one side of the gap that a run of zeros leaves, if they are such. -/
def side? (groups : List (List Char)) : Option (List (List Char)) :=
  if groups == [[]] then some [] else if groups.all isGroup then some groups else none

/-- Eight groups, or fewer with a gap between two colons. -/
def isGroups (cs : List Char) : Bool :=
  match groups cs with
  | [] => false
  | first :: rest =>
    let before := first :: rest.takeWhile (fun group => !group.isEmpty)
    match rest.dropWhile (fun group => !group.isEmpty) with
    | [] :: next :: more =>
      match side? before, side? (next :: more) with
      | some a, some b => a.length + b.length ≤ 7
      | _, _ => false
    | _ => (first :: rest).length == 8 && (first :: rest).all isGroup

/-- Groups, and a zone behind a `%` if there is one. -/
def isGrouped (cs : List Char) : Bool :=
  let (address, zone) := splitAtFirst (· == '%') cs
  isGroups address && match zone with
    | [] => true
    | _ :: name => !name.isEmpty && !name.contains '%'

end Walkthrough.Host
