import Walkthrough.Text.CodePoints

/-!
Patterns of file names: a star stands for any characters, a question mark for one, and brackets for
one of a set, which an exclamation mark at its front turns into its complement. A bracket that is
not closed stands for itself. Patterns and names are taken as code points, so that a surrogate is one
character like any other.
-/

namespace Walkthrough.Glob

open Text

/-- What one character of a set may be. -/
structure Range where
  first : Nat
  last : Nat
  deriving DecidableEq, Repr

inductive Item
  | star
  | any
  | char (c : Nat)
  | set (negated : Bool) (ranges : List Range)
  deriving DecidableEq, Repr

/-- Takes a character off the front of a text if it stands there. -/
def takeFront (c : Char) (cs : CodePoints) : CodePoints × CodePoints :=
  if cs.head? = some c.toNat then ([c.toNat], cs.tail) else ([], cs)

/-- The text inside brackets, and what follows them. A bracket right at the front belongs to the
text. -/
def splitSet (cs : CodePoints) : Option (CodePoints × CodePoints) :=
  let (mark, body) := takeFront '!' cs
  let (first, body) := takeFront ']' body
  match body.span (· ≠ ']'.toNat) with
  | (_, []) => none
  | (inside, _ :: rest) => some (mark ++ first ++ inside, rest)

/-- Splits a set at its hyphens, given the part before this place last character first; `skip`
counts the characters that are no hyphen whatever they are. A hyphen at the end belongs to the last
part. -/
def splitHyphens (part : CodePoints) (skip : Nat) : CodePoints → List CodePoints
  | [] => [part.reverse]
  | c :: rest =>
    match skip with
    | k + 1 => splitHyphens (c :: part) k rest
    | 0 =>
      if c = '-'.toNat && !rest.isEmpty then part.reverse :: splitHyphens [] 2 rest
      else splitHyphens (c :: part) 0 rest

/-- The chunks of a set: between the last character of one and the first of the next lies a
range. -/
def chunks (set : CodePoints) : List CodePoints :=
  splitHyphens [] (if set.head? == some '!'.toNat then 2 else 1) set

/-- Joins the chunks between which the range is empty, from the right. -/
def dropEmptyRanges : List CodePoints → List CodePoints
  | [] => []
  | part :: rest =>
    match dropEmptyRanges rest with
    | [] => [part]
    | next :: more =>
      match part.getLast?, next.head? with
      | some a, some b => if b < a then (part.dropLast ++ next.tail) :: more else part :: next :: more
      | _, _ => part :: next :: more

/-- The ranges that the chunks write. -/
def ranges : List CodePoints → List Range
  | [] => []
  | [part] => part.map fun c => ⟨c, c⟩
  | part :: next :: more =>
    part.map (fun c => ⟨c, c⟩) ++
      (match part.getLast?, next.head? with
        | some a, some b => [⟨a, b⟩]
        | _, _ => []) ++ ranges (next :: more)

/-- The characters that a set does not let pass, given its chunks after the exclamation mark. A hyphen
right behind the mark stands for itself. -/
def complement (part : CodePoints) (more : List CodePoints) : Item :=
  match part, more with
  | [], [] => .any
  | [], more => .set true (⟨'-'.toNat, '-'.toNat⟩ :: ranges more)
  | part, more => .set true (ranges (part :: more))

/-- The item that a set in brackets stands for. Its front is looked at without the empty ranges. -/
def setItem (set : CodePoints) : Item :=
  match if set.contains '-'.toNat then dropEmptyRanges (chunks set) else [set] with
  | [] => .set false []
  | part :: more =>
    match takeFront '!' part with
    | ([], part) => .set false (ranges (part :: more))
    | (_, part) => complement part more

/-- The items of a pattern. The length of the pattern bounds their number. -/
def itemsOf : Nat → CodePoints → List Item
  | 0, _ => []
  | _ + 1, [] => []
  | fuel + 1, c :: rest =>
    if c = '*'.toNat then .star :: itemsOf fuel rest
    else if c = '?'.toNat then .any :: itemsOf fuel rest
    else if c = '['.toNat then
      match splitSet rest with
      | some (set, rest) => setItem set :: itemsOf fuel rest
      | none => .char c :: itemsOf fuel rest
    else .char c :: itemsOf fuel rest

def Item.accepts (c : Nat) : Item → Bool
  | .star => true
  | .any => true
  | .char d => c == d
  | .set negated rs => rs.any (fun r => r.first ≤ c && c ≤ r.last) != negated

def matchItems : List Item → CodePoints → Bool
  | [], cs => cs.isEmpty
  | .star :: items, cs => starMatch (matchItems items) cs
  | item :: items, cs =>
    match cs with
    | [] => false
    | c :: rest => item.accepts c && matchItems items rest
where
  /-- Whether some end of a text satisfies `p`. -/
  starMatch (p : CodePoints → Bool) : CodePoints → Bool
    | [] => p []
    | c :: rest => p (c :: rest) || starMatch p rest

/-- Whether a name is of a pattern. -/
def isMatch (pattern name : CodePoints) : Bool := matchItems (itemsOf pattern.length pattern) name

end Walkthrough.Glob
