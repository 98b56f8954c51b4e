import Walkthrough.Assoc
import Walkthrough.Number.Shortest
import Walkthrough.Text.CodePoints

/-!
Values of documents, as JSON and YAML write them: scalars, dates, lists and maps whose keys are
values themselves. Maps keep the order of insertion.
-/

namespace Walkthrough

/-- How deep lists and maps may stand in one another where a text is read. A reader that runs out of the
stack of its caller gives up; how much there is left is the caller's affair. It is enough for the lines
that a run logs, each of them an object with lists in it. -/
class StackRoom where
  json : Nat
  yaml : Nat
  two_le_json : 2 ≤ json

/-- What a program leaves that does little else than read. -/
instance : StackRoom := ⟨986, 489, by decide⟩

structure Date where
  year : Nat
  month : Nat
  day : Nat
  deriving DecidableEq, Repr

/-- A date with a time of day and, if it was written, the distance from universal time in seconds. -/
structure Moment where
  date : Date
  hour : Nat
  minute : Nat
  second : Nat
  microsecond : Nat
  offset : Option Int
  deriving DecidableEq, Repr

inductive Data
  | null
  | bool (b : Bool)
  | int (n : Int)
  | float (x : Binary64)
  | text (s : String)
  | bytes (bs : List UInt8)
  | date (d : Date)
  | moment (m : Moment)
  | list (items : List Data)
  | group (items : List Data)
  | pair (first second : Data)
  | map (entries : List (Data × Data))
  deriving Inhabited

/-- Days since the first of March of the year zero. -/
def Date.dayNumber (d : Date) : Int :=
  let y : Int := if d.month ≤ 2 then (d.year : Int) - 1 else d.year
  let m : Int := ((d.month : Int) + 9) % 12
  y * 365 + y / 4 - y / 100 + y / 400 + (153 * m + 2) / 5 + d.day

/-- Microseconds on the scale of the moment's own clock, or of universal time if it has an offset. -/
def Moment.instant (m : Moment) : Int :=
  (((m.date.dayNumber * 24 + m.hour) * 60 + m.minute) * 60 + m.second - m.offset.getD 0) * 1000000 +
    m.microsecond

namespace Data

/-- A truth value or number by what it counts; truth values count as one and zero. -/
def number? : Data → Option (Int ⊕ Binary64)
  | .bool b => some (.inl (if b then 1 else 0))
  | .int n => some (.inl n)
  | .float x => match x.toInt? with
    | some n => some (.inl n)
    | none => some (.inr x)
  | _ => none

/-- Whether two scalars are one key of a map. Numbers are by their value, moments by their instant;
a NaN is no key twice. -/
def sameKey (a b : Data) : Bool :=
  match a.number?, b.number? with
  | some (.inl m), some (.inl n) => m == n
  | some (.inr x), some (.inr y) => x.equal y
  | some _, _ => false
  | _, some _ => false
  | none, none =>
    match a, b with
    | .null, .null => true
    | .text s, .text t => s == t
    | .bytes s, .bytes t => s == t
    | .date s, .date t => s == t
    | .moment s, .moment t => s.offset.isSome == t.offset.isSome && s.instant == t.instant
    | _, _ => false

/-- The map that a list of entries gives, a later entry replacing the value of an earlier key. -/
def mapOf (es : List (Data × Data)) : Data :=
  .map (es.foldl (fun m e => Assoc.putBy sameKey e.1 e.2 m) [])

/-- The different values of a list, in the order of their first occurrence. -/
def groupOf (ks : List Data) : Data :=
  .group ((ks.foldl (fun m k => Assoc.putBy sameKey k () m) []).map Prod.fst)

/-- The value of a text key. -/
def lookup (key : String) : List (Data × Data) → Option Data
  | [] => none
  | (.text k, v) :: rest => if k == key then some v else lookup key rest
  | _ :: rest => lookup key rest

end Data

end Walkthrough
