/-!
Maps in insertion order, as lists of pairs. `put` gives a key its value: a key that is there keeps
its place, a new one goes to the end.
-/

namespace Walkthrough.Assoc

variable {κ α : Type}

/-- Gives `k` the value `a` in a list whose keys are told apart by `same`; the spelling of a key that
is there stays. -/
def putBy (same : κ → κ → Bool) (k : κ) (a : α) : List (κ × α) → List (κ × α)
  | [] => [(k, a)]
  | (k', a') :: rest => if same k' k then (k', a) :: rest else (k', a') :: putBy same k a rest

variable [DecidableEq κ]

def put (k : κ) (a : α) : List (κ × α) → List (κ × α)
  | [] => [(k, a)]
  | (k', a') :: rest => if k' = k then (k', a) :: rest else (k', a') :: put k a rest

def get? (k : κ) : List (κ × α) → Option α
  | [] => none
  | (k', a) :: rest => if k' = k then some a else get? k rest

def contains (k : κ) (es : List (κ × α)) : Bool := (get? k es).isSome

def erase (k : κ) (es : List (κ × α)) : List (κ × α) := es.filter (fun e => e.1 ≠ k)

/-- The map that a list of pairs gives when they are put one after the other. -/
def ofPairs (es : List (κ × α)) : List (κ × α) := es.foldl (fun m e => put e.1 e.2 m) []

/-- Two maps with the same keys and values, whatever their order. -/
def sameEntries [DecidableEq α] (m n : List (κ × α)) : Bool :=
  m.length == n.length && m.all (fun e => get? e.1 n == some e.2)

end Walkthrough.Assoc
