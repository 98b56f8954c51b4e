import Walkthrough.Fault

/-!
Steps that act on a state and may fail. What a step did before it failed stays done.
-/

namespace Walkthrough

/-- A step on a state of type `σ` that gives an `α` or fails. -/
def Act (σ α : Type) : Type := σ → Except Fault α × σ

namespace Act

variable {σ α β : Type}

instance : Monad (Act σ) where
  pure a := fun s => (.ok a, s)
  bind act next := fun s =>
    match act s with
    | (.ok a, s) => next a s
    | (.error fault, s) => (.error fault, s)

@[simp] theorem pure_apply (a : α) (s : σ) : (pure a : Act σ α) s = (.ok a, s) := rfl

theorem bind_apply (act : Act σ α) (next : α → Act σ β) (s : σ) :
    (act >>= next) s = match act s with
      | (.ok a, s) => next a s
      | (.error fault, s) => (.error fault, s) := rfl

def fail (fault : Fault) : Act σ α := fun s => (.error fault, s)

/-- The step's outcome as a value; this never fails. -/
def attempt (act : Act σ α) : Act σ (Except Fault α) := fun s =>
  let (outcome, s) := act s
  (.ok outcome, s)

/-- The step with its fault, if it fails, replaced. -/
def mapFault (f : Fault → Fault) (act : Act σ α) : Act σ α := fun s =>
  let (outcome, s) := act s
  (outcome.mapError f, s)

def lift (outcome : Except Fault α) : Act σ α := fun s => (outcome, s)

def get : Act σ σ := fun s => (.ok s, s)

def modify (f : σ → σ) : Act σ Unit := fun s => (.ok (), f s)

theorem get_bind_apply (next : σ → Act σ α) (s : σ) : (get >>= next) s = next s s := rfl

@[simp] theorem attempt_apply (act : Act σ α) (s : σ) :
    act.attempt s = (.ok (act s).1, (act s).2) := rfl

end Act

end Walkthrough
