import Walkthrough.Run.Perform

/-!
Strategies perform the actions of one type each. A registry keeps the first strategy of every type
and passes an action to the one of its type.
-/

namespace Walkthrough

structure Strategy (π η : Type) where
  /-- The strategy as messages name it. -/
  name : String
  /-- The type of the actions it performs, if it declares one. -/
  type : Option ActionType
  perform : Resolver π η → Action → Hook π η → Act (Scene π) Outcome

namespace Strategy

variable {π η : Type}

/-- A strategy was given an action of another type. -/
def mismatch (name : String) : Act (Scene π) Outcome :=
  Act.fail (.foreign ⟨.attribute, name ++ " cannot perform the action"⟩)

def click : Strategy π η where
  name := "ClickStrategy"
  type := some .click
  perform r action hook :=
    match action with
    | .click target => Perform.click r hook target
    | _ => mismatch "ClickStrategy"

def enter (options : EnterOptions) : Strategy π η where
  name := "EnterStrategy"
  type := some .enter
  perform r action hook :=
    match action with
    | .enter field value => Perform.enter options r hook field value
    | _ => mismatch "EnterStrategy"

def submit : Strategy π η where
  name := "SubmitStrategy"
  type := some .submit
  perform r action hook :=
    match action with
    | .submit fields => Perform.submit r hook fields
    | _ => mismatch "SubmitStrategy"

/-- A strategy that declares no type and performs nothing. -/
def typeless (name : String) : Strategy π η where
  name := name
  type := none
  perform _ _ _ := mismatch name

/-- A strategy for each type of action. -/
def standard (options : EnterOptions) : List (Strategy π η) := [click, enter options, submit]

end Strategy

/-- What a dispatch is asked for: an action, or a value that is none. -/
inductive Request
  | action (a : Action)
  | stray (value : Data)

/-- The action that is asked for. A value that is none is shown in the failure, which an overlong
integer in it prevents. -/
def Request.action? : Request → Except Foreign Action
  | .action a => .ok a
  | .stray value =>
    if value.hasOverlong then .error ⟨.value, Number.overlongText⟩
    else .error ⟨.type, "Not an action: " ++ value.display⟩

/-- The first strategy of every type, in the order they were given. -/
structure Registry (π η : Type) where
  strategies : List (ActionType × Strategy π η)

namespace Registry

variable {π η : Type}

/-- Adds strategies to those of a registry. -/
def addAll (kept : List (ActionType × Strategy π η)) :
    List (Strategy π η) → Act (Scene π) (List (ActionType × Strategy π η))
  | [] => return kept
  | s :: rest =>
    match s.type with
    | none => Act.fail (.registry (s.name ++ " declares no action type"))
    | some type => do
      if Assoc.contains type kept then
        Scene.say .warning .perform
          ("duplicate strategy for " ++ type.name ++ " ignored: " ++ s.name)
        addAll kept rest
      else addAll (kept ++ [(type, s)]) rest

/-- The registry of a list of strategies, of which each declares a type and at least one is
there. -/
def build (strategies : List (Strategy π η)) : Act (Scene π) (Registry π η) := do
  let kept ← addAll [] strategies
  if kept.isEmpty then Act.fail (.registry "Action strategy registry has no strategies")
  else return ⟨kept⟩

def types (r : Registry π η) : List ActionType := r.strategies.map Prod.fst

/-- Performs what is asked for with the strategy of its type. -/
def dispatch (registry : Registry π η) (resolver : Resolver π η) (request : Request)
    (hook : Hook π η) : Act (Scene π) Outcome :=
  match request.action? with
  | .error failure => Act.fail (.foreign failure)
  | .ok action =>
    match Assoc.get? action.type registry.strategies with
    | none => Act.fail (.noStrategy action.type.name (some (registry.types.map ActionType.name)))
    | some strategy => do
      Scene.say .debug .perform ("dispatching " ++ action.type.name ++ " via " ++ strategy.name)
      strategy.perform resolver action hook

end Registry

end Walkthrough
