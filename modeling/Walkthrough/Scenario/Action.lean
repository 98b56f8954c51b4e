import Walkthrough.Data.Display
import Walkthrough.Text.Blank
import Walkthrough.Fault

/-!
The three things a page can be asked to do, and `Action.build`, which makes an action out of the
entries that every scenario format gives for it. `Action.buildAt` is the same with its faults told as
faults at a place.
-/

namespace Walkthrough

inductive ActionType
  | click
  | enter
  | submit
  deriving DecidableEq, Repr

def ActionType.name : ActionType → String
  | .click => "Click"
  | .enter => "Enter"
  | .submit => "Submit"

def ActionType.all : List ActionType := [.click, .enter, .submit]

def ActionType.ofName? (name : String) : Option ActionType :=
  ActionType.all.find? (fun t => t.name == name)

/-- An action. A text that is `none` was left open: such actions are only made by hand, and the
strategies decide what becomes of them. -/
inductive Action
  | click (target : Option String)
  | enter (field value : Option String)
  | submit (fields : List (String × Option String))
  deriving DecidableEq, Repr

def Action.type : Action → ActionType
  | .click _ => .click
  | .enter .. => .enter
  | .submit _ => .submit

/-- The same action, the fields of a submission compared without their order. -/
def Action.same : Action → Action → Bool
  | .submit fs, .submit gs => Assoc.sameEntries fs gs
  | a, b => a == b

/-- Why entries make no action. -/
inductive ActionFault
  | noType
  | unknownType (shown : String)
  | missing (type : ActionType) (key : String)
  | notText (type : ActionType) (key : String)
  | blank (type : ActionType) (key : String)
  | fieldsNotMap
  | blankFieldName
  | fieldNotText (name : String)
  deriving DecidableEq, Repr

def ActionFault.message : ActionFault → String
  | .noType => "Action type is missing"
  | .unknownType shown =>
    "Unknown action type '" ++ shown ++ "'. Supported types: " ++
      ", ".intercalate (ActionType.all.map ActionType.name)
  | .missing type key => type.name ++ " action requires '" ++ key ++ "'"
  | .notText type key => type.name ++ " action '" ++ key ++ "' must be a string"
  | .blank type key => type.name ++ " action '" ++ key ++ "' cannot be empty"
  | .fieldsNotMap => "Submit action 'fields' must be a mapping of field name to value"
  | .blankFieldName => "Submit action field names cannot be empty"
  | .fieldNotText name => "Submit action field '" ++ name ++ "' must have a string value"

namespace Action

/-- The text of an entry that must be there. -/
def requiredText (type : ActionType) (key : String) (allowBlank : Bool)
    (entries : List (Data × Data)) : Except ActionFault String :=
  match Data.lookup key entries with
  | none | some .null => .error (.missing type key)
  | some (.text s) => if !allowBlank && Text.isBlankText s then .error (.blank type key) else .ok s
  | some _ => .error (.notText type key)

/-- The fields of a submission: names that are not blank, with texts. -/
def submitFields : List (Data × Data) → Except ActionFault (List (String × Option String))
  | [] => .ok []
  | (.text name, value) :: rest =>
    if Text.isBlankText name then .error .blankFieldName
    else match value with
      | .text s => (submitFields rest).map ((name, some s) :: ·)
      | _ => .error (.fieldNotText name)
  | _ :: _ => .error .blankFieldName

/-- The action of a given type; entries it has no use for are left aside. -/
def ofType (type : ActionType) (entries : List (Data × Data)) : Except ActionFault Action :=
  match type with
  | .click => do
    let target ← requiredText .click "target" false entries
    return .click (some target)
  | .enter => do
    let field ← requiredText .enter "targetField" false entries
    let value ← requiredText .enter "value" true entries
    return .enter (some field) (some value)
  | .submit =>
    match Data.lookup "fields" entries with
    | none | some .null => .ok (.submit [])
    | some (.map fields) => (submitFields fields).map .submit
    | some _ => .error .fieldsNotMap

/-- The type that a value names. -/
def typeOf (value : Data) : Except ActionFault ActionType :=
  match value with
  | .null => .error .noType
  | .text s =>
    if Text.isBlankText s then .error .noType
    else match ActionType.ofName? s with
      | some type => .ok type
      | none => .error (.unknownType s)
  | other => .error (.unknownType other.plain)

/-- The action that a type and its entries describe. -/
def build (type : Data) (entries : List (Data × Data)) : Except ActionFault Action := do
  ofType (← typeOf type) entries

/-- The action that a type and its entries describe, or the fault at the place where they stand. A type
that is unknown is shown in its fault, which an overlong integer in it prevents. -/
def buildAt (place : Place) (type : Data) (entries : List (Data × Data)) : Except Fault Action :=
  match build type entries with
  | .ok action => .ok action
  | .error cause =>
    if type.hasOverlong then .error (.foreign ⟨.value, Number.overlongText⟩)
    else .error (.format cause.message place)

end Action

end Walkthrough
