import Walkthrough.Json.Writer
import Walkthrough.Scenario.Format
import Walkthrough.Service.Address
import Walkthrough.Text.LetterCase

/-!
The service that checks scenario texts: where a request goes, what the service asks of its body, and
the replies.
-/

namespace Walkthrough

/-- What is wrong with the body of a request, and where. -/
structure BodyFault where
  kind : String
  location : List String
  message : String
  deriving DecidableEq, Repr

namespace BodyFault

def missing (location : List String) : BodyFault := ⟨"missing", location, "Field required"⟩

def notText (location : List String) : BodyFault :=
  ⟨"string_type", location, "Input should be a valid string"⟩

def notFormat (location : List String) : BodyFault :=
  ⟨"literal_error", location, "Input should be 'dsl', 'json' or 'yaml'"⟩

def notObject (location : List String) : BodyFault :=
  ⟨"model_attributes_type", location,
    "Input should be a valid dictionary or object to extract fields from"⟩

def toData (f : BodyFault) : Data :=
  .map [(.text "type", .text f.kind), (.text "loc", .list (f.location.map .text)),
    (.text "msg", .text f.message)]

end BodyFault

/-- What a text is said to hold. -/
inductive Verdict
  | valid (scenario : Scenario)
  | invalid (error : String)
  deriving DecidableEq, Repr

inductive Reply
  | verdict (v : Verdict)
  | document (d : Data)
  /-- The body of the request is not what it should be. -/
  | refused (faults : List BodyFault)
  | notFound
  | notAllowed

namespace Reply

def status : Reply → Nat
  | verdict _ | document _ => 200
  | refused _ => 422
  | notFound => 404
  | notAllowed => 405

def detail (d : Data) : Data := .map [(.text "detail", d)]

def body : Reply → Data
  | verdict (.valid s) =>
    .map [(.text "valid", .bool true), (.text "errors", .list []), (.text "scenario", s.summary)]
  | verdict (.invalid error) =>
    .map [(.text "valid", .bool false), (.text "errors", .list [.text error]),
      (.text "scenario", .null)]
  | document d => d
  | refused faults => detail (.list (faults.map BodyFault.toData))
  | notFound => detail (.text "Not Found")
  | notAllowed => detail (.text "Method Not Allowed")

end Reply

/-- A scenario that shows every kind of action. -/
def Scenario.sample : Scenario where
  host := "https://www.google.com"
  features := [("DUMMY_FEATURE", ⟨"DUMMY_FEATURE", false, [("store", "N/A")]⟩)]
  pages :=
    [⟨"Search", .enter (some "Search") (some "playwright"), [⟨"Search", ""⟩]⟩,
      ⟨"Results", .click (some "Images"), []⟩,
      ⟨"Login", .submit [("Username", some "demo"), ("Password", some "secret")], []⟩]

namespace Service

/-- The text to check. -/
def contentOf (entries : List (Data × Data)) : Except BodyFault String :=
  match Data.lookup "content" entries with
  | none => .error (.missing ["body", "content"])
  | some (.text s) => .ok s
  | some _ => .error (.notText ["body", "content"])

/-- The form of the text to check. -/
def formatOf (entries : List (Data × Data)) : Except BodyFault Format :=
  match Data.lookup "format" entries with
  | none => .ok .json
  | some (.text s) =>
    match Format.ofName? s with
    | some f => .ok f
    | none => .error (.notFormat ["body", "format"])
  | some _ => .error (.notFormat ["body", "format"])

/-- The text of a request and its form, or all that is wrong with the body. -/
def readBody (body : Data) : Except (List BodyFault) (String × Format) :=
  match body with
  | .null => .error [.missing ["body"]]
  | .map entries =>
    match contentOf entries, formatOf entries with
    | .ok content, .ok format => .ok (content, format)
    | .error e, .ok _ => .error [e]
    | .ok _, .error e => .error [e]
    | .error e, .error f => .error [e, f]
  | _ => .error [.notObject ["body"]]

/-- Checks a text. Only a failure that says nothing of the text is one of the service. -/
def judge [StackRoom] (content : String) (format : Format) : Except Fault Verdict :=
  match Scenario.ofText format content (some "<request>") with
  | .ok s => .ok (.valid s)
  | .error (.format message place) => .ok (.invalid (Fault.format message place).message)
  | .error (.foreign f) =>
    if f.kind == .value then .ok (.invalid f.message) else .error (.foreign f)
  | .error fault => .error fault

def validate [StackRoom] (body : Data) : Except Fault Reply :=
  match readBody body with
  | .error faults => .ok (.refused faults)
  | .ok (content, format) => (judge content format).map .verdict

/-- What the service has at its paths. -/
inductive Place
  /-- Checks the text in a request. -/
  | check
  /-- Shows a scenario. -/
  | sample
  /-- A page about the service, for people. -/
  | page
  deriving DecidableEq, Repr

def places : List (String × Place) :=
  [("/openapi.json", .page), ("/docs", .page), ("/docs/oauth2-redirect", .page), ("/redoc", .page),
    ("/scenarios/validate", .check), ("/scenarios/schema-example", .sample)]

/-- The place at a path. Slashes at its end do not count, nor does a line break before them. -/
def placeAt? (path : List Char) : Option Place :=
  let path := (path.reverse.dropWhile (· == '/')).reverse
  (places.find? fun (name, _) => path = name.toList || path = name.toList ++ ['\n']).map (·.2)

/-- Refuses a value that cannot be sent: with numbers that JSON has no form for, or with surrogates. -/
def checkSendable (d : Data) : Except Foreign Unit :=
  if !Json.isFinite d then .error ⟨.value, "Out of range float values are not JSON compliant"⟩
  else match Text.Utf8.encodeText (Json.writeCompact d) with
    | .error u => .error ⟨.encoding, u.message⟩
    | .ok _ => .ok ()

/-- A reply whose text is no value, seen after `blanks` blanks of a line behind `breaks` line
breaks. -/
def noValue (breaks blanks : Nat) : Fault :=
  .foreign ⟨.reply, "Expecting value: line " ++ toString (breaks + 1) ++ " column " ++
    toString (blanks + 1) ++ " (char " ++ toString (breaks + blanks) ++ ")"⟩

/-- The reply of a place. -/
def replyAt [StackRoom] (method : String) (body : Data) : Option Place → Except Fault Reply
  | none => .ok .notFound
  | some .check => if method = "POST" then validate body else .ok .notAllowed
  | some .sample =>
    if method = "GET" then .ok (.document Scenario.sample.summary) else .ok .notAllowed
  | some .page => if method = "GET" then .error (noValue 1 4) else .ok .notAllowed

/-- The reply to a request, its method in either letter case. Where only the head of the reply is asked
for there is no value. -/
def reply [StackRoom] (method address : String) (body : Data) : Except Fault Reply := do
  let target ← (do
    let address ← Address.read address
    checkSendable body
    address.checkServed
    return address.target).mapError Fault.foreign
  let method := Text.inCapitals method
  let reply ← replyAt method body (placeAt? target)
  (checkSendable reply.body).mapError Fault.foreign
  if method = "HEAD" then throw (noValue 0 0)
  return reply

end Service

end Walkthrough
