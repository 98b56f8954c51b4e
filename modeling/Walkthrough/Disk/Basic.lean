import Walkthrough.Assoc
import Walkthrough.Disk.Path
import Walkthrough.Fault
import Walkthrough.Text.Utf8

/-!
A disk: directories and files under one root, and the working directory. A path is followed part by
part from one of the two, every part but the last being a directory; what goes wrong is a
`Disk.Refusal`.
-/

namespace Walkthrough

inductive Disk.Entry
  | directory
  | file (bytes : List UInt8)
  deriving DecidableEq, Repr, Inhabited

/-- The entries by the names that lead to them. The root is a directory of its own. -/
structure Disk where
  entries : List (List (List Char) × Disk.Entry) := []
  /-- The place of the working directory. -/
  cwd : List (List Char) := []
  deriving DecidableEq, Repr, Inhabited

namespace Disk

/-- Why the disk refuses a request. -/
inductive Refusal
  | missing
  | exists
  | notDirectory
  | isDirectory
  | nameTooLong
  /-- A path with the character zero in it. -/
  | nullByte
  deriving DecidableEq, Repr

/-- The text of a refusal without the path. -/
def Refusal.text : Refusal → String
  | .missing => "[Errno 2] No such file or directory"
  | .exists => "[Errno 17] File exists"
  | .notDirectory => "[Errno 20] Not a directory"
  | .isDirectory => "[Errno 21] Is a directory"
  | .nameTooLong => "[Errno 36] File name too long"
  | .nullByte => "embedded null byte"

def Refusal.kind : Refusal → ForeignKind
  | .missing => .fileNotFound
  | .exists => .fileExists
  | .notDirectory => .notADirectory
  | .isDirectory => .isADirectory
  | .nameTooLong => .os
  | .nullByte => .value

/-- The refusal of a request about a path. -/
def Refusal.about (r : Refusal) (path : String) : Foreign :=
  match r with
  | .nullByte => ⟨r.kind, r.text⟩
  | _ => ⟨r.kind, r.text ++ ": " ++ Text.quoted path⟩

/-- The bytes a name may have. -/
def nameLimit : Nat := 255

/-- The bytes a path may have. -/
def pathLimit : Nat := 4095

def byteCount (cs : List Char) : Nat := (Text.Utf8.encode (Text.points cs)).length

def get? (d : Disk) (place : List (List Char)) : Option Entry :=
  if place.isEmpty then some .directory else Assoc.get? place d.entries

def put (d : Disk) (place : List (List Char)) (entry : Entry) : Disk :=
  { d with entries := Assoc.put place entry d.entries }

/-- Follows the parts of a path from a place: where it ends, and what is there. The last part alone
may be missing. -/
def follow (d : Disk) (place : List (List Char)) :
    List (List Char) → Except Refusal (List (List Char) × Option Entry)
  | [] => .ok (place, d.get? place)
  | part :: rest =>
    match d.get? place with
    | none => .error .missing
    | some (.file _) => .error .notDirectory
    | some .directory =>
      if part.isEmpty || part = ['.'] then d.follow place rest
      else if part = ['.', '.'] then d.follow place.dropLast rest
      else if nameLimit < byteCount part then .error .nameTooLong
      else d.follow (place ++ [part]) rest

/-- The parts of a path, and whether a slash stands at its end. -/
def partsOf (path : List Char) : List (List Char) × Bool :=
  (((Text.splitOnChar '/' (Path.dropSlashes path)).filter (fun part => !part.isEmpty)),
    path.getLast? == some '/')

/-- The place that a path begins at. -/
def start (d : Disk) (path : List Char) : List (List Char) :=
  if path.head? = some '/' then [] else d.cwd

/-- Where a path leads, and what is there. -/
def locate (d : Disk) (path : List Char) : Except Refusal (List (List Char) × Option Entry) :=
  if path.contains '\x00' then .error .nullByte
  else if path.isEmpty then .error .missing
  else if pathLimit < byteCount path then .error .nameTooLong
  else d.follow (d.start path) (partsOf path).1

/-- What is at a path. -/
def stat (d : Disk) (path : List Char) : Except Refusal Entry :=
  match d.locate path with
  | .error r => .error r
  | .ok (_, none) => .error .missing
  | .ok (_, some .directory) => .ok .directory
  | .ok (_, some (.file bytes)) =>
    if (partsOf path).2 then .error .notDirectory else .ok (.file bytes)

/-- Whether something is at a path. -/
def contains (d : Disk) (path : List Char) : Bool := (d.stat path).isOk

def isDirectory (d : Disk) (path : List Char) : Bool :=
  match d.stat path with
  | .ok .directory => true
  | _ => false

/-- Makes one directory in a directory that is there. -/
def makeDirectory (d : Disk) (path : List Char) : Except Refusal Disk :=
  match d.locate path with
  | .error r => .error r
  | .ok (_, some _) => .error .exists
  | .ok (place, none) => .ok (d.put place .directory)

/-- Makes a directory that may be there already. -/
def ensureDirectory (d : Disk) (path : List Char) : Except (Refusal × List Char) Disk :=
  match d.makeDirectory path with
  | .ok d => .ok d
  | .error r => if d.isDirectory path then .ok d else .error (r, path)

/-- Makes a directory and those above it as far as they are not there. What was made stays if a
later one is refused. The fuel bounds the parts of the path. -/
def ensureAll (d : Disk) : Nat → List Char → Except (Refusal × List Char) Unit × Disk
  | 0, path => (.error (.missing, path), d)
  | fuel + 1, path =>
    let (head, tail) := Path.split path
    let (head, tail) := if tail.isEmpty then Path.split head else (head, tail)
    let last := fun (d : Disk) =>
      match d.ensureDirectory path with
      | .ok d => (.ok (), d)
      | .error e => (.error e, d)
    if !head.isEmpty && !tail.isEmpty && !d.contains head then
      match d.ensureAll fuel head with
      | (.error (.exists, _), d) | (.ok (), d) => if tail = ['.'] then (.ok (), d) else last d
      | (.error e, d) => (.error e, d)
    else last d

/-- Where a file of this path is or would be. -/
def placeOfFile (d : Disk) (path : List Char) : Except Refusal (List (List Char) × List UInt8) :=
  match d.locate path with
  | .error r => .error r
  | .ok (_, some .directory) => .error .isDirectory
  | .ok (place, some (.file bytes)) =>
    if (partsOf path).2 then .error .notDirectory else .ok (place, bytes)
  | .ok (place, none) => if (partsOf path).2 then .error .isDirectory else .ok (place, [])

/-- Writes a file, replacing what it held. -/
def write (d : Disk) (path : List Char) (bytes : List UInt8) : Except Refusal Disk :=
  (d.placeOfFile path).map fun (place, _) => d.put place (.file bytes)

/-- Writes at the end of a file. -/
def append (d : Disk) (path : List Char) (bytes : List UInt8) : Except Refusal Disk :=
  (d.placeOfFile path).map fun (place, old) => d.put place (.file (old ++ bytes))

def read (d : Disk) (path : List Char) : Except Refusal (List UInt8) :=
  match d.stat path with
  | .error r => .error r
  | .ok .directory => .error .isDirectory
  | .ok (.file bytes) => .ok bytes

/-- The names of the regular files in a directory. -/
def filesIn (d : Disk) (path : List Char) : Except Refusal (List (List Char)) :=
  match d.locate path with
  | .error r => .error r
  | .ok (_, none) => .error .missing
  | .ok (_, some (.file _)) => .error .notDirectory
  | .ok (place, some .directory) =>
    .ok (d.entries.filterMap fun (p, entry) =>
      match entry with
      | .file _ => if p.dropLast = place then p.getLast? else none
      | .directory => none)

/-- The path of the working directory. -/
def workingDirectory (d : Disk) : String := String.ofList ('/' :: ['/'].intercalate d.cwd)

end Disk

end Walkthrough
