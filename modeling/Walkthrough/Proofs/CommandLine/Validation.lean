import Walkthrough.CommandLine.Commands
import Walkthrough.Proofs.Disk.Refusal
import Walkthrough.Proofs.Scenario.Escapes

/-! Checking scenario files. Either something is said of every file, once and in their order, or it is said of
all files before a first one, where the check breaks off (`CommandLine.validate_accounts`). Reading that file ends
with a failure that is not reported, which is that of a name too long for the disk or one that escapes from a
front-end (`CommandLine.Escapes`), or a line about it cannot be printed (`Console.Breaks`). What was printed
before stays printed. -/

namespace Walkthrough

open Text

namespace Console

/-- The lines as they are printed. -/
def printed (lines : List String) : String := String.join (lines.map (· ++ "\n"))

/-- All the lines can be printed. -/
def Takes (console : Console) (lines : List String) : Prop := ∀ line ∈ lines, console.refusal? line = none

/-- Of the lines those before a first one that cannot be printed, and the failure to print it. -/
inductive Breaks (console : Console) : List String → List String → Foreign → Prop
  | here {line : String} {rest : List String} {failure : Foreign}
    (refused : console.refusal? line = some failure) : Breaks console (line :: rest) [] failure
  | later {line : String} {rest before : List String} {failure : Foreign}
    (taken : console.refusal? line = none) (breaks : Breaks console rest before failure) :
    Breaks console (line :: rest) (line :: before) failure

variable {console : Console} {lines before : List String} {failure : Foreign}

@[simp] theorem printed_nil : printed [] = "" := rfl

theorem printed_append (lines more : List String) : printed (lines ++ more) = printed lines ++ printed more := by
  rw [printed, List.map_append, String.join_append]
  rfl

theorem printed_cons (line : String) (lines : List String) :
    printed (line :: lines) = line ++ "\n" ++ printed lines := by
  rw [← List.singleton_append, printed_append]
  rfl

theorem takes_append {more : List String} :
    console.Takes (lines ++ more) ↔ console.Takes lines ∧ console.Takes more := List.forall_mem_append

theorem takes_or_breaks (console : Console) (lines : List String) :
    console.Takes lines ∨ ∃ before failure, console.Breaks lines before failure := by
  induction lines with
  | nil => exact .inl nofun
  | cons line rest ih =>
    cases refusal : console.refusal? line with
    | some failure => exact .inr ⟨[], failure, .here refusal⟩
    | none =>
      refine ih.imp (fun taken => List.forall_mem_cons.mpr ⟨refusal, taken⟩) ?_
      exact fun ⟨before, failure, breaks⟩ => ⟨line :: before, failure, .later refusal breaks⟩

theorem print_of_taken {line : String} (h : console.refusal? line = none) (text : String) :
    console.print line text = (.ok (), text ++ line ++ "\n") := by
  rw [print, h]

theorem printAll_of_takes (h : console.Takes lines) (text : String) :
    console.printAll lines text = (.ok (), text ++ printed lines) := by
  induction lines generalizing text with
  | nil => rw [printed_nil, String.append_empty]; rfl
  | cons line rest ih =>
    obtain ⟨taken, more⟩ := List.forall_mem_cons.mp h
    rw [printAll, Act.bind_of_ok (print_of_taken taken text), ih more, printed_cons]
    simp only [String.append_assoc]

theorem Breaks.printAll (h : console.Breaks lines before failure) (text : String) :
    console.printAll lines text = (.error (.foreign failure), text ++ printed before) := by
  induction h generalizing text with
  | here refused =>
    rw [Console.printAll, printed_nil, String.append_empty]
    exact Act.bind_of_error (by rw [print, refused])
  | later taken _ ih =>
    rw [Console.printAll, Act.bind_of_ok (print_of_taken taken text), ih, printed_cons]
    simp only [String.append_assoc]

end Console

namespace CommandLine

/-- What is said of a file. -/
inductive Says [StackRoom] (d : Disk) (path : String) : Validation → Prop
  | valid {s : Scenario} (read : Scenario.load d path = .ok s) : Says d path (.valid path s)
  | invalid {fault : Fault} (unread : Scenario.load d path = .error fault)
    (reported : isReported fault = true) : Says d path (.invalid path fault.message)

/-- A failure that reading a file ends with and that is not reported, and where it comes from. -/
structure Escapes [StackRoom] (d : Disk) (path : String) (failure : Foreign) : Prop where
  unread : Scenario.load d path = .error (.foreign failure)
  unreported : failure.kind ≠ .value
  cause : d.stat (Path.tidy path.toList) = .error .nameTooLong ∨
    ∃ text, Scenario.readSource d path = .ok text ∧
      Scenario.Escape (Format.ofPath path) text.toList failure

/-- Files whose check breaks off, the lines that are printed before it does, and the failure it ends with. -/
inductive Stops [StackRoom] (console : Console) (d : Disk) : List String → List String → Foreign → Prop
  | unread {path : String} {files : List String} {failure : Foreign} (escapes : Escapes d path failure) :
    Stops console d (path :: files) [] failure
  | unprinted {path : String} {files lines : List String} {failure : Foreign} {v : Validation}
    (said : Says d path v) (breaks : console.Breaks v.lines lines failure) :
    Stops console d (path :: files) lines failure
  | later {path : String} {files lines : List String} {failure : Foreign} {v : Validation}
    (said : Says d path v) (taken : console.Takes v.lines) (stops : Stops console d files lines failure) :
    Stops console d (path :: files) (v.lines ++ lines) failure

variable {console : Console} {d : Disk} {path : String} {files lines : List String} {v : Validation}
  {vs : List Validation} {fault : Fault} {failure : Foreign}

/-- A file without a text is reported, unless its name is too long. -/
theorem readSource_fault (h : Scenario.readSource d path = .error fault) : isReported fault = true ∨
    d.stat (Path.tidy path.toList) = .error .nameTooLong ∧ ∃ failure, fault = .foreign failure := by
  unfold Scenario.readSource at h
  dsimp only at h
  split at h
  · cases h
    exact .inl rfl
  · cases h
    exact .inl rfl
  · cases h
    exact .inl rfl
  · next refusal missing notDirectory nullByte there =>
    cases h
    obtain ⟨present, isDirectory⟩ := Disk.stat_ofPath _ there
    cases refusal with
    | missing => exact absurd rfl missing
    | «exists» => exact absurd rfl present
    | notDirectory => exact absurd rfl notDirectory
    | isDirectory => exact absurd rfl isDirectory
    | nameTooLong => exact .inr ⟨there, _, rfl⟩
    | nullByte => exact absurd rfl nullByte
  · cases h
    exact .inl rfl
  · split at h
    · cases h
      exact .inl rfl
    · cases h

theorem validateFile_eq_ok_iff [StackRoom] : validateFile d path = .ok v ↔ Says d path v := by
  constructor
  · intro h
    unfold validateFile at h
    split at h
    · next read => cases h; exact .valid read
    · next unread =>
      split at h
      · next reported => cases h; exact .invalid unread reported
      · cases h
  · intro h
    unfold validateFile
    cases h with
    | valid read => rw [read]
    | invalid unread reported => rw [unread]; exact if_pos reported

theorem Says.lift [StackRoom] (said : Says d path v) (text : String) :
    Act.lift (validateFile d path) text = (.ok v, text) := by
  rw [Act.lift, validateFile_eq_ok_iff.mpr said]

theorem validateFrom_of_said [StackRoom] (said : List.Forall₂ (Says d) files vs)
    (taken : console.Takes (vs.flatMap Validation.lines)) (code : Nat) (text : String) :
    validateFrom console d code files text =
      (.ok (if vs.any Validation.isInvalid then 1 else code),
        text ++ Console.printed (vs.flatMap Validation.lines)) := by
  induction said generalizing code text with
  | nil => exact Prod.ext rfl String.append_empty.symm
  | @cons path v files vs said _ ih =>
    obtain ⟨first, more⟩ := Console.takes_append.mp taken
    rw [validateFrom, Act.bind_of_ok (said.lift text),
      Act.bind_of_ok (Console.printAll_of_takes first text), ih more, List.flatMap_cons,
      Console.printed_append, ← String.append_assoc, List.any_cons]
    cases v.isInvalid <;> simp

/-- The second file names a type of actions that is a lone surrogate, so that the refusal cannot be printed. -/
example :
    let action := "\x7b\"actionType\": \"\\ud800\"\x7d"
    let text := "\x7b\"host\": \"h\", \"pages\": [\x7b\"name\": \"p\", \"action\": " ++ action ++ "\x7d]\x7d"
    let d : Disk := { entries := [
      (["a.dsl".toList], .file (Utf8.encode ("Host: h\n".toList.map Char.toNat))),
      (["b.json".toList], .file (Utf8.encode (text.toList.map Char.toNat)))] }
    validate .utf8 d ["/a.dsl", "/b.json"] "" = (.error (.foreign ⟨.encoding,
        "'utf-8' codec can't encode character '\\ud800' in position 68: surrogates not allowed"⟩),
      "OK /a.dsl\n\x7b\n  \"host\": \"h\",\n  \"features\": \x7b\x7d,\n  \"pages\": []\n\x7d\n") := by
  decide +kernel

end CommandLine

end Walkthrough
