import Walkthrough.CommandLine.Commands
import Walkthrough.Proofs.Json.Newlines
import Walkthrough.Proofs.Run.Suites
import Walkthrough.Proofs.Scenario.Refusals
import Walkthrough.Proofs.Script.Consistency
import Walkthrough.Proofs.Text.Utf8
import Walkthrough.Scenario.Load
import Walkthrough.Service

/-! Texts and files that hold them. Reading a file makes line feeds of its line ends, and neither a script nor
a document says anything else for that (`Scenario.load_alike`). So the command that checks files, a batch of
files and the service that checks texts find the same scenarios. -/

namespace Walkthrough

open Text

/-- The text stands in the file at the path, as UTF-8. -/
def Disk.Stores (d : Disk) (path text : String) : Prop :=
  ∃ bytes, Utf8.encodeText text = .ok bytes ∧ d.stat (Path.tidy path.toList) = .ok (.file bytes)

namespace Scenario

/-- Two readings of one script: a scenario, or faults with one message that point to one line. -/
inductive AlikeScript : Except Fault Scenario → Except Fault Scenario → Prop
  | ok (s : Scenario) : AlikeScript (.ok s) (.ok s)
  | fault (message : String) (line : Option Int) (source source' : Option String) :
    AlikeScript (.error (.format message { line := line, source := source }))
      (.error (.format message { line := line, source := source' }))

/-- Two readings of one text: a scenario, or two faults of the format, or a failure that is none. -/
inductive Alike : Except Fault Scenario → Except Fault Scenario → Prop
  | ok (s : Scenario) : Alike (.ok s) (.ok s)
  | fault (message message' : String) (place place' : Place) :
    Alike (.error (.format message place)) (.error (.format message' place'))
  | failure (failure : Foreign) : Alike (.error (.foreign failure)) (.error (.foreign failure))

/-- What the check of a file and the check of a text find: one scenario in either, or faults in either, or a
failure that neither of them reports. -/
inductive SameVerdict (path : String) : Except Fault Validation → Except Fault Verdict → Prop
  | valid (s : Scenario) : SameVerdict path (.ok (.valid path s)) (.ok (.valid s))
  | invalid (message message' : String) :
    SameVerdict path (.ok (.invalid path message)) (.ok (.invalid message'))
  | failure (failure : Foreign) : SameVerdict path (.error (.foreign failure)) (.error (.foreign failure))

variable {d : Disk} {path text : String} {s : Scenario} {read read' : Except Fault Scenario}

theorem AlikeScript.alike (h : AlikeScript read read') : Alike read read' := by
  cases h with
  | ok s => exact .ok s
  | fault => exact .fault _ _ _ _

theorem Alike.eq_ok_iff (h : Alike read read') : read = .ok s ↔ read' = .ok s := by
  cases h with
  | ok => exact Iff.rfl
  | fault | failure => exact iff_of_false nofun nofun

/-- What is read from a file is its text with line feeds only. -/
theorem readSource_of_stores (proper : Text.Proper text) (stored : d.Stores path text) :
    ∃ source, readSource d path = .ok source ∧ source.toList = unifyNewlines text.toList := by
  obtain ⟨cs, rfl⟩ := proper
  obtain ⟨bytes, encoded, there⟩ := stored
  obtain ⟨-, rfl⟩ := Utf8.encodeText_eq_ok_iff.mp encoded
  rw [points_ofChars] at there
  refine ⟨ofChars (unifyNewlines cs), ?_, toList_ofChars_unifyNewlines cs⟩
  unfold readSource
  dsimp only
  rw [there]
  dsimp only
  rw [Utf8.decode_encode]

/-- A script has the same lines. -/
theorem alikeScript_ofText [StackRoom] {source : String} (h : source.toList = unifyNewlines text.toList)
    (name name' : Option String) :
    AlikeScript (ofText .script source name) (ofText .script text name') := by
  have same : Script.parse source.toList = Script.parse text.toList := by
    rw [Script.parse, Script.parse, Script.significantLines, Script.significantLines, h,
      lines_unifyNewlines]
  unfold ofText
  dsimp only
  rw [same]
  cases read : Script.parse text.toList with
  | ok s => exact .ok s
  | error stop =>
    obtain ⟨cause, line, rfl⟩ := Script.clean_parse text.toList stop read
    exact .fault _ _ _ _

theorem alike_ofData (data : Data) (name name' : String) :
    Alike ((ofData data).mapError (Fault.withSource name))
      ((ofData data).mapError (Fault.withSource name')) := by
  rw [ofData]
  cases described : Document.scenarioOf data with
  | ok s => exact .ok s
  | error r =>
    show Alike (.error (r.toFault.withSource name)) (.error (r.toFault.withSource name'))
    rcases Document.format_or_overlong_of_refused described with ⟨message, path, eq⟩ | ⟨rfl, -⟩
    · rw [eq]
      exact .fault _ _ _ _
    · exact .failure _

/-- A document writes the same value. -/
theorem alike_ofText_json [StackRoom] {source : String} (h : source.toList = unifyNewlines text.toList)
    (name name' : Option String) : Alike (ofText .json source name) (ofText .json text name') := by
  have same := Json.read_unifyNewlines text.toList
  unfold ofText ofJson
  dsimp only
  rw [h]
  generalize Json.read text.toList = r at same ⊢
  generalize Json.read (unifyNewlines text.toList) = r' at same ⊢
  cases same with
  | ok data => exact alike_ofData data _ _
  | malformed => exact .fault _ _ _ _
  | limit fault =>
    cases fault with
    | malformed => exact .fault _ _ _ _
    | tooManyDigits | tooDeep => exact .failure _

theorem sameVerdict_of_alike [StackRoom] {format : Format}
    (h : Alike (load d path) (ofText format text (some "<request>"))) :
    SameVerdict path (CommandLine.validateFile d path) (Service.judge text format) := by
  unfold CommandLine.validateFile Service.judge
  generalize load d path = read at h ⊢
  generalize ofText format text (some "<request>") = read' at h ⊢
  cases h with
  | ok s => exact .valid s
  | fault => exact .invalid _ _
  | failure failure =>
    show SameVerdict path (if failure.kind == .value then _ else _)
      (if failure.kind == .value then _ else _)
    split
    · exact .invalid _ _
    · exact .failure failure

theorem judge_eq_valid_iff [StackRoom] {format : Format} : Service.judge text format = .ok (.valid s) ↔
    ofText format text (some "<request>") = .ok s := by
  unfold Service.judge
  split
  · next eq => rw [eq]; simp
  · next eq => rw [eq]; simp
  · next eq => rw [eq]; split <;> simp
  · next eq => rw [eq]; simp

/-- A text and a file that holds it are read alike, where there is the same room for both. -/
theorem load_alike [StackRoom] {d : Disk} {path text : String} (proper : Text.Proper text)
    (stored : d.Stores path text) (name : Option String) :
    (Format.ofPath path = .script → AlikeScript (load d path) (ofText .script text name)) ∧
      (Format.ofPath path = .json → Alike (load d path) (ofText .json text name)) ∧
      (Format.ofPath path ≠ .yaml →
        SameVerdict path (CommandLine.validateFile d path) (Service.judge text (Format.ofPath path)) ∧
        ∀ {π η : Type} (suite : Suite π η) (scene : Suite.Journal π), scene.disk = d →
          (∀ s, (Suite.loadFile path scene).1 = .ok s ↔
            Service.judge text (Format.ofPath path) = .ok (.valid s)) ∧
          ∃ result t events, suite.runFile path scene = (.ok result, t) ∧
            t.page = scene.page ++ events ∧
            (events ≠ [] ↔ ∃ s, Service.judge text (Format.ofPath path) = .ok (.valid s))) := by
  obtain ⟨source, read, same⟩ := readSource_of_stores proper stored
  have file : load d path = ofText (Format.ofPath path) source (some path) := by rw [load, read]
  have alike (known : Format.ofPath path ≠ .yaml) (name : Option String) :
      Alike (load d path) (ofText (Format.ofPath path) text name) := by
    rw [file]
    cases format : Format.ofPath path with
    | script => exact (alikeScript_ofText same _ _).alike
    | json => exact alike_ofText_json same _ _
    | yaml => exact absurd format known
  refine ⟨fun script => ?_, fun json => json ▸ alike (by rw [json]; decide) name, fun known =>
    ⟨sameVerdict_of_alike (alike known _), fun suite scene there => ?_⟩⟩
  · rw [file, script]
    exact alikeScript_ofText same _ _
  have valid (s) : load d path = .ok s ↔ Service.judge text (Format.ofPath path) = .ok (.valid s) :=
    (alike known _).eq_ok_iff.trans judge_eq_valid_iff.symm
  refine ⟨fun s => by rw [← valid, ← there]; rfl, ?_⟩
  obtain ⟨_, _, _, _, events, t, fares, ran, journal⟩ := suite.exists_fares path scene
  refine ⟨_, t, events, ran, journal, ?_⟩
  rw [← not_iff_not, not_not, fares.events_eq_nil_iff, there]
  simp only [← valid]
  cases load d path <;> simp

/-- A script with line ends of three kinds. -/
def mixedScript : String := "Host: http://h\r\nPage P\raction:\ntype: Click\r\ntarget: Go"

/-- A document with line ends of three kinds. -/
def mixedDocument : String := "\x7b\"host\":\r\n\"http://h\",\r\"pages\":\n[]\x7d"

/-- A disk with a file for each of them. -/
def mixedTexts : Disk where
  entries := [(["a.dsl".toList], .file (Utf8.encode (mixedScript.toList.map Char.toNat))),
    (["a.json".toList], .file (Utf8.encode (mixedDocument.toList.map Char.toNat)))]

theorem load_alike_mixed :
    Text.Proper mixedScript ∧ mixedTexts.Stores "/a.dsl" mixedScript ∧
      Text.Proper mixedDocument ∧ mixedTexts.Stores "/a.json" mixedDocument ∧
      load mixedTexts "/a.dsl" = .ok ⟨"http://h", [], [⟨"P", .click (some "Go"), []⟩]⟩ ∧
      load mixedTexts "/a.json" = .ok ⟨"http://h", [], []⟩ ∧
      AlikeScript (load mixedTexts "/a.dsl") (ofText .script mixedScript none) ∧
      Alike (load mixedTexts "/a.json") (ofText .json mixedDocument none) ∧
      SameVerdict "/a.dsl" (CommandLine.validateFile mixedTexts "/a.dsl")
        (Service.judge mixedScript .script) := by
  have script : Text.Proper mixedScript := .literal (by decide +kernel)
  have document : Text.Proper mixedDocument := .literal (by decide +kernel)
  have scriptStored : mixedTexts.Stores "/a.dsl" mixedScript := ⟨_, by rfl, by decide +kernel⟩
  have documentStored : mixedTexts.Stores "/a.json" mixedDocument := ⟨_, by rfl, by decide +kernel⟩
  have scriptAlike := load_alike script scriptStored none
  have documentAlike := load_alike document documentStored none
  exact ⟨script, scriptStored, document, documentStored, by decide +kernel, by decide +kernel,
    scriptAlike.1 (by decide), documentAlike.2.1 (by decide), (scriptAlike.2.2 (by decide)).1⟩

end Scenario

end Walkthrough
