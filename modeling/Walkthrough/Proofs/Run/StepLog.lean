import Walkthrough.Proofs.Json.RoundTrip
import Walkthrough.Proofs.Run.Untold

/-! The log of a run tells what became of its pages. Where it can be written, a run adds one line for each page
that it begins and records, and each line is read as the members of the entry that was written
(`Runner.run_stepLog`). Nothing else that a run does changes what the file holds. -/

namespace Walkthrough

open Text

variable {π η : Type}

/-! ## Entries as lines -/

theorem Number.isOverlong_of_le {m n : Nat} (h : m ≤ n) (short : isOverlong n = false) :
    isOverlong m = false := by
  rw [isOverlong, decide_eq_false_iff_not, Int.natAbs_natCast] at short ⊢
  generalize Nat.pow 10 digitLimit = bound at short ⊢
  omega

theorem Number.isOverlong_of_lt {n digits : Nat} (h : n < 10 ^ digits) (few : digits ≤ digitLimit) :
    isOverlong n = false := by
  rw [isOverlong, decide_eq_false_iff_not, Int.natAbs_natCast]
  generalize digitLimit = limit at few ⊢
  exact fun long => Nat.not_le.mpr h ((Nat.pow_le_pow_right (by decide) few).trans long)

theorem Number.isOverlong_toNat (n : UInt64) : isOverlong n.toNat = false :=
  isOverlong_of_lt (n.toNat_lt.trans (by decide : 2 ^ 64 < 10 ^ 20)) (by decide)

namespace StepEntry

/-- The entry as it stands in the log. -/
def line (e : StepEntry) : List Char := (Json.write e.toData).toList

/-- The lines of entries, each with its end. -/
def lines (entries : List StepEntry) : List Char := entries.flatMap fun e => e.line ++ ['\n']

theorem lines_cons (e : StepEntry) (entries : List StepEntry) :
    lines (e :: entries) = e.line ++ ['\n'] ++ lines entries := List.flatMap_cons ..

theorem lines_singleton (e : StepEntry) : lines [e] = e.line ++ ['\n'] := List.flatMap_singleton ..

/-- The number of the page is not too long to be read. -/
abbrev Short (e : StepEntry) : Prop := Number.isOverlong e.index = false

variable {e : StepEntry} {entries : List StepEntry}

/-- The members of the object that the entry is written as. -/
def members (e : StepEntry) : List (String × Data) :=
  [("i", .int e.index), ("page", .text e.page), ("status", .text (if e.passed then "PASSED" else "FAILED")),
    ("duration_ms", .int e.milliseconds.toNat), ("warnings", .list (e.warnings.map .text))] ++
    (e.error.map fun text => ("error", Data.text text)).toList

theorem toData_eq (e : StepEntry) : e.toData = .object e.members := by
  rw [toData, Data.object, Data.members, members, List.map_append]
  cases e.error with
  | none => rfl
  | some text => rfl

theorem plain_toData (h : e.Short) (depth : Nat) : e.toData.Plain (depth + 2) := by
  rw [toData_eq]
  refine .object ?_ ?_
  · rw [members]
    cases e.error with
    | none =>
      show ["i", "page", "status", "duration_ms", "warnings"].Nodup
      decide
    | some text =>
      show ["i", "page", "status", "duration_ms", "warnings", "error"].Nodup
      decide
  · intro f hf
    rw [members, List.mem_append] at hf
    rcases hf with hf | hf
    · simp only [List.mem_cons, List.not_mem_nil, or_false] at hf
      obtain rfl | rfl | rfl | rfl | rfl := hf
      · exact .int h
      · exact .text _
      · exact .text _
      · exact .int (Number.isOverlong_toNat _)
      · exact .list fun d hd => by
          obtain ⟨text, -, rfl⟩ := List.mem_map.mp hd
          exact .text text
    · obtain ⟨text, -, rfl⟩ := Option.map_eq_some_iff.mp (Option.mem_toList.mp hf)
      exact .text text

theorem read_line [StackRoom] (h : e.Short) : Json.read e.line = .ok (.object e.members) := by
  obtain ⟨depth, room⟩ := Nat.exists_eq_add_of_le' StackRoom.two_le_json
  rw [← toData_eq]
  exact Json.read_write (room ▸ plain_toData h depth)

/-- Behind the end of the last line stands nothing. -/
theorem splitOnChar_lines (h : ∀ e ∈ entries, e.Short) :
    splitOnChar '\n' (lines entries) = entries.map line ++ [[]] := by
  induction entries with
  | nil => rfl
  | cons e entries ih =>
    obtain ⟨short, rest⟩ := List.forall_mem_cons.mp h
    have one : '\n' ∉ e.line := Json.not_mem_write (plain_toData short 0)
    rw [lines_cons, List.append_assoc, List.singleton_append, splitOnChar_append,
      splitOnChar_of_not_mem one, ih rest]
    rfl

end StepEntry

/-- From one disk to the other entries were added to the file at a place. Behind what the file held stands a
text in UTF-8, and its lines are read one by one as objects with the members of the entries. -/
def StepEntry.Added [StackRoom] (entries : List StepEntry) (place : List (List Char)) (d d' : Disk) : Prop :=
  ∃ (added : List UInt8) (cs : List Char) (text : String) (lines : List (List Char)),
    d'.bytesAt place = d.bytesAt place ++ added ∧
    Utf8.decode added = .ok cs ∧ cs.map Char.toNat = points text.toList ∧
    splitOnChar '\n' text.toList = lines ++ [[]] ∧
    List.Forall₂ (fun line e => Json.read line = .ok (.object e.members)) lines entries

theorem StepEntry.added_of_encodeText [StackRoom] {entries : List StepEntry} {place : List (List Char)}
    {d d' : Disk} {added : List UInt8} (held : d'.bytesAt place = d.bytesAt place ++ added)
    (written : Utf8.encodeText (String.ofList (lines entries)) = .ok added) (h : ∀ e ∈ entries, e.Short) :
    Added entries place d d' := by
  obtain ⟨cs, decoded, same⟩ := Utf8.decode_of_encodeText written
  refine ⟨added, cs, _, entries.map line, held, decoded, same, ?_, ?_⟩
  · rw [String.toList_ofList, splitOnChar_lines h]
  · rw [List.forall₂_map_left_iff, List.forall₂_same]
    exact fun e he => read_line (h e he)

/-! ## Writing an entry -/

/-- The log of a run in the directory can be written: the directory is there or can be made, and the file can
be opened. -/
def Scene.Opens (directory : String) (s : Scene π) : Prop :=
  ((do ensureDirectory directory; appendText (joinPath directory stepLogName) "" : Act (Scene π) Unit) s).1 =
    .ok ()

namespace Scene

variable {path text : String} {s : Scene π} {disk : Disk} {bytes : List UInt8}

theorem appendText_of_encodeText (encoded : Utf8.encodeText text = .ok bytes)
    (written : s.disk.append path.toList bytes = .ok disk) :
    appendText path text s = (.ok (), { s with disk := disk }) := by
  have all : Utf8.encodeTexts [text] = (bytes, none) := by
    rw [Utf8.encodeTexts, encoded]
    exact congrArg (·, none) (List.append_nil bytes)
  have change : onDisk path (fun d => d.append path.toList bytes) s = (.ok (), { s with disk := disk }) := by
    rw [onDisk, written]
  rw [appendText, all]
  exact Act.bind_of_ok change

/-- Of a text that cannot be written nothing is. -/
theorem appendText_of_unwritable {u : Utf8.Unwritable} (encoded : Utf8.encodeText text = .error u)
    (written : s.disk.append path.toList [] = .ok disk) :
    appendText path text s = (.error (.foreign ⟨.encoding, u.message⟩), { s with disk := disk }) := by
  have all : Utf8.encodeTexts [text] = ([], some u) := by
    rw [Utf8.encodeTexts, encoded]
  have change : onDisk path (fun d => d.append path.toList []) s = (.ok (), { s with disk := disk }) := by
    rw [onDisk, written]
  rw [appendText, all]
  exact Act.bind_of_ok change

theorem exists_append_of_appendText (h : (appendText path "" s).1 = .ok ()) :
    ∃ disk, s.disk.append path.toList [] = .ok disk := by
  cases appended : s.disk.append path.toList [] with
  | ok disk => exact ⟨disk, rfl⟩
  | error refusal =>
    have change : onDisk path (fun d => d.append path.toList []) s =
        (.error (.foreign (refusal.about path)), s) := by
      rw [onDisk, appended]
    have failed : appendText path "" s = _ := Act.bind_of_error change
    rw [failed] at h
    cases h

end Scene

/-- Where the log of a run in the directory is kept, seen from the working directory. -/
def Run.logPlace (cwd : List (List Char)) (directory : String) : List (List Char) :=
  filePlace cwd directory stepLogName

theorem Disk.filing_sameAt (cwd place : List (List Char)) :
    Filing (SeenFrom cwd (SameAt place)) (Scene.At cwd (· ≠ place)) :=
  filing_seenFrom cwd sameAt_ensureAll (fun other h => sameAt_write h other) fun other h => sameAt_append h other

theorem Disk.filing_stays : Filing Stays fun _ => True where
  ensure := stays_ensureAll
  write _ h := stays_write h
  append _ h := stays_append h

/-- The directory of a run is there, and its log is. -/
structure Scene.HasLog (directory : String) (s : Scene π) : Prop where
  above : ∃ parent name, Path.split directory.toList = (parent, name) ∧ name ≠ [] ∧
    s.disk.isDirectory parent = true
  there : s.disk.isDirectory directory.toList = true
  log : ∃ bytes, s.disk.stat (joinPath directory stepLogName).toList = .ok (.file bytes)

/-- A log that is there can be written ever after. -/
theorem Scene.HasLog.opens {directory : String} {s t : Scene π} (h : s.HasLog directory)
    (stays : s.Disks Disk.Stays t) : t.Opens directory := by
  obtain ⟨parent, name, parted, named, above⟩ := h.above
  obtain ⟨bytes, there⟩ := h.log
  obtain ⟨disk, appended⟩ := Disk.Stays.exists_append stays there []
  have made : Scene.ensureDirectory directory t = (.ok (), t) := by
    rw [ensureDirectory, Disk.ensureAll_of_isDirectory parted named (Disk.Stays.isDirectory stays above)
      (Disk.Stays.isDirectory stays h.there)]
  have empty : Utf8.encodeText "" = .ok [] := rfl
  rw [Opens, Act.bind_of_ok made, appendText_of_encodeText empty appended]

namespace Run

variable {cwd : List (List Char)} {directory : String} {s : Scene π}

/-- The log of a run in the directory holds the same in both scenes, seen from the working directory. -/
abbrev SameLog (cwd : List (List Char)) (directory : String) (s t : Scene π) : Prop :=
  s.Disks (Disk.SeenFrom cwd (Disk.SameAt (logPlace cwd directory))) t

/-- The lines of some entries are added to the log from one scene to the other. -/
def Adds (cwd : List (List Char)) (directory : String) (entries : List StepEntry) (s t : Scene π) : Prop :=
  ∃ added, t.disk.bytesAt (logPlace cwd directory) = s.disk.bytesAt (logPlace cwd directory) ++ added ∧
    Utf8.encodeText (String.ofList (StepEntry.lines entries)) = .ok added

theorem SameLog.bytesAt_eq {t : Scene π} (h : SameLog cwd directory s t) (seen : s.disk.cwd = cwd) :
    t.disk.bytesAt (logPlace cwd directory) = s.disk.bytesAt (logPlace cwd directory) := (h seen).2

theorem SameLog.adds_nil {t : Scene π} (h : SameLog cwd directory s t) (seen : s.disk.cwd = cwd) :
    Adds cwd directory [] s t :=
  ⟨[], (h.bytesAt_eq seen).trans (List.append_nil _).symm, rfl⟩

/-- What leaves the log alone may come before. -/
theorem SameLog.adds {t u : Scene π} {entries : List StepEntry} (h : SameLog cwd directory s t)
    (seen : s.disk.cwd = cwd) (adds : Adds cwd directory entries t u) : Adds cwd directory entries s u := by
  obtain ⟨added, held, encoded⟩ := adds
  rw [h.bytesAt_eq seen] at held
  exact ⟨added, held, encoded⟩

theorem Adds.cons {t u : Scene π} {entry : StepEntry} {entries : List StepEntry}
    (first : Adds cwd directory [entry] s t) (rest : Adds cwd directory entries t u) :
    Adds cwd directory (entry :: entries) s u := by
  obtain ⟨added, held, encoded⟩ := first
  obtain ⟨more, held', encoded'⟩ := rest
  rw [StepEntry.lines_singleton] at encoded
  have whole := Utf8.encodeText_append (by decide) encoded encoded'
  rw [← StepEntry.lines_cons] at whole
  rw [held, List.append_assoc] at held'
  exact ⟨added ++ more, held', whole⟩

/-- A file of another name is elsewhere, in whatever directory it is. -/
theorem insideBut_logPlace (cwd : List (List Char)) (directory other : String) :
    InsideBut stepLogName (Scene.At cwd (· ≠ logPlace cwd directory)) other := by
  intro name isName apart same
  exact apart ((filePlace_inj isName (by decide)).mp same).2

theorem namedDirectory_some (h : directory ≠ "") : namedDirectory (some directory) = some directory := by
  unfold namedDirectory
  split
  · next none => cases none
  · next empty =>
    cases empty
    exact absurd rfl h
  · next same => rw [← same]

/-- Where the log can be written its directory is there or is made, and opening it changes nothing in it. -/
theorem exists_opened (h : s.Opens directory) (cwd : List (List Char)) : ∃ s₁ disk,
    Scene.ensureDirectory directory s = (.ok (), s₁) ∧
      s₁.disk.append (joinPath directory stepLogName).toList [] = .ok disk ∧ SameLog cwd directory s s₁ := by
  rcases Act.bind_cases (Scene.ensureDirectory directory)
    (fun _ => Scene.appendText (joinPath directory stepLogName) "") s with
    ⟨fault, t, -, eq⟩ | ⟨_, s₁, made, eq⟩
  · rw [Scene.Opens, eq] at h
    cases h
  · rw [Scene.Opens, eq] at h
    obtain ⟨disk, appended⟩ := Scene.exists_append_of_appendText h
    exact ⟨s₁, disk, made, appended,
      ((Scene.filing_disks (Disk.filing_sameAt _ _)).ensure directory).of_apply made⟩

/-- Where the log can be written an entry is added to it, unless it cannot be encoded: then the fault of that
comes out, and nothing is added. -/
theorem logStep_cases (named : directory ≠ "") (h : s.Opens directory) (seen : s.disk.cwd = cwd)
    (entry : StepEntry) :
    (∃ t, logStep (some directory) entry s = (.ok (), t) ∧ t.disk.cwd = cwd ∧ Adds cwd directory [entry] s t) ∨
    ∃ fault t, logStep (some directory) entry s = (.error fault, t) ∧ SameLog cwd directory s t := by
  obtain ⟨s₁, disk, made, appended, kept⟩ := exists_opened h cwd
  obtain ⟨seen₁, same⟩ := kept seen
  have text : Json.write entry.toData ++ "\n" = String.ofList (StepEntry.lines [entry]) := by
    rw [StepEntry.lines_singleton, StepEntry.line, String.ofList_append, String.ofList_toList]
  rw [logStep, namedDirectory_some named]
  dsimp only
  rw [text, Act.bind_apply, Act.attempt_apply, Act.bind_of_ok made]
  cases encoded : Utf8.encodeText (String.ofList (StepEntry.lines [entry])) with
  | error u =>
    have nothing := Disk.bytesAt_append appended
    rw [List.append_nil, seen₁] at nothing
    rw [Scene.appendText_of_unwritable encoded appended]
    exact .inr ⟨_, _, rfl, fun _ => ⟨(Disk.cwd_of_placeOfFile appended).trans seen₁, nothing.trans same⟩⟩
  | ok added =>
    obtain ⟨disk', written⟩ := Disk.exists_append appended added
    have held := Disk.bytesAt_append written
    rw [seen₁] at held
    rw [Scene.appendText_of_encodeText encoded written]
    exact .inl ⟨_, rfl, (Disk.cwd_of_placeOfFile written).trans seen₁, kept.adds seen ⟨added, held, encoded⟩⟩

/-- An entry that is logged is added to the log. -/
theorem adds_of_logStep {entry : StepEntry} {u : Unit} {t : Scene π} (named : directory ≠ "")
    (h : s.Opens directory) (seen : s.disk.cwd = cwd)
    (logged : logStep (some directory) entry s = (.ok u, t)) :
    t.disk.cwd = cwd ∧ Adds cwd directory [entry] s t := by
  rcases logStep_cases named h seen entry with ⟨t', written, adds⟩ | ⟨fault, t', written, -⟩
  · cases written.symm.trans logged
    exact adds
  · cases written.symm.trans logged

/-- Where an entry is not logged nothing is. -/
theorem sameLog_of_logStep {entry : StepEntry} {fault : Fault} {t : Scene π} (named : directory ≠ "")
    (h : s.Opens directory) (seen : s.disk.cwd = cwd)
    (lost : logStep (some directory) entry s = (.error fault, t)) : SameLog cwd directory s t := by
  rcases logStep_cases named h seen entry with ⟨t', written, -⟩ | ⟨fault', t', written, same⟩
  · cases written.symm.trans lost
  · cases written.symm.trans lost
    exact same

/-- What is done about a page that failed before it is entered in the log. -/
def keepEvidence (b : Browser π η) (name : String) (directory : Option String) (index : Nat) (page : String)
    (fault : Fault) : Act (Scene π) Unit := do
  Scene.say .error .run ("page " ++ toString index ++ " (" ++ page ++ ") of " ++ name ++
    " failed: " ++ fault.message)
  match namedDirectory directory with
  | none => pure ()
  | some directory =>
    let _ ← Evidence.collect b directory ⟨index, page, some fault⟩

theorem recordFailure_eq (took : Scene π → UInt64) (b : Browser π η) (name : String)
    (directory : Option String) (index : Nat) (page : String) (fault : Fault) :
    recordFailure took b name directory index page fault = (do
      keepEvidence b name directory index page fault
      logStep directory ⟨index, page, false, took (← Act.get), [], some fault.message⟩) := by
  unfold recordFailure keepEvidence
  rw [Act.bind_assoc]
  refine congrArg _ (funext fun _ => ?_)
  cases namedDirectory directory with
  | none => rfl
  | some d =>
    dsimp only
    rw [Act.bind_assoc]
    rfl

theorem keeps_keepEvidence {R : Scene π → Scene π → Prop} [IsPreorder (Scene π) R] {file : String → Prop}
    {b : Browser π η} (h : b.Recording R file) {directory : Option String}
    (hd : ∀ d ∈ namedDirectory directory, InsideBut stepLogName file d) (name : String) (index : Nat)
    (page : String) (fault : Fault) : Act.Keeps R (keepEvidence b name directory index page fault) := by
  refine .bind (h.say _ _ _) fun _ => ?_
  split
  · exact .pure
  · next d named => exact .bind (Evidence.keeps_collect h (hd d named) _) fun _ => .pure

/-! What is said of a page that failed, if keeping evidence leaves the log alone. -/

section Failure

variable {took : Scene π → UInt64} {b : Browser π η} {name page : String} {index : Nat} {fault : Fault}
  {t : Scene π} (named : directory ≠ "") (seen : s.disk.cwd = cwd)
  (evidence : Act.Keeps (SameLog cwd directory) (keepEvidence b name (some directory) index page fault))
  (opens : ∀ t, keepEvidence b name (some directory) index page fault s = (.ok (), t) → t.Opens directory)

include named seen evidence opens

theorem adds_of_recordFailure {u : Unit}
    (recorded : recordFailure took b name (some directory) index page fault s = (.ok u, t)) :
    ∃ milliseconds, Adds cwd directory [⟨index, page, false, milliseconds, [], some fault.message⟩] s t := by
  rw [recordFailure_eq] at recorded
  obtain ⟨_, s₁, kept, logged⟩ := Act.exists_of_bind_eq_ok recorded
  rw [Act.get_bind_apply] at logged
  have same : SameLog cwd directory s s₁ := evidence.of_apply kept
  exact ⟨took s₁, same.adds seen (adds_of_logStep named (opens s₁ kept) (same seen).1 logged).2⟩

theorem sameLog_of_recordFailure {fault' : Fault}
    (lost : recordFailure took b name (some directory) index page fault s = (.error fault', t)) :
    SameLog cwd directory s t := by
  rw [recordFailure_eq] at lost
  rcases Act.cases_of_bind_eq_error lost with unkept | ⟨_, s₁, kept, unlogged⟩
  · exact evidence.of_apply unkept
  · rw [Act.get_bind_apply] at unlogged
    have same : SameLog cwd directory s s₁ := evidence.of_apply kept
    exact trans_of _ same (sameLog_of_logStep named (opens s₁ kept) (same seen).1 unlogged)

end Failure

section Pages

variable (runner : Runner π η) (r : Resolver π η) (host name : String) (directory : Option String)

/-- The scenes in which the pages of a run are entered in its log, from number `index` on. -/
inductive Logs : Nat → Scene π → List Turn → Scene π → Prop
  | passed {index : Nat} {s t : Scene π} {turn : Turn} {rest : List Turn} {outcome : Outcome}
      (passed : runPage runner r host index turn s = (.ok outcome, t)) : Logs index s (turn :: rest) t
  | failed {index : Nat} {s s₁ t : Scene π} {turn : Turn} {rest : List Turn} {fault : Fault}
      (failed : runPage runner r host index turn s = (.error fault, s₁))
      (kept : keepEvidence r.browser name directory index turn.page fault s₁ = (.ok (), t)) :
      Logs index s (turn :: rest) t
  | later {index : Nat} {s s₁ s₂ t : Scene π} {turn : Turn} {rest : List Turn} {outcome : Outcome}
      {said : List LogEntry} (passed : runPage runner r host index turn s = (.ok outcome, s₁))
      (logged : logStep directory
        ⟨index, turn.page, true, runner.stopwatch.took s s₁, outcome.warnings, none⟩ s₁ = (.ok (), s₂))
      (next : Logs (index + 1) { s₂ with log := s₂.log ++ said } rest t) : Logs index s (turn :: rest) t

end Pages

/-- What the disk keeps in the pages and in their records it keeps up to every scene in which one is entered. -/
theorem Logs.disks {R : Disk → Disk → Prop} [IsPreorder Disk R] {runner : Runner π η} {r : Resolver π η}
    {host name : String} {directory : Option String} {file : String → Prop}
    (recording : r.browser.Recording (Scene.Disks R) file)
    (hd : ∀ d ∈ namedDirectory directory, Inside file d)
    (page : ∀ index turn, Act.Keeps (Scene.Disks R) (runPage runner r host index turn)) {index : Nat}
    {turns : List Turn} {t : Scene π} (h : Logs runner r host name directory index s turns t) :
    s.Disks R t := by
  induction h with
  | passed passed => exact (page _ _).of_apply passed
  | @failed index s s₁ t turn rest fault failed kept =>
    have evidence := keeps_keepEvidence recording (fun d named => (hd d named).but _) name index turn.page fault
    exact trans_of _ ((page _ _).of_apply failed) (evidence.of_apply kept)
  | @later index s s₁ s₂ t turn rest outcome said passed logged _ ih =>
    have log : s₁.Disks R s₂ := (keeps_logStep recording.toFiling hd _).of_apply logged
    have said : s₂.Disks R t := ih
    exact trans_of _ ((page _ _).of_apply passed) (trans_of _ log said)

/-- What the entries of a run tell of its pages from number `index` on: `k` of them are begun, those that pass
have the warnings, and `failure` is the fault of the last one if it failed and is recorded. Of pages that are
not recorded, if there is one, there is no entry. -/
structure Chronicle (index : Nat) (pages : List String) (k : Nat) (warnings : List String) (kept : Bool)
    (failure : Option Fault) (entries : List StepEntry) : Prop where
  count : entries.length + (if kept then 0 else 1) = k
  indices : entries.map StepEntry.index = List.range' index entries.length
  pages : entries.map StepEntry.page = pages.take entries.length
  statuses : ∃ passed, entries.map (fun e => (e.passed, e.error)) =
    List.replicate passed (true, none) ++ failure.toList.map fun fault => (false, some fault.message)
  warnings : kept = true → entries.flatMap StepEntry.warnings = warnings
  unwarned : ∀ e ∈ entries, e.passed = false → e.warnings = []

namespace Chronicle

variable {index k : Nat} {pages warnings : List String} {kept : Bool} {failure : Option Fault}
  {entries : List StepEntry}

theorem nil : Chronicle index pages 0 [] true none [] where
  count := rfl
  indices := rfl
  pages := rfl
  statuses := ⟨0, rfl⟩
  warnings _ := rfl
  unwarned := nofun

theorem unrecorded (warnings : List String) : Chronicle index pages 1 warnings false none [] where
  count := rfl
  indices := rfl
  pages := rfl
  statuses := ⟨0, rfl⟩
  warnings := nofun
  unwarned := nofun

theorem failed (page : String) (took : UInt64) (fault : Fault) :
    Chronicle index (page :: pages) 1 [] true (some fault)
      [⟨index, page, false, took, [], some fault.message⟩] where
  count := rfl
  indices := rfl
  pages := rfl
  statuses := ⟨0, rfl⟩
  warnings _ := rfl
  unwarned := List.forall_mem_singleton.mpr fun _ => rfl

theorem cons (h : Chronicle (index + 1) pages k warnings kept failure entries) (page : String)
    (took : UInt64) (own : List String) :
    Chronicle index (page :: pages) (k + 1) (own ++ warnings) kept failure
      (⟨index, page, true, took, own, none⟩ :: entries) where
  count := by
    have count := h.count
    rw [List.length_cons]
    omega
  indices := by rw [List.map_cons, h.indices, List.length_cons, List.range'_succ]
  pages := by rw [List.map_cons, h.pages, List.length_cons, List.take_succ_cons]
  statuses := by
    obtain ⟨passed, statuses⟩ := h.statuses
    exact ⟨passed + 1, by rw [List.map_cons, statuses]; rfl⟩
  warnings all := by rw [List.flatMap_cons, h.warnings all]
  unwarned := List.forall_mem_cons.mpr ⟨nofun, h.unwarned⟩

end Chronicle

/-- The fault of a page that failed and is recorded, and no other, comes out of a run. -/
def IsFailure (k : Nat) (kept : Bool) (ended : Except Fault Unit) (failure : Option Fault) : Prop :=
  ∀ fault, failure = some fault ↔ 0 < k ∧ kept = true ∧ ended = .error fault

variable {runner : Runner π η} {r : Resolver π η} {host name : String} {index k : Nat} {s' : Scene π}
  {turns : List Turn} {warnings : List String} {kept : Bool} {ended : Except Fault Unit}

theorem Reaches.isFailure_succ {failure : Option Fault} {directory : Option String}
    (h : Reaches runner r host name directory index s turns k warnings kept ended s')
    (failed : IsFailure k kept ended failure) : IsFailure (k + 1) kept ended failure := by
  intro fault
  rw [failed fault]
  refine ⟨fun ⟨_, all⟩ => ⟨Nat.succ_pos k, all⟩, fun ⟨_, all, raised⟩ => ⟨?_, all, raised⟩⟩
  cases h with
  | done => cases raised
  | failed | unrecorded | unlogged | passed => exact Nat.succ_pos _

/-- The entries that a run adds to its log, if nothing else changes the file. -/
theorem Reaches.exists_entries (named : directory ≠ "") (seen : s.disk.cwd = cwd)
    (page : ∀ index turn, Act.Keeps (SameLog cwd directory) (runPage runner r host index turn))
    (evidence : ∀ index page fault, Act.Keeps (SameLog cwd directory)
      (keepEvidence r.browser name (some directory) index page fault))
    (h : Reaches runner r host name (some directory) index s turns k warnings kept ended s')
    (opens : ∀ t, Logs runner r host name (some directory) index s turns t → t.Opens directory) :
    ∃ failure entries, IsFailure k kept ended failure ∧
      Chronicle index (turns.map Turn.page) k warnings kept failure entries ∧
      Adds cwd directory entries s s' := by
  have silent {fault : Fault} : IsFailure 1 false (.error fault) none :=
    fun _ => iff_of_false nofun fun h => nomatch h.2.1
  induction h with
  | @done _ s =>
    have ended : IsFailure 0 true (.ok ()) none := fun _ => iff_of_false nofun nofun
    have same : SameLog cwd directory s s := refl_of _ s
    exact ⟨none, [], ended, .nil, same.adds_nil seen⟩
  | @failed index s s₁ s₂ turn rest fault failed recorded =>
    have first : SameLog cwd directory s s₁ := (page index turn).of_apply failed
    obtain ⟨took, adds⟩ := adds_of_recordFailure named (first seen).1 (evidence index turn.page fault)
      (fun t kept => opens t (.failed failed kept)) recorded
    have raised : IsFailure 1 true (.error fault) (some fault) := fun fault' => by simp
    exact ⟨some fault, _, raised, .failed turn.page took fault, first.adds seen adds⟩
  | @unrecorded index s s₁ s₂ turn rest fault fault' failed lost =>
    have first : SameLog cwd directory s s₁ := (page index turn).of_apply failed
    have rest : SameLog cwd directory s₁ s₂ := sameLog_of_recordFailure named (first seen).1
      (evidence index turn.page fault) (fun t kept => opens t (.failed failed kept)) lost
    have same : SameLog cwd directory s s₂ := trans_of _ first rest
    exact ⟨none, [], silent, .unrecorded [], same.adds_nil seen⟩
  | @unlogged index s s₁ s₂ turn rest outcome fault passed lost =>
    have first : SameLog cwd directory s s₁ := (page index turn).of_apply passed
    have rest : SameLog cwd directory s₁ s₂ :=
      sameLog_of_logStep named (opens s₁ (.passed passed)) (first seen).1 lost
    have same : SameLog cwd directory s s₂ := trans_of _ first rest
    exact ⟨none, [], silent, .unrecorded outcome.warnings, same.adds_nil seen⟩
  | @passed index k s s₁ s₂ s₃ turn rest outcome said warnings kept ended passed logged next ih =>
    have first : SameLog cwd directory s s₁ := (page index turn).of_apply passed
    obtain ⟨seen₂, adds⟩ := adds_of_logStep named (opens s₁ (.passed passed)) (first seen).1 logged
    obtain ⟨failure, entries, raised, tells, more⟩ :=
      ih seen₂ fun t logs => opens t (.later passed logged logs)
    exact ⟨failure, _ :: entries, next.isFailure_succ raised, tells.cons turn.page _ outcome.warnings,
      (first.adds seen adds).cons more⟩

namespace Chronicle

variable {pages : List String} {failure : Option Fault} {entries : List StepEntry}

theorem length_le (h : Chronicle index pages k warnings kept failure entries) :
    entries.length ≤ pages.length := by
  have pages := congrArg List.length h.pages
  rw [List.length_map, List.length_take] at pages
  omega

/-- The entries of a run can be read if its pages can be counted. -/
theorem short (h : Chronicle 1 pages k warnings kept failure entries)
    (few : Number.isOverlong pages.length = false) : ∀ e ∈ entries, e.Short := by
  intro e he
  have number : e.index ∈ List.range' 1 entries.length := h.indices ▸ List.mem_map_of_mem he
  have last : e.index ≤ pages.length := by
    have within := h.length_le
    rw [List.mem_range'_1] at number
    omega
  exact Number.isOverlong_of_le last few

end Chronicle

end Run

section Runner

variable {runner : Runner π η} {b : Browser π η} {scenario : Scenario} {name directory : String} {s s' : Scene π}
  {k : Nat} {warnings : List String} {kept : Bool} {ended : Except Fault Unit}

/-- The scenes in which a run enters its pages in its log. -/
def Runner.Logs (runner : Runner π η) (scenario : Scenario) (b : Browser π η) (name : String)
    (directory : Option String) (s t : Scene π) : Prop :=
  ∃ begun, runner.begin scenario name s = (.ok (), begun) ∧
    Run.Logs runner ⟨b, Lookup.all⟩ scenario.host name directory 1 begun (scenario.pages.map Page.turn) t

/-- All pages of a run that passes are recorded. -/
theorem Runner.Reaches.kept_of_ok {directory : Option String}
    (h : runner.Reaches scenario b name directory s k warnings kept (.ok ()) s') : kept = true := by
  cases h with
  | flagged _ pages =>
    cases kept with
    | true => rfl
    | false =>
      obtain ⟨fault, raised, -⟩ := pages.not_isSystem
      cases raised

variable (confined : b.Confined) (flags : ∀ features, Act.Keeps Scene.SameDisk (runner.flags features))
  (strategies : ∀ e ∈ runner.registry.strategies, e.2.Composed)

include flags

theorem Runner.disks_begin {R : Disk → Disk → Prop} [IsPreorder Disk R] :
    Act.Keeps (Scene.Disks R) (runner.begin scenario name) :=
  .bind (fun s => refl_of R s.disk) fun _ => (flags _).mono fun _ _ same => same.disks

include confined strategies

/-- If the log of a run is there before, it can be written throughout. -/
theorem Runner.Logs.opens {t : Scene π} (there : s.HasLog directory)
    (h : runner.Logs scenario b name (some directory) s t) : t.Opens directory := by
  obtain ⟨begun, flagged, logs⟩ := h
  have page := Run.disks_runPage confined Disk.filing_stays strategies runner.pictures_anywhere
    scenario.host
  have rest := logs.disks (confined.recording Disk.filing_stays) (fun _ _ _ _ => trivial) page
  exact there.opens (trans_of _ ((Runner.disks_begin flags).of_apply flagged) rest)

variable (named : directory ≠ "")
  (opens : ∀ t, runner.Logs scenario b name (some directory) s t → t.Opens directory)

include named opens

theorem Runner.Reaches.exists_entries
    (h : runner.Reaches scenario b name (some directory) s k warnings kept ended s') :
    ∃ failure entries, Run.IsFailure k kept ended failure ∧
      Run.Chronicle 1 (scenario.pages.map Page.name) k warnings kept failure entries ∧
      Run.Adds s.disk.cwd directory entries s s' := by
  have begins : Act.Keeps (Run.SameLog s.disk.cwd directory) (runner.begin scenario name) :=
    Runner.disks_begin flags
  cases h with
  | @unflagged fault s' failed =>
    have same : Run.SameLog s.disk.cwd directory s s' := begins.of_apply failed
    have raised : Run.IsFailure 0 true (.error fault) none := fun _ => iff_of_false nofun nofun
    exact ⟨none, [], raised, .nil, same.adds_nil rfl⟩
  | @flagged k warnings kept ended begun s' said flagged pages =>
    have same : Run.SameLog s.disk.cwd directory s begun := begins.of_apply flagged
    have inside (d : String) := Run.insideBut_logPlace s.disk.cwd directory d
    have page (index : Nat) (turn : Turn) := Run.disks_runPage confined
      (Disk.filing_sameAt s.disk.cwd (Run.logPlace s.disk.cwd directory)) strategies
      (Runner.pictures_of_insideBut fun _ _ => .inl (inside _)) scenario.host index turn
    have recording := confined.recording (Disk.filing_sameAt s.disk.cwd (Run.logPlace s.disk.cwd directory))
    obtain ⟨failure, entries, raised, tells, adds⟩ := pages.exists_entries named (same rfl).1 page
      (Run.keeps_keepEvidence recording (fun d _ => inside d) name)
      fun t logs => opens t ⟨begun, flagged, logs⟩
    rw [List.map_map] at tells
    exact ⟨failure, entries, raised, tells, same.adds rfl adds⟩

/-- A run whose log can be written adds to it one entry for each page that it begins and records, numbered from
one, and leaves what the file held before. The lines of the added text are read one by one as objects with the
members of these entries, whatever their texts are. All of them are of pages that passed, but for the last one
if a page failed: that holds the text of the fault that comes out of the run. If the run passes there is an
entry for each page, and the entries have the warnings of the result. Every page that is begun is recorded,
unless something that is to be told of it cannot be encoded: then the fault of that comes out. No list of pages
is so long that the numbers in it could not be read. -/
theorem Runner.run_stepLog [StackRoom] (short : Number.isOverlong scenario.pages.length = false) :
    let done := runner.run scenario b name (some directory) s
    ∃ k warnings kept ended failure entries,
      runner.Reaches scenario b name (some directory) s k warnings kept ended done.2 ∧
      done.1 = (ended.map fun _ =>
        { name := name, passed := true, warnings := warnings, pagesRun := scenario.pages.length
          runDirectory := some directory }) ∧
      Run.IsFailure k kept ended failure ∧
      Run.Chronicle 1 (scenario.pages.map Page.name) k warnings kept failure entries ∧
      StepEntry.Added entries (Run.logPlace s.disk.cwd directory) s.disk done.2.disk ∧
      (∀ result, done.1 = .ok result → entries.length = scenario.pages.length ∧
        entries.length = result.pagesRun ∧ entries.flatMap StepEntry.warnings = result.warnings) ∧
      ('\x00' ∉ directory.toList → kept = true ∨ runner.LosesPage scenario b name directory s k ended) := by
  obtain ⟨k, warnings, kept, ended, s', reaches, ran⟩ :=
    runner.exists_reaches scenario b name (some directory) s
  obtain ⟨failure, entries, raised, tells, added, held, encoded⟩ :=
    reaches.exists_entries confined flags strategies named opens
  have few := Number.isOverlong_of_le (List.length_map Page.name).le short
  have readable := tells.short few
  rw [ran]
  refine ⟨k, warnings, kept, ended, failure, entries, reaches, rfl, raised, tells,
    StepEntry.added_of_encodeText held encoded readable, fun result passed => ?_, fun h0 => ?_⟩
  · cases ended with
    | error fault => cases passed
    | ok _ =>
      cases passed
      have all := reaches.kept_of_ok
      have count := tells.count
      rw [if_pos all, Nat.add_zero, reaches.eq_length] at count
      exact ⟨count, count, tells.warnings all⟩
  · cases kept with
    | true => exact .inl rfl
    | false => exact .inr (reaches.losesPage h0)

end Runner

/-- A scenario with a page whose name is no single line, and with a button that no page has. -/
def oddNames : Scenario :=
  ⟨"http://h", [], [⟨"A \"1\"\u2028\n", .submit [], []⟩, ⟨"B", .click (some "Go\r\n\u2028"), []⟩]⟩

/-- A runner whose screenshots are kept where its log is. It takes its time over what it says. -/
def keeper : Runner MemoryPage String where
  registry := ⟨[(.click, .click), (.submit, .submit)]⟩
  flags := .ignoring
  photographer := some ⟨fun _ => {}⟩
  settings := { screenshotFolder := "/run" }
  stopwatch start now := .ofNat (5 * (now - start))

/-- A disk with the directory of a run, and with a line in its log. -/
def loggedDisk : Disk where
  entries := [(["run".toList], .directory),
    (["run".toList, stepLogName.toList], .file [0x6e, 0x75, 0x6c, 0x6c, 0x0a])]

/-- The first page passes with a warning, and the second one is begun. -/
theorem reaches_oddNames {k : Nat} {warnings : List String} {fault : Fault} {s' : Scene MemoryPage}
    (h : keeper.Reaches oddNames (memoryBrowser "FakeDriver") "odd" (some "/run")
      { page := {}, disk := loggedDisk } k warnings true (.error fault) s') :
    k = 2 ∧ warnings = ["No submit control found on page"] := by
  have begins : (keeper.begin oddNames "odd" { page := {}, disk := loggedDisk }).1 = .ok () := by decide +kernel
  have first : (Run.runPage keeper (.onMemory "FakeDriver" Lookup.all) "http://h" 1
      ⟨"A \"1\"\u2028\n", [], .action (.submit [])⟩
      (keeper.begin oddNames "odd" { page := {}, disk := loggedDisk }).2).1 =
        .ok ⟨.submit, ["No submit control found on page"]⟩ := by decide +kernel
  cases h with
  | unflagged failed =>
    rw [failed] at begins
    cases begins
  | flagged flagged pages =>
    rw [flagged] at first
    cases pages with
    | failed failed =>
      have failed := (congrArg Prod.fst failed).symm.trans first
      cases failed
    | passed passed logged next =>
      have passed := (congrArg Prod.fst passed).symm.trans first
      cases passed
      cases next with
      | failed => exact ⟨rfl, rfl⟩
      | passed _ _ last => cases last

theorem members_oddNames {entries : List StepEntry}
    (tells : Run.Chronicle 1 (oddNames.pages.map Page.name) 2 ["No submit control found on page"] true
      (some (.fieldNotFound "Go\r\n\u2028")) entries) :
    ∃ first second : StepEntry, entries = [first, second] ∧
      first.members = [("i", .int 1), ("page", .text "A \"1\"\u2028\n"), ("status", .text "PASSED"),
        ("duration_ms", .int first.milliseconds.toNat),
        ("warnings", .list [.text "No submit control found on page"])] ∧
      second.members = [("i", .int 2), ("page", .text "B"), ("status", .text "FAILED"),
        ("duration_ms", .int second.milliseconds.toNat), ("warnings", .list []),
        ("error", .text "Field not found: 'Go\r\n\u2028'")] := by
  have two : entries.length = 2 := tells.count
  obtain ⟨first, second, rfl⟩ := List.length_eq_two.mp two
  obtain ⟨index, page, passed, _, own, error⟩ := first
  obtain ⟨index', page', passed', _, own', error'⟩ := second
  have indices : [index, index'] = [1, 2] := tells.indices
  have pages : [page, page'] = ["A \"1\"\u2028\n", "B"] := tells.pages
  obtain ⟨before, statuses⟩ := tells.statuses
  have one : before = 1 := by simpa using (congrArg List.length statuses).symm
  subst one
  have statuses : [(passed, error), (passed', error')] =
      [(true, none), (false, some "Field not found: 'Go\r\n\u2028'")] := statuses
  have warned : own ++ (own' ++ []) = ["No submit control found on page"] := tells.warnings rfl
  cases indices
  cases pages
  cases statuses
  obtain rfl : own' = [] := (List.forall_mem_cons.mp (List.forall_mem_cons.mp tells.unwarned).2).1 rfl
  obtain rfl : own = _ := by simpa using warned
  exact ⟨_, _, rfl, rfl, rfl⟩

/-- The first page passes with a warning and the second one fails. Two lines are added to the one in the file. -/
theorem Runner.run_stepLog_oddNames :
    let s : Scene MemoryPage := { page := {}, disk := loggedDisk }
    let b := memoryBrowser "FakeDriver"
    let done := keeper.run oddNames b "odd" (some "/run") s
    Number.isOverlong oddNames.pages.length = false ∧
      (∀ t, keeper.Logs oddNames b "odd" (some "/run") s t → t.Opens "/run") ∧
      done.1 = .error (.fieldNotFound "Go\r\n\u2028") ∧
      (done.2.disk.bytesAt (Run.logPlace s.disk.cwd "/run")).count 0x0a = 3 ∧
      ∃ first second : StepEntry,
        StepEntry.Added [first, second] (Run.logPlace s.disk.cwd "/run") s.disk done.2.disk ∧
        first.members = [("i", .int 1), ("page", .text "A \"1\"\u2028\n"), ("status", .text "PASSED"),
          ("duration_ms", .int first.milliseconds.toNat),
          ("warnings", .list [.text "No submit control found on page"])] ∧
        second.members = [("i", .int 2), ("page", .text "B"), ("status", .text "FAILED"),
          ("duration_ms", .int second.milliseconds.toNat), ("warnings", .list []),
          ("error", .text "Field not found: 'Go\r\n\u2028'")] := by
  intro s b done
  have confined : b.Confined := confined_memoryBrowser _
  have standard : ∀ e ∈ keeper.registry.strategies, e.2.IsStandard :=
    List.forall_mem_cons.mpr ⟨⟨{}, by simp [Strategy.standard]⟩,
      List.forall_mem_singleton.mpr ⟨{}, by simp [Strategy.standard]⟩⟩
  have strategies : ∀ e ∈ keeper.registry.strategies, e.2.Composed :=
    Registry.composed_of_outside fun e he outside => absurd (standard e he) outside
  have flags : ∀ features, Act.Keeps Scene.SameDisk (keeper.flags features) :=
    fun features s => by
      show s.SameDisk (FlagService.ignoring features s).2
      unfold FlagService.ignoring
      split <;> rfl
  have there : s.HasLog "/run" :=
    { above := ⟨['/'], "run".toList, by decide +kernel⟩
      there := by decide +kernel
      log := ⟨[0x6e, 0x75, 0x6c, 0x6c, 0x0a], by decide +kernel⟩ }
  have opens : ∀ t, keeper.Logs oddNames b "odd" (some "/run") s t → t.Opens "/run" := fun t logs =>
    logs.opens confined flags strategies there
  have short : Number.isOverlong oddNames.pages.length = false :=
    Number.isOverlong_of_lt (by decide : 2 < 10 ^ 1) (by decide)
  obtain ⟨k, warnings, kept, ended, failure, entries, reaches, outcome, raised, tells, added, -, lost⟩ :=
    Runner.run_stepLog confined flags strategies (by decide) opens short
  have ran : done.1 = .error (.fieldNotFound "Go\r\n\u2028") ∧
      (done.2.disk.bytesAt (Run.logPlace s.disk.cwd "/run")).count 0x0a = 3 := by decide +kernel
  have same : done = keeper.run oddNames b "odd" (some "/run") s := rfl
  rw [← same, ran.1] at outcome
  obtain rfl : ended = .error (.fieldNotFound "Go\r\n\u2028") := by
    cases ended with
    | ok _ => cases outcome
    | error fault =>
      cases outcome
      rfl
  obtain rfl : kept = true := by
    rcases lost (by decide) with kept | ⟨_, _, _, -, -, -, _, encoding⟩
    · exact kept
    · cases encoding
  obtain ⟨rfl, rfl⟩ := reaches_oddNames reaches
  obtain rfl := (raised (.fieldNotFound "Go\r\n\u2028")).mpr ⟨by decide, rfl, rfl⟩
  obtain ⟨first, second, rfl, members⟩ := members_oddNames tells
  refine ⟨short, opens, ran.1, ran.2, first, second, ?_, members⟩
  rw [same]
  exact added

end Walkthrough
