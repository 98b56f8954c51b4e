import Walkthrough.Proofs.Run.Heeding
import Walkthrough.Proofs.Run.Outputs
import Walkthrough.Proofs.Run.Sessions

/-! Batches of scenario files. Every file of a directory is run once, in the order of the scan, each in a
session of its own that is closed before the next one is asked for. If the sessions heed nothing but their own
pages, and nothing is written where the files stand, then a file comes to in the batch what it comes to alone,
and the batch passes exactly if every file does, as long as the pages can be recorded
(`Suite.runDirectory_batch`). -/

namespace Walkthrough

variable {π η β : Type}

/-- The events of one session: none if it is not asked for, and if it is opened it is closed at once after
its run. -/
inductive SessionEvent.Orderly (directory : String) : List (SessionEvent π) → Prop
  | none : Orderly directory []
  | unopened : Orderly directory [.requested directory]
  | closed (page : π) : Orderly directory [.requested directory, .opened, .closed page]

namespace Suite

/-! ## One file among others -/

section

variable (suite : Suite π η) (path : String)

/-- No page of the run of a file fails to be recorded. -/
def Records [StackRoom] (s : Journal π) : Prop :=
  ∀ ⦃k warnings kept ended events⦄, suite.Fares path s k warnings kept ended events → kept = true

/-- There is a scenario in the file, its session is opened and closed, its flags are applied, and all its pages
pass. -/
def Passes [StackRoom] (s : Journal π) : Prop :=
  ∃ scenario, Scenario.load s.disk path = .ok scenario ∧ (suite.plan path).openFault = none ∧
    (suite.plan path).closeFault = none ∧
      suite.runner.Passes scenario (suite.plan path).browser (scenarioName path) (suite.fresh path s)

/-- The sessions of the suite heed nothing but how their own pages look, and write nothing but what is kept of
their runs. -/
structure Secluded (look : π → β) : Prop extends suite.Confined where
  heeds : ∀ directory, (suite.session directory).browser.Heeds look
  heedsFlags : ∀ features, Act.heeding look _ (suite.runner.flags features)

/-- Nothing is kept of runs in the directory with the files. -/
structure Apart (directory : String) (files : List String) (d : Disk) : Prop where
  wellFormed : d.WellFormed
  outputs : ∀ o, suite.Output d files o →
    Disk.placeFrom d.cwd o.toList ≠ Disk.placeFrom d.cwd directory.toList

end

variable {suite : Suite π η} {path directory : String} {s t : Journal π} {k k' : Nat}
  {warnings warnings' : List String} {kept : Bool} {ended ended' : Except Fault Unit}
  {events events' : List (SessionEvent π)} {look : π → β} {files : List String}

theorem Fares.orderly [StackRoom] (h : suite.Fares path s k warnings kept ended events) :
    SessionEvent.Orderly (suite.directoryOf path) events := by
  cases h with
  | unread => exact .none
  | unopened => exact .unopened
  | unclosed | closed => exact .closed _

/-- No session is asked for exactly if there is no scenario in the file. -/
theorem Fares.events_eq_nil_iff [StackRoom] (h : suite.Fares path s k warnings kept ended events) :
    events = [] ↔ ∃ fault, Scenario.load s.disk path = .error fault := by
  cases h with
  | unread unread => exact iff_of_true rfl ⟨_, unread⟩
  | unopened read | unclosed read | closed read =>
    refine iff_of_false nofun ?_
    rintro ⟨fault, unread⟩
    cases read.symm.trans unread

theorem Fares.not_isSystem [StackRoom] (h : suite.Fares path s k warnings false ended events) :
    ∃ fault, ended = .error fault ∧ fault.isSystem = false := by
  cases h with
  | closed _ _ _ ran =>
    cases ran with
    | flagged _ pages => exact pages.not_isSystem

theorem Secluded.runner (h : suite.Secluded look) : suite.runner.Heeds look :=
  ⟨h.heedsFlags, h.strategies⟩

/-- A file comes to its end exactly if it passes, as long as its pages are recorded. -/
theorem Fares.passes_iff [StackRoom] (h : suite.Secluded look)
    (fares : suite.Fares path s k warnings true ended events) :
    ended = .ok () ↔ suite.Passes path s := by
  cases fares with
  | unread unread =>
    refine iff_of_false nofun fun ⟨_, read, _⟩ => ?_
    cases unread.symm.trans read
  | unopened _ unopened =>
    refine iff_of_false nofun fun ⟨_, _, eq, _⟩ => ?_
    cases unopened.symm.trans eq
  | unclosed _ _ unclosed =>
    refine iff_of_false nofun fun ⟨_, _, _, eq, _⟩ => ?_
    cases unclosed.symm.trans eq
  | closed read opened closed ran =>
    rw [ran.passes_iff (h.heeds _) h.runner]
    constructor
    · exact fun passes => ⟨_, read, opened, closed, passes⟩
    · rintro ⟨_, read', -, -, passes⟩
      cases read.symm.trans read'
      exact passes

theorem Passes.congr [StackRoom] (h : suite.Secluded look)
    (load : Scenario.load t.disk path = Scenario.load s.disk path) (passes : suite.Passes path s) :
    suite.Passes path t := by
  obtain ⟨scenario, read, opened, closed, passes⟩ := passes
  exact ⟨scenario, load.trans read, opened, closed, passes.congr (h.heeds _) h.runner rfl⟩

/-- Where the same scenario is in the file it has the same result, as long as its pages are recorded. -/
theorem Fares.resultOf_eq [StackRoom] (h : suite.Secluded look)
    (load : Scenario.load t.disk path = Scenario.load s.disk path)
    (one : suite.Fares path s k warnings true ended events)
    (other : suite.Fares path t k' warnings' true ended' events') :
    suite.resultOf path k warnings ended = suite.resultOf path k' warnings' ended' := by
  cases one with
  | unread unread =>
    cases other with
    | unread unread' =>
      cases (load.trans unread).symm.trans unread'
      rfl
    | unopened read | unclosed read | closed read => cases (load.trans unread).symm.trans read
  | unopened read unopened =>
    cases other with
    | unread unread => cases (load.trans read).symm.trans unread
    | unopened _ unopened' =>
      cases unopened.symm.trans unopened'
      rfl
    | unclosed _ opened | closed _ opened => cases unopened.symm.trans opened
  | unclosed read opened unclosed =>
    cases other with
    | unread unread => cases (load.trans read).symm.trans unread
    | unopened _ unopened => cases opened.symm.trans unopened
    | unclosed _ _ unclosed' =>
      cases unclosed.symm.trans unclosed'
      rfl
    | closed _ _ closed => cases unclosed.symm.trans closed
  | closed read opened closed ran =>
    cases other with
    | unread unread => cases (load.trans read).symm.trans unread
    | unopened _ unopened => cases opened.symm.trans unopened
    | unclosed _ _ unclosed => cases closed.symm.trans unclosed
    | closed read' _ _ ran' =>
      cases (load.trans read).symm.trans read'
      have same : look (suite.fresh path s).page = look (suite.fresh path t).page := rfl
      obtain ⟨rfl, rfl, rfl⟩ := ran.same (h.heeds _) h.runner same ran'
      rfl

/-- Pages in memory are recorded if all that a run can say of them can be written. -/
theorem records_of_writable [StackRoom] {suite : Suite MemoryPage String} {path n : String}
    {s : Journal MemoryPage} (browser : (suite.plan path).browser = memoryBrowser n)
    (flags : ∀ features, Act.Keeps (Scene.Same id) (suite.runner.flags features))
    (writable : ∀ scenario, Scenario.load s.disk path = .ok scenario → Run.Writable suite.runner.registry
      scenario (suite.plan path).page (suite.directoryOf path)) : suite.Records path s := by
  intro k warnings kept ended events fares
  cases fares with
  | unread | unopened | unclosed => rfl
  | @closed scenario _ _ _ _ _ read _ _ ran =>
    cases ran with
    | unflagged => rfl
    | @flagged _ _ _ _ begun _ _ flagged pages =>
      have begin : Act.Keeps (Scene.Same id) (suite.runner.begin scenario (scenarioName path)) :=
        .bind (fun _ => rfl) fun _ => flags _
      have same : begun.page = (suite.plan path).page := begin.of_eq flagged
      rw [browser] at pages
      refine pages.kept_eq_true (fun _ h => h) fun d hd => ?_
      obtain rfl := Option.mem_some.mp (Run.mem_of_namedDirectory hd)
      exact same ▸ writable scenario read

/-! ## Batches -/

/-- What is done for one file of a batch: the scene in which its turn comes, the events of its session, and
its result. -/
structure Part (π : Type) where
  path : String
  scene : Journal π
  events : List (SessionEvent π)
  result : ScenarioResult

/-- The part is what running its file comes to when its turn comes. A page that cannot be recorded is no
failure of the system. -/
def Part.Ran [StackRoom] (suite : Suite π η) (p : Part π) : Prop :=
  ∃ k warnings kept ended, suite.Fares p.path p.scene k warnings kept ended p.events ∧
    p.result = suite.resultOf p.path k warnings ended ∧
    (suite.runFile p.path p.scene).1 = .ok p.result ∧
    (kept = false → ∃ fault, ended = .error fault ∧ fault.isSystem = false)

/-- Files that are run one after the other, each where the one before it ended. -/
inductive Batch [StackRoom] (suite : Suite π η) : Journal π → List (Part π) → Journal π → Prop
  | nil {s : Journal π} : Batch suite s [] s
  | cons {p : Part π} {t u : Journal π} {said : List LogEntry} {ps : List (Part π)} (ran : p.Ran suite)
      (next : (suite.runFile p.path p.scene).2 = t) (journal : t.page = p.scene.page ++ p.events)
      (rest : Batch suite { t with log := t.log ++ said } ps u) : Batch suite p.scene (p :: ps) u

theorem exists_batch [StackRoom] (suite : Suite π η) (files : List String) (s : Journal π) :
    ∃ parts t, suite.Batch s parts t ∧ parts.map Part.path = files ∧
      suite.runFiles files s = (.ok (parts.map Part.result), t) := by
  induction files generalizing s with
  | nil => exact ⟨[], s, .nil, rfl, rfl⟩
  | cons path files ih =>
    obtain ⟨k, warnings, kept, ended, events, t, fares, ran, journal⟩ := suite.exists_fares path s
    let entry : LogEntry := ⟨.info, .run, verdict (suite.resultOf path k warnings ended)⟩
    obtain ⟨parts, u, rest, paths, results⟩ := ih { t with log := t.log ++ [entry] }
    let part : Part π := ⟨path, s, events, suite.resultOf path k warnings ended⟩
    have unkept : kept = false → ∃ fault, ended = .error fault ∧ fault.isSystem = false := by
      rintro rfl
      exact fares.not_isSystem
    refine ⟨part :: parts, u, .cons (p := part) ⟨k, warnings, kept, ended, fares, rfl, by rw [ran], unkept⟩
      (by rw [ran]) journal rest, congrArg _ paths, ?_⟩
    refine (Act.bind_of_ok ran).trans ?_
    exact (Act.bind_of_ok rfl).trans (Act.bind_of_ok results)

namespace Batch

variable [StackRoom] {parts : List (Part π)}

theorem journal (h : suite.Batch s parts t) : t.page = s.page ++ parts.flatMap Part.events := by
  induction h with
  | nil => exact (List.append_nil _).symm
  | cons _ _ journal _ ih =>
    rw [ih, List.flatMap_cons, ← List.append_assoc]
    exact congrArg (· ++ _) journal

theorem ran (h : suite.Batch s parts t) : ∀ p ∈ parts, p.Ran suite := by
  induction h with
  | nil => exact nofun
  | cons ran _ _ _ ih => exact List.forall_mem_cons.mpr ⟨ran, ih⟩

/-- Until the turn of a file comes nothing is written but what is kept of runs. -/
theorem grew (confined : suite.Confined) (d : Disk) (h : suite.Batch s parts t)
    (members : ∀ p ∈ parts, p.path ∈ files) :
    ∀ p ∈ parts, s.Disks (Disk.SeenFrom d.cwd (Disk.Grew (suite.Written d files))) p.scene := by
  induction h with
  | nil => exact nofun
  | @cons p t _ _ _ _ next _ _ ih =>
    obtain ⟨first, others⟩ := List.forall_mem_cons.mp members
    have grew : p.scene.Disks (Disk.SeenFrom d.cwd (Disk.Grew (suite.Written d files))) t :=
      next ▸ keeps_runFile confined d first p.scene
    exact List.forall_mem_cons.mpr ⟨refl_of _ p.scene, fun q hq =>
      trans_of (Scene.Disks _) (b := t) grew (ih others q hq)⟩

end Batch

theorem load_congr [StackRoom] {d d' : Disk}
    (h : d'.stat (Path.tidy path.toList) = d.stat (Path.tidy path.toList)) :
    Scenario.load d' path = Scenario.load d path := by
  unfold Scenario.load Scenario.readSource
  dsimp only
  rw [h]

/-- The results of a batch pass exactly if all of them do. -/
theorem passed_iff (results : List ScenarioResult) :
    (⟨results⟩ : SuiteResult).passed = true ↔ ∀ r ∈ results, r.passed = true :=
  List.all_eq_true

theorem passed_resultOf : (suite.resultOf path k warnings ended).passed = true ↔ ended = .ok () := by
  cases ended with
  | error fault => exact iff_of_false nofun nofun
  | ok _ => exact iff_of_true rfl rfl

/-- The files that are selected are run one after the other. -/
theorem runDirectory_apply [StackRoom] {results : List ScenarioResult}
    (scanned : s.disk.scan directory suite.runner.settings.patterns = .ok files)
    (ran : suite.runFiles files { s with log := s.log ++ [⟨.info, .run,
      "found " ++ toString files.length ++ " scenario file(s) in " ++ directory⟩] } = (.ok results, t)) :
    suite.runDirectory directory s = (.ok ⟨results⟩, t) := by
  have found : ((s.disk.scan directory suite.runner.settings.patterns).mapError Fault.foreign, s) =
      (.ok files, s) := by rw [scanned]; rfl
  exact (Act.bind_of_ok found).trans ((Act.bind_of_ok rfl).trans (Act.bind_of_ok ran))

/-- A batch runs each of the files that were selected, once and in their order, and has the result of each.
The events of its sessions follow one another: a session that is opened is closed before the next one is
asked for. One session is asked for if there is a scenario in the file, and none if there is not. If the
sessions of the suite are secluded, and nothing is kept of runs in the directory with the files, then what is
in the files at their turns is what is in them at the beginning, their results are those of running them
alone, and the batch passes exactly if all files pass, unless a page cannot be recorded. -/
theorem runDirectory_batch [StackRoom] {suite : Suite π η} {directory : String} {s : Journal π}
    {files : List String} (scanned : s.disk.scan directory suite.runner.settings.patterns = .ok files) :
    ∃ (parts : List (Part π)) (t : Journal π),
      suite.runDirectory directory s = (.ok ⟨parts.map Part.result⟩, t) ∧
      parts.map Part.path = files ∧ t.page = s.page ++ parts.flatMap Part.events ∧
      (∀ p ∈ parts, p.Ran suite ∧ SessionEvent.Orderly (suite.directoryOf p.path) p.events ∧
        (p.events = [] ↔ ∃ fault, Scenario.load p.scene.disk p.path = .error fault)) ∧
      ∀ {β : Type} {look : π → β}, suite.Secluded look → suite.Apart directory files s.disk →
        files.Nodup ∧
        (∀ p ∈ parts, Scenario.load p.scene.disk p.path = Scenario.load s.disk p.path ∧
          (suite.Records p.path p.scene → suite.Records p.path s →
            (suite.runFile p.path s).1 = .ok p.result)) ∧
        ((∀ p ∈ parts, suite.Records p.path p.scene) →
          ((⟨parts.map Part.result⟩ : SuiteResult).passed = true ↔
            ∀ path ∈ files, suite.Passes path s)) := by
  obtain ⟨parts, t, batch, paths, ran⟩ := suite.exists_batch files { s with log := s.log ++ [_] }
  refine ⟨parts, t, runDirectory_apply scanned ran, paths, batch.journal, fun p hp => ?_,
    fun {β look} secluded apart => ?_⟩
  · obtain ⟨_, _, _, _, fares, -⟩ := batch.ran p hp
    exact ⟨batch.ran p hp, fares.orderly, fares.events_eq_nil_iff⟩
  have members : ∀ p ∈ parts, p.path ∈ files := fun p hp => paths ▸ List.mem_map_of_mem hp
  have load : ∀ p ∈ parts, Scenario.load p.scene.disk p.path = Scenario.load s.disk p.path := by
    intro p hp
    have grew : s.disk.Grew (suite.Written s.disk files) p.scene.disk :=
      (batch.grew secluded.toConfined s.disk members p hp rfl).2
    refine load_congr (grew.stat_scanned apart.wellFormed ?_ scanned (members p hp))
    rintro name ⟨o, output, inside⟩
    rw [List.dropLast_concat] at inside
    exact apart.outputs o output inside.symm
  refine ⟨Disk.nodup_scan apart.wellFormed scanned, fun p hp => ⟨load p hp, fun kept alone => ?_⟩,
    fun kept => ?_⟩
  · obtain ⟨k, warnings, _, ended, fares, result, -⟩ := batch.ran p hp
    cases kept fares
    obtain ⟨k', warnings', _, ended', events', t', fares', result', -⟩ := suite.exists_fares p.path s
    cases alone fares'
    rw [result', result]
    exact congrArg _ (fares'.resultOf_eq secluded (load p hp) fares)
  · rw [passed_iff, List.forall_mem_map, ← paths, List.forall_mem_map]
    refine forall₂_congr fun p hp => ?_
    obtain ⟨k, warnings, _, ended, fares, result, -⟩ := batch.ran p hp
    cases kept p hp fares
    rw [result, passed_resultOf, fares.passes_iff secluded]
    exact ⟨.congr secluded (load p hp).symm, .congr secluded (load p hp)⟩

/-- A directory with a scenario that passes and a file with none. -/
def mixedDisk : Disk where
  entries := [(["suite".toList], .directory),
    (["suite".toList, "a.scenario".toList], .file (Text.Utf8.encode
      ("Host: http://h\nPage A\naction:\ntype: Submit\n".toList.map Char.toNat))),
    (["suite".toList, "b.scenario".toList], .file (Text.Utf8.encode ("?".toList.map Char.toNat)))]

theorem secluded_emptyPages : emptyPages.Secluded MemoryPage.looks where
  browser _ := confined_memoryBrowser _
  flags := FlagService.IsStandard.sameDisk (.inr (.inr rfl))
  strategies := fun e he outside => absurd (standard_emptyPages e he) outside
  heeds _ := heeds_memoryBrowser _
  heedsFlags := FlagService.IsStandard.heeding (.inr (.inr rfl)) _

/-- The files in that directory. -/
def mixedFiles : List String := ["/suite/a.scenario", "/suite/b.scenario"]

theorem apart_mixedDisk : emptyPages.Apart "/suite" mixedFiles mixedDisk where
  wellFormed := ⟨by decide +kernel, by decide +kernel, by decide +kernel⟩
  outputs := by
    rintro o (⟨path, hp, rfl⟩ | ⟨taken, -⟩)
    · revert path
      decide +kernel
    · cases taken

/-- What a run of the scenario can say can be written. -/
theorem writable_mixedDisk : Run.Writable emptyPages.runner.registry
    ⟨"http://h", [], [⟨"A", .submit [], []⟩]⟩ {} (emptyPages.directoryOf "/suite/a.scenario") where
  strategies e he outside := absurd (standard_emptyPages e he) outside
  scenario :=
    { host := (.literal rfl : Text.Proper "http://h")
      pages := List.forall_mem_singleton.mpr
        { name := (.literal rfl : Text.Proper "A")
          expected := List.forall_mem_nil _
          action := List.forall_mem_nil _ } }
  page :=
    { elements := List.forall_mem_nil _
      lookupFailures := List.forall_mem_nil _
      failures := List.forall_mem_nil _
      html := (.literal rfl : Text.Proper "<html></html>")
      url := fun _ h => absurd h (Option.not_mem_none _) }
  name := .literal (by decide +kernel)
  path := by decide +kernel

theorem records_mixedDisk {s : Journal MemoryPage} {path : String} (hp : path ∈ mixedFiles)
    (load : Scenario.load s.disk path = Scenario.load mixedDisk path) : emptyPages.Records path s := by
  have first : Scenario.load mixedDisk "/suite/a.scenario" =
      .ok ⟨"http://h", [], [⟨"A", .submit [], []⟩]⟩ := by decide +kernel
  have second (scenario : Scenario) : Scenario.load mixedDisk "/suite/b.scenario" ≠ .ok scenario := by
    have refused : (Scenario.load mixedDisk "/suite/b.scenario").isOk = false := by decide +kernel
    intro read
    rw [read] at refused
    cases refused
  have flags : ∀ features, Act.Keeps (Scene.Same id) (emptyPages.runner.flags features) :=
    FlagService.IsStandard.same (.inr (.inr rfl)) _
  refine records_of_writable (n := "FakeDriver") rfl flags fun scenario read => ?_
  replace read := load.symm.trans read
  rcases List.mem_cons.mp hp with rfl | hp
  · cases first.symm.trans read
    exact writable_mixedDisk
  · obtain rfl := List.mem_singleton.mp hp
    exact absurd read (second scenario)

theorem runDirectory_batch_mixed :
    let files := ["/suite/a.scenario", "/suite/b.scenario"]
    let s : Journal MemoryPage := { page := [], disk := mixedDisk }
    s.disk.scan "/suite" emptyPages.runner.settings.patterns = .ok files ∧
      emptyPages.Apart "/suite" files s.disk ∧
      ∃ (parts : List (Part MemoryPage)) (t : Journal MemoryPage),
        emptyPages.runDirectory "/suite" s = (.ok ⟨parts.map Part.result⟩, t) ∧
        parts.map Part.path = files ∧ t.page = parts.flatMap Part.events ∧
        (∀ p ∈ parts, (emptyPages.runFile p.path s).1 = .ok p.result) ∧
        ((⟨parts.map Part.result⟩ : SuiteResult).passed = true ↔
          ∀ path ∈ files, emptyPages.Passes path s) := by
  intro files s
  have scanned : s.disk.scan "/suite" emptyPages.runner.settings.patterns = .ok files :=
    Disk.scan_eq_ok ["a.scenario".toList, "b.scenario".toList] (by decide +kernel)
      (by decide +kernel) (by decide +kernel)
  obtain ⟨parts, t, ran, paths, journal, -, secluded⟩ := runDirectory_batch scanned
  obtain ⟨-, alone, passed⟩ := secluded secluded_emptyPages apart_mixedDisk
  have members : ∀ p ∈ parts, p.path ∈ files := fun p hp => paths ▸ List.mem_map_of_mem hp
  exact ⟨scanned, apart_mixedDisk, parts, t, ran, paths, journal, fun p hp =>
    (alone p hp).2 (records_mixedDisk (members p hp) (alone p hp).1)
      (records_mixedDisk (members p hp) rfl),
    passed fun p hp => records_mixedDisk (members p hp) (alone p hp).1⟩

/-- A file whose only page enters a value in a field whose name is a lone surrogate. -/
def unwritableDisk : Disk where
  entries := [(["suite".toList], .directory), (["suite".toList, "a.yaml".toList], .file
    (Text.Utf8.encode (("host: http://h\npages:\n- name: P\n  action:\n    actionType: Submit\n" ++
      "    fields: \x7b\"\\ud800\": x\x7d\n").toList.map Char.toNat)))]

/-- The only page of the only file passes with two warnings; they cannot be written to the log of the run, and
the batch does not pass. -/
theorem runDirectory_lone_surrogate :
    let field := Text.CodePoints.text [0xD800]
    let s : Journal MemoryPage := { page := [], disk := unwritableDisk }
    let done := emptyPages.runDirectory "/suite" s
    s.disk.scan "/suite" emptyPages.runner.settings.patterns = .ok ["/suite/a.yaml"] ∧
      Scenario.load s.disk "/suite/a.yaml" =
        .ok ⟨"http://h", [], [⟨"P", .submit [(field, some "x")], []⟩]⟩ ∧
      (emptyPages.plan "/suite/a.yaml").openFault = none ∧
      (emptyPages.plan "/suite/a.yaml").closeFault = none ∧
      (Run.runPage emptyPages.runner (.onMemory "FakeDriver" Lookup.all) "http://h" 1
        ⟨"P", [], .action (.submit [(field, some "x")])⟩ { page := {} }).1 = .ok ⟨.submit,
          ["Skipped field '" ++ field ++ "': Field not found: '" ++ field ++ "'",
            "No submit control found on page"]⟩ ∧
      (done.1.map fun r => r.results.map fun r => (r.passed, r.errorType)) =
        .ok [(false, some "UnicodeEncodeError")] := by
  decide +kernel

end Suite

end Walkthrough
