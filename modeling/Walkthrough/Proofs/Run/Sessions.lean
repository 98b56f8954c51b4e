import Walkthrough.Proofs.Run.Progress
import Walkthrough.Run.Suite

/-! Sessions of scenario files. `Suite.Fares` says what is done for one file: it is read, a session is asked
for, the scenario is run as far as it goes, and what was opened is closed again. `Suite.runFile_progress` says
what the result of the file tells of it. -/

namespace Walkthrough

variable {π η : Type}

namespace Suite

section

variable (suite : Suite π η) (path : String)

/-- The directory of what is kept of the run of a file. -/
abbrev directoryOf : String := suite.runner.settings.runDirectory path

/-- The session that is asked for to run a file. -/
def plan : SessionPlan π η := suite.session (suite.directoryOf path)

/-- The scene in which the session of a file begins. -/
def fresh (s : Journal π) : Scene π :=
  ⟨(suite.plan path).page, s.disk, s.log, s.flagSets, s.cacheClears⟩

/-- How far the run of a scenario goes in the session of its file. -/
abbrev Reaches (scenario : Scenario) (s : Journal π) :
    Nat → List String → Bool → Except Fault Unit → Scene π → Prop :=
  suite.runner.Reaches scenario (suite.plan path).browser (scenarioName path)
    (some (suite.directoryOf path)) (suite.fresh path s)

/-- The events of a session that is opened. -/
def opened (page : π) : List (SessionEvent π) :=
  [.requested (suite.directoryOf path), .opened, .closed page]

/-- How far the run of a file goes: how many pages are begun, the warnings of those that pass, whether the
pages are recorded, what it comes to, and the events of its session. -/
inductive Fares [StackRoom] (s : Journal π) :
    Nat → List String → Bool → Except Fault Unit → List (SessionEvent π) → Prop
  /-- No session is asked for if there is no scenario in the file. -/
  | unread {fault : Fault} (unread : Scenario.load s.disk path = .error fault) :
      Fares s 0 [] true (.error fault) []
  | unopened {scenario : Scenario} {fault : Fault} (read : Scenario.load s.disk path = .ok scenario)
      (unopened : (suite.plan path).openFault = some fault) :
      Fares s 0 [] true (.error fault) [.requested (suite.directoryOf path)]
  /-- That the session cannot be closed hides what the run came to. -/
  | unclosed {scenario : Scenario} {k : Nat} {warnings : List String} {kept : Bool} {fault : Fault}
      {ended : Except Fault Unit} {s' : Scene π} (read : Scenario.load s.disk path = .ok scenario)
      (opened : (suite.plan path).openFault = none)
      (unclosed : (suite.plan path).closeFault = some fault)
      (ran : suite.Reaches path scenario s k warnings kept ended s') :
      Fares s k warnings true (.error fault) (suite.opened path s'.page)
  | closed {scenario : Scenario} {k : Nat} {warnings : List String} {kept : Bool}
      {ended : Except Fault Unit} {s' : Scene π} (read : Scenario.load s.disk path = .ok scenario)
      (opened : (suite.plan path).openFault = none) (closed : (suite.plan path).closeFault = none)
      (ran : suite.Reaches path scenario s k warnings kept ended s') :
      Fares s k warnings kept ended (suite.opened path s'.page)

/-- The result of a file that passes. -/
def complete (k : Nat) (warnings : List String) : ScenarioResult where
  name := scenarioName path
  passed := true
  warnings := warnings
  pagesRun := k
  runDirectory := some (suite.directoryOf path)

/-- The result of a file, given how far its run goes and what it comes to. -/
def resultOf (k : Nat) (warnings : List String) : Except Fault Unit → ScenarioResult
  | .ok _ => suite.complete path k warnings
  | .error fault => .failed (scenarioName path) (suite.directoryOf path) fault

end

variable (suite : Suite π η) (path : String)

/-! ## One file -/

theorem inSession_of_openFault {α : Type} {plan : SessionPlan π η} {fault : Fault}
    (h : plan.openFault = some fault) (directory : String) (step : Act (Scene π) α) (s : Journal π) :
    inSession plan directory step s =
      (.error fault, { s with page := s.page ++ [.requested directory] }) := by
  unfold inSession
  simp only [h]
  rfl

/-- A session that is opened is closed after its step, and a failure to close it comes out. -/
theorem inSession_apply {α : Type} {plan : SessionPlan π η} (h : plan.openFault = none)
    (directory : String) (step : Act (Scene π) α) (s : Journal π) :
    let done := step ⟨plan.page, s.disk, s.log, s.flagSets, s.cacheClears⟩
    inSession plan directory step s =
      (match plan.closeFault with
        | some fault => .error fault
        | none => done.1,
        ⟨s.page ++ [.requested directory, .opened, .closed done.2.page], done.2.disk, done.2.log,
          done.2.flagSets, done.2.cacheClears⟩) := by
  intro done
  have events : s.page ++ [SessionEvent.requested directory, .opened, .closed done.2.page] =
      s.page ++ [.requested directory] ++ [.opened] ++ [.closed done.2.page] := by simp
  unfold inSession
  simp only [h]
  rw [events]
  cases plan.closeFault with
  | some fault => rfl
  | none => rfl

/-- Reading a file and running its scenario in a session. -/
def playing [StackRoom] : Act (Journal π) ScenarioResult := do
  let scenario ← loadFile path
  inSession (suite.plan path) (suite.directoryOf path) (suite.runner.run scenario
    (suite.plan path).browser (scenarioName path) (some (suite.directoryOf path)))

variable {suite path} {s : Journal π} {scenario : Scenario} {k : Nat} {warnings : List String}
  {kept : Bool} {ended : Except Fault Unit} {events : List (SessionEvent π)}

theorem playing_of_read [StackRoom] (h : Scenario.load s.disk path = .ok scenario) :
    suite.playing path s = inSession (suite.plan path) (suite.directoryOf path)
      (suite.runner.run scenario (suite.plan path).browser (scenarioName path)
        (some (suite.directoryOf path))) s := by
  rw [playing, Act.bind_apply, loadFile, h]

/-- Whatever running a file comes to, there is a result of it. -/
theorem exists_runFile [StackRoom] (k : Nat) (warnings : List String) (ended : Except Fault Unit)
    {t : Journal π} (h : suite.playing path s = (ended.map fun _ => suite.complete path k warnings, t)) :
    ∃ said, suite.runFile path s =
      (.ok (suite.resultOf path k warnings ended), { t with log := t.log ++ said }) := by
  have attempted : (suite.playing path).attempt s =
      (.ok (ended.map fun _ => suite.complete path k warnings), t) := by
    rw [Act.attempt_apply, h]
  cases ended with
  | ok result =>
    refine ⟨[], (Act.bind_of_ok attempted).trans ?_⟩
    rw [List.append_nil]
    rfl
  | error fault => exact ⟨_, (Act.bind_of_ok attempted).trans rfl⟩

/-- A run in a session tells how far it goes. -/
theorem exists_reaches (suite : Suite π η) (path : String) (scenario : Scenario) (s : Journal π) :
    ∃ k warnings kept ended s', suite.Reaches path scenario s k warnings kept ended s' ∧
      suite.runner.run scenario (suite.plan path).browser (scenarioName path)
          (some (suite.directoryOf path)) (suite.fresh path s) =
        (ended.map fun _ => suite.complete path k warnings, s') := by
  obtain ⟨k, warnings, kept, ended, s', reaches, ran⟩ := suite.runner.exists_reaches scenario
    (suite.plan path).browser (scenarioName path) (some (suite.directoryOf path)) (suite.fresh path s)
  refine ⟨k, warnings, kept, ended, s', reaches, ran.trans ?_⟩
  cases ended with
  | error fault => rfl
  | ok _ =>
    rw [reaches.eq_length]
    rfl

/-- A file always has a result, which tells what its run comes to, and a session that is opened for it is
closed. -/
theorem exists_fares [StackRoom] (suite : Suite π η) (path : String) (s : Journal π) :
    ∃ k warnings kept ended events t, suite.Fares path s k warnings kept ended events ∧
      suite.runFile path s = (.ok (suite.resultOf path k warnings ended), t) ∧
      t.page = s.page ++ events := by
  cases read : Scenario.load s.disk path with
  | error fault =>
    have playing : suite.playing path s = (.error fault, s) := by
      rw [playing, Act.bind_apply, loadFile, read]
    obtain ⟨said, result⟩ := exists_runFile 0 [] (.error fault) playing
    exact ⟨_, _, _, _, _, _, .unread read, result, (List.append_nil _).symm⟩
  | ok scenario =>
    have playing : suite.playing path s = _ := playing_of_read read
    cases opened : (suite.plan path).openFault with
    | some fault =>
      obtain ⟨said, result⟩ := exists_runFile 0 [] (.error fault)
        (playing.trans (inSession_of_openFault opened _ _ s))
      exact ⟨_, _, _, _, _, _, .unopened read opened, result, rfl⟩
    | none =>
      obtain ⟨k, warnings, kept, ended, s', reaches, ran⟩ := suite.exists_reaches path scenario s
      have session := playing.trans (inSession_apply opened _ _ s)
      rw [← fresh, ran] at session
      cases closed : (suite.plan path).closeFault with
      | some fault =>
        rw [closed] at session
        obtain ⟨said, result⟩ := exists_runFile k warnings (.error fault) session
        exact ⟨_, _, _, _, _, _, .unclosed read opened closed reaches, result, rfl⟩
      | none =>
        rw [closed] at session
        obtain ⟨said, result⟩ := exists_runFile k warnings ended session
        exact ⟨_, _, _, _, _, _, .closed read opened closed reaches, result, rfl⟩

/-! ## What results tell -/

theorem Fares.eq_length [StackRoom] (h : suite.Fares path s k warnings kept (.ok ()) events)
    (read : Scenario.load s.disk path = .ok scenario) : k = scenario.pages.length := by
  cases h with
  | closed read' _ _ ran =>
    cases read.symm.trans read'
    exact ran.eq_length

theorem Fares.warnings_eq_nil [StackRoom] (h : suite.Fares path s 0 warnings kept ended events) :
    warnings = [] := by
  cases h with
  | unread | unopened => rfl
  | unclosed _ _ _ ran | closed _ _ _ ran => exact ran.warnings_eq_nil

/-- The function sees to which addresses the page of a session is sent, and the runner sends it nowhere but
to the hosts of its scenarios. -/
structure Watched (suite : Suite π η) (path : String) (visits : π → List String) : Prop where
  browser : (suite.plan path).browser.Visits visits
  flags : ∀ features, Act.Keeps (Scene.Same visits) (suite.runner.flags features)
  strategies : ∀ e ∈ suite.runner.registry.strategies, ¬ e.2.IsStandard → ∀ a hook,
    hook.Keeps (Scene.Same visits) →
      Act.Keeps (Scene.Same visits) (e.2.perform ⟨(suite.plan path).browser, Lookup.all⟩ a hook)

/-- The page of a session that was closed had gone to the host once for each page that was begun. -/
theorem Fares.visits [StackRoom] {visits : π → List String} (hw : suite.Watched path visits)
    (h : suite.Fares path s k warnings kept ended events)
    (read : Scenario.load s.disk path = .ok scenario) {page : π} (hp : .closed page ∈ events) :
    visits page = visits (suite.plan path).page ++ List.replicate k scenario.host := by
  have strategies : ∀ e ∈ suite.runner.registry.strategies, ∀ a hook, hook.Keeps (Scene.Same visits) →
      Act.Keeps (Scene.Same visits) (e.2.perform ⟨(suite.plan path).browser, Lookup.all⟩ a hook) := by
    intro e he a hook hh
    by_cases standard : e.2.IsStandard
    · exact standard.composed hw.browser.calls.within hh a
    · exact hw.strategies e he standard a hook hh
  have closing {s' : Scene π} (h : .closed page ∈ suite.opened path s'.page) : page = s'.page := by
    simpa [opened] using h
  cases h with
  | unread => cases hp
  | unopened => simp at hp
  | unclosed read' _ _ ran | closed read' _ _ ran =>
    cases read.symm.trans read'
    rw [closing hp]
    exact ran.visits hw.browser (hw.flags _) strategies

/-- The result of a file that passes counts the pages that the run began, to whose host its page was sent
once for each of them, and has the warnings of all of them. If a page fails, or the session, the result has
no warnings and counts no pages, whatever the run did before. So the result tells how far the run got exactly
if the file passes or no page of it was begun. -/
theorem runFile_progress [StackRoom] {suite : Suite π η} {path : String} {s : Journal π}
    {scenario : Scenario} (read : Scenario.load s.disk path = .ok scenario) :
    ∃ k warnings kept ended events result t, suite.Fares path s k warnings kept ended events ∧
      suite.runFile path s = (.ok result, t) ∧ t.page = s.page ++ events ∧
      (ended = .ok () → k = scenario.pages.length ∧ result = suite.complete path k warnings) ∧
      (∀ fault, ended = .error fault → result.warnings = [] ∧ result.pagesRun = 0 ∧
        result = .failed (scenarioName path) (suite.directoryOf path) fault) ∧
      (result.pagesRun = k ∧ result.warnings = warnings ↔ ended = .ok () ∨ k = 0) ∧
      ∀ visits, suite.Watched path visits → ∀ page, .closed page ∈ events →
        visits page = visits (suite.plan path).page ++ List.replicate k scenario.host := by
  obtain ⟨k, warnings, kept, ended, events, t, fares, result, journal⟩ := suite.exists_fares path s
  refine ⟨k, warnings, kept, ended, events, _, t, fares, result, journal, ?_, ?_, ?_,
    fun visits hw page hp => fares.visits hw read hp⟩
  · rintro rfl
    exact ⟨fares.eq_length read, rfl⟩
  · rintro fault rfl
    exact ⟨rfl, rfl, rfl⟩
  · cases ended with
    | ok _ => exact iff_of_true ⟨rfl, rfl⟩ (.inl rfl)
    | error fault =>
      constructor
      · rintro ⟨begun, -⟩
        exact .inr begun.symm
      · rintro (passed | rfl)
        · cases passed
        · exact ⟨rfl, fares.warnings_eq_nil.symm⟩

/-- A scenario whose first page passes with a warning and whose second page fails. -/
def halfway : Scenario :=
  ⟨"http://h", [], [⟨"A", .submit [], []⟩, ⟨"B", .click (some "Go"), []⟩]⟩

/-- A disk with the scenario in a file. -/
def halfwayDisk : Disk where
  entries := [(["suite".toList], .directory), (["suite".toList, "a.scenario".toList], .file
    (Text.Utf8.encode (("Host: http://h\nPage A\naction:\ntype: Submit\n" ++
      "Page B\naction:\ntype: Click\ntarget: Go\n").toList.map Char.toNat)))]

/-- A suite whose pages are empty. -/
def emptyPages : Suite MemoryPage String where
  runner := ⟨⟨[(.click, .click), (.submit, .submit)]⟩, .ignoring, none, { artifactRoot := "/artifacts" },
    fun _ _ => 0⟩
  session _ := { browser := memoryBrowser "FakeDriver", page := {} }

theorem standard_emptyPages : ∀ e ∈ emptyPages.runner.registry.strategies, e.2.IsStandard :=
  List.forall_mem_cons.mpr ⟨⟨{}, by simp [Strategy.standard]⟩,
    List.forall_mem_singleton.mpr ⟨{}, by simp [Strategy.standard]⟩⟩

theorem runFile_progress_halfway :
    let path := "/suite/a.scenario"
    let s : Journal MemoryPage := { page := [], disk := halfwayDisk }
    Scenario.load s.disk path = .ok halfway ∧
      ∃ k warnings kept ended events result t, emptyPages.Fares path s k warnings kept ended events ∧
        emptyPages.runFile path s = (.ok result, t) ∧ t.page = events ∧
        (result.pagesRun = k ∧ result.warnings = warnings ↔ ended = .ok () ∨ k = 0) ∧
        ∀ page, .closed page ∈ events → page.visits = List.replicate k "http://h" := by
  intro path s
  have read : Scenario.load s.disk path = .ok halfway := by decide +kernel
  have flags : ∀ features, Act.Keeps (Scene.Same MemoryPage.visits)
      (FlagService.ignoring features) := fun features s => by
    unfold FlagService.ignoring
    split <;> rfl
  have watched : emptyPages.Watched path MemoryPage.visits :=
    { browser := visits_memoryBrowser _
      flags := flags
      strategies := fun e he outside => absurd (standard_emptyPages e he) outside }
  obtain ⟨k, warnings, kept, ended, events, result, t, fares, ran, journal, -, -, tells, visits⟩ :=
    @runFile_progress _ _ _ emptyPages _ _ _ read
  exact ⟨read, k, warnings, kept, ended, events, result, t, fares, ran, journal, tells,
    fun page hp => visits _ watched page hp⟩

/-- The page was sent to the host twice and the first page passed with a warning; the result of the file has
no warnings and counts no pages. -/
theorem runFile_forgets_halfway :
    let s : Journal MemoryPage := { page := [], disk := halfwayDisk }
    let done := emptyPages.runFile "/suite/a.scenario" s
    Scenario.load s.disk "/suite/a.scenario" = .ok halfway ∧
      (Run.runPage emptyPages.runner (.onMemory "FakeDriver" Lookup.all) "http://h" 1
        ⟨"A", [], .action (.submit [])⟩ { page := {} }).1 =
          .ok ⟨.submit, ["No submit control found on page"]⟩ ∧
      (SessionRecord.ofEvents done.2.page).map (fun r => r.page.map MemoryPage.visits) =
        [some ["http://h", "http://h"]] ∧
      (done.1.map fun r => (r.passed, r.pagesRun, r.warnings)) = .ok (false, 0, []) := by
  decide +kernel

end Suite

end Walkthrough
