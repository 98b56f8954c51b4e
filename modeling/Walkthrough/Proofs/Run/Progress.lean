import Walkthrough.Proofs.Run.Course

/-! How far runs go. `Run.Reaches` says how many pages of a run are begun, which warnings those have that
pass, and what the pages come to; a run that passes tells all of it (`Runner.exists_reaches`). Whatever sees
to which addresses the page of a browser is sent sees one visit of the host for each page that is begun. -/

namespace Walkthrough

variable {π η : Type}

/-- From one scene to the other what is seen of the page stays the same. -/
def Scene.Same {α : Type} (f : π → α) (s t : Scene π) : Prop := f t.page = f s.page

instance {α : Type} (f : π → α) : IsPreorder (Scene π) (Scene.Same f) where
  refl _ := rfl
  trans _ _ _ h h' := h'.trans h

/-- The function sees to which addresses a page was sent: every call to go somewhere counts, and no other
call does. -/
structure Browser.Visits (b : Browser π η) (visits : π → List String) : Prop where
  navigate : ∀ url s, visits (b.navigate url s).2.page = visits s.page ++ [url]
  calls : b.Keeps (Scene.Same visits)
  recording : b.Recording (Scene.Same visits) fun _ => True

theorem visits_memoryBrowser (n : String) : (memoryBrowser n).Visits MemoryPage.visits where
  navigate url s := by
    show (MemoryPage.navigate url s.page).2.visits = _
    unfold MemoryPage.navigate MemoryPage.check
    dsimp only
    split
    · exact s.page.visits_note _
    · exact s.page.visits_note _
  calls :=
    { say := fun _ _ _ => (keeps_stayed n).say _ _ _ |>.mono fun _ _ h => h.visits
      call := fun calls => ((keeps_stayed n).call calls).mono fun _ _ h => h.visits }
  recording :=
    (recording_pictured n).mono fun _ _ h => h.stayed.visits

/-! ## What recording comes to -/

/-- The step copes with failures of the system: it fails with none. -/
def Act.Copes {σ α : Type} (act : Act σ α) : Prop :=
  ∀ s fault t, act s = (.error fault, t) → fault.isSystem = false

namespace Act.Copes

variable {σ α β : Type} {act : Act σ α} {next : α → Act σ β}

theorem pure {a : α} : Copes (Pure.pure a : Act σ α) := nofun

theorem bind (h : act.Copes) (h' : ∀ a, (next a).Copes) : (act >>= next).Copes := by
  intro s fault t hs
  rcases cases_of_bind_eq_error hs with first | ⟨a, s₁, -, rest⟩
  · exact h s fault t first
  · exact h' a s₁ fault t rest

theorem attempt : act.attempt.Copes := nofun

/-- What is failed with after failures of the system were sorted out. -/
theorem sorted {fault : Fault} {handled : Act σ α} (h : handled.Copes) :
    (if fault.isSystem then handled else Act.fail fault).Copes := by
  split
  · exact h
  · next other =>
    rintro _ _ _ ⟨⟩
    exact Bool.eq_false_iff.mpr other

theorem say {level : Level} {channel : Channel} {text : String} :
    Copes (Scene.say level channel text : Act (Scene π) Unit) := nofun

end Act.Copes

theorem Run.copes_logStep (directory : Option String) (entry : StepEntry) :
    (logStep directory entry : Act (Scene π) Unit).Copes := by
  unfold logStep
  split
  · exact .pure
  · refine .bind .attempt fun outcome => ?_
    cases outcome with
    | ok _ => exact .pure
    | error fault => exact .sorted .say

theorem Evidence.copes_systemPart {α : Type} (step : Act (Scene π) α) : (systemPart step).Copes := by
  refine .bind .attempt fun outcome => ?_
  cases outcome with
  | ok a => exact .pure
  | error fault => exact .sorted .pure

theorem Evidence.copes_collect (b : Browser π η) (directory : String) (page : FailedPage) :
    (collect b directory page).Copes := by
  have part {α : Type} (step : Act (Scene π) α) : (part step).Copes := .bind .attempt fun _ => .pure
  have parts : (collectParts b directory page.index).Copes :=
    .bind (part _) fun _ => .bind (part _) fun _ => .bind (part _) fun _ => .pure
  refine .bind (copes_systemPart _) fun outcome => ?_
  cases outcome with
  | error text => exact .bind .say fun _ => .pure
  | ok _ =>
    refine .bind parts fun parts => .bind (copes_systemPart _) fun outcome => ?_
    cases outcome with
    | ok _ => exact .pure
    | error text => exact .bind .say fun _ => .pure

theorem Run.copes_recordFailure (took : Scene π → UInt64) (b : Browser π η) (name : String)
    (directory : Option String) (index : Nat) (page : String) (fault : Fault) :
    (recordFailure took b name directory index page fault).Copes := by
  have logged : Act.Copes (do
      logStep directory ⟨index, page, false, took (← Act.get), [], some fault.message⟩ :
      Act (Scene π) Unit) := fun s => copes_logStep _ _ s
  refine .bind .say fun _ => ?_
  split
  · exact logged
  · exact .bind (Evidence.copes_collect b _ _) fun _ => logged

/-! ## How far runs go -/

namespace Run

section Pages

variable (runner : Runner π η) (r : Resolver π η) (host name : String) (directory : Option String)

/-- How far the pages of a run go from number `index` on: how many of them are begun, the warnings of those
that pass, page after page, whether all of them are recorded, and what they come to. -/
inductive Reaches : Nat → Scene π → List Turn → Nat → List String → Bool → Except Fault Unit → Scene π →
    Prop
  | done {index : Nat} {s : Scene π} : Reaches index s [] 0 [] true (.ok ()) s
  | failed {index : Nat} {s s₁ s₂ : Scene π} {turn : Turn} {rest : List Turn} {fault : Fault}
      (failed : runPage runner r host index turn s = (.error fault, s₁))
      (recorded : recordFailure (runner.stopwatch.took s) r.browser name directory index turn.page fault s₁ =
        (.ok (), s₂)) :
      Reaches index s (turn :: rest) 1 [] true (.error fault) s₂
  /-- If a page that fails cannot be recorded, the fault of that comes out instead of its own. -/
  | unrecorded {index : Nat} {s s₁ s₂ : Scene π} {turn : Turn} {rest : List Turn} {fault fault' : Fault}
      (failed : runPage runner r host index turn s = (.error fault, s₁))
      (recorded : recordFailure (runner.stopwatch.took s) r.browser name directory index turn.page fault s₁ =
        (.error fault', s₂)) :
      Reaches index s (turn :: rest) 1 [] false (.error fault') s₂
  /-- If a page that passes cannot be recorded, no other page follows. -/
  | unlogged {index : Nat} {s s₁ s₂ : Scene π} {turn : Turn} {rest : List Turn} {outcome : Outcome}
      {fault : Fault} (passed : runPage runner r host index turn s = (.ok outcome, s₁))
      (logged : logStep directory
        ⟨index, turn.page, true, runner.stopwatch.took s s₁, outcome.warnings, none⟩ s₁ = (.error fault, s₂)) :
      Reaches index s (turn :: rest) 1 outcome.warnings false (.error fault) s₂
  | passed {index k : Nat} {s s₁ s₂ s₃ : Scene π} {turn : Turn} {rest : List Turn} {outcome : Outcome}
      {said : List LogEntry} {warnings : List String} {kept : Bool} {ended : Except Fault Unit}
      (passed : runPage runner r host index turn s = (.ok outcome, s₁))
      (logged : logStep directory
        ⟨index, turn.page, true, runner.stopwatch.took s s₁, outcome.warnings, none⟩ s₁ = (.ok (), s₂))
      (next : Reaches (index + 1) { s₂ with log := s₂.log ++ said } rest k warnings kept ended s₃) :
      Reaches index s (turn :: rest) (k + 1) (outcome.warnings ++ warnings) kept ended s₃

end Pages

variable {runner : Runner π η} {r : Resolver π η} {host name : String} {directory : Option String}
  {index k : Nat} {s s' : Scene π} {turns : List Turn} {warnings : List String} {kept : Bool}
  {ended : Except Fault Unit}

/-- The result of pages that pass adds to that of the pages before. -/
theorem exists_reaches (runner : Runner π η) (r : Resolver π η) (host : String) (turns : List Turn)
    (index : Nat) (result : ScenarioResult) (hi : index = result.pagesRun + 1) (s : Scene π) :
    ∃ k warnings kept ended s', Reaches runner r host result.name result.runDirectory index s turns k
        warnings kept ended s' ∧
      runPages runner r host index result turns s = (ended.map fun _ => { result with
        warnings := result.warnings ++ warnings
        pagesRun := result.pagesRun + turns.length }, s') := by
  induction turns generalizing index result s with
  | nil => exact ⟨0, [], true, .ok (), s, .done, by simp [runPages, Except.map]⟩
  | cons turn rest ih =>
    cases taken : runPage runner r host index turn s with | mk outcome s₁
    cases outcome with
    | error fault =>
      cases recorded : recordFailure (runner.stopwatch.took s) r.browser result.name result.runDirectory
        index turn.page fault s₁ with | mk kept s₂
      have ended : runPages runner r host index result (turn :: rest) s = _ :=
        runPages_of_error taken recorded
      cases kept with
      | error fault' => exact ⟨1, [], false, _, s₂, .unrecorded taken recorded, ended⟩
      | ok _ => exact ⟨1, [], true, _, s₂, .failed taken recorded, ended⟩
    | ok outcome =>
      cases logged : logStep result.runDirectory
        ⟨index, turn.page, true, runner.stopwatch.took s s₁, outcome.warnings, none⟩ s₁ with | mk kept s₂
      cases kept with
      | error fault =>
        exact ⟨1, outcome.warnings, false, .error fault, s₂, .unlogged taken logged,
          runPages_of_unlogged taken logged⟩
      | ok _ =>
        obtain ⟨said, others⟩ := runPages_of_ok taken logged
        obtain ⟨k, warnings, kept, ended, s', reaches, next⟩ := ih (index + 1)
          { result with warnings := result.warnings ++ outcome.warnings, pagesRun := index } rfl
          { s₂ with log := s₂.log ++ said }
        refine ⟨k + 1, _, kept, ended, s', .passed taken logged reaches, others.trans (next.trans ?_)⟩
        have total : index + rest.length = result.pagesRun + (turn :: rest).length := by
          rw [hi, List.length_cons]
          omega
        simp only [List.append_assoc, total]

/-- That a page cannot be recorded is never a failure of the system. -/
theorem Reaches.not_isSystem
    (h : Reaches runner r host name directory index s turns k warnings false ended s') :
    ∃ fault, ended = .error fault ∧ fault.isSystem = false := by
  generalize eq : false = kept at h
  induction h with
  | done | failed => cases eq
  | unrecorded _ recorded => exact ⟨_, rfl, copes_recordFailure _ _ _ _ _ _ _ _ _ _ recorded⟩
  | unlogged _ logged => exact ⟨_, rfl, copes_logStep _ _ _ _ _ logged⟩
  | passed _ _ _ ih => exact ih eq

/-- What can be said of a page in memory can be written, if all can that a run can say. -/
theorem Recordable.of_runPage {runner : Runner MemoryPage String} {scenario : Scenario} {n : String}
    {s s₁ : Scene MemoryPage} {page : Page} {outcome : Except Fault Outcome}
    (recordable : Recordable runner.registry scenario s.page directory) (member : page ∈ scenario.pages)
    (taken : runPage runner (.onMemory n Lookup.all) scenario.host index page.turn s = (outcome, s₁)) :
    ∀ d ∈ namedDirectory directory, Writable runner.registry scenario s₁.page d ∧ Text.Proper page.name ∧
      Sound Outcome.Proper outcome := by
  intro d hd
  have writable := recordable d hd
  have tidy := tidy_runPage n index writable member s writable.page
  rw [taken] at tidy
  exact ⟨{ writable with page := tidy.2 }, (writable.scenario.pages _ member).name, tidy.1⟩

/-- Pages in memory are recorded if all that a run can say of them can be written. -/
theorem Reaches.kept_eq_true {runner : Runner MemoryPage String} {scenario : Scenario} {n : String}
    {s s' : Scene MemoryPage} {pages : List Page}
    (h : Reaches runner (.onMemory n Lookup.all) scenario.host name directory index s
      (pages.map Page.turn) k warnings kept ended s')
    (hp : ∀ page ∈ pages, page ∈ scenario.pages)
    (recordable : Recordable runner.registry scenario s.page directory) : kept = true := by
  generalize eq : pages.map Page.turn = turns at h
  induction h generalizing pages with
  | done | failed => rfl
  | @unrecorded index start s₁ _ _ _ fault _ failed recorded =>
    obtain ⟨page, pages, rfl, rfl, -⟩ := List.map_eq_cons_iff.mp eq
    have written := recordFailure_eq_ok (runner.stopwatch.took start) n name index page.name fault
      (recordable.of_runPage (hp page List.mem_cons_self) failed)
    cases (congrArg Prod.fst recorded).symm.trans written
  | @unlogged index start now _ _ _ outcome _ passed logged =>
    obtain ⟨page, pages, rfl, rfl, -⟩ := List.map_eq_cons_iff.mp eq
    let entry : StepEntry :=
      ⟨index, page.name, true, runner.stopwatch.took start now, outcome.warnings, none⟩
    have written := logStep_eq_ok entry fun d hd =>
      have ⟨writable, proper, sound⟩ :=
        recordable.of_runPage (hp page List.mem_cons_self) passed d hd
      ⟨writable, proper, sound, nofun⟩
    cases (congrArg Prod.fst logged).symm.trans written
  | passed passed logged _ ih =>
    obtain ⟨page, pages, rfl, rfl, rfl⟩ := List.map_eq_cons_iff.mp eq
    obtain ⟨member, members⟩ := List.forall_mem_cons.mp hp
    have same := (writes_logStep directory _).of_eq logged
    refine ih members (fun d hd => ?_) rfl
    obtain ⟨writable, -⟩ := recordable.of_runPage member passed d hd
    exact { writable with page := same.page ▸ writable.page }

/-- Pages that all pass are all begun. -/
theorem Reaches.eq_length
    (h : Reaches runner r host name directory index s turns k warnings kept (.ok ()) s') :
    k = turns.length := by
  generalize eq : Except.ok () = ended at h
  induction h with
  | done => rfl
  | failed | unrecorded | unlogged => cases eq
  | passed _ _ _ ih => rw [ih eq, List.length_cons]

/-- Where no page is begun there are no warnings. -/
theorem Reaches.warnings_eq_nil
    (h : Reaches runner r host name directory index s turns 0 warnings kept ended s') : warnings = [] := by
  cases h with
  | done => rfl

/-- A run goes to the host once for each page that it begins. -/
theorem Reaches.visits {visits : π → List String} (hv : r.browser.Visits visits)
    (hr : ∀ e ∈ runner.registry.strategies, ∀ a hook, hook.Keeps (Scene.Same visits) →
      Act.Keeps (Scene.Same visits) (e.2.perform r a hook))
    (h : Reaches runner r host name directory index s turns k warnings kept ended s') :
    visits s'.page = visits s.page ++ List.replicate k host := by
  have hook (page : String) (index : Nat) :
      (pageHook runner r.browser page index).Keeps (Scene.Same visits) :=
    keeps_pageHook hv.recording (Runner.pictures_anywhere _) page index
  have visit {index : Nat} {turn : Turn} {s : Scene π} {done : Except Fault Outcome × Scene π}
      (taken : runPage runner r host index turn s = done) :
      visits done.2.page = visits s.page ++ [host] := by
    have next : Act.Keeps (Scene.Same visits) (do
        checkExpected r turn.expected
        runner.registry.dispatch r turn.request (pageHook runner r.browser turn.page index)) :=
      .bind (within_checkExpected hv.calls.within _) fun _ =>
        runner.registry.within_dispatch hv.calls.within (fun e he a => hr e he a _ (hook _ _)) _
    have arrived := hv.navigate host s
    rw [← taken, runPage, Act.bind_apply]
    cases first : r.browser.navigate host s with | mk outcome s₁
    rw [first] at arrived
    cases outcome with
    | error fault => exact arrived
    | ok _ => exact (next s₁).trans arrived
  have log (entry : StepEntry) : Act.Keeps (Scene.Same visits) (logStep directory entry) :=
    keeps_logStep hv.recording.toFiling (fun _ _ _ _ => trivial) entry
  have record (took : Scene π → UInt64) (index : Nat) (page : String) (fault : Fault) :
      Act.Keeps (Scene.Same visits) (recordFailure took r.browser name directory index page fault) :=
    keeps_recordFailure hv.recording (fun _ _ _ _ => trivial) took name index page fault
  induction h with
  | done => exact (List.append_nil _).symm
  | failed taken recorded | unrecorded taken recorded =>
    exact ((record _ _ _ _).of_eq recorded).trans (visit taken)
  | unlogged taken logged => exact ((log _).of_eq logged).trans (visit taken)
  | passed taken logged _ ih =>
    rw [ih, List.replicate_succ, ← List.singleton_append, ← List.append_assoc]
    exact congrArg (· ++ _) (((log _).of_eq logged).trans (visit taken))

end Run

section

variable (runner : Runner π η) (scenario : Scenario) (b : Browser π η) (name : String)
  (directory : Option String)

/-- How far a run goes: it begins no page if its flags cannot be applied. -/
inductive Runner.Reaches (s : Scene π) : Nat → List String → Bool → Except Fault Unit → Scene π → Prop
  | unflagged {fault : Fault} {s' : Scene π} (failed : runner.begin scenario name s = (.error fault, s')) :
      Reaches s 0 [] true (.error fault) s'
  | flagged {k : Nat} {warnings : List String} {kept : Bool} {ended : Except Fault Unit}
      {begun s' : Scene π} {said : List LogEntry} (flagged : runner.begin scenario name s = (.ok (), begun))
      (pages : Run.Reaches runner ⟨b, Lookup.all⟩ scenario.host name directory 1 begun
        (scenario.pages.map Page.turn) k warnings kept ended s') :
      Reaches s k warnings kept ended { s' with log := s'.log ++ said }

/-- A run that passes tells how far it went. -/
theorem Runner.exists_reaches (s : Scene π) : ∃ k warnings kept ended s',
    runner.Reaches scenario b name directory s k warnings kept ended s' ∧
      runner.run scenario b name directory s = (ended.map fun _ =>
        { name := name, passed := true, warnings := warnings, pagesRun := scenario.pages.length
          runDirectory := directory }, s') := by
  cases begun : runner.begin scenario name s with | mk outcome s₁
  cases outcome with
  | error fault =>
    refine ⟨0, [], true, .error fault, s₁, .unflagged begun, ?_⟩
    rw [run, play, List.length_map]
    exact (Act.bind_of_ok rfl).trans (Act.bind_of_error begun)
  | ok _ =>
    obtain ⟨k, warnings, kept, ended, s', reaches, pages⟩ := Run.exists_reaches runner ⟨b, Lookup.all⟩
      scenario.host (scenario.pages.map Page.turn) 1
      { name := name, passed := false, runDirectory := directory } rfl s₁
    simp only [List.nil_append, Nat.zero_add, List.length_map] at pages
    rw [run_apply begun, Act.bind_apply, pages]
    cases ended with
    | error fault =>
      have silent : runner.Reaches scenario b name directory s k warnings kept (.error fault)
          { s' with log := s'.log ++ [] } := .flagged begun reaches
      rw [List.append_nil] at silent
      exact ⟨k, warnings, kept, .error fault, s', silent, rfl⟩
    | ok _ => exact ⟨k, warnings, kept, .ok (), _, .flagged begun reaches, rfl⟩

variable {runner scenario b name directory} {s s' : Scene π} {k : Nat} {warnings : List String}
  {kept : Bool} {ended : Except Fault Unit}

theorem Runner.Reaches.eq_length
    (h : runner.Reaches scenario b name directory s k warnings kept (.ok ()) s') :
    k = scenario.pages.length := by
  cases h with
  | flagged _ pages => rw [pages.eq_length, List.length_map]

theorem Runner.Reaches.warnings_eq_nil
    (h : runner.Reaches scenario b name directory s 0 warnings kept ended s') : warnings = [] := by
  cases h with
  | unflagged => rfl
  | flagged _ pages => exact pages.warnings_eq_nil

theorem Runner.Reaches.visits {visits : π → List String} (hv : b.Visits visits)
    (hf : Act.Keeps (Scene.Same visits) (runner.flags scenario.features))
    (hr : ∀ e ∈ runner.registry.strategies, ∀ a hook, hook.Keeps (Scene.Same visits) →
      Act.Keeps (Scene.Same visits) (e.2.perform ⟨b, Lookup.all⟩ a hook))
    (h : runner.Reaches scenario b name directory s k warnings kept ended s') :
    visits s'.page = visits s.page ++ List.replicate k scenario.host := by
  have begun : Act.Keeps (Scene.Same visits) (runner.begin scenario name) :=
    .bind (hv.calls.say _ _ _) fun _ => hf
  have first := begun s
  cases h with
  | unflagged failed =>
    rw [failed] at first
    exact first.trans (List.append_nil _).symm
  | flagged flagged pages =>
    rw [flagged] at first
    exact (pages.visits hv hr).trans (congrArg (· ++ _) first)

end

end Walkthrough
