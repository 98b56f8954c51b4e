import Walkthrough.Proofs.Run.Staying

/-! The course of a run: page after page, until one fails. `Leg` is what a run does for one page and
`Course` what it does for all of them, from where the flags left it. A run ends as its course does: as its
pages do, unless recording them fails. It does not fail if all that a run can say of its pages can be
written. -/

namespace Walkthrough

/-! ## Expected values -/

/-- What a field of a page shows, as far as it can be read. -/
def Resolver.shows (r : Resolver MemoryPage String) (p : MemoryPage) (target : String) :
    Except Fault String :=
  (r.valueOf target { page := p }).1

namespace Run

variable {n : String} {lookups : List Lookup} {p : MemoryPage} {s : Scene MemoryPage}

/-- How comparing fields with what is expected of them ends on a page. The first field decides that cannot
be read or shows something else. -/
inductive Compared (r : Resolver MemoryPage String) (p : MemoryPage) :
    List Expected → Except Fault Unit → Prop
  | equal {es : List Expected} (h : ∀ e ∈ es, r.shows p e.target = .ok e.value) :
      Compared r p es (.ok ())
  | unread (before : List Expected) {rest : List Expected} {e : Expected} {fault : Fault}
      (h : ∀ b ∈ before, r.shows p b.target = .ok b.value)
      (unread : r.shows p e.target = .error fault) : Compared r p (before ++ e :: rest) (.error fault)
  | differs (before : List Expected) {rest : List Expected} {e : Expected} {actual : String}
      (h : ∀ b ∈ before, r.shows p b.target = .ok b.value)
      (shows : r.shows p e.target = .ok actual) (other : actual ≠ e.value) :
      Compared r p (before ++ e :: rest) (.error (.mismatch e.target e.value (some actual)))

theorem Compared.cons {r : Resolver MemoryPage String} {e : Expected} {es : List Expected}
    {outcome : Except Fault Unit} (he : r.shows p e.target = .ok e.value)
    (h : Compared r p es outcome) : Compared r p (e :: es) outcome := by
  cases h with
  | equal h => exact .equal (List.forall_mem_cons.mpr ⟨he, h⟩)
  | unread before h hu => exact .unread (e :: before) (List.forall_mem_cons.mpr ⟨he, h⟩) hu
  | differs before h hs ho =>
    exact .differs (e :: before) (List.forall_mem_cons.mpr ⟨he, h⟩) hs ho

theorem valueOf_apply (n : String) (lookups : List Lookup) (target : String)
    (h : p.unasked = s.page.unasked) :
    ∃ asked said, (Resolver.onMemory n lookups).valueOf target s =
      ((Resolver.onMemory n lookups).shows p target, s.after asked said) := by
  have value := Resolver.enquires_valueOf n lookups target
  obtain ⟨asked, said, -, after⟩ := value.asks s
  exact ⟨asked, said, Prod.ext (value.outcome { page := p } s h) after⟩

/-- Comparing asks the page and changes nothing of it. -/
theorem exists_checkExpected (n : String) (lookups : List Lookup) (es : List Expected)
    (h : p.unasked = s.page.unasked) :
    ∃ outcome asked said, Compared (.onMemory n lookups) p es outcome ∧
      checkExpected (.onMemory n lookups) es s = (outcome, s.after asked said) := by
  -- Reading a field adds look-ups to the scene, and `p` stays as it is: `h` is what is left of their equality.
  induction es generalizing s with
  | nil => exact ⟨.ok (), [], [], .equal nofun, congrArg _ s.after_nil.symm⟩
  | cons e es ih =>
    obtain ⟨asked, said, value⟩ := valueOf_apply n lookups e.target h
    rw [checkExpected, Act.bind_apply, value]
    cases shows : (Resolver.onMemory n lookups).shows p e.target with
    | error fault => exact ⟨.error fault, asked, said, .unread [] nofun shows, rfl⟩
    | ok actual =>
      by_cases equal : actual = e.value
      · subst equal
        let entry : LogEntry := ⟨.debug, .run, "field '" ++ e.target ++ "' has expected value"⟩
        obtain ⟨outcome, more, further, compared, rest⟩ :=
          ih (s := s.after (asked ++ []) (said ++ [entry])) h
        refine ⟨outcome, asked ++ [] ++ more, said ++ [entry] ++ further, compared.cons shows, ?_⟩
        dsimp only
        rw [if_pos rfl, Act.bind_apply, Scene.say_apply, Scene.after_append]
        exact rest.trans (by rw [Scene.after_append])
      · refine ⟨_, asked, said, .differs [] nofun shows equal, ?_⟩
        dsimp only
        rw [if_neg equal]
        rfl

end Run

/-! ## One page -/

/-- The scene with its page at a host. -/
def Scene.arrived (s : Scene MemoryPage) (host : String) : Scene MemoryPage :=
  { s with page := { s.page.note (.navigate host) with url := some host } }

namespace Run

section Pages

variable (registry : Registry MemoryPage String) (hook : String → Nat → Hook MemoryPage String)
  (n host : String)

/-- What a run does for one page: it goes to the host, compares what is shown with what is expected, and
performs the action if nothing differs. -/
inductive Leg (index : Nat) (turn : Turn) (s : Scene MemoryPage) :
    Except Fault Outcome → Scene MemoryPage → Prop
  /-- The host is not reached. -/
  | unreached {fault : Fault} (failed : Assoc.get? .navigate s.page.failures = some fault) :
      Leg index turn s (.error fault) { s with page := s.page.note (.navigate host) }
  /-- An expected value is not shown. -/
  | stopped {fault : Fault} {asked : List Locator} {said : List LogEntry}
      (reached : Assoc.get? .navigate s.page.failures = none)
      (compared : Compared (.onMemory n Lookup.all) (s.arrived host).page turn.expected
        (.error fault)) :
      Leg index turn s (.error fault) ((s.arrived host).after asked said)
  /-- The action is performed on the page that was compared. -/
  | acted {asked : List Locator} {said : List LogEntry} {outcome : Except Fault Outcome}
      {s' : Scene MemoryPage} (reached : Assoc.get? .navigate s.page.failures = none)
      (compared : Compared (.onMemory n Lookup.all) (s.arrived host).page turn.expected (.ok ()))
      (performed : registry.dispatch (.onMemory n Lookup.all) turn.request (hook turn.page index)
        ((s.arrived host).after asked said) = (outcome, s')) :
      Leg index turn s outcome s'

variable (stopwatch : Stopwatch) (name : String) (directory : Option String)

/-- The pages of a run from number `index` on: to how many of them it goes; what they come to, the warnings
of their actions page after page or the fault of the page that fails; and whether they are recorded. -/
inductive Course : Nat → Scene MemoryPage → List Turn → Nat → Except Fault (List String) →
    Except Fault Unit → Scene MemoryPage → Prop
  | done {index : Nat} {s : Scene MemoryPage} : Course index s [] 0 (.ok []) (.ok ()) s
  /-- A page that fails is recorded, at most with pictures of it, and no other page follows. -/
  | failed {index : Nat} {s s₁ s₂ : Scene MemoryPage} {turn : Turn} {rest : List Turn}
      {fault : Fault} {kept : Except Fault Unit}
      (leg : Leg registry hook n host index turn s (.error fault) s₁)
      (recorded : recordFailure (stopwatch.took s) (memoryBrowser n) name directory index turn.page fault s₁ =
        (kept, s₂)) (pictured : s₁.Pictured s₂) :
      Course index s (turn :: rest) 1 (.error fault) kept s₂
  /-- If a page that passes cannot be recorded, no other page follows. -/
  | unlogged {index : Nat} {s s₁ s₂ : Scene MemoryPage} {turn : Turn} {rest : List Turn}
      {outcome : Outcome} {fault : Fault} (leg : Leg registry hook n host index turn s (.ok outcome) s₁)
      (logged : logStep directory ⟨index, turn.page, true, stopwatch.took s s₁, outcome.warnings, none⟩ s₁ =
        (.error fault, s₂)) (same : s₁.SameStage s₂) :
      Course index s (turn :: rest) 1 (.ok outcome.warnings) (.error fault) s₂
  /-- The next page begins where the action of this one ended. -/
  | passed {index k : Nat} {s s₁ s₂ s₃ : Scene MemoryPage} {turn : Turn} {rest : List Turn}
      {outcome : Outcome} {said : List LogEntry} {ended : Except Fault (List String)}
      {kept : Except Fault Unit} (leg : Leg registry hook n host index turn s (.ok outcome) s₁)
      (logged : logStep directory ⟨index, turn.page, true, stopwatch.took s s₁, outcome.warnings, none⟩ s₁ =
        (.ok (), s₂)) (same : s₁.SameStage s₂)
      (next : Course (index + 1) { s₂ with log := s₂.log ++ said } rest k ended kept s₃) :
      Course index s (turn :: rest) (k + 1) (ended.map (outcome.warnings ++ ·)) kept s₃

end Pages

theorem navigate_apply (n host : String) (s : Scene MemoryPage) :
    (memoryBrowser n).navigate host s = match Assoc.get? .navigate s.page.failures with
      | some fault => (.error fault, { s with page := s.page.note (.navigate host) })
      | none => (.ok (), s.arrived host) := by
  show Scene.onPage (MemoryPage.navigate host) s = _
  unfold Scene.onPage MemoryPage.navigate MemoryPage.check
  dsimp only [MemoryPage.note]
  cases Assoc.get? PageCall.navigate s.page.failures with
  | some fault => rfl
  | none => rfl

theorem leg_of_runPage (runner : Runner MemoryPage String) (n host : String) (index : Nat)
    (turn : Turn) (s : Scene MemoryPage) :
    let done := runPage runner (.onMemory n Lookup.all) host index turn s
    Leg runner.registry (pageHook runner (memoryBrowser n)) n host index turn s done.1 done.2 := by
  dsimp only
  rw [runPage, Act.bind_apply, navigate_apply]
  cases reached : Assoc.get? PageCall.navigate s.page.failures with
  | some fault => exact .unreached reached
  | none =>
    obtain ⟨outcome, asked, said, compared, checked⟩ :=
      exists_checkExpected n Lookup.all turn.expected (s := s.arrived host) rfl
    dsimp only
    rw [Act.bind_apply, checked]
    cases outcome with
    | error fault => exact .stopped reached compared
    | ok _ => exact .acted reached compared rfl

end Run

/-! ## Visits and flags -/

namespace Scene

/-- From one scene to the other the page was sent to the addresses and no flags were applied. -/
structure Visited (s t : Scene MemoryPage) (urls : List String) : Prop where
  visits : t.page.visits = s.page.visits ++ urls
  flagSets : t.flagSets = s.flagSets
  cacheClears : t.cacheClears = s.cacheClears

variable {s t u : Scene MemoryPage} {urls more : List String}

theorem Stayed.visited (h : s.Stayed t) : s.Visited t [] :=
  ⟨h.visits.trans (List.append_nil _).symm, h.flagSets, h.cacheClears⟩

theorem Visited.trans (h : s.Visited t urls) (h' : t.Visited u more) : s.Visited u (urls ++ more) where
  visits := by rw [h'.visits, h.visits, List.append_assoc]
  flagSets := h'.flagSets.trans h.flagSets
  cacheClears := h'.cacheClears.trans h.cacheClears

end Scene

namespace Run

variable {registry : Registry MemoryPage String} {hook : String → Nat → Hook MemoryPage String}
  {stopwatch : Stopwatch} {n host name : String} {directory : Option String} {index k : Nat} {turn : Turn}
  {turns : List Turn} {s s' : Scene MemoryPage}

theorem Leg.visited (hr : ∀ e ∈ registry.strategies, e.2.Stays)
    (hh : ∀ page index, (hook page index).Stays) {outcome : Except Fault Outcome}
    (h : Leg registry hook n host index turn s outcome s') : s.Visited s' [host] := by
  have noted : (s.page.note (.navigate host)).visits = s.page.visits ++ [host] :=
    s.page.visits_note _
  cases h with
  | unreached => exact ⟨noted, rfl, rfl⟩
  | stopped => exact ⟨noted, rfl, rfl⟩
  | @acted asked said _ _ reached compared performed =>
    have stayed := registry.stays_dispatch hr n Lookup.all turn.request (hh turn.page index)
      ((s.arrived host).after asked said)
    rw [performed] at stayed
    exact ⟨stayed.visits.trans noted, stayed.flagSets, stayed.cacheClears⟩

/-- A run goes to the host once for each page, and applies no flags on its way. -/
theorem Course.visited (hr : ∀ e ∈ registry.strategies, e.2.Stays)
    (hh : ∀ page index, (hook page index).Stays) {ended : Except Fault (List String)}
    {kept : Except Fault Unit}
    (h : Course registry hook n host stopwatch name directory index s turns k ended kept s') :
    s.Visited s' (List.replicate k host) := by
  induction h with
  | @done _ s => exact (refl_of Scene.Stayed s).visited
  | failed leg _ pictured => exact (leg.visited hr hh).trans pictured.stayed.visited
  | unlogged leg _ same => exact (leg.visited hr hh).trans same.pictured.stayed.visited
  | @passed _ _ _ s₁ s₂ _ _ _ _ said _ _ leg _ same _ ih =>
    have same : s₁.SameStage { s₂ with log := s₂.log ++ said } := { same with }
    exact ((leg.visited hr hh).trans same.pictured.stayed.visited).trans ih

end Run

/-! ## Words that can be written -/

/-- From a proper page the step ends with a proper value or a fault that speaks, and leaves a proper
page. -/
def Tidy {α : Type} (P : α → Prop) (act : Act (Scene MemoryPage) α) : Prop :=
  ∀ s : Scene MemoryPage, s.page.Proper → Sound P (act s).1 ∧ (act s).2.page.Proper

namespace Tidy

variable {α β : Type} {P : α → Prop} {Q : β → Prop} {act : Act (Scene MemoryPage) α}

/-- A step that agrees with itself. -/
theorem of_agree (h : Agree (Same P) act act) : Tidy P act := fun s hs =>
  have ⟨outcomes, twins⟩ := h s s ⟨⟨rfl, rfl, rfl, rfl, rfl⟩, hs, hs⟩
  ⟨outcomes.same.2, twins.left⟩

theorem fail {fault : Fault} (h : Speaks fault) : Tidy P (Act.fail fault) := fun _ hs => ⟨h, hs⟩

theorem bind {next : α → Act (Scene MemoryPage) β} (h : Tidy P act)
    (h' : ∀ a, P a → Tidy Q (next a)) : Tidy Q (act >>= next) := by
  intro s hs
  have ⟨sound, proper⟩ := h s hs
  rw [Act.bind_apply]
  cases eq : act s with | mk outcome s₁
  rw [eq] at sound proper
  cases outcome with
  | error fault => exact ⟨sound, proper⟩
  | ok a => exact h' a sound s₁ proper

end Tidy

/-- A strategy that is tidy on proper actions, whichever hook watches. -/
def Strategy.Tidy (s : Strategy MemoryPage String) : Prop :=
  ∀ (n : String) (lookups : List Lookup) (action : Action) (hook : Hook MemoryPage String),
    action.Proper → hook.Quiet →
      Walkthrough.Tidy Outcome.Proper (s.perform (.onMemory n lookups) action hook)

theorem Strategy.Blind.tidy {s : Strategy MemoryPage String} (h : s.Blind) : s.Tidy :=
  fun n lookups action hook ha hh => .of_agree (h n n lookups action hook hook ha hh hh)

theorem Registry.tidy_dispatch {registry : Registry MemoryPage String}
    (hr : ∀ e ∈ registry.strategies, e.2.Tidy) (n : String) (lookups : List Lookup) {action : Action}
    (ha : action.Proper) {hook : Hook MemoryPage String} (h : hook.Quiet) :
    Tidy Outcome.Proper (registry.dispatch (.onMemory n lookups) (.action action) hook) := by
  unfold dispatch
  dsimp only [Request.action?]
  cases hs : Assoc.get? action.type registry.strategies with
  | none => exact .fail (speaks_noStrategy _ _)
  | some strategy =>
    have tidy := hr _ (Assoc.mem_of_get? hs)
    exact .bind (.of_agree .say) fun _ _ => tidy n lookups action hook ha h

/-- What a run says of its pages can be written to its directory. -/
structure Run.Writable (registry : Registry MemoryPage String) (scenario : Scenario)
    (p : MemoryPage) (directory : String) : Prop where
  strategies : ∀ e ∈ registry.strategies, ¬ e.2.IsStandard → e.2.Tidy
  scenario : scenario.Proper
  page : p.Proper
  name : Text.Proper directory
  path : '\x00' ∉ directory.toList

namespace Run

variable {registry : Registry MemoryPage String} {scenario : Scenario} {s : Scene MemoryPage}
  {directory : Option String} {n : String}

/-- A run without a directory, or with one to which all it says can be written. -/
def Recordable (registry : Registry MemoryPage String) (scenario : Scenario) (p : MemoryPage)
    (directory : Option String) : Prop :=
  ∀ d ∈ namedDirectory directory, Writable registry scenario p d

theorem tidy_runPage {runner : Runner MemoryPage String} {d : String} (n : String) (index : Nat)
    (h : Writable runner.registry scenario s.page d) {page : Page} (hp : page ∈ scenario.pages) :
    Tidy Outcome.Proper
      (runPage runner (.onMemory n Lookup.all) scenario.host index page.turn) := by
  have strategies : ∀ e ∈ runner.registry.strategies, e.2.Tidy := fun e he => by
    by_cases standard : e.2.IsStandard
    · exact standard.blind.tidy
    · exact h.strategies e he standard
  have page := h.scenario.pages _ hp
  have arrive := MemoryPage.parallel_navigate h.scenario.host
  refine .bind (.of_agree (.onPage arrive)) fun _ _ => ?_
  refine .bind (.of_agree (agree_checkExpected n n page.expected)) fun _ _ => ?_
  exact runner.registry.tidy_dispatch strategies n _ page.action (quiet_pageHook runner n _ _)

theorem Writable.nameable {d : String} (h : Writable registry scenario s.page d)
    (hd : namedDirectory directory = some d) : Nameable directory := fun d' hd' => by
  obtain rfl := Option.mem_unique (mem_of_namedDirectory hd) hd'
  exact ⟨h.name, h.path⟩

/-- An entry of a page that passed is written to the log of a run. -/
theorem logStep_eq_ok (entry : StepEntry)
    (h : ∀ d ∈ namedDirectory directory, Writable registry scenario s.page d ∧ ProperEntry entry) :
    (logStep directory entry s).1 = .ok () := by
  cases hd : namedDirectory directory with
  | none =>
    rw [logStep, hd]
    rfl
  | some d =>
    obtain ⟨writable, entry⟩ := h d hd
    exact (succeeds_logStep (writable.nameable hd) entry s writable.page).1.exists_ok.choose_spec

/-- A page that failed is recorded. -/
theorem recordFailure_eq_ok (took : Scene MemoryPage → UInt64) (n name : String) (index : Nat)
    (page : String) (fault : Fault) (h : ∀ d ∈ namedDirectory directory,
      Writable registry scenario s.page d ∧ Text.Proper page ∧ Speaks fault) :
    (recordFailure took (memoryBrowser n) name directory index page fault s).1 = .ok () := by
  cases hd : namedDirectory directory with
  | none =>
    have silent (entry : StepEntry) (t : Scene MemoryPage) : logStep directory entry t = (.ok (), t) := by
      rw [logStep, hd]
      rfl
    rw [recordFailure, hd]
    exact congrArg Prod.fst (silent _ _)
  | some d =>
    obtain ⟨writable, proper, speaks⟩ := h d hd
    have recorded := succeeds_recordFailure took n name (writable.nameable hd) index proper speaks
    exact (recorded s writable.page).1.exists_ok.choose_spec

/-! ## The whole run -/

section Pages

variable {π η : Type} {runner : Runner π η} {r : Resolver π η} {host : String} {index : Nat}
  {result : ScenarioResult} {turn : Turn} {rest : List Turn} {outcome : Outcome} {fault : Fault}
  {s s₁ s₂ : Scene π}

theorem runPages_of_error {kept : Except Fault Unit}
    (failed : runPage runner r host index turn s = (.error fault, s₁))
    (recorded : recordFailure (runner.stopwatch.took s) r.browser result.name result.runDirectory index
      turn.page fault s₁ = (kept, s₂)) :
    runPages runner r host index result (turn :: rest) s =
      (kept.bind fun _ => .error fault, s₂) := by
  rw [runPages, Act.get_bind_apply, Act.bind_apply, Act.attempt_apply, failed]
  dsimp only
  rw [Act.bind_apply, recorded]
  cases kept with
  | error fault' => rfl
  | ok _ => rfl

theorem runPages_of_unlogged (passed : runPage runner r host index turn s = (.ok outcome, s₁))
    (logged : logStep result.runDirectory
      ⟨index, turn.page, true, runner.stopwatch.took s s₁, outcome.warnings, none⟩ s₁ = (.error fault, s₂)) :
    runPages runner r host index result (turn :: rest) s = (.error fault, s₂) := by
  rw [runPages, Act.get_bind_apply, Act.bind_apply, Act.attempt_apply, passed]
  dsimp only
  rw [Act.get_bind_apply, Act.bind_apply, logged]

theorem runPages_of_ok (passed : runPage runner r host index turn s = (.ok outcome, s₁))
    (logged : logStep result.runDirectory
      ⟨index, turn.page, true, runner.stopwatch.took s s₁, outcome.warnings, none⟩ s₁ = (.ok (), s₂)) :
    ∃ said, runPages runner r host index result (turn :: rest) s =
      runPages runner r host (index + 1)
        { result with warnings := result.warnings ++ outcome.warnings, pagesRun := index } rest
        { s₂ with log := s₂.log ++ said } := by
  rw [runPages, Act.get_bind_apply, Act.bind_apply, Act.attempt_apply, passed]
  exact ⟨_, Act.bind_of_ok logged⟩

end Pages

variable {runner : Runner MemoryPage String}

/-- The pages of a run from number `index` on take their course, and the result adds to that of the pages
before what they come to. -/
theorem exists_course (n : String) {pages : List Page} (hp : ∀ page ∈ pages, page ∈ scenario.pages)
    (index : Nat) (result : ScenarioResult) (hi : index = result.pagesRun + 1)
    (s : Scene MemoryPage) :
    ∃ k ended kept s', Course runner.registry (pageHook runner (memoryBrowser n)) n scenario.host
        runner.stopwatch result.name result.runDirectory index s (pages.map Page.turn) k ended kept s' ∧
      runPages runner (.onMemory n Lookup.all) scenario.host index result (pages.map Page.turn) s =
        (kept.bind fun _ => ended.map fun warnings => { result with
          warnings := result.warnings ++ warnings
          pagesRun := result.pagesRun + pages.length }, s') ∧
      (Recordable runner.registry scenario s.page result.runDirectory → kept = .ok ()) := by
  -- That the page stays proper is what makes the next pages recordable too.
  induction pages generalizing index result s with
  | nil => exact ⟨0, .ok [], .ok (), s, .done, by simp [runPages, Except.bind, Except.map], fun _ => rfl⟩
  | cons page pages ih =>
    have ⟨member, members⟩ := List.forall_mem_cons.mp hp
    have leg := leg_of_runPage runner n scenario.host index page.turn s
    have tidy {d : String} (h : Writable runner.registry scenario s.page d) :=
      tidy_runPage n index h member s h.page
    cases eq : runPage runner (.onMemory n Lookup.all) scenario.host index page.turn s with
    | mk outcome s₁
    rw [eq] at leg tidy
    have writable {d : String} (h : Writable runner.registry scenario s.page d) :
        Writable runner.registry scenario s₁.page d := { h with page := (tidy h).2 }
    have name {d : String} (h : Writable runner.registry scenario s.page d) : Text.Proper page.name :=
      (h.scenario.pages _ member).name
    cases outcome with
    | error fault =>
      cases recorded : recordFailure (runner.stopwatch.took s) (memoryBrowser n) result.name
        result.runDirectory index page.name fault s₁ with | mk kept s₂
      have pictured := records_recordFailure (runner.stopwatch.took s) n result.name result.runDirectory
        index page.name fault s₁
      rw [recorded] at pictured
      refine ⟨1, .error fault, kept, s₂, .failed leg recorded pictured,
        runPages_of_error eq recorded, fun h => ?_⟩
      have written := recordFailure_eq_ok (runner.stopwatch.took s) n result.name index page.name fault
        fun d hd => ⟨writable (h d hd), name (h d hd), (tidy (h d hd)).1⟩
      rwa [recorded] at written
    | ok outcome =>
      let entry : StepEntry :=
        ⟨index, page.name, true, runner.stopwatch.took s s₁, outcome.warnings, none⟩
      have same := writes_logStep result.runDirectory entry s₁
      have written (h : Recordable runner.registry scenario s.page result.runDirectory) :=
        logStep_eq_ok entry fun d hd =>
          ⟨writable (h d hd), name (h d hd), (tidy (h d hd)).1, nofun⟩
      cases logged : logStep result.runDirectory entry s₁ with | mk kept s₂
      rw [logged] at same written
      cases kept with
      | error fault =>
        exact ⟨1, .ok outcome.warnings, .error fault, s₂, .unlogged leg logged same,
          runPages_of_unlogged eq logged, written⟩
      | ok _ =>
        obtain ⟨said, others⟩ := runPages_of_ok eq logged
        obtain ⟨k, ended, kept, s', course, rest, recorded⟩ := ih members (index + 1)
          { result with warnings := result.warnings ++ outcome.warnings, pagesRun := index } rfl
          { s₂ with log := s₂.log ++ said }
        refine ⟨k + 1, _, kept, s', .passed leg logged same course, others.trans (rest.trans ?_),
          fun h => recorded fun d hd =>
            { writable (h d hd) with page := same.page ▸ (writable (h d hd)).page }⟩
        have total : index + pages.length = result.pagesRun + (page :: pages).length := by
          rw [hi, List.length_cons]
          omega
        cases ended with
        | error fault => rfl
        | ok warnings => simp only [Except.map, List.append_assoc, total]

end Run

/-- What a run does before its first page: it applies the flags of the scenario. -/
def Runner.begin {π η : Type} (runner : Runner π η) (scenario : Scenario) (name : String) :
    Act (Scene π) Unit := do
  Scene.say .info .run ("running scenario " ++ name ++ " against " ++ scenario.host ++ " (" ++
    toString scenario.pages.length ++ " pages)")
  runner.flags scenario.features

/-- After its flags a run takes its pages and says that it passed. -/
theorem Runner.run_apply {π η : Type} {runner : Runner π η} {scenario : Scenario} {b : Browser π η}
    {name : String} {directory : Option String} {s begun : Scene π}
    (h : runner.begin scenario name s = (.ok (), begun)) :
    runner.run scenario b name directory s = (do
      let result ← Run.runPages runner ⟨b, Lookup.all⟩ scenario.host 1
        { name := name, passed := false, runDirectory := directory } (scenario.pages.map Page.turn)
      Scene.say .info .run ("scenario " ++ name ++ " passed")
      return { result with passed := true }) begun := by
  rw [run, play, List.length_map]
  exact (Act.bind_of_ok rfl).trans (Act.bind_of_ok h)

/-- After its flags a run takes its pages in their course and ends as that does, unless recording fails. -/
theorem Runner.exists_course (runner : Runner MemoryPage String) (scenario : Scenario) (n name : String)
    (directory : Option String) {s begun : Scene MemoryPage}
    (flagged : runner.begin scenario name s = (.ok (), begun)) :
    let done := runner.run scenario (memoryBrowser n) name directory s
    ∃ k ended kept s', Run.Course runner.registry (Run.pageHook runner (memoryBrowser n)) n
        scenario.host runner.stopwatch name directory 1 begun (scenario.pages.map Page.turn) k ended kept s' ∧
      done.1 = (kept.bind fun _ => ended.map fun warnings =>
        { name := name, passed := true, warnings := warnings, pagesRun := scenario.pages.length
          runDirectory := directory }) ∧
      s'.SameStage done.2 ∧
      (Run.Recordable runner.registry scenario begun.page directory → kept = .ok ()) := by
  intro done
  obtain ⟨k, ended, kept, s', course, pages, recorded⟩ := Run.exists_course n (fun _ h => h) 1
    { name := name, passed := false, runDirectory := directory } rfl begun
  simp only [List.nil_append, Nat.zero_add] at pages
  have ending : done.1 = (kept.bind fun _ => ended.map fun warnings =>
      { name := name, passed := true, warnings := warnings, pagesRun := scenario.pages.length
        runDirectory := directory }) ∧ s'.SameStage done.2 := by
    have taken : done = _ := (Runner.run_apply flagged).trans (Act.bind_apply ..)
    rw [taken, pages]
    cases kept with
    | error fault => exact ⟨rfl, refl_of _ s'⟩
    | ok _ =>
      cases ended with
      | error fault => exact ⟨rfl, refl_of _ s'⟩
      | ok warnings => exact ⟨rfl, rfl, rfl, rfl⟩
  exact ⟨k, ended, kept, s', course, ending.1, ending.2, recorded⟩

/-- Strategies of the program stay, and so do those of a registry if the others do. -/
theorem Registry.stays_of_outside {registry : Registry MemoryPage String}
    (outside : ∀ e ∈ registry.strategies, ¬ e.2.IsStandard → e.2.Stays) :
    ∀ e ∈ registry.strategies, e.2.Stays := fun e he => by
  by_cases standard : e.2.IsStandard
  · exact standard.stays
  · exact outside e he standard

/-- A run takes its pages in their course from where the flags left them. Unless recording them fails, it
ends as the course does: with the fault of the page that failed, or with the warnings of all pages.
Recording does not fail if there is no directory, or if all that a run can say can be written to it. If the
strategies from outside stay, the run goes to the host once for each page of the course, and no flags are
applied again. -/
theorem Runner.run_course (runner : Runner MemoryPage String) (scenario : Scenario) (n name : String)
    (directory : Option String) {s : Scene MemoryPage}
    (hf : (runner.begin scenario name s).1 = .ok ()) :
    let begun := (runner.begin scenario name s).2
    let done := runner.run scenario (memoryBrowser n) name directory s
    ∃ k ended kept s', Run.Course runner.registry (Run.pageHook runner (memoryBrowser n)) n
        scenario.host runner.stopwatch name directory 1 begun (scenario.pages.map Page.turn) k ended kept s' ∧
      done.1 = (kept.bind fun _ => ended.map fun warnings =>
        { name := name, passed := true, warnings := warnings, pagesRun := scenario.pages.length
          runDirectory := directory }) ∧
      s'.SameStage done.2 ∧
      (Run.Recordable runner.registry scenario begun.page directory → kept = .ok ()) ∧
      ((∀ e ∈ runner.registry.strategies, ¬ e.2.IsStandard → e.2.Stays) →
        begun.Visited done.2 (List.replicate k scenario.host)) := by
  intro begun done
  obtain ⟨k, ended, kept, s', course, outcome, stage, recorded⟩ :=
    runner.exists_course scenario n name directory
      (Prod.ext hf rfl : runner.begin scenario name s = (.ok (), begun))
  refine ⟨k, ended, kept, s', course, outcome, stage, recorded, fun outside => ?_⟩
  have visited := (course.visited (Registry.stays_of_outside outside)
    (Run.stays_pageHook runner n)).trans stage.pictured.stayed.visited
  rwa [List.append_nil] at visited

/-- A page with a field to search in and the number of results. -/
def shop : MemoryPage where
  elements := [("query", { attributes := [("value", some "")] }), ("results", { text := "1" })]
  places := [(.byAttribute "title" "Search" [] false, "query"),
    (.byAttribute "title" "Results" [] false, "results")]

/-- Searching, and comparing what is found. -/
def search : Scenario where
  host := "http://shop"
  features := [("F", ⟨"F", true, []⟩)]
  pages := [⟨"Search", .enter (some "Search") (some "tea"), [⟨"Search", ""⟩]⟩,
    ⟨"Results", .click (some "Next"), [⟨"Search", "tea"⟩, ⟨"Results", "2"⟩]⟩]

/-- A runner with a strategy for entering values and one for clicking. -/
def searcher : Runner MemoryPage String :=
  ⟨⟨[(.click, .click), (.enter, .enter {})]⟩, .recording, some ⟨fun _ => {}⟩, {},
    fun start now => .ofNat (now - start)⟩

theorem proper_shop : shop.Proper := by
  have query : PageElement.Proper { attributes := [("value", some "")] } :=
    { attributes := List.forall_mem_singleton.mpr fun _ h => Option.mem_some.mp h ▸ .literal rfl
      text := .literal rfl
      failures := List.forall_mem_nil _ }
  have results : PageElement.Proper { text := "1" } :=
    { attributes := List.forall_mem_nil _
      text := (.literal rfl : Text.Proper "1")
      failures := List.forall_mem_nil _ }
  exact {
    elements := List.forall_mem_cons.mpr ⟨query, List.forall_mem_singleton.mpr results⟩
    lookupFailures := List.forall_mem_nil _
    failures := List.forall_mem_nil _
    html := (.literal rfl : Text.Proper "<html></html>")
    url := fun _ h => absurd h (Option.not_mem_none _) }

theorem proper_search : search.Proper := by
  have first : Page.Proper
      ⟨"Search", .enter (some "Search") (some "tea"), [⟨"Search", ""⟩]⟩ :=
    { name := .literal rfl
      expected := List.forall_mem_singleton.mpr ⟨.literal rfl, .literal rfl⟩
      action := ⟨fun _ h => Option.mem_some.mp h ▸ .literal rfl,
        fun _ h => Option.mem_some.mp h ▸ .literal rfl⟩ }
  have second : Page.Proper
      ⟨"Results", .click (some "Next"), [⟨"Search", "tea"⟩, ⟨"Results", "2"⟩]⟩ :=
    { name := .literal rfl
      expected := List.forall_mem_cons.mpr ⟨⟨.literal rfl, .literal rfl⟩,
        List.forall_mem_singleton.mpr ⟨.literal rfl, .literal rfl⟩⟩
      action := fun _ h => Option.mem_some.mp h ▸ .literal rfl }
  exact {
    host := (.literal rfl : Text.Proper "http://shop")
    pages := List.forall_mem_cons.mpr ⟨first, List.forall_mem_singleton.mpr second⟩ }

/-- The second page shows what the first one entered, but not as many results as expected: it fails
before its action. -/
theorem Runner.run_course_search :
    let begun := (searcher.begin search "search" { page := shop }).2
    let done := searcher.run search (memoryBrowser "FakeDriver") "search" (some "/run") { page := shop }
    done.1 = .error (.mismatch "Results" "2" (some "1")) ∧
    ∃ k ended s', Run.Course searcher.registry (Run.pageHook searcher (memoryBrowser "FakeDriver"))
        "FakeDriver" "http://shop" searcher.stopwatch "search" (some "/run") 1 begun
        (search.pages.map Page.turn) k ended (.ok ()) s' ∧
      done.1 = (ended.map fun warnings =>
        { name := "search", passed := true, warnings := warnings, pagesRun := 2
          runDirectory := some "/run" }) ∧
      s'.SameStage done.2 ∧ begun.Visited done.2 (List.replicate k "http://shop") := by
  have standard : ∀ e ∈ searcher.registry.strategies, e.2.IsStandard :=
    List.forall_mem_cons.mpr ⟨⟨{}, List.mem_cons_self⟩,
      List.forall_mem_singleton.mpr ⟨{}, List.mem_cons_of_mem _ List.mem_cons_self⟩⟩
  have writable : Run.Writable searcher.registry search shop "/run" :=
    { strategies := fun e he hn => absurd (standard e he) hn
      scenario := proper_search
      page := proper_shop
      name := .literal rfl
      path := by decide }
  have recordable : Run.Recordable searcher.registry search
      (searcher.begin search "search" { page := shop }).2.page (some "/run") := fun d hd => by
    obtain rfl := Option.mem_some.mp (Run.mem_of_namedDirectory hd)
    exact writable
  obtain ⟨k, ended, kept, s', course, outcome, stage, recorded, visited⟩ :=
    run_course searcher search "FakeDriver" "search" (some "/run") (s := { page := shop }) rfl
  cases recorded recordable
  exact ⟨by decide +kernel, k, ended, s', course, outcome, stage,
    visited fun e he hn => absurd (standard e he) hn⟩

/-- The page that fails looks for a button whose text is a lone surrogate. Its fault cannot be written, and
the run ends with the fault of writing instead. -/
theorem Runner.run_course_lone_surrogate :
    let target := some (Text.CodePoints.text [0xD800])
    let scenario : Scenario := ⟨"http://h", [], [⟨"P", .click target, []⟩]⟩
    let runner : Runner MemoryPage String := ⟨⟨[(.click, .click)]⟩, .ignoring, none, {}, fun _ _ => 0⟩
    (runner.begin scenario "x" { page := {} }).1 = .ok () ∧
    (Run.runPage runner (.onMemory "FakeDriver" Lookup.all) "http://h" 1 ⟨"P", [], .action (.click target)⟩
      (runner.begin scenario "x" { page := {} }).2).1 =
        .error (.fieldNotFound (Text.CodePoints.text [0xD800])) ∧
    (runner.run scenario (memoryBrowser "FakeDriver") "x" (some "/run") { page := {} }).1 =
      .error (.foreign ⟨.encoding,
        "'utf-8' codec can't encode character '\\ud800' in position 19: surrogates not allowed"⟩) := by
  decide +kernel

end Walkthrough
