import Walkthrough.Proofs.Run.Actions
import Walkthrough.Proofs.Run.Evidence

/-! Observing a run does not change it. Two runs of a scenario on alike pages, with any photographers, run
directories, disks and failures of the calls that record a page, end alike and do the same to their
pages. -/

namespace Walkthrough

/-- Flags that are applied apart from the page and from everything that is observed. -/
def FlagService.Apart (f : FlagService MemoryPage) : Prop :=
  ∀ features, Agree (Same Any) (f features) (f features)

/-- The flag services of the program. -/
def FlagService.IsStandard {π : Type} (f : FlagService π) : Prop :=
  f = recording ∨ f = client ∨ f = ignoring

/-- The strategies of the program. -/
def Strategy.IsStandard {π η : Type} (s : Strategy π η) : Prop :=
  ∃ options, s ∈ Strategy.standard options

theorem Strategy.IsStandard.blind {s : Strategy MemoryPage String} (h : s.IsStandard) : s.Blind := by
  obtain ⟨options, h⟩ := h
  rcases List.mem_cons.mp h with rfl | h
  · exact blind_click
  · rcases List.mem_cons.mp h with rfl | h
    · exact blind_enter options
    · rw [List.mem_singleton.mp h]
      exact blind_submit

namespace FlagService

theorem succeeds_announce (features : List (String × Feature)) :
    Succeeds Any (announce features : Act (Scene MemoryPage) Unit) := by
  induction features with
  | nil => exact .pure trivial
  | cons f features ih => exact .bind .say fun _ _ => ih

theorem IsStandard.apart {f : FlagService MemoryPage} (h : f.IsStandard) : f.Apart := by
  have quiet : ∀ change : Scene MemoryPage → Scene MemoryPage,
      (∀ s, (change s).page = s.page) → Succeeds Any (Act.modify change) := fun change hc s _ =>
    ⟨trivial, [], (hc s).trans s.page.withPictures_nil.symm⟩
  have applied : ∀ features, Succeeds Any (f features) := fun features => by
    rcases h with rfl | rfl | rfl
    · exact quiet _ fun _ => rfl
    · exact .bind (succeeds_announce features) fun _ _ => .bind .say fun _ _ => quiet _ fun _ => rfl
    · unfold ignoring
      split
      · exact .pure trivial
      · exact .say
  exact fun features => .of_succeeds (applied features) (applied features)

end FlagService

/-- A page of a scenario whose texts are proper. -/
structure Page.Proper (p : Page) : Prop where
  name : Text.Proper p.name
  expected : ∀ e ∈ p.expected, Text.Proper e.target ∧ Text.Proper e.value
  action : p.action.Proper

/-- A scenario whose texts are proper, as far as its pages show them. -/
structure Scenario.Proper (s : Scenario) : Prop where
  host : Text.Proper s.host
  pages : ∀ p ∈ s.pages, p.Proper

/-- The result without the directory of the run. -/
def ScenarioResult.undirected (r : ScenarioResult) : ScenarioResult := { r with runDirectory := none }

namespace Run

variable {n m : String} {lookups : List Lookup}

theorem agree_checkExpected (n m : String) {es : List Expected}
    (h : ∀ e ∈ es, Text.Proper e.target ∧ Text.Proper e.value) :
    Agree (Same Any) (checkExpected ⟨memoryBrowser n, lookups⟩ es)
      (checkExpected ⟨memoryBrowser m, lookups⟩ es) := by
  induction es with
  | nil => exact .pure (.rfl trivial)
  | cons e es ih =>
    have ⟨ht, hv⟩ := h e List.mem_cons_self
    refine (Resolver.agree_valueOf n m ht).andThen fun actual ha => ?_
    by_cases he : actual = e.value
    · simp only [he, if_true]
      exact .bind .say fun _ _ _ => ih fun e' he' => h e' (List.mem_cons_of_mem e he')
    · simp only [he, if_false]
      refine .fail (.append (.append (.append ?_ (.literal rfl)) ha) (.literal rfl))
      exact .append (.append (.append (.literal rfl) ht) (.literal rfl)) hv

theorem quiet_pageHook (runner : Runner MemoryPage String) (browser page : String) (index : Nat) :
    Hook.Quiet (pageHook runner (memoryBrowser browser) page index) := by
  intro call hc element
  obtain ⟨p, _, rfl⟩ := Option.map_eq_some_iff.mp hc
  exact .bind (p.succeeds_take browser _ _ _) fun _ _ => .pure trivial

theorem succeeds_recordFailure (took : Scene MemoryPage → UInt64) (browser name : String)
    {directory : Option String} (hd : Nameable directory) (index : Nat) {page : String}
    (hp : Text.Proper page) {fault : Fault} (hf : Speaks fault) :
    Succeeds Any (recordFailure took (memoryBrowser browser) name directory index page fault) := by
  have entry (took : UInt64) : ProperEntry ⟨index, page, false, took, [], some fault.message⟩ :=
    ⟨hp, fun _ h => absurd h List.not_mem_nil, fun _ h => Option.mem_some.mp h ▸ hf⟩
  have log : Succeeds Any (do
      logStep directory ⟨index, page, false, took (← Act.get), [], some fault.message⟩ :
      Act (Scene MemoryPage) Unit) := fun s => succeeds_logStep hd (entry (took s)) s
  refine .bind .say fun _ _ => ?_
  cases hn : namedDirectory directory with
  | none => exact log
  | some d =>
    have ⟨hd, h0⟩ := hd d (mem_of_namedDirectory hn)
    have known : FailedPage.Proper ⟨index, page, some fault⟩ :=
      ⟨hp, fun _ h => Option.mem_some.mp h ▸ hf⟩
    exact .bind (Evidence.succeeds_collect browser hd h0 known) fun _ _ => log

section Pages

variable {registry : Registry MemoryPage String} {flags flags' : FlagService MemoryPage}
  {photographer photographer' : Option Photographer} {settings settings' : Settings}
  {stopwatch stopwatch' : Stopwatch} {host : String}

theorem agree_runPage (hr : ∀ e ∈ registry.strategies, e.2.Blind) (n m : String)
    (hh : Text.Proper host) (index : Nat) {page : Page} (hp : page.Proper) :
    Agree (Same Outcome.Proper)
      (runPage ⟨registry, flags, photographer, settings, stopwatch⟩ ⟨memoryBrowser n, lookups⟩ host
        index page.turn)
      (runPage ⟨registry, flags', photographer', settings', stopwatch'⟩ ⟨memoryBrowser m, lookups⟩
        host index page.turn) := by
  refine Agree.bind (.onPage (MemoryPage.parallel_navigate hh)) fun _ _ _ => ?_
  refine .bind (agree_checkExpected n m hp.expected) fun _ _ _ => ?_
  exact registry.agree_dispatch hr n m hp.action (quiet_pageHook _ n _ _) (quiet_pageHook _ m _ _)

/-- Page after page, the results differ at most in the directory of the run. -/
theorem agree_runPages (hr : ∀ e ∈ registry.strategies, e.2.Blind) (n m : String)
    (hh : Text.Proper host) {pages : List Page} (hp : ∀ p ∈ pages, p.Proper) (index : Nat)
    {result result' : ScenarioResult} (h : result.undirected = result'.undirected)
    (hd : Nameable result.runDirectory) (hd' : Nameable result'.runDirectory) :
    Agree (fun r r' : ScenarioResult => r.undirected = r'.undirected)
      (runPages ⟨registry, flags, photographer, settings, stopwatch⟩ ⟨memoryBrowser n, lookups⟩ host
        index result (pages.map Page.turn))
      (runPages ⟨registry, flags', photographer', settings', stopwatch'⟩ ⟨memoryBrowser m, lookups⟩
        host index result' (pages.map Page.turn)) := by
  induction pages generalizing index result result' with
  | nil => exact .pure h
  | cons page pages ih =>
    have hp₁ := hp page List.mem_cons_self
    refine .get fun start start' => ?_
    refine (agree_runPage hr n m hh index hp₁).recover (fun fault hf => ?_) fun outcome ho => ?_
    · refine .bind (.of_succeeds ?_ ?_) fun _ _ _ => .fail hf
      · exact succeeds_recordFailure _ n _ hd index hp₁.name hf
      · exact succeeds_recordFailure _ m _ hd' index hp₁.name hf
    · have entry (took : UInt64) : ProperEntry ⟨index, page.name, true, took, outcome.warnings, none⟩ :=
        ⟨hp₁.name, ho, fun _ h => absurd h (Option.not_mem_none _)⟩
      refine .get fun now now' => ?_
      refine .bind (.of_succeeds (succeeds_logStep hd (entry _)) (succeeds_logStep hd' (entry _)))
        fun _ _ _ => .bind .say fun _ _ _ => ?_
      refine ih (fun p hm => hp p (List.mem_cons_of_mem page hm)) (index + 1) ?_ hd hd'
      simp only [ScenarioResult.undirected, ScenarioResult.mk.injEq] at h ⊢
      simp [h]

end Pages

end Run

/-- A run whose strategies are blind and whose flags are applied apart agrees with itself, whoever takes
pictures and wherever its log goes. -/
theorem Runner.agree_run {registry : Registry MemoryPage String} {flags : FlagService MemoryPage}
    (hr : ∀ e ∈ registry.strategies, e.2.Blind) (hf : flags.Apart) {scenario : Scenario}
    (hs : scenario.Proper) (photographer photographer' : Option Photographer)
    (settings settings' : Settings) (stopwatch stopwatch' : Stopwatch) (n m name : String)
    {directory directory' : Option String} (hd : Run.Nameable directory)
    (hd' : Run.Nameable directory') :
    Agree (fun r r' : ScenarioResult => r.undirected = r'.undirected)
      (run ⟨registry, flags, photographer, settings, stopwatch⟩ scenario (memoryBrowser n) name
        directory)
      (run ⟨registry, flags, photographer', settings', stopwatch'⟩ scenario (memoryBrowser m) name
        directory') := by
  refine .bind .say fun _ _ _ => .bind (hf _) fun _ _ _ => ?_
  refine .bind (Run.agree_runPages hr n m hs.host hs.pages 1 rfl hd hd') fun r r' h => ?_
  refine .bind .say fun _ _ _ => .pure ?_
  simp only [ScenarioResult.undirected, ScenarioResult.mk.injEq] at h ⊢
  simp [h]

/-- A run ends the same and does the same to its page with or without a directory, with or without a
photographer, however long its pages take, whatever stands on the disk, and however the calls fail that
record the page. Strategies and flag services from outside must not look at what observes the run. -/
theorem Runner.run_unobserved {registry : Registry MemoryPage String}
    {flags : FlagService MemoryPage}
    (hr : ∀ e ∈ registry.strategies, ¬ e.2.IsStandard → e.2.Blind)
    (hf : ¬ flags.IsStandard → flags.Apart) {scenario : Scenario} (hs : scenario.Proper)
    (photographer photographer' : Option Photographer) (settings settings' : Settings)
    (stopwatch stopwatch' : Stopwatch) (n m name : String)
    {directory directory' : Option String} (hd : Run.Nameable directory)
    (hd' : Run.Nameable directory') {s t : Scene MemoryPage} (h : s.page.Alike t.page)
    (hp : s.page.Proper) (hq : t.page.Proper) :
    let one := run ⟨registry, flags, photographer, settings, stopwatch⟩ scenario (memoryBrowser n)
      name directory s
    let other := run ⟨registry, flags, photographer', settings', stopwatch'⟩ scenario
      (memoryBrowser m) name directory' t
    one.1.map ScenarioResult.undirected = other.1.map ScenarioResult.undirected ∧
      one.2.page.deeds = other.2.page.deeds := by
  have blind : ∀ e ∈ registry.strategies, e.2.Blind := fun e he => by
    by_cases standard : e.2.IsStandard
    · exact standard.blind
    · exact hr e he standard
  have apart : flags.Apart := by
    by_cases standard : flags.IsStandard
    · exact standard.apart
    · exact hf standard
  have ⟨outcomes, pages⟩ := agree_run blind apart hs photographer photographer' settings settings'
    stopwatch stopwatch' n m name hd hd' s t ⟨h, hp, hq⟩
  refine ⟨?_, pages.deeds⟩
  revert outcomes
  generalize (run _ scenario _ name directory s).1 = x
  generalize (run _ scenario _ name directory' t).1 = y
  intro outcomes
  cases outcomes with
  | ok h => exact congrArg Except.ok h
  | error h => rfl

/-- A click fails while a file stands where the directory of the run should be and no picture can be
taken; without all this the click fails the same. -/
theorem Runner.run_unobserved_failing_click :
    let page : MemoryPage :=
      { elements := [("go", { failures := [(.click, .foreign ⟨.runtime, "stuck"⟩)] })]
        places := [(.clickable (some "Go"), "go")] }
    let scenario : Scenario :=
      { host := "http://shop", pages := [{ name := "Home", action := .click (some "Go") }] }
    let registry : Registry MemoryPage String := ⟨[(.click, Strategy.click)]⟩
    let one := run ⟨registry, .ignoring, some ⟨fun _ => {}⟩, { screenshotFolder := "/run/pictures" },
        fun _ _ => 20⟩ scenario (memoryBrowser "FakeDriver") "shop" (some "/run")
      { page := { page with failures := [(.screenshot, .foreign ⟨.os, "no display"⟩)] }
        disk := { entries := [([['r', 'u', 'n']], .file [])] } }
    let other := run ⟨registry, .ignoring, none, {}, fun _ _ => 10⟩ scenario
      (memoryBrowser "FakeDriver") "shop" none { page := page }
    one.1.map ScenarioResult.undirected = other.1.map ScenarioResult.undirected ∧
      one.2.page.deeds = other.2.page.deeds := by
  intro page scenario registry
  have standard : ∀ e ∈ registry.strategies, ¬ e.2.IsStandard → e.2.Blind := fun e he hn => by
    rw [List.mem_singleton.mp he] at hn
    exact absurd ⟨{}, List.mem_cons_self⟩ hn
  have texts : scenario.Proper :=
    { host := (.literal rfl : Text.Proper "http://shop")
      pages := List.forall_mem_singleton.mpr
        { name := .literal rfl
          expected := fun _ h => absurd h List.not_mem_nil
          action := fun _ h => Option.mem_some.mp h ▸ .literal rfl } }
  have button : PageElement.Proper { failures := [(.click, .foreign ⟨.runtime, "stuck"⟩)] } :=
    { attributes := fun _ h => absurd h List.not_mem_nil
      text := .literal rfl
      failures := List.forall_mem_singleton.mpr (.literal rfl) }
  have proper : page.Proper :=
    { elements := List.forall_mem_singleton.mpr button
      lookupFailures := fun _ h => absurd h List.not_mem_nil
      failures := fun _ h => absurd h List.not_mem_nil
      html := (.literal rfl : Text.Proper "<html></html>")
      url := fun _ h => absurd h (Option.not_mem_none _) }
  have named : Run.Nameable (some "/run") := fun _ h =>
    Option.mem_some.mp h ▸ ⟨.literal rfl, by decide⟩
  exact run_unobserved standard (fun hn => absurd (.inr (.inr rfl)) hn) texts _ _ _ _ _ _ _ _ _ named
    (fun _ h => absurd h (Option.not_mem_none _)) ⟨rfl, rfl, rfl, rfl, rfl⟩
    { proper with failures := List.forall_mem_singleton.mpr (.literal rfl) } proper

end Walkthrough
