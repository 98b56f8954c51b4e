import Walkthrough.Proofs.Run.Artifacts
import Walkthrough.Proofs.Run.FirstTouch
import Walkthrough.Proofs.Run.Labels

/-! The pictures of a run. A page takes one picture at most before its action and one more if it fails, and all
that a run does besides takes none. The first tells the number of its page and the other has a name of another
kind, so that no picture of a run is where another one is (`Run.Course.pictures`). -/

namespace Walkthrough

/-- The path of a picture that was taken. -/
def JournalEntry.picture? : JournalEntry → Option String
  | .screenshot path => some path
  | _ => none

/-- The paths of the pictures that were taken of a page, in their order. -/
def MemoryPage.pictures (p : MemoryPage) : List String := p.journal.filterMap JournalEntry.picture?

theorem MemoryPage.pictures_note (p : MemoryPage) (entry : JournalEntry) :
    (p.note entry).pictures = p.pictures ++ [entry].filterMap JournalEntry.picture? :=
  List.filterMap_append

namespace Scene

/-- From one scene to the other no picture was taken. -/
abbrev Unpictured : Scene MemoryPage → Scene MemoryPage → Prop := Same MemoryPage.pictures

/-- From one scene to the other one picture was taken at most, and its path is of the kind. -/
inductive Shot (P : String → Prop) (s t : Scene MemoryPage) : Prop
  | none (same : s.Unpictured t)
  | one {path : String} (kind : P path) (taken : t.page.pictures = s.page.pictures ++ [path])

variable {P Q : String → Prop} {s t u : Scene MemoryPage}

theorem Unpictured.shot (h : s.Unpictured t) (h' : t.Shot P u) : s.Shot P u := by
  cases h' with
  | none same => exact .none (trans_of _ h same)
  | one kind taken => exact .one kind (taken.trans (congrArg (· ++ _) h))

theorem Shot.unpictured (h : s.Shot P t) (h' : t.Unpictured u) : s.Shot P u := by
  cases h with
  | none same => exact .none (trans_of _ same h')
  | one kind taken => exact .one kind (h'.trans taken)

theorem Shot.mono (h : s.Shot P t) (hPQ : ∀ path, P path → Q path) : s.Shot Q t := by
  cases h with
  | none same => exact .none same
  | one kind taken => exact .one (hPQ _ kind) taken

theorem SameStage.unpictured (h : s.SameStage t) : s.Unpictured t := congrArg _ h.page

theorem Touched.unpictured {P : Touch → Prop} (h : s.Touched P t) : s.Unpictured t := by
  obtain ⟨entries, touches, journal⟩ := h
  have none : entries.filterMap JournalEntry.picture? = [] :=
    List.filterMap_eq_nil_iff.mpr fun x hx => by
      have touch := touches x hx
      cases x with
      | touch => rfl
      | _ => cases touch
  show t.page.journal.filterMap _ = s.page.journal.filterMap _
  rw [journal, List.filterMap_append, none, List.append_nil]

end Scene

/-! ## Steps that take a picture -/

section Steps

variable {α β : Type} {act : Act (Scene MemoryPage) α} {next : α → Act (Scene MemoryPage) β}
  {P : String → Prop}

/-- The step takes no picture. -/
abbrev TakesNone (act : Act (Scene MemoryPage) α) : Prop := Act.Keeps Scene.Unpictured act

/-- The step takes one picture at most. -/
abbrev TakesOne (P : String → Prop) (act : Act (Scene MemoryPage) α) : Prop :=
  Act.Keeps (Scene.Shot P) act

theorem Scene.Unpictured.of_writes (h : Writes act) : TakesNone act :=
  h.mono fun _ _ => Scene.SameStage.unpictured

theorem Scene.Unpictured.say {level : Level} {channel : Channel} {text : String} :
    TakesNone (Scene.say level channel text) := fun _ => rfl

namespace Scene.Shot

theorem of_none (h : TakesNone act) : TakesOne P act := Act.Keeps.mono h fun _ _ => .none

theorem andNone (h : TakesOne P act) (h' : ∀ a, TakesNone (next a)) : TakesOne P (act >>= next) := by
  intro s
  have first := h s
  rcases Act.bind_cases act next s with ⟨fault, s₁, hs, eq⟩ | ⟨a, s₁, hs, eq⟩
  · rw [hs] at first
    rw [eq]
    exact first
  · rw [hs] at first
    rw [eq]
    exact first.unpictured (h' a s₁)

theorem afterNone (h : TakesNone act) (h' : ∀ a, TakesOne P (next a)) : TakesOne P (act >>= next) := by
  intro s
  have first := h s
  rcases Act.bind_cases act next s with ⟨fault, s₁, hs, eq⟩ | ⟨a, s₁, hs, eq⟩
  · rw [hs] at first
    rw [eq]
    exact .none first
  · rw [hs] at first
    rw [eq]
    exact first.shot (h' a s₁)

theorem screenshot (n path : String) : TakesOne (· = path) ((memoryBrowser n).screenshot path) := by
  have page : TakesOne (· = path) (Scene.onPage (MemoryPage.beforePicture path)) := by
    intro s
    have noted : (s.page.note (.screenshot path)).pictures = s.page.pictures ++ [path] :=
      s.page.pictures_note _
    show s.Shot _ { s with page := (MemoryPage.beforePicture path s.page).2 }
    unfold MemoryPage.beforePicture MemoryPage.check
    split
    · exact .none rfl
    · dsimp only
      split
      · exact .one rfl noted
      · exact .one rfl noted
  exact .andNone page fun _ => .of_writes .onDisk

end Scene.Shot

end Steps

theorem Photographer.takesOne_takeAt (time : Clock) (cwd n name : String) (page : Int) (directory : String) :
    TakesOne (· = path time name page (joinPath cwd directory))
      (takeAt time cwd (memoryBrowser n) name page directory) := by
  have taking : TakesOne (· = path time name page (joinPath cwd directory)) (do
      Scene.ensureDirectory directory
      (memoryBrowser n).screenshot (path time name page (joinPath cwd directory))) :=
    .afterNone (.of_writes .ensureDirectory) fun _ => .screenshot n _
  have attempted := taking.attempt
  refine Scene.Shot.andNone attempted fun outcome => ?_
  split
  · exact .bind .say fun _ => .pure
  · exact .bind .say fun _ => .pure
  · exact .bind .say fun _ => .pure

/-- The one picture of a page that failed is in the directory of the run. -/
theorem Evidence.takesOne_collect (n directory : String) (page : FailedPage) :
    TakesOne (· = joinPath directory (pageFile page.index ".png"))
      (collect (memoryBrowser n) directory page) := by
  have source : TakesNone (memoryBrowser n).pageSource := fun s => by
    show (MemoryPage.pageSource s.page).2.pictures = _
    unfold MemoryPage.pageSource MemoryPage.check
    split
    · rfl
    · split <;> rfl
  have url : TakesNone (memoryBrowser n).currentUrl := fun s => by
    show (MemoryPage.currentUrl s.page).2.pictures = _
    unfold MemoryPage.currentUrl MemoryPage.check
    split
    · rfl
    · split <;> rfl
  have parts : TakesOne (· = joinPath directory (pageFile page.index ".png"))
      (collectParts (memoryBrowser n) directory page.index) := by
    have picture : TakesOne (· = joinPath directory (pageFile page.index ".png")) (part do
        (memoryBrowser n).screenshot (joinPath directory (pageFile page.index ".png"))
        return joinPath directory (pageFile page.index ".png")) :=
      have taken : TakesOne (· = joinPath directory (pageFile page.index ".png")) (Act.attempt _) :=
        Act.Keeps.attempt (.andNone (.screenshot n _) fun _ => .pure)
      .andNone taken fun _ => .pure
    refine .andNone picture fun _ => ?_
    exact .bind (keeps_part (.bind source fun _ => .bind (.of_writes .writeTexts) fun _ => .pure))
      fun _ => .bind (keeps_part url) fun _ => .pure
  refine .afterNone (keeps_systemPart (.of_writes .ensureDirectory)) fun outcome => ?_
  cases outcome with
  | error text => exact .of_none (.bind .say fun _ => .pure)
  | ok _ =>
    refine .andNone parts fun parts =>
      .bind (keeps_systemPart (.of_writes .writeTexts)) fun outcome => ?_
    cases outcome with
    | ok _ => exact .pure
    | error text => exact .bind .say fun _ => .pure

namespace Run

/-- The picture of a failed page, if there is a directory to keep it in. -/
def OfFailure (index : Nat) (path : String) : Prop :=
  ∃ directory, path = joinPath directory (Evidence.pageFile index ".png")

theorem takesOne_recordFailure (took : Scene MemoryPage → UInt64) (n name : String)
    (directory : Option String) (index : Nat) (page : String) (fault : Fault) :
    TakesOne (OfFailure index)
      (recordFailure took (memoryBrowser n) name directory index page fault) := by
  have logged : TakesNone (do
      logStep directory ⟨index, page, false, took (← Act.get), [], some fault.message⟩) :=
    .bind .get fun _ => .of_writes (writes_logStep directory _)
  refine .afterNone .say fun _ => ?_
  split
  · exact .of_none logged
  · next d named =>
    exact .andNone ((Evidence.takesOne_collect n d _).mono fun _ _ h => h.mono fun path eq => ⟨d, eq⟩)
      fun _ => logged

end Run

/-! ## Actions -/

/-- Looking up, reading and touching is noted as touches at most. -/
theorem keeps_touched (n : String) : (memoryBrowser n).Keeps (Scene.Touched Any) where
  say _ _ _ := .say
  call calls := by
    have entry (e key : String) : Touches Any ((memoryBrowser n).readAttribute e key) :=
      .enquires (L := fun _ => True) (.readAttribute (R := Eq) fun _ _ h => h ▸ ⟨rfl, rfl⟩)
    have text (e : String) : Touches Any ((memoryBrowser n).readText e) :=
      .enquires (L := fun _ => True) (.readText (R := Eq) fun _ _ h => h ▸ rfl)
    cases calls with
    | locate l =>
      exact .enquires (L := fun _ => True) (.locate (R := Eq) (fun _ _ h => h ▸ ⟨rfl, rfl⟩) trivial)
    | readAttribute e key => exact entry e key
    | readText e => exact text e
    | readValue e =>
      refine .bind (entry e "value") fun value => ?_
      cases value with
      | none => exact text e
      | some value => exact .pure
    | _ => exact .touch trivial

/-- The hook without the note that goes before its calls. -/
def unnoted (hook : String → Act (Scene MemoryPage) Unit) (element : String) :
    Act (Scene MemoryPage) Unit := do
  Scene.onPage fun p => (.ok (), { p with journal := p.journal.dropLast })
  hook element

/-- Every hook is one whose calls are noted, if it first takes the note back. What is known of noted calls
holds of all hooks by this. -/
theorem noting_unnoted (hook : String → Act (Scene MemoryPage) Unit) : noting (unnoted hook) = hook := by
  funext element s
  have taken : { s.page with journal := (s.page.note (.hook element)).journal.dropLast } = s.page := by
    rw [MemoryPage.note, List.dropLast_concat]
  exact congrArg (fun p => hook element { s with page := p }) taken

/-- Without a hook an action is noted as touches. -/
theorem Perform.touches_perform (options : EnterOptions) (n : String) (lookups : List Lookup) (a : Action) :
    Touches Any (perform options (.onMemory n lookups) none a) := by
  have within : (Resolver.onMemory n lookups).browser.Within (Act.keeping (Scene.Touched Any)) :=
    (keeps_touched n).within
  have free : Hook.Within (none : Hook MemoryPage String) (Act.keeping (Scene.Touched Any)) := nofun
  cases a with
  | click target => exact within_click within free target
  | enter field value => exact within_enter within free options field value
  | submit fields => exact within_submit within free fields

/-- Performing an action takes no picture but the one that its hook takes, if this is called. -/
theorem Registry.IsStandard.takesOne_dispatch {registry : Registry MemoryPage String}
    (standard : registry.IsStandard) (n : String) (lookups : List Lookup) (request : Request)
    {hook : Hook MemoryPage String} {P : String → Prop}
    (one : ∀ call ∈ hook, ∀ element, TakesOne P (call element)) :
    TakesOne P (registry.dispatch (.onMemory n lookups) request hook) := by
  cases request with
  | stray value =>
    obtain ⟨failure, refused⟩ := registry.dispatch_stray (.onMemory n lookups) value hook
    rw [refused]
    exact fun s => .none rfl
  | action a =>
    rcases standard.dispatch_cases (.onMemory n lookups) a hook with eq | ⟨options, text, eq⟩
    · rw [eq]
      exact fun s => .none rfl
    · rw [eq]
      refine .afterNone .say fun _ s => ?_
      cases hook with
      | none => exact .none (Perform.touches_perform options n lookups a s).unpictured
      | some call =>
        have inOrder : InOrder (unnoted call) false (fun _ _ => True)
            (Perform.perform options (.onMemory n lookups) (some (noting (unnoted call))) a) :=
          Perform.inOrder_perform options a
        rw [noting_unnoted] at inOrder
        obtain ⟨b, passes, -⟩ := inOrder s
        cases FirstTouch.of_passes passes with
        | none before => exact .none before.unpictured
        | @hooked element outcome s₁ s₂ h =>
          have called := one call rfl element s₁
          rw [← noting_unnoted call, h.called] at called
          exact h.before.unpictured.shot (called.unpictured h.after.unpictured)

/-! ## Runs -/

namespace Run

variable {registry : Registry MemoryPage String} {hook : String → Nat → Hook MemoryPage String}
  {stopwatch : Stopwatch} {n host name : String} {directory : Option String} {index k : Nat} {turn : Turn}
  {turns : List Turn} {s t : Scene MemoryPage}

/-- The picture of a page before its action. -/
def OfPage (index : Nat) (path : String) : Prop :=
  ∃ (time : Clock) (page folder : String), path = Photographer.path time (page ++ "-On_Page") index folder

theorem Leg.shot (standard : registry.IsStandard)
    (one : ∀ page index, ∀ call ∈ hook page index, ∀ element, TakesOne (OfPage index) (call element))
    {outcome : Except Fault Outcome} (h : Leg registry hook n host index turn s outcome t) :
    s.Shot (OfPage index) t := by
  have noted : (s.page.note (.navigate host)).pictures = s.page.pictures :=
    (s.page.pictures_note _).trans (List.append_nil _)
  cases h with
  | unreached => exact .none noted
  | stopped => exact .none noted
  | @acted asked said _ _ reached compared performed =>
    have arrived : s.Unpictured ((s.arrived host).after asked said) := noted
    have shot := standard.takesOne_dispatch n Lookup.all turn.request (one turn.page index)
      ((s.arrived host).after asked said)
    rw [performed] at shot
    exact arrived.shot shot

/-- A picture of the pages of a run from a number on. -/
def OfRun (index : Nat) (path : String) : Prop :=
  ∃ i, index ≤ i ∧ (OfPage i path ∨ OfFailure i path)

/-- The name of a file at the end of a path. -/
def nameOf (path : String) : List Char := Path.baseName path.toList

theorem nameOf_joinPath {directory name : String} (h : Path.IsName name.toList) :
    nameOf (joinPath directory name) = name.toList := by
  rw [nameOf, joinPath, String.toList_ofList, h.baseName_join]

/-- The picture of a page before its action has a name of its own among those of the pages after it, and of the
pages that fail. -/
theorem OfPage.nameOf_ne {path other : String} (h : OfPage index path)
    (h' : OfFailure index other ∨ OfRun (index + 1) other) : nameOf path ≠ nameOf other := by
  obtain ⟨time, page, folder, rfl⟩ := h
  rw [Photographer.path, nameOf_joinPath (Photographer.isName_fileName ..)]
  have failed {i : Nat} (h : OfFailure i other) :
      (Photographer.fileName time (page ++ "-On_Page") index).toList ≠ nameOf other := by
    obtain ⟨d, rfl⟩ := h
    rw [nameOf_joinPath (Evidence.isName_pageFile _ (by decide))]
    exact fun same => (ArtifactName.picture i).fileName_ne time page index (String.toList_injective same)
  rcases h' with h' | ⟨i, later, ⟨time', page', folder', rfl⟩ | h'⟩
  · exact failed h'
  · intro same
    rw [Photographer.path, nameOf_joinPath (Photographer.isName_fileName ..)] at same
    have label := Photographer.read?_fileName time (page ++ "-On_Page") index []
    rw [same, Photographer.read?_fileName] at label
    have equal : (i : Int) = index := congrArg Label.page (Option.some.inj label)
    omega
  · exact failed h'

/-- The pages of a run from a number on take no two pictures of one name, if their hooks take one picture each,
whoever takes it and when. -/
theorem Course.pictures (standard : registry.IsStandard)
    (one : ∀ page index, ∀ call ∈ hook page index, ∀ element, TakesOne (OfPage index) (call element))
    {ended : Except Fault (List String)} {kept : Except Fault Unit}
    (h : Course registry hook n host stopwatch name directory index s turns k ended kept t) :
    ∃ taken, t.page.pictures = s.page.pictures ++ taken ∧ (taken.map nameOf).Nodup ∧
      ∀ path ∈ taken, OfRun index path := by
  -- what the pages from a number on take is joined to the one picture of the page before them
  have join {index : Nat} {s s₁ t : Scene MemoryPage} (shot : s.Shot (OfPage index) s₁)
      (more : ∃ taken, t.page.pictures = s₁.page.pictures ++ taken ∧ (taken.map nameOf).Nodup ∧
        ∀ path ∈ taken, OfFailure index path ∨ OfRun (index + 1) path) :
      ∃ taken, t.page.pictures = s.page.pictures ++ taken ∧ (taken.map nameOf).Nodup ∧
        ∀ path ∈ taken, OfRun index path := by
    obtain ⟨taken, pictures, apart, kinds⟩ := more
    have kinds' : ∀ path ∈ taken, OfRun index path := fun path hp => by
      rcases kinds path hp with failed | ⟨i, later, kind⟩
      · exact ⟨index, Nat.le_refl index, .inr failed⟩
      · exact ⟨i, by omega, kind⟩
    cases shot with
    | none same => exact ⟨taken, by rw [pictures, same], apart, kinds'⟩
    | @one path kind first =>
      refine ⟨path :: taken, by rw [pictures, first, List.append_assoc]; rfl, ?_,
        List.forall_mem_cons.mpr ⟨⟨index, Nat.le_refl index, .inl kind⟩, kinds'⟩⟩
      rw [List.map_cons, List.nodup_cons]
      refine ⟨fun mem => ?_, apart⟩
      obtain ⟨other, ho, same⟩ := List.mem_map.mp mem
      exact kind.nameOf_ne (kinds other ho) same.symm
  induction h with
  | done => exact ⟨[], (List.append_nil _).symm, List.nodup_nil, nofun⟩
  | @failed index s s₁ s₂ turn _ fault kept leg recorded pictured =>
    refine join (leg.shot standard one) ?_
    have shot := takesOne_recordFailure (stopwatch.took s) n name directory index turn.page fault s₁
    rw [recorded] at shot
    cases shot with
    | none same => exact ⟨[], by rw [List.append_nil]; exact same, List.nodup_nil, nofun⟩
    | @one path kind taken =>
      exact ⟨[path], taken, List.nodup_singleton _, List.forall_mem_singleton.mpr (.inl kind)⟩
  | unlogged leg logged same =>
    refine join (leg.shot standard one) ⟨[], ?_, List.nodup_nil, nofun⟩
    rw [List.append_nil]
    exact same.unpictured
  | @passed _ _ _ s₁ s₂ s₃ _ _ _ said _ _ leg logged same _ ih =>
    obtain ⟨taken, pictures, apart, kinds⟩ := ih
    have same : s₁.Unpictured { s₂ with log := s₂.log ++ said } := same.unpictured
    refine join (leg.shot standard one) ⟨taken, ?_, apart, fun path hp => .inr (kinds path hp)⟩
    rw [pictures, same]

/-- A photographer takes one picture in the hook of a page. -/
theorem takesOne_pageHook (runner : Runner MemoryPage String) (n page : String) (index : Nat) :
    ∀ call ∈ pageHook runner (memoryBrowser n) page index, ∀ element,
      TakesOne (OfPage index) (call element) := by
  intro call hc element
  obtain ⟨p, -, rfl⟩ := Option.map_eq_some_iff.mp hc
  have taken : TakesOne (OfPage index)
      (p.take (memoryBrowser n) (page ++ "-On_Page") index runner.settings.screenshotFolder) :=
    .afterNone .get fun now =>
      (Photographer.takesOne_takeAt (p.clock now.moment) now.disk.workingDirectory n _ index _).mono
        fun _ _ h => h.mono fun _ eq => ⟨p.clock now.moment, page, _, eq⟩
  exact .andNone taken fun _ => .pure

end Run

/-- From one scene to the other pictures were taken under names of their own: none is where another one is. -/
def Scene.PicturedApart (s t : Scene MemoryPage) : Prop :=
  ∃ taken, t.page.pictures = s.page.pictures ++ taken ∧ (taken.map Run.nameOf).Nodup

/-- A run begins without pictures, and then takes those of its pages. -/
theorem Runner.picturedApart_run {runner : Runner MemoryPage String} (standard : runner.registry.IsStandard)
    (flags : runner.flags.IsStandard) (scenario : Scenario) (n name : String) (directory : Option String)
    (s : Scene MemoryPage) :
    s.PicturedApart (runner.run scenario (memoryBrowser n) name directory s).2 := by
  have begins : TakesNone (runner.begin scenario name) :=
    .bind .say fun _ => flags.same MemoryPage.pictures _
  have begun := begins s
  cases flagged : runner.begin scenario name s with | mk outcome s₁
  rw [flagged] at begun
  cases outcome with
  | error fault =>
    have ended : runner.run scenario (memoryBrowser n) name directory s = (.error fault, s₁) := by
      rw [run, play, List.length_map]
      exact (Act.bind_of_ok rfl).trans (Act.bind_of_error flagged)
    rw [ended]
    exact ⟨[], begun.trans (List.append_nil _).symm, List.nodup_nil⟩
  | ok _ =>
    obtain ⟨k, ended, kept, t, course, -, stage, -⟩ :=
      runner.exists_course scenario n name directory flagged
    obtain ⟨taken, pictures, apart, -⟩ := course.pictures standard (Run.takesOne_pageHook runner n)
    exact ⟨taken, by rw [stage.unpictured, pictures, begun], apart⟩

/-- The number of the page and the time are read from the path of every screenshot, whatever the page is called;
so pages of different numbers have different paths, whenever they are taken. No picture of a run is where another
one is, neither if one photographer takes those before the actions nor if each page has one of its own. -/
theorem Photographer.pictures_apart :
    (∀ (time : Clock) (name : String) (page : Int) (directory : String),
      Label.read? (path time name page directory) = some ⟨page, time.stamp⟩) ∧
    (∀ c : Clock, c.Fits → Clock.ofStamp? c.stamp = some c) ∧
    (∀ (time time' : Clock) (name other : String) (i j : Int) (directory : String), i ≠ j →
      path time name i directory ≠ path time' other j directory) ∧
    (∀ runner : Runner MemoryPage String, runner.registry.IsStandard →
      (runner.flags.IsStandard → ∀ scenario n name directory (s : Scene MemoryPage),
        s.PicturedApart (runner.run scenario (memoryBrowser n) name directory s).2) ∧
      ∀ (photographer : Nat → Option Photographer) n host stopwatch name directory
        (s : Scene MemoryPage) turns k ended kept t,
        Run.Course runner.registry (fun page index => Run.pageHook
          { runner with photographer := photographer index } (memoryBrowser n) page index)
          n host stopwatch name directory 1 s turns k ended kept t → s.PicturedApart t) := by
  refine ⟨read?_path, fun c => Clock.ofStamp?_stamp, fun time time' name other i j directory apart same => ?_,
    fun runner standard => ⟨fun flags => Runner.picturedApart_run standard flags, ?_⟩⟩
  · have label := read?_path time name i directory
    rw [same, read?_path] at label
    exact apart (congrArg Label.page (Option.some.inj label)).symm
  · intro photographer n host stopwatch name directory s turns k ended kept t course
    have one (page : String) (index : Nat) : ∀ call ∈ Run.pageHook
        { runner with photographer := photographer index } (memoryBrowser n) page index, ∀ element,
        TakesOne (Run.OfPage index) (call element) :=
      Run.takesOne_pageHook { runner with photographer := photographer index } n page index
    obtain ⟨taken, pictures, names, -⟩ := course.pictures standard one
    exact ⟨taken, pictures, names⟩

/-- Two pages of one name, which ends like the name of a screenshot, are clicked at one time. -/
theorem Photographer.pictures_apart_sameName :
    let page : Page := ⟨"P_page2_20240101_000000", .click (some "Go"), []⟩
    let runner : Runner MemoryPage String := ⟨.complete, .ignoring, some ⟨fun _ => { year := 2024 }⟩,
      { screenshotFolder := "/shots" }, fun _ _ => 0⟩
    let shown : MemoryPage := { elements := [("go", {})], places := [(.clickable (some "Go"), "go")] }
    let s : Scene MemoryPage := { page := shown }
    let done := runner.run ⟨"http://h", [], [page, page]⟩ (memoryBrowser "FakeDriver") "x" none s
    done.2.page.pictures =
      ["/shots/P_page2_20240101_000000-On_Page_page1_20240101_000000.png",
        "/shots/P_page2_20240101_000000-On_Page_page2_20240101_000000.png"] ∧
      s.PicturedApart done.2 ∧
      Label.read? "/shots/P_page2_20240101_000000-On_Page_page1_20240101_000000.png" =
        some ⟨1, "20240101_000000".toList⟩ ∧
      Clock.ofStamp? "20240101_000000".toList = some { year := 2024 } := by
  intro page runner shown s done
  obtain ⟨read, time, -, apart⟩ := pictures_apart
  refine ⟨by decide +kernel,
    (apart runner Registry.isStandard_complete).1 (.inr (.inr rfl)) _ _ _ _ s, ?_, ?_⟩
  · exact read { year := 2024 } "P_page2_20240101_000000-On_Page" 1 "/shots"
  · exact time { year := 2024 } ⟨by decide, by decide, by decide, by decide, by decide⟩

end Walkthrough
