import Walkthrough.Proofs.Run.Enquiries
import Walkthrough.Proofs.Run.Keeping
import Walkthrough.Proofs.Run.Unobserved

/-! Steps that stay: they send a page nowhere and apply no flags. All that a run does after its flags is of
this kind, except that it navigates: looking fields up, the actions and their hooks, and whatever is
recorded of the run. What only records leaves the page as it is besides, but for the pictures it takes. -/

namespace Walkthrough

/-- The address that a page is sent to. -/
def JournalEntry.visit? : JournalEntry → Option String
  | .navigate url => some url
  | _ => none

/-- The addresses that a page was sent to, in their order. -/
def MemoryPage.visits (p : MemoryPage) : List String := p.journal.filterMap JournalEntry.visit?

namespace MemoryPage

theorem visits_note (p : MemoryPage) (entry : JournalEntry) :
    (p.note entry).visits = p.visits ++ [entry].filterMap JournalEntry.visit? :=
  List.filterMap_append

theorem visits_withPictures (p : MemoryPage) (paths : List String) :
    (p.withPictures paths).visits = p.visits := by
  have none : (paths.map JournalEntry.screenshot).filterMap JournalEntry.visit? = [] := by
    simp [JournalEntry.visit?]
  rw [visits, withPictures, List.filterMap_append, none, List.append_nil]
  rfl

theorem visits_touch (name : String) (t : Touch) (p : MemoryPage) :
    (touch name t p).2.visits = p.visits := by
  have noted : (p.note (.touch name t)).visits = p.visits :=
    (p.visits_note _).trans (List.append_nil _)
  unfold touch
  dsimp only
  split
  · rfl
  · split
    · exact noted
    · split
      · exact noted
      · exact noted

end MemoryPage

namespace Scene

/-- Scenes that differ at most in the disk and the log. -/
structure SameStage (s t : Scene MemoryPage) : Prop where
  page : t.page = s.page
  flagSets : t.flagSets = s.flagSets
  cacheClears : t.cacheClears = s.cacheClears

/-- From one scene to the other nothing was done to the page but to take pictures of it, and no flags were
applied. -/
structure Pictured (s t : Scene MemoryPage) : Prop where
  page : ∃ paths, t.page = s.page.withPictures paths
  flagSets : t.flagSets = s.flagSets
  cacheClears : t.cacheClears = s.cacheClears

/-- From one scene to the other the page was sent nowhere and no flags were applied. -/
structure Stayed (s t : Scene MemoryPage) : Prop where
  visits : t.page.visits = s.page.visits
  flagSets : t.flagSets = s.flagSets
  cacheClears : t.cacheClears = s.cacheClears

instance : IsPreorder (Scene MemoryPage) SameStage where
  refl _ := ⟨rfl, rfl, rfl⟩
  trans _ _ _ h h' := ⟨h'.page.trans h.page, h'.flagSets.trans h.flagSets,
    h'.cacheClears.trans h.cacheClears⟩

instance : IsPreorder (Scene MemoryPage) Pictured where
  refl s := ⟨⟨[], s.page.withPictures_nil.symm⟩, rfl, rfl⟩
  trans _ _ _ := by
    rintro ⟨⟨paths, h⟩, flagSets, cacheClears⟩ ⟨⟨more, h'⟩, flagSets', cacheClears'⟩
    refine ⟨⟨paths ++ more, ?_⟩, flagSets'.trans flagSets, cacheClears'.trans cacheClears⟩
    rw [h', h, MemoryPage.withPictures_append]

instance : IsPreorder (Scene MemoryPage) Stayed where
  refl _ := ⟨rfl, rfl, rfl⟩
  trans _ _ _ h h' := ⟨h'.visits.trans h.visits, h'.flagSets.trans h.flagSets,
    h'.cacheClears.trans h.cacheClears⟩

theorem SameStage.pictured {s t : Scene MemoryPage} (h : s.SameStage t) : s.Pictured t :=
  ⟨⟨[], h.page.trans s.page.withPictures_nil.symm⟩, h.flagSets, h.cacheClears⟩

theorem Pictured.stayed {s t : Scene MemoryPage} (h : s.Pictured t) : s.Stayed t := by
  obtain ⟨⟨paths, h⟩, flagSets, cacheClears⟩ := h
  exact ⟨by rw [h, MemoryPage.visits_withPictures], flagSets, cacheClears⟩

end Scene

/-- The step does nothing but write to the disk and to the log. -/
abbrev Writes {α : Type} (act : Act (Scene MemoryPage) α) : Prop := Act.Keeps Scene.SameStage act

/-- The step does nothing to the page but take pictures of it. -/
abbrev Records {α : Type} (act : Act (Scene MemoryPage) α) : Prop := Act.Keeps Scene.Pictured act

/-- The step sends the page nowhere and applies no flags, whatever it comes to. -/
abbrev Stays {α : Type} (act : Act (Scene MemoryPage) α) : Prop := Act.Keeps Scene.Stayed act

namespace Scene.SameStage

variable {path : String}

theorem say {level : Level} {channel : Channel} {text : String} :
    Writes (Scene.say level channel text) := fun _ => ⟨rfl, rfl, rfl⟩

theorem onDisk {change : Disk → Except Disk.Refusal Disk} : Writes (Scene.onDisk path change) := by
  intro s
  unfold Scene.onDisk
  split
  · exact ⟨rfl, rfl, rfl⟩
  · exact ⟨rfl, rfl, rfl⟩

theorem ensureDirectory : Writes (Scene.ensureDirectory path) := by
  intro s
  unfold Scene.ensureDirectory
  split
  · exact ⟨rfl, rfl, rfl⟩
  · exact ⟨rfl, rfl, rfl⟩

theorem requireWritable {u : Option Text.Utf8.Unwritable} : Writes (Scene.requireWritable u) := by
  cases u with
  | none => exact .pure
  | some u => exact .fail

theorem writeTexts {texts : List String} : Writes (Scene.writeTexts path texts) :=
  .bind .onDisk fun _ => .requireWritable

theorem appendText {text : String} : Writes (Scene.appendText path text) :=
  .bind .onDisk fun _ => .requireWritable

end Scene.SameStage

namespace Scene.Pictured

variable {α : Type} {act : Act (Scene MemoryPage) α}

theorem of_writes (h : Writes act) : Records act := h.mono fun _ _ => SameStage.pictured

theorem say {level : Level} {channel : Channel} {text : String} :
    Records (Scene.say level channel text) :=
  of_writes .say

theorem onPage {call : MemoryPage → Except Fault α × MemoryPage}
    (h : ∀ p, ∃ paths, (call p).2 = p.withPictures paths) : Records (Scene.onPage call) :=
  fun s => ⟨h s.page, rfl, rfl⟩

end Scene.Pictured

namespace Scene.Stayed

variable {α : Type} {act : Act (Scene MemoryPage) α}

theorem of_records (h : Records act) : Stays act := h.mono fun _ _ => Pictured.stayed

theorem say {level : Level} {channel : Channel} {text : String} :
    Stays (Scene.say level channel text) :=
  of_records .say

theorem enquires {R : MemoryPage → MemoryPage → Prop} {P : Locator → Prop} (h : Enquires R P act) :
    Stays act := by
  intro s
  obtain ⟨asked, said, -, hs⟩ := h.asks s
  rw [hs]
  exact ⟨rfl, rfl, rfl⟩

theorem onPage {call : MemoryPage → Except Fault α × MemoryPage}
    (h : ∀ p, (call p).2.visits = p.visits) : Stays (Scene.onPage call) :=
  fun s => ⟨h s.page, rfl, rfl⟩

theorem touch (name : String) (t : Touch) : Stays (Scene.onPage (MemoryPage.touch name t)) :=
  .onPage (MemoryPage.visits_touch name t)

end Scene.Stayed

/-! ## Recording -/

theorem Scene.SameStage.filing : Scene.Filing SameStage fun _ => True where
  say _ _ _ := .say
  ensure _ := .ensureDirectory
  write _ _ := .writeTexts
  append _ _ := .appendText

/-- Recording a page in memory does nothing to it but take pictures of it. -/
theorem recording_pictured (n : String) :
    (memoryBrowser n).Recording Scene.Pictured fun _ => True where
  say _ _ _ := .say
  ensure _ := .of_writes .ensureDirectory
  write _ _ := .of_writes .writeTexts
  append _ _ := .of_writes .appendText
  screenshot := fun {path} _ => by
    refine .bind (.onPage fun p => ?_) fun _ => .of_writes .onDisk
    unfold MemoryPage.beforePicture MemoryPage.check
    split
    · exact ⟨[], p.withPictures_nil.symm⟩
    · dsimp only
      split
      · exact ⟨[path], rfl⟩
      · exact ⟨[path], rfl⟩
  pageSource := by
    refine .onPage fun p => ⟨[], ?_⟩
    rw [p.withPictures_nil]
    unfold MemoryPage.pageSource MemoryPage.check
    split
    · rfl
    · split <;> rfl
  currentUrl := by
    refine .onPage fun p => ⟨[], ?_⟩
    rw [p.withPictures_nil]
    unfold MemoryPage.currentUrl MemoryPage.check
    split
    · rfl
    · split <;> rfl

namespace Run

theorem writes_logStep (directory : Option String) (entry : StepEntry) :
    Writes (logStep directory entry) :=
  keeps_logStep Scene.SameStage.filing (fun _ _ _ _ => trivial) entry

theorem records_recordFailure (took : Scene MemoryPage → UInt64) (n name : String)
    (directory : Option String) (index : Nat) (page : String) (fault : Fault) :
    Records (recordFailure took (memoryBrowser n) name directory index page fault) :=
  keeps_recordFailure (recording_pictured n) (fun _ _ _ _ => trivial) took name index page fault

end Run

/-! ## Actions -/

/-- Looking up, reading and touching sends a page in memory nowhere. -/
theorem keeps_stayed (n : String) : (memoryBrowser n).Keeps Scene.Stayed where
  say _ _ _ := .say
  call calls := by
    have entry (e key : String) : Stays ((memoryBrowser n).readAttribute e key) :=
      .enquires (P := fun _ => True) (.readAttribute (R := Eq) fun _ _ h => h ▸ ⟨rfl, rfl⟩)
    have text (e : String) : Stays ((memoryBrowser n).readText e) :=
      .enquires (P := fun _ => True) (.readText (R := Eq) fun _ _ h => h ▸ rfl)
    cases calls with
    | locate l =>
      exact .enquires (P := fun _ => True) (.locate (R := Eq) (fun _ _ h => h ▸ ⟨rfl, rfl⟩) trivial)
    | readAttribute e key => exact entry e key
    | readText e => exact text e
    | readValue e =>
      refine .bind (entry e "value") fun value => ?_
      cases value with
      | none => exact text e
      | some value => exact .pure
    | _ => exact .touch _ _

/-- A hook that stays; there may be none. -/
def Hook.Stays (hook : Hook MemoryPage String) : Prop :=
  ∀ call ∈ hook, ∀ element, Walkthrough.Stays (call element)

/-- A strategy that stays if its hook does. -/
def Strategy.Stays (s : Strategy MemoryPage String) : Prop :=
  ∀ (n : String) (lookups : List Lookup) (action : Action) (hook : Hook MemoryPage String),
    hook.Stays → Walkthrough.Stays (s.perform (.onMemory n lookups) action hook)

theorem Strategy.IsStandard.stays {s : Strategy MemoryPage String} (h : s.IsStandard) : s.Stays :=
  fun n _ action _ hh => h.composed (keeps_stayed n).within hh action

theorem Run.stays_pageHook (runner : Runner MemoryPage String) (n page : String) (index : Nat) :
    Hook.Stays (pageHook runner (memoryBrowser n) page index) :=
  keeps_pageHook ((recording_pictured n).mono fun _ _ h => h.stayed) runner.pictures_anywhere page index

theorem Registry.stays_dispatch {registry : Registry MemoryPage String}
    (hr : ∀ e ∈ registry.strategies, e.2.Stays) (n : String) (lookups : List Lookup)
    (request : Request) {hook : Hook MemoryPage String} (h : hook.Stays) :
    Walkthrough.Stays (registry.dispatch (.onMemory n lookups) request hook) :=
  registry.within_dispatch (keeps_stayed n).within (fun e he action => hr e he n lookups action hook h)
    request

end Walkthrough
