import Walkthrough.Proofs.Run.Progress
import Walkthrough.Run.Suite

/-! What runs write. If the calls of a browser write nothing but pictures, then running scenario files changes
no file but those right inside of the directories of their runs, and of the folder of screenshots if someone
takes them (`Suite.keeps_runFile`). -/

namespace Walkthrough

variable {π η : Type} {P : List (List Char) → Prop}

/-- The disk is the same in both scenes. -/
def Scene.SameDisk (s t : Scene π) : Prop := t.disk = s.disk

/-- The disks of the two scenes are related. -/
def Scene.Disks (R : Disk → Disk → Prop) (s t : Scene π) : Prop := R s.disk t.disk

/-- Directories that are made and texts that are written to files of the kind keep the relation. -/
structure Disk.Filing (R : Disk → Disk → Prop) (file : String → Prop) : Prop where
  ensure : ∀ (d : Disk) (fuel : Nat) (path : List Char), R d (d.ensureAll fuel path).2
  write : ∀ {path : String} {d d' : Disk} {bytes : List UInt8}, file path →
    d.write path.toList bytes = .ok d' → R d d'
  append : ∀ {path : String} {d d' : Disk} {bytes : List UInt8}, file path →
    d.append path.toList bytes = .ok d' → R d d'

namespace Scene

variable {R : Disk → Disk → Prop} {file : String → Prop}

instance : IsPreorder (Scene π) SameDisk where
  refl _ := rfl
  trans _ _ _ h h' := h'.trans h

/-- A file of this path, seen from the working directory, is at a place where files may be written. -/
abbrev At (cwd : List (List Char)) (P : List (List Char) → Prop) (path : String) : Prop :=
  P (Disk.placeFrom cwd path.toList)

/-- A change of the disk is refused or made. -/
theorem disk_onDisk (path : String) (change : Disk → Except Disk.Refusal Disk) (s : Scene π) :
    (onDisk path change s).2.disk = s.disk ∨ change s.disk = .ok (onDisk path change s).2.disk := by
  unfold onDisk
  split
  · next changed => exact .inr changed
  · exact .inl rfl

section Disks

variable [IsPreorder Disk R]

instance : IsPreorder (Scene π) (Disks R) where
  refl s := refl_of R s.disk
  trans _ t _ h h' := trans_of R (b := t.disk) h h'

theorem SameDisk.disks {s t : Scene π} (h : s.SameDisk t) : s.Disks R t := by
  rw [Disks, h]
  exact refl_of R s.disk

theorem disks_onDisk {path : String} {change : Disk → Except Disk.Refusal Disk}
    (h : ∀ d d', change d = .ok d' → R d d') :
    Act.Keeps (Disks R) (onDisk path change : Act (Scene π) Unit) := by
  intro s
  rcases disk_onDisk path change s with same | changed
  · exact SameDisk.disks same
  · exact h _ _ changed

theorem disks_requireWritable {u : Option Text.Utf8.Unwritable} :
    Act.Keeps (Disks R) (requireWritable u : Act (Scene π) Unit) := by
  cases u with
  | none => exact .pure
  | some u => exact .fail

/-- Scenes are filed as their disks are. -/
theorem filing_disks (h : Disk.Filing R file) : Filing (Disks R : Scene π → Scene π → Prop) file where
  say _ _ _ s := refl_of R s.disk
  ensure path s := by
    have made := h.ensure s.disk (path.length + 1) path.toList
    show R s.disk _
    unfold ensureDirectory
    split
    · next eq =>
      rw [eq] at made
      exact made
    · next eq =>
      rw [eq] at made
      exact made
  write hf _ := .bind (disks_onDisk fun _ _ => h.write hf) fun _ => disks_requireWritable
  append hf _ := .bind (disks_onDisk fun _ _ => h.append hf) fun _ => disks_requireWritable

end Disks

end Scene

/-- What is true of the disks whenever files are written is true of those that are seen from one working
directory if it is true of the files that are seen from there. -/
theorem Disk.filing_seenFrom {R : Disk → Disk → Prop} (cwd : List (List Char))
    (ensure : ∀ (d : Disk) (fuel : Nat) (path : List Char), R d (d.ensureAll fuel path).2)
    (write : ∀ {d d' : Disk} {path : List Char} {bytes : List UInt8}, P (placeFrom d.cwd path) →
      d.write path bytes = .ok d' → R d d')
    (append : ∀ {d d' : Disk} {path : List Char} {bytes : List UInt8}, P (placeFrom d.cwd path) →
      d.append path bytes = .ok d' → R d d') :
    Filing (SeenFrom cwd R) (Scene.At cwd P) where
  ensure d fuel path := fun seen => ⟨(cwd_ensureAll d fuel path).trans seen, ensure d fuel path⟩
  write there h := fun seen => ⟨(cwd_of_placeOfFile h).trans seen, write (seen.symm ▸ there) h⟩
  append there h := fun seen => ⟨(cwd_of_placeOfFile h).trans seen, append (seen.symm ▸ there) h⟩

theorem Disk.filing_grew (cwd : List (List Char)) : Filing (SeenFrom cwd (Grew P)) (Scene.At cwd P) :=
  filing_seenFrom cwd grew_ensureAll (fun there h => grew_write h there) fun there h => grew_append h there

/-- The calls of the browser write nothing, but for the pictures that it takes. -/
structure Browser.Confined (b : Browser π η) : Prop where
  navigate : ∀ url, Act.Keeps Scene.SameDisk (b.navigate url)
  call : ∀ {α : Type} {call : Act (Scene π) α}, b.Calls call → Act.Keeps Scene.SameDisk call
  pageSource : Act.Keeps Scene.SameDisk b.pageSource
  currentUrl : Act.Keeps Scene.SameDisk b.currentUrl
  screenshot : ∀ path (s : Scene π), s.SameDisk (b.screenshot path s).2 ∨
    ∃ bytes, s.disk.write path.toList bytes = .ok (b.screenshot path s).2.disk

namespace Browser.Confined

variable {b : Browser π η} {R : Disk → Disk → Prop} [IsPreorder Disk R] {file : String → Prop}

theorem keeps (h : b.Confined) : b.Keeps (Scene.Disks R) where
  say _ _ _ s := refl_of R s.disk
  call calls := (h.call calls).mono fun _ _ => Scene.SameDisk.disks

theorem recording (h : b.Confined) (filing : Disk.Filing R file) : b.Recording (Scene.Disks R) file where
  toFiling := Scene.filing_disks filing
  pageSource := h.pageSource.mono fun _ _ => Scene.SameDisk.disks
  currentUrl := h.currentUrl.mono fun _ _ => Scene.SameDisk.disks
  screenshot := fun {path} hf s => by
    rcases h.screenshot path s with same | ⟨bytes, written⟩
    · exact same.disks
    · exact filing.write hf written

end Browser.Confined

theorem confined_memoryBrowser (n : String) : (memoryBrowser n).Confined where
  navigate _ _ := rfl
  pageSource _ := rfl
  currentUrl _ := rfl
  call calls := by
    cases calls with
    | readValue e =>
      refine .bind (fun _ => rfl) fun value => ?_
      cases value with
      | none => exact fun _ => rfl
      | some value => exact fun _ => rfl
    | _ => exact fun _ => rfl
  screenshot path s := by
    let shown : Act (Scene MemoryPage) Unit := Scene.onPage (MemoryPage.beforePicture path)
    let written : Act (Scene MemoryPage) Unit :=
      Scene.onDisk path fun d => d.write path.toList MemoryPage.picture
    have both : (memoryBrowser n).screenshot path = shown >>= fun _ => written := rfl
    have same : (shown s).2.disk = s.disk := rfl
    rw [both]
    rcases Act.bind_cases shown (fun _ => written) s with ⟨fault, t, first, eq⟩ | ⟨_, t, first, eq⟩
    · rw [first] at same
      rw [eq]
      exact .inl same
    · rw [first] at same
      rw [eq]
      rcases Scene.disk_onDisk path (fun d => d.write path.toList MemoryPage.picture) t with kept | changed
      · exact .inl (kept.trans same)
      · exact .inr ⟨_, same ▸ changed⟩

theorem FlagService.IsStandard.sameDisk {f : FlagService π} (h : f.IsStandard)
    (features : List (String × Feature)) : Act.Keeps Scene.SameDisk (f features) :=
  h.within (C := Act.keeping Scene.SameDisk) Act.closed_keeping (fun _ _ _ _ => rfl)
    (fun _ hg s => (hg s).2) features

section Runner

variable {runner : Runner π η} {b : Browser π η} {R : Disk → Disk → Prop} [IsPreorder Disk R]
  {file : String → Prop}

/-- A page of a run keeps what its screenshot keeps, if someone takes it. -/
theorem Run.disks_runPage (h : b.Confined) (filing : Disk.Filing R file)
    (strategies : ∀ e ∈ runner.registry.strategies, e.2.Composed)
    (hp : runner.Pictures (Scene.Disks R) file) (host : String) (index : Nat) (turn : Turn) :
    Act.Keeps (Scene.Disks R) (runPage runner ⟨b, Lookup.all⟩ host index turn) :=
  Run.within_runPage (C := Act.keeping (Scene.Disks R)) h.keeps.within
    ((h.navigate _).mono fun _ _ => Scene.SameDisk.disks) fun e he a =>
      strategies e he h.keeps.within (Run.keeps_pageHook (h.recording filing) hp _ _) a

/-- A run keeps what its records and its pictures keep. -/
theorem Runner.disks_run (h : b.Confined) (filing : Disk.Filing R file)
    (flags : ∀ features, Act.Keeps Scene.SameDisk (runner.flags features))
    (strategies : ∀ e ∈ runner.registry.strategies, e.2.Composed) (scenario : Scenario) (name : String)
    {directory : Option String} (hd : ∀ d ∈ Run.namedDirectory directory, Inside file d)
    (hp : runner.Pictures (Scene.Disks R) file) :
    Act.Keeps (Scene.Disks R) (runner.run scenario b name directory) := by
  have recording : b.Recording (Scene.Disks R) file := h.recording filing
  have page (turn : Turn) (index : Nat) :
      Act.Keeps (Scene.Disks R) (Run.runPage runner ⟨b, Lookup.all⟩ scenario.host index turn) :=
    Run.disks_runPage h filing strategies hp _ _ _
  exact .bind (recording.say _ _ _) fun _ =>
    .bind ((flags _).mono fun _ _ => Scene.SameDisk.disks) fun _ =>
      .bind (Run.keeps_runPages recording hd (fun turn _ => page turn) 1 rfl) fun _ =>
        .bind (recording.say _ _ _) fun _ => .pure

end Runner

namespace Suite

/-- The directories in which the runs of the files keep something, on disks like this one. -/
def Output (suite : Suite π η) (d : Disk) (files : List String) (directory : String) : Prop :=
  (∃ path ∈ files, directory = suite.runner.settings.runDirectory path) ∨
    suite.runner.photographer.isSome ∧ directory = String.ofList (Path.absolute
      (joinPath d.workingDirectory suite.runner.settings.screenshotFolder).toList)

/-- The places right inside of these directories. -/
def Written (suite : Suite π η) (d : Disk) (files : List String) (place : List (List Char)) : Prop :=
  ∃ directory, suite.Output d files directory ∧
    place.dropLast = Disk.placeFrom d.cwd directory.toList

variable {suite : Suite π η} {files : List String} {d : Disk}

theorem Output.inside {directory : String} (h : suite.Output d files directory) :
    Inside (Scene.At d.cwd (suite.Written d files)) directory := by
  intro name isName
  refine ⟨directory, h, ?_⟩
  rw [joinPath, String.toList_ofList, Disk.placeFrom_join _ _ isName, List.dropLast_concat]

section Disks

variable {R : Disk → Disk → Prop} [IsPreorder Disk R] {file : String → Prop}

theorem disks_inSession {plan : SessionPlan π η} {directory : String} {α : Type}
    {step : Act (Scene π) α} (h : Act.Keeps (Scene.Disks R) step) :
    Act.Keeps (Scene.Disks R) (inSession plan directory step) := by
  have note (event : SessionEvent π) : Act.Keeps (Scene.Disks R) (note event) := fun s =>
    refl_of R s.disk
  have showing (page : π) : Act.Keeps (Scene.Disks R) (showing page step) := fun s =>
    h ⟨page, s.disk, s.log, s.flagSets, s.cacheClears⟩
  refine .bind (note _) fun _ => ?_
  cases plan.openFault with
  | some fault => exact .fail
  | none =>
    refine .bind (note _) fun _ => .bind (showing _) fun done => .bind (note _) fun _ => ?_
    cases plan.closeFault with
    | some fault => exact .fail
    | none => exact fun s => refl_of (Scene.Disks R) s

/-- The suite writes nothing but what it keeps of its runs. -/
structure Confined (suite : Suite π η) : Prop where
  browser : ∀ directory, (suite.session directory).browser.Confined
  flags : ∀ features, Act.Keeps Scene.SameDisk (suite.runner.flags features)
  strategies : ∀ e ∈ suite.runner.registry.strategies, ¬ e.2.IsStandard → e.2.Composed

/-- Running a file keeps what its records and its pictures keep. -/
theorem disks_runFile [StackRoom] (h : suite.Confined) (filing : Disk.Filing R file) {path : String}
    (hd : Inside file (suite.runner.settings.runDirectory path))
    (hp : suite.runner.Pictures (Scene.Disks R) file) :
    Act.Keeps (Scene.Disks R) (suite.runFile path) := by
  have load : Act.Keeps (Scene.Disks R) (loadFile path : Act (Journal π) Scenario) :=
    fun s => refl_of (Scene.Disks R) s
  have outputs : ∀ d ∈ Run.namedDirectory (some (suite.runner.settings.runDirectory path)),
      Inside file d := fun d hd' => by
    obtain rfl := Option.mem_some.mp (Run.mem_of_namedDirectory hd')
    exact hd
  have run (scenario : Scenario) := suite.runner.disks_run
    (h.browser (suite.runner.settings.runDirectory path)) filing h.flags
    (Registry.composed_of_outside h.strategies) scenario (scenarioName path) outputs hp
  refine .bind (.attempt (.bind load fun scenario => disks_inSession (run scenario))) fun outcome => ?_
  cases outcome with
  | ok result => exact .pure
  | error fault => exact .bind ((Scene.filing_disks filing).say _ _ _) fun _ => .pure

end Disks

/-- Running a file changes no file but those right inside of the directories of what is kept. -/
theorem keeps_runFile [StackRoom] (h : suite.Confined) (d : Disk) {path : String} (hp : path ∈ files) :
    Act.Keeps (Scene.Disks (Disk.SeenFrom d.cwd (Disk.Grew (suite.Written d files)))) (suite.runFile path) :=
  disks_runFile h (Disk.filing_grew d.cwd) (Output.inside (.inl ⟨path, hp, rfl⟩)) <|
    Runner.pictures_of_insideBut fun taken s => by
      by_cases seen : s.disk.cwd = d.cwd
      · have same : s.disk.workingDirectory = d.workingDirectory := by
          rw [Disk.workingDirectory, Disk.workingDirectory, seen]
        rw [same]
        exact .inl ((Output.inside (.inr ⟨taken, rfl⟩)).but _)
      · exact .inr fun t other => absurd other seen

end Suite

end Walkthrough
