import Walkthrough.Proofs.Disk.Places
import Walkthrough.Proofs.Number.Numerals
import Walkthrough.Proofs.Run.Composed

/-! What runs keep. A relation of scenes that messages and the calls of a browser keep is kept by all that is
put together from them. The recording of a run keeps what the recording calls of the browser and changes of
the disk keep. -/

namespace Walkthrough

variable {π η α : Type} {R : Scene π → Scene π → Prop}

/-- The steps that keep a relation. -/
abbrev Act.keeping {σ : Type} (R : σ → σ → Prop) : Act.Kind σ := fun _ act => Act.Keeps R act

theorem Act.closed_keeping {σ : Type} {R : σ → σ → Prop} [IsPreorder σ R] : (Act.keeping R).Closed where
  pure := .pure
  fail := .fail
  bind := .bind
  attempt := .attempt
  mapFault := .mapFault

/-- Messages and the calls of the browser keep the relation. -/
structure Browser.Keeps (b : Browser π η) (R : Scene π → Scene π → Prop) : Prop where
  say : ∀ level channel text, Act.Keeps R (Scene.say level channel text)
  call : ∀ {α : Type} {call : Act (Scene π) α}, b.Calls call → Act.Keeps R call

/-- A hook that keeps the relation; there may be none. -/
abbrev Hook.Keeps (hook : Hook π η) (R : Scene π → Scene π → Prop) : Prop := hook.Within (Act.keeping R)

theorem Browser.Keeps.within [IsPreorder (Scene π) R] {b : Browser π η} (h : b.Keeps R) :
    b.Within (Act.keeping R) where
  toClosed := Act.closed_keeping
  say := h.say
  call := h.call

/-! ## Names of files -/

theorem Path.isName_of {name : List Char} {c : Char} (hc : c ∈ name) (point : c ≠ '.')
    (whole : '/' ∉ name) : Path.IsName name where
  nonempty := List.ne_nil_of_mem hc
  here := by
    rintro rfl
    exact point (List.mem_singleton.mp hc)
  above := by
    rintro rfl
    exact point (by simpa using hc)
  whole := whole

theorem not_mem_sanitizeName (name : String) : '/' ∉ (sanitizeName name).toList := by
  intro h
  rw [sanitizeName, String.toList_ofList] at h
  obtain ⟨n, -, hn⟩ := List.mem_map.mp h
  split at hn
  · next safe =>
    rw [hn] at safe
    exact absurd safe (by decide)
  · exact absurd hn (by decide)

/-- No slash is written in a number. -/
theorem Text.Numeral.not_mem {s : String} (h : Text.Numeral s) : '/' ∉ s.toList := fun hs =>
  absurd (h _ hs) (by decide)

section

variable {c : Char} (hc : Number.isNumeral c = false)

include hc

theorem Text.not_mem_decimal (n : Nat) : c ∉ Text.decimal n := fun h =>
  Bool.false_ne_true (hc.symm.trans (Number.isNumeral_of_mem_toDigits h))

theorem Text.not_mem_padLeft {cs : List Char} (width : Nat) (h : c ∉ cs) : c ∉ Text.padLeft width cs := by
  intro hp
  rcases List.mem_append.mp hp with hp | hp
  · exact Bool.false_ne_true (hc.symm.trans (Number.isNumeral_of_mem_replicate hp))
  · exact h hp

theorem Text.not_mem_signedPadded (width : Nat) (n : Int) : c ∉ Text.signedPadded width n := by
  have sign : c ≠ '-' := by
    rintro rfl
    exact absurd hc (by decide)
  unfold Text.signedPadded
  split
  · exact List.not_mem_cons_of_ne_of_not_mem sign (not_mem_padLeft hc _ (not_mem_decimal hc _))
  · exact not_mem_padLeft hc _ (not_mem_decimal hc _)

end

theorem Clock.not_mem_stamp (c : Clock) : '/' ∉ c.stamp := by
  have slash : Number.isNumeral '/' = false := by decide
  have two (n : Nat) := Text.not_mem_padLeft slash 2 (Text.not_mem_decimal slash n)
  simp only [stamp, List.mem_append, List.mem_cons, Text.not_mem_decimal slash, two, or_false, false_or]
  decide

theorem Photographer.isName_fileName (time : Clock) (name : String) (page : Int) :
    Path.IsName (fileName time name page).toList := by
  have page := (Text.Numeral.int page).not_mem
  refine Path.isName_of (c := '_') ?_ (by decide) ?_
  · simp [fileName]
  · simp only [fileName, String.toList_append, List.mem_append, not_mem_sanitizeName, page,
      String.toList_ofList, Clock.not_mem_stamp, or_false, false_or]
    decide

theorem Evidence.isName_pageFile (index : Int) {extension : String} (h : '/' ∉ extension.toList) :
    Path.IsName (pageFile index extension).toList := by
  refine Path.isName_of (c := '_') ?_ (by decide) ?_
  · simp [pageFile]
  · simp only [pageFile, String.toList_append, List.mem_append, String.toList_ofList,
      Text.not_mem_signedPadded (by decide : Number.isNumeral '/' = false), h, or_false]
    decide

/-- A screenshot is never taken for the log of a run. -/
theorem Photographer.fileName_ne (time : Clock) (name : String) (page : Int) :
    fileName time name page ≠ stepLogName := by
  intro h
  have ends : ".png".toList <:+ (fileName time name page).toList := by
    rw [fileName, String.toList_append]
    exact List.suffix_append _ _
  rw [h] at ends
  exact absurd ends (by decide)

theorem Evidence.pageFile_ne (index : Int) (extension : String) {other : String}
    (h : ¬"failure_page_".toList <+: other.toList) : pageFile index extension ≠ other := by
  rintro rfl
  refine h ?_
  rw [pageFile, String.toList_append, String.toList_append, List.append_assoc]
  exact List.prefix_append _ _

/-- The place of a file in a directory that is seen from a working directory. -/
def filePlace (cwd : List (List Char)) (directory name : String) : List (List Char) :=
  Disk.placeFrom cwd (joinPath directory name).toList

theorem filePlace_eq {name : String} (h : Path.IsName name.toList) (cwd : List (List Char))
    (directory : String) :
    filePlace cwd directory name = Disk.placeFrom cwd directory.toList ++ [name.toList] := by
  rw [filePlace, joinPath, String.toList_ofList, Disk.placeFrom_join _ _ h]

/-- Files of one place have one name, and they are in directories of one place. -/
theorem filePlace_inj {cwd : List (List Char)} {directory directory' name name' : String}
    (h : Path.IsName name.toList) (h' : Path.IsName name'.toList) :
    filePlace cwd directory name = filePlace cwd directory' name' ↔
      Disk.placeFrom cwd directory.toList = Disk.placeFrom cwd directory'.toList ∧ name = name' := by
  rw [filePlace_eq h, filePlace_eq h']
  constructor
  · intro same
    obtain ⟨directories, names⟩ := List.append_inj' same rfl
    exact ⟨directories, String.toList_injective (List.cons.inj names).1⟩
  · rintro ⟨directories, rfl⟩
    rw [directories]

/-! ## Recording -/

/-- Messages, directories that are made and texts that are written to files of the kind keep the
relation. -/
structure Scene.Filing (R : Scene π → Scene π → Prop) (file : String → Prop) : Prop where
  say : ∀ level channel text, Act.Keeps R (Scene.say level channel text)
  ensure : ∀ path, Act.Keeps R (Scene.ensureDirectory path)
  write : ∀ {path}, file path → ∀ texts, Act.Keeps R (Scene.writeTexts path texts)
  append : ∀ {path}, file path → ∀ text, Act.Keeps R (Scene.appendText path text)

/-- The calls by which a page is recorded keep the relation, with pictures in files of the kind. -/
structure Browser.Recording (b : Browser π η) (R : Scene π → Scene π → Prop) (file : String → Prop) :
    Prop extends Scene.Filing R file where
  screenshot : ∀ {path}, file path → Act.Keeps R (b.screenshot path)
  pageSource : Act.Keeps R b.pageSource
  currentUrl : Act.Keeps R b.currentUrl

theorem Browser.Recording.mono {b : Browser π η} {R R' : Scene π → Scene π → Prop}
    {file : String → Prop} (h : b.Recording R file) (hR : ∀ s t, R s t → R' s t) :
    b.Recording R' file where
  say _ _ _ := (h.say _ _ _).mono hR
  ensure _ := (h.ensure _).mono hR
  write hf _ := (h.write hf _).mono hR
  append hf _ := (h.append hf _).mono hR
  screenshot hf := (h.screenshot hf).mono hR
  pageSource := h.pageSource.mono hR
  currentUrl := h.currentUrl.mono hR

/-- Every name in the directory is one of a file of the kind. -/
abbrev Inside (file : String → Prop) (directory : String) : Prop :=
  ∀ name : String, Path.IsName name.toList → file (joinPath directory name)

/-- So is every name but one. -/
abbrev InsideBut (other : String) (file : String → Prop) (directory : String) : Prop :=
  ∀ name : String, Path.IsName name.toList → name ≠ other → file (joinPath directory name)

theorem Inside.but {file : String → Prop} {directory : String} (h : Inside file directory)
    (other : String) : InsideBut other file directory := fun name isName _ => h name isName

/-- Every picture that is taken of a page is in a file of the kind, whenever it is taken, unless the relation is
true of all that may come of the scene. -/
abbrev Runner.Pictures (runner : Runner π η) (R : Scene π → Scene π → Prop) (file : String → Prop) : Prop :=
  runner.photographer.isSome → ∀ s : Scene π, (∀ (time : Clock) (page : String) (index : Nat),
    file (Photographer.path time (page ++ "-On_Page") index
      (joinPath s.disk.workingDirectory runner.settings.screenshotFolder))) ∨ ∀ t, R s t

theorem Runner.pictures_anywhere (runner : Runner π η) : runner.Pictures R fun _ => True :=
  fun _ _ => .inl fun _ _ _ => trivial

/-- Pictures are no logs of runs. -/
theorem Runner.pictures_of_insideBut {runner : Runner π η} {file : String → Prop}
    (h : runner.photographer.isSome → ∀ s : Scene π,
      InsideBut stepLogName file (String.ofList (Path.absolute
        (joinPath s.disk.workingDirectory runner.settings.screenshotFolder).toList)) ∨ ∀ t, R s t) :
    runner.Pictures R file := fun some s =>
  (h some s).imp_left fun inside _ _ _ =>
    inside _ (Photographer.isName_fileName _ _ _) (Photographer.fileName_ne _ _ _)

section Recording

variable [IsPreorder (Scene π) R] {file : String → Prop} {b : Browser π η}

theorem Run.keeps_logStep (h : Scene.Filing R file) {directory : Option String}
    (hd : ∀ d ∈ namedDirectory directory, Inside file d) (entry : StepEntry) :
    Act.Keeps R (logStep directory entry) := by
  unfold logStep
  split
  · exact .pure
  · next d named =>
    have writing : Act.Keeps R (do
        Scene.ensureDirectory d
        Scene.appendText (joinPath d stepLogName) (Json.write entry.toData ++ "\n")) :=
      .bind (h.ensure d) fun _ =>
        h.append (hd d named _ (Path.isName_of (c := '_') (by decide) (by decide) (by decide))) _
    refine .bind writing.attempt fun outcome => ?_
    cases outcome with
    | ok _ => exact .pure
    | error fault =>
      dsimp only
      split
      · exact h.say _ _ _
      · exact .fail

variable (h : b.Recording R file)

include h

theorem Photographer.keeps_takeAt {time : Clock} {cwd name directory : String} {page : Int}
    (hd : file (path time name page (joinPath cwd directory))) :
    Act.Keeps R (takeAt time cwd b name page directory) := by
  have taking : Act.Keeps R (do
      Scene.ensureDirectory directory
      b.screenshot (path time name page (joinPath cwd directory))) :=
    .bind (h.ensure _) fun _ => h.screenshot hd
  refine .bind taking.attempt fun outcome => ?_
  split
  · exact .bind (h.say _ _ _) fun _ => .pure
  · exact .bind (h.say _ _ _) fun _ => .pure
  · exact .bind (h.say _ _ _) fun _ => .pure

/-- The hook of a page keeps what a screenshot keeps, if one is taken. -/
theorem Run.keeps_pageHook {runner : Runner π η} (hd : runner.Pictures R file) (page : String) (index : Nat) :
    (pageHook runner b page index).Keeps R := by
  intro call hc element
  obtain ⟨p, hp, rfl⟩ := Option.map_eq_some_iff.mp hc
  have taken : Act.Keeps R (p.take b (page ++ "-On_Page") index runner.settings.screenshotFolder) := by
    intro s
    rcases hd (Option.isSome_of_mem hp) s with inside | any
    · exact Photographer.keeps_takeAt h (inside (p.clock s.moment) page index) s
    · exact any _
  exact .bind taken fun _ => .pure

omit h in
theorem Evidence.keeps_part {step : Act (Scene π) α} (h : Act.Keeps R step) :
    Act.Keeps R (part step) :=
  .bind h.attempt fun _ => .pure

omit h in
theorem Evidence.keeps_systemPart {step : Act (Scene π) α} (h : Act.Keeps R step) :
    Act.Keeps R (systemPart step) := by
  refine .bind h.attempt fun outcome => ?_
  cases outcome with
  | ok a => exact .pure
  | error fault =>
    dsimp only
    split
    · exact .pure
    · exact .fail

theorem Evidence.keeps_collect {directory : String} (hd : InsideBut stepLogName file directory)
    (page : FailedPage) :
    Act.Keeps R (collect b directory page) := by
  have pageFile {extension : String} (whole : '/' ∉ extension.toList) :=
    hd _ (isName_pageFile page.index whole) (pageFile_ne page.index extension (by decide))
  have parts : Act.Keeps R (collectParts b directory page.index) :=
    .bind (keeps_part (.bind (h.screenshot (pageFile (by decide))) fun _ => .pure)) fun _ =>
      .bind (keeps_part (.bind h.pageSource fun _ =>
        .bind (h.write (pageFile (by decide)) _) fun _ => .pure)) fun _ =>
          .bind (keeps_part h.currentUrl) fun _ => .pure
  have context : file (joinPath directory "failure_context.json") :=
    hd _ (Path.isName_of (c := '_') (by decide) (by decide) (by decide)) (by decide)
  refine .bind (keeps_systemPart (h.ensure _)) fun outcome => ?_
  cases outcome with
  | error text => exact .bind (h.say _ _ _) fun _ => .pure
  | ok _ =>
    refine .bind parts fun parts => ?_
    refine .bind (keeps_systemPart (h.write context _)) fun outcome => ?_
    cases outcome with
    | ok _ => exact .pure
    | error text => exact .bind (h.say _ _ _) fun _ => .pure

namespace Run

variable {directory : Option String} (hd : ∀ d ∈ namedDirectory directory, Inside file d)

include hd

theorem keeps_recordFailure (took : Scene π → UInt64) (name : String) (index : Nat) (page : String)
    (fault : Fault) : Act.Keeps R (recordFailure took b name directory index page fault) := by
  have logged : Act.Keeps R (do
      logStep directory ⟨index, page, false, took (← Act.get), [], some fault.message⟩) :=
    .bind .get fun _ => keeps_logStep h.toFiling hd _
  refine .bind (h.say _ _ _) fun _ => ?_
  split
  · exact logged
  · next d named => exact .bind (Evidence.keeps_collect h ((hd d named).but _) _) fun _ => logged

/-- Pages keep what each of them and its records keep. -/
theorem keeps_runPages {runner : Runner π η} {lookups : List Lookup} {host : String}
    {turns : List Turn} (hp : ∀ turn ∈ turns, ∀ index,
      Act.Keeps R (runPage runner ⟨b, lookups⟩ host index turn)) (index : Nat)
    {result : ScenarioResult} (hr : result.runDirectory = directory) :
    Act.Keeps R (runPages runner ⟨b, lookups⟩ host index result turns) := by
  induction turns generalizing index result with
  | nil => exact .pure
  | cons turn turns ih =>
    subst hr
    obtain ⟨first, rest⟩ := List.forall_mem_cons.mp hp
    refine .bind .get fun start => .bind (first index).attempt fun outcome => ?_
    cases outcome with
    | error fault => exact .bind (keeps_recordFailure h hd _ _ _ _ _) fun _ => .fail
    | ok outcome =>
      refine .bind .get fun now => .bind (keeps_logStep h.toFiling hd _) fun _ => ?_
      exact .bind (h.say _ _ _) fun _ => ih rest (index + 1) rfl

end Run

end Recording

end Walkthrough
