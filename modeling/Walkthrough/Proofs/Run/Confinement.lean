import Walkthrough.Proofs.Run.Artifacts

/-! Where artifacts are kept. The run directory of a file is a child of the directory of all artifacts, and a
screenshot is one of the directory of screenshots, whatever the names of files and pages are: what is made of
a name is not empty, no step upwards, and has no slash (`Suite.artifacts_confined`). -/

namespace Walkthrough

/-! ## Absolute paths -/

namespace Path

theorem mem_climb {part : List Char} {above ps : List (List Char)} (h : part ∈ climb above ps) :
    part ∈ above ∨ part ∈ ps ∧ part ≠ ['.', '.'] := by
  induction ps generalizing above with
  | nil => exact .inl (List.mem_reverse.mp h)
  | cons p ps ih =>
    rw [climb] at h
    split at h
    · exact (ih h).imp List.mem_of_mem_tail fun ⟨rest, name⟩ => ⟨List.mem_cons_of_mem _ rest, name⟩
    · next name =>
      rcases ih h with found | ⟨rest, name⟩
      · rcases List.mem_cons.mp found with rfl | found
        · exact .inr ⟨List.mem_cons_self, name⟩
        · exact .inl found
      · exact .inr ⟨List.mem_cons_of_mem _ rest, name⟩

variable {part cs : List Char}

theorem isName_of_mem_climb (h : part ∈ climb [] (steps cs)) : IsName part := by
  rcases mem_climb h with found | ⟨found, above⟩
  · cases found
  · obtain ⟨nonempty, here, whole⟩ := mem_steps found
    exact ⟨nonempty, here, above, whole⟩

theorem parts_absolute (cs : List Char) : parts (absolute cs) = climb [] (steps cs) :=
  parts_ofSteps cs fun _ h => ⟨(isName_of_mem_climb h).nonempty, (isName_of_mem_climb h).whole⟩

end Path

namespace Disk

/-- The place that a path from the root leads to. -/
def destination (path : List Char) : List (List Char) := (Path.parts path).foldl stride []

/-- The parts that stay in place may be left out. -/
theorem foldl_stride_filter (ps : List (List Char)) (place : List (List Char)) :
    (ps.filter (· != ['.'])).foldl stride place = ps.foldl stride place := by
  induction ps generalizing place with
  | nil => rfl
  | cons p ps ih =>
    by_cases here : p = ['.']
    · subst here
      rw [List.filter_cons_of_neg (by simp)]
      exact ih place
    · rw [List.filter_cons_of_pos (by simpa using here)]
      exact ih _

theorem foldl_stride_names {ps : List (List Char)} (h : ∀ p ∈ ps, Path.IsName p) (place : List (List Char)) :
    ps.foldl stride place = place ++ ps := by
  induction ps generalizing place with
  | nil => exact (List.append_nil place).symm
  | cons p ps ih =>
    obtain ⟨hp, hps⟩ := List.forall_mem_cons.mp h
    rw [List.foldl_cons, stride_name place hp, ih hps, List.append_assoc, List.singleton_append]

/-- Taking the steps upwards of a path is going along it. -/
theorem climb_eq_foldl {ps : List (List Char)} (h : ∀ p ∈ ps, p ≠ [] ∧ p ≠ ['.'])
    (above : List (List Char)) : Path.climb above ps = ps.foldl stride above.reverse := by
  induction ps generalizing above with
  | nil => rfl
  | cons p ps ih =>
    obtain ⟨⟨nonempty, here⟩, hps⟩ := List.forall_mem_cons.mp h
    have moves : ¬ (p.isEmpty || decide (p = ['.'])) = true := by simp [nonempty, here]
    rw [Path.climb, List.foldl_cons, stride, if_neg moves]
    split
    · rw [ih hps, List.dropLast_reverse]
    · rw [ih hps, List.reverse_cons]

/-- An absolute path without steps upwards leads where the path led. -/
theorem destination_absolute (cs : List Char) : destination (Path.absolute cs) = destination cs :=
  calc (Path.parts (Path.absolute cs)).foldl stride []
    _ = Path.climb [] (Path.steps cs) := by
      rw [Path.parts_absolute, foldl_stride_names fun _ => Path.isName_of_mem_climb]
      rfl
    _ = (Path.steps cs).foldl stride [] :=
      climb_eq_foldl (fun _ h => ⟨(Path.mem_steps h).1, (Path.mem_steps h).2.1⟩) []
    _ = (Path.parts cs).foldl stride [] := by
      rw [Path.steps_eq, foldl_stride_filter]

/-! ## Places from a working directory -/

/-- A path that is made absolute leads where it led from the working directory. -/
theorem destination_join_eq_placeFrom (directory path : List Char) :
    destination (Path.join directory path) = placeFrom (destination directory) path := by
  unfold placeFrom
  split
  · next absolute =>
    rw [Path.join, if_pos (beq_iff_eq.mpr absolute)]
    rfl
  · next relative =>
    rw [destination, Path.parts_join_of_relative relative, List.foldl_append]
    rfl

end Disk

/-! ## Children of directories -/

/-- The path is that of something right inside of the directory, from wherever the two are seen: it is neither
the directory itself nor the one above it. -/
structure ChildOf (directory path : String) : Prop where
  named : ∃ name : String, Path.IsName name.toList ∧ path = joinPath directory name ∧
    ∀ cwd, Disk.placeFrom cwd path.toList = Disk.placeFrom cwd directory.toList ++ [name.toList]
  ne_itself : ∀ cwd, Disk.placeFrom cwd path.toList ≠ Disk.placeFrom cwd directory.toList
  ne_above : ∀ cwd, Disk.placeFrom cwd path.toList ≠ (Disk.placeFrom cwd directory.toList).dropLast

theorem childOf_joinPath {name : String} (h : Path.IsName name.toList) (directory : String) :
    ChildOf directory (joinPath directory name) := by
  have place (cwd : List (List Char)) : Disk.placeFrom cwd (joinPath directory name).toList =
      Disk.placeFrom cwd directory.toList ++ [name.toList] := by
    rw [joinPath, String.toList_ofList, Disk.placeFrom_join cwd _ h]
  have longer (cwd : List (List Char)) : (Disk.placeFrom cwd (joinPath directory name).toList).length =
      (Disk.placeFrom cwd directory.toList).length + 1 := by
    rw [place, List.length_append, List.length_singleton]
  refine ⟨⟨name, h, rfl, place⟩, fun cwd same => ?_, fun cwd same => ?_⟩
  · have := longer cwd
    rw [same] at this
    omega
  · have := longer cwd
    rw [same, List.length_dropLast] at this
    omega

variable {π η : Type}

/-- The run directory of a file that a directory lists is a child of the directory of all artifacts: it is the
one that the session of the file is asked for with and that its result names, whatever the run comes to. A
screenshot is a child of its directory made absolute, which leads from the root where the directory leads from
where it is seen, whatever the page, the number and the time. -/
theorem Suite.artifacts_confined [StackRoom] (suite : Suite π η) :
    (∀ (d : Disk) (directory : String) (patterns files : List String), d.WellFormed →
      d.scan directory patterns = .ok files → ∀ file ∈ files,
        ChildOf suite.runner.settings.artifactRoot (suite.directoryOf file) ∧
        ∀ s : Journal π, ∃ result events t, suite.runFile file s = (.ok result, t) ∧
          result.runDirectory = some (suite.directoryOf file) ∧ t.page = s.page ++ events ∧
          SessionEvent.Orderly (suite.directoryOf file) events) ∧
    ∀ (time : Clock) (name : String) (page : Int) (cwd base : String),
      let folder := String.ofList (Path.absolute (joinPath cwd base).toList)
      ChildOf folder (Photographer.path time name page (joinPath cwd base)) ∧
      Disk.destination folder.toList = Disk.placeFrom (Disk.destination cwd.toList) base.toList ∧
      (cwd.toList.head? = some '/' → folder.toList.head? = some '/') := by
  refine ⟨fun d directory patterns files wf scanned file hf => ⟨?_, fun s => ?_⟩,
    fun time name page cwd base => ⟨?_, ?_, ?_⟩⟩
  · exact childOf_joinPath (isName_sanitizeName (isName_scenarioName wf scanned hf)) _
  · obtain ⟨k, warnings, kept, ended, events, t, fares, ran, journal⟩ := suite.exists_fares file s
    refine ⟨_, events, t, ran, ?_, journal, fares.orderly⟩
    cases ended with
    | ok _ | error _ => rfl
  · exact childOf_joinPath (Photographer.isName_fileName time name page) _
  · rw [String.toList_ofList, Disk.destination_absolute, joinPath, String.toList_ofList,
      Disk.destination_join_eq_placeFrom]
  · intro absolute
    rw [String.toList_ofList]
    refine Path.head?_ofSteps ?_ _
    rw [joinPath, String.toList_ofList, Path.head?_join]
    exact .inr absolute

example : Photographer.path {} "../../a\x00" 1 "/shots/./b/.." =
    "/shots/.._.._a__page1_10101_000000.png" := by decide +kernel

/-- Files whose names begin or end with dots. -/
def dottedDisk : Disk where
  entries := [(["suite".toList], .directory), (["suite".toList, "...json".toList], .file []),
    (["suite".toList, "..a.json".toList], .file []), (["suite".toList, ".json".toList], .file []),
    (["suite".toList, "a...json".toList], .file [])]

/-- Each of them has a run directory of its own right inside of that of all artifacts. -/
theorem Suite.artifacts_confined_dotted :
    let files := ["/suite/...json", "/suite/..a.json", "/suite/.json", "/suite/a...json"]
    dottedDisk.scan "/suite" emptyPages.runner.settings.patterns = .ok files ∧
      (∀ file ∈ files, ChildOf "/artifacts" (emptyPages.directoryOf file)) ∧
      files.map emptyPages.directoryOf =
        ["/artifacts/...json", "/artifacts/..a", "/artifacts/.json", "/artifacts/a.."] := by
  intro files
  have scanned : dottedDisk.scan "/suite" emptyPages.runner.settings.patterns = .ok files :=
    Disk.scan_eq_ok (["...json", "..a.json", ".json", "a...json"].map String.toList) (by decide +kernel)
      (by decide +kernel) (by decide +kernel)
  have wf : dottedDisk.WellFormed := ⟨by decide +kernel, by decide +kernel, by decide +kernel⟩
  exact ⟨scanned, fun file hf => (emptyPages.artifacts_confined.1 _ _ _ _ wf scanned file hf).1,
    by decide +kernel⟩

end Walkthrough
