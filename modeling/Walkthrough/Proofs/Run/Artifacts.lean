import Walkthrough.Proofs.Run.StepLog
import Walkthrough.Proofs.Run.Suites

/-! Which files of a batch keep their artifacts in one directory. The extension of a file is no part of the
name of its run directory, and every code point that may not stand in a name of a file is written as the same
one: two files are kept apart exactly if their names differ elsewhere (`Suite.directoryOf_eq_iff`). Then no
artifact of the one is where one of the other is, and nothing that happens in the turns of the others changes
what the run of a file has kept (`Suite.runDirectory_artifacts`). -/

namespace Walkthrough

open Text

/-! ## Names of run directories -/

/-- The names are the same but for code points that may not stand in names of files. -/
def AlikeNames (a b : String) : Prop :=
  List.Forall₂ (fun m n => m = n ∨ isSafe (Char.ofNat m) = false ∧ isSafe (Char.ofNat n) = false)
    (points a.toList) (points b.toList)

/-- A safe character is the code point that it is taken for. -/
theorem toNat_ofNat_of_isSafe {n : Nat} (h : isSafe (Char.ofNat n) = true) : (Char.ofNat n).toNat = n := by
  by_cases valid : n.isValidChar
  · rw [Char.ofNat, dif_pos valid]
    rfl
  · rw [Char.ofNat, dif_neg valid] at h
    cases h

theorem sanitizeName_eq_iff {a b : String} : sanitizeName a = sanitizeName b ↔ AlikeNames a b := by
  have alike (m n : Nat) : (if isSafe (Char.ofNat m) then Char.ofNat m else '_') =
      (if isSafe (Char.ofNat n) then Char.ofNat n else '_') ↔
        m = n ∨ isSafe (Char.ofNat m) = false ∧ isSafe (Char.ofNat n) = false := by
    have other {k : Nat} (safe : isSafe (Char.ofNat k) = true) : Char.ofNat k ≠ '_' := by
      intro same
      rw [same] at safe
      cases safe
    cases hm : isSafe (Char.ofNat m) <;> cases hn : isSafe (Char.ofNat n)
    · simp
    · have apart : m ≠ n := by
        rintro rfl
        cases hm.symm.trans hn
      simpa [apart] using (other hn).symm
    · have apart : m ≠ n := by
        rintro rfl
        cases hm.symm.trans hn
      simpa [apart] using other hm
    · simp only [if_true, Bool.true_eq_false, and_self, or_false]
      refine ⟨fun same => ?_, congrArg _⟩
      rw [← toNat_ofNat_of_isSafe hm, same, toNat_ofNat_of_isSafe hn]
  rw [sanitizeName, sanitizeName, String.ofList_inj, ← List.forall₂_eq_eq_eq, List.forall₂_map_left_iff,
    List.forall₂_map_right_iff, AlikeNames]
  exact ⟨fun h => h.imp fun m n => (alike m n).mp, fun h => h.imp fun m n => (alike m n).mpr⟩

/-! ## Names of files -/

namespace Path

variable {name : List Char}

theorem splitLast_of_not_mem (h : '/' ∉ name) : splitLast name = ([], name) := by
  have all : name.reverse.takeWhile (· != '/') = name.reverse :=
    List.takeWhile_eq_self_iff.mpr fun c hc => by
      simpa using ne_of_mem_of_not_mem (List.mem_reverse.mp hc) h
  rw [splitLast, all, List.reverse_reverse, Nat.sub_self]
  rfl

theorem IsName.baseName_join (h : IsName name) (directory : List Char) :
    baseName (join directory name) = name := by
  have all : name.reverse.takeWhile (· != '/') = name.reverse :=
    List.takeWhile_eq_self_iff.mpr fun c hc => by
      simpa using ne_of_mem_of_not_mem (List.mem_reverse.mp hc) h.whole
  have ends : (front directory).reverse.takeWhile (· != '/') = [] := by
    unfold front
    split
    · next hd =>
      rcases Bool.or_eq_true_iff.mp hd with hd | hd
      · rw [List.isEmpty_iff.mp hd]
        rfl
      · obtain ⟨rest, rfl⟩ := List.getLast?_eq_some_iff.mp (beq_iff_eq.mp hd)
        simp
    · simp
  rw [baseName, splitLast, h.join_eq]
  dsimp only
  rw [List.reverse_append, List.takeWhile_append_of_pos (List.takeWhile_eq_self_iff.mp all), ends,
    List.append_nil, List.reverse_reverse]

theorem drop_takeWhile (p : Char → Bool) (cs : List Char) :
    cs.drop (cs.takeWhile p).length = cs.dropWhile p :=
  calc cs.drop (cs.takeWhile p).length
    _ = (cs.takeWhile p ++ cs.dropWhile p).drop (cs.takeWhile p).length := by
      rw [List.takeWhile_append_dropWhile]
    _ = cs.dropWhile p := List.drop_left

/-- Without its extension a name is still one. -/
theorem IsName.splitExtension (h : IsName name) : IsName (splitExtension name).1 := by
  rw [Path.splitExtension, splitLast_of_not_mem h.whole]
  dsimp only
  split
  · exact h
  · next shorter =>
    have parted : name.takeWhile (· == '.') ++ name.dropWhile (· == '.') = name :=
      List.takeWhile_append_dropWhile
    have first : ∀ c ∈ (name.dropWhile (· == '.')).head?, c ≠ '.' := fun c hc => by
      have := List.head?_dropWhile_not (· == '.') name
      rw [Option.mem_def.mp hc] at this
      simpa using this
    rw [drop_takeWhile] at shorter ⊢
    generalize name.takeWhile (· == '.') = front at parted ⊢
    generalize name.dropWhile (· == '.') = body at shorter parted first ⊢
    -- The last dot of the body stands behind its first character, which is none.
    have ends : body.reverse.takeWhile (· != '.') ++ body.reverse.dropWhile (· != '.') = body.reverse :=
      List.takeWhile_append_dropWhile
    have dot := List.head?_dropWhile_not (· != '.') body.reverse
    generalize body.reverse.takeWhile (· != '.') = extension at shorter ends ⊢
    generalize body.reverse.dropWhile (· != '.') = more at ends dot
    obtain rfl : body = more.reverse ++ extension.reverse := by
      rw [← List.reverse_append, ends, List.reverse_reverse]
    cases more with
    | nil => simp at shorter
    | cons d more =>
      obtain rfl : d = '.' := by simpa using dot
      have taken : (('.' :: more).reverse ++ extension.reverse).take
          ((('.' :: more).reverse ++ extension.reverse).length - extension.reverse.length - 1) =
          more.reverse := by
        rw [List.reverse_cons, List.append_assoc]
        exact List.take_left' (by simp; omega)
      rw [taken]
      cases hm : more.reverse with
      | nil =>
        rw [List.reverse_cons, hm] at first
        exact absurd rfl (first '.' rfl)
      | cons c rest =>
        rw [List.reverse_cons, hm] at first parted
        refine isName_of (c := c) (by simp) (first c rfl) fun slash => h.whole ?_
        rw [← parted]
        simp only [List.nil_append, List.mem_append] at slash ⊢
        tauto

end Path

theorem Text.points_ne_nil {cs : List Char} (h : cs ≠ []) : points cs ≠ [] := by
  fun_cases points cs with
  | case1 => exact absurd rfl h
  | case2 | case3 | case4 => exact List.cons_ne_nil _ _

/-- Only dots hold nothing but dots. -/
theorem Text.eq_dot_of_points {cs : List Char} (h : ∀ n ∈ points cs, n = '.'.toNat) :
    ∀ c ∈ cs, c = '.' := by
  have held {c : Char} (hc : pointOf c = '.'.toNat) : c = '.' := by
    unfold pointOf at hc
    split at hc
    · next standIn =>
      have : 0x10F000 ≤ c.toNat := by
        have := (Bool.and_eq_true_iff.mp standIn).1
        simpa using this
      have : '.'.toNat = 46 := rfl
      unfold standInDistance at hc
      omega
    · exact Char.toNat_inj.mp hc
  fun_induction points cs with
  | case1 => exact fun _ held => absurd held List.not_mem_nil
  | case2 c => exact List.forall_mem_singleton.mpr (held (h _ List.mem_cons_self))
  | case3 c d rest mark ih =>
    have dot : d = '.' := Char.toNat_inj.mp (h _ List.mem_cons_self)
    subst dot
    rw [show (isStandIn '.' || isMark '.') = false by decide, Bool.and_false] at mark
    cases mark
  | case4 c d rest other ih =>
    obtain ⟨first, others⟩ := List.forall_mem_cons.mp h
    exact List.forall_mem_cons.mpr ⟨held first, ih others⟩

/-- A name that is written with dots alone is written as it is. -/
theorem toList_sanitizeName_of_dots {name : String} (h : ∀ c ∈ (sanitizeName name).toList, c = '.') :
    (sanitizeName name).toList = name.toList := by
  have points_dots : ∀ n ∈ points name.toList, n = '.'.toNat := by
    intro n hn
    rw [sanitizeName, String.toList_ofList, List.forall_mem_map] at h
    have dot := h n hn
    split at dot
    · next safe => rw [← dot, toNat_ofNat_of_isSafe safe]
    · cases dot
  have dots := eq_dot_of_points points_dots
  have ordinary : points name.toList = name.toList.map Char.toNat := by
    have := points_ofChars name.toList
    rwa [ofChars_of_isOrdinary fun c hc => by rw [dots c hc]; rfl, String.ofList_toList] at this
  rw [sanitizeName, String.toList_ofList, ordinary, List.map_map]
  refine (List.map_congr_left fun c hc => ?_).trans (List.map_id _)
  rw [dots c hc]
  rfl

theorem isName_sanitizeName {name : String} (h : Path.IsName name.toList) :
    Path.IsName (sanitizeName name).toList where
  nonempty := by
    rw [sanitizeName, String.toList_ofList, Ne, List.map_eq_nil_iff]
    exact points_ne_nil h.nonempty
  here same := h.here <| by
    rw [← toList_sanitizeName_of_dots (by simp [same]), same]
  above same := h.above <| by
    rw [← toList_sanitizeName_of_dots (by simp [same]), same]
  whole := not_mem_sanitizeName name

/-! ## Files of artifacts -/

/-- The names of the files that are kept of a run. -/
inductive ArtifactName : String → Prop
  | log : ArtifactName stepLogName
  | context : ArtifactName "failure_context.json"
  | picture (index : Int) : ArtifactName (Evidence.pageFile index ".png")
  | source (index : Int) : ArtifactName (Evidence.pageFile index ".html")
  | trace : ArtifactName "trace.zip"

variable {π η : Type} {name : String}

theorem ArtifactName.isName (h : ArtifactName name) : Path.IsName name.toList := by
  cases h with
  | log | context | trace => decide
  | picture | source => exact Evidence.isName_pageFile _ (by decide)

/-- A picture of a page whose action begins is none of a page that failed. -/
theorem ArtifactName.fileName_ne (h : ArtifactName name) (time : Clock) (page : String) (index : Int) :
    Photographer.fileName time (page ++ "-On_Page") index ≠ name := by
  have page : 'O' ∈ (sanitizeName (page ++ "-On_Page")).toList := by
    have hyphen : (page ++ "-On_Page").toList = page.toList ++ '-' :: "On_Page".toList := by
      rw [String.toList_append]
      rfl
    rw [sanitizeName, String.toList_ofList, hyphen, Utf8.points_append (by decide), List.map_append]
    exact List.mem_append_right _ (by decide)
  have letter : 'O' ∉ name.toList := by
    have numeral : Number.isNumeral 'O' = false := by decide
    cases h with
    | log | context | trace => decide
    | picture | source =>
      simp only [Evidence.pageFile, String.toList_append, List.mem_append, String.toList_ofList,
        not_mem_signedPadded numeral, or_false]
      decide
  rintro rfl
  refine letter ?_
  simp [Photographer.fileName, page]

namespace Suite

variable {suite : Suite π η} {directory file file' : String} {s t u : Journal π} {files patterns : List String}
  {parts before after : List (Part π)} {part : Part π} {d : Disk}

/-! ## Files of a directory -/

theorem isName_scenarioName (wf : d.WellFormed) (scanned : d.scan directory patterns = .ok files)
    (h : file ∈ files) : Path.IsName (scenarioName file).toList := by
  obtain ⟨names, listed, name, hn, rfl⟩ := Disk.exists_of_mem_scan scanned h
  have isName := (Disk.locate_listed wf listed hn).1
  rw [scenarioName, String.toList_ofList, String.toList_ofList, isName.baseName_join]
  exact isName.splitExtension

/-- Two files have one run directory exactly if their names without extensions are the same but for code points
that may not stand in names of files. -/
theorem directoryOf_eq_iff (h : Path.IsName (scenarioName file).toList)
    (h' : Path.IsName (scenarioName file').toList) :
    suite.directoryOf file = suite.directoryOf file' ↔ AlikeNames (scenarioName file) (scenarioName file') := by
  rw [← sanitizeName_eq_iff]
  refine ⟨fun same => String.toList_injective ?_, fun same => ?_⟩
  · exact Path.join_injective (isName_sanitizeName h) (isName_sanitizeName h') (String.ofList_injective same)
  · exact congrArg (joinPath _) same

/-- Run directories that are not the same are at different places. -/
theorem directoryOf_eq_of_placeFrom (cwd : List (List Char)) (h : Path.IsName (scenarioName file).toList)
    (h' : Path.IsName (scenarioName file').toList)
    (same : Disk.placeFrom cwd (suite.directoryOf file).toList =
      Disk.placeFrom cwd (suite.directoryOf file').toList) :
    suite.directoryOf file = suite.directoryOf file' :=
  congrArg (joinPath _) ((filePlace_inj (isName_sanitizeName h) (isName_sanitizeName h')).mp same).2

/-! ## Batches -/

/-- The turns before a file and those after it. -/
theorem Batch.split [StackRoom] (h : suite.Batch s (before ++ part :: after) u) :
    suite.Batch s before part.scene ∧ ∃ said, suite.Batch
      { (suite.runFile part.path part.scene).2 with
        log := (suite.runFile part.path part.scene).2.log ++ said } after u := by
  induction before generalizing s with
  | nil =>
    cases h with
    | cons ran next journal rest =>
      subst next
      exact ⟨.nil, _, rest⟩
  | cons p before ih =>
    cases h with
    | cons ran next journal rest =>
      obtain ⟨first, later⟩ := ih rest
      exact ⟨.cons ran next journal first, later⟩

/-- What each of the turns keeps. -/
theorem Batch.disks [StackRoom] {R : Disk → Disk → Prop} [IsPreorder Disk R] (h : suite.Batch s parts t)
    (keeps : ∀ p ∈ parts, Act.Keeps (Scene.Disks R) (suite.runFile p.path)) : s.Disks R t := by
  induction h with
  | nil => exact refl_of R _
  | @cons p t _ _ _ _ next _ _ ih =>
    obtain ⟨first, others⟩ := List.forall_mem_cons.mp keeps
    have kept : p.scene.Disks R t := by
      rw [← next]
      exact first p.scene
    exact trans_of (Scene.Disks R) (b := t) kept (ih others)

/-- Running a file changes no artifact of a file with another run directory. -/
theorem sameAt_runFile [StackRoom] (confined : suite.Confined) {cwd : List (List Char)} {name : String}
    (artifact : ArtifactName name) (apart : Disk.placeFrom cwd (suite.directoryOf file').toList ≠
      Disk.placeFrom cwd (suite.directoryOf file).toList) :
    Act.Keeps (Scene.Disks (Disk.SeenFrom cwd (Disk.SameAt (filePlace cwd (suite.directoryOf file) name))))
      (suite.runFile file') := by
  refine disks_runFile confined (Disk.filing_sameAt cwd _) (fun other isName same => ?_)
    (fun _ _ => .inl fun time page index same => ?_)
  · exact apart ((filePlace_inj isName artifact.isName).mp same).1
  · have isName := Photographer.isName_fileName time (page ++ "-On_Page") index
    exact artifact.fileName_ne time page index ((filePlace_inj isName artifact.isName).mp same).2

/-- Two of the files that are selected have one run directory exactly if their names without extensions are
alike, and no file in the one run directory is a file in the other if they have two. What an artifact of a file
holds when its turn comes is what it held in the beginning, and what it holds in the end is what its own turn
left there, if no other file of the batch has the run directory. -/
theorem runDirectory_artifacts [StackRoom] (suite : Suite π η) (wf : s.disk.WellFormed)
    (scanned : s.disk.scan directory suite.runner.settings.patterns = .ok files) :
    (∀ p ∈ files, ∀ q ∈ files,
      (suite.directoryOf p = suite.directoryOf q ↔ AlikeNames (scenarioName p) (scenarioName q)) ∧
      (suite.directoryOf p ≠ suite.directoryOf q → ∀ cwd, ∀ name name' : String, Path.IsName name.toList →
        Path.IsName name'.toList →
          filePlace cwd (suite.directoryOf p) name ≠ filePlace cwd (suite.directoryOf q) name')) ∧
    ∃ (parts : List (Part π)) (t : Journal π),
      suite.runDirectory directory s = (.ok ⟨parts.map Part.result⟩, t) ∧
      parts.map Part.path = files ∧
      (suite.Confined → ∀ before part after, parts = before ++ part :: after →
        (∀ q ∈ before ++ after, suite.directoryOf q.path ≠ suite.directoryOf part.path) →
        ∀ name, ArtifactName name →
          part.scene.disk.bytesAt (filePlace s.disk.cwd (suite.directoryOf part.path) name) =
            s.disk.bytesAt (filePlace s.disk.cwd (suite.directoryOf part.path) name) ∧
          t.disk.bytesAt (filePlace s.disk.cwd (suite.directoryOf part.path) name) =
            (suite.runFile part.path part.scene).2.disk.bytesAt
              (filePlace s.disk.cwd (suite.directoryOf part.path) name)) := by
  have named {file : String} (h : file ∈ files) := isName_scenarioName wf scanned h
  refine ⟨fun p hp q hq => ⟨directoryOf_eq_iff (named hp) (named hq), ?_⟩, ?_⟩
  · intro apart cwd name name' isName isName' same
    refine apart (directoryOf_eq_of_placeFrom cwd (named hp) (named hq) ?_)
    exact ((filePlace_inj isName isName').mp same).1
  · obtain ⟨parts, t, batch, paths, ran⟩ := suite.exists_batch files { s with log := s.log ++ [_] }
    refine ⟨parts, t, runDirectory_apply scanned ran, paths,
      fun confined before part after split others name artifact => ?_⟩
    subst split
    have member {p : Part π} (hp : p ∈ before ++ part :: after) : p.path ∈ files :=
      paths ▸ List.mem_map_of_mem hp
    have keeps : ∀ q ∈ before ++ after, Act.Keeps
        (Scene.Disks (Disk.SeenFrom s.disk.cwd
          (Disk.SameAt (filePlace s.disk.cwd (suite.directoryOf part.path) name)))) (suite.runFile q.path) := by
      intro q hq
      have hq' : q ∈ before ++ part :: after :=
        List.mem_append.mpr ((List.mem_append.mp hq).imp_right (List.mem_cons_of_mem _))
      refine sameAt_runFile confined artifact fun same => others q hq ?_
      exact directoryOf_eq_of_placeFrom _ (named (member hq')) (named (member (by simp))) same
    obtain ⟨first, said, later⟩ := batch.split
    have before_turn := first.disks (fun q hq => keeps q (List.mem_append_left _ hq)) rfl
    have after_turn := later.disks fun q hq => keeps q (List.mem_append_right _ hq)
    have turn : part.scene.Disks Disk.Stays (suite.runFile part.path part.scene).2 :=
      disks_runFile confined Disk.filing_stays (fun _ _ => trivial) suite.runner.pictures_anywhere part.scene
    exact ⟨before_turn.2, (after_turn (turn.cwd.trans before_turn.1)).2⟩

/-- No two of the files have one run directory, and each keeps what its turn leaves. -/
theorem runDirectory_artifacts_mixed :
    let s : Journal MemoryPage := { page := [], disk := mixedDisk }
    s.disk.scan "/suite" emptyPages.runner.settings.patterns = .ok mixedFiles ∧
      ∃ (parts : List (Part MemoryPage)) (t : Journal MemoryPage),
        emptyPages.runDirectory "/suite" s = (.ok ⟨parts.map Part.result⟩, t) ∧
        parts.map Part.path = mixedFiles ∧
        ∀ part ∈ parts, ∀ name, ArtifactName name →
          t.disk.bytesAt (filePlace s.disk.cwd (emptyPages.directoryOf part.path) name) =
            (emptyPages.runFile part.path part.scene).2.disk.bytesAt
              (filePlace s.disk.cwd (emptyPages.directoryOf part.path) name) := by
  intro s
  have scanned : s.disk.scan "/suite" emptyPages.runner.settings.patterns = .ok mixedFiles :=
    Disk.scan_eq_ok ["a.scenario".toList, "b.scenario".toList] (by decide +kernel)
      (by decide +kernel) (by decide +kernel)
  obtain ⟨-, parts, t, ran, paths, kept⟩ :=
    runDirectory_artifacts emptyPages apart_mixedDisk.wellFormed scanned
  refine ⟨scanned, parts, t, ran, paths, fun part hp name artifact => ?_⟩
  obtain ⟨before, after, split⟩ := List.append_of_mem hp
  have once : (parts.map (emptyPages.directoryOf ∘ Part.path)).Nodup := by
    rw [← List.map_map, paths]
    decide +kernel
  rw [split, List.map_append, List.map_cons, List.nodup_middle, ← List.map_append, List.nodup_cons] at once
  have others : ∀ q ∈ before ++ after, emptyPages.directoryOf q.path ≠ emptyPages.directoryOf part.path :=
    fun q hq same => once.1 (List.mem_map.mpr ⟨q, hq, same⟩)
  exact (kept secluded_emptyPages.toConfined before part after split others name artifact).2

/-- Two files whose names differ in their extensions. -/
def twinDisk : Disk where
  entries := [(["suite".toList], .directory),
    (["suite".toList, "a.json".toList], .file (Text.Utf8.encode (("\x7b\"host\": \"http://h\", " ++
      "\"pages\": [\x7b\"name\": \"P\", \"action\": \x7b\"actionType\": \"Submit\"\x7d\x7d]\x7d"
      ).toList.map Char.toNat))),
    (["suite".toList, "a.scenario".toList], .file (Text.Utf8.encode (
      "Host: http://h\nPage Q\naction:\ntype: Submit\n".toList.map Char.toNat)))]

/-- Both are run with one run directory, and the pages of both are in one log. -/
theorem runDirectory_mixes_twins :
    let s : Journal MemoryPage := { page := [], disk := twinDisk }
    let one := emptyPages.runFile "/suite/a.json" s
    let other := emptyPages.runFile "/suite/a.scenario" one.2
    s.disk.scan "/suite" emptyPages.runner.settings.patterns =
        .ok ["/suite/a.json", "/suite/a.scenario"] ∧
      emptyPages.directoryOf "/suite/a.json" = emptyPages.directoryOf "/suite/a.scenario" ∧
      (one.1.map ScenarioResult.pagesRun) = .ok 1 ∧ (other.1.map ScenarioResult.pagesRun) = .ok 1 ∧
      ((other.2.disk.bytesAt (filePlace s.disk.cwd "/artifacts/a" stepLogName)).filter (· = 10)).length = 2 := by
  refine ⟨Disk.scan_eq_ok ["a.json".toList, "a.scenario".toList] ?_ ?_ ?_, ?_⟩ <;> decide +kernel

end Suite

end Walkthrough
