import Walkthrough.Proofs.Disk.Places
import Walkthrough.Proofs.Text.Utf8
import Walkthrough.Settings.Basic

/-! What a scan of a directory selects. The names that a directory lists and the patterns that a setting
writes are described without the functions that find them, and as the order of paths is total on texts, the
order in which the entries are listed is of no consequence. -/

namespace Walkthrough

namespace Text

/-- A part of a text between two separators, or between one and an end of the text. -/
structure IsPart (sep : Char) (part cs : List Char) : Prop where
  whole : sep ∉ part
  between : ∃ before after, cs = before ++ (part ++ after) ∧
    (before = [] ∨ before.getLast? = some sep) ∧ (after = [] ∨ after.head? = some sep)

variable {sep : Char} {part cs ds : List Char}

theorem exists_of_mem_intercalate {parts : List (List Char)} (h : part ∈ parts) :
    ∃ before after, [sep].intercalate parts = before ++ (part ++ after) ∧
      (before = [] ∨ before.getLast? = some sep) ∧ (after = [] ∨ after.head? = some sep) := by
  induction parts with
  | nil => cases h
  | cons p parts ih =>
    rcases List.mem_cons.mp h with rfl | h
    · cases parts with
      | nil => exact ⟨[], [], by simp, .inl rfl, .inl rfl⟩
      | cons q parts =>
        exact ⟨[], sep :: [sep].intercalate (q :: parts), by simp, .inl rfl, .inr rfl⟩
    · obtain ⟨q, parts, rfl⟩ := List.exists_cons_of_ne_nil (List.ne_nil_of_mem h)
      obtain ⟨before, after, eq, first, last⟩ := ih h
      refine ⟨p ++ sep :: before, after, ?_, .inr ?_, last⟩
      · rw [List.intercalate_cons_cons, eq]
        simp
      · rcases first with rfl | first
        · simp
        · simp [List.getLast?_cons, first]

theorem mem_splitOnChar_iff : part ∈ splitOnChar sep cs ↔ IsPart sep part cs := by
  constructor
  · intro h
    have eq := intercalate_splitOnChar sep cs
    refine ⟨not_mem_splitOnChar sep cs part h, ?_⟩
    rw [← eq]
    exact exists_of_mem_intercalate h
  · rintro ⟨whole, before, after, rfl, first, last⟩
    have front : part ∈ splitOnChar sep (part ++ after) := by
      rcases last with rfl | last
      · rw [List.append_nil, splitOnChar_of_not_mem whole]
        exact List.mem_singleton_self part
      · obtain ⟨rest, rfl⟩ := List.head?_eq_some_iff.mp last
        rw [splitOnChar_append, splitOnChar_of_not_mem whole]
        exact List.mem_cons_self
    rcases first with rfl | first
    · exact front
    · obtain ⟨rest, rfl⟩ := List.getLast?_eq_some_iff.mp first
      rw [List.append_assoc, List.singleton_append, splitOnChar_append]
      exact List.mem_append_right _ front

/-- Characters as they hold the code points of a text. -/
def IsHeld (cs : List Char) : Prop := (points cs).held = cs

instance (cs : List Char) : Decidable (IsHeld cs) := inferInstanceAs (Decidable (_ = _))

theorem IsHeld.eq (h : IsHeld cs) (h' : IsHeld ds) (same : points cs = points ds) : cs = ds := by
  rw [← h, ← h', same]

end Text

open Text

/-- The patterns of the settings are the parts of the text that are not blank. -/
theorem Settings.mem_patterns_iff {settings : Settings} {pattern : String} :
    pattern ∈ settings.patterns ↔ ∃ part, IsPart ',' part settings.scenarioPatterns.toList ∧
      trim part ≠ [] ∧ pattern = String.ofList (trim part) := by
  constructor
  · intro h
    obtain ⟨_, kept, rfl⟩ := List.mem_map.mp h
    obtain ⟨trimmed, shown⟩ := List.mem_filter.mp kept
    obtain ⟨part, mem, rfl⟩ := List.mem_map.mp trimmed
    exact ⟨part, mem_splitOnChar_iff.mp mem, by simpa using shown, rfl⟩
  · rintro ⟨part, isPart, shown, rfl⟩
    refine List.mem_map_of_mem (List.mem_filter.mpr ⟨?_, by simpa using shown⟩)
    exact List.mem_map_of_mem (mem_splitOnChar_iff.mpr isPart)

namespace Disk

/-! ## The order of paths -/

theorem atMost_total (ms ns : CodePoints) : (atMost ms ns || atMost ns ms) = true := by
  fun_induction atMost ms ns with
  | case1 => rfl
  | case2 => rfl
  | case3 m ms n ns ih =>
    rcases Nat.lt_trichotomy m n with h | rfl | h
    · simp [h]
    · simpa [atMost] using ih
    · simp [atMost, h]

theorem atMost_antisymm {ms ns : CodePoints} (h : atMost ms ns = true) (h' : atMost ns ms = true) :
    ms = ns := by
  fun_induction atMost ms ns with
  | case1 ns =>
    cases ns with
    | nil => rfl
    | cons n ns => cases h'
  | case2 => cases h
  | case3 m ms n ns ih =>
    simp only [atMost, Bool.or_eq_true, Bool.and_eq_true, decide_eq_true_eq, beq_iff_eq] at h h'
    obtain ⟨rfl, rest⟩ : m = n ∧ atMost ms ns = true := h.resolve_left fun lt => by omega
    rw [ih rest (h'.resolve_left (Nat.lt_irrefl m)).2]

theorem atMost_trans {ls ms ns : CodePoints} (h : atMost ls ms = true) (h' : atMost ms ns = true) :
    atMost ls ns = true := by
  fun_induction atMost ls ms generalizing ns with
  | case1 => rfl
  | case2 => cases h
  | case3 l ls m ms ih =>
    cases ns with
    | nil => cases h'
    | cons n ns =>
      simp only [atMost, Bool.or_eq_true, Bool.and_eq_true, decide_eq_true_eq, beq_iff_eq] at h h' ⊢
      rcases h with h | ⟨rfl, h⟩
      · exact .inl (by omega)
      · exact h'.imp_right fun ⟨same, h'⟩ => ⟨same, ih h h'⟩

/-- The sorted paths stand in order, whatever the paths are. -/
theorem pairwise_mergeSort (paths : List String) :
    (paths.mergeSort inOrder).Pairwise fun a b => inOrder a b = true := by
  have trans (a b c : String) : inOrder a b = true → inOrder b c = true → inOrder a c = true :=
    atMost_trans
  have total (a b : String) : (inOrder a b || inOrder b a) = true := atMost_total _ _
  exact List.pairwise_mergeSort trans total paths

variable {directory name other : List Char}

/-- The code points of a path are those of what stands before the name and those of the name. -/
theorem points_join (h : Path.IsName name) :
    points (Path.join directory name) = points (Path.front directory) ++ points name := by
  have front : Path.front directory = [] ∨ ∃ cs, Path.front directory = cs ++ ['/'] := by
    unfold Path.front
    split
    · next ends =>
      rcases Bool.or_eq_true_iff.mp ends with empty | slash
      · exact .inl (List.isEmpty_iff.mp empty)
      · exact .inr (List.getLast?_eq_some_iff.mp (beq_iff_eq.mp slash))
    · exact .inr ⟨directory, rfl⟩
  rw [h.join_eq]
  rcases front with empty | ⟨cs, eq⟩
  · rw [empty]
    rfl
  · rw [eq, List.append_assoc, List.singleton_append]
    exact Utf8.points_append (by decide) cs name

/-- Paths of one directory that stand in both orders are the same. -/
theorem eq_of_inOrder (h : Path.IsName name) (h' : Path.IsName other) (held : IsHeld name)
    (held' : IsHeld other)
    (order : inOrder (String.ofList (Path.join directory name))
      (String.ofList (Path.join directory other)) = true)
    (order' : inOrder (String.ofList (Path.join directory other))
      (String.ofList (Path.join directory name)) = true) : name = other := by
  have same := atMost_antisymm order order'
  rw [String.toList_ofList, String.toList_ofList, points_join h, points_join h'] at same
  exact held.eq held' (List.append_cancel_left same)

/-! ## What a directory lists -/

variable {d d' : Disk} {path : List Char} {names : List (List Char)}

theorem filesIn_eq_ok_iff :
    (∃ names, d.filesIn path = .ok names) ↔ ∃ place, d.locate path = .ok (place, some .directory) := by
  unfold filesIn
  split
  · next h => simp [h]
  · next h => simp [h]
  · next h => simp [h]
  · next h => simp [h]

/-- A name that a directory lists is the name of a regular file right inside of it. -/
theorem mem_filesIn_iff (wf : d.WellFormed) (h : d.filesIn path = .ok names) :
    name ∈ names ↔ ∃ place bytes, d.locate path = .ok (place, some .directory) ∧
      d.get? (place ++ [name]) = some (.file bytes) := by
  have stands (place : List (List Char)) (bytes : List UInt8) :
      d.get? (place ++ [name]) = some (.file bytes) ↔ (place ++ [name], .file bytes) ∈ d.entries := by
    rw [get?, if_neg (by simp), Assoc.get?_eq_some_iff wf.once]
  constructor
  · intro hn
    obtain ⟨place, bytes, found, mem⟩ := exists_of_mem_filesIn h hn
    exact ⟨place, bytes, found, (stands place bytes).mpr mem⟩
  · rintro ⟨place, bytes, found, there⟩
    unfold filesIn at h
    rw [found] at h
    cases h
    refine List.mem_filterMap.mpr ⟨_, (stands place bytes).mp there, ?_⟩
    simp

/-- Names of files in a directory are texts that can be told apart by their code points. -/
theorem isHeld_of_mem_filesIn (held : ∀ q ∈ Assoc.keys d.entries, ∀ part ∈ q, IsHeld part)
    (h : d.filesIn path = .ok names) (hn : name ∈ names) : IsHeld name := by
  obtain ⟨place, bytes, -, mem⟩ := exists_of_mem_filesIn h hn
  exact held _ (List.mem_map_of_mem mem) name (by simp)

theorem follow_congr (h : ∀ q, d'.get? q = d.get? q) (place ps : List (List Char)) :
    d'.follow place ps = d.follow place ps := by
  induction ps generalizing place with
  | nil => rw [follow, follow, h]
  | cons part ps ih => rw [follow, follow, h, ih, ih, ih]

/-- Disks with the same entries list the same names, if in another order. -/
theorem filesIn_perm (wf : d.WellFormed) (perm : d'.entries.Perm d.entries)
    (seen : d'.cwd = d.cwd ∨ path.head? = some '/') :
    d'.filesIn path = d.filesIn path ∨ ∃ names names', d.filesIn path = .ok names ∧
      d'.filesIn path = .ok names' ∧ names'.Perm names := by
  have entries (q : List (List Char)) : d'.get? q = d.get? q := by
    rw [get?, get?, Assoc.get?_perm wf.once perm]
  have begins : d'.start path = d.start path := by
    rcases seen with same | absolute
    · exact start_congr same path
    · rw [start, start, if_pos absolute, if_pos absolute]
  have located : d'.locate path = d.locate path := by
    rw [locate, locate, begins, follow_congr entries]
  unfold filesIn
  rw [located]
  split
  · exact .inl rfl
  · exact .inl rfl
  · exact .inl rfl
  · exact .inr ⟨_, _, rfl, rfl, perm.filterMap _⟩

/-! ## What a scan selects -/

variable {directory : String} {patterns files : List String}

theorem scan_eq_ok_iff : d.scan directory patterns = .ok files ↔
    ∃ names, d.filesIn directory.toList = .ok names ∧
      ((names.filter (isSelected patterns)).map fun name =>
        String.ofList (Path.join directory.toList name)).mergeSort inOrder = files := by
  unfold scan
  split
  · next refused => simp [refused]
  · next names listed => simp [listed]

theorem scan_perm (wf : d.WellFormed) (held : ∀ q ∈ Assoc.keys d.entries, ∀ part ∈ q, IsHeld part)
    (perm : d'.entries.Perm d.entries) {directory : String}
    (seen : d'.cwd = d.cwd ∨ directory.toList.head? = some '/') (patterns : List String) :
    d'.scan directory patterns = d.scan directory patterns := by
  unfold scan
  rcases filesIn_perm wf perm seen with same | ⟨names, names', listed, listed', perm⟩
  · rw [same]
  · rw [listed, listed']
    refine congrArg Except.ok (List.Perm.eq_of_pairwise ?_ (pairwise_mergeSort _)
      (pairwise_mergeSort _) ?_)
    · intro a b ha hb order order'
      obtain ⟨name, hn, rfl⟩ := List.mem_map.mp (List.mem_mergeSort.mp ha)
      obtain ⟨other, ho, rfl⟩ := List.mem_map.mp (List.mem_mergeSort.mp hb)
      have hn := perm.mem_iff.mp (List.mem_of_mem_filter hn)
      have ho := List.mem_of_mem_filter ho
      rw [eq_of_inOrder (locate_listed wf listed hn).1 (locate_listed wf listed ho).1
        (isHeld_of_mem_filesIn held listed hn) (isHeld_of_mem_filesIn held listed ho) order order']
    · exact (List.mergeSort_perm _ _).trans (((perm.filter _).map _).trans
        (List.mergeSort_perm _ _).symm)

theorem isSelected_iff {settings : Settings} {name : List Char} :
    isSelected settings.patterns name = true ↔
      ∃ part, IsPart ',' part settings.scenarioPatterns.toList ∧ trim part ≠ [] ∧
        Glob.isMatch (points (trim part)) (points name) = true := by
  rw [isSelected, List.any_eq_true]
  constructor
  · rintro ⟨pattern, mem, isMatch⟩
    obtain ⟨part, isPart, shown, rfl⟩ := Settings.mem_patterns_iff.mp mem
    rw [String.toList_ofList] at isMatch
    exact ⟨part, isPart, shown, isMatch⟩
  · rintro ⟨part, isPart, shown, isMatch⟩
    refine ⟨_, Settings.mem_patterns_iff.mpr ⟨part, isPart, shown, rfl⟩, ?_⟩
    rwa [String.toList_ofList]

/-- A scan finds the paths of the regular files of a directory of which the name is of one of the patterns
between the commas of a text. It finds each once and in the order of code points, in whatever order the
directory lists its entries; the working directory is of no matter where the path begins at the root. -/
theorem scan_patterns (wf : d.WellFormed)
    (held : ∀ q ∈ Assoc.keys d.entries, ∀ part ∈ q, IsHeld part) (settings : Settings)
    (directory : String) :
    ((∃ files, d.scan directory settings.patterns = .ok files) ↔
      ∃ place, d.locate directory.toList = .ok (place, some .directory)) ∧
    (∀ files, d.scan directory settings.patterns = .ok files →
      (∀ file, file ∈ files ↔ ∃ place name bytes,
        d.locate directory.toList = .ok (place, some .directory) ∧
        d.get? (place ++ [name]) = some (.file bytes) ∧
        (∃ part, IsPart ',' part settings.scenarioPatterns.toList ∧ trim part ≠ [] ∧
          Glob.isMatch (points (trim part)) (points name) = true) ∧
        file = String.ofList (Path.join directory.toList name)) ∧
      files.Nodup ∧ files.Pairwise fun a b => inOrder a b = true) ∧
    ∀ d' : Disk, d'.entries.Perm d.entries → d'.cwd = d.cwd ∨ directory.toList.head? = some '/' →
      d'.scan directory settings.patterns = d.scan directory settings.patterns := by
  refine ⟨?_, fun files scanned => ⟨fun file => ?_, nodup_scan wf scanned, ?_⟩,
    fun d' perm seen => scan_perm wf held perm seen settings.patterns⟩
  · simp only [scan_eq_ok_iff, ← filesIn_eq_ok_iff]
    exact ⟨fun ⟨_, names, listed, _⟩ => ⟨names, listed⟩, fun ⟨names, listed⟩ => ⟨_, names, listed, rfl⟩⟩
  · obtain ⟨names, listed, rfl⟩ := scan_eq_ok_iff.mp scanned
    rw [List.mem_mergeSort, List.mem_map]
    constructor
    · rintro ⟨name, mem, rfl⟩
      obtain ⟨there, selected⟩ := List.mem_filter.mp mem
      obtain ⟨place, bytes, found, stands⟩ := (mem_filesIn_iff wf listed).mp there
      exact ⟨place, name, bytes, found, stands, isSelected_iff.mp selected, rfl⟩
    · rintro ⟨place, name, bytes, found, stands, selected, rfl⟩
      have there := (mem_filesIn_iff wf listed).mpr ⟨place, bytes, found, stands⟩
      exact ⟨name, List.mem_filter.mpr ⟨there, isSelected_iff.mpr selected⟩, rfl⟩
  · obtain ⟨names, -, rfl⟩ := scan_eq_ok_iff.mp scanned
    exact pairwise_mergeSort _

/-- A directory with a file of two patterns, one of none, and a directory among its entries. -/
def patternDisk : Disk where
  entries := [(["d".toList], .directory), (["d".toList, "a.json".toList], .file []),
    (["d".toList, "x.json".toList], .directory), (["d".toList, "c.txt".toList], .file []),
    (["d".toList, "b.json".toList], .file [])]

theorem scan_patternDisk :
    patternDisk.WellFormed ∧ (∀ q ∈ Assoc.keys patternDisk.entries, ∀ part ∈ q, IsHeld part) ∧
      ∀ d : Disk, d.entries.Perm patternDisk.entries →
        d.scan "/d" { scenarioPatterns := " *.json, ,a*," : Settings }.patterns =
          .ok ["/d/a.json", "/d/b.json"] := by
  have wf : patternDisk.WellFormed := ⟨by decide, by decide, by decide +kernel⟩
  have held : ∀ q ∈ Assoc.keys patternDisk.entries, ∀ part ∈ q, IsHeld part := by decide +kernel
  refine ⟨wf, held, fun d perm => ((scan_patterns wf held _ "/d").2.2 d perm (.inr rfl)).trans ?_⟩
  exact scan_eq_ok (["a.json", "c.txt", "b.json"].map String.toList) (by decide +kernel) (by decide +kernel)
    (by decide +kernel)

end Disk

end Walkthrough
