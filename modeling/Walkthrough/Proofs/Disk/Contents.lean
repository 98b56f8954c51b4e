import Walkthrough.Proofs.Disk.Places

/-! What a file holds. Making directories changes no file, and writing changes none but the one that the path
leads to: appended bytes stand behind those that it held before. -/

namespace Walkthrough.Disk

variable {d d' : Disk} {place : List (List Char)} {path : List Char} {bytes : List UInt8}

/-- What the file at a place holds: nothing if there is no file. -/
def bytesAt (d : Disk) (place : List (List Char)) : List UInt8 :=
  match d.get? place with
  | some (.file bytes) => bytes
  | _ => []

/-- What the file at the place holds is the same on both disks. -/
def SameAt (place : List (List Char)) (d d' : Disk) : Prop := d'.bytesAt place = d.bytesAt place

instance : IsPreorder Disk (SameAt place) where
  refl _ := rfl
  trans _ _ _ h h' := h'.trans h

theorem sameAt_put_of_ne {q : List (List Char)} (h : place ≠ q) (e : Entry) :
    SameAt place d (d.put q e) := by
  rw [SameAt, bytesAt, bytesAt, get?_put_of_ne h]

/-- Where nothing is, nothing is held, and a directory holds nothing either. -/
theorem sameAt_put_directory (q : List (List Char)) (h : d.get? q = none) :
    SameAt place d (d.put q .directory) := by
  by_cases same : place = q
  · subst same
    have made := get?_put_self (d := d) (by rw [h]; exact nofun) .directory
    rw [SameAt, bytesAt, bytesAt, h, made]
  · exact sameAt_put_of_ne same .directory

theorem sameAt_ensureAll (d : Disk) (fuel : Nat) (path : List Char) :
    SameAt place d (d.ensureAll fuel path).2 :=
  keeps_ensureAll (fun _ => sameAt_put_directory) d fuel path

theorem sameAt_of_placeOfFile (text : List UInt8 → List UInt8)
    (h : ((d.placeOfFile path).map fun (place, old) => d.put place (.file (text old))) = .ok d')
    (other : placeFrom d.cwd path ≠ place) : SameAt place d d' := by
  obtain ⟨⟨q, old⟩, placed, rfl⟩ := Except.map_eq_ok_iff.mp h
  obtain ⟨rfl, -⟩ := placeOfFile_eq_ok placed
  exact sameAt_put_of_ne other.symm _

theorem sameAt_write (h : d.write path bytes = .ok d') (other : placeFrom d.cwd path ≠ place) :
    SameAt place d d' :=
  sameAt_of_placeOfFile (fun _ => bytes) h other

theorem sameAt_append (h : d.append path bytes = .ok d') (other : placeFrom d.cwd path ≠ place) :
    SameAt place d d' :=
  sameAt_of_placeOfFile (· ++ bytes) h other

/-- Appended bytes stand behind what the file held. -/
theorem bytesAt_append (h : d.append path bytes = .ok d') :
    d'.bytesAt (placeFrom d.cwd path) = d.bytesAt (placeFrom d.cwd path) ++ bytes := by
  obtain ⟨⟨q, old⟩, placed, rfl⟩ := Except.map_eq_ok_iff.mp h
  obtain ⟨rfl, stands⟩ := placeOfFile_eq_ok placed
  have written (h : d.get? (placeFrom d.cwd path) ≠ some .directory) :
      (d.put (placeFrom d.cwd path) (.file (old ++ bytes))).bytesAt (placeFrom d.cwd path) =
        old ++ bytes := by
    rw [bytesAt, get?_put_self h]
  rcases stands with file | ⟨none, rfl⟩
  · rw [written (by rw [file]; exact nofun), bytesAt, file]
  · rw [written (by rw [none]; exact nofun), bytesAt, none]

/-- If anything can be appended to a file, everything can. -/
theorem exists_append (h : d.append path [] = .ok d') (bytes : List UInt8) :
    ∃ d'', d.append path bytes = .ok d'' := by
  obtain ⟨found, placed, -⟩ := Except.map_eq_ok_iff.mp h
  exact ⟨_, Except.map_eq_ok_iff.mpr ⟨found, placed, rfl⟩⟩

/-! ## Files that stay -/

/-- Directories stay directories, and files stay files, whatever they hold. -/
structure Stays (d d' : Disk) : Prop where
  cwd : d'.cwd = d.cwd
  directories : ∀ q, d.get? q = some .directory → d'.get? q = some .directory
  files : ∀ q bytes, d.get? q = some (.file bytes) → ∃ bytes', d'.get? q = some (.file bytes')

instance : IsPreorder Disk Stays where
  refl _ := ⟨rfl, fun _ h => h, fun _ bytes h => ⟨bytes, h⟩⟩
  trans _ _ _ h h' := ⟨h'.cwd.trans h.cwd, fun q hq => h'.directories q (h.directories q hq), fun q bytes hq => by
    obtain ⟨bytes', hq⟩ := h.files q bytes hq
    exact h'.files q bytes' hq⟩

theorem Stays.put {e : Entry} (h : d.get? place ≠ some .directory)
    (free : d.get? place = none ∨ ∃ bytes, e = .file bytes) : Stays d (d.put place e) where
  cwd := rfl
  directories := fun q hq => by
    by_cases same : q = place
    · exact absurd (same ▸ hq) h
    · rwa [get?_put_of_ne same]
  files := fun q bytes hq => by
    by_cases same : q = place
    · subst same
      rcases free with none | ⟨written, rfl⟩
      · rw [none] at hq
        cases hq
      · exact ⟨written, get?_put_self h _⟩
    · exact ⟨bytes, by rwa [get?_put_of_ne same]⟩

theorem stays_ensureAll (d : Disk) (fuel : Nat) (path : List Char) : Stays d (d.ensureAll fuel path).2 :=
  keeps_ensureAll (fun d place none => .put (by rw [none]; exact nofun) (.inl none)) d fuel path

theorem stays_of_placeOfFile (text : List UInt8 → List UInt8)
    (h : ((d.placeOfFile path).map fun (place, old) => d.put place (.file (text old))) = .ok d') :
    Stays d d' := by
  obtain ⟨⟨q, old⟩, placed, rfl⟩ := Except.map_eq_ok_iff.mp h
  obtain ⟨rfl, stands⟩ := placeOfFile_eq_ok placed
  refine .put ?_ (.inr ⟨_, rfl⟩)
  rcases stands with file | ⟨none, -⟩
  · rw [file]
    exact nofun
  · rw [none]
    exact nofun

theorem stays_write (h : d.write path bytes = .ok d') : Stays d d' := stays_of_placeOfFile (fun _ => bytes) h

theorem stays_append (h : d.append path bytes = .ok d') : Stays d d' := stays_of_placeOfFile (· ++ bytes) h

namespace Stays

variable {ps q : List (List Char)} {bytes : List UInt8}

theorem follow_directory (h : Stays d d') (found : d.follow place ps = .ok (q, some .directory)) :
    d'.follow place ps = .ok (q, some .directory) := by
  induction ps generalizing place with
  | nil =>
    obtain ⟨rfl, stands⟩ := follow_eq_ok found
    rw [follow, h.directories _ stands.symm]
  | cons part ps ih =>
    obtain ⟨directory, fits⟩ := passes_of_follow found
    rw [follow_cons (h.directories _ directory) fits]
    exact ih (follow_cons directory fits ps ▸ found)

theorem follow_file (h : Stays d d') (found : d.follow place ps = .ok (q, some (.file bytes))) :
    ∃ bytes', d'.follow place ps = .ok (q, some (.file bytes')) := by
  induction ps generalizing place with
  | nil =>
    obtain ⟨rfl, stands⟩ := follow_eq_ok found
    obtain ⟨bytes', stays⟩ := h.files _ _ stands.symm
    refine ⟨bytes', ?_⟩
    rw [follow, ← stays]
  | cons part ps ih =>
    obtain ⟨directory, fits⟩ := passes_of_follow found
    rw [follow_cons (h.directories _ directory) fits]
    exact ih (follow_cons directory fits ps ▸ found)

end Stays

/-- A path is followed on every disk, or it is refused on every disk. -/
theorem locate_cases (path : List Char) : (∃ refusal, ∀ d : Disk, d.locate path = .error refusal) ∨
    ∀ d : Disk, d.locate path = d.follow (d.start path) (Path.parts path) := by
  unfold locate
  split
  · exact .inl ⟨_, fun _ => rfl⟩
  · split
    · exact .inl ⟨_, fun _ => rfl⟩
    · split
      · exact .inl ⟨_, fun _ => rfl⟩
      · exact .inr fun d => by rw [partsOf_fst]

theorem isDirectory_iff : d.isDirectory path = true ↔ ∃ q, d.locate path = .ok (q, some .directory) := by
  unfold isDirectory stat
  cases located : d.locate path with
  | error r => simp
  | ok found =>
    obtain ⟨q, _ | _ | bytes⟩ := found
    · simp
    · simp
    · cases slash : (partsOf path).2 <;> simp

theorem contains_of_isDirectory (h : d.isDirectory path = true) : d.contains path = true := by
  obtain ⟨q, located⟩ := isDirectory_iff.mp h
  rw [contains, stat, located]
  rfl

/-- A directory that is there is not made again. -/
theorem ensureDirectory_of_isDirectory (h : d.isDirectory path = true) : d.ensureDirectory path = .ok d := by
  obtain ⟨q, located⟩ := isDirectory_iff.mp h
  rw [ensureDirectory, makeDirectory, located]
  dsimp only
  rw [if_pos h]

theorem ensureAll_of_isDirectory {parent name : List Char} (parted : Path.split path = (parent, name))
    (named : name ≠ []) (above : d.isDirectory parent = true) (h : d.isDirectory path = true) (fuel : Nat) :
    d.ensureAll (fuel + 1) path = (.ok (), d) := by
  have isNamed : name.isEmpty = false := by simpa using named
  rw [ensureAll, parted]
  dsimp only
  rw [isNamed]
  simp [contains_of_isDirectory above, ensureDirectory_of_isDirectory h]

theorem stat_file {bytes : List UInt8} (h : d.stat path = .ok (.file bytes)) :
    (partsOf path).2 = false ∧ ∃ q, d.locate path = .ok (q, some (.file bytes)) := by
  unfold stat at h
  split at h
  · cases h
  · cases h
  · cases h
  · next q held located =>
    split at h
    · cases h
    · next slash =>
      cases h
      exact ⟨Bool.eq_false_iff.mpr slash, q, located⟩

namespace Stays

theorem isDirectory (h : Stays d d') (there : d.isDirectory path = true) : d'.isDirectory path = true := by
  rw [isDirectory_iff] at there ⊢
  obtain ⟨q, located⟩ := there
  rcases locate_cases path with ⟨refusal, always⟩ | followed
  · cases (always d).symm.trans located
  · rw [followed] at located ⊢
    rw [start_congr h.cwd]
    exact ⟨q, h.follow_directory located⟩

/-- A file that is there can be written at its end ever after. -/
theorem exists_append (h : Stays d d') (there : d.stat path = .ok (.file bytes)) (more : List UInt8) :
    ∃ d'', d'.append path more = .ok d'' := by
  obtain ⟨slash, q, located⟩ := stat_file there
  obtain ⟨bytes', located'⟩ : ∃ bytes', d'.locate path = .ok (q, some (.file bytes')) := by
    rcases locate_cases path with ⟨refusal, always⟩ | followed
    · cases (always d).symm.trans located
    · rw [followed] at located ⊢
      rw [start_congr h.cwd]
      exact h.follow_file located
  have placed : d'.placeOfFile path = .ok (q, bytes') := by
    rw [placeOfFile, located']
    dsimp only
    rw [slash]
    rfl
  exact ⟨_, Except.map_eq_ok_iff.mpr ⟨_, placed, rfl⟩⟩

end Stays

/-! ## Files that are read -/

theorem follow_put {ps q : List (List Char)} {o : Option Entry} (found : d.follow place ps = .ok (q, o))
    (h : o ≠ some .directory) (e : Entry) : (d.put q e).follow place ps = .ok (q, some e) := by
  obtain ⟨-, rfl⟩ := follow_eq_ok found
  induction ps generalizing place with
  | nil =>
    cases found
    rw [follow, get?_put_self h]
  | cons part ps ih =>
    obtain ⟨directory, fits⟩ := passes_of_follow found
    have other : place ≠ q := fun same => h (same ▸ directory)
    rw [follow_cons (by rwa [get?_put_of_ne other]) fits]
    exact ih (follow_cons directory fits ps ▸ found)

theorem locate_put {o : Option Entry} (located : d.locate path = .ok (place, o)) (h : o ≠ some .directory)
    (e : Entry) : (d.put place e).locate path = .ok (place, some e) := by
  rcases locate_cases path with ⟨refusal, always⟩ | followed
  · cases (always d).symm.trans located
  · rw [followed] at located ⊢
    exact follow_put located h e

/-- What was written is read. -/
theorem read_write (h : d.write path bytes = .ok d') : d'.read path = .ok bytes := by
  obtain ⟨⟨q, old⟩, placed, rfl⟩ := Except.map_eq_ok_iff.mp h
  obtain ⟨o, located, free, slash⟩ : ∃ o, d.locate path = .ok (q, o) ∧ o ≠ some .directory ∧
      ¬(partsOf path).2 = true := by
    unfold placeOfFile at placed
    split at placed
    · cases placed
    · cases placed
    · next located =>
      split at placed
      · cases placed
      · next slash =>
        cases placed
        exact ⟨_, located, nofun, slash⟩
    · next located =>
      split at placed
      · cases placed
      · next slash =>
        cases placed
        exact ⟨_, located, nofun, slash⟩
  rw [read, stat, locate_put located free]
  dsimp only
  rw [if_neg slash]

/-- A file is read as before if something was written elsewhere. -/
theorem read_write_of_ne {other : List Char} {more : List UInt8} (h : d.write other more = .ok d')
    (apart : placeFrom d.cwd other ≠ placeFrom d.cwd path) (held : d.read path = .ok bytes) :
    d'.read path = .ok bytes := by
  have file : d.stat path = .ok (.file bytes) := by
    unfold read at held
    split at held
    · cases held
    · cases held
    · next stands =>
      cases held
      exact stands
  obtain ⟨-, q, located⟩ := stat_file file
  have found := (locate_eq_ok located).2
  obtain ⟨rfl, -⟩ := locate_eq_placeFrom located
  have grew := grew_write (P := (· = placeFrom d.cwd other)) h rfl
  have same := stat_congr (grew.locate_eq (fun there => apart there.symm) found)
  rw [read, same, file]

end Walkthrough.Disk
