import Mathlib.Data.List.TakeWhile
import Mathlib.Order.Defs.Unbundled
import Walkthrough.Disk.Scan
import Walkthrough.Proofs.Assoc
import Walkthrough.Proofs.Disk.Refusal
import Walkthrough.Proofs.Text.Splitting

/-! Places on the disk. Where a path leads can be read off the path and the working directory (`placeFrom`), and
what stands on the disk only decides whether the way is open. Directories that are made and files that are
written leave what stands elsewhere as it is (`Disk.Grew`), and a path that leads elsewhere is found the same
afterwards. -/

namespace Walkthrough

open Text

/-! ## Parts of paths -/

namespace Path

/-- The parts of a path between its slashes. -/
def parts (cs : List Char) : List (List Char) := (splitOnChar '/' cs).filter (!·.isEmpty)

/-- A name that stands for itself in a path. -/
structure IsName (name : List Char) : Prop where
  nonempty : name ≠ []
  here : name ≠ ['.']
  above : name ≠ ['.', '.']
  whole : '/' ∉ name

variable {cs ds name : List Char}

instance (name : List Char) : Decidable (IsName name) :=
  decidable_of_iff (name ≠ [] ∧ name ≠ ['.'] ∧ name ≠ ['.', '.'] ∧ '/' ∉ name)
    ⟨fun ⟨nonempty, here, above, whole⟩ => ⟨nonempty, here, above, whole⟩,
      fun h => ⟨h.nonempty, h.here, h.above, h.whole⟩⟩

theorem parts_append (cs ds : List Char) : parts (cs ++ '/' :: ds) = parts cs ++ parts ds := by
  rw [parts, splitOnChar_append, List.filter_append]
  rfl

theorem parts_cons_slash (cs : List Char) : parts ('/' :: cs) = parts cs := parts_append [] cs

theorem parts_of_not_mem (h : '/' ∉ cs) (nonempty : cs ≠ []) : parts cs = [cs] := by
  cases cs with
  | nil => exact absurd rfl nonempty
  | cons c cs =>
    rw [parts, splitOnChar_of_not_mem h]
    rfl

theorem IsName.parts_eq (h : IsName name) : parts name = [name] :=
  parts_of_not_mem h.whole h.nonempty

theorem IsName.head_ne (h : IsName name) : name.head? ≠ some '/' := fun hs =>
  h.whole (List.mem_of_head? hs)

/-- What stands before a name that is seen from a directory. -/
def front (directory : List Char) : List Char :=
  if directory.isEmpty || directory.getLast? == some '/' then directory else directory ++ ['/']

theorem join_eq_front (relative : cs.head? ≠ some '/') (directory : List Char) :
    join directory cs = front directory ++ cs := by
  rw [join, if_neg (by rwa [beq_iff_eq]), front]
  split
  · rfl
  · rw [List.append_assoc, List.singleton_append]

theorem IsName.join_eq (h : IsName name) (directory : List Char) :
    join directory name = front directory ++ name :=
  join_eq_front h.head_ne directory

theorem head?_join (directory cs : List Char) :
    (join directory cs).head? = some '/' ↔ cs.head? = some '/' ∨ directory.head? = some '/' := by
  by_cases absolute : cs.head? = some '/'
  · rw [join, if_pos (beq_iff_eq.mpr absolute)]
    exact iff_of_true absolute (.inl absolute)
  · rw [join_eq_front absolute, front, or_iff_right absolute]
    cases directory with
    | nil => exact iff_of_false absolute nofun
    | cons c directory =>
      split
      · rfl
      · rfl

theorem IsName.head?_join (h : IsName name) (directory : List Char) :
    (join directory name).head? = some '/' ↔ directory.head? = some '/' := by
  rw [Path.head?_join, or_iff_right h.head_ne]

theorem join_injective {directory other : List Char} (h : IsName name) (h' : IsName other)
    (same : join directory name = join directory other) : name = other := by
  rw [h.join_eq, h'.join_eq] at same
  exact List.append_cancel_left same

/-- A relative path seen from a directory goes on from the parts of the directory. -/
theorem parts_join_of_relative (relative : cs.head? ≠ some '/') (directory : List Char) :
    parts (join directory cs) = parts directory ++ parts cs := by
  rw [join_eq_front relative, front]
  split
  · next hd =>
    rcases Bool.or_eq_true_iff.mp hd with hd | hd
    · rw [List.isEmpty_iff.mp hd]
      rfl
    · obtain ⟨rest, rfl⟩ := List.getLast?_eq_some_iff.mp (beq_iff_eq.mp hd)
      rw [List.append_assoc, List.singleton_append, parts_append, parts_append]
      exact congrArg (· ++ parts cs) (List.append_nil _).symm
  · rw [List.append_assoc, List.singleton_append, parts_append]

/-- A name seen from a directory is one more part. -/
theorem parts_join (directory : List Char) (h : IsName name) :
    parts (join directory name) = parts directory ++ [name] := by
  rw [parts_join_of_relative h.head_ne, h.parts_eq]

/-- Slashes at the end of a path make no parts. -/
theorem parts_dropSlashes (cs : List Char) : parts (dropSlashes cs) = parts cs := by
  have slashes (n : Nat) (ds : List Char) : parts (ds ++ List.replicate n '/') = parts ds := by
    induction n generalizing ds with
    | zero => rw [List.replicate_zero, List.append_nil]
    | succ n ih =>
      rw [List.replicate_succ, parts_append]
      have none : parts (List.replicate n '/') = [] := ih []
      rw [none, List.append_nil]
  unfold dropSlashes
  split
  · rfl
  · have ends : (cs.reverse.takeWhile (· == '/')).reverse =
        List.replicate (cs.reverse.takeWhile (· == '/')).length '/' := by
      rw [← List.length_reverse, List.eq_replicate_iff]
      refine ⟨rfl, fun c hc => ?_⟩
      have slash : (c == '/') = true := List.mem_takeWhile_imp (p := (· == '/')) (List.mem_reverse.mp hc)
      exact beq_iff_eq.mp slash
    have whole : cs = (cs.reverse.dropWhile (· == '/')).reverse ++
        (cs.reverse.takeWhile (· == '/')).reverse := by
      rw [← List.reverse_append, List.takeWhile_append_dropWhile, List.reverse_reverse]
    conv_rhs => rw [whole, ends, slashes]

theorem steps_eq (cs : List Char) : steps cs = (parts cs).filter (· != ['.']) := by
  rw [steps, parts, List.filter_filter]
  refine List.filter_congr fun part _ => ?_
  exact Bool.and_comm _ _

theorem mem_parts {part : List Char} (h : part ∈ parts cs) : part ≠ [] ∧ '/' ∉ part := by
  obtain ⟨hm, hn⟩ := List.mem_filter.mp h
  refine ⟨?_, not_mem_splitOnChar '/' cs part hm⟩
  rintro rfl
  cases hn

theorem parts_intercalate {ps : List (List Char)} (h : ∀ p ∈ ps, p ≠ [] ∧ '/' ∉ p) :
    parts (['/'].intercalate ps) = ps := by
  induction ps with
  | nil => rfl
  | cons p ps ih =>
    obtain ⟨hp, hps⟩ := List.forall_mem_cons.mp h
    have first : parts p = [p] := parts_of_not_mem hp.2 hp.1
    cases ps with
    | nil => rw [List.intercalate_singleton, first]
    | cons q qs =>
      rw [List.intercalate_cons_cons, List.append_assoc, List.singleton_append, parts_append, ih hps,
        first]
      rfl

/-- The slashes at the beginning of a path make no parts. -/
theorem parts_ofSteps (cs : List Char) {ps : List (List Char)} (h : ∀ p ∈ ps, p ≠ [] ∧ '/' ∉ p) :
    parts (ofSteps (rootOf cs) ps) = ps := by
  have body := parts_intercalate h
  unfold ofSteps rootOf
  dsimp only
  split
  · exact body
  · split
    · exact (parts_cons_slash _).trans ((parts_cons_slash _).trans body)
    · exact (parts_cons_slash _).trans body

theorem head?_ofSteps (h : cs.head? = some '/') (ps : List (List Char)) :
    (ofSteps (rootOf cs) ps).head? = some '/' := by
  obtain ⟨more, rfl⟩ := List.head?_eq_some_iff.mp h
  unfold ofSteps rootOf
  dsimp only
  split
  · next none => exact absurd none (by simp)
  · split
    · rfl
    · rfl

theorem mem_steps {part : List Char} (h : part ∈ steps cs) : part ≠ [] ∧ part ≠ ['.'] ∧ '/' ∉ part := by
  rw [steps_eq] at h
  obtain ⟨held, here⟩ := List.mem_filter.mp h
  obtain ⟨nonempty, whole⟩ := mem_parts held
  exact ⟨nonempty, by simpa using here, whole⟩

theorem parts_ofSteps_steps (cs : List Char) : parts (ofSteps (rootOf cs) (steps cs)) = steps cs :=
  parts_ofSteps cs fun _ h => ⟨(mem_steps h).1, (mem_steps h).2.2⟩

/-- Writing a path without repeated slashes leaves it at the root or not. -/
theorem head?_tidy (cs : List Char) : (tidy cs).head? = some '/' ↔ cs.head? = some '/' := by
  have text := parts_ofSteps_steps cs
  unfold tidy
  dsimp only
  by_cases absolute : cs.head? = some '/'
  · have head := head?_ofSteps absolute (steps cs)
    rw [if_neg, iff_true_right absolute]
    · exact head
    · intro empty
      rw [List.isEmpty_iff.mp empty] at head
      cases head
  · refine iff_of_false ?_ absolute
    have relative : rootOf cs = [] := by
      cases cs with
      | nil => rfl
      | cons c cs => simp [rootOf, show (c == '/') = false by simpa using absolute]
    split
    · exact nofun
    · rw [relative, ofSteps, List.nil_append]
      cases held : steps cs with
      | nil => exact nofun
      | cons part more =>
        obtain ⟨nonempty, -, whole⟩ := mem_steps (held ▸ List.mem_cons_self : part ∈ steps cs)
        obtain ⟨c, rest, rfl⟩ := List.exists_cons_of_ne_nil nonempty
        have other : c ≠ '/' := fun slash => whole (slash ▸ List.mem_cons_self)
        cases more with
        | nil => simpa using other
        | cons next more => simpa [List.intercalate_cons_cons] using other

/-- It drops the parts that stay in place, unless nothing is left then. -/
theorem parts_tidy (h : steps cs ≠ []) : parts (tidy cs) = (parts cs).filter (· != ['.']) := by
  have text := parts_ofSteps_steps cs
  rw [← steps_eq]
  unfold tidy
  dsimp only
  rw [if_neg]
  · exact text
  · intro empty
    rw [List.isEmpty_iff.mp empty] at text
    exact h text.symm

end Path

namespace Disk

/-- One step along a path. -/
def stride (place : List (List Char)) (part : List Char) : List (List Char) :=
  if part.isEmpty || part = ['.'] then place
  else if part = ['.', '.'] then place.dropLast
  else place ++ [part]

/-- The place that a path leads to from a working directory. -/
def placeFrom (cwd : List (List Char)) (path : List Char) : List (List Char) :=
  (Path.parts path).foldl stride (if path.head? = some '/' then [] else cwd)

variable {d d' : Disk} {place q cwd : List (List Char)} {path name : List Char} {ps : List (List Char)}
  {o : Option Entry}

theorem stride_name (place : List (List Char)) (h : Path.IsName name) :
    stride place name = place ++ [name] := by
  have nonempty : name.isEmpty = false := List.isEmpty_eq_false_iff.mpr h.nonempty
  rw [stride, nonempty, if_neg (by simp [h.here]), if_neg h.above]

theorem placeFrom_join (cwd : List (List Char)) (directory : List Char) (h : Path.IsName name) :
    placeFrom cwd (Path.join directory name) = placeFrom cwd directory ++ [name] := by
  simp only [placeFrom, Path.parts_join directory h, List.foldl_append, h.head?_join]
  exact stride_name _ h

theorem partsOf_fst (path : List Char) : (partsOf path).1 = Path.parts path :=
  Path.parts_dropSlashes path

/-! ## Following a path -/

variable {part : List Char} {found : List (List Char) × Option Entry}

/-- A part that is no longer than a name is followed from a directory. -/
theorem follow_cons (directory : d.get? place = some .directory) (fits : byteCount part ≤ nameLimit)
    (ps : List (List Char)) : d.follow place (part :: ps) = d.follow (stride place part) ps := by
  rw [follow, directory, stride]
  dsimp only
  split
  · rfl
  · split
    · rfl
    · rw [if_neg (Nat.not_lt.mpr fits)]

theorem passes_of_follow (h : d.follow place (part :: ps) = .ok found) :
    d.get? place = some .directory ∧ byteCount part ≤ nameLimit := by
  have short : byteCount [] ≤ nameLimit ∧ byteCount ['.'] ≤ nameLimit ∧
      byteCount ['.', '.'] ≤ nameLimit := by decide
  rw [follow] at h
  split at h
  · cases h
  · cases h
  · next directory =>
    refine ⟨directory, ?_⟩
    split at h
    · next hp =>
      rcases Bool.or_eq_true_iff.mp hp with hp | hp
      · exact List.isEmpty_iff.mp hp ▸ short.1
      · exact of_decide_eq_true hp ▸ short.2.1
    · split at h
      · next hp => exact hp ▸ short.2.2
      · split at h
        · cases h
        · next fits => exact Nat.not_lt.mp fits

/-- A path that is followed ends at its destination, with what stands there. -/
theorem follow_eq_ok (h : d.follow place ps = .ok (q, o)) :
    q = ps.foldl stride place ∧ o = d.get? q := by
  induction ps generalizing place with
  | nil =>
    cases h
    exact ⟨rfl, rfl⟩
  | cons part ps ih =>
    obtain ⟨directory, fits⟩ := passes_of_follow h
    exact ih (follow_cons directory fits ps ▸ h)

theorem follow_append (h : d.follow place ps = .ok (q, o)) (qs : List (List Char)) :
    d.follow place (ps ++ qs) = d.follow q qs := by
  induction ps generalizing place with
  | nil =>
    cases h
    rfl
  | cons part ps ih =>
    obtain ⟨directory, fits⟩ := passes_of_follow h
    rw [List.cons_append, follow_cons directory fits]
    exact ih (follow_cons directory fits ps ▸ h)

/-- Parts that stay in place may be left out of a path. -/
theorem follow_filter (h : d.follow place ps = .ok (q, o)) :
    d.follow place (ps.filter (· != ['.'])) = .ok (q, o) := by
  induction ps generalizing place with
  | nil => exact h
  | cons part ps ih =>
    obtain ⟨directory, fits⟩ := passes_of_follow h
    have rest := ih (follow_cons directory fits ps ▸ h)
    by_cases here : part = ['.']
    · subst here
      rw [List.filter_cons_of_neg (by simp)]
      exact rest
    · rw [List.filter_cons_of_pos (by simpa using here), follow_cons directory fits]
      exact rest

/-- A path that is located is followed from where it begins. -/
theorem locate_eq_ok (h : d.locate path = .ok (q, o)) :
    path ≠ [] ∧ d.follow (d.start path) (Path.parts path) = .ok (q, o) := by
  unfold locate at h
  split at h
  · cases h
  · split at h
    · cases h
    · next nonempty =>
      split at h
      · cases h
      · rw [partsOf_fst] at h
        exact ⟨by simpa using nonempty, h⟩

theorem locate_eq_placeFrom (h : d.locate path = .ok (q, o)) : q = placeFrom d.cwd path ∧ o = d.get? q :=
  follow_eq_ok (locate_eq_ok h).2

/-! ## Disks that grow -/

/-- What happens to a disk when directories are made and files are written only where `P` holds. -/
structure Grew (P : List (List Char) → Prop) (d d' : Disk) : Prop where
  cwd : d'.cwd = d.cwd
  directories : ∀ q, d.get? q = some .directory → d'.get? q = some .directory
  files : ∀ q bytes, ¬P q → d.get? q = some (.file bytes) → d'.get? q = some (.file bytes)

variable {P : List (List Char) → Prop}

instance : IsPreorder Disk (Grew P) where
  refl _ := ⟨rfl, fun _ h => h, fun _ _ _ h => h⟩
  trans _ _ _ h h' := ⟨h'.cwd.trans h.cwd, fun q hq => h'.directories q (h.directories q hq),
    fun q bytes hp hq => h'.files q bytes hp (h.files q bytes hp hq)⟩

theorem get?_put_of_ne (h : q ≠ place) (e : Entry) : (d.put place e).get? q = d.get? q := by
  unfold put get?
  dsimp only
  split
  · rfl
  · exact Assoc.get?_put_of_ne h e d.entries

theorem get?_put_self (h : d.get? place ≠ some .directory) (e : Entry) : (d.put place e).get? place = some e := by
  unfold get? at h
  unfold put get?
  split at h
  · exact absurd rfl h
  · next inside => rw [if_neg inside, Assoc.get?_put_self]

theorem Grew.put (h : d.get? place ≠ some .directory) (free : P place ∨ d.get? place = none) :
    Grew P d (d.put place e) where
  cwd := rfl
  directories := fun q hq => by
    by_cases same : q = place
    · exact absurd (same ▸ hq) h
    · rwa [get?_put_of_ne same]
  files := fun q bytes hp hq => by
    by_cases same : q = place
    · rcases free with hp' | none
      · exact absurd (same ▸ hp') hp
      · rw [same, none] at hq
        cases hq
    · rwa [get?_put_of_ne same]

section Making

variable {R : Disk → Disk → Prop} [IsPreorder Disk R]
  (make : ∀ (d : Disk) (place : List (List Char)), d.get? place = none → R d (d.put place .directory))

include make

omit [IsPreorder Disk R] in
theorem keeps_makeDirectory (h : d.makeDirectory path = .ok d') : R d d' := by
  unfold makeDirectory at h
  split at h
  · cases h
  · cases h
  · next place found =>
    cases h
    exact make _ _ (locate_eq_placeFrom found).2.symm

theorem keeps_ensureDirectory (h : d.ensureDirectory path = .ok d') : R d d' := by
  unfold ensureDirectory at h
  split at h
  · next made =>
    cases h
    exact keeps_makeDirectory make made
  · split at h
    · cases h
      exact refl_of _ d
    · cases h

/-- What is kept when a directory is made where nothing is. Directories that were made stay, also if a later
one is refused. -/
theorem keeps_ensureAll (d : Disk) (fuel : Nat) (path : List Char) : R d (d.ensureAll fuel path).2 := by
  fun_induction ensureAll d fuel path
  case case1 => exact refl_of _ d
  -- the last part is `.`, and only the directories above it are made
  case case2 hx _ _ ih | case4 hx _ _ ih =>
    rw [hx] at ih
    exact ih
  case case3 hx _ ih | case5 hx _ ih =>
    rw [hx] at ih
    dsimp +zetaDelta only
    split
    · next made => exact trans_of _ ih (keeps_ensureDirectory make made)
    · exact ih
  -- one of the directories above is refused
  case case6 hx ih =>
    rw [hx] at ih
    exact ih
  case case7 =>
    dsimp +zetaDelta only
    split
    · next made => exact keeps_ensureDirectory make made
    · exact refl_of _ d

end Making

theorem grew_ensureAll (d : Disk) (fuel : Nat) (path : List Char) : Grew P d (d.ensureAll fuel path).2 :=
  keeps_ensureAll (fun d place none => .put (by rw [none]; exact nofun) (.inr none)) d fuel path

/-- A file that can be written is where its path leads, or nothing is there. -/
theorem placeOfFile_eq_ok {old : List UInt8} (h : d.placeOfFile path = .ok (place, old)) :
    place = placeFrom d.cwd path ∧
      (d.get? place = some (.file old) ∨ d.get? place = none ∧ old = []) := by
  unfold placeOfFile at h
  split at h
  · cases h
  · cases h
  · next q kept found =>
    split at h
    · cases h
    · cases h
      obtain ⟨rfl, kept⟩ := locate_eq_placeFrom found
      exact ⟨rfl, .inl kept.symm⟩
  · next q found =>
    split at h
    · cases h
    · cases h
      obtain ⟨rfl, none⟩ := locate_eq_placeFrom found
      exact ⟨rfl, .inr ⟨none.symm, rfl⟩⟩

/-- Writing touches the place alone that the path leads to. -/
theorem grew_of_placeOfFile (text : List UInt8 → List UInt8)
    (h : ((d.placeOfFile path).map fun (place, old) => d.put place (.file (text old))) = .ok d')
    (hp : P (placeFrom d.cwd path)) : Grew P d d' := by
  obtain ⟨⟨place, old⟩, placed, rfl⟩ := Except.map_eq_ok_iff.mp h
  obtain ⟨rfl, stands⟩ := placeOfFile_eq_ok placed
  refine .put ?_ (.inl hp)
  rcases stands with file | ⟨none, -⟩
  · rw [file]
    exact nofun
  · rw [none]
    exact nofun

theorem grew_write {bytes : List UInt8} (h : d.write path bytes = .ok d') (hp : P (placeFrom d.cwd path)) :
    Grew P d d' :=
  grew_of_placeOfFile (fun _ => bytes) h hp

theorem grew_append {bytes : List UInt8} (h : d.append path bytes = .ok d') (hp : P (placeFrom d.cwd path)) :
    Grew P d d' :=
  grew_of_placeOfFile (· ++ bytes) h hp

/-! ## Working directories -/

/-- Whatever is done to a disk, its working directory stays the same. -/
theorem cwd_ensureAll (d : Disk) (fuel : Nat) (path : List Char) : (d.ensureAll fuel path).2.cwd = d.cwd :=
  (grew_ensureAll (P := fun _ => True) d fuel path).cwd

theorem cwd_of_placeOfFile {text : List (List Char) × List UInt8 → List UInt8}
    (h : ((d.placeOfFile path).map fun found => d.put found.1 (.file (text found))) = .ok d') :
    d'.cwd = d.cwd := by
  obtain ⟨_, -, rfl⟩ := Except.map_eq_ok_iff.mp h
  rfl

/-- From a disk with this working directory to one with the same, of which the relation is true. -/
def SeenFrom (cwd : List (List Char)) (R : Disk → Disk → Prop) (d d' : Disk) : Prop :=
  d.cwd = cwd → d'.cwd = cwd ∧ R d d'

instance {R : Disk → Disk → Prop} [IsPreorder Disk R] : IsPreorder Disk (SeenFrom cwd R) where
  refl d h := ⟨h, refl_of R d⟩
  trans _ _ _ h h' seen := by
    obtain ⟨seen, first⟩ := h seen
    obtain ⟨seen, rest⟩ := h' seen
    exact ⟨seen, trans_of R first rest⟩

/-! ## Files that stay -/

theorem Grew.follow (h : Grew P d d') {bytes : List UInt8} (hq : ¬P q)
    (found : d.follow place ps = .ok (q, some (.file bytes))) :
    d'.follow place ps = .ok (q, some (.file bytes)) := by
  induction ps generalizing place with
  | nil =>
    obtain ⟨rfl, kept⟩ := follow_eq_ok found
    show Except.ok (q, d'.get? q) = _
    rw [h.files q bytes hq kept.symm]
  | cons part ps ih =>
    obtain ⟨directory, fits⟩ := passes_of_follow found
    rw [follow_cons (h.directories _ directory) fits]
    exact ih (follow_cons directory fits ps ▸ found)

/-- A disk as there can be one: no place stands in it twice, and every name on it is one. -/
structure WellFormed (d : Disk) : Prop where
  once : (Assoc.keys d.entries).Nodup
  names : ∀ q ∈ Assoc.keys d.entries, ∀ name ∈ q, Path.IsName name
  short : ∀ q ∈ Assoc.keys d.entries, ∀ name ∈ q, byteCount name ≤ nameLimit

/-- An entry that is listed by its name is a file right inside of the directory. -/
theorem eq_of_listed {entry : Entry} (h : (match entry with
      | .file _ => if q.dropLast = place then q.getLast? else none
      | .directory => none) = some name) : q = place ++ [name] ∧ ∃ bytes, entry = .file bytes := by
  cases entry with
  | directory => cases h
  | file bytes =>
    dsimp only at h
    split at h
    · next inside =>
      obtain ⟨front, rfl⟩ := List.getLast?_eq_some_iff.mp h
      rw [List.dropLast_concat] at inside
      exact ⟨by rw [inside], bytes, rfl⟩
    · cases h

/-- A file of a directory that is listed. -/
theorem exists_of_mem_filesIn {names : List (List Char)} (h : d.filesIn path = .ok names)
    (hn : name ∈ names) : ∃ place bytes, d.locate path = .ok (place, some .directory) ∧
      (place ++ [name], .file bytes) ∈ d.entries := by
  unfold filesIn at h
  split at h
  · cases h
  · cases h
  · cases h
  · next place found =>
    cases h
    obtain ⟨⟨q, entry⟩, mem, listed⟩ := List.mem_filterMap.mp hn
    obtain ⟨rfl, bytes, rfl⟩ := eq_of_listed listed
    exact ⟨place, bytes, found, mem⟩

theorem nodup_filesIn (wf : d.WellFormed) {names : List (List Char)} (h : d.filesIn path = .ok names) :
    names.Nodup := by
  unfold filesIn at h
  split at h
  · cases h
  · cases h
  · cases h
  · next place found =>
    cases h
    refine List.pairwise_filterMap.mpr ((List.pairwise_map.mp wf.once).imp ?_)
    rintro _ _ apart name listed _ listed' rfl
    exact apart ((eq_of_listed listed).1.trans (eq_of_listed listed').1.symm)

/-- A file that is listed is found by its tidy path. -/
theorem locate_listed (wf : d.WellFormed) {names : List (List Char)}
    (h : d.filesIn path = .ok names) (hn : name ∈ names) :
    let way := Path.tidy (Path.join path name)
    Path.IsName name ∧ ∃ bytes, d.follow (d.start way) (Path.parts way) =
      .ok (placeFrom d.cwd path ++ [name], some (.file bytes)) := by
  intro way
  obtain ⟨place, bytes, found, mem⟩ := exists_of_mem_filesIn h hn
  have key : place ++ [name] ∈ Assoc.keys d.entries := List.mem_map_of_mem mem
  have isName := wf.names _ key name (by simp)
  have stands : d.get? (place ++ [name]) = some (.file bytes) := by
    rw [get?, if_neg (by simp), Assoc.get?_eq_some_iff wf.once]
    exact mem
  obtain ⟨rfl, directory⟩ := locate_eq_placeFrom found
  have apart : ([name].filter (· != ['.'])) = [name] := by simp [isName.here]
  have joined : Path.steps (Path.join path name) ≠ [] := by
    rw [Path.steps_eq, Path.parts_join path isName, List.filter_append, apart]
    simp
  have begins : d.start way = d.start path := by
    simp only [start, way, Path.head?_tidy, isName.head?_join]
  refine ⟨isName, bytes, ?_⟩
  rw [begins, Path.parts_tidy joined, Path.parts_join path isName, List.filter_append, apart,
    follow_append (follow_filter (locate_eq_ok found).2),
    follow_cons directory.symm (wf.short _ key name (by simp)), stride_name _ isName, Disk.follow, stands]

theorem start_congr (h : d'.cwd = d.cwd) (path : List Char) : d'.start path = d.start path := by
  rw [start, start, h]

/-- A way to a file that stays is found as before. -/
theorem Grew.locate_eq (h : Grew P d d') {bytes : List UInt8} (hq : ¬P q)
    (found : d.follow (d.start path) (Path.parts path) = .ok (q, some (.file bytes))) :
    d'.locate path = d.locate path := by
  unfold locate
  rw [partsOf_fst, start_congr h.cwd, found, h.follow hq found]

theorem stat_congr (h : d'.locate path = d.locate path) : d'.stat path = d.stat path := by
  unfold stat
  rw [h]

/-- Paths that are listed in order are selected as they are. -/
theorem scan_eq_ok {directory : String} {patterns paths : List String} (names : List (List Char))
    (listed : d.filesIn directory.toList = .ok names)
    (selected : (names.filter (isSelected patterns)).map (fun name =>
      String.ofList (Path.join directory.toList name)) = paths)
    (sorted : paths.Pairwise fun a b => inOrder a b = true) :
    d.scan directory patterns = .ok paths := by
  rw [scan, listed]
  dsimp only
  rw [selected, List.mergeSort_of_pairwise sorted]

theorem exists_of_mem_scan {directory file : String} {patterns files : List String}
    (h : d.scan directory patterns = .ok files) (hf : file ∈ files) :
    ∃ names, d.filesIn directory.toList = .ok names ∧
      ∃ name ∈ names, file = String.ofList (Path.join directory.toList name) := by
  unfold scan at h
  split at h
  · cases h
  · next names listed =>
    cases h
    obtain ⟨name, hn, rfl⟩ := List.mem_map.mp (List.mem_mergeSort.mp hf)
    exact ⟨names, listed, name, List.mem_of_mem_filter hn, rfl⟩

/-- No file of a directory is selected twice. -/
theorem nodup_scan (wf : d.WellFormed) {directory : String} {patterns files : List String}
    (h : d.scan directory patterns = .ok files) : files.Nodup := by
  unfold scan at h
  split at h
  · cases h
  · next names listed =>
    cases h
    rw [(List.mergeSort_perm _ _).nodup_iff]
    refine List.Nodup.map_on ?_ ((nodup_filesIn wf listed).filter _)
    intro name hn name' hn' same
    have isName {name : List Char} (hn : name ∈ names.filter (isSelected patterns)) :=
      (locate_listed wf listed (List.mem_of_mem_filter hn)).1
    exact Path.join_injective (isName hn) (isName hn') (String.ofList_injective same)

/-- Files of a directory are found as they were if nothing was written right inside of it. -/
theorem Grew.stat_scanned (grew : Grew P d d') (wf : d.WellFormed) {directory file : String}
    {patterns files : List String} (apart : ∀ name, ¬P (placeFrom d.cwd directory.toList ++ [name]))
    (h : d.scan directory patterns = .ok files) (hf : file ∈ files) :
    d'.stat (Path.tidy file.toList) = d.stat (Path.tidy file.toList) := by
  obtain ⟨names, listed, name, hn, rfl⟩ := exists_of_mem_scan h hf
  obtain ⟨-, bytes, found⟩ := locate_listed wf listed hn
  rw [String.toList_ofList]
  exact stat_congr (grew.locate_eq (apart name) found)

end Disk

end Walkthrough
