import Walkthrough.Disk.Basic
import Walkthrough.Proofs.Text.Proper

/-! How the disk refuses a request. A path without the character zero is only ever refused with a failure
of the system, and what is said of a refusal is proper text whatever the path is. A look at what is at a path
is never refused because of what is there. -/

namespace Walkthrough

variable {path : List Char}

namespace Path

theorem mem_of_mem_dropSlashes {c : Char} (h : c ∈ dropSlashes path) : c ∈ path := by
  unfold dropSlashes at h
  split at h
  · exact h
  · exact List.mem_reverse.mp
      ((List.dropWhile_sublist _).subset (List.mem_reverse.mp h))

theorem mem_of_mem_split {c : Char} (h : c ∈ (split path).1) : c ∈ path :=
  List.mem_of_mem_take (mem_of_mem_dropSlashes h)

theorem mem_of_mem_join {directory : List Char} {c : Char} (h : c ∈ join directory path) :
    c ∈ directory ∨ c = '/' ∨ c ∈ path := by
  unfold join at h
  split at h
  · exact .inr (.inr h)
  · split at h
    · exact (List.mem_append.mp h).imp_right .inr
    · exact (List.mem_append.mp h).imp_right List.mem_cons.mp

end Path

namespace Disk

variable {d d' : Disk} {r : Refusal} {bytes : List UInt8}

theorem Refusal.proper_about (r : Refusal) (path : String) : Text.Proper (r.about path).message := by
  cases r with
  | nullByte => exact (.literal rfl : Text.Proper "embedded null byte")
  | _ => exact .append (.append (.literal rfl) (.literal rfl)) (.quoted path)

theorem Refusal.isSystem_about (h : r ≠ .nullByte) (path : String) :
    (r.about path).kind.isSystem = true := by
  cases r with
  | nullByte => exact absurd rfl h
  | _ => rfl

/-- The refusals of a look at what is at a path. -/
def Refusal.OfPath (r : Refusal) : Prop := r ≠ .exists ∧ r ≠ .isDirectory

theorem follow_ofPath {place parts : List (List Char)} :
    (d.follow place parts).FailsBy Refusal.OfPath := by
  induction parts generalizing place with
  | nil => exact .ok _
  | cons part parts ih =>
    rw [follow]
    split
    · exact .error ⟨nofun, nofun⟩
    · exact .error ⟨nofun, nofun⟩
    · repeat' split
      · exact ih
      · exact ih
      · exact .error ⟨nofun, nofun⟩
      · exact ih

theorem stat_ofPath : (d.stat path).FailsBy Refusal.OfPath := by
  have place : (d.locate path).FailsBy Refusal.OfPath := by
    rw [locate]
    split
    · exact .error ⟨nofun, nofun⟩
    split
    · exact .error ⟨nofun, nofun⟩
    split
    · exact .error ⟨nofun, nofun⟩
    · exact follow_ofPath
  unfold stat
  split
  · next h => exact .error (place _ h)
  · exact .error ⟨nofun, nofun⟩
  · exact .ok _
  · split
    · exact .error ⟨nofun, nofun⟩
    · exact .ok _

theorem follow_ne_nullByte {place parts : List (List Char)} :
    d.follow place parts ≠ .error .nullByte := by
  induction parts generalizing place with
  | nil => exact nofun
  | cons part parts ih =>
    rw [follow]
    split
    · exact nofun
    · exact nofun
    · repeat' split
      · exact ih
      · exact ih
      · exact nofun
      · exact ih

theorem locate_ne_nullByte (h : '\x00' ∉ path) : d.locate path ≠ .error .nullByte := by
  rw [locate, if_neg (by simpa using h)]
  repeat' split
  · exact nofun
  · exact nofun
  · exact follow_ne_nullByte

theorem placeOfFile_ne_nullByte (h : '\x00' ∉ path) : d.placeOfFile path ≠ .error .nullByte := by
  have hl := locate_ne_nullByte (d := d) h
  unfold placeOfFile
  split
  case h_1 r hr =>
    rw [hr] at hl
    simpa using hl
  all_goals try split
  all_goals exact nofun

theorem map_placeOfFile_ne_nullByte (h : '\x00' ∉ path)
    (change : List (List Char) × List UInt8 → Disk) :
    (d.placeOfFile path).map change ≠ .error .nullByte := by
  have hp := placeOfFile_ne_nullByte (d := d) h
  intro hm
  cases hx : d.placeOfFile path with
  | error r =>
    rw [hx] at hm hp
    cases hm
    exact hp rfl
  | ok p =>
    rw [hx] at hm
    cases hm

theorem write_ne_nullByte (h : '\x00' ∉ path) : d.write path bytes ≠ .error .nullByte :=
  map_placeOfFile_ne_nullByte h _

theorem append_ne_nullByte (h : '\x00' ∉ path) : d.append path bytes ≠ .error .nullByte :=
  map_placeOfFile_ne_nullByte h _

theorem ensureDirectory_refusal {place : List Char} (h : '\x00' ∉ path)
    (he : d.ensureDirectory path = .error (r, place)) : r ≠ .nullByte := by
  have hl := locate_ne_nullByte (d := d) h
  unfold ensureDirectory makeDirectory at he
  cases hp : d.locate path with
  | error r' =>
    rw [hp] at he hl
    simp only at he
    split at he
    · cases he
    · cases he
      simpa using hl
  | ok p =>
    obtain ⟨p, entry⟩ := p
    rw [hp] at he
    cases entry with
    | none => cases he
    | some entry =>
      simp only at he
      split at he
      · cases he
      · cases he
        exact nofun

/-- Directories above a path are made from parts of it, so no refusal tells of a character zero that is
not in the path. -/
theorem ensureAll_refusal {fuel : Nat} {place : List Char} (h : '\x00' ∉ path)
    (he : (d.ensureAll fuel path).1 = .error (r, place)) : r ≠ .nullByte := by
  fun_induction ensureAll d fuel path
  case case1 =>
    cases he
    exact nofun
  -- the last part is `.`: the directories above it are all there is to make
  case case2 | case4 => cases he
  -- the directory itself is made, those above it being there
  case case3 last _ _ _ _ _ _ | case5 last _ _ _ _ _ | case7 last _ =>
    simp only [last] at he
    split at he
    · cases he
    · cases he
      exact ensureDirectory_refusal h ‹_›
  -- one of the directories above it is refused
  case case6 top bottom hp head tail hs _ _ _ _ hx ih =>
    refine ih (fun hm => h (Path.mem_of_mem_split ?_)) (hx ▸ he)
    rw [hp]
    split at hs
    · have : head = (Path.split top).1 := congrArg Prod.fst hs.symm
      exact Path.mem_of_mem_split (this ▸ hm)
    · cases hs
      exact hm

end Disk

end Walkthrough
