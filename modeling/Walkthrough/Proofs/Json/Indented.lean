import Walkthrough.Proofs.Json.RoundTrip
import Walkthrough.Proofs.Text.Utf8

/-! Objects that are written over several lines, each member on its own, are read like those that are written
on one line (`Json.read_writeIndented`): the values of the members are written alike, and reading skips the line
breaks and the indentation. -/

namespace Walkthrough

/-- Values that hold no others and are read as they are written. -/
inductive Data.Leaf : Data → Prop
  | null : Leaf .null
  | int {n : Int} (short : Number.isOverlong n = false) : Leaf (.int n)
  | text (s : String) : Leaf (.text s)

namespace Json

open Text

variable {cs : List Char} {depth fuel level : Nat} {d : Data}

theorem reads_null : Reads depth .null := by
  intro fuel rest enough _
  obtain ⟨fuel, rfl⟩ : ∃ n, fuel = n + 1 := ⟨fuel - 1, by
    have : (write .null).toList.length = 4 := rfl
    omega⟩
  have word : readWord ('n' :: 'u' :: 'l' :: 'l' :: rest) = some (.null, rest) := rfl
  show readValue depth (fuel + 1) ('n' :: 'u' :: 'l' :: 'l' :: rest) = _
  rw [readValue, word]
  all_goals simp

theorem reads_of_leaf (h : d.Leaf) : Reads depth d := by
  cases h with
  | null => exact reads_null
  | int short => exact reads_int short
  | text s => exact reads_text s

theorem begins_of_leaf (h : d.Leaf) : Begins (write d).toList := by
  cases h with
  | null => exact ⟨'n', _, rfl, by decide⟩
  | int short => exact begins_write (.int short : Data.Plain 0 _)
  | text s => exact begins_write (.text s : Data.Plain 0 _)

theorem indentedAt_of_leaf (h : d.Leaf) (level : Nat) : indentedAt level d = [write d] := by
  cases h with
  | null | int | text => rfl

/-! ## Members on lines of their own -/

theorem isSpace_of_mem_newline {c : Char} (h : c ∈ (newline level).toList) : isSpace c = true := by
  rw [newline, String.toList_append, List.mem_append] at h
  rcases h with h | h
  · rw [List.mem_singleton.mp h]
    rfl
  · rw [String.toList_ofList] at h
    rw [List.eq_of_mem_replicate h]
    rfl

theorem toList_indentedEntries (level : Nat) {fs : List (String × Data)} (h : ∀ e ∈ fs, e.2.Leaf) :
    (String.join (indentedEntries level (Data.members fs))).toList =
      memberTexts (newline level).toList fs := by
  induction fs with
  | nil => rfl
  | cons e fs ih =>
    obtain ⟨k, d⟩ := e
    obtain ⟨leaf, leaves⟩ := List.forall_mem_cons.mp h
    cases fs with
    | nil =>
      rw [Data.members, List.map_cons, List.map_nil, indentedEntries, indentedAt_of_leaf leaf]
      simp [memberTexts, member, writeKey, toList_writeText, String.join_cons]
    | cons e fs =>
      rw [memberTexts, ← ih leaves, Data.members, List.map_cons, List.map_cons, indentedEntries,
        indentedAt_of_leaf leaf]
      · simp [member, Data.members, writeKey, toList_writeText, String.join_cons]
      · intro none
        cases none

theorem toList_writeIndented_object {e : String × Data} {fs : List (String × Data)}
    (h : ∀ f ∈ e :: fs, f.2.Leaf) : (writeIndented (.object (e :: fs))).toList =
      '\x7b' :: ((newline 1).toList ++ (memberTexts (newline 1).toList (e :: fs) ++ ['\n', '\x7d'])) := by
  rw [← toList_indentedEntries 1 h, writeIndented, indentedParts, Data.object, Data.members, List.map_cons,
    indentedAt]
  · simp [newline, String.join_cons]
  · intro none
    cases none

/-- An object of leaves is read from what is written of it over several lines. -/
theorem read_writeIndented [StackRoom] {fs : List (String × Data)} (once : (Assoc.keys fs).Nodup)
    (leaves : ∀ e ∈ fs, e.2.Leaf) : read (writeIndented (.object fs)).toList = .ok (.object fs) := by
  obtain ⟨limit, deep⟩ : ∃ n, StackRoom.json = n + 1 :=
    Nat.exists_eq_add_one.mpr (Nat.lt_of_lt_of_le Nat.zero_lt_two StackRoom.two_le_json)
  cases fs with
  | nil =>
    rw [read, deep]
    rfl
  | cons e fs =>
    have first := begins_memberTexts (newline 1).toList e fs
    have object : Data.mapOf (Data.members (e :: fs)) = Data.object (e :: fs) := by
      rw [Data.mapOf_texts, Assoc.ofPairs_of_nodup once]
    have blank : ∀ c ∈ (newline 1).toList, isSpace c = true := fun _ => isSpace_of_mem_newline
    have inside := (List.dropWhile_append_of_pos blank).trans (first.skipSpace ['\n', '\x7d'])
    have some := first.head?_ne (c := '\x7d') (by decide) ['\n', '\x7d']
    have closes : skipSpace ['\n', '\x7d'] = ['\x7d'] := rfl
    rw [read, toList_writeIndented_object leaves, if_neg (by rw [List.head?_cons]; decide),
      skipSpace_cons (by decide), deep, readValue_object inside some,
      readMembers_memberTexts blank (fun f hf => reads_of_leaf (leaves f hf))
        (fun f hf => begins_of_leaf (leaves f hf)) [] _ closes (stops_cons (by decide) _),
      List.reverse_nil, List.nil_append, object]
    · rfl
    · simp
      omega

/-! ## Pieces -/

theorem isPiece_writeText (s : String) : Utf8.IsPiece (writeText s) := by
  refine ⟨'"' :: s.toList.flatMap escapeChar, '"', ?_, by decide⟩
  rw [← String.ofList_toList (s := writeText s), toList_writeText]
  rfl

theorem isPiece_write (h : d.Leaf) : Utf8.IsPiece (write d) := by
  cases h with
  | null => exact .literal (by decide) (by decide)
  | @int n short =>
    have digits (m : Nat) : ∀ c ∈ decimal m, isMark c = false := fun c hc => by
      rw [isMark, beq_eq_false_iff_ne]
      rintro same
      have digit := isDigit_of_mem_decimal hc
      rw [← Char.ofNat_toNat c, same] at digit
      exact absurd digit (by decide)
    have written : write (.int n) = toString n := rfl
    rw [written, ← String.ofList_toList (s := toString n)]
    rcases toList_toString_cases n with ⟨m, -, eq⟩ | ⟨m, -, eq⟩
    · rw [eq]
      exact .of_forall (decimal_ne_nil m) (digits m)
    · rw [eq]
      exact .of_forall (List.cons_ne_nil _ _) (List.forall_mem_cons.mpr ⟨by decide, digits m⟩)
  | text s => exact isPiece_writeText s

theorem isPiece_newline (lead : String) (level : Nat) (h : lead.toList.all (!isMark ·) = true) :
    Utf8.IsPiece (lead ++ newline level) := by
  refine .literal (by simp [newline]) ?_
  have blank : (newline level).toList.all (!isMark ·) = true := List.all_eq_true.mpr fun c hc => by
    have space := isSpace_of_mem_newline hc
    simp only [isSpace, Bool.or_eq_true, beq_iff_eq] at space
    rcases space with ((rfl | rfl) | rfl) | rfl <;> decide
  rw [String.toList_append, List.all_append, h, blank]
  rfl

theorem isPiece_indentedEntries {fs : List (String × Data)} (h : ∀ e ∈ fs, e.2.Leaf) :
    ∀ p ∈ indentedEntries level (Data.members fs), Utf8.IsPiece p := by
  induction fs with
  | nil => exact fun _ held => absurd held List.not_mem_nil
  | cons e fs ih =>
    obtain ⟨k, d⟩ := e
    obtain ⟨leaf, leaves⟩ := List.forall_mem_cons.mp h
    have first : ∀ p ∈ [writeKey (.text k), ": ", write d], Utf8.IsPiece p := by
      simpa using ⟨isPiece_writeText k, .literal (by decide) (by decide), isPiece_write leaf⟩
    cases fs with
    | nil =>
      rw [Data.members, List.map_cons, List.map_nil, indentedEntries, indentedAt_of_leaf leaf]
      exact first
    | cons e fs =>
      rw [Data.members, List.map_cons, List.map_cons, indentedEntries, indentedAt_of_leaf leaf]
      · exact List.forall_mem_append.mpr
          ⟨first, List.forall_mem_cons.mpr ⟨isPiece_newline "," level (by decide), ih leaves⟩⟩
      · intro none
        cases none

/-- The pieces of an object are written as the whole text. -/
theorem encodeText_writeIndented {fs : List (String × Data)} (h : ∀ e ∈ fs, e.2.Leaf) {bytes : List UInt8}
    (written : Utf8.encodeTexts (indentedParts (.object fs)) = (bytes, none)) :
    Utf8.encodeText (writeIndented (.object fs)) = .ok bytes := by
  refine Utf8.encodeText_join (fun p hp => ?_) written
  cases fs with
  | nil =>
    rw [List.mem_singleton.mp hp]
    exact .literal (by decide) (by decide)
  | cons e fs =>
    rw [indentedParts, Data.object, Data.members, List.map_cons, indentedAt] at hp
    · simp only [List.mem_cons, List.mem_append, List.not_mem_nil, or_false] at hp
      rcases hp with (rfl | rfl | hp) | rfl | rfl
      · exact .literal (by decide) (by decide)
      · exact isPiece_newline "" 1 rfl
      · exact isPiece_indentedEntries h p hp
      · exact isPiece_newline "" 0 rfl
      · exact .literal (by decide) (by decide)
    · intro none
      cases none

end Json

end Walkthrough
