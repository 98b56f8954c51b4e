import Walkthrough.Proofs.Basic
import Walkthrough.Text.Blank
import Mathlib.Data.List.DropRight

/-! Trimming and the lines of a text. `Tight` texts have no white space at their ends; `trim` gives
the tight middle of a text and leaves a tight text as it is. A text put together from lines without
breaks has exactly these lines, and no line of any text holds a break. -/

namespace Walkthrough.Text

variable {cs a b : List Char}

/-- All characters are white space. -/
def AllBlank (cs : List Char) : Prop := ∀ c ∈ cs, isBlank c = true

/-- Neither the first nor the last character is white space. -/
def Tight (cs : List Char) : Prop :=
  (∀ c ∈ cs.head?, isBlank c = false) ∧ ∀ c ∈ cs.getLast?, isBlank c = false

instance (cs : List Char) : Decidable (AllBlank cs) := inferInstanceAs (Decidable (∀ c ∈ cs, _))

instance (cs : List Char) : Decidable (Tight cs) := inferInstanceAs (Decidable (_ ∧ _))

theorem trimEnd_eq (cs : List Char) : trimEnd cs = cs.rdropWhile isBlank := rfl

theorem Tight.nil : Tight [] := ⟨nofun, nofun⟩

/-- A text is tight if its parts are, where they meet its ends. -/
theorem Tight.append (ha : a ≠ []) (hb : b ≠ []) (h : ∀ c ∈ a.head?, isBlank c = false)
    (h' : ∀ c ∈ b.getLast?, isBlank c = false) : Tight (a ++ b) := by
  constructor
  · rwa [List.head?_append_of_ne_nil _ ha]
  · rwa [List.getLast?_append_of_ne_nil _ hb]

theorem trim_of_tight (h : Tight cs) : trim cs = cs := by
  rcases List.eq_nil_or_concat' cs with rfl | ⟨front, c, rfl⟩
  · rfl
  have hs : trimStart (front ++ [c]) = front ++ [c] := by
    cases front with
    | nil => exact List.dropWhile_cons_of_neg (by simp [h.1 c rfl])
    | cons d front => exact List.dropWhile_cons_of_neg (by simp [h.1 d rfl])
  rw [trim, hs, trimEnd_eq]
  exact List.rdropWhile_concat_neg _ _ _ (by simp [h.2 c (by simp)])

theorem trimStart_append (ha : AllBlank a) : trimStart (a ++ cs) = trimStart cs :=
  List.dropWhile_append_of_pos ha

theorem trimEnd_append (hb : AllBlank b) : trimEnd (cs ++ b) = trimEnd cs := by
  rw [trimEnd, List.reverse_append, List.dropWhile_append_of_pos, ← trimEnd]
  exact fun c hc => hb c (List.mem_reverse.mp hc)

theorem trim_cons {c : Char} (hc : isBlank c = true) : trim (c :: cs) = trim cs := by
  rw [trim, trimStart, List.dropWhile_cons_of_pos hc]
  rfl

/-- White space around a tight text goes. -/
theorem trim_append (ha : AllBlank a) (hb : AllBlank b) (h : Tight cs) :
    trim (a ++ cs ++ b) = cs := by
  rw [trim, List.append_assoc, trimStart_append ha]
  cases cs with
  | nil =>
    rw [List.nil_append, trimStart, List.dropWhile_eq_nil_iff.mpr hb]
    rfl
  | cons c cs =>
    rw [List.cons_append, trimStart, List.dropWhile_cons_of_neg (by simp [h.1 c rfl]),
      ← List.cons_append, trimEnd_append hb]
    have := trim_of_tight h
    rwa [trim, trimStart, List.dropWhile_cons_of_neg (by simp [h.1 c rfl])] at this

private theorem rdropWhile_spec (cs : List Char) :
    ∃ b, cs = cs.rdropWhile isBlank ++ b ∧ AllBlank b := by
  refine ⟨cs.rtakeWhile isBlank, (List.rdropWhile_append_rtakeWhile).symm, fun c hc => ?_⟩
  exact List.mem_rtakeWhile_imp hc

/-- A text is its trimmed form with white space around it, and that form is tight. -/
theorem exists_trim (cs : List Char) :
    ∃ a b, cs = a ++ trim cs ++ b ∧ AllBlank a ∧ AllBlank b ∧ Tight (trim cs) := by
  obtain ⟨b, hb, hbb⟩ := rdropWhile_spec (trimStart cs)
  refine ⟨cs.takeWhile isBlank, b, ?_, fun c hc => List.mem_takeWhile_imp hc, hbb, ?_, ?_⟩
  · rw [List.append_assoc, trim, trimEnd_eq, ← hb]
    exact (List.takeWhile_append_dropWhile).symm
  · intro c hc
    have hh : c ∈ (trimStart cs).head? := by
      rw [hb]
      exact List.mem_head?_append_of_mem_head? hc
    have := List.head?_dropWhile_not isBlank cs
    rw [trimStart] at hh
    rw [hh] at this
    simpa using this
  · intro c hc
    have hne : (trimStart cs).rdropWhile isBlank ≠ [] := by
      rintro h
      rw [trim, trimEnd_eq, h] at hc
      cases hc
    have hl := List.rdropWhile_last_not isBlank (trimStart cs) hne
    rw [trim, trimEnd_eq, List.getLast?_eq_getLast_of_ne_nil hne] at hc
    cases hc
    simpa using hl

theorem tight_trim (cs : List Char) : Tight (trim cs) := (exists_trim cs).choose_spec.choose_spec.2.2.2

theorem trim_trim (cs : List Char) : trim (trim cs) = trim cs := trim_of_tight (tight_trim cs)

theorem trim_eq_nil_iff : trim cs = [] ↔ AllBlank cs := by
  constructor
  · intro h c hc
    obtain ⟨a, b, hcs, ha, hb, -⟩ := exists_trim cs
    rw [h, List.append_nil] at hcs
    rw [hcs, List.mem_append] at hc
    exact hc.elim (ha c) (hb c)
  · intro h
    simpa using trim_append (a := []) nofun h .nil

theorem isBlankText_eq_false_iff {s : String} : isBlankText s = false ↔ ¬AllBlank s.toList := by
  rw [isBlankText, ← Bool.not_eq_true, List.all_eq_true]
  rfl

theorem isBlankText_trim (h : String.ofList (trim cs) ≠ "") :
    isBlankText (.ofList (trim cs)) = false := by
  rw [isBlankText_eq_false_iff, String.toList_ofList, ← trim_eq_nil_iff, trim_trim]
  intro hn
  exact h (by rw [hn])

/-- What is trimmed from a text comes from the text. -/
theorem mem_of_mem_trim {c : Char} (h : c ∈ trim cs) : c ∈ cs := by
  obtain ⟨a, b, hcs, -⟩ := exists_trim cs
  rw [hcs]
  simp [h]

/-! ## Lines -/

/-- A text without breaks. -/
def Unbroken (cs : List Char) : Prop := ∀ c ∈ cs, isLineBreak c = false

instance (cs : List Char) : Decidable (Unbroken cs) := inferInstanceAs (Decidable (∀ c ∈ cs, _))

theorem Unbroken.nil : Unbroken [] := fun _ h => absurd h List.not_mem_nil

theorem Unbroken.append (ha : Unbroken a) (hb : Unbroken b) : Unbroken (a ++ b) :=
  fun c hc => (List.mem_append.mp hc).elim (ha c) (hb c)

theorem Unbroken.of_subset (h : Unbroken cs) (hs : a ⊆ cs) : Unbroken a := fun c hc => h c (hs hc)

theorem Unbroken.trim (h : Unbroken cs) : Unbroken (trim cs) := fun c hc => h c (mem_of_mem_trim hc)

/-- The lines `ls`, each with a line feed after it. -/
def unlines (ls : List (List Char)) : List Char := ls.flatMap (· ++ ['\n'])

theorem linesFrom_break (current rest : List Char) :
    linesFrom current ('\n' :: rest) = current.reverse :: linesFrom [] rest := by
  rw [linesFrom]
  · rfl
  · exact fun _ h => absurd h (by decide)

theorem linesFrom_unbroken {current l : List Char} (h : Unbroken l) (rest : List Char) :
    linesFrom current (l ++ '\n' :: rest) = (current.reverse ++ l) :: linesFrom [] rest := by
  induction l generalizing current with
  | nil => rw [List.nil_append, List.append_nil, linesFrom_break]
  | cons c l ih =>
    have hc := h c List.mem_cons_self
    rw [List.cons_append, linesFrom, hc, if_neg Bool.false_ne_true,
      ih fun d hd => h d (List.mem_cons_of_mem _ hd), List.reverse_cons, List.append_assoc]
    · rfl
    · rintro _ rfl
      cases hc

theorem lines_unlines {ls : List (List Char)} (h : ∀ l ∈ ls, Unbroken l) :
    lines (unlines ls) = ls := by
  induction ls with
  | nil => rfl
  | cons l ls ih =>
    rw [unlines, List.flatMap_cons, List.append_assoc, lines, List.singleton_append,
      linesFrom_unbroken (h l List.mem_cons_self), List.reverse_nil, List.nil_append]
    exact congrArg (l :: ·) (ih fun m hm => h m (List.mem_cons_of_mem _ hm))

private theorem unbroken_of_mem_linesFrom {current : List Char} (hc : Unbroken current) :
    ∀ l ∈ linesFrom current cs, Unbroken l := by
  fun_induction linesFrom current cs with
  | case1 current h => nofun
  | case2 current h =>
    intro l hl
    cases List.mem_singleton.mp hl
    exact fun c hm => hc c (List.mem_reverse.mp hm)
  | case3 current rest ih =>
    intro l hl
    rcases List.mem_cons.mp hl with rfl | hl
    · exact fun c hm => hc c (List.mem_reverse.mp hm)
    · exact ih .nil l hl
  | case4 current c rest _ _ ih =>
    intro l hl
    rcases List.mem_cons.mp hl with rfl | hl
    · exact fun c hm => hc c (List.mem_reverse.mp hm)
    · exact ih .nil l hl
  | case5 current c rest _ hb ih =>
    refine ih fun d hd => ?_
    rcases List.mem_cons.mp hd with rfl | hd
    · simpa using hb
    · exact hc d hd

theorem unbroken_of_mem_lines {l : List Char} (h : l ∈ lines cs) : Unbroken l :=
  unbroken_of_mem_linesFrom .nil l h

end Walkthrough.Text
