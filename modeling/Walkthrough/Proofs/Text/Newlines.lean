import Walkthrough.Proofs.Text.Proper
import Walkthrough.Proofs.Text.Trim

/-! Texts whose line ends have been made line feeds. Such a text has the lines it had before
(`lines_unifyNewlines`), and where it begins with characters that end no line, it began with them before
(`unifyNewlines_eq_append_iff`). The characters that hold a text have line ends where the text has them. -/

namespace Walkthrough.Text

variable {c d : Char} {cs ds xs ys rest : List Char} {p : Char → Bool}

theorem unifyNewlines_cons (h : c ≠ '\r') (cs : List Char) :
    unifyNewlines (c :: cs) = c :: unifyNewlines cs := by
  rw [unifyNewlines, if_neg h]
  exact fun _ hc => absurd hc h

/-- After a carriage return one line feed does not count. -/
theorem unifyNewlines_return (cs : List Char) :
    (∃ rest, cs = '\n' :: rest ∧ unifyNewlines ('\r' :: cs) = '\n' :: unifyNewlines rest) ∨
      (cs.head? ≠ some '\n' ∧ unifyNewlines ('\r' :: cs) = '\n' :: unifyNewlines cs) := by
  by_cases h : ∃ rest, cs = '\n' :: rest
  · obtain ⟨rest, rfl⟩ := h
    exact .inl ⟨rest, rfl, by rw [unifyNewlines]⟩
  · refine .inr ⟨fun first => h ?_, ?_⟩
    · obtain ⟨rest, rfl⟩ := List.head?_eq_some_iff.mp first
      exact ⟨rest, rfl⟩
    · rw [unifyNewlines, if_pos rfl]
      exact fun rest _ eq => h ⟨rest, eq⟩

/-- The first character stays, or a line feed takes its place. -/
theorem exists_unifyNewlines_cons (c : Char) (cs : List Char) :
    ∃ rest, unifyNewlines (c :: cs) = (if c = '\r' then '\n' else c) :: rest := by
  by_cases h : c = '\r'
  · subst h
    rcases unifyNewlines_return cs with ⟨_, _, eq⟩ | ⟨-, eq⟩
    · exact ⟨_, eq⟩
    · exact ⟨_, eq⟩
  · exact ⟨unifyNewlines cs, by rw [if_neg h, unifyNewlines_cons h]⟩

theorem unifyNewlines_eq_nil_iff : unifyNewlines cs = [] ↔ cs = [] := by
  unfold unifyNewlines
  split <;> simp

theorem length_unifyNewlines_le (cs : List Char) : (unifyNewlines cs).length ≤ cs.length := by
  fun_induction unifyNewlines cs with
  | case1 => exact Nat.le_refl _
  | case2 rest ih => exact Nat.succ_le_succ (Nat.le_succ_of_le ih)
  | case3 c rest _ ih => exact Nat.succ_le_succ ih

/-- A character that ends no line is there already. -/
theorem unifyNewlines_eq_cons_iff (h : isLineBreak c = false) :
    unifyNewlines cs = c :: ds ↔ ∃ rest, cs = c :: rest ∧ unifyNewlines rest = ds := by
  have feed : c ≠ '\n' := by
    rintro rfl
    cases h
  have plain : c ≠ '\r' := by
    rintro rfl
    cases h
  constructor
  · intro eq
    unfold unifyNewlines at eq
    split at eq
    · cases eq
    · injection eq with eq
      exact absurd eq.symm feed
    · next d rest _ =>
      injection eq with first eq
      split at first
      · exact absurd first.symm feed
      · exact ⟨rest, by rw [first], eq⟩
  · rintro ⟨rest, rfl, rfl⟩
    exact unifyNewlines_cons plain rest

theorem unifyNewlines_ne_cons (h : isLineBreak c = false) (no : ∀ rest, cs ≠ c :: rest)
    (rest : List Char) : unifyNewlines cs ≠ c :: rest := fun eq =>
  have ⟨rest', eq', _⟩ := (unifyNewlines_eq_cons_iff h).mp eq
  no rest' eq'

theorem head?_unifyNewlines (h : isLineBreak c = false) :
    (unifyNewlines cs).head? = some c ↔ cs.head? = some c := by
  simp only [List.head?_eq_some_iff, unifyNewlines_eq_cons_iff h]
  exact ⟨fun ⟨_, rest, eq, _⟩ => ⟨rest, eq⟩, fun ⟨rest, eq⟩ => ⟨_, rest, eq, rfl⟩⟩

theorem unifyNewlines_eq_append_iff (h : Unbroken xs) :
    unifyNewlines cs = xs ++ ys ↔ ∃ rest, cs = xs ++ rest ∧ unifyNewlines rest = ys := by
  induction xs generalizing cs with
  | nil => exact ⟨fun eq => ⟨cs, rfl, eq⟩, fun ⟨_, eq, eq'⟩ => eq ▸ eq'⟩
  | cons x xs ih =>
    have more (cs : List Char) := @ih cs fun c hc => h c (List.mem_cons_of_mem x hc)
    rw [List.cons_append, unifyNewlines_eq_cons_iff (h x List.mem_cons_self)]
    constructor
    · rintro ⟨rest, rfl, eq⟩
      obtain ⟨rest', rfl, eq'⟩ := (more _).mp eq
      exact ⟨rest', rfl, eq'⟩
    · rintro ⟨rest, rfl, eq⟩
      exact ⟨xs ++ rest, rfl, (more _).mpr ⟨rest, rfl, eq⟩⟩

theorem unifyNewlines_append (h : Unbroken xs) (cs : List Char) :
    unifyNewlines (xs ++ cs) = xs ++ unifyNewlines cs :=
  (unifyNewlines_eq_append_iff h).mpr ⟨cs, rfl, rfl⟩

theorem dropWhile_unifyNewlines (h : p '\r' = p '\n') (cs : List Char) :
    (unifyNewlines cs).dropWhile p = unifyNewlines (cs.dropWhile p) := by
  fun_induction unifyNewlines cs with
  | case1 => rfl
  | case2 rest ih =>
    rw [List.dropWhile_cons, List.dropWhile_cons, h]
    split
    · next hp => rw [ih, List.dropWhile_cons, if_pos hp]
    · rw [unifyNewlines]
  | case3 c rest other ih =>
    have same : p (if c = '\r' then '\n' else c) = p c := by
      split
      · next hc => rw [hc, h]
      · rfl
    rw [List.dropWhile_cons, List.dropWhile_cons, same]
    split
    · exact ih
    · rw [unifyNewlines]
      exact other

theorem takeWhile_unifyNewlines (feed : p '\n' = false) (plain : p '\r' = false) (cs : List Char) :
    (unifyNewlines cs).takeWhile p = cs.takeWhile p := by
  fun_induction unifyNewlines cs with
  | case1 => rfl
  | case2 rest ih => simp [feed, plain]
  | case3 c rest other ih =>
    by_cases hc : c = '\r'
    · simp [hc, feed, plain]
    · rw [if_neg hc, List.takeWhile_cons, List.takeWhile_cons, ih]

/-! ## Lines -/

theorem linesFrom_unifyNewlines (current cs : List Char) :
    linesFrom current (unifyNewlines cs) = linesFrom current cs := by
  fun_induction linesFrom current cs with
  | case1 current none => rw [unifyNewlines, linesFrom, if_pos none]
  | case2 current some => rw [unifyNewlines, linesFrom, if_neg some]
  | case3 current rest ih => rw [unifyNewlines, linesFrom_break, ih]
  | case4 current c rest other ends ih =>
    rw [unifyNewlines]
    on_goal 2 => exact other
    split
    · rw [linesFrom_break, ih]
    · next hc => rw [linesFrom, if_pos ends, ih]; exact fun _ eq => absurd eq hc
  | case5 current c rest other goes ih =>
    have hc : c ≠ '\r' := by
      rintro rfl
      exact goes rfl
    rw [unifyNewlines_cons hc, linesFrom, if_neg goes, ih]
    exact fun _ eq => absurd eq hc

theorem lines_unifyNewlines (cs : List Char) : lines (unifyNewlines cs) = lines cs :=
  linesFrom_unifyNewlines [] cs

/-! ## Texts as they are held -/

theorem held_cons (c : Char) (cs : List Char) : (CodePoints.ofChars (c :: cs)).held =
    holdPoint c.toNat ++ (CodePoints.ofChars cs).held := rfl

/-- A character that does not hold itself has a mark before it. -/
theorem holdPoint_of_not_isOrdinary (h : isOrdinary c = false) :
    holdPoint c.toNat = [Char.ofNat 0x10F800, c] := by
  have h' : (isStandIn c || isMark c) = true := Bool.not_inj h
  rw [holdPoint, isSurrogate_toNat, if_neg Bool.false_ne_true, Char.ofNat_toNat]
  exact if_pos h'

theorem head?_of_head?_held (h : (CodePoints.ofChars cs).held.head? = some '\n') :
    cs.head? = some '\n' := by
  cases cs with
  | nil => cases h
  | cons c cs =>
    rw [held_cons] at h
    cases hc : isOrdinary c with
    | true => rwa [holdPoint_of_isOrdinary hc] at h
    | false =>
      rw [holdPoint_of_not_isOrdinary hc] at h
      exact absurd h (by simp)

theorem held_unifyNewlines (cs : List Char) :
    (CodePoints.ofChars (unifyNewlines cs)).held = unifyNewlines (CodePoints.ofChars cs).held := by
  have feed (cs) : (CodePoints.ofChars ('\n' :: cs)).held = '\n' :: (CodePoints.ofChars cs).held := by
    rw [held_cons, holdPoint_of_isOrdinary (by decide), List.singleton_append]
  have plain (cs) : (CodePoints.ofChars ('\r' :: cs)).held = '\r' :: (CodePoints.ofChars cs).held := by
    rw [held_cons, holdPoint_of_isOrdinary (by decide), List.singleton_append]
  fun_induction unifyNewlines cs with
  | case1 => rfl
  | case2 rest ih => rw [feed, plain, feed, unifyNewlines, ih]
  | case3 c rest other ih =>
    split
    · next hc =>
      subst hc
      rw [feed, plain, ih]
      rcases unifyNewlines_return (CodePoints.ofChars rest).held with ⟨_, first, -⟩ | ⟨-, eq⟩
      · obtain ⟨rest', eq⟩ := List.head?_eq_some_iff.mp
          (head?_of_head?_held (by rw [first, List.head?_cons]))
        exact (other rest' rfl eq).elim
      · exact eq.symm
    · next hc =>
      rw [held_cons, held_cons, ih]
      cases ordinary : isOrdinary c with
      | true =>
        rw [holdPoint_of_isOrdinary ordinary, List.singleton_append, List.singleton_append,
          unifyNewlines_cons hc]
      | false =>
        rw [holdPoint_of_not_isOrdinary ordinary, List.cons_append, List.singleton_append,
          List.cons_append, List.singleton_append, unifyNewlines_cons (by decide), unifyNewlines_cons hc]

/-- The line ends of a text are those of its characters. -/
theorem toList_ofChars_unifyNewlines (cs : List Char) :
    (ofChars (unifyNewlines cs)).toList = unifyNewlines (ofChars cs).toList := by
  rw [ofChars, CodePoints.text, String.toList_ofList, held_unifyNewlines, ofChars, CodePoints.text,
    String.toList_ofList]

end Walkthrough.Text
