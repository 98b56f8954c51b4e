import Mathlib.Data.List.Basic
import Walkthrough.Text.Blank

/-! The parts of a text between separators: no part holds the separator, and the text is the parts with the
separator between them. -/

namespace Walkthrough.Text

theorem not_mem_splitOnChar (sep : Char) (cs : List Char) :
    ∀ part ∈ splitOnChar sep cs, sep ∉ part := by
  induction cs with
  | nil => simp [splitOnChar]
  | cons c cs ih =>
    rw [splitOnChar]
    split
    · simpa using ih
    · next hc =>
      split
      · simpa using Ne.symm hc
      · next part parts hparts =>
        rw [hparts] at ih
        rw [List.forall_mem_cons] at ih ⊢
        exact ⟨List.not_mem_cons_of_ne_of_not_mem (Ne.symm hc) ih.1, ih.2⟩

theorem splitOnChar_ne_nil (sep : Char) (cs : List Char) : splitOnChar sep cs ≠ [] := by
  cases cs with
  | nil => nofun
  | cons c cs =>
    rw [splitOnChar]
    split
    · nofun
    · split <;> nofun

theorem intercalate_splitOnChar (sep : Char) (cs : List Char) :
    [sep].intercalate (splitOnChar sep cs) = cs := by
  induction cs with
  | nil => rfl
  | cons c cs ih =>
    obtain ⟨part, parts, hparts⟩ := List.exists_cons_of_ne_nil (splitOnChar_ne_nil sep cs)
    rw [hparts] at ih
    rw [splitOnChar, hparts]
    split
    · next hc =>
      rw [List.intercalate_cons_cons, ih, hc]
      rfl
    · cases parts with
      | nil =>
        rw [List.intercalate_singleton] at ih
        rw [List.intercalate_singleton, ih]
      | cons _ _ =>
        rw [List.intercalate_cons_cons] at ih
        rw [List.intercalate_cons_cons, ← ih]
        rfl

theorem splitOnChar_of_not_mem {sep : Char} {cs : List Char} (h : sep ∉ cs) :
    splitOnChar sep cs = [cs] := by
  induction cs with
  | nil => rfl
  | cons c cs ih =>
    obtain ⟨hc, hcs⟩ := List.ne_and_not_mem_of_not_mem_cons h
    rw [splitOnChar, if_neg (Ne.symm hc), ih hcs]

/-- A separator parts what stands before it from what stands after it. -/
theorem splitOnChar_append (sep : Char) (cs ds : List Char) :
    splitOnChar sep (cs ++ sep :: ds) = splitOnChar sep cs ++ splitOnChar sep ds := by
  induction cs with
  | nil =>
    show splitOnChar sep (sep :: ds) = [] :: splitOnChar sep ds
    rw [splitOnChar, if_pos rfl]
  | cons c cs ih =>
    rw [List.cons_append, splitOnChar, splitOnChar, ih]
    split
    · rfl
    · obtain ⟨part, parts, hparts⟩ := List.exists_cons_of_ne_nil (splitOnChar_ne_nil sep cs)
      rw [hparts]
      rfl

end Walkthrough.Text
