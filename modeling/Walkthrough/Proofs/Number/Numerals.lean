import Walkthrough.Number.Shortest
import Walkthrough.Proofs.Text.Proper

/-! Numerals, the texts of numbers. They are made of digits, signs, points and a few small letters, and
so they are proper texts. -/

namespace Walkthrough

open Text

namespace Number

variable {c : Char} {ds : List Char}

/-- A character of a numeral; the letters are those of exponents, `inf` and `nan`. -/
def isNumeral (c : Char) : Bool :=
  c.isDigit || c ∈ ['+', '-', '.', 'a', 'e', 'f', 'i', 'n']

theorem isOrdinary_of_isNumeral (h : isNumeral c = true) : isOrdinary c = true := by
  rcases Bool.or_eq_true_iff.mp h with hd | hl
  · refine isOrdinary_of_toNat_lt ?_
    have hd : c.val.toNat ≤ 57 := (Bool.and_eq_true_iff.mp hd).2 |> of_decide_eq_true
    exact Nat.lt_of_le_of_lt hd (by decide)
  · have letters : ∀ c ∈ ['+', '-', '.', 'a', 'e', 'f', 'i', 'n'], isOrdinary c = true := by decide
    exact letters c (of_decide_eq_true hl)

/-! ## Doubles -/

theorem isNumeral_of_mem_toDigits {n : Nat} (h : c ∈ Nat.toDigits 10 n) : isNumeral c = true := by
  rw [isNumeral, Nat.isDigit_of_mem_toDigits (by decide) (by decide) h]
  rfl

theorem isNumeral_of_mem_replicate {n : Nat} (h : c ∈ List.replicate n '0') : isNumeral c = true := by
  rw [List.eq_of_mem_replicate h]
  decide

theorem mem_of_mem_dropTrailingZeros (h : c ∈ dropTrailingZeros ds) : c ∈ ds :=
  List.mem_reverse.mp ((List.dropWhile_suffix _).subset (List.mem_reverse.mp h))

theorem isNumeral_of_mem_positional {p : Int} (hd : ∀ c ∈ ds, isNumeral c = true)
    (h : c ∈ positional ds p) : isNumeral c = true := by
  have point : isNumeral '.' = true := by decide
  have zero : isNumeral '0' = true := by decide
  unfold positional at h
  split at h
  · simp only [List.mem_cons, List.mem_append] at h
    obtain rfl | rfl | h | h := h
    · exact zero
    · exact point
    · exact isNumeral_of_mem_replicate h
    · exact hd c h
  split at h
  · simp only [List.mem_cons, List.mem_append, List.not_mem_nil, or_false] at h
    obtain (h | h) | rfl | rfl := h
    · exact hd c h
    · exact isNumeral_of_mem_replicate h
    · exact point
    · exact zero
  · simp only [List.mem_cons, List.mem_append] at h
    obtain h | rfl | h := h
    · exact hd c (List.mem_of_mem_take h)
    · exact point
    · exact hd c (List.mem_of_mem_drop h)

theorem isNumeral_of_mem_scientific {p : Int} (hd : ∀ c ∈ ds, isNumeral c = true)
    (h : c ∈ scientific ds p) : isNumeral c = true := by
  have exponent : ∀ {n : Nat}, c ∈ Nat.toDigits 10 n → isNumeral c = true := isNumeral_of_mem_toDigits
  rcases List.mem_append.mp h with h | h
  · split at h
    · cases h
    · exact hd c h
    · simp only [List.mem_cons] at h
      obtain rfl | rfl | h := h
      · exact hd c List.mem_cons_self
      · decide
      · exact hd c (List.mem_cons_of_mem _ h)
  · simp only [List.mem_cons] at h
    obtain rfl | rfl | h := h
    · decide
    · split <;> decide
    · split at h
      · rcases List.mem_cons.mp h with rfl | h
        · decide
        · exact exponent h
      · exact exponent h

theorem isNumeral_of_mem_magnitude {m : Nat} {e : Int} (h : c ∈ magnitude m e) :
    isNumeral c = true := by
  have zero : ∀ c ∈ ['0', '.', '0'], isNumeral c = true := by decide
  have digits : ∀ c ∈ dropTrailingZeros (Nat.toDigits 10 (shortest m e).1), isNumeral c = true :=
    fun c hc => isNumeral_of_mem_toDigits (mem_of_mem_dropTrailingZeros hc)
  unfold magnitude at h
  split at h
  · exact zero c h
  · dsimp only at h
    split at h
    · exact isNumeral_of_mem_positional digits h
    · exact isNumeral_of_mem_scientific digits h

end Number

/-- A text all of whose characters are those of numerals. -/
def Text.Numeral (s : String) : Prop := ∀ c ∈ s.toList, Number.isNumeral c = true

namespace Text.Numeral

variable {s : String}

theorem proper (h : Numeral s) : Proper s := by
  rw [← String.ofList_toList (s := s)]
  exact .of_isOrdinary fun c hc => Number.isOrdinary_of_isNumeral (h c hc)

theorem nat (n : Nat) : Numeral (toString n) := by
  rw [Nat.toString_eq_ofList_toDigits, Numeral, String.toList_ofList]
  exact fun _ => Number.isNumeral_of_mem_toDigits

theorem int (n : Int) : Numeral (toString n) := by
  rw [Int.toString_eq_repr, Int.repr_eq_if]
  split
  · exact nat _
  · intro c hc
    rw [String.toList_append] at hc
    rcases List.mem_append.mp hc with hc | hc
    · exact (by decide : ∀ c ∈ "-".toList, Number.isNumeral c = true) c hc
    · exact nat _ c hc

theorem float (x : Binary64) : Numeral x.text := by
  cases x with
  | nan => exact (by decide : ∀ c ∈ "nan".toList, Number.isNumeral c = true)
  | infinite negative =>
    cases negative
    · exact (by decide : ∀ c ∈ "inf".toList, Number.isNumeral c = true)
    · exact (by decide : ∀ c ∈ "-inf".toList, Number.isNumeral c = true)
  | finite negative m e =>
    rw [Binary64.text, Numeral, String.toList_ofList]
    intro c hc
    rcases List.mem_append.mp hc with hc | hc
    · split at hc
      · rw [List.mem_singleton.mp hc]
        decide
      · cases hc
    · exact Number.isNumeral_of_mem_magnitude hc

end Text.Numeral

theorem Text.Proper.isWhole {s : String} (h : Text.Proper s) : Text.isWhole s = true := by
  obtain ⟨cs, rfl⟩ := h
  rw [Text.isWhole, points_ofChars, Bool.not_eq_true', List.any_eq_false]
  intro n hn
  obtain ⟨c, -, rfl⟩ := List.mem_map.mp hn
  rw [isSurrogate_toNat]
  exact Bool.false_ne_true

end Walkthrough
