import Walkthrough.Proofs.Basic
import Walkthrough.Text.LetterCase

/-! Texts whose lower case is a word of small ASCII letters. No letter beyond ASCII has a small ASCII
letter as its lower case, `k` and the dotted `i` left aside; so a text has such a word as its lower
case only if it spells the word in small and capital ASCII letters (`lower_eq_iff`). Of any text, the
lower case is that of its ASCII letters only if no other letter has one (`lower_eq_map_toLower_iff`). -/

namespace Walkthrough.Text

/-- The runs that lead from ASCII to ASCII, or from a code point beyond ASCII to one beyond it, the
Kelvin sign apart. -/
private def staysBeyond (r : CaseRun) : Bool :=
  r.last < 0x80 || (r.first == 0x212A && r.last == 0x212A) || 0x80 ≤ (r.first : Int) + r.offset

private theorem all_staysBeyond : lowerRuns.all staysBeyond = true := by decide +kernel

private theorem le_lowerCode {n : Nat} (hn : 0x80 ≤ n) (hk : n ≠ 0x212A) {runs : List CaseRun}
    (h : runs.all staysBeyond = true) : 0x80 ≤ lowerCode n runs := by
  induction runs with
  | nil => exact hn
  | cons r runs ih =>
    rw [List.all_cons, Bool.and_eq_true] at h
    rw [lowerCode]
    split
    · exact hn
    split
    · next hlo hhi =>
      simp only [Bool.and_eq_true, decide_eq_true_eq] at hhi
      have hr := h.1
      simp only [staysBeyond, Bool.or_eq_true, Bool.and_eq_true, decide_eq_true_eq, beq_iff_eq] at hr
      omega
    · exact ih h.2

/-- A letter of an ASCII word that only ASCII letters have as their lower case. -/
def IsPlainSmall (c : Char) : Prop := c.toNat < 0x80 ∧ c.toNat ≠ 0 ∧ c ≠ 'i' ∧ c ≠ 'k'

instance (c : Char) : Decidable (IsPlainSmall c) :=
  inferInstanceAs (Decidable (_ ∧ _ ∧ _ ∧ _))

private theorem ofNat_ne {m : Nat} {d : Char} (hd : IsPlainSmall d) (hm : 0x80 ≤ m) :
    Char.ofNat m ≠ d := by
  rintro rfl
  by_cases hv : m.isValidChar
  · have : (Char.ofNat m).toNat = m := by rw [Char.ofNat, dif_pos hv]; rfl
    have := hd.1
    omega
  · have : (Char.ofNat m).toNat = 0 := by rw [Char.ofNat, dif_neg hv]; rfl
    exact hd.2.1 this

theorem toLower_of_le {c : Char} (hc : 0x80 ≤ c.toNat) : c.toLower = c := by
  delta Char.toLower
  rw [dif_neg]
  rintro ⟨-, h⟩
  have : c.toNat ≤ 90 := h
  omega

/-- The lower case of a character has a first character, and this is a plain small letter only if
the character is that letter or its capital. -/
private theorem lowerFrom_cons (before rest : List Char) (c : Char) :
    ∃ e more, lowerFrom before (c :: rest) = e :: (more ++ lowerFrom (c :: before) rest) ∧
      ∀ d, IsPlainSmall d → (e = d ↔ c.toLower = d) ∧ (e = d → more = []) := by
  rw [lowerFrom]
  by_cases hs : c.toNat = 0x3A3
  · rw [if_pos (by simpa using hs)]
    refine ⟨_, [], rfl, fun d hd => ⟨?_, fun _ => rfl⟩⟩
    rw [toLower_of_le (by omega)]
    constructor
    · intro h
      split at h <;> exact absurd h (ofNat_ne hd (by decide))
    · rintro rfl
      exact absurd hd.1 (by omega)
  rw [if_neg (by simpa using hs), lowerChar]
  by_cases ha : c.toNat < 0x80
  · rw [if_pos ha]
    exact ⟨_, [], rfl, fun d _ => ⟨.rfl, fun _ => rfl⟩⟩
  rw [if_neg ha]
  have hc : c.toLower = c := toLower_of_le (by omega)
  have hne : ∀ d, IsPlainSmall d → c ≠ d := fun d hd h => ha (h ▸ hd.1)
  by_cases hi : c.toNat = 0x130
  · rw [if_pos (by simpa using hi)]
    refine ⟨'i', [Char.ofNat 0x307], rfl, fun d hd => ?_⟩
    have hd' : 'i' ≠ d := fun h => hd.2.2.1 h.symm
    rw [hc]
    exact ⟨⟨fun h => absurd h hd', fun h => absurd h (hne d hd)⟩, fun h => absurd h hd'⟩
  rw [if_neg (by simpa using hi)]
  refine ⟨_, [], rfl, fun d hd => ⟨?_, fun _ => rfl⟩⟩
  rw [hc]
  refine ⟨fun h => absurd h ?_, fun h => absurd h (hne d hd)⟩
  by_cases hk : c.toNat = 0x212A
  · have hl : lowerCode 0x212A lowerRuns = 0x6B := by decide +kernel
    rw [hk, hl]
    exact fun h => hd.2.2.2 h.symm
  · exact ofNat_ne hd (le_lowerCode (by omega) hk all_staysBeyond)

private theorem lowerFrom_eq_iff {before cs w : List Char} (hw : ∀ d ∈ w, IsPlainSmall d) :
    lowerFrom before cs = w ↔ cs.map Char.toLower = w := by
  induction cs generalizing before w with
  | nil => rfl
  | cons c cs ih =>
    obtain ⟨e, more, he, hd⟩ := lowerFrom_cons before cs c
    rw [he, List.map_cons]
    cases w with
    | nil => simp
    | cons d w =>
      obtain ⟨hed, hmore⟩ := hd d (hw d List.mem_cons_self)
      have hw' : ∀ d ∈ w, IsPlainSmall d := fun d h => hw d (List.mem_cons_of_mem _ h)
      constructor
      · intro h
        obtain ⟨h1, h2⟩ := List.cons.inj h
        rw [hmore h1, List.nil_append, ih hw'] at h2
        rw [hed.mp h1, h2]
      · intro h
        obtain ⟨h1, h2⟩ := List.cons.inj h
        rw [hmore (hed.mpr h1), List.nil_append, hed.mpr h1, (ih hw').mpr h2]

/-- A text has a word of plain small letters as its lower case iff it spells the word in any mixture
of small and capital letters. -/
theorem lower_eq_iff {s : String} {w : List Char} (hw : ∀ d ∈ w, IsPlainSmall d) :
    lower s = .ofList w ↔ s.toList.map Char.toLower = w := by
  rw [lower, String.ofList_inj, lowerFrom_eq_iff hw]

/-- The characters beyond ASCII that lower case leaves as they are. -/
def IsCaseless (c : Char) : Prop := 0x80 ≤ c.toNat → lowerChar c = [c]

instance (c : Char) : Decidable (IsCaseless c) := inferInstanceAs (Decidable (_ → _))

/-- Beyond ASCII, the lower case of a character begins with the character itself only if this is all of
it. -/
private theorem lowerFrom_cons_beyond (before rest : List Char) {c : Char} (hc : 0x80 ≤ c.toNat) :
    ∃ e more, lowerFrom before (c :: rest) = e :: (more ++ lowerFrom (c :: before) rest) ∧
      (e = c ↔ lowerChar c = [c]) ∧ (e = c → more = []) := by
  rw [lowerFrom]
  by_cases hs : c = 'Σ'
  · subst hs
    rw [if_pos (by decide)]
    refine ⟨_, [], rfl, ⟨fun h => ?_, fun h => absurd h (by decide +kernel)⟩, fun _ => rfl⟩
    split at h <;> exact absurd h (by decide)
  have hn : c.toNat ≠ 0x3A3 := fun h => hs (Char.toNat_inj.mp h)
  rw [if_neg (by simpa using hn), lowerChar, if_neg (by omega)]
  by_cases hi : c.toNat = 0x130
  · rw [if_pos (by simpa using hi)]
    have ne : 'i' ≠ c := by
      rintro rfl
      exact absurd hi (by decide)
    exact ⟨'i', [Char.ofNat 0x307], rfl, ⟨fun h => absurd h ne, fun h => absurd h (by simp)⟩,
      fun h => absurd h ne⟩
  · rw [if_neg (by simpa using hi)]
    exact ⟨_, [], rfl, List.singleton_inj.symm, fun _ => rfl⟩

private theorem lowerFrom_eq_map_toLower_iff {before cs : List Char} :
    lowerFrom before cs = cs.map Char.toLower ↔ ∀ c ∈ cs, IsCaseless c := by
  induction cs generalizing before with
  | nil => exact iff_of_true rfl nofun
  | cons c cs ih =>
    rw [List.map_cons, List.forall_mem_cons]
    by_cases hc : c.toNat < 0x80
    · have first : lowerFrom before (c :: cs) = c.toLower :: lowerFrom (c :: before) cs := by
        have : c.toNat ≠ 0x3A3 := by omega
        rw [lowerFrom, if_neg (by simpa using this), lowerChar, if_pos hc]
        rfl
      have caseless : IsCaseless c := fun h => absurd hc (by omega)
      rw [first, List.cons_inj_right, ih, and_iff_right caseless]
    · have hc : 0x80 ≤ c.toNat := by omega
      obtain ⟨e, more, eq, iff, whole⟩ := lowerFrom_cons_beyond before cs hc
      have caseless : IsCaseless c ↔ e = c := (forall_prop_of_true hc).trans iff.symm
      rw [eq, toLower_of_le hc, List.cons_eq_cons, caseless]
      refine and_congr_right fun he => ?_
      rw [whole he, List.nil_append, ih]

/-- Lower case changes nothing but ASCII letters iff no other character of the text has a lower case. -/
theorem lower_eq_map_toLower_iff (s : String) :
    lower s = .ofList (s.toList.map Char.toLower) ↔ ∀ c ∈ s.toList, IsCaseless c := by
  rw [lower, String.ofList_inj, lowerFrom_eq_map_toLower_iff]

end Walkthrough.Text
