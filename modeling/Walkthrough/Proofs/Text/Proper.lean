import Walkthrough.Proofs.Basic
import Walkthrough.Text.Quoted
import Walkthrough.Text.Utf8
import Mathlib.Data.List.TakeWhile

/-! Proper texts are those that characters make: no surrogate stands alone in them. They can be written
to files, and what messages put together from proper texts is proper again. What is quoted is proper
whatever it was before. -/

namespace Walkthrough.Text

variable {s t : String} {cs ds : List Char} {c : Char} {n : Nat}

/-- A text that characters make. -/
def Proper (s : String) : Prop := ∃ cs : List Char, s = ofChars cs

/-- A character that holds itself. -/
def isOrdinary (c : Char) : Bool := !(isStandIn c || isMark c)

theorem isSurrogate_toNat (c : Char) : isSurrogate c.toNat = false := by
  have : c.toNat.isValidChar := c.valid
  unfold isSurrogate
  unfold Nat.isValidChar at this
  simp only [Bool.and_eq_false_imp, decide_eq_true_eq, decide_eq_false_iff_not]
  omega

theorem held_ofChars_append (cs ds : List Char) :
    (CodePoints.ofChars (cs ++ ds)).held =
      (CodePoints.ofChars cs).held ++ (CodePoints.ofChars ds).held := by
  rw [CodePoints.ofChars, List.map_append, CodePoints.held, List.flatMap_append]
  rfl

theorem ofChars_append (cs ds : List Char) : ofChars (cs ++ ds) = ofChars cs ++ ofChars ds := by
  rw [ofChars, CodePoints.text, held_ofChars_append, String.ofList_append]
  rfl

theorem holdPoint_of_isOrdinary (h : isOrdinary c = true) : holdPoint c.toNat = [c] := by
  have h' : (isStandIn c || isMark c) = false := by simpa [isOrdinary] using h
  rw [holdPoint, isSurrogate_toNat, if_neg Bool.false_ne_true, Char.ofNat_toNat]
  exact if_neg (Bool.not_eq_true _ ▸ h')

theorem ofChars_of_isOrdinary (h : ∀ c ∈ cs, isOrdinary c = true) : ofChars cs = String.ofList cs := by
  have : (CodePoints.ofChars cs).held = cs := by
    induction cs with
    | nil => rfl
    | cons c cs ih =>
      have hc := holdPoint_of_isOrdinary (h c List.mem_cons_self)
      have ih := ih fun d hd => h d (List.mem_cons_of_mem c hd)
      rw [CodePoints.ofChars, CodePoints.held] at ih ⊢
      rw [List.map_cons, List.flatMap_cons, hc, ih, List.singleton_append]
  rw [ofChars, CodePoints.text, this]

theorem points_ofChars (cs : List Char) : points (ofChars cs).toList = cs.map Char.toNat := by
  rw [ofChars, CodePoints.text, String.toList_ofList]
  refine points_held fun n hn => ?_
  obtain ⟨c, _, rfl⟩ := List.mem_map.mp hn
  exact .inl c.valid

namespace Proper

theorem append (hs : Proper s) (ht : Proper t) : Proper (s ++ t) := by
  obtain ⟨cs, rfl⟩ := hs
  obtain ⟨ds, rfl⟩ := ht
  exact ⟨cs ++ ds, (ofChars_append cs ds).symm⟩

theorem of_isOrdinary (h : ∀ c ∈ cs, isOrdinary c = true) : Proper (String.ofList cs) :=
  ⟨cs, (ofChars_of_isOrdinary h).symm⟩

/-- The texts of the program itself are proper. -/
theorem literal (h : s.toList.all isOrdinary = true) : Proper s := by
  rw [← String.ofList_toList (s := s)]
  exact of_isOrdinary (List.all_eq_true.mp h)

/-- A text between two texts of the program. -/
theorem around {before after : String} (hb : before.toList.all isOrdinary = true) (hs : Proper s)
    (ha : after.toList.all isOrdinary = true) : Proper (before ++ s ++ after) :=
  ((literal hb).append hs).append (literal ha)

theorem join {ss : List String} (h : ∀ s ∈ ss, Proper s) : Proper (String.join ss) := by
  induction ss with
  | nil => exact literal rfl
  | cons s ss ih =>
    rw [String.join_cons]
    exact (h s List.mem_cons_self).append (ih fun t ht => h t (List.mem_cons_of_mem s ht))

end Proper

/-! ## Numbers -/

theorem isOrdinary_of_toNat_lt (h : c.toNat < 0x10F000) : isOrdinary c = true := by
  have h₁ : ¬ 0x10F000 ≤ c.toNat := by omega
  have h₂ : c.toNat ≠ 0x10F800 := by omega
  simp [isOrdinary, isStandIn, isMark, h₁, h₂]

theorem isOrdinary_digitChar (n : Nat) : isOrdinary n.digitChar = true := by
  have : ∀ m < 16, isOrdinary m.digitChar = true := by decide
  by_cases h : n < 16
  · exact this n h
  · have hn : n.digitChar = '*' := by
      simp (disch := omega) only [Nat.digitChar, if_neg]
    rw [hn]
    decide

theorem isOrdinary_of_mem_toDigitsCore {b fuel : Nat} (h : ∀ c ∈ cs, isOrdinary c = true)
    (hc : c ∈ Nat.toDigitsCore b fuel n cs) : isOrdinary c = true := by
  induction fuel generalizing n cs with
  | zero => exact h c hc
  | succ fuel ih =>
    have hd : ∀ c ∈ (n % b).digitChar :: cs, isOrdinary c = true := fun c hc => by
      rcases List.mem_cons.mp hc with rfl | hc
      · exact isOrdinary_digitChar _
      · exact h c hc
    rw [Nat.toDigitsCore] at hc
    split at hc
    · exact hd c hc
    · exact ih hd hc

theorem isOrdinary_of_mem_toDigits {b : Nat} (h : c ∈ Nat.toDigits b n) : isOrdinary c = true :=
  isOrdinary_of_mem_toDigitsCore (fun _ hc => absurd hc List.not_mem_nil) h

theorem isOrdinary_of_mem_padLeft {w : Nat} (h : ∀ c ∈ cs, isOrdinary c = true)
    (hc : c ∈ padLeft w cs) : isOrdinary c = true := by
  rcases List.mem_append.mp hc with hc | hc
  · rw [List.eq_of_mem_replicate hc]
    decide
  · exact h c hc

theorem isOrdinary_of_mem_signedPadded {w : Nat} {i : Int} (h : c ∈ signedPadded w i) :
    isOrdinary c = true := by
  have hd : ∀ c ∈ decimal i.natAbs, isOrdinary c = true := fun _ => isOrdinary_of_mem_toDigits
  unfold signedPadded at h
  split at h
  · rcases List.mem_cons.mp h with rfl | h
    · decide
    · exact isOrdinary_of_mem_padLeft hd h
  · exact isOrdinary_of_mem_padLeft hd h

theorem Proper.nat (n : Nat) : Proper (toString n) := by
  rw [Nat.toString_eq_ofList_toDigits]
  exact .of_isOrdinary fun _ => isOrdinary_of_mem_toDigits

theorem Proper.int (i : Int) : Proper (toString i) := by
  rw [Int.toString_eq_repr, Int.repr_eq_if]
  split
  · exact .nat _
  · exact .append (.literal rfl) (.nat _)

/-! ## Quoted texts -/

theorem inRanges_append {rs : List (Nat × Nat)} (h : ∀ r ∈ rs, r.2 < n) (rs' : List (Nat × Nat)) :
    inRanges n (rs ++ rs') = inRanges n rs' := by
  induction rs with
  | nil => rfl
  | cons r rs ih =>
    have hr : ¬ n ≤ r.2 := Nat.not_le.mpr (h r List.mem_cons_self)
    rw [List.cons_append, inRanges, if_neg hr]
    exact ih fun r' hr' => h r' (List.mem_cons_of_mem r hr')

/-- What is neither a stand-in nor a mark is all that is shown as itself: the last plane is for private
use. -/
theorem isOrdinary_of_isPrintable (h : isPrintable c = true) : isOrdinary c = true := by
  refine isOrdinary_of_toNat_lt (Nat.lt_of_not_le fun hc => ?_)
  have hr : unprintableRanges = unprintableRanges.dropLast ++ [(0xE01F0, 0x10FFFF)] := by
    decide +kernel
  have hlow : ∀ r ∈ unprintableRanges.dropLast, r.2 < 0x10F000 := by decide +kernel
  have hmax : c.toNat ≤ 0x10FFFF := by
    have : c.toNat.isValidChar := c.valid
    unfold Nat.isValidChar at this
    omega
  rw [isPrintable, if_neg (by omega), hr,
    inRanges_append fun r hr => Nat.lt_of_lt_of_le (hlow r hr) hc, inRanges, if_pos hmax] at h
  simp at h
  omega

theorem isOrdinary_delimiter (cs : List Char) : isOrdinary (delimiter cs) = true := by
  unfold delimiter
  split <;> decide

theorem isOrdinary_of_mem_hexPadded {w : Nat} (h : c ∈ hexPadded w n) : isOrdinary c = true :=
  isOrdinary_of_mem_padLeft (fun _ => isOrdinary_of_mem_toDigits) h

theorem isOrdinary_of_mem_quoteChar {mark d : Char} (hm : isOrdinary mark = true)
    (h : c ∈ quoteChar mark d) : isOrdinary c = true := by
  have escaped : ∀ {e : Char} {w : Nat}, isOrdinary e = true →
      c ∈ '\\' :: e :: hexPadded w d.toNat → isOrdinary c = true := fun he h => by
    rcases List.mem_cons.mp h with rfl | h
    · decide
    · rcases List.mem_cons.mp h with rfl | h
      · exact he
      · exact isOrdinary_of_mem_hexPadded h
  unfold quoteChar at h
  split at h
  case isTrue hd =>
    have hd : d = mark ∨ d = '\\' := by simpa using hd
    rcases List.mem_cons.mp h with rfl | h
    · decide
    · rw [List.mem_singleton.mp h]
      rcases hd with rfl | rfl
      · exact hm
      · decide
  repeat' split at h
  · exact (by decide : ∀ c ∈ ['\\', 'n'], isOrdinary c = true) c h
  · exact (by decide : ∀ c ∈ ['\\', 'r'], isOrdinary c = true) c h
  · exact (by decide : ∀ c ∈ ['\\', 't'], isOrdinary c = true) c h
  · rw [List.mem_singleton.mp h]
    exact isOrdinary_of_isPrintable ‹_›
  · exact escaped (by decide) h
  · exact escaped (by decide) h
  · exact escaped (by decide) h

theorem isOrdinary_of_mem_quotePoint {mark : Char} (hm : isOrdinary mark = true)
    (h : c ∈ quotePoint mark n) : isOrdinary c = true := by
  unfold quotePoint at h
  split at h
  · rcases List.mem_cons.mp h with rfl | h
    · decide
    · rcases List.mem_cons.mp h with rfl | h
      · decide
      · exact isOrdinary_of_mem_hexPadded h
  · exact isOrdinary_of_mem_quoteChar hm h

theorem Proper.quoted (s : String) : Proper (quoted s) := by
  have hm := isOrdinary_delimiter s.toList
  refine of_isOrdinary fun c hc => ?_
  rcases List.mem_cons.mp hc with rfl | hc
  · exact hm
  · rcases List.mem_append.mp hc with hc | hc
    · obtain ⟨n, _, hc⟩ := List.mem_flatMap.mp hc
      exact isOrdinary_of_mem_quotePoint hm hc
    · rw [List.mem_singleton.mp hc]
      exact hm

theorem Proper.intercalate {ss : List String} (ht : Proper t) (h : ∀ s ∈ ss, Proper s) :
    Proper (t.intercalate ss) := by
  induction ss with
  | nil =>
    rw [String.intercalate_nil]
    exact .literal rfl
  | cons s ss ih =>
    have hs := h s List.mem_cons_self
    have ih := ih fun u hu => h u (List.mem_cons_of_mem s hu)
    cases ss with
    | nil => rwa [String.intercalate_singleton]
    | cons u ss =>
      rw [String.intercalate_cons_cons]
      exact (hs.append ht).append ih

theorem Proper.quotedList (ss : List String) : Proper (quotedList ss) := by
  refine .append (.append (.literal rfl) (.intercalate (.literal rfl) fun s hs => ?_)) (.literal rfl)
  obtain ⟨s, _, rfl⟩ := List.mem_map.mp hs
  exact .quoted s

/-! ## Writing -/

theorem unwritable?_eq_none {ns : CodePoints} (h : ∀ n ∈ ns, isSurrogate n = false) :
    Utf8.unwritable? ns = none := by
  have : ns.takeWhile (fun n => !isSurrogate n) = ns :=
    List.takeWhile_eq_self_iff.mpr fun n hn => by rw [h n hn]; rfl
  rw [Utf8.unwritable?, this, List.drop_length]
  rfl

theorem Proper.encodeText (h : Proper s) : ∃ bytes, Utf8.encodeText s = .ok bytes := by
  obtain ⟨cs, rfl⟩ := h
  have : ∀ n ∈ cs.map Char.toNat, isSurrogate n = false := fun n hn => by
    obtain ⟨c, _, rfl⟩ := List.mem_map.mp hn
    exact isSurrogate_toNat c
  rw [Utf8.encodeText, points_ofChars, unwritable?_eq_none this]
  exact ⟨_, rfl⟩

theorem Proper.encodeTexts {ss : List String} (h : ∀ s ∈ ss, Proper s) :
    (Utf8.encodeTexts ss).2 = none := by
  induction ss with
  | nil => rfl
  | cons s ss ih =>
    obtain ⟨bytes, hs⟩ := (h s List.mem_cons_self).encodeText
    rw [Utf8.encodeTexts, hs]
    exact ih fun t ht => h t (List.mem_cons_of_mem s ht)

end Walkthrough.Text
