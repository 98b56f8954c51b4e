import Mathlib.Data.UInt
import Walkthrough.Proofs.Text.Proper
import Walkthrough.Text.Utf8

/-! UTF-8 loses nothing: what is encoded of characters is decoded to them again (`decode_encode`). -/

namespace Walkthrough.Text.Utf8

variable {b lo hi : UInt8} {bs rest : List UInt8} {pos n acc taken : Nat}

/-! ## Decoding -/

/-- Bytes that belong to the character before. -/
theorem decodeFrom_skip (pos : Nat) (bs rest : List UInt8) :
    decodeFrom pos bs.length (bs ++ rest) = decodeFrom (pos + bs.length) 0 rest := by
  induction bs generalizing pos with
  | nil => rfl
  | cons b bs ih =>
    rw [List.length_cons, List.cons_append, decodeFrom, ih, Nat.add_assoc, Nat.add_comm 1]

theorem decodeFrom_ascii (h : b < 0x80) :
    decodeFrom pos 0 (b :: rest) = (decodeFrom (pos + 1) 0 rest).map (Char.ofNat b.toNat :: ·) := by
  rw [decodeFrom, if_pos h]

/-- The byte leads so many others, the first of them within bounds, and holds some bits itself. -/
structure Leads (b lo hi : UInt8) (more bits : Nat) : Prop where
  high : ¬ b < 0x80
  continued : continuation b = some (lo, hi, more)
  bits : leadBits b more = bits

instance (b lo hi : UInt8) (more bits : Nat) : Decidable (Leads b lo hi more bits) :=
  decidable_of_iff (¬ b < 0x80 ∧ continuation b = some (lo, hi, more) ∧ leadBits b more = bits)
    ⟨fun ⟨high, continued, bits⟩ => ⟨high, continued, bits⟩, fun h => ⟨h.high, h.continued, h.bits⟩⟩

/-- A leading byte and those that continue it. -/
theorem Leads.decodeFrom (bs : List UInt8) (h : Leads b lo hi bs.length acc)
    (continued : tail lo hi acc 1 bs.length (bs ++ rest) = .ok n) :
    decodeFrom pos 0 (b :: (bs ++ rest)) =
      (decodeFrom (pos + 1 + bs.length) 0 rest).map (Char.ofNat n :: ·) := by
  rw [Utf8.decodeFrom, if_neg h.high, h.continued]
  dsimp only
  rw [h.bits, continued]
  dsimp only
  rw [decodeFrom_skip]

theorem tail_cons (low : lo ≤ b) (high : b ≤ hi) :
    tail lo hi acc taken (n + 1) (b :: rest) =
      tail 0x80 0xBF (acc * 64 + (b.toNat - 0x80)) (taken + 1) n rest := by
  rw [tail, if_pos (by simp [low, high])]

/-! ## Encoding -/

theorem toNat_toUInt8 (h : n < 256) : n.toUInt8.toNat = n := by
  simp [Nat.toUInt8, Nat.mod_eq_of_lt h]

theorem leads_one : ∀ x < 32, 2 ≤ x → Leads (0xC0 + x).toUInt8 0x80 0xBF 1 x := by
  decide

theorem leads_two : ∀ x < 16, Leads (0xE0 + x).toUInt8 (if x = 0 then 0xA0 else 0x80)
    (if x = 13 then 0x9F else 0xBF) 2 x := by
  decide

theorem leads_three : ∀ x < 5, Leads (0xF0 + x).toUInt8 (if x = 0 then 0x90 else 0x80)
    (if x = 4 then 0x8F else 0xBF) 3 x := by
  decide

/-- Six bits in a byte that continues. -/
theorem tail_six {y : Nat} (h : y < 64) (low : lo.toNat ≤ 0x80 + y) (high : 0x80 + y ≤ hi.toNat) :
    tail lo hi acc taken (n + 1) ((0x80 + y).toUInt8 :: rest) =
      tail 0x80 0xBF (acc * 64 + y) (taken + 1) n rest := by
  have byte : (0x80 + y).toUInt8.toNat = 0x80 + y := toNat_toUInt8 (by omega)
  rw [tail_cons (by rwa [UInt8.le_iff_toNat_le, byte]) (by rwa [UInt8.le_iff_toNat_le, byte]), byte,
    Nat.add_sub_cancel_left]

theorem tail_any_six {y : Nat} (h : y < 64) :
    tail 0x80 0xBF acc taken (n + 1) ((0x80 + y).toUInt8 :: rest) =
      tail 0x80 0xBF (acc * 64 + y) (taken + 1) n rest :=
  tail_six h (Nat.le_add_right 0x80 y) (by change 0x80 + y ≤ 0xBF; omega)

variable {w x y z : Nat}

theorem decodeFrom_two (hx : x < 32) (long : 2 ≤ x) (hy : y < 64) :
    decodeFrom pos 0 ([(0xC0 + x).toUInt8, (0x80 + y).toUInt8] ++ rest) =
      (decodeFrom (pos + 2) 0 rest).map (Char.ofNat (x * 64 + y) :: ·) := by
  refine (leads_one x hx long).decodeFrom [_] ?_
  show tail _ _ _ 1 (0 + 1) (_ :: rest) = _
  rw [tail_any_six hy, tail]

/-- The second byte shows that two bytes are too few, and that a surrogate is not meant. -/
theorem decodeFrom_three (hx : x < 16) (hy : y < 64) (hz : z < 64) (long : x = 0 → 32 ≤ y)
    (whole : x = 13 → y < 32) :
    decodeFrom pos 0 ([(0xE0 + x).toUInt8, (0x80 + y).toUInt8, (0x80 + z).toUInt8] ++ rest) =
      (decodeFrom (pos + 3) 0 rest).map (Char.ofNat ((x * 64 + y) * 64 + z) :: ·) := by
  refine (leads_two x hx).decodeFrom [_, _] ?_
  have low : (if x = 0 then (0xA0 : UInt8) else 0x80).toNat ≤ 0x80 + y := by
    split
    · change 0xA0 ≤ _
      omega
    · exact Nat.le_add_right 0x80 _
  have high : 0x80 + y ≤ (if x = 13 then (0x9F : UInt8) else 0xBF).toNat := by
    split
    · change _ ≤ 0x9F
      omega
    · change _ ≤ 0xBF
      omega
  show tail _ _ _ 1 (1 + 1) (_ :: _ :: rest) = _
  rw [tail_six hy low high, tail_any_six hz, tail]

/-- The second byte shows that three bytes are too few, and that the character is not too large. -/
theorem decodeFrom_four (hw : w < 5) (hx : x < 64) (hy : y < 64) (hz : z < 64) (long : w = 0 → 16 ≤ x)
    (char : w = 4 → x < 16) :
    decodeFrom pos 0 ([(0xF0 + w).toUInt8, (0x80 + x).toUInt8, (0x80 + y).toUInt8, (0x80 + z).toUInt8] ++
      rest) = (decodeFrom (pos + 4) 0 rest).map (Char.ofNat (((w * 64 + x) * 64 + y) * 64 + z) :: ·) := by
  refine (leads_three w hw).decodeFrom [_, _, _] ?_
  have low : (if w = 0 then (0x90 : UInt8) else 0x80).toNat ≤ 0x80 + x := by
    split
    · change 0x90 ≤ _
      omega
    · exact Nat.le_add_right 0x80 _
  have high : 0x80 + x ≤ (if w = 4 then (0x8F : UInt8) else 0xBF).toNat := by
    split
    · change _ ≤ 0x8F
      omega
    · change _ ≤ 0xBF
      omega
  show tail _ _ _ 1 (2 + 1) (_ :: _ :: _ :: rest) = _
  rw [tail_six hx low high, tail_any_six hy, tail_any_six hz, tail]

theorem decodeFrom_encodePoint (c : Char) (pos : Nat) (rest : List UInt8) :
    decodeFrom pos 0 (encodePoint c.toNat ++ rest) =
      (decodeFrom (pos + (encodePoint c.toNat).length) 0 rest).map (c :: ·) := by
  have valid : c.toNat < 0xD800 ∨ 0xDFFF < c.toNat ∧ c.toNat < 0x110000 := c.valid
  have char {m : Nat} (h : m = c.toNat) : Char.ofNat m = c := h ▸ Char.ofNat_toNat c
  generalize c.toNat = n at valid char ⊢
  unfold encodePoint
  split
  · next one =>
    have byte : n.toUInt8.toNat = n := toNat_toUInt8 (by omega)
    rw [List.singleton_append, decodeFrom_ascii (by rwa [UInt8.lt_iff_toNat_lt, byte]), byte, char rfl]
    rfl
  split
  · next two =>
    rw [decodeFrom_two (by omega) (by omega) (by omega), char (by omega)]
    rfl
  split
  · next three =>
    rw [decodeFrom_three (by omega) (by omega) (by omega) (by omega) (by omega), char (by omega)]
    rfl
  · next four =>
    rw [decodeFrom_four (by omega) (by omega) (by omega) (by omega) (by omega) (by omega), char (by omega)]
    rfl

theorem decodeFrom_encode (cs : List Char) (pos : Nat) :
    decodeFrom pos 0 (encode (cs.map Char.toNat)) = .ok cs := by
  induction cs generalizing pos with
  | nil => rfl
  | cons c cs ih =>
    rw [List.map_cons, encode, List.flatMap_cons, decodeFrom_encodePoint]
    rw [encode] at ih
    rw [ih]
    rfl

theorem decode_encode (cs : List Char) : decode (encode (cs.map Char.toNat)) = .ok cs :=
  decodeFrom_encode cs 0

/-! ## Texts -/

theorem unwritable?_eq_none_iff {ns : CodePoints} :
    unwritable? ns = none ↔ ∀ n ∈ ns, isSurrogate n = false := by
  have rest : ns.drop (ns.takeWhile fun n => !isSurrogate n).length =
      ns.dropWhile fun n => !isSurrogate n :=
    calc _ = ((ns.takeWhile fun n => !isSurrogate n) ++ ns.dropWhile fun n => !isSurrogate n).drop _ := by
          rw [List.takeWhile_append_dropWhile]
      _ = _ := List.drop_left ..
  have whole : (∀ n ∈ ns, isSurrogate n = false) ↔ ns.dropWhile (fun n => !isSurrogate n) = [] := by
    simp [List.dropWhile_eq_nil_iff]
  have first := List.head?_dropWhile_not (fun n => !isSurrogate n) ns
  rw [whole, unwritable?, rest]
  cases hd : ns.dropWhile fun n => !isSurrogate n with
  | nil => exact iff_of_true rfl rfl
  | cons n more =>
    simp only [hd, List.head?_cons] at first
    rw [List.takeWhile_cons_of_pos (by simpa using first)]
    exact iff_of_false (Option.some_ne_none _) (List.cons_ne_nil n more)

/-- The texts that can be written, and their bytes. -/
theorem encodeText_eq_ok_iff {s : String} {bytes : List UInt8} : encodeText s = .ok bytes ↔
    (∀ n ∈ points s.toList, isSurrogate n = false) ∧ encode (points s.toList) = bytes := by
  rw [← unwritable?_eq_none_iff]
  unfold encodeText
  dsimp only
  cases unwritable? (points s.toList) with
  | some u => simp
  | none => exact ⟨fun h => ⟨rfl, Except.ok.inj h⟩, fun h => congrArg _ h.2⟩

/-- Every code point of a text is a character, or it is a surrogate. -/
theorem isValidChar_or_isSurrogate (cs : List Char) :
    ∀ n ∈ points cs, n.isValidChar ∨ isSurrogate n = true := by
  have point (c : Char) : (pointOf c).isValidChar ∨ isSurrogate (pointOf c) = true := by
    unfold pointOf
    split
    · next h =>
      refine .inr ?_
      unfold isStandIn at h
      unfold isSurrogate standInDistance
      simp only [Bool.and_eq_true, decide_eq_true_eq] at h ⊢
      omega
    · exact .inl c.valid
  fun_induction points cs with
  | case1 => nofun
  | case2 c => exact List.forall_mem_singleton.mpr (point c)
  | case3 c d rest _ ih => exact List.forall_mem_cons.mpr ⟨.inl d.valid, ih⟩
  | case4 c d rest _ ih => exact List.forall_mem_cons.mpr ⟨point c, ih⟩

/-- A text that is written is read again. -/
theorem decode_of_encodeText {s : String} {bytes : List UInt8} (h : encodeText s = .ok bytes) :
    ∃ cs, decode bytes = .ok cs ∧ cs.map Char.toNat = points s.toList := by
  obtain ⟨whole, rfl⟩ := encodeText_eq_ok_iff.mp h
  have chars : ((points s.toList).map Char.ofNat).map Char.toNat = points s.toList := by
    rw [List.map_map]
    refine (List.map_congr_left fun n hn => ?_).trans (List.map_id _)
    have valid := (isValidChar_or_isSurrogate _ n hn).resolve_right
      (Bool.eq_false_iff.mp (whole n hn))
    rw [Function.comp_apply, Char.ofNat, dif_pos valid]
    rfl
  refine ⟨(points s.toList).map Char.ofNat, ?_, chars⟩
  have := decode_encode ((points s.toList).map Char.ofNat)
  rwa [chars] at this

/-- A character that is no mark does not change what follows it. -/
theorem points_append {c : Char} (h : isMark c = false) (cs ds : List Char) :
    points (cs ++ c :: ds) = points (cs ++ [c]) ++ points ds := by
  have last (ds : List Char) : points (c :: ds) = pointOf c :: points ds := by
    cases ds <;> simp [points, h]
  -- a mark and what it marks are two characters for one point, so the induction is that of `points`
  fun_induction points cs with
  | case1 => exact last ds
  | case2 b =>
    rw [List.singleton_append, List.singleton_append, points, points]
    split
    · rfl
    · rw [last, last]
      rfl
  | case3 a b cs mark ih =>
    simp only [List.cons_append]
    rw [points, points, if_pos mark, if_pos mark, ih]
    rfl
  | case4 a b cs other ih =>
    simp only [List.cons_append] at ih ⊢
    rw [points, points, if_neg other, if_neg other, ih]
    rfl

/-- Texts that are written one after the other are one text, if no mark ends the first of them. -/
theorem encodeText_append {c : Char} (h : isMark c = false) {cs ds : List Char} {bytes more : List UInt8}
    (first : encodeText (String.ofList (cs ++ [c])) = .ok bytes)
    (next : encodeText (String.ofList ds) = .ok more) :
    encodeText (String.ofList (cs ++ [c] ++ ds)) = .ok (bytes ++ more) := by
  rw [encodeText_eq_ok_iff, String.toList_ofList] at first next ⊢
  obtain ⟨chars, rfl⟩ := first
  obtain ⟨chars', rfl⟩ := next
  rw [List.append_assoc, List.singleton_append, points_append h, encode, encode, encode, List.flatMap_append]
  exact ⟨List.forall_mem_append.mpr ⟨chars, chars'⟩, rfl⟩

/-! ## Pieces -/

/-- The text has an end, and this is no mark. -/
def IsPiece (s : String) : Prop := ∃ cs c, s = String.ofList (cs ++ [c]) ∧ isMark c = false

theorem IsPiece.of_forall {cs : List Char} (some : cs ≠ []) (h : ∀ c ∈ cs, isMark c = false) :
    IsPiece (String.ofList cs) :=
  ⟨cs.dropLast, cs.getLast some, by rw [List.dropLast_concat_getLast], h _ (List.getLast_mem some)⟩

theorem IsPiece.literal {s : String} (some : s.toList ≠ []) (h : s.toList.all (!isMark ·) = true) :
    IsPiece s := by
  rw [← String.ofList_toList (s := s)]
  exact .of_forall some fun c hc => by simpa using List.all_eq_true.mp h c hc

/-- A text that is written alone. -/
theorem encodeText_of_encodeTexts {s : String} {bytes : List UInt8}
    (written : encodeTexts [s] = (bytes, none)) : encodeText s = .ok bytes := by
  unfold encodeTexts at written
  split at written
  · cases written
  · next first =>
    cases written
    rw [first, List.append_nil]

/-- Pieces that are written one after the other are one text. -/
theorem encodeText_join {ss : List String} (h : ∀ s ∈ ss, IsPiece s) {bytes : List UInt8}
    (written : encodeTexts ss = (bytes, none)) : encodeText (String.join ss) = .ok bytes := by
  induction ss generalizing bytes with
  | nil =>
    cases written
    rfl
  | cons s ss ih =>
    obtain ⟨piece, pieces⟩ := List.forall_mem_cons.mp h
    rw [encodeTexts] at written
    cases first : encodeText s with
    | error u =>
      rw [first] at written
      cases written
    | ok front =>
      rw [first] at written
      cases rest : encodeTexts ss with | mk more u
      rw [rest] at written
      cases written
      obtain ⟨cs, c, rfl, plain⟩ := piece
      have next := ih pieces rest
      rw [← String.ofList_toList (s := String.join ss)] at next
      rw [String.join_cons, ← String.ofList_toList (s := String.join ss), ← String.ofList_append]
      exact encodeText_append plain first next

end Walkthrough.Text.Utf8
