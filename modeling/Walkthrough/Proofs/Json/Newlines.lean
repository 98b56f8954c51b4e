import Walkthrough.Proofs.Json.Fuel
import Walkthrough.Proofs.Json.RoundTrip
import Walkthrough.Proofs.Text.Newlines

/-! Line ends of JSON texts. Between the parts of a text all line ends are white space, and inside of a part
none can stand, so that a text says what it says with line feeds only (`read_unifyNewlines`). The two texts
may be refused at different places. As they differ in length, the readers are first followed with the same
fuel (`inStep`), and then the fuel is shown to be enough for either (`settled`). -/

namespace Walkthrough.Json

open Text

/-- What a reader makes of an input, and of the input with line feeds only: the same thing and what is left
of either, or faults in either, or one fault of both. -/
inductive Alike {α : Type} : Except Fault (α × List Char) → Except Fault (α × List Char) → Prop
  | ok (a : α) (rest : List Char) : Alike (.ok (a, rest)) (.ok (a, unifyNewlines rest))
  | malformed {problem problem' : Problem} {rest rest' : List Char} :
    Alike (.error (.malformed problem rest)) (.error (.malformed problem' rest'))
  | limit (fault : Fault) : Alike (.error fault) (.error fault)

variable {α : Type} {c : Char} {cs rest : List Char} {n : Nat}

theorem skipSpace_unifyNewlines (cs : List Char) :
    skipSpace (unifyNewlines cs) = unifyNewlines (skipSpace cs) :=
  dropWhile_unifyNewlines rfl cs

/-! ## Texts -/

theorem isLineBreak_of_hexValue {v : Nat} (h : hexValue c = some v) : isLineBreak c = false := by
  have range : 48 ≤ c.toNat ∧ c.toNat ≤ 102 := by
    unfold hexValue isDigit at h
    simp only [Bool.and_eq_true, decide_eq_true_eq, Char.le_def, UInt32.le_iff_toNat_le] at h
    change (if (48 ≤ c.toNat ∧ c.toNat ≤ 57) then _ else if (97 ≤ c.toNat ∧ c.toNat ≤ 102) then _ else
      if (65 ≤ c.toNat ∧ c.toNat ≤ 70) then _ else none) = _ at h
    split at h
    · omega
    split at h
    · omega
    split at h
    · omega
    · cases h
  unfold isLineBreak
  simp only [Bool.or_eq_false_iff, Bool.and_eq_false_imp, decide_eq_true_eq, decide_eq_false_iff_not,
    beq_eq_false_iff_ne]
  omega

theorem unbroken_of_mapM {ds : List Char} {vs : List Nat} (h : ds.mapM hexValue = some vs) :
    Unbroken ds := by
  induction ds generalizing vs with
  | nil => exact .nil
  | cons d ds ih =>
    simp only [List.mapM_cons, Option.bind_eq_bind, Option.bind_eq_some_iff] at h
    obtain ⟨v, hd, vs, hds, -⟩ := h
    exact List.forall_mem_cons.mpr ⟨isLineBreak_of_hexValue hd, ih hds⟩

theorem hexFour_eq_some_iff : hexFour cs = some (n, rest) ↔ ∃ ds vs, cs = ds ++ rest ∧ rest ≠ [] ∧
    ds.length = 4 ∧ ds.mapM hexValue = some vs ∧ ofDigits 16 vs = n := by
  constructor
  · intro h
    unfold hexFour at h
    split at h
    · next a b c d e rest =>
      simp only [Option.bind_eq_bind, Option.bind_eq_some_iff, Option.some.injEq, Prod.mk.injEq] at h
      obtain ⟨vs, hv, rfl, rfl⟩ := h
      exact ⟨[a, b, c, d], vs, rfl, List.cons_ne_nil _ _, rfl, hv, rfl⟩
    · cases h
  · rintro ⟨ds, vs, rfl, some, four, hv, rfl⟩
    obtain ⟨a, b, c, d, rfl⟩ := List.length_eq_four.mp four
    obtain ⟨e, rest, rfl⟩ := List.exists_cons_of_ne_nil some
    simp only [hexFour, List.cons_append, List.nil_append, hv]
    rfl

theorem hexFour_unifyNewlines (cs : List Char) :
    hexFour (unifyNewlines cs) = (hexFour cs).map fun (n, rest) => (n, unifyNewlines rest) := by
  ext ⟨n, rest⟩
  simp only [Option.map_eq_some_iff, Prod.exists, Prod.mk.injEq]
  constructor
  · intro h
    obtain ⟨ds, vs, eq, some, four, hv, value⟩ := hexFour_eq_some_iff.mp h
    obtain ⟨rest', eq', rfl⟩ := (unifyNewlines_eq_append_iff (unbroken_of_mapM hv)).mp eq
    exact ⟨n, rest', hexFour_eq_some_iff.mpr
      ⟨ds, vs, eq', mt unifyNewlines_eq_nil_iff.mpr some, four, hv, value⟩, rfl, rfl⟩
  · rintro ⟨n, rest, h, rfl, rfl⟩
    obtain ⟨ds, vs, rfl, some, four, hv, value⟩ := hexFour_eq_some_iff.mp h
    exact hexFour_eq_some_iff.mpr ⟨ds, vs, unifyNewlines_append (unbroken_of_mapM hv) rest,
      mt unifyNewlines_eq_nil_iff.mp some, four, hv, value⟩

theorem unicodeEscape_broken (h : hexFour cs = none) :
    unicodeEscape cs = .error (.malformed .unicodeEscape ('u' :: cs)) := by
  rw [unicodeEscape, h]

theorem unicodeEscape_single (first : hexFour cs = some (n, rest))
    (single : ∀ more, isHighSurrogate n = true → rest ≠ '\\' :: 'u' :: more) :
    unicodeEscape cs = .ok (n, rest) := by
  rw [unicodeEscape, first]
  dsimp only
  split
  · next more high => exact (single more high rfl).elim
  · rfl

theorem unicodeEscape_pair {more : List Char} (first : hexFour cs = some (n, '\\' :: 'u' :: more))
    (high : isHighSurrogate n = true) : unicodeEscape cs =
      if more.length < 5 then .ok (n, '\\' :: 'u' :: more)
      else match hexFour more with
        | none => .error (.malformed .unicodeEscape ('u' :: more))
        | some (low, rest) => if isLowSurrogate low then .ok (joinSurrogates n low, rest)
          else .ok (n, '\\' :: 'u' :: more) := by
  rw [unicodeEscape, first]
  rcases next : hexFour more with _ | ⟨low, rest⟩ <;> simp only [high, next]

theorem unifyNewlines_pair (more : List Char) :
    unifyNewlines ('\\' :: 'u' :: more) = '\\' :: 'u' :: unifyNewlines more :=
  unifyNewlines_append (show Unbroken ['\\', 'u'] by decide) more

/-- What an escape stands for does not depend on the line ends behind it. -/
theorem unicodeEscape_unifyNewlines (h : unicodeEscape cs = .ok (n, rest)) :
    unicodeEscape (unifyNewlines cs) = .ok (n, unifyNewlines rest) := by
  cases first : hexFour cs with
  | none =>
    rw [unicodeEscape_broken first] at h
    cases h
  | some found =>
    obtain ⟨m, r⟩ := found
    have first' : hexFour (unifyNewlines cs) = some (m, unifyNewlines r) := by
      rw [hexFour_unifyNewlines, first, Option.map_some]
    by_cases paired : isHighSurrogate m = true ∧ ∃ more, r = '\\' :: 'u' :: more
    · obtain ⟨high, more, rfl⟩ := paired
      rw [unifyNewlines_pair] at first'
      rw [unicodeEscape_pair first high] at h
      rw [unicodeEscape_pair first' high]
      split at h
      · next short =>
        cases h
        rw [if_pos (Nat.lt_of_le_of_lt (length_unifyNewlines_le more) short), unifyNewlines_pair]
      split at h
      · cases h
      next low r' found =>
      have found' : hexFour (unifyNewlines more) = some (low, unifyNewlines r') := by
        rw [hexFour_unifyNewlines, found, Option.map_some]
      have long : ¬(unifyNewlines more).length < 5 := by
        obtain ⟨ds, -, eq, some, four, -⟩ := hexFour_eq_some_iff.mp found'
        rw [eq, List.length_append, four]
        have := List.length_pos_iff.mpr some
        omega
      rw [if_neg long, found']
      dsimp only
      by_cases isLow : isLowSurrogate low = true
      · rw [if_pos isLow] at h ⊢
        exact congrArg (fun found => Except.ok (found.1, unifyNewlines found.2)) (Except.ok.inj h)
      · rw [if_neg isLow] at h ⊢
        cases h
        rw [unifyNewlines_pair]
    · rw [unicodeEscape_single first fun more high eq => paired ⟨high, more, eq⟩] at h
      cases h
      refine unicodeEscape_single first' fun more high eq => ?_
      obtain ⟨more', eq, -⟩ :=
        (unifyNewlines_eq_append_iff (show Unbroken ['\\', 'u'] by decide)).mp eq
      exact paired ⟨high, more', eq⟩

theorem malformed_of_unicodeEscape {fault : Fault} (h : unicodeEscape cs = .error fault) :
    ∃ problem rest, fault = .malformed problem rest := by
  unfold unicodeEscape at h
  split at h
  · cases h
    exact ⟨_, _, rfl⟩
  split at h
  · split at h
    · cases h
    split at h
    · cases h
      exact ⟨_, _, rfl⟩
    · split at h <;> cases h
  · cases h

/-- Where an escape is broken, the first half of a pair may pass on its own with fewer characters behind
it, but then the second half is found to be broken. -/
theorem unicodeEscape_unifyNewlines_error {fault : Fault} (h : unicodeEscape cs = .error fault) :
    (∃ fault', unicodeEscape (unifyNewlines cs) = .error fault') ∨
      ∃ n more fault', unicodeEscape (unifyNewlines cs) = .ok (n, '\\' :: 'u' :: more) ∧
        unicodeEscape more = .error fault' := by
  cases first : hexFour cs with
  | none =>
    exact .inl ⟨_, unicodeEscape_broken (by rw [hexFour_unifyNewlines, first, Option.map_none])⟩
  | some found =>
    obtain ⟨m, r⟩ := found
    by_cases paired : isHighSurrogate m = true ∧ ∃ more, r = '\\' :: 'u' :: more
    · obtain ⟨high, more, rfl⟩ := paired
      have first' : hexFour (unifyNewlines cs) = some (m, '\\' :: 'u' :: unifyNewlines more) := by
        rw [hexFour_unifyNewlines, first, Option.map_some, ← unifyNewlines_pair]
      rw [unicodeEscape_pair first high] at h
      rw [unicodeEscape_pair first' high]
      split at h
      · cases h
      split at h
      · next broken =>
        have broken' : hexFour (unifyNewlines more) = none := by
          rw [hexFour_unifyNewlines, broken, Option.map_none]
        rw [broken']
        dsimp only
        split
        · exact .inr ⟨_, _, _, rfl, unicodeEscape_broken broken'⟩
        · exact .inl ⟨_, rfl⟩
      · split at h <;> cases h
    · rw [unicodeEscape_single first fun more high eq => paired ⟨high, more, eq⟩] at h
      cases h

theorem readText_escape_error {fault : Fault} (h : unicodeEscape cs = .error fault)
    (start read : List Char) : readText start read ('\\' :: 'u' :: cs) = .error fault := by
  rw [readText]
  split
  · next failed =>
    rw [h] at failed
    cases failed
    rfl
  · next found =>
    rw [h] at found
    cases found

theorem readText_of_control (control : c.toNat < 0x20) (start read rest : List Char) :
    readText start read (c :: rest) = .error (.malformed .control (c :: rest)) := by
  have other {d : Char} (h : ¬d.toNat < 0x20) : c ≠ d := by
    rintro rfl
    exact h control
  have quote : c ≠ '"' := other (by decide)
  have backslash : c ≠ '\\' := other (by decide)
  rw [readText]
  · rw [if_pos control]
  all_goals simp [quote, backslash]

theorem alike_readText (start start' read cs : List Char) :
    Alike (readText start read cs) (readText start' read (unifyNewlines cs)) := by
  fun_induction readText start read cs with
  | case1 read =>
    rw [unifyNewlines, readText]
    exact .malformed
  | case2 read rest =>
    rw [unifyNewlines_cons (by decide), readText_quote]
    exact .ok _ rest
  | case3 read =>
    rw [unifyNewlines_cons (by decide), unifyNewlines, readText]
    exact .malformed
  | case4 read rest fault h =>
    obtain ⟨_, _, rfl⟩ := malformed_of_unicodeEscape h
    rw [unifyNewlines_pair]
    rcases unicodeEscape_unifyNewlines_error h with ⟨fault', h'⟩ | ⟨n, more, fault', h', broken⟩
    · obtain ⟨_, _, rfl⟩ := malformed_of_unicodeEscape h'
      rw [readText_escape_error h']
      exact .malformed
    · obtain ⟨_, _, rfl⟩ := malformed_of_unicodeEscape broken
      rw [readText_escape_ok h', readText_escape_error broken]
      exact .malformed
  | case5 read rest n rest' h _ ih =>
    rw [unifyNewlines_pair, readText_escape_ok (unicodeEscape_unifyNewlines h)]
    exact ih
  | case6 read c rest _ d stands ih =>
    have plain : c ≠ '\r' := by
      rintro rfl
      cases stands
    rw [unifyNewlines_cons (by decide), unifyNewlines_cons plain, readText_simple stands]
    exact ih
  | case7 read c rest other stands =>
    rw [unifyNewlines_cons (by decide)]
    obtain ⟨rest', eq⟩ := exists_unifyNewlines_cons c rest
    rw [eq]
    split
    · rw [readText]
      · exact .malformed
      · decide
    · rw [readText, stands]
      · exact .malformed
      · exact other
  | case8 read c rest _ _ _ _ control =>
    obtain ⟨rest', eq⟩ := exists_unifyNewlines_cons c rest
    rw [eq, readText_of_control]
    · exact .malformed
    · split
      · decide
      · exact control
  | case9 read c rest quote alone _ escape shown ih =>
    have plain : c ≠ '\r' := by
      rintro rfl
      exact shown (by decide)
    have backslash : c ≠ '\\' := fun hc => by
      cases rest with
      | nil => exact alone hc rfl
      | cons d rest => exact escape d rest hc rfl
    rw [unifyNewlines_cons plain, readText_plain quote backslash shown]
    exact ih

/-! ## Numbers and words -/

theorem isLineBreak_of_isDigit (h : isDigit c = true) : isLineBreak c = false :=
  isLineBreak_of_hexValue (v := c.toNat - 48) (by rw [hexValue, if_pos h])

theorem takeWhile_isDigit_unifyNewlines (cs : List Char) :
    (unifyNewlines cs).takeWhile isDigit = cs.takeWhile isDigit :=
  takeWhile_unifyNewlines rfl rfl cs

theorem dropWhile_isDigit_unifyNewlines (cs : List Char) :
    (unifyNewlines cs).dropWhile isDigit = unifyNewlines (cs.dropWhile isDigit) :=
  dropWhile_unifyNewlines rfl cs

theorem readFraction_digit (h : isDigit c = true) (rest : List Char) :
    readFraction ('.' :: c :: rest) = (c :: rest.takeWhile isDigit, rest.dropWhile isDigit) :=
  if_pos h

theorem readFraction_none (h : ∀ c rest, cs = '.' :: c :: rest → isDigit c = false) :
    readFraction cs = ([], cs) := by
  unfold readFraction
  split
  · next c rest => rw [h c rest rfl, if_neg Bool.false_ne_true]
  · rfl

theorem readFraction_unifyNewlines (cs : List Char) :
    readFraction (unifyNewlines cs) = ((readFraction cs).1, unifyNewlines (readFraction cs).2) := by
  by_cases h : ∃ c rest, cs = '.' :: c :: rest ∧ isDigit c = true
  · obtain ⟨c, rest, rfl, digit⟩ := h
    have front : Unbroken ['.', c] :=
      List.forall_mem_cons.mpr ⟨rfl, List.forall_mem_singleton.mpr (isLineBreak_of_isDigit digit)⟩
    have eq := unifyNewlines_append front rest
    simp only [List.cons_append, List.nil_append] at eq
    rw [eq, readFraction_digit digit, readFraction_digit digit, takeWhile_isDigit_unifyNewlines,
      dropWhile_isDigit_unifyNewlines]
  · rw [readFraction_none, readFraction_none]
    · exact fun c rest eq => Bool.eq_false_iff.mpr fun digit => h ⟨c, rest, eq, digit⟩
    · intro c rest eq
      refine Bool.eq_false_iff.mpr fun digit => ?_
      have front : Unbroken ['.', c] :=
        List.forall_mem_cons.mpr ⟨rfl, List.forall_mem_singleton.mpr (isLineBreak_of_isDigit digit)⟩
      obtain ⟨rest, eq, -⟩ := (unifyNewlines_eq_append_iff front).mp eq
      exact h ⟨c, rest, eq, digit⟩

/-- What follows the letter of an exponent: whether a minus sign does, and what follows the sign. -/
def signed : List Char → Bool × List Char
  | '-' :: rest => (true, rest)
  | '+' :: rest => (false, rest)
  | rest => (false, rest)

theorem signed_unifyNewlines (cs : List Char) :
    signed (unifyNewlines cs) = ((signed cs).1, unifyNewlines (signed cs).2) := by
  by_cases minus : ∃ rest, cs = '-' :: rest
  · obtain ⟨rest, rfl⟩ := minus
    rw [unifyNewlines_cons (by decide)]
    rfl
  by_cases plus : ∃ rest, cs = '+' :: rest
  · obtain ⟨rest, rfl⟩ := plus
    rw [unifyNewlines_cons (by decide)]
    rfl
  have none {cs : List Char} (minus : ∀ rest, cs ≠ '-' :: rest) (plus : ∀ rest, cs ≠ '+' :: rest) :
      signed cs = (false, cs) := by
    unfold signed
    split
    · exact absurd rfl (minus _)
    · exact absurd rfl (plus _)
    · rfl
  have minus : ∀ rest, cs ≠ '-' :: rest := fun rest eq => minus ⟨rest, eq⟩
  have plus : ∀ rest, cs ≠ '+' :: rest := fun rest eq => plus ⟨rest, eq⟩
  rw [none minus plus, none (unifyNewlines_ne_cons rfl minus) (unifyNewlines_ne_cons rfl plus)]

theorem readExponent_letter (h : (c == 'e' || c == 'E') = true) (rest : List Char) :
    readExponent (c :: rest) =
      match (signed rest).2.takeWhile isDigit with
      | [] => (none, c :: rest)
      | ds => (some (if (signed rest).1 then -(ofDecimal ds : Int) else ofDecimal ds),
          (signed rest).2.dropWhile isDigit) :=
  if_pos h

theorem readExponent_unifyNewlines (cs : List Char) :
    readExponent (unifyNewlines cs) = ((readExponent cs).1, unifyNewlines (readExponent cs).2) := by
  cases cs with
  | nil => rfl
  | cons c rest =>
    by_cases letter : (c == 'e' || c == 'E') = true
    · have plain : c ≠ '\r' := by
        rintro rfl
        cases letter
      rw [unifyNewlines_cons plain, readExponent_letter letter, readExponent_letter letter,
        signed_unifyNewlines]
      dsimp only
      rw [takeWhile_isDigit_unifyNewlines, dropWhile_isDigit_unifyNewlines]
      split
      · rw [unifyNewlines_cons plain]
      · rfl
    · have none {c : Char} (h : ¬(c == 'e' || c == 'E') = true) (rest : List Char) :
          readExponent (c :: rest) = (none, c :: rest) := if_neg h
      obtain ⟨rest', eq⟩ := exists_unifyNewlines_cons c rest
      rw [none letter, eq]
      refine none ?_ rest'
      split
      · decide
      · exact letter

/-- The digits of a number before its point. -/
def wholePart (cs : List Char) : List Char :=
  match cs with
  | '0' :: _ => ['0']
  | _ => cs.takeWhile isDigit

theorem wholePart_unifyNewlines (cs : List Char) : wholePart (unifyNewlines cs) = wholePart cs := by
  by_cases zero : ∃ rest, cs = '0' :: rest
  · obtain ⟨rest, rfl⟩ := zero
    rw [unifyNewlines_cons (by decide)]
    rfl
  · have other {cs : List Char} (h : ∀ rest, cs ≠ '0' :: rest) : wholePart cs = cs.takeWhile isDigit := by
      unfold wholePart
      split
      · exact absurd rfl (h _)
      · rfl
    have zero : ∀ rest, cs ≠ '0' :: rest := fun rest eq => zero ⟨rest, eq⟩
    rw [other zero, other (unifyNewlines_ne_cons rfl zero), takeWhile_isDigit_unifyNewlines]

theorem wholePart_prefix (cs : List Char) :
    ∃ rest, cs = wholePart cs ++ rest ∧ Unbroken (wholePart cs) := by
  unfold wholePart
  split
  · exact ⟨_, rfl, by decide⟩
  · exact ⟨_, List.takeWhile_append_dropWhile.symm,
      fun c hc => isLineBreak_of_isDigit (List.mem_takeWhile_imp hc)⟩

theorem alike_readNumber (start start' : List Char) (negative : Bool) (cs : List Char) :
    Alike (readNumber start negative cs) (readNumber start' negative (unifyNewlines cs)) := by
  obtain ⟨rest, eq, unbroken⟩ := wholePart_prefix cs
  unfold readNumber
  extract_lets whole n whole' n'
  have same : whole' = whole := wholePart_unifyNewlines cs
  have behind : (unifyNewlines cs).drop whole.length = unifyNewlines (cs.drop whole.length) := by
    have unbroken : Unbroken whole := unbroken
    have eq : cs = whole ++ rest := eq
    rw [eq, unifyNewlines_append unbroken, List.drop_left, List.drop_left]
  have same' : n' = n := congrArg (fun ds => (ofDecimal ds : Int)) same
  clear_value whole n whole' n'
  rw [same, same', behind, readFraction_unifyNewlines]
  obtain ⟨fraction, after⟩ := readFraction (cs.drop whole.length)
  dsimp only
  rw [readExponent_unifyNewlines]
  obtain ⟨exponent, rest⟩ := readExponent after
  dsimp only
  split
  · exact .malformed
  split
  · split
    · exact .limit _
    · exact .ok _ _
  · exact .ok _ _

theorem afterWord_eq_some_iff {word : String} : afterWord word cs = some rest ↔ cs = word.toList ++ rest := by
  unfold afterWord
  split
  · next h =>
    obtain ⟨rest', rfl⟩ := List.isPrefixOf_iff_prefix.mp h
    rw [List.drop_left, Option.some.injEq, List.append_cancel_left_eq]
  · next h =>
    refine ⟨nofun, fun eq => ?_⟩
    exact (h (List.isPrefixOf_iff_prefix.mpr ⟨rest, eq.symm⟩)).elim

theorem afterWord_unifyNewlines {word : String} (h : Unbroken word.toList) (cs : List Char) :
    afterWord word (unifyNewlines cs) = (afterWord word cs).map unifyNewlines := by
  ext rest
  simp only [Option.map_eq_some_iff, afterWord_eq_some_iff]
  exact unifyNewlines_eq_append_iff h

theorem readWord_unifyNewlines (cs : List Char) :
    readWord (unifyNewlines cs) = (readWord cs).map fun (d, rest) => (d, unifyNewlines rest) := by
  have words (words : List (String × Data)) (h : ∀ entry ∈ words, Unbroken entry.1.toList) :
      (words.findSome? fun e => (afterWord e.1 (unifyNewlines cs)).map (e.2, ·)) =
        (words.findSome? fun e => (afterWord e.1 cs).map (e.2, ·)).map
          fun (d, rest) => (d, unifyNewlines rest) := by
    induction words with
    | nil => rfl
    | cons entry words ih =>
      rw [List.findSome?_cons, List.findSome?_cons]
      dsimp only
      rw [afterWord_unifyNewlines (h entry List.mem_cons_self)]
      cases afterWord entry.1 cs with
      | none => exact ih fun e he => h e (List.mem_cons_of_mem entry he)
      | some rest => rfl
  exact words _ (by decide)

/-! ## Values -/

section

variable {depth fuel : Nat}

theorem readValue_object_empty (h : skipSpace cs = '\x7d' :: rest) :
    readValue (depth + 1) (fuel + 1) ('\x7b' :: cs) = .ok (Data.mapOf [], rest) := by
  unfold readValue
  simp only [h]

theorem readValue_list_empty (h : skipSpace cs = ']' :: rest) :
    readValue (depth + 1) (fuel + 1) ('[' :: cs) = .ok (.list [], rest) := by
  unfold readValue
  simp only [h]

/-- No reader of its own begins with the first character. -/
structure Plain (cs : List Char) : Prop where
  quote : ∀ rest, cs ≠ '"' :: rest
  brace : ∀ rest, cs ≠ '\x7b' :: rest
  bracket : ∀ rest, cs ≠ '[' :: rest

theorem Plain.unifyNewlines (h : Plain cs) : Plain (unifyNewlines cs) where
  quote := unifyNewlines_ne_cons rfl h.quote
  brace := unifyNewlines_ne_cons rfl h.brace
  bracket := unifyNewlines_ne_cons rfl h.bracket

theorem readValue_word (plain : Plain cs) {found : Data × List Char} (word : readWord cs = some found) :
    readValue depth (fuel + 1) cs = .ok found := by
  unfold readValue
  split
  · exact absurd rfl (plain.quote _)
  · exact absurd rfl (plain.brace _)
  · exact absurd rfl (plain.bracket _)
  · rw [word]

theorem readValue_number (plain : Plain cs) (minus : ∀ rest, cs ≠ '-' :: rest)
    (word : readWord cs = none) : readValue depth (fuel + 1) cs = readNumber cs false cs := by
  unfold readValue
  split
  · exact absurd rfl (plain.quote _)
  · exact absurd rfl (plain.brace _)
  · exact absurd rfl (plain.bracket _)
  · rw [word]
    dsimp only
    split
    · exact absurd rfl (minus _)
    · rfl

theorem alike_readValue_text (rest : List Char) : Alike (readValue depth (fuel + 1) ('"' :: rest))
    (readValue depth (fuel + 1) ('"' :: unifyNewlines rest)) := by
  have text := alike_readText ('"' :: rest) ('"' :: unifyNewlines rest) [] rest
  rw [readValue, readValue]
  generalize readText ('"' :: rest) [] rest = r at text ⊢
  generalize readText ('"' :: unifyNewlines rest) [] (unifyNewlines rest) = r' at text ⊢
  cases text with
  | ok text rest => exact .ok _ rest
  | malformed => exact .malformed
  | limit fault => exact .limit fault

theorem alike_readValue_plain (plain : Plain cs) : Alike (readValue depth (fuel + 1) cs)
    (readValue depth (fuel + 1) (unifyNewlines cs)) := by
  have word' := readWord_unifyNewlines cs
  cases word : readWord cs with
  | some found =>
    rw [word, Option.map_some] at word'
    rw [readValue_word plain word, readValue_word plain.unifyNewlines word']
    exact .ok found.1 found.2
  | none =>
    rw [word, Option.map_none] at word'
    by_cases minus : ∃ rest, cs = '-' :: rest
    · obtain ⟨rest, rfl⟩ := minus
      rw [unifyNewlines_cons (by decide)] at word' ⊢
      rw [readValue_minus word, readValue_minus word']
      exact alike_readNumber _ _ true rest
    · have minus : ∀ rest, cs ≠ '-' :: rest := fun rest eq => minus ⟨rest, eq⟩
      rw [readValue_number plain minus word,
        readValue_number plain.unifyNewlines (unifyNewlines_ne_cons rfl minus) word']
      exact alike_readNumber _ _ false cs

end

/-- With so much fuel the readers of values, items and members make the same of an input with line feeds
only. -/
structure InStep (fuel : Nat) : Prop where
  value : ∀ depth cs, Alike (readValue depth fuel cs) (readValue depth fuel (unifyNewlines cs))
  items : ∀ depth items cs,
    Alike (readItems depth fuel items cs) (readItems depth fuel items (unifyNewlines cs))
  members : ∀ depth members cs,
    Alike (readMembers depth fuel members cs) (readMembers depth fuel members (unifyNewlines cs))

namespace InStep

variable {depth fuel : Nat}

theorem object (ih : InStep fuel) (rest : List Char) : Alike (readValue depth (fuel + 1) ('\x7b' :: rest))
    (readValue depth (fuel + 1) ('\x7b' :: unifyNewlines rest)) := by
  cases depth with
  | zero =>
    rw [readValue, readValue]
    exact .limit _
  | succ depth =>
  by_cases close : (skipSpace rest).head? = some '\x7d'
  · obtain ⟨rest', close⟩ := List.head?_eq_some_iff.mp close
    rw [readValue_object_empty close, readValue_object_empty]
    · exact .ok _ rest'
    · rw [skipSpace_unifyNewlines, close, unifyNewlines_cons (by decide)]
  · rw [readValue_object rfl close, readValue_object (skipSpace_unifyNewlines rest)]
    · exact ih.members depth [] (skipSpace rest)
    · exact mt (head?_unifyNewlines rfl).mp close

theorem list (ih : InStep fuel) (rest : List Char) : Alike (readValue depth (fuel + 1) ('[' :: rest))
    (readValue depth (fuel + 1) ('[' :: unifyNewlines rest)) := by
  cases depth with
  | zero =>
    rw [readValue, readValue]
    exact .limit _
  | succ depth =>
  by_cases close : (skipSpace rest).head? = some ']'
  · obtain ⟨rest', close⟩ := List.head?_eq_some_iff.mp close
    rw [readValue_list_empty close, readValue_list_empty]
    · exact .ok _ rest'
    · rw [skipSpace_unifyNewlines, close, unifyNewlines_cons (by decide)]
  · rw [readValue_list rfl close, readValue_list (skipSpace_unifyNewlines rest)]
    · exact ih.items depth [] (skipSpace rest)
    · exact mt (head?_unifyNewlines rfl).mp close

theorem value_succ (ih : InStep fuel) (depth : Nat) (cs : List Char) :
    Alike (readValue depth (fuel + 1) cs) (readValue depth (fuel + 1) (unifyNewlines cs)) := by
  by_cases quote : ∃ rest, cs = '"' :: rest
  · obtain ⟨rest, rfl⟩ := quote
    rw [unifyNewlines_cons (by decide)]
    exact alike_readValue_text rest
  by_cases brace : ∃ rest, cs = '\x7b' :: rest
  · obtain ⟨rest, rfl⟩ := brace
    rw [unifyNewlines_cons (by decide)]
    exact ih.object rest
  by_cases bracket : ∃ rest, cs = '[' :: rest
  · obtain ⟨rest, rfl⟩ := bracket
    rw [unifyNewlines_cons (by decide)]
    exact ih.list rest
  exact alike_readValue_plain ⟨fun rest eq => quote ⟨rest, eq⟩, fun rest eq => brace ⟨rest, eq⟩,
    fun rest eq => bracket ⟨rest, eq⟩⟩

theorem items_succ (ih : InStep fuel) (depth : Nat) (items : List Data) (cs : List Char) :
    Alike (readItems depth (fuel + 1) items cs)
      (readItems depth (fuel + 1) items (unifyNewlines cs)) := by
  unfold readItems
  have first := ih.value depth cs
  generalize readValue depth fuel cs = r at first ⊢
  generalize readValue depth fuel (unifyNewlines cs) = r' at first ⊢
  cases first with
  | malformed => exact .malformed
  | limit fault => exact .limit fault
  | ok item rest =>
  dsimp only
  rw [skipSpace_unifyNewlines]
  split
  · next rest' close =>
    rw [close, unifyNewlines_cons (by decide)]
    exact .ok _ _
  · next rest' comma =>
    have more := ih.items depth (item :: items) (skipSpace rest')
    rw [← skipSpace_unifyNewlines] at more
    rw [comma, unifyNewlines_cons (by decide)]
    exact more
  · next other other' =>
    split
    · next eq => exact absurd eq (unifyNewlines_ne_cons rfl other _)
    · next eq => exact absurd eq (unifyNewlines_ne_cons rfl other' _)
    · exact .malformed

theorem members_succ (ih : InStep fuel) (depth : Nat) (members : List (Data × Data)) (cs : List Char) :
    Alike (readMembers depth (fuel + 1) members cs)
      (readMembers depth (fuel + 1) members (unifyNewlines cs)) := by
  by_cases quote : ∃ rest, cs = '"' :: rest
  on_goal 2 =>
    have none {cs : List Char} (no : ∀ rest, cs ≠ '"' :: rest) :
        readMembers depth (fuel + 1) members cs = .error (.malformed .name cs) := by
      rw [readMembers]
      exact no
    have quote : ∀ rest, cs ≠ '"' :: rest := fun rest eq => quote ⟨rest, eq⟩
    rw [none quote, none (unifyNewlines_ne_cons rfl quote)]
    exact .malformed
  obtain ⟨rest, rfl⟩ := quote
  have name := alike_readText ('"' :: rest) ('"' :: unifyNewlines rest) [] rest
  rw [unifyNewlines_cons (by decide), readMembers, readMembers]
  generalize readText ('"' :: rest) [] rest = r at name ⊢
  generalize readText ('"' :: unifyNewlines rest) [] (unifyNewlines rest) = r' at name ⊢
  cases name with
  | malformed => exact .malformed
  | limit fault => exact .limit fault
  | ok key rest =>
  dsimp only
  rw [skipSpace_unifyNewlines]
  split
  on_goal 2 =>
    next other =>
    split
    · next eq => exact absurd eq (unifyNewlines_ne_cons rfl other _)
    · exact .malformed
  next rest₁ colon =>
  have value := ih.value depth (skipSpace rest₁)
  rw [colon, unifyNewlines_cons (by decide)]
  simp only [skipSpace_unifyNewlines]
  generalize readValue depth fuel (skipSpace rest₁) = r at value ⊢
  generalize readValue depth fuel (unifyNewlines (skipSpace rest₁)) = r' at value ⊢
  cases value with
  | malformed => exact .malformed
  | limit fault => exact .limit fault
  | ok d rest =>
  simp only [skipSpace_unifyNewlines]
  split
  · next rest' close =>
    rw [close, unifyNewlines_cons (by decide)]
    exact .ok _ _
  · next rest' comma =>
    have more := ih.members depth ((.text key, d) :: members) (skipSpace rest')
    rw [← skipSpace_unifyNewlines] at more
    rw [comma, unifyNewlines_cons (by decide)]
    exact more
  · next other other' =>
    split
    · next eq => exact absurd eq (unifyNewlines_ne_cons rfl other _)
    · next eq => exact absurd eq (unifyNewlines_ne_cons rfl other' _)
    · exact .malformed

end InStep

theorem inStep (fuel : Nat) : InStep fuel := by
  induction fuel with
  | zero => exact ⟨fun _ _ => .malformed, fun _ _ _ => .malformed, fun _ _ _ => .malformed⟩
  | succ fuel ih => exact ⟨ih.value_succ, ih.items_succ, ih.members_succ⟩

/-- What two texts come to: one value, or faults in both of them, or one fault of both. -/
inductive ReadAlike : Except Fault Data → Except Fault Data → Prop
  | ok (d : Data) : ReadAlike (.ok d) (.ok d)
  | malformed {problem problem' : Problem} {rest rest' : List Char} :
    ReadAlike (.error (.malformed problem rest)) (.error (.malformed problem' rest'))
  | limit (fault : Fault) : ReadAlike (.error fault) (.error fault)

/-- The line ends of a JSON text do not change what it says. -/
theorem read_unifyNewlines [StackRoom] (cs : List Char) : ReadAlike (read cs) (read (unifyNewlines cs)) := by
  have mark : (cs.head? == some (Char.ofNat 0xFEFF)) =
      ((unifyNewlines cs).head? == some (Char.ofNat 0xFEFF)) := by
    cases cs with
    | nil => rfl
    | cons c cs =>
      obtain ⟨rest, eq⟩ := exists_unifyNewlines_cons c cs
      rw [eq]
      split
      · next hc => subst hc; rfl
      · rfl
  have fuel : readValue StackRoom.json (2 * (unifyNewlines cs).length + 2) (unifyNewlines (skipSpace cs)) =
      readValue StackRoom.json (2 * cs.length + 2) (unifyNewlines (skipSpace cs)) := by
    have less := length_unifyNewlines_le cs
    have end_of := (skipSpace_suffix (unifyNewlines cs)).length_le
    rw [skipSpace_unifyNewlines] at end_of
    obtain ⟨more, eq⟩ : ∃ more, 2 * cs.length + 2 = 2 * (unifyNewlines cs).length + 2 + more :=
      ⟨2 * (cs.length - (unifyNewlines cs).length), by omega⟩
    rw [eq]
    exact (readValue_add (by omega) more).symm
  have value := (inStep (2 * cs.length + 2)).value StackRoom.json (skipSpace cs)
  unfold read
  rw [← mark, skipSpace_unifyNewlines, fuel]
  split
  · exact .malformed
  generalize readValue StackRoom.json (2 * cs.length + 2) (skipSpace cs) = r at value ⊢
  generalize readValue StackRoom.json (2 * cs.length + 2) (unifyNewlines (skipSpace cs)) = r' at value ⊢
  cases value with
  | malformed => exact .malformed
  | limit fault => exact .limit fault
  | ok d rest =>
  dsimp only
  rw [skipSpace_unifyNewlines]
  cases end_of : skipSpace rest with
  | nil => exact .ok d
  | cons c more =>
    obtain ⟨more', eq⟩ := exists_unifyNewlines_cons c more
    rw [eq]
    exact .malformed

end Walkthrough.Json
