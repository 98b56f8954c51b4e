import Mathlib.Data.List.DropRight
import Walkthrough.Json.Reader
import Walkthrough.Proofs.Basic

/-! The limits of reading JSON. A reader leaves an end of its input, and when its fault is that a limit is
passed, the input shows it (`Breaks`): it holds an integer of too many digits, or too many brackets that
open a list or an object. -/

namespace Walkthrough.Json

open Text

/-- How many lists and objects are opened. -/
def opened (cs : List Char) : Nat := cs.countP fun c => c == '[' || c == '\x7b'

/-- What is wrong with an input in which so many lists and objects may stand one inside the other. -/
inductive Breaks (depth : Nat) (cs : List Char) : Fault → Prop
  | malformed (problem : Problem) (rest : List Char) : Breaks depth cs (.malformed problem rest)
  | digits {ds : List Char} (within : ds <:+: cs) (digits : ∀ c ∈ ds, isDigit c = true)
    (long : digitLimit < ds.length) : Breaks depth cs (.tooManyDigits ds.length)
  | deep {isObject : Bool} (deep : depth < opened cs) : Breaks depth cs (.tooDeep isObject)

/-- The result of a reader: it leaves an end of its input, or the input breaks what its fault names. -/
inductive Within {α : Type} (depth : Nat) (cs : List Char) : Except Fault (α × List Char) → Prop
  | ok {a : α} {rest : List Char} (h : rest <:+ cs) : Within depth cs (.ok (a, rest))
  | error {fault : Fault} (h : Breaks depth cs fault) : Within depth cs (.error fault)

variable {α : Type} {depth : Nat} {cs cs' rest : List Char} {fault : Fault}
  {result : Except Fault (α × List Char)}

theorem opened_le (h : cs <:+ cs') : opened cs ≤ opened cs' := h.sublist.countP_le

namespace Breaks

theorem of_suffix (h : Breaks depth cs fault) (end_of : cs <:+ cs') : Breaks depth cs' fault := by
  cases h with
  | malformed => exact .malformed _ _
  | digits within digits long => exact .digits (within.trans end_of.isInfix) digits long
  | deep deep => exact .deep (Nat.lt_of_lt_of_le deep (opened_le end_of))

/-- Behind an opening bracket one less may be nested. -/
theorem open_bracket {c : Char} (h : Breaks depth cs fault) (hc : c = '[' ∨ c = '\x7b') :
    Breaks (depth + 1) (c :: cs) fault := by
  cases h with
  | malformed => exact .malformed _ _
  | digits within digits long => exact .digits (within.trans (List.suffix_cons c cs).isInfix) digits long
  | deep deep =>
    refine .deep ?_
    have one : opened (c :: cs) = opened cs + 1 := by
      rw [opened, List.countP_cons_of_pos]
      · rfl
      · rcases hc with rfl | rfl <;> rfl
    omega

end Breaks

theorem Within.of_suffix (h : Within depth cs result) (end_of : cs <:+ cs') :
    Within depth cs' result := by
  cases h with
  | ok h => exact .ok (h.trans end_of)
  | error h => exact .error (h.of_suffix end_of)

theorem Within.open_bracket {c : Char} (h : Within depth cs result) (hc : c = '[' ∨ c = '\x7b') :
    Within (depth + 1) (c :: cs) result := by
  cases h with
  | ok h => exact .ok (h.trans (List.suffix_cons c cs))
  | error h => exact .error (h.open_bracket hc)

theorem skipSpace_suffix (cs : List Char) : skipSpace cs <:+ cs := List.dropWhile_suffix _

/-- What follows the first character behind white space. -/
theorem suffix_of_skipSpace_eq {c : Char} (h : skipSpace cs = c :: rest) : rest <:+ cs :=
  (List.suffix_cons c rest).trans (h ▸ skipSpace_suffix cs)

/-! ## Texts, numbers and words -/

theorem hexFour_suffix {n : Nat} (h : hexFour cs = some (n, rest)) : rest <:+ cs := by
  unfold hexFour at h
  split at h
  · simp only [Option.bind_eq_bind, Option.bind_eq_some_iff, Option.some.injEq, Prod.mk.injEq] at h
    obtain ⟨_, _, _, rfl⟩ := h
    exact ⟨_, List.append_assoc [_] [_, _, _] _⟩
  · cases h

theorem within_unicodeEscape (depth : Nat) (cs : List Char) : Within depth cs (unicodeEscape cs) := by
  unfold unicodeEscape
  split
  · exact .error (.malformed _ _)
  next n rest h =>
  have ends := hexFour_suffix h
  split
  · split
    · exact .ok ends
    · split
      · exact .error (.malformed _ _)
      · next low more h' =>
        split
        · exact .ok ((hexFour_suffix h').trans ((List.suffix_append ['\\', 'u'] _).trans ends))
        · exact .ok ends
  · exact .ok ends

theorem within_readText (depth : Nat) (start read cs : List Char) :
    Within depth cs (readText start read cs) := by
  fun_induction readText start read cs with
  | case1 | case3 => exact .error (.malformed _ _)
  | case2 => exact .ok (List.suffix_cons _ _)
  | case4 read rest fault h =>
    have escape := within_unicodeEscape depth rest
    rw [h] at escape
    exact .error (Breaks.of_suffix (by cases escape; assumption) (List.suffix_append ['\\', 'u'] _))
  | case5 read rest n rest' h _ ih =>
    have escape := within_unicodeEscape depth rest
    rw [h] at escape
    cases escape with
    | ok ends => exact ih.of_suffix (ends.trans (List.suffix_append ['\\', 'u'] _))
  | case6 read c rest _ d _ ih => exact ih.of_suffix (List.suffix_append ['\\', c] _)
  | case7 | case8 => exact .error (.malformed _ _)
  | case9 _ _ _ _ _ _ _ _ ih => exact ih.of_suffix (List.suffix_cons _ _)

theorem readFraction_suffix (cs : List Char) : (readFraction cs).2 <:+ cs := by
  unfold readFraction
  split
  · split
    · exact (List.dropWhile_suffix _).trans (List.suffix_append ['.', _] _)
    · exact List.suffix_rfl
  · exact List.suffix_rfl

theorem readExponent_suffix (cs : List Char) : (readExponent cs).2 <:+ cs := by
  unfold readExponent
  split
  · next c rest =>
    split
    · split
      next negative after signed =>
      have ends : after <:+ rest := by
        split at signed
        · cases signed
          exact List.suffix_cons _ _
        · cases signed
          exact List.suffix_cons _ _
        · cases signed
          exact List.suffix_rfl
      split
      · exact List.suffix_rfl
      · exact (List.dropWhile_suffix _).trans (ends.trans (List.suffix_cons _ _))
    · exact List.suffix_rfl
  · exact List.suffix_rfl

theorem within_readNumber (depth : Nat) (start : List Char) (negative : Bool) (cs : List Char) :
    Within depth cs (readNumber start negative cs) := by
  unfold readNumber
  extract_lets whole
  have front : whole <+: cs ∧ ∀ c ∈ whole, isDigit c = true := by
    dsimp only [whole]
    split
    · exact ⟨List.prefix_append ['0'] _, by decide⟩
    · exact ⟨List.takeWhile_prefix _, fun c hc => List.mem_takeWhile_imp hc⟩
  clear_value whole
  split
  · exact .error (.malformed _ _)
  have ends := (readExponent_suffix _).trans
    ((readFraction_suffix _).trans (List.drop_suffix whole.length cs))
  dsimp only
  split
  · split
    · next long => exact .error (.digits front.1.isInfix front.2 long)
    · exact .ok ends
  · exact .ok ends

theorem readWord_suffix {d : Data} (h : readWord cs = some (d, rest)) : rest <:+ cs := by
  obtain ⟨⟨word, value⟩, -, hw⟩ := List.exists_of_findSome?_eq_some h
  obtain ⟨rest', after, ⟨⟩⟩ := Option.map_eq_some_iff.mp hw
  unfold afterWord at after
  split at after
  · cases after
    exact List.drop_suffix _ _
  · cases after

/-! ## Values -/

/-- With so much fuel the readers of values, items and members stay within the limits of their input. -/
structure Limited (fuel : Nat) : Prop where
  value : ∀ depth cs, Within depth cs (readValue depth fuel cs)
  items : ∀ depth items cs, Within depth cs (readItems depth fuel items cs)
  members : ∀ depth members cs, Within depth cs (readMembers depth fuel members cs)

namespace Limited

variable {fuel : Nat}

theorem value_succ (ih : Limited fuel) (depth : Nat) (cs : List Char) :
    Within depth cs (readValue depth (fuel + 1) cs) := by
  unfold readValue
  split
  · next rest =>
    have text := (within_readText depth ('"' :: rest) [] rest).of_suffix (List.suffix_cons '"' rest)
    cases ht : readText ('"' :: rest) [] rest with
    | ok found =>
      rw [ht] at text
      cases text with
      | ok ends => exact .ok ends
    | error fault =>
      rw [ht] at text
      cases text with
      | error h => exact .error h
  · next rest =>
    split
    · exact .error (.deep (by simp [opened]))
    · next h => exact .ok ((suffix_of_skipSpace_eq h).trans (List.suffix_cons _ _))
    · exact ((ih.members _ [] _).of_suffix (skipSpace_suffix rest)).open_bracket (.inr rfl)
  · next rest =>
    split
    · exact .error (.deep (by simp [opened]))
    · next h => exact .ok ((suffix_of_skipSpace_eq h).trans (List.suffix_cons _ _))
    · exact ((ih.items _ [] _).of_suffix (skipSpace_suffix rest)).open_bracket (.inl rfl)
  · split
    · next h => exact .ok (readWord_suffix h)
    · split
      · exact (within_readNumber depth _ true _).of_suffix (List.suffix_cons _ _)
      · exact within_readNumber depth _ false cs

theorem items_succ (ih : Limited fuel) (depth : Nat) (items : List Data) (cs : List Char) :
    Within depth cs (readItems depth (fuel + 1) items cs) := by
  unfold readItems
  have first := ih.value depth cs
  split
  · next fault h =>
    rw [h] at first
    cases first with
    | error h => exact .error h
  · next item rest h =>
    rw [h] at first
    cases first with
    | ok ends =>
      split
      · next h' => exact .ok ((suffix_of_skipSpace_eq h').trans ends)
      · next h' =>
        refine (ih.items depth _ _).of_suffix ?_
        exact (skipSpace_suffix _).trans ((suffix_of_skipSpace_eq h').trans ends)
      · exact .error (.malformed _ _)

theorem members_succ (ih : Limited fuel) (depth : Nat) (members : List (Data × Data))
    (cs : List Char) : Within depth cs (readMembers depth (fuel + 1) members cs) := by
  unfold readMembers
  split
  on_goal 2 => exact .error (.malformed _ _)
  next rest =>
  have text := (within_readText depth ('"' :: rest) [] rest).of_suffix (List.suffix_cons '"' rest)
  split
  · next fault h =>
    rw [h] at text
    cases text with
    | error h => exact .error h
  next key rest' h =>
  rw [h] at text
  cases text with
  | ok ends =>
    split
    on_goal 2 => exact .error (.malformed _ _)
    next rest₁ colon =>
    have behind := (skipSpace_suffix rest₁).trans ((suffix_of_skipSpace_eq colon).trans ends)
    have value := (ih.value depth (skipSpace rest₁)).of_suffix behind
    split
    · next fault h =>
      rw [h] at value
      cases value with
      | error h => exact .error h
    · next v rest₂ h =>
      rw [h] at value
      cases value with
      | ok ends =>
        dsimp only
        split
        · next h' => exact .ok ((suffix_of_skipSpace_eq h').trans ends)
        · next h' =>
          refine (ih.members depth _ _).of_suffix ?_
          exact (skipSpace_suffix _).trans ((suffix_of_skipSpace_eq h').trans ends)
        · exact .error (.malformed _ _)

end Limited

theorem limited (fuel : Nat) : Limited fuel := by
  induction fuel with
  | zero =>
    exact ⟨fun _ _ => .error (.malformed _ _), fun _ _ _ => .error (.malformed _ _),
      fun _ _ _ => .error (.malformed _ _)⟩
  | succ fuel ih => exact ⟨ih.value_succ, ih.items_succ, ih.members_succ⟩

/-- A text that is not read is malformed, or it breaks a limit. -/
theorem breaks_of_read [StackRoom] (h : read cs = .error fault) : Breaks StackRoom.json cs fault := by
  unfold read at h
  split at h
  · cases h
    exact .malformed _ _
  have value := ((limited (2 * cs.length + 2)).value StackRoom.json (skipSpace cs)).of_suffix
    (skipSpace_suffix cs)
  split at h
  · next h' =>
    cases h
    rw [h'] at value
    cases value with
    | error h => exact h
  · split at h
    · cases h
    · cases h
      exact .malformed _ _

end Walkthrough.Json
