import Walkthrough.Json.Writer
import Walkthrough.Proofs.Json.Reader
import Walkthrough.Proofs.Number.Numerals

/-! What is written is read. `Data.Plain` are values of texts, integers, lists and objects that stay within the
limits of reading. Each of them is read from what `Json.write` writes of it (`Json.read_write`), whatever
characters its texts hold, and this is one line (`Json.not_mem_write`). -/

namespace Walkthrough

/-- Values of texts, integers, lists and objects, nested at most `depth` deep. -/
inductive Data.Plain : Nat → Data → Prop
  | int {depth : Nat} {n : Int} (short : Number.isOverlong n = false) : Plain depth (.int n)
  | text {depth : Nat} (s : String) : Plain depth (.text s)
  | list {depth : Nat} {items : List Data} (h : ∀ d ∈ items, Plain depth d) : Plain (depth + 1) (.list items)
  | object {depth : Nat} {fs : List (String × Data)} (once : (Assoc.keys fs).Nodup)
    (values : ∀ e ∈ fs, Plain depth e.2) : Plain (depth + 1) (.object fs)

namespace Json

open Text

variable {c : Char} {cs rest : List Char} {depth fuel : Nat}

/-! ## Texts -/

/-- Four digits with something after them are read as the number that they write. -/
theorem hexFour_hexPadded {n : Nat} (h : n < 32) (next : Char) (rest : List Char) :
    hexFour (hexPadded 4 n ++ next :: rest) = some (n, next :: rest) := by
  have digits : ∀ n < 32, (hexPadded 4 n).length = 4 ∧
      ((hexPadded 4 n).mapM hexValue).map (ofDigits 16) = some n := by decide
  obtain ⟨four, value⟩ := digits n h
  obtain ⟨a, b, c, d, eq⟩ := List.length_eq_four.mp four
  rw [eq] at value ⊢
  obtain ⟨ds, read, rfl⟩ := Option.map_eq_some_iff.mp value
  simp only [hexFour, List.cons_append, List.nil_append, read]
  rfl

theorem readText_quote (start read rest : List Char) :
    readText start read ('"' :: rest) = .ok (String.ofList read.reverse, rest) := by
  rw [readText]

theorem readText_simple {d : Char} (h : simpleEscape c = some d) (start read rest : List Char) :
    readText start read ('\\' :: c :: rest) = readText start (d :: read) rest := by
  have other : c ≠ 'u' := by
    rintro rfl
    cases h
  rw [readText]
  · simp only [h]
  · simpa using other

theorem readText_escape_ok {n : Nat} (h : unicodeEscape cs = .ok (n, rest)) (start read : List Char) :
    readText start read ('\\' :: 'u' :: cs) = readText start ((holdPoint n).reverseAux read) rest := by
  rw [readText]
  split
  · next failed =>
    rw [h] at failed
    cases failed
  · next found =>
    rw [h] at found
    cases found
    rfl

theorem readText_control {n : Nat} (h : n < 32) (start read : List Char) (next : Char) (rest : List Char) :
    readText start read ('\\' :: 'u' :: (hexPadded 4 n ++ next :: rest)) =
      readText start (Char.ofNat n :: read) (next :: rest) := by
  have high : ∀ n < 32, isHighSurrogate n = false ∧ holdPoint n = [Char.ofNat n] := by decide
  have escape : unicodeEscape (hexPadded 4 n ++ next :: rest) = .ok (n, next :: rest) := by
    rw [unicodeEscape, hexFour_hexPadded h]
    dsimp only
    rw [(high n h).1]
  rw [readText_escape_ok escape, (high n h).2]
  rfl

theorem readText_plain (quote : c ≠ '"') (backslash : c ≠ '\\') (shown : ¬ c.toNat < 0x20)
    (start read rest : List Char) :
    readText start read (c :: rest) = readText start (c :: read) rest := by
  rw [readText]
  · rw [if_neg shown]
  all_goals simp [quote, backslash]

/-- A character is written by a letter that stands for it, by its number, or as it is. -/
theorem escapeChar_cases (c : Char) :
    (∃ letter, simpleEscape letter = some c ∧ escapeChar c = ['\\', letter]) ∨
      (c.toNat < 32 ∧ escapeChar c = '\\' :: 'u' :: hexPadded 4 c.toNat) ∨
        ((c ≠ '"' ∧ c ≠ '\\' ∧ ¬ c.toNat < 32) ∧ escapeChar c = [c]) := by
  have char {d : Char} (h : c.toNat = d.toNat) : c = d :=
    (Char.ofNat_toNat c).symm.trans (h ▸ Char.ofNat_toNat d)
  unfold escapeChar
  split
  · next h => exact .inl ⟨'"', by rw [beq_iff_eq.mp h]; rfl, rfl⟩
  split
  · next h => exact .inl ⟨'\\', by rw [beq_iff_eq.mp h]; rfl, rfl⟩
  split
  · next h => exact .inl ⟨'n', beq_iff_eq.mp h ▸ rfl, rfl⟩
  split
  · next h => exact .inl ⟨'r', beq_iff_eq.mp h ▸ rfl, rfl⟩
  split
  · next h => exact .inl ⟨'t', beq_iff_eq.mp h ▸ rfl, rfl⟩
  split
  · next h => exact .inl ⟨'b', char (d := '\x08') (beq_iff_eq.mp h) ▸ rfl, rfl⟩
  split
  · next h => exact .inl ⟨'f', char (d := '\x0c') (beq_iff_eq.mp h) ▸ rfl, rfl⟩
  split
  · next control => exact .inr (.inl ⟨control, rfl⟩)
  · next quote backslash _ _ _ _ _ shown =>
    exact .inr (.inr ⟨⟨by simpa using quote, by simpa using backslash, shown⟩, rfl⟩)

/-- What stands for a character is read as this character, if something follows. -/
theorem readText_escapeChar (start read : List Char) (c next : Char) (rest : List Char) :
    readText start read (escapeChar c ++ next :: rest) = readText start (c :: read) (next :: rest) := by
  rcases escapeChar_cases c with ⟨letter, stands, eq⟩ | ⟨control, eq⟩ | ⟨⟨quote, backslash, shown⟩, eq⟩
  · rw [eq]
    exact readText_simple stands start read _
  · rw [eq]
    exact (readText_control control start read next rest).trans (by rw [Char.ofNat_toNat])
  · rw [eq]
    exact readText_plain quote backslash shown start read _

theorem readText_escape (start read cs rest : List Char) :
    readText start read (cs.flatMap escapeChar ++ '"' :: rest) =
      .ok (String.ofList (read.reverse ++ cs), rest) := by
  induction cs generalizing read with
  | nil => rw [List.flatMap_nil, List.nil_append, readText_quote, List.append_nil]
  | cons c cs ih =>
    obtain ⟨next, more, follows⟩ : ∃ next more, cs.flatMap escapeChar ++ '"' :: rest = next :: more := by
      cases cs.flatMap escapeChar with
      | nil => exact ⟨_, _, rfl⟩
      | cons d ds => exact ⟨_, _, rfl⟩
    rw [List.flatMap_cons, List.append_assoc, follows, readText_escapeChar, ← follows, ih,
      List.reverse_cons, List.append_assoc, List.singleton_append]

theorem toList_writeText (s : String) :
    (writeText s).toList = '"' :: (s.toList.flatMap escapeChar ++ ['"']) :=
  String.toList_ofList

theorem readText_writeText (start rest : List Char) (s : String) :
    readText start [] (s.toList.flatMap escapeChar ++ '"' :: rest) = .ok (s, rest) := by
  rw [readText_escape, List.reverse_nil, List.nil_append, String.ofList_toList]

/-! ## Integers -/

/-- No number goes on in what follows. -/
def Stops (rest : List Char) : Prop := ∀ c ∈ rest.head?, isDigit c = false ∧ c ≠ '.' ∧ c ≠ 'e' ∧ c ≠ 'E'

theorem stops_cons (h : isDigit c = false ∧ c ≠ '.' ∧ c ≠ 'e' ∧ c ≠ 'E') (rest : List Char) :
    Stops (c :: rest) := by
  rintro _ ⟨⟩
  exact h

theorem stops_nil : Stops [] := nofun

theorem readFraction_of_stops (h : Stops rest) : readFraction rest = ([], rest) := by
  unfold readFraction
  split
  · exact absurd rfl (h '.' rfl).2.1
  · rfl

theorem readExponent_of_stops (h : Stops rest) : readExponent rest = (none, rest) := by
  cases rest with
  | nil => rfl
  | cons c rest =>
    obtain ⟨-, -, small, great⟩ := h c rfl
    unfold readExponent
    dsimp only
    rw [if_neg (by simp [small, great])]

theorem takeWhile_of_stops (h : Stops rest) : rest.takeWhile isDigit = [] := by
  cases rest with
  | nil => rfl
  | cons c rest => rw [List.takeWhile_cons_of_neg (by rw [(h c rfl).1]; exact Bool.false_ne_true)]

theorem isDigit_of_mem_decimal {n : Nat} (h : c ∈ decimal n) : isDigit c = true :=
  Nat.isDigit_of_mem_toDigits (by decide) (by decide) h

theorem decimal_ne_nil (n : Nat) : decimal n ≠ [] :=
  List.ne_nil_of_length_pos Nat.length_toDigits_pos

theorem ofDecimal_decimal (n : Nat) : ofDecimal (decimal n) = n := by
  have fold : ofDecimal (decimal n) = Nat.ofDigitChars 10 (Nat.toDigits 10 n) 0 := by
    rw [ofDecimal, ofDigits, List.foldl_map, Nat.ofDigitChars_eq_foldl]
    exact congrArg (fun step => List.foldl step 0 (Nat.toDigits 10 n))
      (funext fun sofar => funext fun c => congrArg (· + _) (Nat.mul_comm sofar 10))
  rw [fold, Nat.ofDigitChars_ten_toDigits]

/-- Only zero is written with a zero in front. -/
theorem head?_decimal {n : Nat} (h : 0 < n) : (decimal n).head? ≠ some '0' := by
  have digits : ∀ m < 10, 0 < m → [m.digitChar].head? ≠ some '0' := by decide
  induction n using Nat.strongRecOn with
  | ind n ih =>
    rw [decimal, Nat.toDigits_eq_if (by decide)]
    split
    · next small => exact digits n small h
    · next great =>
      have front := ih (n / 10) (by omega) (by omega)
      obtain ⟨c, more, eq⟩ := List.exists_cons_of_ne_nil (decimal_ne_nil (n / 10))
      rw [eq] at front
      rw [decimal] at eq
      rw [eq]
      exact front

/-- Where digits begin with a zero, they are the zero alone. -/
theorem decimal_of_zero {n : Nat} {more : List Char} (h : decimal n ++ rest = '0' :: more) :
    decimal n = ['0'] := by
  obtain ⟨c, digits, eq⟩ := List.exists_cons_of_ne_nil (decimal_ne_nil n)
  rw [eq, List.cons_append, List.cons.injEq] at h
  rcases Nat.eq_zero_or_pos n with rfl | positive
  · rfl
  · exact absurd (by rw [eq, h.1]; rfl) (head?_decimal positive)

theorem takeWhile_decimal (n : Nat) (h : Stops rest) :
    (decimal n ++ rest).takeWhile isDigit = decimal n := by
  rw [List.takeWhile_append_of_pos fun c => isDigit_of_mem_decimal, takeWhile_of_stops h,
    List.append_nil]

theorem length_decimal_le {n : Nat} (short : Number.isOverlong n = false) :
    (decimal n).length ≤ digitLimit := by
  rw [Number.isOverlong, decide_eq_false_iff_not, Int.natAbs_natCast, Nat.not_le] at short
  have positive : 0 < digitLimit := by decide
  have same : Number.digitLimit = digitLimit := rfl
  rw [same] at short
  generalize digitLimit = limit at short positive ⊢
  exact (Nat.length_toDigits_le_iff (by decide) positive).mpr short

theorem readNumber_decimal {n : Nat} (short : Number.isOverlong n = false) (h : Stops rest)
    (start : List Char) (negative : Bool) :
    readNumber start negative (decimal n ++ rest) = .ok (.int (if negative then -n else n), rest) := by
  unfold readNumber
  extract_lets whole
  have eq : whole = decimal n := by
    dsimp only [whole]
    split
    · next zero => exact (decimal_of_zero zero).symm
    · exact takeWhile_decimal n h
  clear_value whole
  subst eq
  split
  · next none => exact absurd none (decimal_ne_nil n)
  · have same : (ofDecimal (decimal n) : Int) = n := congrArg _ (ofDecimal_decimal n)
    rw [List.drop_left, readFraction_of_stops h]
    dsimp only
    rw [readExponent_of_stops h]
    dsimp only [List.isEmpty_nil, Option.isNone_none, Bool.and_self]
    have integer : (true && true) = true := rfl
    rw [if_pos integer, if_neg (Nat.not_lt.mpr (length_decimal_le short))]
    exact congrArg (fun m : Int => Except.ok (Data.int (if negative then -m else m), rest)) same

/-- No word has a digit among its first two characters. -/
theorem readWord_of_isDigit {i : Nat} (h : cs[i]? = some c) (digit : isDigit c = true) (first : i < 2) :
    readWord cs = none := by
  have words : ∀ word ∈ ["null", "true", "false", "NaN", "Infinity", "-Infinity"], ∀ i < 2,
      word.toList[i]?.any (fun d => !isDigit d) = true := by decide
  have none (word : String) (h' : word ∈ ["null", "true", "false", "NaN", "Infinity", "-Infinity"]) :
      afterWord word cs = none := by
    unfold afterWord
    split
    · next begins =>
      obtain ⟨d, hd, other⟩ := (Option.any_eq_true _ _).mp (words word h' i first)
      obtain ⟨hi, rfl⟩ := List.getElem?_eq_some_iff.mp hd
      have same := List.prefix_iff_getElem?.mp (List.isPrefixOf_iff_prefix.mp begins) i hi
      rw [h, Option.some.injEq] at same
      rw [← same, digit] at other
      cases other
    · rfl
  rw [readWord, List.findSome?_eq_none_iff]
  intro entry member
  dsimp only
  rw [none entry.1 (List.mem_map_of_mem (f := Prod.fst) member)]
  rfl

theorem ne_of_isDigit {d : Char} (digit : isDigit c = true) (h : isDigit d = false) : c ≠ d := by
  rintro rfl
  rw [digit] at h
  cases h

/-- An integer is written by its digits, behind a sign if it is negative. -/
theorem toList_toString_cases (n : Int) :
    (∃ m : Nat, n = m ∧ (toString n).toList = decimal m) ∨
      ∃ m : Nat, n = -m ∧ (toString n).toList = '-' :: decimal m := by
  rw [Int.toString_eq_repr, Int.repr_eq_if]
  split
  · exact .inl ⟨n.toNat, by omega, Nat.toList_repr⟩
  · refine .inr ⟨(-n).toNat, by omega, ?_⟩
    rw [String.toList_append, Nat.toList_repr]
    rfl

theorem isOverlong_neg (n : Int) : Number.isOverlong (-n) = Number.isOverlong n :=
  congrArg (fun m => decide (Nat.pow 10 Number.digitLimit ≤ m)) (Int.natAbs_neg n)

theorem readValue_minus (word : readWord ('-' :: cs) = none) :
    readValue depth (fuel + 1) ('-' :: cs) = readNumber ('-' :: cs) true cs := by
  rw [readValue, word]

theorem readValue_digit (digit : isDigit c = true) (cs : List Char) :
    readValue depth (fuel + 1) (c :: cs) = readNumber (c :: cs) false (c :: cs) := by
  have other {d : Char} (h : isDigit d = false) {tail : List Char} : c :: cs ≠ d :: tail := fun eq =>
    ne_of_isDigit digit h (List.cons.inj eq).1
  have word : readWord (c :: cs) = none := readWord_of_isDigit (i := 0) rfl digit (by decide)
  unfold readValue
  split
  · next eq => exact absurd eq (other (by decide))
  · next eq => exact absurd eq (other (by decide))
  · next eq => exact absurd eq (other (by decide))
  · rw [word]
    dsimp only
    split
    · next eq => exact absurd eq (other (by decide))
    · rfl

theorem readValue_int {n : Int} (short : Number.isOverlong n = false) (h : Stops rest) :
    readValue depth (fuel + 1) ((toString n).toList ++ rest) = .ok (.int n, rest) := by
  have first (m : Nat) : ∃ c digits, decimal m ++ rest = c :: digits ∧ isDigit c = true := by
    obtain ⟨c, digits, eq⟩ := List.exists_cons_of_ne_nil (decimal_ne_nil m)
    exact ⟨c, digits ++ rest, by rw [eq]; rfl, isDigit_of_mem_decimal (eq ▸ List.mem_cons_self)⟩
  rcases toList_toString_cases n with ⟨m, rfl, written⟩ | ⟨m, rfl, written⟩
  · obtain ⟨c, digits, eq, digit⟩ := first m
    rw [written, eq, readValue_digit digit, ← eq]
    exact readNumber_decimal short h _ false
  · obtain ⟨c, digits, eq, digit⟩ := first m
    have word : readWord ('-' :: (decimal m ++ rest)) = none :=
      readWord_of_isDigit (i := 1) (by rw [eq]; rfl) digit (by decide)
    rw [isOverlong_neg] at short
    rw [written, List.cons_append, readValue_minus word]
    exact readNumber_decimal short h _ true

/-! ## How values begin -/

theorem skipSpace_cons (h : isSpace c = false) (cs : List Char) : skipSpace (c :: cs) = c :: cs :=
  List.dropWhile_cons_of_neg (by rw [h]; exact Bool.false_ne_true)

/-- The value is read from what is written of it, if no number can go on in what follows. Each entry of a list
or object takes at least one character, so the length of the text is fuel enough. -/
def Reads (depth : Nat) (d : Data) : Prop := ∀ fuel rest, (write d).toList.length ≤ fuel → Stops rest →
  readValue depth fuel ((write d).toList ++ rest) = .ok (d, rest)

/-- What is written begins with no space, with no bracket that ends something and with no mark. -/
def Begins (cs : List Char) : Prop :=
  ∃ c more, cs = c :: more ∧ isSpace c = false ∧ c ∉ [']', '\x7d', Char.ofNat 0xFEFF]

theorem toList_write_list (items : List Data) :
    (write (.list items)).toList = '[' :: ((writeItems {} items).toList ++ [']']) := by
  rw [write, writeWith, String.toList_append, String.toList_append]
  rfl

theorem toList_write_object (fs : List (String × Data)) : (write (.object fs)).toList =
    '\x7b' :: ((writeEntries {} (Data.members fs)).toList ++ ['\x7d']) := by
  rw [write, Data.object, writeWith, String.toList_append, String.toList_append]
  rfl

theorem begins_digit (h : isDigit c = true) :
    isSpace c = false ∧ c ∉ [']', '\x7d', Char.ofNat 0xFEFF] := by
  have others : ∀ d ∈ [' ', '\t', '\n', '\r', ']', '\x7d', Char.ofNat 0xFEFF], isDigit d = false := by decide
  refine ⟨?_, fun other => ?_⟩
  · rw [← Bool.not_eq_true]
    intro space
    have member : c ∈ [' ', '\t', '\n', '\r'] := by simpa [isSpace, or_assoc] using space
    exact ne_of_isDigit h (others c (List.mem_append_left _ member)) rfl
  · exact ne_of_isDigit h (others c (List.mem_append_right [' ', '\t', '\n', '\r'] other)) rfl

theorem begins_write {d : Data} (h : d.Plain depth) : Begins (write d).toList := by
  cases h with
  | @int depth n short =>
    have written : write (.int n) = toString n := rfl
    rw [written]
    rcases toList_toString_cases n with ⟨m, -, written⟩ | ⟨m, -, written⟩
    · obtain ⟨c, more, eq⟩ := List.exists_cons_of_ne_nil (decimal_ne_nil m)
      exact ⟨c, more, written.trans eq, begins_digit (isDigit_of_mem_decimal (eq ▸ List.mem_cons_self))⟩
    · exact ⟨'-', _, written, by decide⟩
  | text s => exact ⟨'"', _, toList_writeText s, by decide⟩
  | @list depth items h => exact ⟨'[', _, toList_write_list items, by decide⟩
  | @object depth fs once values => exact ⟨'\x7b', _, toList_write_object fs, by decide⟩

theorem Begins.skipSpace {cs : List Char} (h : Begins cs) (rest : List Char) :
    skipSpace (cs ++ rest) = cs ++ rest := by
  obtain ⟨c, more, rfl, visible, -⟩ := h
  exact skipSpace_cons visible _

theorem Begins.head?_ne {cs : List Char} (h : Begins cs) (other : c ∈ [']', '\x7d', Char.ofNat 0xFEFF])
    (rest : List Char) : (cs ++ rest).head? ≠ some c := by
  obtain ⟨d, more, rfl, -, begins⟩ := h
  rintro ⟨⟩
  exact begins other

/-! ## Lists -/

theorem writeItems_singleton (d : Data) : writeItems {} [d] = write d := by
  rw [writeItems]
  rfl

theorem toList_writeItems_cons (d e : Data) (items : List Data) : (writeItems {} (d :: e :: items)).toList =
    (write d).toList ++ ',' :: ' ' :: (writeItems {} (e :: items)).toList := by
  rw [writeItems, String.toList_append, String.toList_append, List.append_assoc]
  · rfl
  · exact nofun

theorem begins_writeItems {d : Data} (h : Begins (write d).toList) (items : List Data) :
    Begins (writeItems {} (d :: items)).toList := by
  cases items with
  | nil => rwa [writeItems_singleton]
  | cons e items =>
    obtain ⟨c, more, eq, begins⟩ := h
    rw [toList_writeItems_cons, eq]
    exact ⟨c, _, rfl, begins⟩

theorem readItems_writeItems {d : Data} {items : List Data} (h : ∀ e ∈ d :: items, Reads depth e)
    (begins : ∀ e ∈ d :: items, Begins (write e).toList) (done : List Data)
    (enough : (writeItems {} (d :: items)).toList.length < fuel) (rest : List Char) :
    readItems depth fuel done ((writeItems {} (d :: items)).toList ++ ']' :: rest) =
      .ok (.list (done.reverse ++ d :: items), rest) := by
  obtain ⟨fuel, rfl⟩ : ∃ n, fuel = n + 1 := ⟨fuel - 1, by omega⟩
  induction items generalizing d done fuel with
  | nil =>
    rw [writeItems_singleton] at enough ⊢
    have first := h d List.mem_cons_self fuel (']' :: rest) (by omega) (stops_cons (by decide) rest)
    rw [readItems, first]
    dsimp only
    rw [skipSpace_cons (by decide)]
    show Except.ok (Data.list (d :: done).reverse, rest) = _
    rw [List.reverse_cons]
  | cons e items ih =>
    rw [toList_writeItems_cons, List.length_append, List.length_cons, List.length_cons] at enough
    obtain ⟨hd, hs⟩ := List.forall_mem_cons.mp h
    obtain ⟨-, bs⟩ := List.forall_mem_cons.mp begins
    obtain ⟨fuel, rfl⟩ : ∃ n, fuel = n + 1 := ⟨fuel - 1, by omega⟩
    have first := hd (fuel + 1) (',' :: ' ' :: ((writeItems {} (e :: items)).toList ++ ']' :: rest)) (by omega)
      (stops_cons (by decide) _)
    have next := (begins_writeItems (bs e List.mem_cons_self) items).skipSpace (']' :: rest)
    rw [toList_writeItems_cons, List.append_assoc, List.cons_append, List.cons_append, readItems, first]
    dsimp only
    rw [skipSpace_cons (by decide)]
    show readItems depth (fuel + 1) (d :: done)
      (skipSpace ((writeItems {} (e :: items)).toList ++ ']' :: rest)) = _
    rw [next, ih hs bs (d :: done) fuel (by omega), List.reverse_cons, List.append_assoc]
    rfl

/-! ## Objects -/

/-- A member of an object as it is written. -/
def member (k : String) (d : Data) : List Char :=
  '"' :: (k.toList.flatMap escapeChar ++ '"' :: ':' :: ' ' :: (write d).toList)

/-- Members of an object one after the other, with a gap behind each comma. -/
def memberTexts (gap : List Char) : List (String × Data) → List Char
  | [] => []
  | [(k, d)] => member k d
  | (k, d) :: e :: fs => member k d ++ ',' :: (gap ++ memberTexts gap (e :: fs))

theorem toList_writeEntries (fs : List (String × Data)) :
    (writeEntries {} (Data.members fs)).toList = memberTexts [' '] fs := by
  have one (k : String) (d : Data) : (writeEntries {} (Data.members [(k, d)])).toList = member k d := by
    rw [Data.members, List.map_cons, List.map_nil, writeEntries, String.toList_append, String.toList_append,
      writeKey, toList_writeText, List.append_assoc, List.cons_append, List.append_assoc]
    rfl
  induction fs with
  | nil =>
    rw [Data.members, List.map_nil, writeEntries]
    rfl
  | cons e fs ih =>
    obtain ⟨k, d⟩ := e
    cases fs with
    | nil => exact one k d
    | cons e fs =>
      rw [memberTexts, ← ih, ← one, Data.members, Data.members, Data.members, List.map_cons, List.map_cons,
        writeEntries, List.map_singleton, writeEntries, String.toList_append, String.toList_append,
        List.append_assoc]
      · rfl
      · intro none
        cases none

theorem begins_memberTexts (gap : List Char) (e : String × Data) (fs : List (String × Data)) :
    Begins (memberTexts gap (e :: fs)) := by
  cases fs with
  | nil => exact ⟨'"', _, rfl, by decide⟩
  | cons e fs => exact ⟨'"', _, rfl, by decide⟩

/-- A member is read, and what follows decides how the object goes on. -/
theorem readMembers_member {d : Data} (h : Reads depth d) (begins : Begins (write d).toList) (k : String)
    (done : List (Data × Data)) (enough : (member k d).length ≤ fuel) (stops : Stops rest) :
    readMembers depth (fuel + 1) done (member k d ++ rest) =
      match skipSpace rest with
      | '\x7d' :: rest => .ok (Data.mapOf ((.text k, d) :: done).reverse, rest)
      | ',' :: rest => readMembers depth fuel ((.text k, d) :: done) (skipSpace rest)
      | rest => .error (.malformed .comma rest) := by
  have value := h fuel rest (by simp [member] at enough; omega) stops
  rw [member, List.cons_append, List.append_assoc, List.cons_append, List.cons_append, List.cons_append,
    readMembers, readText_writeText]
  dsimp only
  rw [skipSpace_cons (by decide)]
  split
  · next more eq =>
    obtain rfl := (List.cons.inj eq).2
    have next : skipSpace (' ' :: ((write d).toList ++ rest)) = _ := begins.skipSpace rest
    rw [next]
    generalize readValue depth fuel ((write d).toList ++ rest) = found at value ⊢
    subst value
    rfl
  · next other => exact absurd rfl (other _)

/-- Members are read if the gaps between them are blank and the object is closed behind them. -/
theorem readMembers_memberTexts {gap cs : List Char} (blank : ∀ c ∈ gap, isSpace c = true)
    {e : String × Data} {fs : List (String × Data)} (h : ∀ f ∈ e :: fs, Reads depth f.2)
    (begins : ∀ f ∈ e :: fs, Begins (write f.2).toList) (done : List (Data × Data))
    (enough : (memberTexts gap (e :: fs)).length < fuel) (closes : skipSpace cs = '\x7d' :: rest)
    (stops : Stops cs) : readMembers depth fuel done (memberTexts gap (e :: fs) ++ cs) =
      .ok (Data.mapOf (done.reverse ++ Data.members (e :: fs)), rest) := by
  obtain ⟨fuel, rfl⟩ : ∃ n, fuel = n + 1 := ⟨fuel - 1, by omega⟩
  obtain ⟨k, d⟩ := e
  induction fs generalizing k d done fuel with
  | nil =>
    obtain ⟨hd, -⟩ := List.forall_mem_cons.mp h
    obtain ⟨bd, -⟩ := List.forall_mem_cons.mp begins
    rw [memberTexts] at enough ⊢
    rw [readMembers_member hd bd k done (Nat.le_of_lt_succ enough) stops, closes, List.reverse_cons]
    rfl
  | cons e fs ih =>
    obtain ⟨k', d'⟩ := e
    obtain ⟨hd, hs⟩ := List.forall_mem_cons.mp h
    obtain ⟨bd, bs⟩ := List.forall_mem_cons.mp begins
    rw [memberTexts, List.length_append, List.length_cons, List.length_append] at enough
    obtain ⟨fuel, rfl⟩ : ∃ n, fuel = n + 1 := ⟨fuel - 1, by omega⟩
    have next : skipSpace (gap ++ (memberTexts gap ((k', d') :: fs) ++ cs)) =
        memberTexts gap ((k', d') :: fs) ++ cs :=
      (List.dropWhile_append_of_pos blank).trans ((begins_memberTexts gap (k', d') fs).skipSpace cs)
    have fits : (member k d).length ≤ fuel + 1 := by omega
    rw [memberTexts, List.append_assoc, List.cons_append, List.append_assoc,
      readMembers_member hd bd k done fits (stops_cons (by decide) _), skipSpace_cons (by decide)]
    show readMembers depth (fuel + 1) ((.text k, d) :: done)
      (skipSpace (gap ++ (memberTexts gap ((k', d') :: fs) ++ cs))) = _
    rw [next, ih ((.text k, d) :: done) fuel k' d' hs bs (by omega), List.reverse_cons, List.append_assoc]
    rfl

/-! ## What is written is read -/

theorem reads_text (s : String) : Reads depth (.text s) := by
  intro fuel rest enough _
  have written : (write (.text s)).toList = _ := toList_writeText s
  rw [written] at enough ⊢
  obtain ⟨fuel, rfl⟩ : ∃ n, fuel = n + 1 := ⟨fuel - 1, by rw [List.length_cons] at enough; omega⟩
  rw [List.cons_append, List.append_assoc, List.singleton_append, readValue, readText_writeText]
  rfl

theorem reads_int {n : Int} (short : Number.isOverlong n = false) : Reads depth (.int n) := by
  intro fuel rest enough stops
  have written : write (.int n) = toString n := rfl
  have positive : 0 < (toString n).toList.length := by
    rcases toList_toString_cases n with ⟨m, -, eq⟩ | ⟨m, -, eq⟩
    · rw [eq]
      exact Nat.length_toDigits_pos
    · rw [eq]
      exact Nat.succ_pos _
  rw [written] at enough ⊢
  obtain ⟨fuel, rfl⟩ : ∃ n, fuel = n + 1 := ⟨fuel - 1, by omega⟩
  exact readValue_int short stops

/-- A list with something in it is read item by item. -/
theorem readValue_list {ds : List Char} (h : skipSpace cs = ds) (some : ds.head? ≠ some ']') :
    readValue (depth + 1) (fuel + 1) ('[' :: cs) = readItems depth fuel [] ds := by
  unfold readValue
  split
  · next eq => exact absurd (List.cons.inj eq).1 (by decide)
  · next eq => exact absurd (List.cons.inj eq).1 (by decide)
  · next eq =>
    obtain rfl := (List.cons.inj eq).2
    rw [h]
    split
    · next none => cases none
    · exact absurd rfl some
    · next one _ =>
      cases one
      rfl
  · next other => exact absurd rfl (other _)

/-- An object with something in it is read member by member. -/
theorem readValue_object {ds : List Char} (h : skipSpace cs = ds) (some : ds.head? ≠ some '\x7d') :
    readValue (depth + 1) (fuel + 1) ('\x7b' :: cs) = readMembers depth fuel [] ds := by
  unfold readValue
  split
  · next eq => exact absurd (List.cons.inj eq).1 (by decide)
  · next eq =>
    obtain rfl := (List.cons.inj eq).2
    rw [h]
    split
    · next none => cases none
    · exact absurd rfl some
    · next one _ =>
      cases one
      rfl
  · next eq => exact absurd (List.cons.inj eq).1 (by decide)
  · next other _ => exact absurd rfl (other _)

theorem reads_list {items : List Data} (h : ∀ d ∈ items, Reads depth d)
    (begins : ∀ d ∈ items, Begins (write d).toList) : Reads (depth + 1) (.list items) := by
  intro fuel rest enough _
  rw [toList_write_list, List.length_cons, List.length_append, List.length_singleton] at enough
  obtain ⟨fuel, rfl⟩ : ∃ n, fuel = n + 1 := ⟨fuel - 1, by omega⟩
  rw [toList_write_list, List.cons_append, List.append_assoc, List.singleton_append]
  cases items with
  | nil =>
    have none : writeItems {} [] = "" := by rw [writeItems]
    rw [none]
    rfl
  | cons d items =>
    have first := begins_writeItems (begins d List.mem_cons_self) items
    have some := first.head?_ne (c := ']') (by decide) (']' :: rest)
    rw [readValue_list (first.skipSpace _) some]
    exact readItems_writeItems h begins [] (by omega) rest

theorem reads_object {fs : List (String × Data)} (once : (Assoc.keys fs).Nodup)
    (h : ∀ e ∈ fs, Reads depth e.2) (begins : ∀ e ∈ fs, Begins (write e.2).toList) :
    Reads (depth + 1) (.object fs) := by
  intro fuel rest enough _
  rw [toList_write_object, toList_writeEntries] at enough ⊢
  rw [List.length_cons, List.length_append, List.length_singleton] at enough
  obtain ⟨fuel, rfl⟩ : ∃ n, fuel = n + 1 := ⟨fuel - 1, by omega⟩
  rw [List.cons_append, List.append_assoc, List.singleton_append]
  cases fs with
  | nil => rfl
  | cons e fs =>
    have first := begins_memberTexts [' '] e fs
    have object : Data.mapOf (Data.members (e :: fs)) = Data.object (e :: fs) := by
      rw [Data.mapOf_texts, Assoc.ofPairs_of_nodup once]
    have some := first.head?_ne (c := '\x7d') (by decide) ('\x7d' :: rest)
    have closes : skipSpace ('\x7d' :: rest) = '\x7d' :: rest := skipSpace_cons (by decide) rest
    rw [readValue_object (first.skipSpace _) some, ← object]
    exact readMembers_memberTexts (by decide) h begins [] (by omega) closes (stops_cons (by decide) rest)

theorem reads_of_plain {d : Data} (h : d.Plain depth) : Reads depth d := by
  induction h with
  | int short => exact reads_int short
  | text s => exact reads_text s
  | list h ih => exact reads_list ih fun d hd => begins_write (h d hd)
  | object once values ih => exact reads_object once ih fun e he => begins_write (values e he)

/-- What is written of a plain value is read as this value. -/
theorem read_write [StackRoom] {d : Data} (h : d.Plain StackRoom.json) : read (write d).toList = .ok d := by
  have begins := begins_write h
  have value := reads_of_plain h (2 * (write d).toList.length + 2) [] (by omega) stops_nil
  have first := begins.skipSpace []
  have unmarked := begins.head?_ne (c := Char.ofNat 0xFEFF) (by decide) []
  rw [List.append_nil] at value first unmarked
  rw [read, if_neg (by rwa [beq_iff_eq]), first, value]
  rfl

theorem not_mem_escapeChar (c : Char) : '\n' ∉ escapeChar c := by
  rcases escapeChar_cases c with ⟨letter, stands, eq⟩ | ⟨control, eq⟩ | ⟨⟨-, -, shown⟩, eq⟩
  · rw [eq]
    intro member
    obtain rfl : '\n' = letter := by simpa using member
    cases stands
  · have digits : ∀ n < 32, '\n' ∉ '\\' :: 'u' :: hexPadded 4 n := by decide
    rw [eq]
    exact digits _ control
  · rw [eq, List.mem_singleton]
    rintro rfl
    exact shown (by decide)

theorem not_mem_writeText (s : String) : '\n' ∉ (writeText s).toList := by
  rw [toList_writeText, List.mem_cons, List.mem_append, List.mem_flatMap]
  rintro (quote | ⟨c, -, member⟩ | quote)
  · exact absurd quote (by decide)
  · exact not_mem_escapeChar c member
  · exact absurd quote (by decide)

theorem not_mem_writeItems {items : List Data} (h : ∀ d ∈ items, '\n' ∉ (write d).toList) :
    '\n' ∉ (writeItems {} items).toList := by
  induction items with
  | nil =>
    rw [writeItems]
    decide
  | cons d items ih =>
    obtain ⟨hd, hs⟩ := List.forall_mem_cons.mp h
    cases items with
    | nil => rwa [writeItems_singleton]
    | cons e items =>
      rw [toList_writeItems_cons]
      simp [hd, ih hs]

theorem not_mem_member (k : String) {d : Data} (h : '\n' ∉ (write d).toList) : '\n' ∉ member k d := by
  have key := not_mem_writeText k
  rw [toList_writeText] at key
  simp only [List.mem_cons, List.mem_append, not_or] at key
  simp [member, h, key.2.1]

theorem not_mem_memberTexts {gap : List Char} (hg : '\n' ∉ gap) {fs : List (String × Data)}
    (h : ∀ e ∈ fs, '\n' ∉ (write e.2).toList) : '\n' ∉ memberTexts gap fs := by
  induction fs with
  | nil => exact List.not_mem_nil
  | cons e fs ih =>
    obtain ⟨k, d⟩ := e
    obtain ⟨hd, hs⟩ := List.forall_mem_cons.mp h
    cases fs with
    | nil => exact not_mem_member k hd
    | cons e fs =>
      rw [memberTexts]
      simp [not_mem_member k hd, hg, ih hs]

/-- What is written stands on one line. -/
theorem not_mem_write {d : Data} (h : d.Plain depth) : '\n' ∉ (write d).toList := by
  induction h with
  | @int _ n short =>
    have digits (m : Nat) : '\n' ∉ decimal m := fun h =>
      ne_of_isDigit (isDigit_of_mem_decimal h) (by decide) rfl
    have written : write (.int n) = toString n := rfl
    rw [written]
    rcases toList_toString_cases n with ⟨m, -, eq⟩ | ⟨m, -, eq⟩
    · rw [eq]
      exact digits m
    · rw [eq, List.mem_cons, not_or]
      exact ⟨by decide, digits m⟩
  | text s => exact not_mem_writeText s
  | list _ ih =>
    rw [toList_write_list]
    simp [not_mem_writeItems ih]
  | object _ _ ih =>
    rw [toList_write_object, toList_writeEntries]
    have none := not_mem_memberTexts (by decide : '\n' ∉ [' ']) ih
    simp [none]

end Json

end Walkthrough
