import Walkthrough.Script.Line
import Walkthrough.Proofs.Text.LetterCase
import Walkthrough.Proofs.Text.Trim
import Mathlib.Data.List.TakeWhile

/-! The shapes of the lines of a script, told without the functions that recognise them, and for each
of these functions the shape that it recognises (`opening?_eq_some_host`, `pairLine_iff`,
`featureName?_eq_some_iff`, `truth?_eq_some_iff`, …). -/

namespace Walkthrough.Script

open Text

/-- The line that begins a block of features. -/
def featuresLine : List Char := ['F', 'e', 'a', 't', 'u', 'r', 'e', 's', ':']

/-- The line that begins the fields of a submission. -/
def fieldsLine : List Char := ['f', 'i', 'e', 'l', 'd', 's', ':']

/-- The word that begins a page. -/
def pageWord : List Char := ['P', 'a', 'g', 'e']

/-- `Host:` with a value. -/
def HostLine (value : String) (line : List Char) : Prop :=
  ∃ rest, line = ['H', 'o', 's', 't', ':'] ++ rest ∧ value = .ofList (trim rest)

/-- `Page` with a name, white space between them. -/
def PageLine (name : String) (line : List Char) : Prop :=
  ∃ c rest, line = pageWord ++ c :: rest ∧ isBlank c = true ∧ name = .ofList (trim rest)

/-- A line that opens a block wherever it stands. -/
def Keyword (line : List Char) : Prop :=
  (∃ value, HostLine value line) ∨ line = featuresLine ∨ line = pageWord ∨ ∃ name, PageLine name line

/-- `key: value`, split at the first colon; the key shows something. -/
def PairLine (key value : String) (line : List Char) : Prop :=
  ∃ front back, line = front ++ ':' :: back ∧ ':' ∉ front ∧ key = .ofList (trim front) ∧
    value = .ofList (trim back) ∧ key ≠ ""

/-- `- name:`, the heading of a feature. -/
def HeaderLine (name : String) (line : List Char) : Prop :=
  ∃ rest front, line = '-' :: rest ∧ trim rest = front ++ [':'] ∧ name = .ofList (trim front) ∧
    name ≠ ""

/-- A value that is written with double quotes around it or, if it does not look like that, as it
stands. -/
inductive Written : String → String → Prop
  | quoted (value : List Char) : Written (.ofList value) (.ofList ('"' :: (value ++ ['"'])))
  | bare (h : ¬∃ inner, value.toList = '"' :: (inner ++ ['"'])) : Written value value

/-- `- name: value`, the value perhaps in quotes. -/
def ItemLine (name value : String) (line : List Char) : Prop :=
  ∃ rest raw, line = '-' :: rest ∧ PairLine name raw rest ∧ Written value raw

/-- The word for a property in a script. -/
def Property.word : Property → String
  | .type => "type"
  | .target => "target"
  | .targetField => "target-field"
  | .value => "value"

/-- `property: value`, the value perhaps in quotes. -/
def PropertyLine (p : Property) (value : String) (line : List Char) : Prop :=
  ∃ raw, PairLine p.word raw line ∧ Written value raw

/-- The word for a truth value in small letters. -/
def truthWord : Bool → List Char
  | true => ['t', 'r', 'u', 'e']
  | false => ['f', 'a', 'l', 's', 'e']

/-- A truth value in any mixture of small and capital letters. -/
def TruthValue (b : Bool) (value : String) : Prop := value.toList.map Char.toLower = truthWord b

/-! ## Lines that open a block -/

variable {line : List Char} {name key value : String}

theorem opening?_eq_some_host {v : List Char} :
    opening? line = some (.host v) ↔
      ∃ rest, line = ['H', 'o', 's', 't', ':'] ++ rest ∧ v = trim rest := by
  unfold opening?
  split
  · next rest h =>
    rw [List.isPrefixOf?_eq_some_iff_append_eq] at h
    subst h
    simp [eq_comm]
  · next h =>
    constructor
    · split
      · nofun
      · cases pageName? line <;> nofun
    · rintro ⟨rest, rfl, -⟩
      rw [Option.eq_none_iff_forall_ne_some] at h
      exact absurd (List.isPrefixOf?_eq_some_iff_append_eq.mpr rfl) (h rest)

theorem opening?_eq_some_features : opening? line = some .features ↔ line = featuresLine := by
  unfold opening?
  split
  · next rest h =>
    rw [List.isPrefixOf?_eq_some_iff_append_eq] at h
    subst h
    simp [featuresLine]
  · split
    · next h => simp [h, featuresLine]
    · next h => cases pageName? line <;> simpa [featuresLine] using h

theorem pageName?_eq_some {n : List Char} : pageName? line = some n ↔
    line = pageWord ∧ n = [] ∨
      ∃ c rest, line = pageWord ++ c :: rest ∧ isBlank c = true ∧ n = trim rest := by
  unfold pageName?
  split
  · next h =>
    rw [Option.eq_none_iff_forall_ne_some] at h
    have hp : ∀ rest, line ≠ pageWord ++ rest := fun rest hr =>
      h rest (List.isPrefixOf?_eq_some_iff_append_eq.mpr hr.symm)
    constructor
    · nofun
    · rintro (⟨rfl, -⟩ | ⟨c, rest, hr, -⟩)
      · exact absurd rfl (hp [])
      · exact absurd hr (hp _)
  · next h =>
    rw [List.isPrefixOf?_eq_some_iff_append_eq] at h
    subst h
    constructor
    · rintro ⟨⟩
      exact .inl ⟨rfl, rfl⟩
    · rintro (⟨-, rfl⟩ | ⟨c, rest, hl, -⟩)
      · rfl
      · cases hl
  · next c rest h =>
    rw [List.isPrefixOf?_eq_some_iff_append_eq] at h
    subst h
    constructor
    · intro h
      split at h
      · next hc => exact .inr ⟨c, rest, rfl, hc, (Option.some.inj h).symm⟩
      · cases h
    · rintro (⟨hl, -⟩ | ⟨d, more, hl, hd, rfl⟩)
      · cases hl
      · cases hl
        exact if_pos hd

private theorem ne_of_page (h : line = pageWord ∨ ∃ c rest, line = pageWord ++ c :: rest) :
    (['H', 'o', 's', 't', ':'].isPrefixOf? line) = none ∧ line ≠ featuresLine := by
  rcases h with rfl | ⟨c, rest, rfl⟩
  · decide
  · exact ⟨by simp [List.isPrefixOf?, pageWord], by simp [pageWord, featuresLine]⟩

theorem opening?_eq_some_page {n : List Char} : opening? line = some (.page n) ↔
    line = pageWord ∧ n = [] ∨
      ∃ c rest, line = pageWord ++ c :: rest ∧ isBlank c = true ∧ n = trim rest := by
  rw [← pageName?_eq_some]
  constructor
  · unfold opening?
    split
    · nofun
    · split
      · nofun
      · intro h
        obtain ⟨m, hm, he⟩ := Option.map_eq_some_iff.mp h
        cases he
        exact hm
  · intro h
    have hl : line = pageWord ∨ ∃ c rest, line = pageWord ++ c :: rest := by
      rcases pageName?_eq_some.mp h with ⟨hl, -⟩ | ⟨c, rest, hl, -⟩
      · exact .inl hl
      · exact .inr ⟨c, rest, hl⟩
    obtain ⟨hh, hf⟩ := ne_of_page hl
    rw [opening?, hh]
    exact (if_neg hf).trans (by rw [h]; rfl)

theorem opening?_isSome_iff : (opening? line).isSome ↔ Keyword line := by
  rw [Option.isSome_iff_exists]
  constructor
  · rintro ⟨value | _ | n, h⟩
    · obtain ⟨rest, hl, -⟩ := opening?_eq_some_host.mp h
      exact .inl ⟨_, rest, hl, rfl⟩
    · exact .inr (.inl (opening?_eq_some_features.mp h))
    · rcases opening?_eq_some_page.mp h with ⟨hl, -⟩ | ⟨c, rest, hl, hc, -⟩
      · exact .inr (.inr (.inl hl))
      · exact .inr (.inr (.inr ⟨_, c, rest, hl, hc, rfl⟩))
  · rintro (⟨_, rest, hl, -⟩ | hl | hl | ⟨_, c, rest, hl, hc, -⟩)
    · exact ⟨_, opening?_eq_some_host.mpr ⟨rest, hl, rfl⟩⟩
    · exact ⟨_, opening?_eq_some_features.mpr hl⟩
    · exact ⟨_, opening?_eq_some_page.mpr (.inl ⟨hl, rfl⟩)⟩
    · exact ⟨_, opening?_eq_some_page.mpr (.inr ⟨c, rest, hl, hc, rfl⟩)⟩

theorem opening?_eq_none_iff : opening? line = none ↔ ¬Keyword line := by
  rw [← opening?_isSome_iff, Option.not_isSome_iff_eq_none]

/-- A line that opens a block begins with one of three capitals. -/
theorem Keyword.head (h : Keyword line) :
    ∃ c rest, line = c :: rest ∧ (c = 'H' ∨ c = 'F' ∨ c = 'P') := by
  rcases h with ⟨_, rest, rfl, -⟩ | rfl | rfl | ⟨_, c, rest, rfl, -⟩ <;>
    exact ⟨_, _, rfl, by decide⟩

/-! ## Pairs, items and headings -/

theorem splitAtFirst_eq {p : Char → Bool} {front back : List Char} {c : Char}
    (hf : ∀ d ∈ front, p d = false) (hc : p c = true) :
    splitAtFirst p (front ++ c :: back) = (front, c :: back) := by
  have hf' : ∀ d ∈ front, (fun d => !p d) d = true := fun d hd => by simp [hf d hd]
  rw [splitAtFirst, List.takeWhile_append_of_pos hf', List.dropWhile_append_of_pos hf',
    List.takeWhile_cons_of_neg (by simp [hc]), List.dropWhile_cons_of_neg (by simp [hc]),
    List.append_nil]

theorem splitAtFirst_colon {front : List Char} (h : ':' ∉ front) (back : List Char) :
    splitAtFirst (· = ':') (front ++ ':' :: back) = (front, ':' :: back) :=
  splitAtFirst_eq (fun _ hd => decide_eq_false fun he => h (he ▸ hd)) (decide_eq_true rfl)

theorem splitAtFirst_spec (p : Char → Bool) (cs : List Char) :
    (∀ c ∈ cs, p c = false) ∧ splitAtFirst p cs = (cs, []) ∨
      ∃ front c back, cs = front ++ c :: back ∧ (∀ d ∈ front, p d = false) ∧ p c = true ∧
        splitAtFirst p cs = (front, c :: back) := by
  have happ := List.takeWhile_append_dropWhile (p := fun d => !p d) (l := cs)
  have hfront : ∀ d ∈ cs.takeWhile (fun d => !p d), p d = false := fun d hd => by
    simpa using List.mem_takeWhile_imp hd
  cases hd : cs.dropWhile (fun d => !p d) with
  | nil =>
    rw [hd, List.append_nil] at happ
    refine .inl ⟨happ ▸ hfront, ?_⟩
    rw [splitAtFirst, hd, happ]
  | cons c back =>
    have hc := List.head?_dropWhile_not (fun d => !p d) cs
    rw [hd] at hc happ
    refine .inr ⟨_, c, back, happ.symm, hfront, by simpa using hc, ?_⟩
    rw [splitAtFirst, hd]

theorem pair?_eq_some_iff {k v : List Char} :
    pair? line = some (k, v) ↔ PairLine (.ofList k) (.ofList v) line := by
  unfold pair?
  rcases splitAtFirst_spec (· = ':') line with ⟨hn, hs⟩ | ⟨front, c, back, rfl, hf, hc, hs⟩
  · rw [hs]
    refine ⟨nofun, ?_⟩
    rintro ⟨front, back, rfl, -⟩
    exact absurd (hn ':' (by simp)) (by simp)
  · rw [hs]
    have hc : c = ':' := by simpa using hc
    subst hc
    have hf : ':' ∉ front := fun h => by simpa using hf ':' h
    change (if (trim front).isEmpty then none else some (trim front, trim back)) = _ ↔ _
    constructor
    · intro h
      split at h
      · cases h
      · next he =>
        cases h
        refine ⟨front, back, rfl, hf, rfl, rfl, fun h => he ?_⟩
        rw [← String.ofList_nil, String.ofList_inj] at h
        rw [h]
        rfl
    · rintro ⟨front', back', hl, hf', hk, hv, hne⟩
      have hs' := splitAtFirst_colon hf' back'
      rw [← hl, hs] at hs'
      cases hs'
      rw [String.ofList_inj] at hk hv
      subst hk hv
      refine if_neg fun h => hne ?_
      rw [List.isEmpty_iff.mp h]

theorem pairLine_iff : PairLine key value line ↔ pair? line = some (key.toList, value.toList) := by
  rw [pair?_eq_some_iff, String.ofList_toList, String.ofList_toList]

/-- A line is a pair in one way. -/
theorem PairLine.unique {key' value' : String} (h : PairLine key value line)
    (h' : PairLine key' value' line) : key = key' ∧ value = value' := by
  have hs := (pairLine_iff.mp h).symm.trans (pairLine_iff.mp h')
  rw [Option.some.injEq, Prod.mk.injEq] at hs
  exact ⟨String.toList_inj.mp hs.1, String.toList_inj.mp hs.2⟩

/-- The two sides of a pair are tight. -/
theorem PairLine.tight (h : PairLine key value line) : Tight key.toList ∧ Tight value.toList := by
  obtain ⟨front, back, -, -, rfl, rfl, -⟩ := h
  rw [String.toList_ofList, String.toList_ofList]
  exact ⟨tight_trim _, tight_trim _⟩

theorem written_iff {raw : String} : Written value raw ↔ .ofList (unquote raw.toList) = value := by
  constructor
  · rintro (⟨v⟩ | ⟨h⟩)
    · rw [String.toList_ofList]
      simp [unquote]
    · unfold unquote
      split
      · next rest hv =>
        rw [if_neg, String.ofList_toList]
        intro hl
        obtain ⟨inner, rfl⟩ := List.getLast?_eq_some_iff.mp hl
        exact h ⟨inner, hv⟩
      · exact String.ofList_toList
  · rintro rfl
    unfold unquote
    split
    · next rest hv =>
      split
      · next hl =>
        obtain ⟨inner, rfl⟩ := List.getLast?_eq_some_iff.mp hl
        rw [List.dropLast_concat, ← String.ofList_toList (s := raw), hv]
        exact .quoted inner
      · next hl =>
        rw [String.ofList_toList]
        refine .bare fun ⟨inner, hi⟩ => hl ?_
        rw [hv] at hi
        rw [(List.cons.inj hi).2]
        exact List.getLast?_concat
    · next hv =>
      rw [String.ofList_toList]
      exact .bare fun ⟨inner, hi⟩ => hv _ hi

theorem itemRest?_eq_some_iff {rest : List Char} : itemRest? line = some rest ↔ line = '-' :: rest := by
  unfold itemRest?
  split
  · simp
  · next h => exact ⟨nofun, fun hl => absurd hl (h rest)⟩

theorem featureName?_eq_some_iff {rest n : List Char} : featureName? rest = some n ↔
    ∃ front, trim rest = front ++ [':'] ∧ n = trim front ∧ n ≠ [] := by
  unfold featureName?
  split
  · next hl =>
    obtain ⟨front, hf⟩ := List.getLast?_eq_some_iff.mp hl
    rw [hf, List.dropLast_concat]
    constructor
    · intro h
      simp only at h
      split at h
      · cases h
      · next he =>
        cases h
        exact ⟨front, rfl, rfl, fun h => he (List.isEmpty_iff.mpr h)⟩
    · rintro ⟨front', hf', rfl, hne⟩
      cases List.append_cancel_right hf'
      exact if_neg fun h => hne (List.isEmpty_iff.mp h)
  · next hl =>
    refine ⟨nofun, ?_⟩
    rintro ⟨front, hf, -⟩
    exact absurd (hf ▸ List.getLast?_concat) hl

theorem headerLine_iff : HeaderLine name line ↔
    ∃ rest n, itemRest? line = some rest ∧ featureName? rest = some n ∧ name = .ofList n := by
  constructor
  · rintro ⟨rest, front, rfl, hr, rfl, hne⟩
    refine ⟨rest, _, rfl, featureName?_eq_some_iff.mpr ⟨front, hr, rfl, ?_⟩, rfl⟩
    rintro h
    exact hne (by rw [h])
  · rintro ⟨rest, n, hl, hn, rfl⟩
    obtain ⟨front, hr, rfl, hne⟩ := featureName?_eq_some_iff.mp hn
    refine ⟨rest, front, itemRest?_eq_some_iff.mp hl, hr, rfl, fun h => hne ?_⟩
    rwa [← String.ofList_nil, String.ofList_inj] at h

theorem itemLine_iff : ItemLine name value line ↔
    ∃ rest n v, itemRest? line = some rest ∧ pair? rest = some (n, v) ∧ name = .ofList n ∧
      value = .ofList (unquote v) := by
  constructor
  · rintro ⟨rest, raw, rfl, hp, hw⟩
    refine ⟨rest, _, _, rfl, pairLine_iff.mp hp, String.ofList_toList.symm, ?_⟩
    exact (written_iff.mp hw).symm
  · rintro ⟨rest, n, v, hl, hp, rfl, rfl⟩
    refine ⟨rest, .ofList v, itemRest?_eq_some_iff.mp hl, pair?_eq_some_iff.mp hp, ?_⟩
    rw [written_iff, String.toList_ofList]

theorem ofName?_eq_some_iff {p : Property} {n : List Char} :
    Property.ofName? n = some p ↔ .ofList n = p.word := by
  have hn : ∀ w : List Char, .ofList n = String.ofList w ↔ n = w := fun w => String.ofList_inj
  unfold Property.ofName?
  split
  · next h => subst h; cases p <;> decide
  split
  · next h => subst h; cases p <;> decide
  split
  · next h => subst h; cases p <;> decide
  split
  · next h => subst h; cases p <;> decide
  · next h1 h2 h3 h4 =>
    refine ⟨nofun, fun h => ?_⟩
    cases p
    · exact absurd ((hn _).mp h) h1
    · exact absurd ((hn _).mp h) h2
    · exact absurd ((hn _).mp h) h3
    · exact absurd ((hn _).mp h) h4

theorem propertyLine_iff {p : Property} : PropertyLine p value line ↔
    ∃ n v, pair? line = some (n, v) ∧ Property.ofName? n = some p ∧ value = .ofList (unquote v) := by
  constructor
  · rintro ⟨raw, hp, hw⟩
    refine ⟨_, _, pairLine_iff.mp hp, ?_, (written_iff.mp hw).symm⟩
    rw [ofName?_eq_some_iff, String.ofList_toList]
  · rintro ⟨n, v, hp, hn, rfl⟩
    refine ⟨.ofList v, ?_, ?_⟩
    · rw [← ofName?_eq_some_iff.mp hn]
      exact pair?_eq_some_iff.mp hp
    · rw [written_iff, String.toList_ofList]

theorem truth?_eq_some_iff {b : Bool} {v : List Char} (hv : Tight v) :
    truth? v = some b ↔ TruthValue b (.ofList v) := by
  have ht : lower (.ofList v) = "true" ↔ v.map Char.toLower = truthWord true := by
    have := lower_eq_iff (s := .ofList v) (w := truthWord true) (by decide)
    rwa [String.toList_ofList] at this
  have hf : lower (.ofList v) = "false" ↔ v.map Char.toLower = truthWord false := by
    have := lower_eq_iff (s := .ofList v) (w := truthWord false) (by decide)
    rwa [String.toList_ofList] at this
  rw [truth?, trim_of_tight hv, TruthValue, String.toList_ofList]
  simp only [ht, hf]
  split
  · next h => rw [h]; cases b <;> decide
  split
  · next h => rw [h]; cases b <;> decide
  · next h1 h2 => cases b <;> simp [h1, h2]

/-! ## Lines that are no keyword -/

/-- A line that opens no block and is no list item. -/
def Free (line : List Char) : Prop := ¬Keyword line ∧ itemRest? line = none

theorem not_keyword_of_item {rest : List Char} (h : itemRest? line = some rest) : ¬Keyword line := by
  rw [itemRest?_eq_some_iff] at h
  subst h
  intro hk
  obtain ⟨c, rest', h, hc⟩ := hk.head
  cases h
  exact absurd hc (by decide)

theorem free_of_head {c : Char} {rest : List Char} (h : line = c :: rest)
    (hc : c ≠ 'H' ∧ c ≠ 'F' ∧ c ≠ 'P' ∧ c ≠ '-') : Free line := by
  constructor
  · intro hk
    obtain ⟨d, rest', hd, hd'⟩ := hk.head
    rw [h] at hd
    cases hd
    rcases hd' with rfl | rfl | rfl
    · exact hc.1 rfl
    · exact hc.2.1 rfl
    · exact hc.2.2.1 rfl
  · rw [Option.eq_none_iff_forall_ne_some]
    intro rest' hr
    rw [itemRest?_eq_some_iff, h] at hr
    exact hc.2.2.2 (List.cons.inj hr).1

theorem PropertyLine.free {p : Property} (h : PropertyLine p value line) : Free line := by
  obtain ⟨raw, ⟨front, back, rfl, -, hk, -, -⟩, -⟩ := h
  obtain ⟨a, b, hf, ha, -, -⟩ := exists_trim front
  rw [← String.ofList_inj.mp ((String.ofList_toList).trans hk)] at hf
  cases a with
  | cons c a =>
    have hc := ha c List.mem_cons_self
    refine free_of_head (c := c) (by rw [hf]; rfl) ⟨?_, ?_, ?_, ?_⟩ <;> rintro rfl <;>
      exact absurd hc (by decide)
  | nil =>
    cases p <;> exact free_of_head (by rw [hf]; rfl) (by decide)

end Walkthrough.Script
