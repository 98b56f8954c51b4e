import Walkthrough.Proofs.Script.Grammar

/-! Writing scenarios as scripts. `write` puts the parts of a scenario on lines one after the other, and
`Writable` says for which scenarios this is a script of them (`parse_write`). -/

namespace Walkthrough.Script

open Text

/-! ## The writer -/

/-- `name: "value"`. -/
def quotedPair (name value : String) : List Char :=
  name.toList ++ [':', ' ', '"'] ++ value.toList ++ ['"']

/-- An entry of a context. A key that would open a block keeps its distance from the colon. -/
def entryLine (e : String × String) : List Char :=
  e.1.toList ++ (if e.1 = "Host" ∨ e.1 = "Features" then [' ', ':', ' '] else [':', ' ']) ++ e.2.toList

def featureLines (f : Feature) : List (List Char) :=
  ('-' :: ' ' :: f.name.toList ++ [':']) ::
    (['e', 'n', 'a', 'b', 'l', 'e', ':', ' '] ++ truthWord f.enabled) :: f.context.map entryLine

def itemLine (e : String × String) : List Char := '-' :: ' ' :: quotedPair e.1 e.2

def typeLine (t : ActionType) : List Char := ['t', 'y', 'p', 'e', ':', ' '] ++ t.name.toList

def propertyLine (e : Property × String) : List Char := quotedPair e.1.word e.2

def actionLines : Action → List (List Char)
  | .click target => [typeLine .click, propertyLine (.target, target.getD "")]
  | .enter field value => [typeLine .enter, propertyLine (.targetField, field.getD ""),
      propertyLine (.value, value.getD "")]
  | .submit fields =>
    typeLine .submit :: fieldsLine :: fields.map fun e => itemLine (e.1, e.2.getD "")

def pageLines (p : Page) : List (List Char) :=
  (pageWord ++ ' ' :: p.name.toList) :: expectedLine ::
    (p.expected.map fun e => itemLine (e.target, e.value)) ++ actionLine :: actionLines p.action

def scenarioLines (s : Scenario) : List (List Char) :=
  (['H', 'o', 's', 't', ':', ' '] ++ s.host.toList) :: featuresLine ::
    s.features.flatMap (fun e => featureLines e.2) ++ s.pages.flatMap pageLines

/-- The script of a scenario. -/
def write (s : Scenario) : List Char := unlines (scenarioLines s)

/-! ## What can be written -/

/-- A text that shows something, without white space at its ends and on one line. -/
structure Label (s : String) : Prop where
  shown : s ≠ ""
  tight : Tight s.toList
  unbroken : Unbroken s.toList

/-- A label that can stand before a colon. -/
structure Name (s : String) : Prop extends Label s where
  colon : ':' ∉ s.toList

/-- An entry of a context whose line is read as such. -/
structure Entry (key value : String) : Prop extends Name key where
  unreserved : key ∉ reservedKeys
  item : ¬['-'] <+: key.toList
  comment : ¬['/', '/'] <+: key.toList
  page : ∀ c, isBlank c = true → ¬pageWord ++ [c] <+: key.toList
  notOn : ¬(key = "on" ∧ value = "")
  tight_value : Tight value.toList
  unbroken_value : Unbroken value.toList

structure WritableFeature (f : Feature) : Prop where
  label : Label f.name
  entries : ∀ e ∈ f.context, Entry e.1 e.2
  once : (Assoc.keys f.context).Nodup

inductive WritableAction : Action → Prop
  | click {target} (shown : ¬AllBlank target.toList) (unbroken : Unbroken target.toList) :
      WritableAction (.click (some target))
  | enter {field value} (shown : ¬AllBlank field.toList) (unbroken : Unbroken field.toList)
      (unbroken_value : Unbroken value.toList) : WritableAction (.enter (some field) (some value))
  | submit {fields : List (String × String)} (names : ∀ e ∈ fields, Name e.1 ∧ Unbroken e.2.toList)
      (once : (Assoc.keys fields).Nodup) :
      WritableAction (.submit (fields.map fun e => (e.1, some e.2)))

structure WritablePage (p : Page) : Prop where
  label : Label p.name
  expected : ∀ e ∈ p.expected, Name e.target ∧ Unbroken e.value.toList
  action : WritableAction p.action

/-- A scenario that has a script. Its maps have no key twice, and every feature stands under its name. -/
structure Writable (s : Scenario) : Prop where
  host : Label s.host
  features : ∀ e ∈ s.features, e.1 = e.2.name ∧ WritableFeature e.2
  once : (Assoc.keys s.features).Nodup
  pages : ∀ p ∈ s.pages, WritablePage p

/-! ## The lines that are written -/

theorem Label.ne_nil {s : String} (h : Label s) : s.toList ≠ [] := by
  rw [Ne, String.toList_eq_nil_iff]
  exact h.shown

theorem Label.isBlankText {s : String} (h : Label s) : isBlankText s = false := by
  rw [isBlankText_eq_false_iff, ← trim_eq_nil_iff, trim_of_tight h.tight]
  exact h.ne_nil

theorem counts_cons {c : Char} {l : List Char} (hc : c ≠ '/') : Counts (c :: l) := by
  refine ⟨List.cons_ne_nil _ _, fun h => hc ?_⟩
  exact (List.cons_prefix_cons.mp h).1.symm

theorem counted_single {l : List Char} (ht : Tight l) (hc : Counts l) : counted [l] = [l] := by
  rw [counted, List.map_singleton, trim_of_tight ht, List.filter_singleton, decide_eq_true hc]
  rfl

theorem tight_cons_concat {c d : Char} {l : List Char} (hc : isBlank c = false)
    (hd : isBlank d = false) : Tight (c :: (l ++ [d])) := by
  constructor
  · rintro _ ⟨⟩
    exact hc
  · rw [← List.cons_append, List.getLast?_concat]
    rintro _ ⟨⟩
    exact hd

theorem name_word (p : Property) : Name p.word := by
  cases p <;> exact ⟨⟨by decide, ⟨by decide, by decide⟩, by decide⟩, by decide⟩

section

variable {name value : String}

theorem pairLine_quoted (h : Name name) (value : String) :
    PairLine name (.ofList ('"' :: (value.toList ++ ['"']))) (quotedPair name value) := by
  refine ⟨name.toList, ' ' :: '"' :: (value.toList ++ ['"']), ?_, h.colon, ?_, ?_, h.shown⟩
  · simp [quotedPair]
  · rw [trim_of_tight h.tight, String.ofList_toList]
  · rw [trim_cons (by decide), trim_of_tight (tight_cons_concat (by decide) (by decide))]

theorem PairLine.indent {line : List Char} (h : PairLine name value line) :
    PairLine name value (' ' :: line) := by
  obtain ⟨front, back, rfl, hc, rfl, rfl, hne⟩ := h
  refine ⟨' ' :: front, back, rfl, ?_, ?_, rfl, hne⟩
  · exact fun h => (List.mem_cons.mp h).elim (by decide) hc
  · rw [trim_cons (by decide)]

theorem written_quoted (value : String) : Written value (.ofList ('"' :: (value.toList ++ ['"']))) := by
  have := Written.quoted value.toList
  rwa [String.ofList_toList] at this

theorem unbroken_quotedPair (h : Name name) (hv : Unbroken value.toList) :
    Unbroken (quotedPair name value) :=
  .append (.append (.append h.unbroken (by decide)) hv) (by decide)

theorem item_spells (h : Name name) (value : String) :
    ItemSpells (name, value) (counted [itemLine (name, value)]) := by
  rw [counted_single]
  · exact .mk ⟨_, _, rfl, (pairLine_quoted h value).indent, written_quoted value⟩
  · exact tight_cons_concat (c := '-') (d := '"')
      (l := ' ' :: name.toList ++ [':', ' ', '"'] ++ value.toList)
      (by decide) (by decide)
  · exact counts_cons (by decide)

theorem property_spells (p : Property) (value : String) :
    (Part.property p value).Spells (counted [propertyLine (p, value)]) := by
  have hp := pairLine_quoted (name_word p) value
  obtain ⟨c, l, hl, hc⟩ : ∃ c l, p.word.toList = c :: l ∧ isBlank c = false ∧ c ≠ '/' := by
    cases p <;> exact ⟨_, _, rfl, by decide⟩
  have he : propertyLine (p, value) = c :: (l ++ [':', ' ', '"'] ++ value.toList ++ ['"']) := by
    rw [propertyLine, quotedPair, hl]
    rfl
  rw [counted_single]
  · exact .property ⟨_, hp, written_quoted value⟩
  · rw [he]
    exact tight_cons_concat hc.1 (by decide)
  · rw [he]
    exact counts_cons hc.2

theorem type_spells (t : ActionType) : (Part.property .type t.name).Spells (counted [typeLine t]) := by
  rw [counted_single]
  · refine .property ⟨t.name, ?_, .bare ?_⟩
    · rw [pairLine_iff]
      cases t <;> rfl
    · rintro ⟨inner, h⟩
      cases t <;> cases h
  · cases t <;> decide
  · cases t <;> exact counts_cons (by decide)

theorem host_spells (h : Label value) :
    (Block.host value).Spells (counted [['H', 'o', 's', 't', ':', ' '] ++ value.toList]) := by
  rw [counted_single]
  · refine .host ⟨' ' :: value.toList, rfl, ?_⟩ h.shown
    rw [trim_cons (by decide), trim_of_tight h.tight, String.ofList_toList]
  · exact .append (by decide) h.ne_nil (by decide) h.tight.2
  · exact counts_cons (by decide)

theorem page_line (h : Label name) : PageLine name (pageWord ++ ' ' :: name.toList) ∧
    counted [pageWord ++ ' ' :: name.toList] = [pageWord ++ ' ' :: name.toList] := by
  refine ⟨⟨' ', name.toList, rfl, by decide, ?_⟩, counted_single ?_ (counts_cons (by decide))⟩
  · rw [trim_of_tight h.tight, String.ofList_toList]
  · rw [List.append_cons]
    exact .append (by decide) h.ne_nil (by decide) h.tight.2

theorem header_line (h : Label name) : HeaderLine name ('-' :: ' ' :: name.toList ++ [':']) ∧
    counted ['-' :: ' ' :: name.toList ++ [':']] = ['-' :: ' ' :: name.toList ++ [':']] := by
  refine ⟨⟨' ' :: name.toList ++ [':'], name.toList, rfl, ?_, ?_, h.shown⟩, ?_⟩
  · rw [List.cons_append, trim_cons (by decide), trim_of_tight]
    exact .append h.ne_nil (by decide) h.tight.1 (by decide)
  · rw [trim_of_tight h.tight, String.ofList_toList]
  · exact counted_single (tight_cons_concat (l := ' ' :: name.toList) (by decide) (by decide))
      (counts_cons (by decide))

theorem enable_spells (b : Bool) : (Setting.enable b).Spells
    (counted [['e', 'n', 'a', 'b', 'l', 'e', ':', ' '] ++ truthWord b]) := by
  rw [counted_single]
  · have pair : PairLine "enable" (.ofList (truthWord b))
        (['e', 'n', 'a', 'b', 'l', 'e', ':', ' '] ++ truthWord b) := by
      rw [pairLine_iff]
      cases b <;> rfl
    refine .enable (free_of_head rfl (by decide)) pair ?_
    rw [TruthValue, String.toList_ofList]
    cases b <;> rfl
  · cases b <;> decide
  · exact counts_cons (by decide)

/-! ### Entries -/

theorem append_colon_inj {a b c d : List Char} (ha : ':' ∉ a) (hb : ':' ∉ b)
    (h : a ++ ':' :: c = b ++ ':' :: d) : a = b ∧ c = d := by
  have := splitAtFirst_colon ha c
  rw [h, splitAtFirst_colon hb] at this
  cases this
  exact ⟨rfl, rfl⟩

/-- The line of an entry opens no block, is no item and is no comment. -/
theorem Entry.free (h : Entry name value) (hn : ¬(name = "Host" ∨ name = "Features"))
    (back : List Char) : Free (name.toList ++ ':' :: back) ∧ Counts (name.toList ++ ':' :: back) := by
  have hword : ∀ w : List Char, name ≠ .ofList w → ':' ∉ w →
      ∀ rest, name.toList ++ ':' :: back ≠ w ++ ':' :: rest := by
    intro w hw hc rest he
    rw [← (append_colon_inj h.colon hc he).1, String.ofList_toList] at hw
    exact hw rfl
  refine ⟨⟨?_, ?_⟩, List.append_ne_nil_of_left_ne_nil h.ne_nil _, ?_⟩
  · rintro (⟨_, rest, hl, -⟩ | hl | hl | ⟨_, c, rest, hl, hc, -⟩)
    · exact hword ['H', 'o', 's', 't'] (fun he => hn (.inl he)) (by decide) rest hl
    · exact hword ['F', 'e', 'a', 't', 'u', 'r', 'e', 's'] (fun he => hn (.inr he)) (by decide) [] hl
    · have : ':' ∈ pageWord := by simp [← hl]
      exact absurd this (by decide)
    · rcases List.append_eq_append_iff.mp hl with ⟨more, hp, hm⟩ | ⟨more, hp, hm⟩
      · cases more with
        | nil =>
          cases hm
          exact absurd hc (by decide)
        | cons d more =>
          cases hm
          have : ':' ∈ pageWord := by simp [hp]
          exact absurd this (by decide)
      · cases more with
        | nil =>
          cases hm
          exact absurd hc (by decide)
        | cons d more =>
          cases hm
          refine h.page c hc ⟨more, ?_⟩
          rw [hp, List.append_assoc]
          rfl
  · rw [Option.eq_none_iff_forall_ne_some]
    intro rest hr
    rw [itemRest?_eq_some_iff] at hr
    cases hk : name.toList with
    | nil => exact h.ne_nil hk
    | cons c l =>
      rw [hk] at hr
      cases hr
      exact h.item ⟨l, hk.symm⟩
  · rintro ⟨rest, hr⟩
    match hk : name.toList with
    | [] => exact h.ne_nil hk
    | [c] =>
      rw [hk] at hr
      cases hr
    | c :: d :: l =>
      rw [hk] at hr
      cases hr
      exact h.comment ⟨l, hk.symm⟩

/-- What stands before the colon of an entry. -/
theorem exists_entryLine (h : Entry name value) : ∃ front,
    entryLine (name, value) = front ++ ':' :: ' ' :: value.toList ∧ ':' ∉ front ∧
      trim front = name.toList ∧ (∀ c ∈ front.head?, isBlank c = false) ∧
      ∀ back, Free (front ++ ':' :: back) ∧ Counts (front ++ ':' :: back) := by
  by_cases hn : name = "Host" ∨ name = "Features"
  · refine ⟨name.toList ++ [' '], ?_, ?_, ?_, ?_, fun back => ?_⟩
    · simp [entryLine, hn]
    · rcases hn with rfl | rfl <;> decide
    · rcases hn with rfl | rfl <;> decide
    · rcases hn with rfl | rfl <;> decide
    · rcases hn with rfl | rfl <;> refine ⟨⟨?_, rfl⟩, counts_cons (by decide)⟩ <;>
        rintro (⟨_, rest, hl, -⟩ | hl | hl | ⟨_, c, rest, hl, -⟩) <;> cases hl
  · refine ⟨name.toList, ?_, h.colon, trim_of_tight h.tight, h.tight.1, h.free hn⟩
    simp [entryLine, hn]

theorem entry_spells (h : Entry name value) :
    (Setting.entry name value).Spells (counted [entryLine (name, value)]) := by
  obtain ⟨front, hl, hc, ht, hhead, hfree⟩ := exists_entryLine h
  have hne : front ≠ [] := by
    rintro rfl
    exact h.ne_nil ht.symm
  have hspells : ∀ back, trim back = value.toList →
      (Setting.entry name value).Spells [front ++ ':' :: back] := by
    intro back hb
    refine .entry (hfree back).1 ⟨front, back, rfl, hc, ?_, ?_, h.shown⟩ h.unreserved h.notOn
    · rw [ht, String.ofList_toList]
    · rw [hb, String.ofList_toList]
  rw [hl]
  cases hv : value.toList with
  | nil =>
    have htight : Tight (front ++ [':']) := .append hne (by decide) hhead (by decide)
    have := trim_append (a := []) (b := [' ']) nofun (by decide) htight
    rw [List.nil_append, List.append_assoc] at this
    rw [counted, List.map_singleton,
      show front ++ ':' :: [' '] = front ++ ([':'] ++ [' ']) from rfl, this,
      List.filter_singleton, decide_eq_true (hfree []).2]
    exact hspells [] hv.symm
  | cons c l =>
    rw [counted_single]
    · refine hspells _ ?_
      rw [trim_cons (by decide), ← hv, trim_of_tight h.tight_value]
    · refine .append hne (by simp) hhead ?_
      have := h.tight_value.2
      rw [hv] at this
      rwa [List.getLast?_cons_cons, List.getLast?_cons_cons]
    · exact (hfree _).2

end

end Walkthrough.Script
