import Walkthrough.Proofs.Scenario.Refusals

/-! Where documents are refused. The path of a fault leads from the root of the document to a part that has
the fault, or to a property that an object of the document lacks (`Located`); the action of a page is named
only in a document that passes the form, and then it is the first that cannot be built (`FirstRefused`).
`Scenario.ofData_located` says so of all JSON values without lone surrogates. -/

namespace Walkthrough

open Text

theorem Assoc.contains_congr {α β : Type} {es : List (String × α)} {fs : List (String × β)}
    (h : keys es = keys fs) (k : String) : contains k es = contains k fs := by
  rw [Bool.eq_iff_iff, contains_iff, contains_iff, h]

/-! ## Parts of a value -/

namespace Data

/-- The part of an object under a key, or of a list at an index. -/
def child? : PathStep → Data → Option Data
  | .key key, .map es => lookup key es
  | .index (.ofNat n), .list items => items[n]?
  | _, _ => none

/-- The part of a value at the end of a path. -/
def nodeAt? : List PathStep → Data → Option Data
  | [], d => some d
  | step :: path, d => (d.child? step).bind (nodeAt? path)

variable {p : String → Prop} {d part : Data} {step : PathStep}

theorem nodeAt?_cons (h : d.child? step = some part) (path : List PathStep) :
    d.nodeAt? (step :: path) = part.nodeAt? path := by
  rw [nodeAt?, h]
  rfl

theorem lookup_members (key : String) (fs : List (String × Data)) :
    lookup key (members fs) = Assoc.get? key fs := by
  induction fs with
  | nil => rfl
  | cons e fs ih =>
    rw [members, List.map_cons, lookup, Assoc.get?_cons, ← members, ih]
    simp only [beq_iff_eq]

theorem IsJson.imp {q : String → Prop} (h : d.IsJson p) (hpq : ∀ s, p s → q s) : d.IsJson q := by
  induction h with
  | null => exact .null
  | bool b => exact .bool b
  | int short => exact .int short
  | float x => exact .float x
  | text hs => exact .text (hpq _ hs)
  | list _ ih => exact .list ih
  | object once keys _ ih => exact .object once (fun e he => hpq _ (keys e he)) ih

/-- JSON values of whole characters. -/
abbrev IsProperJson (d : Data) : Prop := d.IsJson Text.Proper

theorem IsJson.whole (h : d.IsProperJson) : d.IsWholeJson := h.imp fun _ => Text.Proper.isWhole

end Data

/-! ## What a flaw says of a value -/

/-- What a fault says of the part it is found in. Texts of proper values are Unicode, and a property that
is missing is no part. -/
def SchemaFault.Fits : SchemaFault → Data → Prop
  | required, _ | notUnicode, _ => False
  | notText, d => ∀ s, ¬Document.Shows d s
  | notTruth, d => ∀ b, d ≠ .bool b
  | notMap, d | notObject _, d => ∀ es, d ≠ .map es
  | notList, d => ∀ items, d ≠ .list items
  | empty, d => Document.Shows d ""
  | blank _, d => ∃ s, Document.Shows d s ∧ isBlankText s = true
  | reserved keys, d => keys ≠ [] ∧
    ∃ es, d = .map es ∧ keys = reservedKeys.filter fun k => (Data.lookup k es).isSome

/-- Where a flaw of a value is: at a part that has the fault, or at a property that an object lacks. -/
inductive Located (d : Data) : Flaw → Prop
  | part {path cause part} (leads : d.nodeAt? path = some part) (fits : cause.Fits part) :
      Located d ⟨path, cause⟩
  | missing {path es key} (leads : d.nodeAt? path = some (.map es))
      (absent : Data.lookup key es = none) : Located d ⟨path ++ [.key key], .required⟩

theorem Located.under {d part : Data} {step : PathStep} {f : Flaw} (h : Located part f)
    (leads : d.child? step = some part) : Located d { f with path := step :: f.path } := by
  have onward := Data.nodeAt?_cons leads
  cases h with
  | part within fits => exact .part ((onward _).trans within) fits
  | missing within absent => exact .missing ((onward _).trans within) absent

/-- An objection that is a flaw of the value. -/
inductive Points (d : Data) : Objection → Prop
  | flaw {f : Flaw} (h : Located d f) : Points d (.flaw f)

namespace Checked

variable {α β : Type} {d part : Data} {step : PathStep} {a : Checked α} {b : Checked β}

/-- The look at a value that fails by flaws of it. -/
abbrev Pointed (d : Data) (a : Checked α) : Prop := a.FailsBy (Points d)

theorem pointed_fail {cause : SchemaFault} (h : cause.Fits d) :
    Pointed d (Checked.fail cause : Checked α) := .error (.flaw (.part rfl h))

theorem Pointed.under (h : Pointed part a) (leads : d.child? step = some part) :
    Pointed d (under step a) := by
  unfold Checked.under
  split
  · exact .ok _
  · obtain ⟨hf⟩ := h _ rfl
    exact .error (.flaw (hf.under leads))
  · cases h _ rfl

theorem Pointed.both (ha : Pointed d a) (hb : Pointed d b) : Pointed d (both a b) := by
  unfold Checked.both
  split
  · exact .ok _
  · exact .error (ha _ rfl)
  · exact .error (hb _ rfl)
  · exact .error (ha _ rfl)
  · exact .error (hb _ rfl)

end Checked

namespace Document

open Checked

/-- A decoder whose objections are flaws of the value. -/
def Locates {α : Type} (decode : Data → Checked α) : Prop :=
  ∀ d, d.IsProperJson → Pointed d (decode d)

theorem shownKey_of_proper {s : String} (h : Text.Proper s) : shownKey s = s := by
  obtain ⟨cs, rfl⟩ := h
  have same : ∀ n ∈ cs.map Char.toNat, (if isSurrogate n then [0xFFFD, 0xFFFD, 0xFFFD] else [n]) = [n] := by
    intro n hn
    obtain ⟨c, -, rfl⟩ := List.mem_map.mp hn
    rw [isSurrogate_toNat, if_neg Bool.false_ne_true]
  rw [shownKey, points_ofChars, List.flatMap_congr same, List.flatMap_singleton']
  rfl

theorem keyStep_of_proper {s : String} (h : Text.Proper s) : keyStep (.text s) = .key s := by
  rw [keyStep, shownKey_of_proper h]

theorem keys_eq_of_forall₂ {α β : Type} {R : α → β → Prop} {ms : List (String × α)}
    {fs : List (String × β)} (h : List.Forall₂ (fun m f => m.1 = f.1 ∧ R m.2 f.2) ms fs) :
    Assoc.keys ms = Assoc.keys fs := by
  rw [Assoc.keys, Assoc.keys, ← List.forall₂_eq_eq_eq, List.forall₂_map_left_iff,
    List.forall₂_map_right_iff]
  exact h.imp fun _ _ he => he.1

namespace Locates

section

variable {α : Type} {decode : Data → Checked α}

theorem text : Locates text := by
  intro d hd
  cases hd with
  | int short =>
    rw [Document.text, short]
    exact .ok _
  | text | float => exact .ok _
  | _ => exact pointed_fail (by rintro _ ⟨⟩)

theorem visibleText (what : String) : Locates (visibleText what) := by
  intro d hd
  refine (text d hd).bind_of_ok fun s hs => ?_
  have shows := (text_eq_ok_iff hd).mp hs
  rw [shows.isWhole hd.whole]
  split
  · contradiction
  split
  · next he =>
    rw [String.isEmpty_iff.mp he] at shows
    exact pointed_fail shows
  split
  · next hb => exact pointed_fail ⟨s, shows, hb⟩
  · exact .ok _

theorem truth : Locates truth := by
  intro d _
  unfold Document.truth
  split
  · exact .ok _
  · next h => exact pointed_fail h

/-- An entry is reached by its key, since no other entry has it. -/
theorem mapOf (h : Locates decode) : Locates (mapOf decode) := by
  intro d hd
  cases hd with
  | @object fs once keys values =>
    have suffix {gs : List (String × Data)} (sub : gs ⊆ fs) :
        Pointed (.object fs) (entriesOf decode (Data.members gs)) := by
      induction gs with
      | nil => exact .ok _
      | cons e gs ih =>
        obtain ⟨he, hgs⟩ := List.cons_subset.mp sub
        have leads : (Data.object fs).child? (.key e.1) = some e.2 := by
          rw [Data.object, Data.child?, Data.lookup_members]
          exact (Assoc.get?_eq_some_iff once).mpr he
        have entry := (h e.2 (values e he)).under leads
        rw [← keyStep_of_proper (keys e he)] at entry
        exact (Pointed.both (.both (.ok _) entry) (ih hgs)).bind fun _ => .ok _
    exact (suffix (List.Subset.refl fs)).map
  | _ => exact pointed_fail (by rintro _ ⟨⟩)

theorem texts : Locates texts := text.mapOf

theorem listOf (h : Locates decode) : Locates (listOf decode) := by
  intro d hd
  cases hd with
  | @list items his =>
    have suffix {before after : List Data} (eq : items = before ++ after) :
        Pointed (.list items) (itemsFrom decode before.length after) := by
      induction after generalizing before with
      | nil => exact .ok _
      | cons i after ih =>
        have hi := his i (eq ▸ List.mem_append_right _ List.mem_cons_self)
        have leads : (Data.list items).child? (.index before.length) = some i := by
          show items[before.length]? = some i
          rw [eq, List.getElem?_append_right (Nat.le_refl _), Nat.sub_self]
          rfl
        have onward := ih (eq.trans (List.append_assoc before [i] after).symm)
        rw [List.length_append, List.length_singleton] at onward
        exact (((h i hi).under leads).both onward).bind fun _ => .ok _
    exact suffix (List.nil_append items).symm
  | _ => exact pointed_fail (by rintro _ ⟨⟩)

theorem optional (h : Locates decode) : Locates (optional decode) := by
  intro d hd
  unfold Document.optional
  split
  · exact .ok _
  · exact (h d hd).map

theorem nullable {empty : α} (h : Locates decode) : Locates (nullable empty decode) := by
  intro d hd
  unfold Document.nullable
  split
  · exact .ok _
  · exact h d hd

theorem object {type : String} {next : List (Data × Data) → Checked α}
    (h : ∀ es, (Data.map es).IsProperJson → Pointed (.map es) (next es)) :
    Locates fun d => Document.object type d >>= next := by
  intro d hd
  cases d with
  | map es => exact h es hd
  | _ => exact pointed_fail (by rintro _ ⟨⟩)

variable {es : List (Data × Data)} {key : String} (hes : (Data.map es).IsProperJson)

include hes

theorem required (h : Locates decode) : Pointed (.map es) (required key decode es) := by
  unfold Document.required
  split
  · next absent =>
    have located : Located (.map es) ⟨[] ++ [.key key], .required⟩ := .missing rfl absent
    exact .error (.flaw located)
  · next d hl => exact (h d (hes.lookup hl)).under hl

theorem withDefault {default : α} (h : Locates decode) :
    Pointed (.map es) (withDefault key default decode es) := by
  unfold Document.withDefault
  split
  · exact .ok _
  · next d hl => exact (h d (hes.lookup hl)).under hl

end

theorem context : Locates context := by
  intro d hd
  refine (texts.nullable d hd).bind_of_ok fun entries ok => ?_
  split
  · exact .ok _
  · next some =>
    rcases nullable_eq_ok_iff.mp ok with ⟨-, rfl⟩ | ⟨-, ok⟩
    · exact absurd rfl some
    · obtain ⟨ms, rfl, same⟩ := (Decodes.texts d hd.whole entries).mp ok
      refine pointed_fail ⟨some, _, rfl, List.filter_congr fun k _ => ?_⟩
      rw [Data.lookup_members]
      exact Assoc.contains_congr (keys_eq_of_forall₂ same).symm k

theorem feature : Locates feature :=
  object fun _ hes => ((truth.required hes).both (context.withDefault hes)).bind fun _ => .ok _

theorem expected : Locates expected :=
  object fun _ hes =>
    (((visibleText _).required hes).both (text.required hes)).bind fun _ => .ok _

theorem action : Locates action := by
  refine object fun es hes => .bind ?_ fun _ => .ok _
  exact (text.required hes).both <| (text.optional.withDefault hes).both <|
    (text.optional.withDefault hes).both <| (text.optional.withDefault hes).both <|
    texts.optional.withDefault hes

theorem page : Locates page := by
  refine object fun es hes => .bind ?_ fun _ => .ok _
  exact ((visibleText _).required hes).both <| (expected.listOf.nullable.withDefault hes).both <|
    action.required hes

theorem ofEntries {es : List (Data × Data)} (hes : (Data.map es).IsProperJson) :
    Pointed (.map es) (ofEntries es) := by
  refine .bind ?_ fun _ => .ok _
  exact ((visibleText _).required hes).both <| (feature.mapOf.nullable.withDefault hes).both <|
    page.listOf.nullable.withDefault hes

end Locates

/-! ## The schema -/

/-- The entry of a page whose action has any type. -/
structure PageEntryForm (es : List (Data × Data)) (p : PageEntry) : Prop where
  name : Has "name" Shows es p.name
  shown : isBlankText p.name = false
  expected : ∃ xs, MayHave "expected" (ListOf (Object ExpectedForm)) es xs ∧ p.expected = xs.getD []
  action : Has "action" (Object EntryForm) es p.action

/-- The form of documents before the actions are looked at by their types. -/
structure DocumentForm (es : List (Data × Data)) (doc : Document) : Prop where
  host : Has "host" Shows es doc.host
  shown : isBlankText doc.host = false
  features : ∃ fs, MayHave "features" (ObjectOf (Object FeatureForm)) es fs ∧
    doc.features = fs.getD []
  pages : ∃ ps, MayHave "pages" (ListOf (Object PageEntryForm)) es ps ∧ doc.pages = ps.getD []

theorem decodes_page : Decodes page (Object PageEntryForm) := by
  intro d hd p
  rw [page_eq_ok_iff]
  refine object_iff (fun es hes => ?_) hd
  rw [(Decodes.visibleText _).required hes, has_visible,
    decodes_expected.listOf.nullable hes nofun, decodes_action.required hes]
  constructor
  · rintro ⟨⟨name, shown⟩, expected, action⟩
    exact ⟨name, shown, expected, action⟩
  · rintro ⟨name, shown, expected, action⟩
    exact ⟨⟨name, shown⟩, expected, action⟩

variable {d : Data} {es : List (Data × Data)} {doc : Document} {r : Refusal}

theorem ofEntries_eq_ok_iff_form (hes : (Data.map es).IsWholeJson) :
    ofEntries es = .ok doc ↔ DocumentForm es doc := by
  rw [ofEntries_eq_ok_iff, (Decodes.visibleText _).required hes, has_visible,
    decodes_feature.mapOf.nullable hes nofun, decodes_page.listOf.nullable hes nofun]
  constructor
  · rintro ⟨⟨host, shown⟩, features, pages⟩
    exact ⟨host, shown, features, pages⟩
  · rintro ⟨host, shown, features, pages⟩
    exact ⟨⟨host, shown⟩, features, pages⟩

/-! ## The first action that cannot be built -/

/-- The action that the entry of a page describes. -/
def PageEntry.build (p : PageEntry) : Except ActionFault Action :=
  Action.build (.text p.action.type) p.action.entries

/-- The page at an index is the first whose action cannot be built. -/
inductive FirstRefused : List PageEntry → Nat → ActionFault → Prop
  | here {p ps cause} (h : p.build = .error cause) : FirstRefused (p :: ps) 0 cause
  | later {p ps i cause a} (h : p.build = .ok a) (rest : FirstRefused ps i cause) :
      FirstRefused (p :: ps) (i + 1) cause

theorem FirstRefused.exists_page {ps : List PageEntry} {i : Nat} {cause : ActionFault}
    (h : FirstRefused ps i cause) : ∃ p, ps[i]? = some p := by
  induction h with
  | here => exact ⟨_, rfl⟩
  | later _ _ ih => exact ih

theorem toPages_cons {n : Nat} {p : PageEntry} {ps : List PageEntry} {a : Action}
    (shown : isBlankText p.name = false ∧ ∀ e ∈ p.expected, isBlankText e.target = false)
    (built : p.build = .ok a) : toPages n (p :: ps) =
      (toPages (n + 1) ps).map (⟨p.name, a, p.expected.map fun e => ⟨e.target, e.value⟩⟩ :: ·) := by
  rw [PageEntry.build] at built
  rw [toPages, built]
  simp only [toExpected_eq shown.2, Page.create, shown.1]
  cases toPages (n + 1) ps <;> rfl

theorem toPages_eq_error_iff {n : Nat} {ps : List PageEntry}
    (shown : ∀ p ∈ ps, isBlankText p.name = false ∧ ∀ e ∈ p.expected, isBlankText e.target = false) :
    toPages n ps = .error r ↔ ∃ i cause, FirstRefused ps i cause ∧ r = .action (n + i) cause := by
  induction ps generalizing n with
  | nil =>
    constructor
    · rintro ⟨⟩
    · rintro ⟨_, _, ⟨⟩, -⟩
  | cons p ps ih =>
    obtain ⟨hp, shown⟩ := List.forall_mem_cons.mp shown
    cases hb : p.build with
    | error cause =>
      have refused : toPages n (p :: ps) = .error (.action n cause) := by
        rw [PageEntry.build] at hb
        rw [toPages, hb]
      rw [refused]
      constructor
      · rintro ⟨⟩
        exact ⟨0, cause, .here hb, rfl⟩
      · rintro ⟨i, cause', first, rfl⟩
        cases first with
        | here h =>
          cases hb.symm.trans h
          rfl
        | later h => cases hb.symm.trans h
    | ok a =>
      have onward : toPages n (p :: ps) = .error r ↔ toPages (n + 1) ps = .error r := by
        rw [toPages_cons hp hb]
        cases toPages (n + 1) ps with
        | ok => constructor <;> rintro ⟨⟩
        | error => exact Iff.rfl
      rw [onward, ih shown]
      constructor
      · rintro ⟨i, cause, first, rfl⟩
        exact ⟨i + 1, cause, .later hb first, by rw [Nat.add_right_comm]; rfl⟩
      · rintro ⟨i, cause, first, rfl⟩
        cases first with
        | here h => cases hb.symm.trans h
        | @later _ _ i _ _ _ first => exact ⟨i, cause, first, by rw [Nat.add_right_comm]; rfl⟩

theorem Sound.toScenario_eq_error_iff (h : doc.Sound) : doc.toScenario = .error r ↔
    ∃ i cause, FirstRefused doc.pages i cause ∧ r = .action i cause := by
  have shown : ∀ p ∈ doc.pages,
      isBlankText p.name = false ∧ ∀ e ∈ p.expected, isBlankText e.target = false :=
    fun p hp => ⟨(h.pages p hp).1.2, fun e he => ((h.pages p hp).2.1 e he).2⟩
  have refused := toPages_eq_error_iff (r := r) (n := 0) shown
  simp only [Nat.zero_add] at refused
  rw [← refused]
  cases hp : toPages 0 doc.pages with
  | error r' =>
    rw [Document.toScenario, toFeatures_eq fun e he => (h.features e he).2, hp]
    constructor
    · rintro ⟨⟩
      rfl
    · rintro ⟨⟩
      rfl
  | ok ps =>
    have given := h.toScenario_eq_ok_iff (s := ⟨doc.host, _, ps⟩) |>.mpr
      ⟨rfl, rfl, (toPages_eq_ok_iff shown).mp hp⟩
    rw [given]
    constructor <;> rintro ⟨⟩

/-! ## Refusals -/

/-- The path to the action of a page. -/
def actionPath (i : Nat) : List PathStep := [.key "pages", .index i, .key "action"]

theorem nodeAt?_actionPath {i : Nat} {p : PageEntry} (form : Object DocumentForm d doc)
    (hp : doc.pages[i]? = some p) : ∃ part, d.nodeAt? (actionPath i) = some part ∧
      Object EntryForm part p.action := by
  obtain ⟨es, rfl, form⟩ := form
  obtain ⟨o, ho, eq⟩ := form.pages
  rw [eq] at hp
  cases ho with
  | absent | null => cases hp
  | @there _ _ hl items =>
    obtain ⟨ds, rfl, same⟩ := items
    obtain ⟨_, hd, pes, rfl, entry⟩ := same.exists_of_getElem? hp
    obtain ⟨part, ha, action⟩ := entry.action
    have pages : (Data.map es).child? (.key "pages") = some (.list ds) := hl
    have page : (Data.list ds).child? (.index i) = some (.map pes) := hd
    have leads : (Data.map pes).child? (.key "action") = some part := ha
    refine ⟨part, ?_, action⟩
    rw [actionPath, Data.nodeAt?_cons pages, Data.nodeAt?_cons page, Data.nodeAt?_cons leads]
    rfl

/-- Where a value is refused. An action is refused only in a value of the form. -/
inductive Refused (d : Data) : Refusal → Prop
  | notObject (h : ∀ es, d ≠ .map es) : Refused d .notObject
  | schema {f} (ill : ∀ doc, ¬Object DocumentForm d doc) (located : Located d f) :
      Refused d (.schema f)
  | action {doc i cause part} (form : Object DocumentForm d doc)
      (first : FirstRefused doc.pages i cause) (leads : d.nodeAt? (actionPath i) = some part) :
      Refused d (.action i cause)

theorem Refused.toFault (h : Refused d r) :
    r.toFault = .format r.message { path := some (renderPath r.path) } := by
  cases h <;> rfl

theorem refused_of_scenarioOf (hd : d.IsProperJson) (h : scenarioOf d = .error r) : Refused d r := by
  unfold scenarioOf at h
  split at h
  · next es =>
    have decoded (doc : Document) : ofEntries es = .ok doc ↔ DocumentForm es doc :=
      ofEntries_eq_ok_iff_form hd.whole
    split at h
    · next flaw hf =>
      cases h
      obtain ⟨located⟩ := Locates.ofEntries hd _ hf
      refine .schema ?_ located
      rintro doc ⟨_, ⟨⟩, form⟩
      cases hf.symm.trans ((decoded doc).mpr form)
    · next overlong =>
      cases Locates.ofEntries hd _ overlong
    · next doc hdoc =>
      obtain ⟨i, cause, first, rfl⟩ := (ofEntries_sound hdoc).toScenario_eq_error_iff.mp h
      have form : Object DocumentForm (.map es) doc := ⟨es, rfl, (decoded doc).mp hdoc⟩
      obtain ⟨p, hp⟩ := first.exists_page
      obtain ⟨part, leads, -⟩ := nodeAt?_actionPath form hp
      exact .action form first leads
  · next h' =>
    cases h
    exact .notObject h'

end Document

namespace Scenario

open Document

/-- A JSON value without lone surrogates is refused at one of its parts or at a property that an object in
it lacks. In a value of the form the path leads to the action of the first page whose action cannot be
built. Integers that are too long to be written are left out, as no JSON text is read as a value with one
(`Data.IsJson.int`). -/
theorem ofData_located {d : Data} (hd : d.IsProperJson) :
    (∀ fault, ofData d = .error fault → ∃ r, Refused d r ∧
      fault = .format r.message { path := some (renderPath r.path) }) ∧
    ∀ doc i cause, Object DocumentForm d doc → FirstRefused doc.pages i cause →
      ofData d = .error (.format cause.message { path := some (renderPath (actionPath i)) }) := by
  constructor
  · intro fault h
    rw [ofData] at h
    cases hr : scenarioOf d with
    | ok s =>
      rw [hr] at h
      cases h
    | error r =>
      rw [hr] at h
      cases h
      have refused := refused_of_scenarioOf hd hr
      exact ⟨r, refused, refused.toFault⟩
  · rintro doc i cause ⟨es, rfl, form⟩ first
    have hdoc := (ofEntries_eq_ok_iff_form hd.whole).mpr form
    have hr : doc.toScenario = .error (.action i cause) :=
      (ofEntries_sound hdoc).toScenario_eq_error_iff.mpr ⟨i, cause, first, rfl⟩
    rw [ofData, scenarioOf, hdoc]
    exact congrArg (Except.mapError Refusal.toFault) hr

/-- A document without a host, and one whose second page clicks on nothing. -/
theorem ofData_located_click :
    let page (type : String) : Data :=
      .object [("name", .text "p"), ("action", .object [("actionType", .text type)])]
    let pages : Data := .list [page "Submit", page "Click"]
    let d : Data := .object [("pages", pages)]
    let d' : Data := .object [("host", .text "h"), ("pages", pages)]
    (d.IsProperJson ∧ ∃ r, Refused d r ∧ r.message = "Field required" ∧ renderPath r.path = "$.host") ∧
      d'.IsProperJson ∧ (∃ doc, Object DocumentForm d' doc ∧
        FirstRefused doc.pages 1 (.missing .click "target")) ∧
      ofData d' = .error (.format "Click action requires 'target'"
        { path := some "$.pages[1].action" }) := by
  intro page pages d d'
  have single {k : String} {v : Data} (hk : Text.Proper k) (hv : v.IsProperJson) :
      (Data.object [(k, v)]).IsProperJson :=
    .object (List.nodup_singleton _) (by simp [hk]) (by simp [hv])
  have pair {k k' : String} {v v' : Data} (once : [k, k'].Nodup) (hk : Text.Proper k) (hk' : Text.Proper k')
      (hv : v.IsProperJson) (hv' : v'.IsProperJson) : (Data.object [(k, v), (k', v')]).IsProperJson :=
    .object once (by simp [hk, hk']) (by simp [hv, hv'])
  have page {type : String} (h : Text.Proper type) : (page type).IsProperJson :=
    pair (by decide) (.literal rfl) (.literal rfl) (.text (.literal rfl))
      (single (.literal rfl) (.text h))
  have pages : pages.IsProperJson := by
    refine .list (List.forall_mem_cons.mpr ⟨page ?_, List.forall_mem_singleton.mpr (page ?_)⟩)
    · exact .literal rfl
    · exact .literal rfl
  have hd : d.IsProperJson := single (.literal rfl) pages
  have hd' : d'.IsProperJson :=
    pair (by decide) (.literal rfl) (.literal rfl) (.text (.literal rfl)) pages
  let entry (type : String) : PageEntry := ⟨"p", [], type, none, none, none, none⟩
  have form : Object DocumentForm d' ⟨"h", [], [entry "Submit", entry "Click"]⟩ :=
    ⟨_, rfl, (ofEntries_eq_ok_iff_form hd'.whole).mp rfl⟩
  have first : FirstRefused [entry "Submit", entry "Click"] 1 (.missing .click "target") :=
    .later (a := .submit []) (by decide) (.here (by decide))
  refine ⟨⟨hd, ?_⟩, hd', ⟨_, form, first⟩, (ofData_located hd').2 _ _ _ form first⟩
  obtain ⟨r, refused, h⟩ := (ofData_located hd).1 (.format "Field required" { path := some "$.host" }) rfl
  injection h with message place
  injection place with _ path
  exact ⟨r, refused, message.symm, (Option.some.inj path).symm⟩

end Scenario

end Walkthrough
