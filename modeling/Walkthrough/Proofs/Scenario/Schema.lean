import Walkthrough.Proofs.Json.Reader
import Walkthrough.Proofs.Number.Numerals
import Walkthrough.Proofs.Scenario.FrontEnds

/-! The form of documents. `ScenarioForm` says, part by part and without any check, which objects describe
which scenario. The checks are spread over decoders, defaults, the building of actions and the parts of
the model; for JSON values they come to that form (`Document.scenarioOf_eq_ok_iff_form`). -/

namespace Walkthrough

open Text

/-- JSON values without lone surrogates. -/
abbrev Data.IsWholeJson (d : Data) : Prop := d.IsJson fun s => isWhole s = true

namespace Document

open Checked

/-! ## The form -/

/-- A text, or a number by its numeral. -/
inductive Shows : Data → String → Prop
  | text (s : String) : Shows (.text s) s
  | int (n : Int) : Shows (.int n) (toString n)
  | float (x : Binary64) : Shows (.float x) x.text

section

variable {α : Type}

/-- An object with entries of the form. -/
def Object (Form : List (Data × Data) → α → Prop) (d : Data) (a : α) : Prop :=
  ∃ es, d = .map es ∧ Form es a

/-- An object that holds an `R` under each of its keys. -/
def ObjectOf (R : Data → α → Prop) (d : Data) (fs : List (String × α)) : Prop :=
  ∃ ms, d = .object ms ∧ List.Forall₂ (fun m f => m.1 = f.1 ∧ R m.2 f.2) ms fs

def ListOf (R : Data → α → Prop) (d : Data) (as : List α) : Prop :=
  ∃ ds, d = .list ds ∧ List.Forall₂ R ds as

variable (key : String) (R : Data → α → Prop) (es : List (Data × Data))

/-- A property that is there. -/
def Has (a : α) : Prop := ∃ d, Data.lookup key es = some d ∧ R d a

/-- A property that is absent, null or there. -/
inductive MayHave : Option α → Prop
  | absent (h : Data.lookup key es = none) : MayHave none
  | null (h : Data.lookup key es = some .null) : MayHave none
  | there {d : Data} {a : α} (h : Data.lookup key es = some d) (ha : R d a) : MayHave (some a)

end

section

variable (es : List (Data × Data))

structure FeatureForm (f : FeatureEntry) : Prop where
  enable : Has "enable" (fun d b => d = .bool b) es f.enabled
  context : ∃ c, MayHave "context" (ObjectOf Shows) es c ∧ f.context = c.getD []
  unreserved : ∀ k ∈ Assoc.keys f.context, k ∉ reservedKeys

structure ExpectedForm (e : ExpectedEntry) : Prop where
  target : Has "target" Shows es e.target
  shown : isBlankText e.target = false
  value : Has "value" Shows es e.value

/-- The properties of an action, whatever its type. -/
structure ActionParts (target field value : Option String)
    (fields : Option (List (String × String))) : Prop where
  target : MayHave "target" Shows es target
  field : MayHave "targetField" Shows es field
  value : MayHave "value" Shows es value
  fields : MayHave "fields" (ObjectOf Shows) es fields

inductive ActionForm : Action → Prop
  | click {target field value fields} (type : Data.lookup "actionType" es = some (.text "Click"))
      (parts : ActionParts es (some target) field value fields)
      (shown : isBlankText target = false) : ActionForm (.click (some target))
  | enter {target field value fields} (type : Data.lookup "actionType" es = some (.text "Enter"))
      (parts : ActionParts es target (some field) (some value) fields)
      (shown : isBlankText field = false) : ActionForm (.enter (some field) (some value))
  | submit {target field value fields} (type : Data.lookup "actionType" es = some (.text "Submit"))
      (parts : ActionParts es target field value fields)
      (shown : ∀ e ∈ fields.getD [], isBlankText e.1 = false) :
      ActionForm (.submit ((fields.getD []).map fun e => (e.1, some e.2)))

structure PageForm (p : Page) : Prop where
  name : Has "name" Shows es p.name
  shown : isBlankText p.name = false
  expected : ∃ xs, MayHave "expected" (ListOf (Object ExpectedForm)) es xs ∧
    p.expected = (xs.getD []).map fun e => ⟨e.target, e.value⟩
  action : Has "action" (Object ActionForm) es p.action

structure ScenarioForm (s : Scenario) : Prop where
  host : Has "host" Shows es s.host
  shown : isBlankText s.host = false
  features : ∃ fs, MayHave "features" (ObjectOf (Object FeatureForm)) es fs ∧
    s.features = (fs.getD []).map fun e => (e.1, ⟨e.1, e.2.enabled, e.2.context⟩)
  pages : ∃ ps, MayHave "pages" (ListOf (Object PageForm)) es ps ∧ s.pages = ps.getD []

end

/-! ## Texts -/

variable {p : String → Prop} {d : Data} {s : String} {es : List (Data × Data)} {key : String}

theorem text_eq_ok_iff (h : d.IsJson p) : text d = .ok s ↔ Shows d s := by
  constructor
  · intro ht
    cases h with
    | int short =>
      rw [text, short] at ht
      cases ht
      exact .int _
    | float | text =>
      cases ht
      constructor
    | null | bool | list | object => cases ht
  · rintro (_ | _ | _)
    · rfl
    · cases h with
      | int short =>
        rw [text, short]
        rfl
    · rfl

theorem Shows.isWhole (h : Shows d s) (hd : d.IsWholeJson) : isWhole s = true := by
  cases h with
  | text =>
    cases hd with
    | text h => exact h
  | int n => exact (Numeral.int n).proper.isWhole
  | float x => exact (Numeral.float x).proper.isWhole

/-- No number shows as a word. -/
theorem Shows.eq_text {c : Char} (h : Shows d s) (hc : c ∈ s.toList)
    (hn : Number.isNumeral c = false) : d = .text s := by
  have apart (hs : Numeral s) : False := by
    rw [hs c hc] at hn
    cases hn
  cases h with
  | text => rfl
  | int n => exact (apart (.int n)).elim
  | float x => exact (apart (.float x)).elim

/-! ## Decoders and relations -/

theorem mapOf_object {α : Type} {decode : Data → Checked α} {ms : List (String × Data)}
    {fs : List (String × α)} (once : (Assoc.keys ms).Nodup) : mapOf decode (.object ms) = .ok fs ↔
      List.Forall₂ (fun m f => m.1 = f.1 ∧ decode m.2 = .ok f.2) ms fs := by
  have key : ∀ k s, text (.text k) = .ok s ↔ k = s := fun k s => by rw [text, Except.ok.injEq]
  have entries : ∀ gs, entriesOf decode (Data.members ms) = .ok gs ↔
      List.Forall₂ (fun m f => m.1 = f.1 ∧ decode m.2 = .ok f.2) ms gs := by
    intro gs
    rw [entriesOf_eq_ok_iff, Data.members, List.forall₂_map_left_iff]
    simp only [key]
  have unchanged : ∀ gs, entriesOf decode (Data.members ms) = .ok gs → Assoc.ofPairs gs = gs := by
    intro gs hg
    have same : ms.map Prod.fst = gs.map Prod.fst := by
      rw [← List.forall₂_eq_eq_eq, List.forall₂_map_left_iff, List.forall₂_map_right_iff]
      exact ((entries gs).mp hg).imp fun _ _ he => he.1
    exact Assoc.ofPairs_of_nodup (by rwa [Assoc.keys, ← same])
  rw [Data.object, mapOf, Except.map_eq_ok_iff, ← entries]
  constructor
  · rintro ⟨gs, hg, rfl⟩
    rwa [unchanged gs hg]
  · intro hf
    exact ⟨fs, hf, unchanged fs hf⟩

/-- A decoder that gives, for JSON values, what a relation says. -/
def Decodes {α : Type} (decode : Data → Checked α) (R : Data → α → Prop) : Prop :=
  ∀ d, d.IsWholeJson → ∀ a, decode d = .ok a ↔ R d a

namespace Decodes

section

variable {α : Type} {decode : Data → Checked α} {R : Data → α → Prop}

theorem text : Decodes text Shows := fun _ h _ => text_eq_ok_iff h

theorem visibleText (what : String) :
    Decodes (visibleText what) fun d s => Shows d s ∧ isBlankText s = false := by
  intro d h s
  rw [visibleText_eq_ok_iff, text_eq_ok_iff h]
  exact ⟨fun ⟨hs, _, hb⟩ => ⟨hs, hb⟩, fun ⟨hs, hb⟩ => ⟨hs, hs.isWhole h, hb⟩⟩

theorem truth : Decodes truth fun d b => d = .bool b := by
  intro d _ b
  constructor
  · intro h
    cases d with
    | bool => cases h; rfl
    | _ => cases h
  · rintro rfl
    rfl

theorem mapOf (h : Decodes decode R) : Decodes (mapOf decode) (ObjectOf R) := by
  intro d hd fs
  constructor
  · intro hm
    cases hd with
    | object once _ values =>
      refine ⟨_, rfl, (List.Forall₂.congr_left fun m he f => ?_).mp ((mapOf_object once).mp hm)⟩
      rw [h m.2 (values m he)]
    | _ => cases hm
  · rintro ⟨ms, rfl, hf⟩
    obtain ⟨once, -, values⟩ := Data.isJson_object_iff.mp hd
    refine (mapOf_object once).mpr ((List.Forall₂.congr_left fun m he f => ?_).mpr hf)
    rw [h m.2 (values m he)]

theorem texts : Decodes texts (ObjectOf Shows) := text.mapOf

theorem listOf (h : Decodes decode R) : Decodes (listOf decode) (ListOf R) := by
  intro d hd as
  rw [listOf_eq_ok_iff]
  constructor
  · rintro ⟨ds, rfl | rfl, ha⟩
    · cases hd with
      | list items => exact ⟨ds, rfl, (List.Forall₂.congr_left fun d hm => h d (items d hm)).mp ha⟩
    · cases hd
  · rintro ⟨ds, rfl, ha⟩
    cases hd with
    | list items =>
      exact ⟨ds, .inl rfl, (List.Forall₂.congr_left fun d hm => h d (items d hm)).mpr ha⟩

/-! ### Properties -/

variable (hes : (Data.map es).IsWholeJson)

include hes

theorem required (h : Decodes decode R) {a : α} :
    required key decode es = .ok a ↔ Has key R es a := by
  rw [required_eq_ok_iff]
  constructor
  · rintro ⟨d, hl, ha⟩
    exact ⟨d, hl, (h d (hes.lookup hl) a).mp ha⟩
  · rintro ⟨d, hl, ha⟩
    exact ⟨d, hl, (h d (hes.lookup hl) a).mpr ha⟩

theorem optional (h : Decodes decode R) (none_null : ∀ a, decode .null ≠ .ok a) {a : Option α} :
    withDefault key none (optional decode) es = .ok a ↔ MayHave key R es a := by
  rw [withDefault_eq_ok_iff]
  constructor
  · rintro (⟨hl, rfl⟩ | ⟨d, hl, hd⟩)
    · exact .absent hl
    · rcases optional_eq_ok_iff.mp hd with ⟨rfl, rfl⟩ | ⟨-, b, hb, rfl⟩
      · exact .null hl
      · exact .there hl ((h d (hes.lookup hl) b).mp hb)
  · intro ha
    cases ha with
    | absent hl => exact .inl ⟨hl, rfl⟩
    | null hl => exact .inr ⟨_, hl, rfl⟩
    | @there d b hl hb =>
      have hb := (h d (hes.lookup hl) b).mpr hb
      refine .inr ⟨d, hl, optional_eq_ok_iff.mpr (.inr ⟨?_, b, hb, rfl⟩)⟩
      rintro rfl
      exact none_null b hb

/-- A collection is empty where it is absent or null. -/
theorem nullable {R : Data → List α → Prop} {decode : Data → Checked (List α)}
    (h : Decodes decode R) (none_null : ∀ as, decode .null ≠ .ok as) {as : List α} :
    withDefault key [] (nullable [] decode) es = .ok as ↔
      ∃ o, MayHave key R es o ∧ as = o.getD [] := by
  rw [withDefault_eq_ok_iff]
  constructor
  · rintro (⟨hl, rfl⟩ | ⟨d, hl, hd⟩)
    · exact ⟨none, .absent hl, rfl⟩
    · rcases nullable_eq_ok_iff.mp hd with ⟨rfl, rfl⟩ | ⟨-, ha⟩
      · exact ⟨none, .null hl, rfl⟩
      · exact ⟨some as, .there hl ((h d (hes.lookup hl) as).mp ha), rfl⟩
  · rintro ⟨o, ho, rfl⟩
    cases ho with
    | absent hl => exact .inl ⟨hl, rfl⟩
    | null hl => exact .inr ⟨_, hl, rfl⟩
    | @there d bs hl hb =>
      have hb := (h d (hes.lookup hl) bs).mpr hb
      refine .inr ⟨d, hl, nullable_eq_ok_iff.mpr (.inr ⟨?_, hb⟩)⟩
      rintro rfl
      exact none_null bs hb

end

end Decodes

/-! ## The parts of the form -/

theorem object_iff {α : Type} {F : List (Data × Data) → Prop}
    {Form : List (Data × Data) → α → Prop} {a : α}
    (h : ∀ es, (Data.map es).IsWholeJson → (F es ↔ Form es a)) (hd : d.IsWholeJson) :
    (∃ es, d = .map es ∧ F es) ↔ Object Form d a := by
  constructor
  · rintro ⟨es, rfl, hf⟩
    exact ⟨es, rfl, (h es hd).mp hf⟩
  · rintro ⟨es, rfl, hg⟩
    exact ⟨es, rfl, (h es hd).mpr hg⟩

theorem withDefault_context {c : List (String × String)} :
    withDefault "context" [] context es = .ok c ↔
      withDefault "context" [] (nullable [] texts) es = .ok c ∧
        ∀ k ∈ Assoc.keys c, k ∉ reservedKeys := by
  rw [withDefault_eq_ok_iff, withDefault_eq_ok_iff]
  constructor
  · rintro (⟨hl, rfl⟩ | ⟨d, hl, hc⟩)
    · exact ⟨.inl ⟨hl, rfl⟩, nofun⟩
    · obtain ⟨hc, free⟩ := context_eq_ok_iff.mp hc
      exact ⟨.inr ⟨d, hl, hc⟩, free⟩
  · rintro ⟨⟨hl, rfl⟩ | ⟨d, hl, hc⟩, free⟩
    · exact .inl ⟨hl, rfl⟩
    · exact .inr ⟨d, hl, context_eq_ok_iff.mpr ⟨hc, free⟩⟩

theorem decodes_feature : Decodes feature (Object FeatureForm) := by
  intro d hd f
  rw [feature_eq_ok_iff]
  refine object_iff (fun es hes => ?_) hd
  rw [Decodes.truth.required hes, withDefault_context, Decodes.texts.nullable hes nofun]
  constructor
  · rintro ⟨enable, context, unreserved⟩
    exact ⟨enable, context, unreserved⟩
  · rintro ⟨enable, context, unreserved⟩
    exact ⟨enable, context, unreserved⟩

/-- A property that is visible is there and shows something. -/
theorem has_visible {s : String} :
    Has key (fun d s => Shows d s ∧ isBlankText s = false) es s ↔
      Has key Shows es s ∧ isBlankText s = false := by
  constructor
  · rintro ⟨d, hl, hs, hb⟩
    exact ⟨⟨d, hl, hs⟩, hb⟩
  · rintro ⟨⟨d, hl, hs⟩, hb⟩
    exact ⟨d, hl, hs, hb⟩

theorem decodes_expected : Decodes expected (Object ExpectedForm) := by
  intro d hd e
  rw [expected_eq_ok_iff]
  refine object_iff (fun es hes => ?_) hd
  rw [(Decodes.visibleText _).required hes, has_visible, Decodes.text.required hes]
  constructor
  · rintro ⟨⟨target, shown⟩, value⟩
    exact ⟨target, shown, value⟩
  · rintro ⟨target, shown, value⟩
    exact ⟨⟨target, shown⟩, value⟩

/-- The entry of an action of any type. -/
structure EntryForm (es : List (Data × Data)) (a : ActionEntry) : Prop where
  type : Has "actionType" Shows es a.type
  parts : ActionParts es a.target a.targetField a.value a.fields

theorem decodes_action : Decodes action (Object EntryForm) := by
  intro d hd a
  rw [action_eq_ok_iff]
  refine object_iff (fun es hes => ?_) hd
  rw [Decodes.text.required hes, Decodes.text.optional hes nofun, Decodes.text.optional hes nofun,
    Decodes.text.optional hes nofun, Decodes.texts.optional hes nofun]
  constructor
  · rintro ⟨type, target, field, value, fields⟩
    exact ⟨type, target, field, value, fields⟩
  · rintro ⟨type, target, field, value, fields⟩
    exact ⟨type, target, field, value, fields⟩

/-- The word of an action's type is written as a text. -/
theorem lookup_type {t : ActionType} :
    Has "actionType" Shows es t.name ↔ Data.lookup "actionType" es = some (.text t.name) := by
  constructor
  · rintro ⟨d, hl, hs⟩
    obtain ⟨c, hc, hn⟩ : ∃ c ∈ t.name.toList, Number.isNumeral c = false := by
      cases t with
      | click => exact ⟨'C', by decide, by decide⟩
      | enter => exact ⟨'E', by decide, by decide⟩
      | submit => exact ⟨'S', by decide, by decide⟩
    rw [hl, hs.eq_text hc hn]
  · intro hl
    exact ⟨_, hl, .text _⟩

theorem ActionForm.of_entry {a : Action} {e : ActionEntry} (form : EntryForm es e)
    (asked : Action.Asked (.text e.type) e.entries a) : ActionForm es a := by
  obtain ⟨type, target, field, value, fields⟩ := e
  obtain ⟨ht, parts⟩ := form
  obtain ⟨lookTarget, lookField, lookValue, lookFields⟩ :=
    ActionEntry.lookup_entries ⟨type, target, field, value, fields⟩
  have text {o : Option String} {s : String} (h : o.map Data.text = some (.text s)) :
      o = some s := by
    obtain ⟨_, rfl, ⟨⟩⟩ := Option.map_eq_some_iff.mp h
    rfl
  cases asked with
  | click kind prop shown =>
    cases kind
    rw [prop] at lookTarget
    obtain rfl := text lookTarget.symm
    exact .click (lookup_type (t := .click).mp ht) parts shown
  | enter kind prop shown val =>
    cases kind
    rw [prop] at lookField
    rw [val] at lookValue
    obtain rfl := text lookField.symm
    obtain rfl := text lookValue.symm
    exact .enter (lookup_type (t := .enter).mp ht) parts shown
  | bare kind none =>
    cases kind
    have absent : fields = Option.none := by
      rw [lookFields] at none
      rcases none with h | h
      · exact Option.map_eq_none_iff.mp h
      · obtain ⟨_, -, ⟨⟩⟩ := Option.map_eq_some_iff.mp h
    subst absent
    exact .submit (lookup_type (t := .submit).mp ht) parts nofun
  | submit kind map shown =>
    cases kind
    rw [map] at lookFields
    obtain ⟨_, rfl, hf⟩ := Option.map_eq_some_iff.mp lookFields.symm
    obtain rfl := textEntries_inj hf
    exact .submit (lookup_type (t := .submit).mp ht) parts shown

theorem ActionForm.exists_entry {a : Action} (h : ActionForm es a) :
    ∃ e, EntryForm es e ∧ Action.Asked (.text e.type) e.entries a := by
  cases h with
  | @click target field value fields type parts shown =>
    let e : ActionEntry := ⟨"Click", some target, field, value, fields⟩
    exact ⟨e, ⟨lookup_type (t := .click).mpr type, parts⟩, .click rfl e.lookup_entries.1 shown⟩
  | @enter target field value fields type parts shown =>
    let e : ActionEntry := ⟨"Enter", target, some field, some value, fields⟩
    obtain ⟨-, lookField, lookValue, -⟩ := e.lookup_entries
    exact ⟨e, ⟨lookup_type (t := .enter).mpr type, parts⟩, .enter rfl lookField shown lookValue⟩
  | @submit target field value fields type parts shown =>
    let e : ActionEntry := ⟨"Submit", target, field, value, fields⟩
    obtain ⟨-, -, -, lookFields⟩ := e.lookup_entries
    refine ⟨e, ⟨lookup_type (t := .submit).mpr type, parts⟩, ?_⟩
    cases fields with
    | none => exact .bare rfl (.inl lookFields)
    | some fields => exact .submit rfl lookFields shown

theorem actionForm_iff {a : Action} :
    (∃ e, EntryForm es e ∧ Action.Asked (.text e.type) e.entries a) ↔ ActionForm es a :=
  ⟨fun ⟨_, form, asked⟩ => .of_entry form asked, ActionForm.exists_entry⟩

theorem pageForm_iff (hd : d.IsWholeJson) {q : Page} :
    (∃ p, page d = .ok p ∧ p.Gives q) ↔ Object PageForm d q := by
  have entries : (∃ p, page d = .ok p ∧ p.Gives q) ↔ ∃ es, d = .map es ∧ ∃ p : PageEntry,
      (required "name" (visibleText "page name") es = .ok p.name ∧
        withDefault "expected" [] (nullable [] (listOf expected)) es = .ok p.expected ∧
        required "action" action es = .ok p.action) ∧ p.Gives q := by
    simp only [page_eq_ok_iff]
    constructor
    · rintro ⟨p, ⟨es, hd, hp⟩, hg⟩
      exact ⟨es, hd, p, hp, hg⟩
    · rintro ⟨es, hd, p, hp, hg⟩
      exact ⟨p, ⟨es, hd, hp⟩, hg⟩
  rw [entries]
  refine object_iff (fun es hes => ?_) hd
  simp only [(Decodes.visibleText _).required hes, has_visible,
    decodes_expected.listOf.nullable hes nofun, decodes_action.required hes]
  constructor
  · rintro ⟨p, ⟨⟨name, shown⟩, ⟨xs, hx, he⟩, d', hl, es', rfl, form⟩, hg⟩
    have asked := Action.build_eq_ok_iff.mp hg.action
    refine ⟨hg.name ▸ name, hg.name ▸ shown, ⟨xs, hx, he ▸ hg.expected⟩, _, hl, es', rfl, ?_⟩
    exact actionForm_iff.mp ⟨p.action, form, asked⟩
  · rintro ⟨name, shown, ⟨xs, hx, he⟩, d', hl, es', rfl, form⟩
    obtain ⟨e, form, asked⟩ := actionForm_iff.mpr form
    exact ⟨⟨q.name, xs.getD [], e⟩, ⟨⟨name, shown⟩, ⟨xs, hx, rfl⟩, _, hl, es', rfl, form⟩,
      rfl, he, Action.build_eq_ok_iff.mpr asked⟩

theorem pagesForm_iff (hd : d.IsWholeJson) {qs : List Page} :
    (∃ ps, listOf page d = .ok ps ∧ List.Forall₂ PageEntry.Gives ps qs) ↔
      ListOf (Object PageForm) d qs := by
  have same : Decodes page fun d p => page d = .ok p := fun _ _ _ => Iff.rfl
  have items {ds : List Data} (hd : (Data.list ds).IsWholeJson) :
      (∃ ps, List.Forall₂ (fun d p => page d = .ok p) ds ps ∧
        List.Forall₂ PageEntry.Gives ps qs) ↔ List.Forall₂ (Object PageForm) ds qs := by
    rw [List.Forall₂.exists_iff]
    cases hd with
    | list items => exact List.Forall₂.congr_left fun d hm q => pageForm_iff (items d hm)
  constructor
  · rintro ⟨ps, hp, hg⟩
    obtain ⟨ds, rfl, hps⟩ := (same.listOf d hd ps).mp hp
    exact ⟨ds, rfl, (items hd).mp ⟨ps, hps, hg⟩⟩
  · rintro ⟨ds, rfl, hq⟩
    obtain ⟨ps, hp, hg⟩ := (items hd).mpr hq
    exact ⟨ps, (same.listOf _ hd ps).mpr ⟨ds, rfl, hp⟩, hg⟩

/-- The pages of a scenario are those that the entries describe. -/
theorem mayHave_pages_iff (hes : (Data.map es).IsWholeJson) {qs : List Page} :
    (∃ ps, withDefault "pages" [] (nullable [] (listOf page)) es = .ok ps ∧
        List.Forall₂ PageEntry.Gives ps qs) ↔
      ∃ o, MayHave "pages" (ListOf (Object PageForm)) es o ∧ qs = o.getD [] := by
  have same : Decodes (listOf page) fun d ps => listOf page d = .ok ps := fun _ _ _ => Iff.rfl
  simp only [same.nullable hes nofun]
  constructor
  · rintro ⟨_, ⟨o, ho, rfl⟩, hg⟩
    cases ho with
    | absent hl => exact ⟨none, .absent hl, List.forall₂_nil_left_iff.mp hg⟩
    | null hl => exact ⟨none, .null hl, List.forall₂_nil_left_iff.mp hg⟩
    | there hl hp => exact ⟨some qs, .there hl ((pagesForm_iff (hes.lookup hl)).mp ⟨_, hp, hg⟩), rfl⟩
  · rintro ⟨o, ho, rfl⟩
    cases ho with
    | absent hl => exact ⟨[], ⟨none, .absent hl, rfl⟩, .nil⟩
    | null hl => exact ⟨[], ⟨none, .null hl, rfl⟩, .nil⟩
    | there hl hq =>
      obtain ⟨ps, hp, hg⟩ := (pagesForm_iff (hes.lookup hl)).mpr hq
      exact ⟨ps, ⟨some ps, .there hl hp, rfl⟩, hg⟩

theorem scenarioOf_eq_ok_iff_form (hd : d.IsWholeJson) {s : Scenario} :
    scenarioOf d = .ok s ↔ Object ScenarioForm d s := by
  have entries : scenarioOf d = .ok s ↔
      ∃ es, d = .map es ∧ ∃ doc, ofEntries es = .ok doc ∧ doc.toScenario = .ok s := by
    rw [scenarioOf_eq_ok_iff]
    constructor
    · rintro ⟨es, doc, hd, h⟩
      exact ⟨es, hd, doc, h⟩
    · rintro ⟨es, hd, doc, h⟩
      exact ⟨es, doc, hd, h⟩
  rw [entries]
  refine object_iff (fun es hes => ?_) hd
  constructor
  · rintro ⟨doc, hdoc, hs⟩
    obtain ⟨host, features, pages⟩ := (ofEntries_sound hdoc).toScenario_eq_ok_iff.mp hs
    obtain ⟨hh, hf, hp⟩ := ofEntries_eq_ok_iff.mp hdoc
    obtain ⟨hh, shown⟩ := has_visible.mp (((Decodes.visibleText _).required hes).mp hh)
    obtain ⟨fs, hfs, hf⟩ := (decodes_feature.mapOf.nullable hes nofun).mp hf
    exact ⟨host ▸ hh, host ▸ shown, ⟨fs, hfs, hf ▸ features⟩, (mayHave_pages_iff hes).mp ⟨_, hp, pages⟩⟩
  · rintro ⟨host, shown, ⟨fs, hfs, features⟩, pages⟩
    obtain ⟨ps, hp, hg⟩ := (mayHave_pages_iff hes).mpr pages
    have hh := ((Decodes.visibleText "host").required hes).mpr (has_visible.mpr ⟨host, shown⟩)
    have hf := (decodes_feature.mapOf.nullable hes nofun).mpr ⟨fs, hfs, rfl⟩
    have hdoc : ofEntries es = .ok ⟨s.host, fs.getD [], ps⟩ := ofEntries_eq_ok_iff.mpr ⟨hh, hf, hp⟩
    exact ⟨_, hdoc, (ofEntries_sound hdoc).toScenario_eq_ok_iff.mpr ⟨rfl, features, hg⟩⟩

end Document

end Walkthrough
