import Walkthrough.Scenario.Format
import Walkthrough.Proofs.Scenario.Decode

/-! Summaries as documents. `Regular` is what a scenario that was read satisfies: the document form gives
only such scenarios (`regular_of_scenarioOf`), and it gives a regular scenario for its summary if the
names that must be visible are without lone surrogates (`scenarioOf_summary`). -/

namespace Walkthrough

open Text

/-! ## Regular scenarios -/

structure Feature.Regular (f : Feature) : Prop where
  once : (Assoc.keys f.context).Nodup
  unreserved : ∀ k ∈ Assoc.keys f.context, k ∉ reservedKeys

inductive Action.Regular : Action → Prop
  | click {target} (shown : isBlankText target = false) : Regular (.click (some target))
  | enter {field value} (shown : isBlankText field = false) : Regular (.enter (some field) (some value))
  | submit {fields : List (String × String)} (shown : ∀ e ∈ fields, isBlankText e.1 = false)
      (once : (Assoc.keys fields).Nodup) : Regular (.submit (fields.map fun e => (e.1, some e.2)))

structure Page.Regular (p : Page) : Prop where
  name : isBlankText p.name = false
  expected : ∀ e ∈ p.expected, isBlankText e.target = false
  action : p.action.Regular

/-- A scenario whose maps have no key twice and whose names show something. -/
structure Scenario.Regular (s : Scenario) : Prop where
  host : isBlankText s.host = false
  features : ∀ e ∈ s.features, e.1 = e.2.name ∧ e.2.Regular
  once : (Assoc.keys s.features).Nodup
  pages : ∀ p ∈ s.pages, p.Regular

/-- The host, the names of the pages and the expected targets have no lone surrogate. -/
structure Scenario.Whole (s : Scenario) : Prop where
  host : isWhole s.host = true
  pages : ∀ p ∈ s.pages, isWhole p.name = true ∧ ∀ e ∈ p.expected, isWhole e.target = true

namespace Document

/-! ## From documents -/

/-- What the entries of a page's action look up. -/
theorem ActionEntry.lookup_entries (a : ActionEntry) :
    Data.lookup "target" a.entries = a.target.map .text ∧
      Data.lookup "targetField" a.entries = a.targetField.map .text ∧
      Data.lookup "value" a.entries = a.value.map .text ∧
      Data.lookup "fields" a.entries = a.fields.map textEntries := by
  obtain ⟨type, target, targetField, value, fields⟩ := a
  cases target <;> cases targetField <;> cases value <;> cases fields <;> exact ⟨rfl, rfl, rfl, rfl⟩

/-- A document as it passes the form. -/
structure Sound (d : Document) : Prop where
  host : isWhole d.host = true ∧ isBlankText d.host = false
  features : ∀ e ∈ d.features, (Assoc.keys e.2.context).Nodup ∧
    ∀ k ∈ Assoc.keys e.2.context, k ∉ reservedKeys
  once : (Assoc.keys d.features).Nodup
  pages : ∀ p ∈ d.pages, (isWhole p.name = true ∧ isBlankText p.name = false) ∧
    (∀ e ∈ p.expected, isWhole e.target = true ∧ isBlankText e.target = false) ∧
    ∀ fields ∈ p.action.fields, (Assoc.keys fields).Nodup

theorem visible_of_required {key what s : String} {es : List (Data × Data)}
    (h : required key (visibleText what) es = .ok s) : isWhole s = true ∧ isBlankText s = false := by
  obtain ⟨d, -, hd⟩ := required_eq_ok_iff.mp h
  exact (visibleText_eq_ok_iff.mp hd).2

theorem feature_sound {d : Data} {f : FeatureEntry} (h : feature d = .ok f) :
    (Assoc.keys f.context).Nodup ∧ ∀ k ∈ Assoc.keys f.context, k ∉ reservedKeys := by
  obtain ⟨es, -, -, hc⟩ := feature_eq_ok_iff.mp h
  rcases withDefault_eq_ok_iff.mp hc with ⟨-, hn⟩ | ⟨c, -, hc⟩
  · rw [hn]
    exact ⟨.nil, nofun⟩
  · obtain ⟨hc, hu⟩ := context_eq_ok_iff.mp hc
    refine ⟨?_, hu⟩
    rcases nullable_eq_ok_iff.mp hc with ⟨-, hn⟩ | ⟨-, hm⟩
    · rw [hn]
      exact .nil
    · exact nodup_of_mapOf hm

theorem expected_sound {d : Data} {e : ExpectedEntry} (h : expected d = .ok e) :
    isWhole e.target = true ∧ isBlankText e.target = false := by
  obtain ⟨es, -, ht, -⟩ := expected_eq_ok_iff.mp h
  exact visible_of_required ht

theorem action_sound {d : Data} {a : ActionEntry} (h : action d = .ok a) :
    ∀ fields ∈ a.fields, (Assoc.keys fields).Nodup := by
  obtain ⟨es, -, -, -, -, -, hf⟩ := action_eq_ok_iff.mp h
  intro fields hm
  rw [hm] at hf
  rcases withDefault_eq_ok_iff.mp hf with ⟨-, hn⟩ | ⟨d', -, hd⟩
  · cases hn
  · rcases optional_eq_ok_iff.mp hd with ⟨-, hn⟩ | ⟨-, fields', hf', he⟩
    · cases hn
    · cases he
      exact nodup_of_mapOf hf'

/-- Every item of a collection that is there comes from a value. -/
theorem exists_of_mem_nullable_listOf {α : Type} {decode : Data → Checked α} {key : String}
    {es : List (Data × Data)} {items : List α} {a : α}
    (h : withDefault key [] (nullable [] (listOf decode)) es = .ok items) (ha : a ∈ items) :
    ∃ d, decode d = .ok a := by
  rcases withDefault_eq_ok_iff.mp h with ⟨-, rfl⟩ | ⟨d, -, hd⟩
  · cases ha
  rcases nullable_eq_ok_iff.mp hd with ⟨-, rfl⟩ | ⟨-, hl⟩
  · cases ha
  obtain ⟨ds, -, hds⟩ := listOf_eq_ok_iff.mp hl
  obtain ⟨d, -, hd⟩ := hds.exists_of_mem ha
  exact ⟨d, hd⟩

theorem page_sound {d : Data} {p : PageEntry} (h : page d = .ok p) :
    (isWhole p.name = true ∧ isBlankText p.name = false) ∧
      (∀ e ∈ p.expected, isWhole e.target = true ∧ isBlankText e.target = false) ∧
      ∀ fields ∈ p.action.fields, (Assoc.keys fields).Nodup := by
  obtain ⟨es, -, hn, he, ha⟩ := page_eq_ok_iff.mp h
  obtain ⟨d', -, ha⟩ := required_eq_ok_iff.mp ha
  refine ⟨visible_of_required hn, fun e hm => ?_, action_sound ha⟩
  obtain ⟨d', hd⟩ := exists_of_mem_nullable_listOf he hm
  exact expected_sound hd

theorem ofEntries_sound {es : List (Data × Data)} {doc : Document} (h : ofEntries es = .ok doc) :
    doc.Sound := by
  obtain ⟨hh, hf, hp⟩ := ofEntries_eq_ok_iff.mp h
  have hfeatures : (Assoc.keys doc.features).Nodup ∧ ∀ e ∈ doc.features, ∃ d, feature d = .ok e.2 := by
    rcases withDefault_eq_ok_iff.mp hf with ⟨-, hn⟩ | ⟨d, -, hd⟩
    · rw [hn]
      exact ⟨.nil, nofun⟩
    rcases nullable_eq_ok_iff.mp hd with ⟨-, hn⟩ | ⟨-, hm⟩
    · rw [hn]
      exact ⟨.nil, nofun⟩
    refine ⟨nodup_of_mapOf hm, fun e he => ?_⟩
    obtain ⟨ds, gs, -, hg, hall⟩ := mapOf_eq_ok_iff.mp hm
    rw [hg] at he
    obtain ⟨d, -, -, hd⟩ := hall.exists_of_mem (Assoc.mem_of_mem_ofPairs he)
    exact ⟨_, hd⟩
  refine ⟨visible_of_required hh, fun e he => ?_, hfeatures.1, fun p hm => ?_⟩
  · obtain ⟨d, hd⟩ := hfeatures.2 e he
    exact feature_sound hd
  · obtain ⟨d, hd⟩ := exists_of_mem_nullable_listOf hp hm
    exact page_sound hd

theorem accept_feature {name : String} {enabled : Bool} {context : List (String × String)}
    (h : ∀ k ∈ Assoc.keys context, k ∉ reservedKeys) :
    accept (Feature.create name enabled context) = .ok ⟨name, enabled, context⟩ := by
  rw [Feature.create_eq_ok h]
  rfl

theorem toFeatures_eq {fs : List (String × FeatureEntry)}
    (h : ∀ e ∈ fs, ∀ k ∈ Assoc.keys e.2.context, k ∉ reservedKeys) :
    toFeatures fs = .ok (fs.map fun e => (e.1, ⟨e.1, e.2.enabled, e.2.context⟩)) := by
  induction fs with
  | nil => rfl
  | cons e fs ih =>
    obtain ⟨name, f⟩ := e
    have ih := ih fun e he => h e (List.mem_cons_of_mem _ he)
    rw [toFeatures, accept_feature (h _ List.mem_cons_self), ih]
    rfl

theorem toExpected_eq {es : List ExpectedEntry} (h : ∀ e ∈ es, isBlankText e.target = false) :
    toExpected es = .ok (es.map fun e => ⟨e.target, e.value⟩) := by
  induction es with
  | nil => rfl
  | cons e es ih =>
    have ih := ih fun e he => h e (List.mem_cons_of_mem _ he)
    rw [toExpected, Expected.create, h e List.mem_cons_self, ih]
    rfl

/-- The page of an entry that passes the form. -/
structure PageEntry.Gives (p : PageEntry) (q : Page) : Prop where
  name : q.name = p.name
  expected : q.expected = p.expected.map fun e => ⟨e.target, e.value⟩
  action : Action.build (.text p.action.type) p.action.entries = .ok q.action

theorem toPages_eq_ok_iff {n : Nat} {ps : List PageEntry} {qs : List Page}
    (h : ∀ p ∈ ps, isBlankText p.name = false ∧ ∀ e ∈ p.expected, isBlankText e.target = false) :
    toPages n ps = .ok qs ↔ List.Forall₂ PageEntry.Gives ps qs := by
  induction ps generalizing n qs with
  | nil =>
    rw [List.forall₂_nil_left_iff]
    exact ⟨fun h => by cases h; rfl, fun h => by rw [h]; rfl⟩
  | cons p ps ih =>
    obtain ⟨hn, he⟩ := h p List.mem_cons_self
    have ih := @ih (n + 1)
    have hcreate : ∀ a es, accept (Page.create (some p.name) (some a) es) = .ok ⟨p.name, a, es⟩ := by
      intro a es
      rw [Page.create, hn]
      rfl
    rw [List.forall₂_cons_left_iff, toPages]
    cases hb : Action.build (.text p.action.type) p.action.entries with
    | error cause =>
      refine ⟨nofun, ?_⟩
      rintro ⟨q, qs', hq, -, -⟩
      rw [hq.action] at hb
      cases hb
    | ok a =>
      simp only [toExpected_eq he, hcreate]
      constructor
      · intro hqs
        obtain ⟨_, ⟨⟩, hqs⟩ := Except.bind_eq_ok_iff.mp hqs
        obtain ⟨_, ⟨⟩, hqs⟩ := Except.bind_eq_ok_iff.mp hqs
        obtain ⟨qs', hqs', ⟨⟩⟩ := Except.bind_eq_ok_iff.mp hqs
        exact ⟨_, qs', ⟨rfl, rfl, hb⟩, (ih fun p hp => h p (List.mem_cons_of_mem _ hp)).mp hqs', rfl⟩
      · rintro ⟨⟨name, action, expected⟩, qs', ⟨rfl, rfl, hq⟩, hqs, rfl⟩
        rw [hb] at hq
        cases hq
        refine Except.bind_eq_ok_iff.mpr ⟨_, rfl, Except.bind_eq_ok_iff.mpr ⟨_, rfl, ?_⟩⟩
        refine Except.bind_eq_ok_iff.mpr ⟨qs', ?_, rfl⟩
        exact (ih fun p hp => h p (List.mem_cons_of_mem _ hp)).mpr hqs

theorem PageEntry.Gives.regular {p : PageEntry} {q : Page} (h : p.Gives q)
    (hn : isBlankText p.name = false) (he : ∀ e ∈ p.expected, isBlankText e.target = false)
    (once : ∀ fields ∈ p.action.fields, (Assoc.keys fields).Nodup) : q.Regular := by
  obtain ⟨name, action, expected⟩ := q
  obtain ⟨rfl, rfl, ha⟩ := h
  refine ⟨hn, ?_, ?_⟩
  · intro e hm
    obtain ⟨e', he', rfl⟩ := List.mem_map.mp hm
    exact he e' he'
  · obtain ⟨-, -, -, hfields⟩ := p.action.lookup_entries
    cases Action.build_eq_ok_iff.mp ha with
    | click kind prop shown => exact .click shown
    | enter kind prop shown text => exact .enter shown
    | bare =>
      have once : (Assoc.keys ([] : List (String × String))).Nodup := .nil
      exact .submit (fun _ he => absurd he List.not_mem_nil) once
    | submit kind map shown =>
      rw [hfields] at map
      obtain ⟨fields, hf, he⟩ := Option.map_eq_some_iff.mp map
      rw [textEntries_inj he] at hf
      exact .submit shown (once _ hf)

theorem accept_eq_ok_iff {α : Type} {x : Except Misuse α} {a : α} : accept x = .ok a ↔ x = .ok a := by
  cases x <;> simp [accept]

/-- What a sound document gives. -/
theorem Sound.toScenario_eq_ok_iff {doc : Document} {s : Scenario} (h : doc.Sound) :
    doc.toScenario = .ok s ↔ s.host = doc.host ∧
      s.features = doc.features.map (fun e => (e.1, ⟨e.1, e.2.enabled, e.2.context⟩)) ∧
      List.Forall₂ PageEntry.Gives doc.pages s.pages := by
  have hpages : ∀ p ∈ doc.pages,
      isBlankText p.name = false ∧ ∀ e ∈ p.expected, isBlankText e.target = false :=
    fun p hp => ⟨(h.pages p hp).1.2, fun e he => ((h.pages p hp).2.1 e he).2⟩
  have hname : ∀ e ∈ doc.features.map (fun e => (e.1, (⟨e.1, e.2.enabled, e.2.context⟩ : Feature))),
      e.1 = e.2.name := by
    intro e he
    obtain ⟨f, -, rfl⟩ := List.mem_map.mp he
    rfl
  rw [Document.toScenario, toFeatures_eq fun e he => (h.features e he).2]
  constructor
  · intro hs
    obtain ⟨_, ⟨⟩, hs⟩ := Except.bind_eq_ok_iff.mp hs
    obtain ⟨ps, hps, hs⟩ := Except.bind_eq_ok_iff.mp hs
    obtain ⟨-, rfl⟩ := (Scenario.create_eq_ok_iff hname).mp (accept_eq_ok_iff.mp hs)
    exact ⟨rfl, rfl, (toPages_eq_ok_iff hpages).mp hps⟩
  · obtain ⟨host, features, pages⟩ := s
    rintro ⟨rfl, rfl, hps⟩
    refine Except.bind_eq_ok_iff.mpr ⟨_, rfl, Except.bind_eq_ok_iff.mpr ⟨pages, ?_, ?_⟩⟩
    · exact (toPages_eq_ok_iff hpages).mpr hps
    · exact accept_eq_ok_iff.mpr ((Scenario.create_eq_ok_iff hname).mpr ⟨h.host.2, rfl⟩)

/-- The scenario of a sound document is regular, and its names are whole. -/
theorem Sound.toScenario {doc : Document} {s : Scenario} (h : doc.Sound) (hs : doc.toScenario = .ok s) :
    s.Regular ∧ s.Whole := by
  obtain ⟨host, features, pages⟩ := s
  obtain ⟨rfl, rfl, hps⟩ := h.toScenario_eq_ok_iff.mp hs
  refine ⟨⟨h.host.2, fun e he => ?_, ?_, fun q hq => ?_⟩, h.host.1, fun q hq => ?_⟩
  · obtain ⟨f, hf, rfl⟩ := List.mem_map.mp he
    exact ⟨rfl, (h.features f hf).1, (h.features f hf).2⟩
  · rw [Assoc.keys, List.map_map]
    exact h.once
  · obtain ⟨p, hp, hg⟩ := hps.exists_of_mem hq
    obtain ⟨hn, he, once⟩ := h.pages p hp
    exact hg.regular hn.2 (fun e hm => (he e hm).2) once
  · obtain ⟨p, hp, hg⟩ := hps.exists_of_mem hq
    obtain ⟨hn, he, -⟩ := h.pages p hp
    rw [hg.name, hg.expected]
    refine ⟨hn.1, fun e hm => ?_⟩
    obtain ⟨e', he', rfl⟩ := List.mem_map.mp hm
    exact (he e' he').1

theorem scenarioOf_eq_ok_iff {d : Data} {s : Scenario} : scenarioOf d = .ok s ↔
    ∃ es doc, d = .map es ∧ ofEntries es = .ok doc ∧ doc.toScenario = .ok s := by
  unfold scenarioOf
  split
  · next es =>
    split
    · next h => simp [h]
    · next h => simp [h]
    · next doc h => simp [h]
  · next h =>
    refine ⟨nofun, ?_⟩
    rintro ⟨es, -, rfl, -⟩
    exact absurd rfl (h es)

/-- A document gives only regular scenarios with whole names. -/
theorem regular_of_scenarioOf {d : Data} {s : Scenario} (h : scenarioOf d = .ok s) :
    s.Regular ∧ s.Whole := by
  obtain ⟨es, doc, -, hdoc, hs⟩ := scenarioOf_eq_ok_iff.mp h
  exact (ofEntries_sound hdoc).toScenario hs

/-! ## From summaries -/

/-- The entry that an action's summary is read as. -/
def actionEntry : Action → ActionEntry
  | .click target => ⟨"Click", target, none, none, none⟩
  | .enter field value => ⟨"Enter", none, field, value, none⟩
  | .submit fields => ⟨"Submit", none, none, none, some (fields.map fun e => (e.1, e.2.getD ""))⟩

def pageEntry (p : Page) : PageEntry :=
  ⟨p.name, p.expected.map fun e => ⟨e.target, e.value⟩, actionEntry p.action⟩

/-- The document that a scenario's summary is read as. -/
def ofScenario (s : Scenario) : Document :=
  ⟨s.host, s.features.map fun e => (e.1, ⟨e.2.enabled, e.2.context⟩), s.pages.map pageEntry⟩

theorem actionEntry_submit (fields : List (String × String)) :
    actionEntry (.submit (fields.map fun e => (e.1, some e.2))) =
      ⟨"Submit", none, none, none, some fields⟩ := by
  rw [actionEntry, List.map_map]
  exact congrArg (fun fs => ActionEntry.mk "Submit" none none none (some fs)) (List.map_id fields)

theorem summary_submit (fields : List (String × String)) :
    (Action.submit (fields.map fun e => (e.1, some e.2))).summary =
      .map [(.text "actionType", .text "Submit"), (.text "fields", textEntries fields)] := by
  rw [Action.summary, List.map_map]
  rfl

theorem texts_textEntries {es : List (String × String)} (once : (Assoc.keys es).Nodup) :
    texts (textEntries es) = .ok es := by
  have : texts (textEntries es) = .ok (es.map fun e => (e.1, id e.2)) := mapOf_map once fun e _ => rfl
  rw [this]
  exact congrArg _ (List.map_id es)

theorem feature_summary {f : Feature} (h : f.Regular) :
    feature f.summary = .ok ⟨f.enabled, f.context⟩ := by
  refine feature_eq_ok_iff.mpr ⟨_, rfl, required_eq_ok_iff.mpr ⟨_, rfl, rfl⟩,
    withDefault_eq_ok_iff.mpr (.inr ⟨_, rfl, context_eq_ok_iff.mpr ⟨?_, h.unreserved⟩⟩)⟩
  exact nullable_eq_ok_iff.mpr (.inr ⟨nofun, texts_textEntries h.once⟩)

theorem expected_summary {e : Expected} (hw : isWhole e.target = true)
    (hb : isBlankText e.target = false) : expected e.summary = .ok ⟨e.target, e.value⟩ :=
  expected_eq_ok_iff.mpr ⟨_, rfl,
    required_eq_ok_iff.mpr ⟨_, rfl, visibleText_eq_ok_iff.mpr ⟨rfl, hw, hb⟩⟩,
    required_eq_ok_iff.mpr ⟨_, rfl, rfl⟩⟩

theorem action_summary {a : Action} (h : a.Regular) : action a.summary = .ok (actionEntry a) := by
  have hsome : ∀ {key s} {es : List (Data × Data)}, Data.lookup key es = some (.text s) →
      withDefault key none (optional text) es = .ok (some s) := fun hl =>
    withDefault_eq_ok_iff.mpr (.inr ⟨_, hl, optional_eq_ok_iff.mpr (.inr ⟨nofun, _, rfl, rfl⟩)⟩)
  have hnone : ∀ {α : Type} {key} {decode : Data → Checked (Option α)} {es : List (Data × Data)},
      Data.lookup key es = none → withDefault key none decode es = .ok none := fun hl =>
    withDefault_eq_ok_iff.mpr (.inl ⟨hl, rfl⟩)
  cases h with
  | click shown =>
    exact action_eq_ok_iff.mpr ⟨_, rfl, required_eq_ok_iff.mpr ⟨_, rfl, rfl⟩, hsome rfl, hnone rfl,
      hnone rfl, hnone rfl⟩
  | enter shown =>
    exact action_eq_ok_iff.mpr ⟨_, rfl, required_eq_ok_iff.mpr ⟨_, rfl, rfl⟩, hnone rfl, hsome rfl,
      hsome rfl, hnone rfl⟩
  | @submit fields shown once =>
    rw [summary_submit, actionEntry_submit]
    refine action_eq_ok_iff.mpr ⟨_, rfl, required_eq_ok_iff.mpr ⟨_, rfl, rfl⟩, hnone rfl, hnone rfl,
      hnone rfl, withDefault_eq_ok_iff.mpr (.inr ⟨_, rfl, optional_eq_ok_iff.mpr (.inr ?_)⟩)⟩
    exact ⟨nofun, fields, texts_textEntries once, rfl⟩

theorem page_summary {p : Page} (h : p.Regular) (hw : isWhole p.name = true)
    (he : ∀ e ∈ p.expected, isWhole e.target = true) : page p.summary = .ok (pageEntry p) := by
  refine page_eq_ok_iff.mpr ⟨_, rfl,
    required_eq_ok_iff.mpr ⟨_, rfl, visibleText_eq_ok_iff.mpr ⟨rfl, hw, h.name⟩⟩,
    withDefault_eq_ok_iff.mpr (.inr ⟨_, rfl, nullable_eq_ok_iff.mpr (.inr ⟨nofun, ?_⟩)⟩),
    required_eq_ok_iff.mpr ⟨_, rfl, action_summary h.action⟩⟩
  exact listOf_map fun e hm => expected_summary (he e hm) (h.expected e hm)

theorem ofEntries_summary {s : Scenario} (h : s.Regular) (hw : s.Whole) :
    ∃ es, s.summary = .map es ∧ ofEntries es = .ok (ofScenario s) := by
  refine ⟨_, rfl, ofEntries_eq_ok_iff.mpr
    ⟨required_eq_ok_iff.mpr ⟨_, rfl, visibleText_eq_ok_iff.mpr ⟨rfl, hw.host, h.host⟩⟩,
      withDefault_eq_ok_iff.mpr (.inr ⟨_, rfl, nullable_eq_ok_iff.mpr (.inr ⟨nofun, ?_⟩)⟩),
      withDefault_eq_ok_iff.mpr (.inr ⟨_, rfl, nullable_eq_ok_iff.mpr (.inr ⟨nofun, ?_⟩)⟩)⟩⟩
  · exact mapOf_map (f := Feature.summary) (g := fun f => FeatureEntry.mk f.enabled f.context) h.once
      fun e he => feature_summary (h.features e he).2
  · exact listOf_map fun p hp => page_summary (h.pages p hp) (hw.pages p hp).1 (hw.pages p hp).2

theorem asked_actionEntry {a : Action} (h : a.Regular) :
    Action.Asked (.text (actionEntry a).type) (actionEntry a).entries a := by
  obtain ⟨ht, hf, hv, hs⟩ := (actionEntry a).lookup_entries
  cases h with
  | click shown => exact .click rfl ht shown
  | enter shown => exact .enter rfl hf shown hv
  | submit shown once =>
    rw [actionEntry_submit] at hs ⊢
    exact .submit rfl hs shown

theorem gives_pageEntry {p : Page} (h : p.Regular) : (pageEntry p).Gives p := by
  refine ⟨rfl, ?_, Action.build_eq_ok_iff.mpr (asked_actionEntry h.action)⟩
  rw [pageEntry, List.map_map]
  exact (List.map_id _).symm

/-- A regular scenario with whole names is given for its summary, and only these are. -/
theorem scenarioOf_summary {s : Scenario} (h : s.Regular) : scenarioOf s.summary = .ok s ↔ s.Whole := by
  refine ⟨fun hs => (regular_of_scenarioOf hs).2, fun hw => ?_⟩
  obtain ⟨es, hes, hdoc⟩ := ofEntries_summary h hw
  refine scenarioOf_eq_ok_iff.mpr ⟨es, _, hes, hdoc, ?_⟩
  refine (ofEntries_sound hdoc).toScenario_eq_ok_iff.mpr ⟨rfl, ?_, ?_⟩
  · rw [ofScenario, List.map_map]
    refine ((List.map_congr_left fun e he => ?_).trans (List.map_id _)).symm
    have hn := (h.features e he).1
    refine Prod.ext rfl ?_
    rw [Function.comp, hn]
    rfl
  · rw [ofScenario, List.forall₂_map_left_iff, List.forall₂_same]
    exact fun p hp => gives_pageEntry (h.pages p hp)

end Document

end Walkthrough
