import Walkthrough.Proofs.Script.Writer

/-! What is written is read. The lines that `write` puts down spell an outline, and this says the scenario
that was written (`parse_write`). -/

namespace Walkthrough.Script

open Text

def featureGroup (f : Feature) : Group :=
  ⟨f.name, .enable f.enabled :: f.context.map fun e => .entry e.1 e.2⟩

def actionParts : Action → List Part
  | .click target => [.property .type "Click", .property .target (target.getD "")]
  | .enter field value => [.property .type "Enter", .property .targetField (field.getD ""),
      .property .value (value.getD "")]
  | .submit fields => [.property .type "Submit", .fields (fields.map fun e => (e.1, e.2.getD ""))]

def pageBlock (p : Page) : PageBlock :=
  ⟨p.name, some (p.expected.map fun e => (e.target, e.value)), actionParts p.action⟩

/-- The outline that a scenario is written with. -/
def scenarioOutline (s : Scenario) : Outline :=
  ⟨[.host s.host, .features (s.features.map fun e => featureGroup e.2)], s.pages.map pageBlock⟩

section Spelling

variable {s : Scenario}

theorem counted_cons (l : List Char) (ls : List (List Char)) :
    counted (l :: ls) = counted [l] ++ counted ls := counted_append [l] ls

theorem sequence_counted {α γ : Type} {R : α → List (List Char) → Prop} {f : γ → α}
    {g : γ → List (List Char)} {cs : List γ} (h : ∀ c ∈ cs, R (f c) (counted (g c))) :
    Sequence R (cs.map f) (counted (cs.flatMap g)) := by
  induction cs with
  | nil => exact .nil
  | cons c cs ih =>
    rw [List.flatMap_cons, counted_append]
    exact .cons (h c List.mem_cons_self) (ih fun d hd => h d (List.mem_cons_of_mem _ hd))

theorem feature_spells {f : Feature} (h : WritableFeature f) :
    (featureGroup f).Spells (counted (featureLines f)) := by
  obtain ⟨head, hhead⟩ := header_line h.label
  rw [featureLines, counted_cons, hhead, List.singleton_append, counted_cons, List.map_eq_flatMap]
  refine .mk head (.cons (enable_spells f.enabled) (sequence_counted fun e he => ?_))
  exact entry_spells (h.entries e he)

theorem items_spell {items : List (String × String)} (h : ∀ e ∈ items, Name e.1) :
    Sequence ItemSpells items (counted (items.map itemLine)) := by
  have := sequence_counted (R := ItemSpells) (f := id) (g := fun e => [itemLine e])
    fun e he => item_spells (h e he) e.2
  rwa [List.map_id, ← List.map_eq_flatMap] at this

theorem actionParts_submit (fields : List (String × String)) :
    actionParts (.submit (fields.map fun e => (e.1, some e.2))) =
      [.property .type "Submit", .fields fields] := by
  rw [actionParts, List.map_map]
  exact congrArg (fun fs => [Part.property .type "Submit", Part.fields fs]) (List.map_id fields)

theorem action_spells {a : Action} (h : WritableAction a) :
    Sequence Part.Spells (actionParts a) (counted (actionLines a)) := by
  cases h with
  | click shown unbroken =>
    rw [actionLines, counted_cons]
    exact .cons (type_spells .click) (.single (property_spells .target _))
  | enter shown unbroken unbroken_value =>
    rw [actionLines, counted_cons, counted_cons (propertyLine _)]
    exact .cons (type_spells .enter)
      (.cons (property_spells .targetField _) (.single (property_spells .value _)))
  | @submit fields names once =>
    have hl : (fields.map fun e => (e.1, some e.2)).map (fun e => itemLine (e.1, e.2.getD "")) =
        fields.map itemLine := by rw [List.map_map]; rfl
    rw [actionParts_submit, actionLines, counted_cons, counted_cons fieldsLine, hl]
    exact .cons (type_spells .submit) (.single (.fields (items_spell fun e he => (names e he).1)))

theorem page_spells {p : Page} (h : WritablePage p) :
    (pageBlock p).Spells (counted (pageLines p)) := by
  obtain ⟨word, hword⟩ := page_line h.label
  have hitems : p.expected.map (fun e => itemLine (e.target, e.value)) =
      (p.expected.map fun e => (e.target, e.value)).map itemLine := by rw [List.map_map]; rfl
  rw [pageLines, List.cons_append, counted_cons, hword, List.singleton_append, List.cons_append,
    counted_cons, counted_append, counted_cons actionLine, hitems, ← List.append_assoc]
  have hnames : ∀ e ∈ p.expected.map (fun e => (e.target, e.value)), Name e.1 := by
    intro e he
    obtain ⟨e', he', rfl⟩ := List.mem_map.mp he
    exact (h.expected e' he').1
  exact .mk word h.label.shown (.some (items_spell hnames)) (action_spells h.action)

theorem scenario_spells (h : Writable s) : (scenarioOutline s).Spells (counted (scenarioLines s)) := by
  rw [scenarioLines, counted_append, counted_cons, counted_cons featuresLine]
  refine .mk (.cons (host_spells h.host) (.single (.features ?_))) ?_
  · exact sequence_counted fun e he => feature_spells (h.features e he).2
  · exact sequence_counted fun p hp => page_spells (h.pages p hp)

/-! ## No line is broken -/

theorem unbroken_itemLine {e : String × String} (h : Name e.1) (hv : Unbroken e.2.toList) :
    Unbroken (itemLine e) :=
  .append (a := ['-', ' ']) (by decide) (unbroken_quotedPair h hv)

theorem unbroken_entryLine {e : String × String} (h : Entry e.1 e.2) : Unbroken (entryLine e) := by
  refine .append (.append h.unbroken ?_) h.unbroken_value
  split <;> decide

theorem unbroken_featureLines {f : Feature} (h : WritableFeature f) :
    ∀ l ∈ featureLines f, Unbroken l := by
  intro l hl
  rcases List.mem_cons.mp hl with rfl | hl
  · exact .append (a := ['-', ' '] ++ f.name.toList) (.append (by decide) h.label.unbroken) (by decide)
  rcases List.mem_cons.mp hl with rfl | hl
  · cases f.enabled <;> decide
  · obtain ⟨e, he, rfl⟩ := List.mem_map.mp hl
    exact unbroken_entryLine (h.entries e he)

theorem unbroken_actionLines {a : Action} (h : WritableAction a) : ∀ l ∈ actionLines a, Unbroken l := by
  have htype : ∀ t, Unbroken (typeLine t) := by
    intro t
    cases t <;> decide
  have hprop : ∀ (p : Property) {v : String}, Unbroken v.toList → Unbroken (propertyLine (p, v)) :=
    fun p _ hv => unbroken_quotedPair (name_word p) hv
  intro l hl
  cases h with
  | click shown unbroken =>
    rcases List.mem_pair.mp hl with rfl | rfl
    · exact htype _
    · exact hprop _ unbroken
  | enter shown unbroken unbroken_value =>
    rcases List.mem_cons.mp hl with rfl | hl
    · exact htype _
    rcases List.mem_pair.mp hl with rfl | rfl
    · exact hprop _ unbroken
    · exact hprop _ unbroken_value
  | @submit fields names once =>
    rcases List.mem_cons.mp hl with rfl | hl
    · exact htype _
    rcases List.mem_cons.mp hl with rfl | hl
    · decide
    · obtain ⟨e, he, rfl⟩ := List.mem_map.mp hl
      obtain ⟨f, hf, rfl⟩ := List.mem_map.mp he
      exact unbroken_itemLine (names f hf).1 (names f hf).2

theorem unbroken_pageLines {p : Page} (h : WritablePage p) : ∀ l ∈ pageLines p, Unbroken l := by
  intro l hl
  rcases List.mem_append.mp hl with hl | hl
  · rcases List.mem_cons.mp hl with rfl | hl
    · exact .append (a := pageWord ++ [' ']) (by decide) h.label.unbroken
    rcases List.mem_cons.mp hl with rfl | hl
    · decide
    · obtain ⟨e, he, rfl⟩ := List.mem_map.mp hl
      exact unbroken_itemLine (h.expected e he).1 (h.expected e he).2
  · rcases List.mem_cons.mp hl with rfl | hl
    · decide
    · exact unbroken_actionLines h.action l hl

theorem unbroken_scenarioLines (h : Writable s) : ∀ l ∈ scenarioLines s, Unbroken l := by
  intro l hl
  rcases List.mem_append.mp hl with hl | hl
  · rcases List.mem_cons.mp hl with rfl | hl
    · exact .append (by decide) h.host.unbroken
    rcases List.mem_cons.mp hl with rfl | hl
    · decide
    · obtain ⟨e, he, hl⟩ := List.mem_flatMap.mp hl
      exact unbroken_featureLines (h.features e he).2 l hl
  · obtain ⟨p, hp, hl⟩ := List.mem_flatMap.mp hl
    exact unbroken_pageLines (h.pages p hp) l hl

end Spelling

/-! ## The outline says the scenario -/

section Meaning

variable {s : Scenario}

theorem foldl_entries (d : FeatureDraft) (es : List (String × String)) :
    (es.map fun e => Setting.entry e.1 e.2).foldl Setting.apply d =
      { d with context := es.foldl (fun m e => Assoc.put e.1 e.2 m) d.context } := by
  induction es generalizing d with
  | nil => rfl
  | cons e es ih =>
    rw [List.map_cons, List.foldl_cons, ih]
    rfl

theorem feature_featureGroup {f : Feature} (h : WritableFeature f) :
    (featureGroup f).feature = (f.name, f) := by
  have hd : (featureGroup f).draft =
        { name := f.name, enabled := f.enabled, context := f.context } := by
    rw [Group.draft, featureGroup, List.foldl_cons, foldl_entries]
    exact congrArg _ (Assoc.ofPairs_of_nodup h.once)
  rw [Group.feature, hd]
  rfl

theorem acts_actionParts {a : Action} (h : WritableAction a) (name : String)
    (expected : Option (List (String × String))) :
    (Assoc.keys (PageBlock.mk name expected (actionParts a)).properties).Nodup ∧
      (PageBlock.mk name expected (actionParts a)).Acts a := by
  cases h with
  | click shown =>
    have once : [Property.type, .target].Nodup := by decide
    exact ⟨once, .click List.mem_cons_self (List.mem_cons_of_mem _ List.mem_cons_self) shown⟩
  | enter shown =>
    have once : [Property.type, .targetField, .value].Nodup := by decide
    exact ⟨once, .enter List.mem_cons_self (List.mem_cons_of_mem _ List.mem_cons_self) shown
      (List.mem_cons_of_mem _ (List.mem_cons_of_mem _ List.mem_cons_self))⟩
  | @submit fields names once =>
    rw [actionParts_submit]
    have hf :
        (PageBlock.mk name expected [.property .type "Submit", .fields fields]).fields = fields := by
      rw [PageBlock.fields]
      exact (congrArg _ (List.append_nil _)).trans (Assoc.ofPairs_of_nodup once)
    have := PageBlock.Acts.submit (b := ⟨name, expected, [.property .type "Submit", .fields fields]⟩)
      List.mem_cons_self
    rw [hf] at this
    exact ⟨List.nodup_singleton _, this⟩

theorem says_pageBlock {p : Page} (h : WritablePage p) : (pageBlock p).Says p := by
  obtain ⟨once, acts⟩ :=
    acts_actionParts h.action p.name (some (p.expected.map fun e => (e.target, e.value)))
  refine ⟨rfl, ?_, once, acts⟩
  rw [PageBlock.values, pageBlock, Option.getD_some, List.map_map]
  exact (List.map_id _).symm

theorem says_scenarioOutline (h : Writable s) : (scenarioOutline s).Says s := by
  have hgroups : (scenarioOutline s).groups = s.features.map fun e => featureGroup e.2 :=
    List.append_nil _
  have hname : ∀ e ∈ s.features, e.1 = e.2.name := fun e he => (h.features e he).1
  refine ⟨rfl, ?_, ?_, ?_⟩
  · have := h.once
    rw [Assoc.keys, List.map_congr_left hname] at this
    rw [hgroups, List.map_map]
    exact this
  · rw [hgroups, List.map_map]
    have hfeat : ∀ e ∈ s.features, Group.feature (featureGroup e.2) = e := fun e he => by
      rw [feature_featureGroup (h.features e he).2, ← hname e he]
    exact ((List.map_congr_left hfeat).trans (List.map_id _)).symm
  · rw [scenarioOutline, List.forall₂_map_left_iff, List.forall₂_same]
    exact fun p hp => says_pageBlock (h.pages p hp)

end Meaning

/-- What is written for a scenario is read as that scenario. -/
theorem parse_write {s : Scenario} (h : Writable s) : parse (write s) = .ok s := by
  refine parse_of_outline (o := scenarioOutline s) ?_ (says_scenarioOutline h)
  rw [countedLines, write, lines_unlines (unbroken_scenarioLines h)]
  exact scenario_spells h

end Walkthrough.Script
