import Walkthrough.Proofs.Scenario.Parts
import Walkthrough.Proofs.Script.Moves

/-! What the drafts of a machine hold. `PageDraft.Holds` and `Machine.Holds` relate a draft and a machine
to the part of an outline that was read, and `PageDraft.Holds.close_eq_ok_iff` and
`Machine.Holds.closeFeature` say what closing a draft makes of it. -/

namespace Walkthrough.Script

open Text

/-! ## Pages -/

theorem Property.key_inj {p q : Property} (h : p.key = q.key) : p = q := by
  cases p <;> cases q <;> first | rfl | exact absurd h (by decide)

namespace PageDraft

variable {d : PageDraft} {b : PageBlock}

/-- A draft of the page that a block describes as far as it was read. -/
structure Holds (d : PageDraft) (b : PageBlock) : Prop where
  name : d.name = b.name
  named : isBlankText b.name = false
  expected : d.expected = b.values
  properties : d.properties = b.properties
  once : (Assoc.keys b.properties).Nodup
  fields : d.fields = b.fields
  shown : ∀ e ∈ b.fields, isBlankText e.1 = false

theorem lookup_property (d : PageDraft) (p : Property) :
    Data.lookup p.key d.entries = (Assoc.get? p d.properties).map .text := by
  have hfields : Data.lookup p.key (if d.fields.isEmpty then []
      else [(.text "fields", textEntries d.fields)]) = none := by
    split
    · rfl
    · cases p <;> rfl
  rw [entries, Data.lookup_append, hfields, Option.or_none]
  induction d.properties with
  | nil => rfl
  | cons e es ih =>
    rw [List.map_cons, Data.lookup, Assoc.get?_cons, ih]
    by_cases h : e.1 = p
    · rw [if_pos (beq_iff_eq.mpr (congrArg Property.key h)), if_pos h]
      rfl
    · rw [if_neg fun hk => h (Property.key_inj (beq_iff_eq.mp hk)), if_neg h]

theorem lookup_fields (d : PageDraft) : Data.lookup "fields" d.entries =
    if d.fields.isEmpty then none else some (textEntries d.fields) := by
  rw [entries, Data.lookup_append]
  refine (congrArg (Option.or · _) (?_ : _ = none)).trans ?_
  · induction d.properties with
    | nil => rfl
    | cons e es ih =>
      rw [List.map_cons, Data.lookup, ih, if_neg]
      cases e.1 <;> decide
  · rw [Option.none_or]
    split <;> rfl

theorem type_eq_iff (h : d.Holds b) {t : String} :
    d.type = .text t ↔ (.type, t) ∈ b.properties := by
  rw [← Assoc.get?_eq_some_iff h.once, type, h.properties]
  cases Assoc.get? .type b.properties <;> simp [openText]

theorem lookup_eq_iff (h : d.Holds b) {p : Property} {t : String} :
    Data.lookup p.key d.entries = some (.text t) ↔ (p, t) ∈ b.properties := by
  rw [lookup_property, ← Assoc.get?_eq_some_iff h.once, h.properties]
  simp

/-- The entries of a draft ask for the action that the block asks for. -/
theorem Holds.asked_iff (h : d.Holds b) {a : Action} :
    Action.Asked d.type d.entries a ↔ b.Acts a := by
  constructor
  · intro ha
    cases ha with
    | click kind prop shown =>
      exact .click ((type_eq_iff h).mp kind) ((lookup_eq_iff h (p := .target)).mp prop)
        (isBlankText_eq_false_iff.mp shown)
    | enter kind prop shown text =>
      exact .enter ((type_eq_iff h).mp kind) ((lookup_eq_iff h (p := .targetField)).mp prop)
        (isBlankText_eq_false_iff.mp shown) ((lookup_eq_iff h (p := .value)).mp text)
    | bare kind none =>
      rw [lookup_fields] at none
      have he : b.fields = [] := by
        rw [← h.fields, ← List.isEmpty_iff]
        split at none
        · assumption
        · rcases none with h | h <;> cases h
      have := PageBlock.Acts.submit ((type_eq_iff h).mp kind)
      rwa [he] at this
    | @submit fields kind map shown =>
      rw [lookup_fields] at map
      split at map
      · cases map
      · rw [← textEntries_inj (Option.some.inj map), h.fields]
        exact .submit ((type_eq_iff h).mp kind)
  · intro ha
    cases ha with
    | click type prop shown =>
      exact .click ((type_eq_iff h).mpr type) ((lookup_eq_iff h (p := .target)).mpr prop)
        (isBlankText_eq_false_iff.mpr shown)
    | enter type prop shown text =>
      exact .enter ((type_eq_iff h).mpr type) ((lookup_eq_iff h (p := .targetField)).mpr prop)
        (isBlankText_eq_false_iff.mpr shown) ((lookup_eq_iff h (p := .value)).mpr text)
    | submit type =>
      have hl := lookup_fields d
      rw [h.fields] at hl
      split at hl
      · next he =>
        rw [List.isEmpty_iff.mp he]
        exact .bare ((type_eq_iff h).mpr type) (.inl hl)
      · exact .submit ((type_eq_iff h).mpr type) hl h.shown

/-- A draft is closed to the page that its block describes, once its action was begun. -/
theorem Holds.close_eq_ok_iff (h : d.Holds b) {p : Page} :
    d.close = .ok p ↔ d.actionLine ≠ none ∧ b.Says p := by
  unfold close
  cases d.actionLine with
  | none => simp
  | some n =>
    have hcreate : ∀ a, Page.create (some d.name) (some a) d.expected = .ok ⟨b.name, a, b.values⟩ := by
      intro a
      rw [h.name, h.expected, Page.create, h.named]
      rfl
    simp only [hcreate]
    cases hb : Action.build d.type d.entries with
    | error fault =>
      refine ⟨nofun, fun ⟨_, hs⟩ => ?_⟩
      have := Action.build_eq_ok_iff.mpr (h.asked_iff.mpr hs.action)
      rw [hb] at this
      cases this
    | ok a =>
      have ha := h.asked_iff.mp (Action.build_eq_ok_iff.mp hb)
      constructor
      · rintro ⟨⟩
        exact ⟨nofun, rfl, rfl, h.once, ha⟩
      · rintro ⟨-, hs⟩
        have := Action.build_eq_ok_iff.mpr (h.asked_iff.mpr hs.action)
        rw [hb] at this
        cases this
        obtain ⟨name, action, expected⟩ := p
        obtain ⟨rfl, rfl, -, -⟩ := hs
        rfl

/-! ### Longer blocks -/

theorem properties_add (b : PageBlock) (part : Part) :
    (b.add part).properties = b.properties ++ part.property?.toList := by
  rw [PageBlock.properties, PageBlock.add, List.filterMap_append]
  cases part <;> rfl

theorem flatMap_add (b : PageBlock) (part : Part) :
    (b.add part).parts.flatMap Part.items = b.parts.flatMap Part.items ++ part.items := by
  rw [PageBlock.add, List.flatMap_append, List.flatMap_singleton]

theorem Holds.begin {name : String} {text : List Char} (h : PageLine name text) (hn : name ≠ "")
    (n : Nat) : ({ name, line := n } : PageDraft).Holds ⟨name, none, []⟩ := by
  obtain ⟨c, rest, -, -, rfl⟩ := h
  exact ⟨rfl, isBlankText_trim hn, rfl, rfl, .nil, rfl, nofun⟩

theorem Holds.withAction (h : d.Holds b) (n : Option Nat) :
    ({ d with actionLine := n } : PageDraft).Holds b :=
  ⟨h.name, h.named, h.expected, h.properties, h.once, h.fields, h.shown⟩

theorem Holds.beginExpected {name : String} (h : d.Holds ⟨name, none, []⟩) :
    d.Holds ⟨name, some [], []⟩ :=
  ⟨h.name, h.named, h.expected, h.properties, h.once, h.fields, h.shown⟩

theorem Holds.item {name : String} {items : List (String × String)}
    (h : d.Holds ⟨name, some items, []⟩) (target value : String) :
    ({ d with expected := d.expected ++ [Expected.mk target value] } : PageDraft).Holds
      ⟨name, some (items ++ [(target, value)]), []⟩ := by
  refine ⟨h.name, h.named, ?_, h.properties, h.once, h.fields, h.shown⟩
  simp [h.expected, PageBlock.values]

theorem Holds.property {p : Property} (h : d.Holds b) (hp : p ∉ Assoc.keys d.properties)
    (value : String) : ({ d with properties := Assoc.put p value d.properties } : PageDraft).Holds
      (b.add (.property p value)) := by
  have hfs : (b.add (.property p value)).fields = b.fields := by
    rw [PageBlock.fields, flatMap_add]
    exact congrArg _ (List.append_nil _)
  refine ⟨h.name, h.named, h.expected, ?_, ?_, hfs ▸ h.fields, hfs ▸ h.shown⟩
  · rw [Assoc.put_of_not_mem hp, properties_add, h.properties]
    rfl
  · rw [h.properties] at hp
    rw [properties_add, Assoc.keys_append]
    exact List.nodup_append.mpr ⟨h.once, List.nodup_singleton _, fun q hq r hr => by
      rw [List.mem_singleton.mp hr]
      rintro rfl
      exact hp hq⟩

theorem Holds.beginFields (h : d.Holds b) : d.Holds (b.add (.fields [])) := by
  have hps : (b.add (.fields [])).properties = b.properties := by
    rw [properties_add]
    exact List.append_nil _
  have hfs : (b.add (.fields [])).fields = b.fields := by
    rw [PageBlock.fields, flatMap_add]
    exact congrArg _ (List.append_nil _)
  exact ⟨h.name, h.named, h.expected, hps ▸ h.properties, hps ▸ h.once, hfs ▸ h.fields, hfs ▸ h.shown⟩

theorem Holds.field {items : List (String × String)} {name : String}
    (h : d.Holds (b.add (.fields items))) (hn : isBlankText name = false) (value : String) :
    ({ d with fields := Assoc.put name value d.fields } : PageDraft).Holds
      (b.add (.fields (items ++ [(name, value)]))) := by
  have hps : (b.add (.fields (items ++ [(name, value)]))).properties =
      (b.add (.fields items)).properties := by
    rw [properties_add, properties_add]
    rfl
  have hfs : (b.add (.fields (items ++ [(name, value)]))).fields =
      Assoc.put name value (b.add (.fields items)).fields := by
    rw [PageBlock.fields, PageBlock.fields, flatMap_add, flatMap_add,
      ← Assoc.ofPairs_concat _ (name, value),
      List.append_assoc]
    rfl
  refine ⟨h.name, h.named, h.expected, hps ▸ h.properties, hps ▸ h.once, ?_, ?_⟩
  · rw [hfs, h.fields]
  · rw [hfs]
    intro e he
    rcases Assoc.mem_keys_put.mp (List.mem_map_of_mem he) with hk | hk
    · rw [hk, hn]
    · obtain ⟨e', he', hk⟩ := List.mem_map.mp hk
      rw [← hk]
      exact h.shown e' he'

end PageDraft

/-! ## Features -/

namespace Machine

variable {m : Machine} {o : Outline}

/-- The features of a machine, the open one among them. -/
def closed (m : Machine) : List (String × Feature) :=
  m.features ++ (m.feature.map fun d => (d.name, ⟨d.name, d.enabled, d.context⟩)).toList

/-- The machine with its open feature put to the others. -/
def flush (m : Machine) : Machine := { m with feature := none, features := m.closed }

/-- A machine that has read the blocks of an outline, the last of them perhaps not to its end. -/
structure Holds (m : Machine) (o : Outline) : Prop where
  host : o.prologue.filterMap Block.host? = m.host.toList
  once : (o.groups.map Group.name).Nodup
  features : m.closed = o.groups.map Group.feature
  unreserved : ∀ d ∈ m.feature, ∀ k ∈ Assoc.keys d.context, k ∉ reservedKeys
  pages : List.Forall₂ PageBlock.Says o.pages m.pages

theorem Holds.keys (h : m.Holds o) : Assoc.keys m.closed = o.groups.map Group.name := by
  rw [h.features, Assoc.keys, List.map_map]
  rfl

theorem keys_closed (m : Machine) :
    Assoc.keys m.closed = Assoc.keys m.features ++ (m.feature.map FeatureDraft.name).toList := by
  rw [closed, Assoc.keys_append]
  cases m.feature <;> rfl

/-- A name is new to the features if the drafts of these and the open one have others. -/
theorem not_mem_closed_iff {name : String} : name ∉ Assoc.keys m.closed ↔
    name ∉ Assoc.keys m.features ∧ ∀ d ∈ m.feature, d.name ≠ name := by
  rw [keys_closed, List.mem_append, not_or]
  cases m.feature <;> simp [eq_comm]

/-- Closing the open feature succeeds if it is new and its context is allowed. -/
theorem closeFeature_eq_flush (fresh : ∀ d ∈ m.feature, d.name ∉ Assoc.keys m.features)
    (unreserved : ∀ d ∈ m.feature, ∀ k ∈ Assoc.keys d.context, k ∉ reservedKeys) :
    m.closeFeature = .ok m.flush := by
  unfold Machine.closeFeature
  cases hf : m.feature with
  | none =>
    have hm : m = { m with feature := none } := by rw [← hf]
    rw [flush, closed, hf]
    simp only [Option.map_none, Option.toList_none, List.append_nil]
    rw [← hm]
  | some d =>
    simp only [Feature.create_eq_ok (unreserved d hf), Assoc.put_of_not_mem (fresh d hf)]
    rw [flush, closed, hf]
    rfl

theorem Holds.closeFeature (h : m.Holds o) : m.closeFeature = .ok m.flush := by
  refine closeFeature_eq_flush (fun d hf hk => ?_) h.unreserved
  have hn : (Assoc.keys m.closed).Nodup := h.keys ▸ h.once
  rw [keys_closed, hf, List.nodup_append] at hn
  exact hn.2.2 _ hk _ (List.mem_singleton.mpr rfl) rfl

theorem Holds.flush (h : m.Holds o) : m.flush.Holds o where
  host := h.host
  once := h.once
  features := by rw [closed, Machine.flush, ← h.features]; exact List.append_nil _
  unreserved := nofun
  pages := h.pages

/-! ### Longer outlines -/

variable {bs : List Block} {gs : List Group}

theorem groups_features (bs : List Block) (gs : List Group) (ps : List PageBlock) :
    Outline.groups ⟨bs ++ [Block.features gs], ps⟩ = bs.flatMap Block.groups ++ gs := by
  rw [Outline.groups, List.flatMap_append, List.flatMap_singleton]
  rfl

theorem hosts_features (bs : List Block) (gs : List Group) :
    (bs ++ [Block.features gs]).filterMap Block.host? = bs.filterMap Block.host? := by
  rw [List.filterMap_append]
  exact List.append_nil _

theorem Holds.withPage (h : m.Holds o) (page : Option PageDraft) (mode : Mode) :
    ({ m with page, mode } : Machine).Holds o :=
  ⟨h.host, h.once, h.features, h.unreserved, h.pages⟩

theorem Holds.putHost (h : m.Holds ⟨bs, []⟩) (hn : m.host = none) (value : String) :
    ({ m with host := some value, mode := .top } : Machine).Holds ⟨bs ++ [Block.host value], []⟩ := by
  have hg : Outline.groups ⟨bs ++ [Block.host value], []⟩ = Outline.groups ⟨bs, []⟩ := by
    rw [Outline.groups, List.flatMap_append]
    exact List.append_nil _
  refine ⟨?_, hg ▸ h.once, hg ▸ h.features, h.unreserved, h.pages⟩
  have hh := h.host
  rw [hn] at hh
  rw [List.filterMap_append, hh]
  rfl

theorem Holds.beginBlock (h : m.Holds ⟨bs, []⟩) :
    ({ m with mode := .features } : Machine).Holds ⟨bs ++ [Block.features []], []⟩ := by
  have hg : Outline.groups ⟨bs ++ [Block.features []], []⟩ = Outline.groups ⟨bs, []⟩ := by
    rw [groups_features]
    exact List.append_nil _
  exact ⟨(hosts_features bs []).symm ▸ h.host, hg ▸ h.once, hg ▸ h.features, h.unreserved, h.pages⟩

theorem Holds.beginGroup {name : String} (h : m.Holds ⟨bs ++ [Block.features gs], []⟩)
    (hn : name ∉ Assoc.keys m.closed) :
    ({ m.flush with feature := some { name } } : Machine).Holds
      ⟨bs ++ [Block.features (gs ++ [⟨name, []⟩])], []⟩ := by
  have hg : Outline.groups ⟨bs ++ [Block.features (gs ++ [⟨name, []⟩])], []⟩ =
      Outline.groups ⟨bs ++ [Block.features gs], []⟩ ++ [⟨name, []⟩] := by
    rw [groups_features, groups_features, List.append_assoc]
  refine ⟨?_, ?_, ?_, ?_, h.pages⟩
  · rw [hosts_features, ← hosts_features bs gs]
    exact h.host
  · rw [hg, List.map_append, List.nodup_append]
    refine ⟨h.once, List.nodup_singleton _, fun k hk j hj => ?_⟩
    rw [List.mem_singleton.mp hj]
    rintro rfl
    exact hn (h.keys ▸ hk)
  · rw [hg, List.map_append, ← h.features]
    rfl
  · rintro d ⟨⟩
    exact nofun

theorem draft_name (g : Group) : g.draft.name = g.name := by
  rw [Group.draft]
  induction g.settings using List.reverseRecOn with
  | nil => rfl
  | append_singleton ss s ih =>
    rw [List.foldl_append]
    cases s <;> exact ih

theorem draft_add (g : Group) (s : Setting) : (g.add s).draft = s.apply g.draft := by
  rw [Group.draft, Group.add, List.foldl_append]
  rfl

theorem Holds.addSetting {g : Group} {s : Setting} {ls : List (List Char)}
    (h : m.Holds ⟨bs ++ [Block.features (gs ++ [g])], []⟩) (hf : m.feature = some g.draft)
    (hs : s.Spells ls) : ({ m with feature := some (s.apply g.draft) } : Machine).Holds
      ⟨bs ++ [Block.features (gs ++ [g.add s])], []⟩ := by
  have hg : ∀ g', Outline.groups ⟨bs ++ [Block.features (gs ++ [g'])], []⟩ =
      bs.flatMap Block.groups ++ gs ++ [g'] := by
    intro g'
    rw [groups_features, List.append_assoc]
  have hfeat := h.features
  rw [closed, hf, hg, List.map_append] at hfeat
  refine ⟨?_, ?_, ?_, ?_, h.pages⟩
  · rw [hosts_features, ← hosts_features bs (gs ++ [g])]
    exact h.host
  · have := h.once
    rw [hg, List.map_append] at this ⊢
    exact this
  · rw [hg, List.map_append, ← (List.append_inj' hfeat rfl).1, closed, ← draft_add]
    simp [Group.feature, draft_name]
  · rintro d ⟨⟩ k hk
    have hu := h.unreserved _ hf
    cases hs with
    | enable | on => exact hu k hk
    | entry free pair unreserved =>
      rcases Assoc.mem_keys_put.mp hk with rfl | hk
      · exact unreserved
      · exact hu k hk

theorem Holds.addPage {b : PageBlock} {p : Page} (h : m.Holds o) (hb : b.Says p)
    (page : Option PageDraft) : ({ m with page, pages := m.pages ++ [p] } : Machine).Holds
      ⟨o.prologue, o.pages ++ [b]⟩ :=
  ⟨h.host, h.once, h.features, h.unreserved, List.rel_append h.pages (.cons hb .nil)⟩

end Machine

end Walkthrough.Script
