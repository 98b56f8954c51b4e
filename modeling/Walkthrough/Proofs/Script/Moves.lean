import Walkthrough.Proofs.Basic
import Walkthrough.Proofs.Script.Outline

/-! What a machine can do with a line. `Moves` has one constructor for each kind of line and says under
which condition the line is legal and what the machine is after it; `step_eq_ok_iff` says that these
are the successful steps. -/

namespace Walkthrough.Script

open Text

theorem Setting.Spells.exists_pair {s : Setting} {text : List Char} (h : s.Spells [text]) :
    Free text ∧ ∃ key value, pair? text = some (key, value) := by
  cases h with
  | enable free pair | on free pair | entry free pair =>
    exact ⟨free, _, _, pairLine_iff.mp pair⟩

/-- The name in a pair shows something. -/
theorem PairLine.isBlankText {name value : String} {text : List Char} (h : PairLine name value text) :
    isBlankText name = false := by
  obtain ⟨front, -, -, -, rfl, -, hne⟩ := h
  exact isBlankText_trim hne

namespace Machine

/-- The successful steps of a machine. -/
inductive Moves (m : Machine) (line : Line) : Machine → Prop
  | host {value m'} (head : HostLine value line.text) (shown : value ≠ "")
      (early : m.pastPrologue = false) (first : m.host = none) (closed : m.closeFeature = .ok m') :
      Moves m line { m' with host := some value, mode := .top }
  | features {m'} (head : line.text = featuresLine) (early : m.pastPrologue = false)
      (closed : m.closeFeature = .ok m') : Moves m line { m' with mode := .features }
  | page {name m' m''} (head : PageLine name line.text) (shown : name ≠ "") (host : m.host ≠ none)
      (closed : m.closeFeature = .ok m') (done : m'.closePage = .ok m'') :
      Moves m line { m'' with page := some { name := name, line := line.number }, mode := .page }
  | header {name m'} (mode : m.mode = .features) (head : HeaderLine name line.text)
      (fresh : name ∉ Assoc.keys m.features) (other : ∀ d ∈ m.feature, d.name ≠ name)
      (closed : m.closeFeature = .ok m') : Moves m line { m' with feature := some { name := name } }
  | setting {s : Setting} {d} (mode : m.mode = .features) (draft : m.feature = some d)
      (head : s.Spells [line.text]) : Moves m line { m with feature := some (s.apply d) }
  | expected {d} (mode : m.mode = .page) (draft : m.page = some d)
      (head : line.text = expectedLine) : Moves m line { m with mode := .expected }
  | action {d} (mode : m.mode.inPage) (draft : m.page = some d) (head : line.text = actionLine)
      (first : d.actionLine = none) :
      Moves m line { m with page := some { d with actionLine := some line.number }, mode := .action }
  | item {d target value} (mode : m.mode = .expected) (draft : m.page = some d)
      (head : ItemLine target value line.text) :
      Moves m line { m with page := some { d with expected := d.expected ++ [⟨target, value⟩] } }
  | fields {d} (mode : m.mode = .action ∨ m.mode = .fields) (draft : m.page = some d)
      (head : line.text = fieldsLine) : Moves m line { m with mode := .fields }
  | property {d p value} (mode : m.mode = .action ∨ m.mode = .fields) (draft : m.page = some d)
      (head : PropertyLine p value line.text) (fresh : p ∉ Assoc.keys d.properties) :
      Moves m line { m with
        page := some { d with properties := Assoc.put p value d.properties }, mode := .action }
  | field {d name value} (mode : m.mode = .fields) (draft : m.page = some d)
      (head : ItemLine name value line.text) :
      Moves m line { m with page := some { d with fields := Assoc.put name value d.fields } }

variable {m m' : Machine} {line : Line} {name value : String}

theorem pairAt_eq_ok {kind : PairKind} {n : Nat} {text : List Char} {sides : List Char × List Char} :
    pairAt kind n text = .ok sides ↔ pair? text = some sides := by
  unfold pairAt
  cases pair? text <;> simp

/-! ## Lines that open a block -/

theorem openHost_eq_ok {v : List Char} : m.openHost line.number v = .ok m' ↔
    m.pastPrologue = false ∧ m.host = none ∧ v ≠ [] ∧
      ∃ m₁, m.closeFeature = .ok m₁ ∧ m' = { m₁ with host := some (.ofList v), mode := .top } := by
  unfold openHost
  split
  · next h => simp [h]
  split
  · next h =>
    rw [Option.isSome_iff_ne_none] at h
    simp [h]
  split
  · next h => simp [List.isEmpty_iff.mp h]
  · next h1 h2 h3 =>
    rw [Except.bind_eq_ok_iff]
    rw [Option.isSome_iff_ne_none, not_not] at h2
    rw [List.isEmpty_iff] at h3
    simp only [h1, h2, h3, true_and, ne_eq, not_false_eq_true]
    constructor <;> rintro ⟨m₁, hm, h⟩ <;> exact ⟨m₁, hm, by cases h; rfl⟩

theorem openFeatures_eq_ok : m.openFeatures line.number = .ok m' ↔
    m.pastPrologue = false ∧ ∃ m₁, m.closeFeature = .ok m₁ ∧ m' = { m₁ with mode := .features } := by
  unfold openFeatures
  split
  · next h => simp [h]
  · next h =>
    rw [Except.bind_eq_ok_iff]
    simp only [h, true_and]
    constructor <;> rintro ⟨m₁, hm, h⟩ <;> exact ⟨m₁, hm, by cases h; rfl⟩

theorem openPage_eq_ok {n : List Char} : m.openPage line.number n = .ok m' ↔
    m.host ≠ none ∧ n ≠ [] ∧ ∃ m₁ m₂, m.closeFeature = .ok m₁ ∧ m₁.closePage = .ok m₂ ∧
      m' = { m₂ with page := some { name := .ofList n, line := line.number }, mode := .page } := by
  unfold openPage
  split
  · next h => simp [Option.isNone_iff_eq_none.mp h]
  split
  · next h => simp [List.isEmpty_iff.mp h]
  · next h1 h2 =>
    rw [Option.isNone_iff_eq_none] at h1
    rw [List.isEmpty_iff] at h2
    simp only [h1, h2, true_and, ne_eq, not_false_eq_true, Except.bind_eq_ok_iff]
    constructor
    · rintro ⟨m₁, h₁, m₂, h₂, h⟩
      exact ⟨m₁, m₂, h₁, h₂, by cases h; rfl⟩
    · rintro ⟨m₁, m₂, h₁, h₂, rfl⟩
      exact ⟨m₁, h₁, m₂, h₂, rfl⟩

/-! ## Lines of the features -/

theorem openFeature_eq_ok {rest : List Char} : m.openFeature line rest = .ok m' ↔
    ∃ n, featureName? rest = some n ∧ .ofList n ∉ Assoc.keys m.features ∧
      (∀ d ∈ m.feature, d.name ≠ .ofList n) ∧
      ∃ m₁, m.closeFeature = .ok m₁ ∧ m' = { m₁ with feature := some { name := .ofList n } } := by
  unfold openFeature
  cases featureName? rest with
  | none => simp
  | some n =>
    simp only [Option.some.injEq, exists_eq_left']
    have hany : m.feature.any (·.name == String.ofList n) = true ↔
        ∃ d ∈ m.feature, d.name = .ofList n := by
      cases m.feature <;> simp
    split
    · next h =>
      rw [Bool.or_eq_true, Assoc.contains_iff, hany] at h
      refine ⟨nofun, fun ⟨hk, hd, _⟩ => ?_⟩
      rcases h with h | ⟨d, hm, h⟩
      · exact absurd h hk
      · exact absurd h (hd d hm)
    · next h =>
      rw [Bool.or_eq_true, Assoc.contains_iff, hany, not_or] at h
      rw [Except.bind_eq_ok_iff]
      constructor
      · rintro ⟨m₁, hm, hr⟩
        exact ⟨h.1, fun d hd he => h.2 ⟨d, hd, he⟩, m₁, hm, by cases hr; rfl⟩
      · rintro ⟨-, -, m₁, hm, rfl⟩
        exact ⟨m₁, hm, rfl⟩

private theorem ofList_eq_iff {k w : List Char} : String.ofList k = String.ofList w ↔ k = w :=
  String.ofList_inj

theorem set_of_spells {d : FeatureDraft} {n : Nat} {s : Setting} {text key value : List Char}
    (hs : s.Spells [text]) (hp : PairLine (.ofList key) (.ofList value) text) :
    d.set n key value = .ok (s.apply d) := by
  unfold FeatureDraft.set
  cases hs with
  | enable _ pair truth =>
    obtain ⟨hk, rfl⟩ := pair.unique hp
    have hv : Tight value := by simpa using hp.tight.2
    rw [if_pos (ofList_eq_iff.mp hk.symm), (truth?_eq_some_iff hv).mpr truth]
    rfl
  | on _ pair =>
    obtain ⟨hk, hv⟩ := pair.unique hp
    have hk : key = ['o', 'n'] := ofList_eq_iff.mp hk.symm
    have hv : value = [] := ofList_eq_iff.mp hv.symm
    subst hk hv
    rfl
  | entry _ pair unreserved notOn =>
    obtain ⟨rfl, rfl⟩ := pair.unique hp
    rw [if_neg fun h => ?_, if_neg fun h => ?_, if_neg fun h => ?_]
    · rfl
    · rcases h with rfl | rfl <;> exact absurd (by decide) unreserved
    · obtain ⟨rfl, rfl⟩ := h
      exact notOn ⟨rfl, rfl⟩
    · subst h
      exact absurd (by decide) unreserved

theorem spells_of_set {d d' : FeatureDraft} {n : Nat} {text key value : List Char}
    (hf : Free text) (hp : PairLine (.ofList key) (.ofList value) text)
    (h : d.set n key value = .ok d') : ∃ s : Setting, s.Spells [text] ∧ d' = s.apply d := by
  unfold FeatureDraft.set at h
  split at h
  · next hk =>
    subst hk
    have hv : Tight value := by simpa using hp.tight.2
    split at h
    · next b hb =>
      cases h
      exact ⟨_, .enable hf hp ((truth?_eq_some_iff hv).mp hb), rfl⟩
    · cases h
  split at h
  · next hk =>
    obtain ⟨rfl, rfl⟩ := hk
    cases h
    exact ⟨_, .on hf hp, rfl⟩
  split at h
  · cases h
  · next enable on reserved =>
    cases h
    refine ⟨_, .entry hf hp (fun h => ?_) (fun h => ?_), rfl⟩
    · rcases List.mem_cons.mp h with h | h
      · exact enable (ofList_eq_iff.mp h)
      · rcases List.mem_cons.mp h with h | h
        · exact reserved (.inr (ofList_eq_iff.mp h))
        · exact reserved (.inl (ofList_eq_iff.mp (List.mem_singleton.mp h)))
    · exact on ⟨ofList_eq_iff.mp h.1, ofList_eq_iff.mp h.2⟩

theorem moves_of_inFeatures (hk : ¬Keyword line.text) (hm : m.mode = .features)
    (h : m.inFeatures line = .ok m') : m.Moves line m' := by
  unfold inFeatures at h
  split at h
  · next rest hr =>
    obtain ⟨n, hn, hfresh, hother, m₁, hc, rfl⟩ := openFeature_eq_ok.mp h
    exact .header hm (headerLine_iff.mpr ⟨rest, n, hr, hn, rfl⟩) hfresh hother hc
  · next hr =>
    split at h
    · cases h
    · next d hd =>
      obtain ⟨⟨key, value⟩, hp, h⟩ := Except.bind_eq_ok_iff.mp h
      obtain ⟨d', hset, h⟩ := Except.bind_eq_ok_iff.mp h
      have hp := pair?_eq_some_iff.mp (pairAt_eq_ok.mp hp)
      obtain ⟨s, hs, rfl⟩ := spells_of_set ⟨hk, hr⟩ hp hset
      cases h
      exact .setting hm hd hs

/-! ## Lines of a page -/

theorem withPage_eq_ok {handle : PageDraft → Except Stop Machine} :
    m.withPage handle = .ok m' ↔ ∃ d, m.page = some d ∧ handle d = .ok m' := by
  unfold withPage
  cases m.page <;> simp

theorem openAction_eq_ok {d : PageDraft} : m.openAction line.number d = .ok m' ↔
    d.actionLine = none ∧
      m' = { m with page := some { d with actionLine := some line.number }, mode := .action } := by
  unfold openAction
  split
  · next h =>
    rw [Option.isSome_iff_ne_none] at h
    simp [h]
  · next h =>
    rw [Option.isSome_iff_ne_none, not_not] at h
    simp [h, eq_comm]

theorem create_target {text : List Char} (h : PairLine name value text) (shown : String) :
    Expected.create (some name) (some shown) = .ok ⟨name, shown⟩ := by
  rw [Expected.create, h.isBlankText]
  rfl

theorem moves_of_inPage {d : PageDraft} (hm : m.mode = .page) (hd : m.page = some d)
    (h : m.inPage line d = .ok m') : m.Moves line m' := by
  unfold inPage at h
  split at h
  · next hl =>
    cases h
    exact .expected hm hd hl
  split at h
  · next hl =>
    obtain ⟨ha, rfl⟩ := openAction_eq_ok.mp h
    exact .action (by rw [hm]; rfl) hd hl ha
  · cases h

theorem moves_of_inExpected {d : PageDraft} (hm : m.mode = .expected) (hd : m.page = some d)
    (h : m.inExpected line d = .ok m') : m.Moves line m' := by
  unfold inExpected at h
  split at h
  · next hl =>
    obtain ⟨ha, rfl⟩ := openAction_eq_ok.mp h
    exact .action (by rw [hm]; rfl) hd hl ha
  split at h
  · cases h
  · next rest hr =>
    obtain ⟨⟨target, value⟩, hp, h⟩ := Except.bind_eq_ok_iff.mp h
    have hp := pairAt_eq_ok.mp hp
    simp only [create_target (pair?_eq_some_iff.mp hp)] at h
    cases h
    exact .item hm hd (itemLine_iff.mpr ⟨rest, _, _, hr, hp, rfl, rfl⟩)

theorem fieldsRest?_eq_some_iff (ht : Tight line.text) {rest : List Char} :
    (fieldsRest? line.text = some rest ∧ rest = []) ↔ line.text = fieldsLine ∧ rest = [] := by
  unfold fieldsRest?
  rw [Option.map_eq_some_iff]
  constructor
  · rintro ⟨⟨back, hb, hr⟩, rfl⟩
    rw [List.isPrefixOf?_eq_some_iff_append_eq] at hb
    refine ⟨?_, rfl⟩
    have ht' : Tight fieldsLine := by decide
    have := trim_append (a := []) nofun (trim_eq_nil_iff.mp hr) ht'
    rw [← trim_of_tight ht, ← hb]
    simpa [fieldsLine] using this
  · rintro ⟨hl, rfl⟩
    exact ⟨⟨[], List.isPrefixOf?_eq_some_iff_append_eq.mpr hl.symm, rfl⟩, rfl⟩

/-- The line of a property is not that of the fields. -/
theorem fieldsRest?_eq_none {text n v : List Char} {p : Property} (hp : pair? text = some (n, v))
    (hn : Property.ofName? n = some p) : fieldsRest? text = none := by
  rw [fieldsRest?, Option.map_eq_none_iff, Option.eq_none_iff_forall_ne_some]
  intro rest hr
  rw [List.isPrefixOf?_eq_some_iff_append_eq] at hr
  have hf : pair? text = some (['f', 'i', 'e', 'l', 'd', 's'], trim rest) :=
    pair?_eq_some_iff.mpr ⟨['f', 'i', 'e', 'l', 'd', 's'], rest, hr.symm, by decide, rfl, rfl, by decide⟩
  rw [hp] at hf
  cases hf
  cases hn

theorem moves_of_inAction {d : PageDraft} (ht : Tight line.text) (hi : m.mode.inPage)
    (hm : m.mode = .action ∨ m.mode = .fields) (hd : m.page = some d)
    (h : ({ m with mode := .action } : Machine).inAction line d = .ok m') : m.Moves line m' := by
  unfold inAction at h
  split at h
  · next hl =>
    obtain ⟨ha, rfl⟩ := openAction_eq_ok.mp h
    exact .action hi hd hl ha
  split at h
  · next rest hr =>
    split at h
    · next he =>
      cases h
      exact .fields hm hd ((fieldsRest?_eq_some_iff ht).mp ⟨hr, List.isEmpty_iff.mp he⟩).1
    · cases h
  · obtain ⟨⟨name, value⟩, hp, h⟩ := Except.bind_eq_ok_iff.mp h
    have hp := pairAt_eq_ok.mp hp
    simp only at h
    split at h
    · cases h
    · next p hn =>
      split at h
      · cases h
      · next hc =>
        rw [Assoc.contains_iff] at hc
        cases h
        exact .property hm hd (propertyLine_iff.mpr ⟨_, _, hp, hn, rfl⟩) hc

theorem moves_of_inFields {d : PageDraft} (ht : Tight line.text) (hm : m.mode = .fields)
    (hd : m.page = some d) (h : m.inFields line d = .ok m') : m.Moves line m' := by
  unfold inFields at h
  split at h
  · exact moves_of_inAction ht (by rw [hm]; rfl) (.inr hm) hd h
  · next rest hr =>
    obtain ⟨⟨name, value⟩, hp, h⟩ := Except.bind_eq_ok_iff.mp h
    cases h
    exact .field hm hd (itemLine_iff.mpr ⟨rest, _, _, hr, pairAt_eq_ok.mp hp, rfl, rfl⟩)

/-! ## Steps -/

theorem moves_of_step (ht : Tight line.text) (h : m.step line = .ok m') : m.Moves line m' := by
  unfold step at h
  split at h
  · next v ho =>
    obtain ⟨rest, hl, rfl⟩ := opening?_eq_some_host.mp ho
    obtain ⟨hp, hh, hv, m₁, hc, rfl⟩ := openHost_eq_ok.mp h
    refine .host ⟨rest, hl, rfl⟩ (fun h => hv ?_) hp hh hc
    rwa [← String.ofList_nil, String.ofList_inj] at h
  · next ho =>
    obtain ⟨hp, m₁, hc, rfl⟩ := openFeatures_eq_ok.mp h
    exact .features (opening?_eq_some_features.mp ho) hp hc
  · next n ho =>
    obtain ⟨hh, hn, m₁, m₂, hc, hd, rfl⟩ := openPage_eq_ok.mp h
    rcases opening?_eq_some_page.mp ho with ⟨-, rfl⟩ | ⟨c, rest, hl, hb, rfl⟩
    · exact absurd rfl hn
    · refine .page ⟨c, rest, hl, hb, rfl⟩ (fun h => hn ?_) hh hc hd
      rwa [← String.ofList_nil, String.ofList_inj] at h
  · next ho =>
    rw [opening?_eq_none_iff] at ho
    split at h
    · cases h
    · next hm => exact moves_of_inFeatures ho hm h
    · next hm =>
      obtain ⟨d, hd, h⟩ := withPage_eq_ok.mp h
      exact moves_of_inPage hm hd h
    · next hm =>
      obtain ⟨d, hd, h⟩ := withPage_eq_ok.mp h
      exact moves_of_inExpected hm hd h
    · next hm =>
      obtain ⟨d, hd, h⟩ := withPage_eq_ok.mp h
      have he : ({ m with mode := .action } : Machine) = m := by rw [← hm]
      exact moves_of_inAction ht (by rw [hm]; rfl) (.inl hm) hd (he.symm ▸ h)
    · next hm =>
      obtain ⟨d, hd, h⟩ := withPage_eq_ok.mp h
      exact moves_of_inFields ht hm hd h

section Plain

variable (hk : ¬Keyword line.text)
include hk

theorem step_features (hm : m.mode = .features) : m.step line = m.inFeatures line := by
  simp only [step, opening?_eq_none_iff.mpr hk, hm]

theorem step_page (hm : m.mode = .page) : m.step line = m.withPage (m.inPage line) := by
  simp only [step, opening?_eq_none_iff.mpr hk, hm]

theorem step_expected (hm : m.mode = .expected) : m.step line = m.withPage (m.inExpected line) := by
  simp only [step, opening?_eq_none_iff.mpr hk, hm]

/-- Items apart, a line of the fields is treated like one of the properties. -/
theorem step_action {d : PageDraft} (hm : m.mode = .action ∨ m.mode = .fields)
    (hd : m.page = some d) (hr : itemRest? line.text = none) :
    m.step line = ({ m with mode := .action } : Machine).inAction line d := by
  rcases hm with hm | hm
  · have he : ({ m with mode := .action } : Machine) = m := by rw [← hm]
    rw [he]
    simp only [step, opening?_eq_none_iff.mpr hk, hm, withPage, hd]
  · simp only [step, opening?_eq_none_iff.mpr hk, hm, withPage, hd, inFields, hr]

theorem step_fields (hm : m.mode = .fields) : m.step line = m.withPage (m.inFields line) := by
  simp only [step, opening?_eq_none_iff.mpr hk, hm]

end Plain

theorem step_of_moves (h : m.Moves line m') : m.step line = .ok m' := by
  cases h with
  | host head shown early first closed =>
    obtain ⟨rest, hl, rfl⟩ := head
    rw [step, opening?_eq_some_host.mpr ⟨rest, hl, rfl⟩]
    exact openHost_eq_ok.mpr ⟨early, first, fun h => shown (by rw [h]), _, closed, rfl⟩
  | features head early closed =>
    rw [step, opening?_eq_some_features.mpr head]
    exact openFeatures_eq_ok.mpr ⟨early, _, closed, rfl⟩
  | page head shown host closed done =>
    obtain ⟨c, rest, hl, hc, rfl⟩ := head
    rw [step, opening?_eq_some_page.mpr (.inr ⟨c, rest, hl, hc, rfl⟩)]
    exact openPage_eq_ok.mpr ⟨host, fun h => shown (by rw [h]), _, _, closed, done, rfl⟩
  | header mode head fresh other closed =>
    obtain ⟨rest, n, hr, hn, rfl⟩ := headerLine_iff.mp head
    rw [step_features (not_keyword_of_item hr) mode]
    simp only [inFeatures, hr]
    exact openFeature_eq_ok.mpr ⟨n, hn, fresh, other, _, closed, rfl⟩
  | setting mode draft head =>
    obtain ⟨hf, key, value, hp⟩ := head.exists_pair
    rw [step_features hf.1 mode]
    simp only [inFeatures, hf.2, draft, pairAt, hp]
    rw [Except.bind_eq_ok_iff]
    refine ⟨_, rfl, Except.bind_eq_ok_iff.mpr ⟨_, ?_, rfl⟩⟩
    exact set_of_spells head (pair?_eq_some_iff.mp hp)
  | expected mode draft head =>
    have hf : Free line.text := free_of_head (c := 'e') head (by decide)
    rw [step_page hf.1 mode, withPage_eq_ok]
    exact ⟨_, draft, if_pos head⟩
  | @action d mode draft head first =>
    have hf : Free line.text := free_of_head (c := 'a') head (by decide)
    have ho : m.openAction line.number d = .ok { m with
        page := some { d with actionLine := some line.number }, mode := .action } :=
      openAction_eq_ok.mpr ⟨first, rfl⟩
    cases hm : m.mode with
    | top | features => rw [hm] at mode; cases mode
    | page =>
      rw [step_page hf.1 hm, withPage_eq_ok]
      refine ⟨_, draft, ?_⟩
      rw [inPage, if_neg (by rw [head]; decide), if_pos head, ho]
    | expected =>
      rw [step_expected hf.1 hm, withPage_eq_ok]
      exact ⟨_, draft, (if_pos head).trans ho⟩
    | action =>
      rw [step_action hf.1 (.inl hm) draft hf.2]
      exact (if_pos head).trans ho
    | fields =>
      rw [step_action hf.1 (.inr hm) draft hf.2]
      exact (if_pos head).trans ho
  | item mode draft head =>
    obtain ⟨rest, n, v, hr, hp, rfl, rfl⟩ := itemLine_iff.mp head
    rw [step_expected (not_keyword_of_item hr) mode, withPage_eq_ok]
    refine ⟨_, draft, ?_⟩
    have hne : line.text ≠ actionLine := by
      rw [itemRest?_eq_some_iff.mp hr]
      nofun
    rw [inExpected, if_neg hne, hr]
    simp only [pairAt, hp]
    rw [Except.bind_eq_ok_iff]
    refine ⟨_, rfl, ?_⟩
    simp only [create_target (pair?_eq_some_iff.mp hp)]
    rfl
  | fields mode draft head =>
    have hf : Free line.text := free_of_head (c := 'f') head (by decide)
    rw [step_action hf.1 mode draft hf.2, inAction, if_neg (by rw [head]; decide), head]
    rfl
  | property mode draft head fresh =>
    have hf := head.free
    obtain ⟨n, v, hp, hn, rfl⟩ := propertyLine_iff.mp head
    have hne : line.text ≠ actionLine := by
      intro h
      rw [h] at hp
      cases hp
      cases hn
    rw [step_action hf.1 mode draft hf.2, inAction, if_neg hne, fieldsRest?_eq_none hp hn]
    simp only [pairAt, hp]
    rw [Except.bind_eq_ok_iff]
    refine ⟨_, rfl, ?_⟩
    simp only [hn]
    exact if_neg (by rw [Assoc.contains_iff]; exact fresh)
  | field mode draft head =>
    obtain ⟨rest, n, v, hr, hp, rfl, rfl⟩ := itemLine_iff.mp head
    rw [step_fields (not_keyword_of_item hr) mode, withPage_eq_ok]
    refine ⟨_, draft, ?_⟩
    simp only [inFields, hr, pairAt, hp]
    exact Except.bind_eq_ok_iff.mpr ⟨_, rfl, rfl⟩

/-- The successful steps with a trimmed line are the moves. -/
theorem step_eq_ok_iff (ht : Tight line.text) : m.step line = .ok m' ↔ m.Moves line m' :=
  ⟨moves_of_step ht, step_of_moves⟩

end Machine

end Walkthrough.Script
