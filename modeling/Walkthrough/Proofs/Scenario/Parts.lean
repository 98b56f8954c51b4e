import Walkthrough.Scenario.Basic
import Walkthrough.Proofs.Assoc
import Walkthrough.Proofs.Basic

/-! Building the parts of a scenario. `Action.Asked` says which type and entries ask for an action, and
`build_eq_ok_iff` that `Action.build` builds exactly these. -/

namespace Walkthrough

open Text

theorem filter_reservedKeys_eq_nil_iff {α : Type} {es : List (String × α)} :
    reservedKeys.filter (Assoc.contains · es) = [] ↔ ∀ k ∈ Assoc.keys es, k ∉ reservedKeys := by
  rw [List.filter_eq_nil_iff]
  exact ⟨fun h k hk hr => h k hr (Assoc.contains_iff.mpr hk),
    fun h k hr hc => h k (Assoc.contains_iff.mp hc) hr⟩

theorem Feature.create_eq_ok {name : String} {enabled : Bool} {context : List (String × String)}
    (h : ∀ k ∈ Assoc.keys context, k ∉ reservedKeys) :
    Feature.create name enabled context = .ok ⟨name, enabled, context⟩ := by
  rw [Feature.create, filter_reservedKeys_eq_nil_iff.mpr h]

theorem Scenario.create_eq_ok_iff {host : String} {features : List (String × Feature)}
    {pages : List Page} {s : Scenario} (h : ∀ e ∈ features, e.1 = e.2.name) :
    Scenario.create (some host) features pages = .ok s ↔
      isBlankText host = false ∧ s = ⟨host, features, pages⟩ := by
  have hfind : features.find? (fun e => e.1 ≠ e.2.name) = none := by
    rw [List.find?_eq_none]
    intro e he
    simpa using h e he
  unfold Scenario.create
  simp only [hfind]
  split
  · next hb =>
    refine ⟨nofun, fun h => ?_⟩
    rw [hb] at h
    cases h.1
  · next hb =>
    constructor
    · rintro ⟨⟩
      exact ⟨Bool.eq_false_iff.mpr hb, rfl⟩
    · rintro ⟨-, rfl⟩
      rfl

theorem textEntries_inj {es fs : List (String × String)} (h : textEntries es = textEntries fs) :
    es = fs := by
  rw [textEntries, textEntries, Data.map.injEq, List.map_inj_right] at h
  · exact h
  · rintro ⟨k, v⟩ ⟨k', v'⟩ heq
    cases heq
    rfl

/-! ## Looking a text key up -/

namespace Data

theorem lookup_append (key : String) (es fs : List (Data × Data)) :
    lookup key (es ++ fs) = (lookup key es).or (lookup key fs) := by
  induction es with
  | nil => rfl
  | cons e es ih =>
    obtain ⟨k, v⟩ := e
    cases k with
    | text k =>
      rw [List.cons_append, lookup, lookup]
      split
      · rfl
      · exact ih
    | _ => exact ih

end Data

namespace Action

/-- The type and the entries that ask for an action. -/
inductive Asked (type : Data) (entries : List (Data × Data)) : Action → Prop
  | click {target} (kind : type = .text "Click")
      (prop : Data.lookup "target" entries = some (.text target))
      (shown : isBlankText target = false) : Asked type entries (.click (some target))
  | enter {field value} (kind : type = .text "Enter")
      (prop : Data.lookup "targetField" entries = some (.text field))
      (shown : isBlankText field = false)
      (text : Data.lookup "value" entries = some (.text value)) :
      Asked type entries (.enter (some field) (some value))
  | bare (kind : type = .text "Submit")
      (none : Data.lookup "fields" entries = none ∨ Data.lookup "fields" entries = some .null) :
      Asked type entries (.submit [])
  | submit {fields : List (String × String)} (kind : type = .text "Submit")
      (map : Data.lookup "fields" entries = some (textEntries fields))
      (shown : ∀ e ∈ fields, isBlankText e.1 = false) :
      Asked type entries (.submit (fields.map fun e => (e.1, some e.2)))

theorem ofName?_eq_some_iff {s : String} {t : ActionType} :
    ActionType.ofName? s = some t ↔ s = t.name := by
  unfold ActionType.ofName? ActionType.all
  simp only [List.find?_cons]
  by_cases h1 : s = "Click"
  · subst h1; cases t <;> decide
  by_cases h2 : s = "Enter"
  · subst h2; cases t <;> decide
  by_cases h3 : s = "Submit"
  · subst h3; cases t <;> decide
  have e1 : (ActionType.click.name == s) = false := beq_false_of_ne (Ne.symm h1)
  have e2 : (ActionType.enter.name == s) = false := beq_false_of_ne (Ne.symm h2)
  have e3 : (ActionType.submit.name == s) = false := beq_false_of_ne (Ne.symm h3)
  rw [e1, e2, e3]
  refine ⟨nofun, ?_⟩
  cases t
  · exact fun h => absurd h h1
  · exact fun h => absurd h h2
  · exact fun h => absurd h h3

theorem isBlankText_name (t : ActionType) : isBlankText t.name = false := by cases t <;> rfl

theorem typeOf_eq_ok_iff {d : Data} {t : ActionType} : typeOf d = .ok t ↔ d = .text t.name := by
  unfold typeOf
  split
  · exact ⟨nofun, nofun⟩
  · next s =>
    split
    · next hb =>
      refine ⟨nofun, fun h => ?_⟩
      cases h
      rw [isBlankText_name] at hb
      cases hb
    · split
      · next t' ht =>
        rw [ofName?_eq_some_iff.mp ht]
        constructor
        · rintro ⟨⟩
          rfl
        · intro h
          have := ofName?_eq_some_iff.mpr (Data.text.inj h)
          rw [ofName?_eq_some_iff.mpr rfl] at this
          rw [Option.some.inj this]
      · next hn =>
        refine ⟨nofun, fun h => ?_⟩
        rw [ofName?_eq_some_iff.mpr (Data.text.inj h)] at hn
        cases hn
  · next hn => exact ⟨nofun, fun h => absurd h (hn _)⟩

theorem requiredText_eq_ok_iff {t : ActionType} {key s : String} {allowBlank : Bool}
    {entries : List (Data × Data)} : requiredText t key allowBlank entries = .ok s ↔
      Data.lookup key entries = some (.text s) ∧ (allowBlank = true ∨ isBlankText s = false) := by
  unfold requiredText
  split
  · next h => simp [h]
  · next h => simp [h]
  · next s' h =>
    rw [h]
    split
    · next hb =>
      simp only [Bool.and_eq_true, Bool.not_eq_true'] at hb
      refine ⟨nofun, ?_⟩
      rintro ⟨hs, ha | hs'⟩
      · rw [hb.1] at ha
        cases ha
      · cases hs
        rw [hb.2] at hs'
        cases hs'
    · next hb =>
      simp only [Bool.and_eq_true, Bool.not_eq_true', not_and, Bool.not_eq_true] at hb
      constructor
      · rintro ⟨⟩
        refine ⟨rfl, ?_⟩
        cases allowBlank
        · exact .inr (hb rfl)
        · exact .inl rfl
      · rintro ⟨hs, -⟩
        cases hs
        rfl
  · next hn hn' ht h =>
    refine ⟨nofun, ?_⟩
    rintro ⟨hs, -⟩
    rw [h] at hs
    exact absurd (Option.some.inj hs) (ht s)

theorem submitFields_eq_ok_iff {es : List (Data × Data)} {fs : List (String × Option String)} :
    submitFields es = .ok fs ↔ ∃ fields : List (String × String),
      es = fields.map (fun e => (.text e.1, .text e.2)) ∧ (∀ e ∈ fields, isBlankText e.1 = false) ∧
        fs = fields.map fun e => (e.1, some e.2) := by
  induction es generalizing fs with
  | nil =>
    constructor
    · rintro ⟨⟩
      exact ⟨[], rfl, nofun, rfl⟩
    · rintro ⟨fields, hes, -, rfl⟩
      rw [List.map_eq_nil_iff.mp hes.symm]
      rfl
  | cons e es ih =>
    constructor
    · intro h
      unfold submitFields at h
      split at h
      · next heq => cases heq
      · next name value rest heq =>
        cases heq
        split at h
        · cases h
        · next hb =>
          split at h
          · next s =>
            obtain ⟨fs', hfs, rfl⟩ := Except.map_eq_ok_iff.mp h
            obtain ⟨fields, rfl, hn, rfl⟩ := ih.mp hfs
            refine ⟨(name, s) :: fields, rfl, ?_, rfl⟩
            rintro e he
            rcases List.mem_cons.mp he with rfl | he
            · exact Bool.eq_false_iff.mpr hb
            · exact hn e he
          · cases h
      · cases h
    · rintro ⟨fields, hes, hn, rfl⟩
      cases fields with
      | nil => cases hes
      | cons f fields =>
        cases hes
        have hf : isBlankText f.1 = false := hn f List.mem_cons_self
        rw [submitFields, hf, if_neg Bool.false_ne_true]
        rw [Except.map_eq_ok_iff]
        exact ⟨_, ih.mpr ⟨fields, rfl, fun e he => hn e (List.mem_cons_of_mem _ he), rfl⟩, rfl⟩

/-- `build` gives exactly the actions that are asked for. -/
theorem build_eq_ok_iff {type : Data} {entries : List (Data × Data)} {a : Action} :
    build type entries = .ok a ↔ Asked type entries a := by
  rw [build, Except.bind_eq_ok_iff]
  constructor
  · rintro ⟨t, ht, h⟩
    rw [typeOf_eq_ok_iff] at ht
    cases t with
    | click =>
      obtain ⟨target, hr, h⟩ := Except.bind_eq_ok_iff.mp h
      obtain ⟨hl, hb⟩ := requiredText_eq_ok_iff.mp hr
      cases h
      exact .click ht hl (hb.resolve_left Bool.false_ne_true)
    | enter =>
      obtain ⟨field, hr, h⟩ := Except.bind_eq_ok_iff.mp h
      obtain ⟨hl, hb⟩ := requiredText_eq_ok_iff.mp hr
      obtain ⟨value, hv, h⟩ := Except.bind_eq_ok_iff.mp h
      cases h
      exact .enter ht hl (hb.resolve_left Bool.false_ne_true) (requiredText_eq_ok_iff.mp hv).1
    | submit =>
      simp only [ofType] at h
      split at h
      · next hl => cases h; exact .bare ht (.inl hl)
      · next hl => cases h; exact .bare ht (.inr hl)
      · next hl =>
        obtain ⟨fs, hfs, rfl⟩ := Except.map_eq_ok_iff.mp h
        obtain ⟨fields, rfl, hn, rfl⟩ := submitFields_eq_ok_iff.mp hfs
        exact .submit ht hl hn
      · cases h
  · intro h
    cases h with
    | click kind prop shown =>
      refine ⟨.click, typeOf_eq_ok_iff.mpr kind, ?_⟩
      rw [ofType, requiredText_eq_ok_iff.mpr ⟨prop, .inr shown⟩]
      rfl
    | enter kind prop shown text =>
      refine ⟨.enter, typeOf_eq_ok_iff.mpr kind, ?_⟩
      rw [ofType, requiredText_eq_ok_iff.mpr ⟨prop, .inr shown⟩,
        requiredText_eq_ok_iff.mpr ⟨text, .inl rfl⟩]
      rfl
    | bare kind none =>
      refine ⟨.submit, typeOf_eq_ok_iff.mpr kind, ?_⟩
      rcases none with h | h <;> rw [ofType, h]
    | submit kind map shown =>
      refine ⟨.submit, typeOf_eq_ok_iff.mpr kind, ?_⟩
      rw [ofType, map, textEntries]
      exact Except.map_eq_ok_iff.mpr ⟨_, submitFields_eq_ok_iff.mpr ⟨_, rfl, shown, rfl⟩, rfl⟩

end Action

end Walkthrough
