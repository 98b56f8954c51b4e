import Walkthrough.Proofs.Scenario.Summary
import Walkthrough.Scenario.Format

/-! Values that differ only where the form lets them. `Document.Alike` relates values whose objects agree on
the properties of the form: the others may be anything, the order does not matter, and a collection or an
optional property of an action that is absent is as good as one that is null or empty. Alike values give the
same scenario, or the same refusal (`Scenario.ofData_eq_of_alike`). -/

namespace Except

variable {ε α β α' β' : Type}

/-- Results that are related, or the same error. -/
inductive Related (S : α → β → Prop) : Except ε α → Except ε β → Prop
  | ok {a : α} {b : β} (h : S a b) : Related S (.ok a) (.ok b)
  | error (e : ε) : Related S (.error e) (.error e)

namespace Related

variable {S : α → β → Prop} {T : α' → β' → Prop} {x : Except ε α} {y : Except ε β}

theorem bind (h : Related S x y) {f : α → Except ε α'} {g : β → Except ε β'}
    (h' : ∀ a b, S a b → Related T (f a) (g b)) : Related T (x >>= f) (y >>= g) := by
  cases h with
  | ok h => exact h' _ _ h
  | error e => exact .error e

theorem refl {S : α → α → Prop} (h : ∀ a, S a a) (x : Except ε α) : Related S x x := by
  cases x with
  | ok a => exact .ok (h a)
  | error e => exact .error e

theorem eq {x y : Except ε α} (h : Related Eq x y) : x = y := by
  cases h with
  | ok h => rw [h]
  | error e => rfl

end Related

end Except

namespace Walkthrough

open Except (Related)

namespace Document

/-! ## Values that are alike -/

/-- What two objects have for a property. Values in `void` are as good as none. -/
inductive SameProperty (void : List Data) (R : Data → Data → Prop) : Option Data → Option Data → Prop
  | void {x y : Option Data} (left : ∀ d ∈ x, d ∈ void) (right : ∀ d ∈ y, d ∈ void) : SameProperty void R x y
  | value {d d' : Data} (h : R d d') : SameProperty void R (some d) (some d')

theorem SameProperty.iff {void : List Data} {R : Data → Data → Prop} {x y : Option Data} :
    SameProperty void R x y ↔ ((∀ d ∈ x, d ∈ void) ∧ ∀ d ∈ y, d ∈ void) ∨
      ∃ d d', x = some d ∧ y = some d' ∧ R d d' := by
  constructor
  · intro h
    cases h with
    | void left right => exact .inl ⟨left, right⟩
    | value h => exact .inr ⟨_, _, rfl, rfl, h⟩
  · rintro (⟨left, right⟩ | ⟨d, d', rfl, rfl, h⟩)
    · exact .void left right
    · exact .value h

/-- Objects with entries that are related, or the same value. -/
inductive SameObject (F : List (Data × Data) → List (Data × Data) → Prop) : Data → Data → Prop
  | same (d : Data) : SameObject F d d
  | objects {es es' : List (Data × Data)} (h : F es es') : SameObject F (.map es) (.map es')

/-- Lists with items that are related, or the same value. -/
inductive SameItems (R : Data → Data → Prop) : Data → Data → Prop
  | same (d : Data) : SameItems R d d
  | lists {ds ds' : List Data} (h : List.Forall₂ R ds ds') : SameItems R (.list ds) (.list ds')

/-- Maps with the same keys, in the same order, to values that are related, or the same value. -/
inductive SameValues (R : Data → Data → Prop) : Data → Data → Prop
  | same (d : Data) : SameValues R d d
  | maps {es es' : List (Data × Data)} (h : List.Forall₂ (fun e e' => e.1 = e'.1 ∧ R e.2 e'.2) es es') :
    SameValues R (.map es) (.map es')

section

variable (es es' : List (Data × Data))

/-- Entries that agree on a property that must be there. -/
abbrev SameRequired (key : String) (R : Data → Data → Prop) : Prop :=
  SameProperty [] R (Data.lookup key es) (Data.lookup key es')

/-- Entries that agree on a text that may be absent or null. -/
abbrev SameText (key : String) : Prop :=
  SameProperty [.null] Eq (Data.lookup key es) (Data.lookup key es')

/-- Entries that agree on a map that may be absent, null or empty. -/
abbrev SameMap (key : String) (R : Data → Data → Prop) : Prop :=
  SameProperty [.null, .map []] R (Data.lookup key es) (Data.lookup key es')

/-- Entries that agree on a list that may be absent, null or empty. -/
abbrev SameList (key : String) (R : Data → Data → Prop) : Prop :=
  SameProperty [.null, .list []] R (Data.lookup key es) (Data.lookup key es')

structure FeatureAlike : Prop where
  enable : SameRequired es es' "enable" Eq
  context : SameMap es es' "context" Eq

structure ExpectedAlike : Prop where
  target : SameRequired es es' "target" Eq
  value : SameRequired es es' "value" Eq

structure ActionAlike : Prop where
  type : SameRequired es es' "actionType" Eq
  target : SameText es es' "target"
  targetField : SameText es es' "targetField"
  value : SameText es es' "value"
  fields : SameMap es es' "fields" Eq

structure PageAlike : Prop where
  name : SameRequired es es' "name" Eq
  expected : SameList es es' "expected" (SameItems (SameObject ExpectedAlike))
  action : SameRequired es es' "action" (SameObject ActionAlike)

structure EntriesAlike : Prop where
  host : SameRequired es es' "host" Eq
  features : SameMap es es' "features" (SameValues (SameObject FeatureAlike))
  pages : SameList es es' "pages" (SameItems (SameObject PageAlike))

end

/-- Values that differ only where the form of a scenario lets them. -/
abbrev Alike : Data → Data → Prop := SameObject EntriesAlike

/-! ## Decoders -/

open Checked

variable {α β γ δ : Type}

theorem related_under {S : α → β → Prop} {x : Checked α} {y : Checked β} (step : PathStep) (h : Related S x y) :
    Related S (under step x) (under step y) := by
  cases h with
  | ok h => exact .ok h
  | error e => cases e <;> exact .error _

theorem related_both {S : α → β → Prop} {T : γ → δ → Prop} {x : Checked α} {y : Checked β} {x' : Checked γ}
    {y' : Checked δ} (h : Related S x y) (h' : Related T x' y') :
    Related (fun p q => S p.1 q.1 ∧ T p.2 q.2) (both x x') (both y y') := by
  cases h with
  | ok h =>
    cases h' with
    | ok h' => exact .ok ⟨h, h'⟩
    | error e => cases e <;> exact .error _
  | error e =>
    cases h' with
    | ok h' => cases e <;> exact .error _
    | error e' => cases e <;> cases e' <;> exact .error _

/-- A decoder that makes related results of related values. -/
def Congruent (R : Data → Data → Prop) (S : α → α → Prop) (decode : Data → Checked α) : Prop :=
  ∀ d d', R d d' → Related S (decode d) (decode d')

theorem congruent_eq {S : α → α → Prop} (refl : ∀ a, S a a) (decode : Data → Checked α) :
    Congruent Eq S decode := by
  rintro d _ rfl
  exact .refl refl _

namespace Congruent

variable {R : Data → Data → Prop} {S : α → α → Prop} {decode : Data → Checked α}
  {es es' : List (Data × Data)} {key : String}

theorem object {F : List (Data × Data) → List (Data × Data) → Prop} {type : String}
    {next : List (Data × Data) → Checked α} (refl : ∀ a, S a a)
    (h : ∀ es es', F es es' → Related S (next es) (next es')) :
    Congruent (SameObject F) S fun d => object type d >>= next := by
  intro d d' hd
  cases hd with
  | same d => exact .refl refl _
  | objects hes => exact h _ _ hes

theorem listOf (refl : ∀ a, S a a) (h : Congruent R S decode) :
    Congruent (SameItems R) (List.Forall₂ S) (listOf decode) := by
  have items {ds ds' : List Data} (hds : List.Forall₂ R ds ds') (n : Nat) :
      Related (List.Forall₂ S) (itemsFrom decode n ds) (itemsFrom decode n ds') := by
    induction hds generalizing n with
    | nil => exact .ok .nil
    | cons hd _ ih =>
      refine (related_both (related_under _ (h _ _ hd)) (ih (n + 1))).bind fun a b hab => ?_
      exact .ok (.cons hab.1 hab.2)
  intro d d' hd
  cases hd with
  | same d => exact .refl (fun as => List.forall₂_same.mpr fun a _ => refl a) _
  | lists hds => exact items hds 0

theorem mapOf (h : Congruent R Eq decode) : Congruent (SameValues R) Eq (mapOf decode) := by
  have entries {es es' : List (Data × Data)} (hes : List.Forall₂ (fun e e' => e.1 = e'.1 ∧ R e.2 e'.2) es es') :
      Related Eq (entriesOf decode es) (entriesOf decode es') := by
    induction hes with
    | nil => exact .ok rfl
    | @cons e e' _ _ he _ ih =>
      obtain ⟨k, v⟩ := e
      obtain ⟨k', v'⟩ := e'
      obtain ⟨rfl, hv⟩ := he
      rw [entriesOf, entriesOf, (h _ _ hv).eq, ih.eq]
      exact .refl (fun _ => rfl) _
  intro d d' hd
  cases hd with
  | same d => exact .refl (fun _ => rfl) _
  | maps hes =>
    rw [Document.mapOf, Document.mapOf, (entries hes).eq]
    exact .refl (fun _ => rfl) _

theorem required (h : Congruent R S decode) (hes : SameRequired es es' key R) :
    Related S (required key decode es) (required key decode es') := by
  have none_of {x : Option Data} (hx : ∀ d ∈ x, d ∈ ([] : List Data)) : x = none :=
    Option.eq_none_iff_forall_not_mem.mpr fun d hd => nomatch hx d hd
  unfold Document.required
  rcases SameProperty.iff.mp hes with ⟨left, right⟩ | ⟨d, d', hl, hl', hd⟩
  · rw [none_of left, none_of right]
    exact .error _
  · rw [hl, hl']
    exact related_under _ (h _ _ hd)

/-- A property with a default. Values in `void` have results that are as good as the default, those of which
`E` holds. -/
theorem withDefault {void : List Data} {default : α} (E : α → Prop) (hdefault : E default)
    (hvoid : ∀ d ∈ void, ∃ a, decode d = .ok a ∧ E a) (hS : ∀ a b, E a → E b → S a b)
    (h : Congruent R S decode) (hes : SameProperty void R (Data.lookup key es) (Data.lookup key es')) :
    Related S (withDefault key default decode es) (withDefault key default decode es') := by
  have of_void {es : List (Data × Data)} (hx : ∀ d ∈ Data.lookup key es, d ∈ void) :
      ∃ a, Document.withDefault key default decode es = .ok a ∧ E a := by
    unfold Document.withDefault
    split
    · exact ⟨default, rfl, hdefault⟩
    · next d hl =>
      obtain ⟨a, ha, hE⟩ := hvoid d (hx d hl)
      exact ⟨a, under_eq_ok_iff.mpr ha, hE⟩
  rcases SameProperty.iff.mp hes with ⟨left, right⟩ | ⟨d, d', hl, hl', hd⟩
  · obtain ⟨a, ha, hEa⟩ := of_void left
    obtain ⟨b, hb, hEb⟩ := of_void right
    rw [ha, hb]
    exact .ok (hS a b hEa hEb)
  · unfold Document.withDefault
    rw [hl, hl']
    exact related_under _ (h _ _ hd)

/-- A property with a default to which the values in `void` come, too. -/
theorem withDefault_of_eq {void : List Data} {default : α} (hvoid : ∀ d ∈ void, decode d = .ok default)
    (refl : ∀ a, S a a) (h : Congruent R S decode)
    (hes : SameProperty void R (Data.lookup key es) (Data.lookup key es')) :
    Related S (Document.withDefault key default decode es) (Document.withDefault key default decode es') := by
  refine withDefault (· = default) rfl (fun d hd => ⟨default, hvoid d hd, rfl⟩) ?_ h hes
  rintro _ _ rfl rfl
  exact refl _

theorem nullable {empty : α} (refl : ∀ a, S a a) (null : ∀ d d', R d d' → d = d' ∨ d ≠ .null ∧ d' ≠ .null)
    (h : Congruent R S decode) : Congruent R S (nullable empty decode) := by
  intro d d' hd
  rcases null d d' hd with rfl | ⟨hn, hn'⟩
  · exact .refl refl _
  · have eq {d : Data} (hn : d ≠ .null) : Document.nullable empty decode d = decode d := by
      unfold Document.nullable
      split
      · exact absurd rfl hn
      · rfl
    rw [eq hn, eq hn']
    exact h d d' hd

end Congruent

theorem SameItems.null {R : Data → Data → Prop} {d d' : Data} (h : SameItems R d d') :
    d = d' ∨ d ≠ .null ∧ d' ≠ .null := by
  cases h with
  | same => exact .inl rfl
  | lists => exact .inr ⟨nofun, nofun⟩

theorem SameValues.null {R : Data → Data → Prop} {d d' : Data} (h : SameValues R d d') :
    d = d' ∨ d ≠ .null ∧ d' ≠ .null := by
  cases h with
  | same => exact .inl rfl
  | maps => exact .inr ⟨nofun, nofun⟩

/-! ## The parts of a document -/

theorem congruent_feature : Congruent (SameObject FeatureAlike) Eq feature := by
  refine .object (fun _ => rfl) fun es es' h => ?_
  refine (related_both ((congruent_eq (fun _ => rfl) _).required h.enable)
    (Congruent.withDefault_of_eq ?_ (fun _ => rfl) (congruent_eq (fun _ => rfl) _) h.context)).bind ?_
  · intro d hd
    obtain rfl | rfl : d = .null ∨ d = .map [] := by simpa using hd
    · rfl
    · rfl
  · rintro ⟨enabled, context⟩ ⟨_, _⟩ ⟨rfl, rfl⟩
    exact .ok rfl

theorem congruent_expected : Congruent (SameObject ExpectedAlike) Eq expected := by
  refine .object (fun _ => rfl) fun es es' h => ?_
  refine (related_both ((congruent_eq (fun _ => rfl) _).required h.target)
    ((congruent_eq (fun _ => rfl) _).required h.value)).bind ?_
  rintro ⟨target, value⟩ ⟨_, _⟩ ⟨rfl, rfl⟩
  exact .ok rfl

/-- Fields of an action, where none at all are as good as an empty list. -/
def SameFields (a b : Option (List (String × String))) : Prop := a.getD [] = b.getD []

/-- Actions that differ at most in that one has an empty list of fields, and the other has none. -/
structure ActionEntry.Alike (a b : ActionEntry) : Prop where
  type : a.type = b.type
  target : a.target = b.target
  targetField : a.targetField = b.targetField
  value : a.value = b.value
  fields : SameFields a.fields b.fields

theorem ActionEntry.Alike.refl (a : ActionEntry) : a.Alike a := ⟨rfl, rfl, rfl, rfl, rfl⟩

theorem related_text {es es' : List (Data × Data)} {key : String} (h : SameText es es' key) :
    Related Eq (withDefault key none (optional text) es) (withDefault key none (optional text) es') := by
  refine Congruent.withDefault_of_eq (fun d hd => ?_) (fun _ => rfl) (congruent_eq (fun _ => rfl) _) h
  rw [List.mem_singleton.mp hd]
  rfl

theorem congruent_action : Congruent (SameObject ActionAlike) ActionEntry.Alike action := by
  refine .object .refl fun es es' h => ?_
  have fields : Related SameFields (withDefault "fields" none (optional texts) es)
      (withDefault "fields" none (optional texts) es') := by
    refine Congruent.withDefault (·.getD [] = []) rfl ?_ (fun a b ha hb => ha.trans hb.symm)
      (congruent_eq (S := SameFields) (fun _ => rfl) _) h.fields
    intro d hd
    obtain rfl | rfl : d = .null ∨ d = .map [] := by simpa using hd
    · exact ⟨none, rfl, rfl⟩
    · exact ⟨some [], rfl, rfl⟩
  refine (related_both ((congruent_eq (fun _ => rfl) _).required h.type) <| related_both (related_text h.target) <|
    related_both (related_text h.targetField) <| related_both (related_text h.value) fields).bind ?_
  rintro ⟨type, target, targetField, value, fields⟩ ⟨_, _, _, _, fields'⟩ ⟨rfl, rfl, rfl, rfl, same⟩
  exact .ok ⟨rfl, rfl, rfl, rfl, same⟩

/-- Pages that differ at most in their actions, and these are alike. -/
structure PageEntry.Alike (p q : PageEntry) : Prop where
  name : p.name = q.name
  expected : p.expected = q.expected
  action : p.action.Alike q.action

theorem PageEntry.Alike.refl (p : PageEntry) : p.Alike p := ⟨rfl, rfl, .refl _⟩

theorem congruent_page : Congruent (SameObject PageAlike) PageEntry.Alike page := by
  refine .object .refl fun es es' h => ?_
  have expected : Related Eq (withDefault "expected" [] (nullable [] (listOf expected)) es)
      (withDefault "expected" [] (nullable [] (listOf expected)) es') := by
    refine Congruent.withDefault_of_eq ?_ (fun _ => rfl)
      (.nullable (fun _ => rfl) (fun _ _ => SameItems.null) ?_) h.expected
    · intro d hd
      obtain rfl | rfl : d = .null ∨ d = .list [] := by simpa using hd
      · rfl
      · rfl
    · have := congruent_expected.listOf fun _ => rfl
      rwa [List.forall₂_eq_eq_eq] at this
  refine (related_both ((congruent_eq (fun _ => rfl) _).required h.name) <| related_both expected <|
    congruent_action.required h.action).bind ?_
  rintro ⟨name, expected, action⟩ ⟨_, _, action'⟩ ⟨rfl, rfl, same⟩
  exact .ok ⟨rfl, rfl, same⟩

/-- Documents that differ at most in their pages, and these are alike. -/
structure Similar (doc doc' : Document) : Prop where
  host : doc.host = doc'.host
  features : doc.features = doc'.features
  pages : List.Forall₂ PageEntry.Alike doc.pages doc'.pages

theorem related_ofEntries {es es' : List (Data × Data)} (h : EntriesAlike es es') :
    Related Similar (ofEntries es) (ofEntries es') := by
  have features : Related Eq (withDefault "features" [] (nullable [] (mapOf feature)) es)
      (withDefault "features" [] (nullable [] (mapOf feature)) es') := by
    refine Congruent.withDefault_of_eq ?_ (fun _ => rfl)
      (.nullable (fun _ => rfl) (fun _ _ => SameValues.null) congruent_feature.mapOf) h.features
    intro d hd
    obtain rfl | rfl : d = .null ∨ d = .map [] := by simpa using hd
    · rfl
    · rfl
  have pages : Related (List.Forall₂ PageEntry.Alike) (withDefault "pages" [] (nullable [] (listOf page)) es)
      (withDefault "pages" [] (nullable [] (listOf page)) es') := by
    have refl (ps : List PageEntry) : List.Forall₂ PageEntry.Alike ps ps :=
      List.forall₂_same.mpr fun p _ => .refl p
    refine Congruent.withDefault_of_eq ?_ refl
      (.nullable refl (fun _ _ => SameItems.null) (congruent_page.listOf .refl)) h.pages
    intro d hd
    obtain rfl | rfl : d = .null ∨ d = .list [] := by simpa using hd
    · rfl
    · rfl
  refine (related_both ((congruent_eq (fun _ => rfl) _).required h.host) <| related_both features pages).bind ?_
  rintro ⟨host, features, pages⟩ ⟨_, _, pages'⟩ ⟨rfl, rfl, same⟩
  exact .ok ⟨rfl, rfl, same⟩

/-! ## The scenario -/

/-- A submission without a list of fields is one with an empty list. -/
theorem ofType_submit {es : List (Data × Data)} {fields : Option (List (String × String))}
    (h : Data.lookup "fields" es = fields.map textEntries) :
    Action.ofType .submit es = Action.ofType .submit [(.text "fields", textEntries (fields.getD []))] := by
  cases fields with
  | none =>
    simp only [Action.ofType, h]
    rfl
  | some fields =>
    simp only [Action.ofType, h]
    rfl

theorem build_eq_of_alike {a b : ActionEntry} (h : a.Alike b) :
    Action.build (.text a.type) a.entries = Action.build (.text b.type) b.entries := by
  obtain ⟨target, targetField, value, fields⟩ := a.lookup_entries
  obtain ⟨target', targetField', value', fields'⟩ := b.lookup_entries
  rw [← h.target] at target'
  rw [← h.targetField] at targetField'
  rw [← h.value] at value'
  have same (type : ActionType) : Action.ofType type a.entries = Action.ofType type b.entries := by
    cases type with
    | click => simp only [Action.ofType, Action.requiredText, target, target']
    | enter => simp only [Action.ofType, Action.requiredText, targetField, targetField', value, value']
    | submit => rw [ofType_submit fields, ofType_submit fields', h.fields]
  rw [Action.build, Action.build, h.type]
  exact bind_congr same

theorem toPages_eq_of_alike {ps qs : List PageEntry} (h : List.Forall₂ PageEntry.Alike ps qs) (n : Nat) :
    toPages n ps = toPages n qs := by
  induction h generalizing n with
  | nil => rfl
  | cons h _ ih =>
    rw [toPages, toPages, build_eq_of_alike h.action, h.expected, h.name, ih]

theorem Similar.toScenario_eq {doc doc' : Document} (h : Similar doc doc') :
    doc.toScenario = doc'.toScenario := by
  rw [toScenario, toScenario, h.host, h.features, toPages_eq_of_alike h.pages]

theorem scenarioOf_eq_of_alike {d d' : Data} (h : Alike d d') : scenarioOf d = scenarioOf d' := by
  cases h with
  | same => rfl
  | @objects es es' h =>
    have agree := related_ofEntries h
    rw [scenarioOf, scenarioOf]
    generalize ofEntries es = x, ofEntries es' = y at agree ⊢
    cases agree with
    | ok similar => exact similar.toScenario_eq
    | error e => rfl

end Document

/-- Values that differ only where the form lets them give the same scenario, or are refused with the same message
and the same path. -/
theorem Scenario.ofData_eq_of_alike {d d' : Data} (h : Document.Alike d d') : ofData d = ofData d' := by
  rw [ofData, ofData, Document.scenarioOf_eq_of_alike h]

/-- A submission in a document with a property of a later form, and in one that leaves out what it can. -/
theorem Scenario.ofData_eq_of_alike_submit :
    ∃ d d' s, Document.Alike d d' ∧ d' ≠ d ∧ ofData d = .ok s ∧ ofData d' = .ok s := by
  let full : Data := .map [(.text "version", .int 2),
    (.text "pages", .list [.map [(.text "action", .map [(.text "value", .null), (.text "fields", .map []),
      (.text "actionType", .text "Submit")]), (.text "expected", .null), (.text "name", .text "Search")]]),
    (.text "features", .null), (.text "host", .text "http://h")]
  let short : Data := .map [(.text "host", .text "http://h"),
    (.text "pages", .list [.map [(.text "name", .text "Search"),
      (.text "action", .map [(.text "actionType", .text "Submit")])]])]
  have alike : Document.Alike full short := by
    refine .objects ⟨.value rfl, .void ?_ ?_, .value (.lists (.cons (.objects ⟨.value rfl, .void ?_ ?_,
      .value (.objects ⟨.value rfl, .void ?_ ?_, .void ?_ ?_, .void ?_ ?_, .void ?_ ?_⟩)⟩) .nil))⟩ <;>
    simp [Data.lookup]
  have read : ofData short = .ok ⟨"http://h", [], [⟨"Search", .submit [], []⟩]⟩ := by decide +kernel
  exact ⟨full, short, _, alike, by simp [full, short], (ofData_eq_of_alike alike).trans read, read⟩

end Walkthrough
