import Walkthrough.Proofs.Scenario.Parts
import Walkthrough.Proofs.Basic
import Walkthrough.Scenario.Document

/-! Which values a part of a document can have, and what is made of them. Each decoder has a lemma that
says for which values it gives a result and which one. -/

namespace Walkthrough

namespace Checked

variable {α β : Type}

theorem under_eq_ok_iff {step : PathStep} {c : Checked α} {a : α} :
    under step c = .ok a ↔ c = .ok a := by
  unfold under
  split <;> simp

theorem both_eq_ok_iff {a : Checked α} {b : Checked β} {x : α} {y : β} :
    both a b = .ok (x, y) ↔ a = .ok x ∧ b = .ok y := by
  unfold both
  split <;> simp_all

end Checked

namespace Document

open Checked

variable {α : Type} {decode : Data → Checked α} {entries : List (Data × Data)} {key : String}

theorem required_eq_ok_iff {a : α} : required key decode entries = .ok a ↔
    ∃ d, Data.lookup key entries = some d ∧ decode d = .ok a := by
  unfold required
  split
  · next h => simp [h, under, fail]
  · next d h => simp [h, under_eq_ok_iff]

theorem withDefault_eq_ok_iff {default a : α} : withDefault key default decode entries = .ok a ↔
    Data.lookup key entries = none ∧ a = default ∨
      ∃ d, Data.lookup key entries = some d ∧ decode d = .ok a := by
  unfold withDefault
  split
  · next h => simp [h, eq_comm]
  · next d h => simp [h, under_eq_ok_iff]

theorem nullable_eq_ok_iff {empty a : α} {d : Data} : nullable empty decode d = .ok a ↔
    d = .null ∧ a = empty ∨ d ≠ .null ∧ decode d = .ok a := by
  unfold nullable
  split
  · simp [eq_comm]
  · next h => exact ⟨fun hd => .inr ⟨h, hd⟩, fun hd => hd.elim (fun hn => absurd hn.1 h) And.right⟩

theorem optional_eq_ok_iff {a : Option α} {d : Data} : optional decode d = .ok a ↔
    d = .null ∧ a = none ∨ d ≠ .null ∧ ∃ b, decode d = .ok b ∧ a = some b := by
  unfold optional
  split
  · simp [eq_comm]
  · next h =>
    rw [Except.map_eq_ok_iff]
    constructor
    · rintro ⟨b, hb, rfl⟩
      exact .inr ⟨h, b, hb, rfl⟩
    · rintro (⟨hn, -⟩ | ⟨-, b, hb, rfl⟩)
      · exact absurd hn h
      · exact ⟨b, hb, rfl⟩

theorem object_eq_ok_iff {type : String} {d : Data} :
    object type d = .ok entries ↔ d = .map entries := by
  unfold object
  split
  · simp
  · next h => exact ⟨nofun, fun hd => absurd hd (h entries)⟩

theorem visibleText_eq_ok_iff {what s : String} {d : Data} : visibleText what d = .ok s ↔
    text d = .ok s ∧ Text.isWhole s = true ∧ Text.isBlankText s = false := by
  rw [visibleText, Except.bind_eq_ok_iff]
  constructor
  · rintro ⟨t, ht, h⟩
    split at h
    · cases h
    split at h
    · cases h
    split at h
    · cases h
    · next hw _ hb =>
      cases h
      refine ⟨ht, ?_, Bool.eq_false_iff.mpr hb⟩
      simpa using hw
  · rintro ⟨ht, hw, hb⟩
    have he : s.isEmpty = false := by
      rw [Bool.eq_false_iff]
      intro he
      rw [String.isEmpty_iff.mp he] at hb
      cases hb
    refine ⟨s, ht, ?_⟩
    rw [hw, he, hb]
    rfl

/-! ## Maps and lists -/

theorem entriesOf_eq_ok_iff {es : List (Data × Data)} {fs : List (String × α)} :
    entriesOf decode es = .ok fs ↔
      List.Forall₂ (fun e f => text e.1 = .ok f.1 ∧ decode e.2 = .ok f.2) es fs := by
  induction es generalizing fs with
  | nil =>
    rw [List.forall₂_nil_left_iff]
    exact ⟨fun h => by cases h; rfl, fun h => by rw [h]; rfl⟩
  | cons e es ih =>
    obtain ⟨k, v⟩ := e
    rw [entriesOf, Except.bind_eq_ok_iff, List.forall₂_cons_left_iff]
    constructor
    · rintro ⟨⟨⟨name, a⟩, fs'⟩, h, hf⟩
      obtain ⟨he, hes⟩ := both_eq_ok_iff.mp h
      obtain ⟨hk, hv⟩ := both_eq_ok_iff.mp he
      cases hf
      rw [under_eq_ok_iff, under_eq_ok_iff] at hk
      exact ⟨_, _, ⟨hk, under_eq_ok_iff.mp hv⟩, ih.mp hes, rfl⟩
    · rintro ⟨f, fs', ⟨hk, hv⟩, hes, rfl⟩
      refine ⟨(f, fs'), both_eq_ok_iff.mpr ⟨both_eq_ok_iff.mpr ⟨?_, ?_⟩, ih.mpr hes⟩, rfl⟩
      · rwa [under_eq_ok_iff, under_eq_ok_iff]
      · rwa [under_eq_ok_iff]

theorem mapOf_eq_ok_iff {d : Data} {fs : List (String × α)} : mapOf decode d = .ok fs ↔
    ∃ es gs, d = .map es ∧ fs = Assoc.ofPairs gs ∧
      List.Forall₂ (fun e f => text e.1 = .ok f.1 ∧ decode e.2 = .ok f.2) es gs := by
  unfold mapOf
  split
  · next es =>
    rw [Except.map_eq_ok_iff]
    constructor
    · rintro ⟨gs, hg, rfl⟩
      exact ⟨es, gs, rfl, rfl, entriesOf_eq_ok_iff.mp hg⟩
    · rintro ⟨_, gs, ⟨⟩, rfl, hg⟩
      exact ⟨gs, entriesOf_eq_ok_iff.mpr hg, rfl⟩
  · next h =>
    refine ⟨nofun, ?_⟩
    rintro ⟨es, -, rfl, -⟩
    exact absurd rfl (h es)

theorem itemsFrom_eq_ok_iff {n : Nat} {ds : List Data} {items : List α} :
    itemsFrom decode n ds = .ok items ↔ List.Forall₂ (fun d a => decode d = .ok a) ds items := by
  induction ds generalizing n items with
  | nil =>
    rw [List.forall₂_nil_left_iff]
    exact ⟨fun h => by cases h; rfl, fun h => by rw [h]; rfl⟩
  | cons d ds ih =>
    rw [itemsFrom, Except.bind_eq_ok_iff, List.forall₂_cons_left_iff]
    constructor
    · rintro ⟨⟨a, items'⟩, h, hi⟩
      obtain ⟨hd, hds⟩ := both_eq_ok_iff.mp h
      cases hi
      exact ⟨a, items', under_eq_ok_iff.mp hd, ih.mp hds, rfl⟩
    · rintro ⟨a, items', hd, hds, rfl⟩
      exact ⟨(a, items'), both_eq_ok_iff.mpr ⟨under_eq_ok_iff.mpr hd, ih.mpr hds⟩, rfl⟩

theorem listOf_eq_ok_iff {d : Data} {items : List α} : listOf decode d = .ok items ↔
    ∃ ds, (d = .list ds ∨ d = .group ds) ∧ List.Forall₂ (fun d a => decode d = .ok a) ds items := by
  unfold listOf
  split
  · next ds => simp [itemsFrom_eq_ok_iff]
  · next ds => simp [itemsFrom_eq_ok_iff]
  · next h h' =>
    refine ⟨nofun, ?_⟩
    rintro ⟨ds, rfl | rfl, -⟩
    · exact absurd rfl (h ds)
    · exact absurd rfl (h' ds)

theorem nodup_of_mapOf {d : Data} {fs : List (String × α)} (h : mapOf decode d = .ok fs) :
    (Assoc.keys fs).Nodup := by
  obtain ⟨es, gs, -, rfl, -⟩ := mapOf_eq_ok_iff.mp h
  exact Assoc.nodup_keys_ofPairs gs

/-- A map with the keys of `fs`, no two of them the same, is decoded entry by entry. -/
theorem mapOf_map {β : Type} {f : β → Data} {g : β → α} {fs : List (String × β)}
    (once : (Assoc.keys fs).Nodup) (h : ∀ e ∈ fs, decode (f e.2) = .ok (g e.2)) :
    mapOf decode (.map (fs.map fun e => (.text e.1, f e.2))) = .ok (fs.map fun e => (e.1, g e.2)) := by
  rw [mapOf_eq_ok_iff]
  refine ⟨_, fs.map fun e => (e.1, g e.2), rfl, ?_, ?_⟩
  · refine (Assoc.ofPairs_of_nodup ?_).symm
    rw [Assoc.keys, List.map_map]
    exact once
  · rw [List.forall₂_map_left_iff, List.forall₂_map_right_iff, List.forall₂_same]
    exact fun e he => ⟨rfl, h e he⟩

theorem listOf_map {β : Type} {f : β → Data} {g : β → α} {bs : List β}
    (h : ∀ b ∈ bs, decode (f b) = .ok (g b)) : listOf decode (.list (bs.map f)) = .ok (bs.map g) := by
  rw [listOf_eq_ok_iff]
  refine ⟨_, .inl rfl, ?_⟩
  rw [List.forall₂_map_left_iff, List.forall₂_map_right_iff, List.forall₂_same]
  exact h

/-! ## The parts of the form -/

theorem context_eq_ok_iff {d : Data} {c : List (String × String)} : context d = .ok c ↔
    nullable [] texts d = .ok c ∧ ∀ k ∈ Assoc.keys c, k ∉ reservedKeys := by
  rw [context, Except.bind_eq_ok_iff]
  constructor
  · rintro ⟨es, hes, h⟩
    split at h
    · next hr =>
      cases h
      exact ⟨hes, filter_reservedKeys_eq_nil_iff.mp hr⟩
    · cases h
  · rintro ⟨hes, h⟩
    refine ⟨c, hes, ?_⟩
    rw [filter_reservedKeys_eq_nil_iff.mpr h]
    rfl

theorem feature_eq_ok_iff {d : Data} {f : FeatureEntry} : feature d = .ok f ↔
    ∃ es, d = .map es ∧ required "enable" truth es = .ok f.enabled ∧
      withDefault "context" [] context es = .ok f.context := by
  rw [feature, Except.bind_eq_ok_iff]
  constructor
  · rintro ⟨es, hd, h⟩
    obtain ⟨⟨enabled, context⟩, hb, hf⟩ := Except.bind_eq_ok_iff.mp h
    cases hf
    exact ⟨es, object_eq_ok_iff.mp hd, both_eq_ok_iff.mp hb⟩
  · rintro ⟨es, hd, h⟩
    exact ⟨es, object_eq_ok_iff.mpr hd, Except.bind_eq_ok_iff.mpr ⟨_, both_eq_ok_iff.mpr h, rfl⟩⟩

theorem expected_eq_ok_iff {d : Data} {e : ExpectedEntry} : expected d = .ok e ↔
    ∃ es, d = .map es ∧ required "target" (visibleText "target") es = .ok e.target ∧
      required "value" text es = .ok e.value := by
  rw [expected, Except.bind_eq_ok_iff]
  constructor
  · rintro ⟨es, hd, h⟩
    obtain ⟨⟨target, value⟩, hb, hf⟩ := Except.bind_eq_ok_iff.mp h
    cases hf
    exact ⟨es, object_eq_ok_iff.mp hd, both_eq_ok_iff.mp hb⟩
  · rintro ⟨es, hd, h⟩
    exact ⟨es, object_eq_ok_iff.mpr hd, Except.bind_eq_ok_iff.mpr ⟨_, both_eq_ok_iff.mpr h, rfl⟩⟩

theorem action_eq_ok_iff {d : Data} {a : ActionEntry} : action d = .ok a ↔
    ∃ es, d = .map es ∧ required "actionType" text es = .ok a.type ∧
      withDefault "target" none (optional text) es = .ok a.target ∧
      withDefault "targetField" none (optional text) es = .ok a.targetField ∧
      withDefault "value" none (optional text) es = .ok a.value ∧
      withDefault "fields" none (optional texts) es = .ok a.fields := by
  rw [action, Except.bind_eq_ok_iff]
  constructor
  · rintro ⟨es, hd, h⟩
    obtain ⟨⟨type, target, targetField, value, fields⟩, hb, hf⟩ := Except.bind_eq_ok_iff.mp h
    cases hf
    refine ⟨es, object_eq_ok_iff.mp hd, ?_⟩
    simpa only [both_eq_ok_iff] using hb
  · rintro ⟨es, hd, h⟩
    refine ⟨es, object_eq_ok_iff.mpr hd, Except.bind_eq_ok_iff.mpr
      ⟨(a.type, a.target, a.targetField, a.value, a.fields), ?_, rfl⟩⟩
    simpa only [both_eq_ok_iff] using h

theorem page_eq_ok_iff {d : Data} {p : PageEntry} : page d = .ok p ↔
    ∃ es, d = .map es ∧ required "name" (visibleText "page name") es = .ok p.name ∧
      withDefault "expected" [] (nullable [] (listOf expected)) es = .ok p.expected ∧
      required "action" action es = .ok p.action := by
  rw [page, Except.bind_eq_ok_iff]
  constructor
  · rintro ⟨es, hd, h⟩
    obtain ⟨⟨name, expected, action⟩, hb, hf⟩ := Except.bind_eq_ok_iff.mp h
    cases hf
    refine ⟨es, object_eq_ok_iff.mp hd, ?_⟩
    simpa only [both_eq_ok_iff] using hb
  · rintro ⟨es, hd, h⟩
    refine ⟨es, object_eq_ok_iff.mpr hd, Except.bind_eq_ok_iff.mpr
      ⟨(p.name, p.expected, p.action), ?_, rfl⟩⟩
    simpa only [both_eq_ok_iff] using h

theorem ofEntries_eq_ok_iff {es : List (Data × Data)} {doc : Document} : ofEntries es = .ok doc ↔
    required "host" (visibleText "host") es = .ok doc.host ∧
      withDefault "features" [] (nullable [] (mapOf feature)) es = .ok doc.features ∧
      withDefault "pages" [] (nullable [] (listOf page)) es = .ok doc.pages := by
  rw [ofEntries, Except.bind_eq_ok_iff]
  constructor
  · rintro ⟨⟨host, features, pages⟩, hb, hf⟩
    cases hf
    simpa only [both_eq_ok_iff] using hb
  · intro h
    refine ⟨(doc.host, doc.features, doc.pages), ?_, rfl⟩
    simpa only [both_eq_ok_iff] using h

end Document

end Walkthrough
